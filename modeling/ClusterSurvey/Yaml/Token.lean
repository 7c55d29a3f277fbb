import ClusterSurvey.Text.Decimal
import ClusterSurvey.Text.Utf8
import ClusterSurvey.Yaml.Scalar

/-! The tokens of a YAML text: the marks of its structure, which may stand in the text or follow
from its indents, and what is written between them. -/
namespace ClusterSurvey.Yaml

/-- A tag as it is written. A tag written out in full has the empty handle. -/
structure WrittenTag where
  handle : String
  suffix : String
  deriving DecidableEq, Repr

inductive Token where
  | version (major minor : Nat)
  | tagHandle (name start : String)
  | documentStart
  | documentEnd
  | blockSeqStart
  | blockMapStart
  | blockEnd
  | flowSeqStart
  | flowSeqEnd
  | flowMapStart
  | flowMapEnd
  | item
  | comma
  | key
  | value
  | alias (name : String)
  | anchor (name : String)
  | tag (written : WrittenTag)
  | scalar (text : String) (isPlain : Bool)
  deriving DecidableEq, Repr

namespace Token

def readName (cs : List Char) : String × List Char :=
  (String.ofList (cs.takeWhile isNameChar), cs.dropWhile isNameChar)

def anchorEnds : List Char := "?:,]\x7d%@\x60".toList

def readAnchor? (cs : List Char) : Option (String × List Char) :=
  let (name, rest) := readName cs
  if !name.isEmpty && (atGap rest || rest.head?.any anchorEnds.contains) then some (name, rest)
  else none

def isTagChar (c : Char) : Bool := isNameChar c || ";/?:@&=+$.%!~*'()".toList.contains c

/-- How many bytes the encoding of a character has, by the first. -/
def byteCount? (lead : Nat) : Option Nat :=
  if lead < 0x80 then some 1
  else if 0xC0 ≤ lead && lead < 0xE0 then some 2
  else if 0xE0 ≤ lead && lead < 0xF0 then some 3
  else if 0xF0 ≤ lead && lead < 0xF8 then some 4
  else none

def readContinuation? : Nat → List Char → Option (List UInt8 × List Char)
  | 0, cs => some ([], cs)
  | n + 1, '%' :: a :: b :: rest => do
    let byte ← Text.hexValue [a, b]
    guard (0x80 ≤ byte && byte < 0xC0)
    let (bytes, rest) ← readContinuation? n rest
    return (byte.toUInt8 :: bytes, rest)
  | _ + 1, _ => none

def readEscaped? : List Char → Option (List Char × List Char)
  | '%' :: a :: b :: rest => do
    let lead ← Text.hexValue [a, b]
    let (bytes, rest) ← readContinuation? ((← byteCount? lead) - 1) rest
    return ((Text.decodeUtf8 (lead.toUInt8 :: bytes)).toList, rest)
  | _ => none

/-- The rest of a tag, behind what was read of it. Brackets and commas count only where the tag
stands apart. `fuel` bounds the characters. -/
def readTagText? (fuel : Nat) (isApart : Bool) (read : List Char) (cs : List Char) :
    Option (String × List Char) :=
  match fuel with
  | 0 => none
  | fuel + 1 =>
    match cs with
    | '%' :: _ =>
      match readEscaped? cs with
      | some (decoded, rest) => readTagText? fuel isApart (decoded.reverse ++ read) rest
      | none => none
    | c :: rest =>
      if isTagChar c || (isApart && (c = ',' || c = '[' || c = ']')) then
        readTagText? fuel isApart (c :: read) rest
      else some (String.ofList read.reverse, cs)
    | [] => some (String.ofList read.reverse, [])

def readTagPart? (isApart : Bool) (cs : List Char) : Option (String × List Char) := do
  let (text, rest) ← readTagText? (cs.length + 1) isApart [] cs
  if rest.length = cs.length then none else some (text, rest)

/-- A tag behind its mark. With a handle of its own a tag has two marks. One mark alone is a tag
written out in full. -/
def readTag? (cs : List Char) : Option (WrittenTag × List Char) :=
  match cs with
  | '<' :: rest => do
    let (suffix, rest) ← readTagPart? true rest
    match rest with
    | '>' :: rest => some (⟨"", suffix⟩, rest)
    | _ => none
  | _ => do
    let (name, rest) := readName cs
    match rest with
    | '!' :: rest =>
      let (suffix, rest) ← readTagPart? false rest
      return (⟨"!" ++ name ++ "!", suffix⟩, rest)
    | _ =>
      let (suffix, rest) ← readTagText? (rest.length + 1) false name.toList.reverse rest
      return (if suffix.isEmpty then ⟨"", "!"⟩ else ⟨"!", suffix⟩, rest)

def versionDigits : Nat := 9

def readVersionNumber? (cs : List Char) : Option (Nat × List Char) := do
  let digits := cs.takeWhile Char.isDigit
  guard (digits.length ≤ versionDigits)
  return (← Text.digits digits, cs.drop digits.length)

def readVersion? (cs : List Char) : Option (Token × List Char) := do
  let (major, rest) ← readVersionNumber? (cs.dropWhile isBlank)
  match rest with
  | '.' :: rest =>
    let (minor, rest) ← readVersionNumber? rest
    return (.version major minor, rest)
  | _ => none

def readHandle? (cs : List Char) : Option (Token × List Char) := do
  match cs.dropWhile isBlank with
  | '!' :: rest =>
    let (name, rest) := readName rest
    let (handle, rest) ←
      match rest with
      | '!' :: rest => some ("!" ++ name ++ "!", rest)
      | _ => if name.isEmpty then some ("!", rest) else none
    guard (rest.head?.any isBlank)
    let (start, rest) ← readTagPart? true (rest.dropWhile isBlank)
    guard (atGap rest)
    return (.tagHandle handle start, rest)
  | _ => none

def readDirective? (cs : List Char) : Option (Token × List Char) := do
  let (name, rest) := readName cs
  guard (atGap rest)
  let (token, rest) ←
    if name = "YAML" then readVersion? rest
    else if name = "TAG" then readHandle? rest
    else none
  return (token, ← endLine? rest)

end Token

end ClusterSurvey.Yaml
