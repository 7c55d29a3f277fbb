import ClusterSurvey.Text.Reader
import ClusterSurvey.Yaml.Cursor

/-! The texts of scalars. Within plain and quoted ones the blanks around a line break do not
count: a single break is a space, and of several the first is dropped. A block scalar keeps its
lines below an indent, as they are or joined in the same way. -/
namespace ClusterSurvey.Yaml

open Text (hexValue)

inductive Gap where
  | blanks (read : List Char)
  /-- A first line break, if it counts, and more of them, in reverse. -/
  | breaks (first : Option Char) (more : List Char)

namespace Gap

def none : Gap := blanks []

def isNone : Gap → Bool
  | blanks [] => true
  | _ => false

def hasBreak : Gap → Bool
  | blanks _ => false
  | breaks .. => true

def addBlank (c : Char) : Gap → Gap
  | blanks read => blanks (c :: read)
  | g => g

def addBreak (c : Char) : Gap → Gap
  | blanks _ => breaks (some c) []
  | breaks first more => breaks first (c :: more)

/-- The text of line breaks: one line feed alone is a space, and before others it is nothing. -/
def folded (first : Option Char) (more : List Char) : List Char :=
  match first with
  | some '\n' => if more.isEmpty then [' '] else more.reverse
  | _ => first.toList ++ more.reverse

def text : Gap → List Char
  | blanks read => read.reverse
  | breaks first more => folded first more

def closeOnto (g : Gap) (read : List Char) : List Char := g.text.reverse ++ read

end Gap

def isFlowIndicator (c : Char) : Bool :=
  c = ',' || c = '[' || c = ']' || c = '\x7b' || c = '\x7d'

/-- The end of a plain scalar: its text, whether a line break follows it, and the rest. -/
def endPlain (read : List Char) (gap : Gap) (rest : List Char) :
    Option (String × Bool × List Char) :=
  some (String.ofList read.reverse, gap.hasBreak, rest)

/-- The rest of a plain scalar, behind the text and the gap that were read of it. It needs an
indent of `indent`, and ends at a boundary, at a comment, or where a value or another part of a
flow collection begins. -/
def readPlain (inFlow : Bool) (indent column : Nat) (read : List Char) (gap : Gap) :
    List Char → Option (String × Bool × List Char)
  | [] => endPlain read gap []
  | c :: rest =>
    if isBlank c then
      if gap.hasBreak && column < indent && c = '\t' then .none
      else readPlain inFlow indent (column + 1) read (gap.addBlank c) rest
    else if c = '\r' && rest.head? = some '\n' then
      readPlain inFlow indent column read gap rest
    else if isBreak c then
      let counted := if c = '\u2028' || c = '\u2029' then c else '\n'
      readPlain inFlow indent 0 read (gap.addBreak counted) rest
    else if !gap.isNone && !inFlow && column < indent then endPlain read gap (c :: rest)
    else if column = 0 && atBoundary (c :: rest) then endPlain read gap (c :: rest)
    else if c = '#' && !gap.isNone then endPlain read gap (c :: rest)
    else if inFlow && c = ':' && rest.head?.any fun d => d = '?' || isFlowIndicator d then .none
    else if (c = ':' && atGap rest) || (inFlow && isFlowIndicator c) then
      endPlain read gap (c :: rest)
    else readPlain inFlow indent (column + 1) (c :: gap.closeOnto read) .none rest

def escapes : List (Char × Char) :=
  [('0', '\x00'), ('a', '\x07'), ('b', '\x08'), ('t', '\t'), ('\t', '\t'), ('n', '\n'),
   ('v', '\x0b'), ('f', '\x0c'), ('r', '\r'), ('e', '\x1b'), (' ', ' '), ('"', '"'), ('/', '/'),
   ('\\', '\\'), ('N', '\x85'), ('_', '\xa0'), ('L', '\u2028'), ('P', '\u2029')]

def codePoint (digits : List Char) : Option Char := (hexValue digits).bind Text.scalar

def readEscape : List Char → Option (Char × List Char)
  | 'x' :: a :: b :: rest => (codePoint [a, b]).map fun c => (c, rest)
  | 'u' :: a :: b :: c :: d :: rest => (codePoint [a, b, c, d]).map fun c => (c, rest)
  | 'U' :: a :: b :: c :: d :: e :: f :: g :: h :: rest =>
    (codePoint [a, b, c, d, e, f, g, h]).map fun c => (c, rest)
  | c :: rest => (List.lookup c escapes).map fun d => (d, rest)
  | [] => none

/-- The rest of a quoted scalar, behind the text and the gap that were read of it. At the start
of a line there may be no boundary. `fuel` bounds the characters. -/
def readQuoted (fuel : Nat) (quote : Char) (atStart : Bool) (read : List Char) (gap : Gap)
    (cs : List Char) : Option (String × List Char) :=
  match fuel with
  | 0 => .none
  | fuel + 1 =>
    if atStart && atBoundary cs then .none
    else
      match takeBreak? cs with
      | some (c, rest) => readQuoted fuel quote true read (gap.addBreak c) rest
      | .none =>
        match cs with
        | [] => .none
        | c :: rest =>
          if isBlank c then readQuoted fuel quote false read (gap.addBlank c) rest
          else
            let read := gap.closeOnto read
            if c = quote then
              if quote = '\'' && rest.head? = some quote then
                readQuoted fuel quote false (c :: read) .none (rest.drop 1)
              else some (String.ofList read.reverse, rest)
            else if c = '\\' && quote = '"' then
              match takeBreak? rest with
              | some (_, rest) => readQuoted fuel quote true read (.breaks .none []) rest
              | .none =>
                match readEscape rest with
                | some (d, rest) => readQuoted fuel quote false (d :: read) .none rest
                | .none => .none
            else readQuoted fuel quote false (c :: read) .none rest

inductive Chomping where
  | strip
  | clip
  | keep
  deriving DecidableEq, Repr

def readChomping : List Char → Option Chomping × List Char
  | '+' :: rest => (some .keep, rest)
  | '-' :: rest => (some .strip, rest)
  | cs => (none, cs)

/-- The indent that the head of a block scalar states; zero is none. -/
def readIndent? : List Char → Option (Option Nat × List Char)
  | c :: rest =>
    if c = '0' then none
    else if c.isDigit then some (some (c.toNat - '0'.toNat), rest)
    else some (none, c :: rest)
  | [] => some (none, [])

def readBlockHead (cs : List Char) : Option (Chomping × Option Nat × List Char) := do
  let (before, cs) := readChomping cs
  let (indent, cs) ← readIndent? cs
  let (chomping, cs) :=
    match before, indent with
    | none, some _ => readChomping cs
    | _, _ => (before, cs)
  return (chomping.getD .clip, indent, ← endLine? cs)

structure EmptyLines where
  breaks : List Char
  column : Nat
  widest : Nat
  rest : List Char

/-- The empty lines before a text at a column, behind those already read. Spaces are passed over
up to the indent, if it is known; a tab may not stand in their place. -/
def readEmptyLines (fuel : Nat) (indent : Option Nat) (found : EmptyLines) : Option EmptyLines :=
  match fuel with
  | 0 => none
  | fuel + 1 =>
    let isOutside := indent.all fun n => found.column < n
    match found.rest with
    | ' ' :: rest =>
      if isOutside then
        let column := found.column + 1
        readEmptyLines fuel indent { found with column, widest := max found.widest column, rest }
      else some found
    | '\t' :: _ => if isOutside then none else some found
    | cs =>
      match takeBreak? cs with
      | some (c, rest) =>
        readEmptyLines fuel indent { found with breaks := c :: found.breaks, column := 0, rest }
      | none => some found

structure PartialBlock where
  read : List Char
  last : Option Char
  more : List Char
  isIndented : Bool

/-- The text with the break behind its last line put before a line that begins with a blank or
does not. -/
def PartialBlock.joined (b : PartialBlock) (isFolded beginsBlank : Bool) : List Char :=
  if isFolded && b.last = some '\n' && !b.isIndented && !beginsBlank then
    (if b.more.isEmpty then [' '] else b.more) ++ b.read
  else b.more ++ b.last.toList ++ b.read

/-- The lines of a block scalar from a column on, as long as they have its indent. -/
def readBlockLines (fuel : Nat) (isFolded : Bool) (indent : Nat) (b : PartialBlock) (column : Nat)
    (cs : List Char) : Option (PartialBlock × List Char) :=
  match fuel with
  | 0 => none
  | fuel + 1 =>
    match cs with
    | [] => some (b, [])
    | c :: _ =>
      if column = indent then do
        let line := cs.takeWhile fun d => !isBreak d
        let read := line.reverse ++ b.joined isFolded (isBlank c)
        let behind := cs.drop line.length
        let (last, rest) :=
          match takeBreak? behind with
          | some (d, rest) => (some d, rest)
          | none => (none, behind)
        let column := if last.isSome then 0 else column + line.length
        let empty ← readEmptyLines (rest.length + 1) (some indent) ⟨[], column, column, rest⟩
        readBlockLines fuel isFolded indent ⟨read, last, empty.breaks, isBlank c⟩ empty.column
          empty.rest
      else some (b, cs)

def readBlock (isFolded : Bool) (outer : Option Nat) (cs : List Char) :
    Option (String × List Char) := do
  let (chomping, stated, rest) ← readBlockHead cs
  let least := outer.elim 0 (· + 1)
  let known := stated.map fun n => outer.getD 0 + n
  let empty ← readEmptyLines (rest.length + 1) known ⟨[], 0, 0, rest⟩
  let indent := known.getD (max empty.widest (max least 1))
  let (b, rest) ← readBlockLines (rest.length + 1) isFolded indent ⟨[], none, empty.breaks, false⟩
    empty.column empty.rest
  let read := if chomping = .strip then b.read else b.last.toList ++ b.read
  let read := if chomping = .keep then b.more ++ read else read
  return (String.ofList read.reverse, rest)

end ClusterSurvey.Yaml
