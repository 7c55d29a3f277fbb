import ClusterSurvey.Json.Basic
import ClusterSurvey.Text.Decimal
import ClusterSurvey.Text.Magnitude
import ClusterSurvey.Text.Reader
import ClusterSurvey.Text.Utf8

/-! Reading JSON from bytes. Outside of strings all is ASCII, and unescaped controls, leading
zeros and anything after the value are refused. A part that keeps this grammar but has no value is
read as a broken one, so that whoever asks for other parts is not disturbed; the bytes of a string
are looked at only once the string is complete. -/
namespace ClusterSurvey.Json

open Text (encodeChar hexValue overflows)

abbrev ByteReader (α : Type) := List UInt8 → Option (α × List UInt8)

def ascii (c : Char) : UInt8 := UInt8.ofNat c.toNat

def charOf (b : UInt8) : Char := Char.ofNat b.toNat

def skipBlank (bs : List UInt8) : List UInt8 :=
  bs.dropWhile fun b => b = ascii ' ' || b = ascii '\t' || b = ascii '\n' || b = ascii '\r'

def afterMark? (mark : Char) (bs : List UInt8) : Option (List UInt8) :=
  match skipBlank bs with
  | b :: rest => if b = ascii mark then some rest else none
  | [] => none

def shortEscape (c : Char) : Option Char :=
  if c = '"' ∨ c = '\\' ∨ c = '/' then some c
  else if c = 'b' then some '\x08'
  else if c = 'f' then some '\x0c'
  else if c = 'n' then some '\n'
  else if c = 'r' then some '\r'
  else if c = 't' then some '\t'
  else none

def isHighSurrogate (n : Nat) : Bool := 0xD800 ≤ n && n ≤ 0xDBFF

def isLowSurrogate (n : Nat) : Bool := 0xDC00 ≤ n && n ≤ 0xDFFF

structure PartialText where
  /-- The bytes so far, in reverse. -/
  bytes : List UInt8
  /-- A high surrogate that waits for its other half. -/
  high : Option Nat
  isWhole : Bool

namespace PartialText

def empty : PartialText := ⟨[], none, true⟩

def push (t : PartialText) (bytes : List UInt8) : PartialText :=
  ⟨bytes.reverse ++ t.bytes, none, t.isWhole && t.high.isNone⟩

def pushUnit (t : PartialText) (n : Nat) : PartialText :=
  match t.high with
  | some h =>
    if isLowSurrogate n then
      let c := Char.ofNat (0x10000 + (h - 0xD800) * 0x400 + (n - 0xDC00))
      ⟨(encodeChar c).reverse ++ t.bytes, none, t.isWhole⟩
    else ⟨t.bytes, if isHighSurrogate n then some n else none, false⟩
  | none =>
    if isHighSurrogate n then { t with high := some n }
    else if isLowSurrogate n then { t with isWhole := false }
    else t.push (encodeChar (Char.ofNat n))

def toString? (t : PartialText) : Option String :=
  if t.isWhole && t.high.isNone then String.fromUTF8? ⟨t.bytes.reverse.toArray⟩ else none

end PartialText

/-- The rest of a string behind what was read of it; nothing in place of a string that is no
text. -/
def readString (read : PartialText) : ByteReader (Option String)
  | [] => none
  | b :: rest =>
    if b = ascii '"' then some (read.toString?, rest)
    else if b = ascii '\\' then
      match rest with
      | [] => none
      | e :: rest =>
        if e = ascii 'u' then
          match rest with
          | p :: q :: r :: s :: rest =>
            match hexValue ([p, q, r, s].map charOf) with
            | some n => readString (read.pushUnit n) rest
            | none => none
          | _ => none
        else
          match shortEscape (charOf e) with
          | some c => readString (read.push [ascii c]) rest
          | none => none
    else if b < 0x20 then none
    else readString (read.push [b]) rest

def isDigit (b : UInt8) : Bool := (charOf b).isDigit

def readDigits (bs : List UInt8) : List Char × List UInt8 :=
  ((bs.takeWhile isDigit).map charOf, bs.dropWhile isDigit)

/-- The digits of the fraction of a number, or none; a point needs a digit after it. -/
def readFraction (bs : List UInt8) : Option (List Char × List UInt8) :=
  match bs with
  | b :: rest =>
    if b = ascii '.' then
      match readDigits rest with
      | ([], _) => none
      | found => some found
    else some ([], bs)
  | [] => some ([], [])

def readExponent (bs : List UInt8) : Option (Option (Bool × List Char) × List UInt8) :=
  match bs with
  | b :: rest =>
    if b = ascii 'e' ∨ b = ascii 'E' then
      let sign := rest.head?.filter fun s => s = ascii '+' || s = ascii '-'
      match readDigits (rest.drop sign.toList.length) with
      | ([], _) => none
      | (ds, rest) => some (some (sign = some (ascii '-'), ds), rest)
    else some (none, bs)
  | [] => some (none, [])

def digitsValue (ds : List Char) : Nat := (Text.digits ds).getD 0

structure NumberText where
  negative : Bool
  whole : List Char
  fraction : List Char
  exponent : Option (Bool × List Char)

namespace NumberText

def text (t : NumberText) : String :=
  String.ofList ((if t.negative then ['-'] else []) ++ t.whole ++
    (if t.fraction.isEmpty then [] else '.' :: t.fraction) ++
    match t.exponent with
    | none => []
    | some (negative, ds) => 'e' :: (if negative then ['-'] else []) ++ ds)

def power (t : NumberText) : Int :=
  match t.exponent with
  | none => -t.fraction.length
  | some (negative, ds) =>
    (if negative then -(digitsValue ds : Int) else digitsValue ds) - t.fraction.length

/-- The value: a number that is written whole and has 64 bits is an integer, but for a negative
zero. -/
def value (t : NumberText) : Json :=
  let n := digitsValue t.whole
  let isWhole := t.fraction.isEmpty && t.exponent.isNone
  if isWhole && !t.negative && n < UInt64.size then .int n
  else if isWhole && t.negative && 0 < n && n ≤ 0x8000000000000000 then .int (-(n : Int))
  else if overflows (digitsValue (t.whole ++ t.fraction)) t.power then .broken
  else .real t.text

end NumberText

def readMinus (bs : List UInt8) : Bool × List UInt8 :=
  match bs with
  | b :: rest => if b = ascii '-' then (true, rest) else (false, bs)
  | [] => (false, [])

def readNumber (bs : List UInt8) : Option (Json × List UInt8) :=
  let (negative, rest) := readMinus bs
  match readDigits rest with
  | ([], _) => none
  | ('0' :: _ :: _, _) => none
  | (whole, rest) => do
    let (fraction, rest) ← readFraction rest
    let (exponent, rest) ← readExponent rest
    some (NumberText.value ⟨negative, whole, fraction, exponent⟩, rest)

def literals : List (String × Json) :=
  [("null", .null), ("true", .bool true), ("false", .bool false)]

def readLiteral (bs : List UInt8) : Option (Json × List UInt8) :=
  literals.findSome? fun l =>
    let word := l.1.toList.map ascii
    if word.isPrefixOf bs then some (l.2, bs.drop word.length) else none

/-- A string as a value. -/
def ofText : Option String → Json
  | some s => .str s
  | none => .broken

def ofEntries (entries : List (Option String × Json)) : Json :=
  match entries.mapM fun e => e.1.map fun key => (key, e.2) with
  | some fields => .obj fields
  | none => .broken

mutual

/-- A value. `fuel` bounds the steps. -/
def readValue (fuel : Nat) (bs : List UInt8) : Option (Json × List UInt8) :=
  match fuel with
  | 0 => none
  | fuel + 1 =>
    match skipBlank bs with
    | [] => none
    | b :: rest =>
      if b = ascii '"' then (readString .empty rest).map fun (s, rest) => (ofText s, rest)
      else if b = ascii '[' then
        match afterMark? ']' rest with
        | some rest => some (.arr [], rest)
        | none => (readItems fuel rest).map fun (l, rest) => (.arr l, rest)
      else if b = ascii '\x7b' then
        match afterMark? '\x7d' rest with
        | some rest => some (.obj [], rest)
        | none => (readFields fuel rest).map fun (l, rest) => (ofEntries l, rest)
      else (readLiteral (b :: rest)).orElse fun _ => readNumber (b :: rest)

def readItems (fuel : Nat) (bs : List UInt8) : Option (List Json × List UInt8) :=
  match fuel with
  | 0 => none
  | fuel + 1 => do
    let (j, rest) ← readValue fuel bs
    match afterMark? ',' rest with
    | some rest => (readItems fuel rest).map fun (l, rest) => (j :: l, rest)
    | none => (afterMark? ']' rest).map fun rest => ([j], rest)

def readFields (fuel : Nat) (bs : List UInt8) :
    Option (List (Option String × Json) × List UInt8) :=
  match fuel with
  | 0 => none
  | fuel + 1 => do
    let (key, rest) ← readString .empty (← afterMark? '"' bs)
    let (j, rest) ← readValue fuel (← afterMark? ':' rest)
    match afterMark? ',' rest with
    | some rest => (readFields fuel rest).map fun (l, rest) => ((key, j) :: l, rest)
    | none => (afterMark? '\x7d' rest).map fun rest => ([(key, j)], rest)

end

def ofBytes? (bytes : List UInt8) : Option Json :=
  match readValue (bytes.length + 1) bytes with
  | some (j, rest) => if (skipBlank rest).isEmpty then some j else none
  | none => none

def ofText? (text : String) : Option Json := ofBytes? text.toUTF8.toList

def parse? (text : String) : Option Json := (ofText? text).filter (·.isSound depthLimit)

end ClusterSurvey.Json
