import ClusterSurvey.Json.Basic
import ClusterSurvey.Text.Decimal
import ClusterSurvey.Text.Magnitude
import ClusterSurvey.Text.Reader
import ClusterSurvey.Timestamp

/-! Numbers, dates and times of a TOML document. Integers have 64 bits and a sign. -/
namespace ClusterSurvey.Toml

open Text

/-- The rest of a run of digits; a single underscore may stand between two of them. -/
def readMoreDigits (isDigit : Char → Bool) (read : List Char) : Reader (List Char)
  | '_' :: c :: rest => if isDigit c then readMoreDigits isDigit (c :: read) rest else none
  | ['_'] => none
  | c :: rest =>
    if isDigit c then readMoreDigits isDigit (c :: read) rest else some (read.reverse, c :: rest)
  | [] => some (read.reverse, [])

def readRun (isDigit : Char → Bool) : Reader (List Char)
  | c :: rest => if isDigit c then readMoreDigits isDigit [c] rest else none
  | [] => none

/-- A run of decimal digits that begins with a zero only if it is one. -/
def readWhole : Reader (List Char)
  | '0' :: rest => some (['0'], rest)
  | cs => readRun Char.isDigit cs

def integerBound : Nat := 0x8000000000000000

def readRadix (base : Nat) (cs : List Char) : Option (Json × List Char) := do
  let (digits, rest) ← readRun (fun c => (hexDigit c).any (· < base)) cs
  let n ← radixValue base digits
  if n < integerBound then some (.int n, rest) else none

def readSign : List Char → Bool × List Char
  | '-' :: rest => (true, rest)
  | '+' :: rest => (false, rest)
  | cs => (false, cs)

/-- The fraction of a number; no digits if it has none. -/
def readFraction : Reader (List Char)
  | '.' :: rest => readRun Char.isDigit rest
  | cs => some ([], cs)

def readExponent : Reader Int
  | c :: rest =>
    if c = 'e' ∨ c = 'E' then do
      let (negative, rest) := readSign rest
      let (ds, rest) ← readRun Char.isDigit rest
      let n ← digits ds
      some (if negative then -n else n, rest)
    else some (0, c :: rest)
  | [] => some (0, [])

def specialNumbers : List String := ["inf", "nan"]

def readDecimal (negative : Bool) (cs : List Char) : Option (Json × List Char) := do
  let (whole, rest) ← readWhole cs
  let (fraction, afterFraction) ← readFraction rest
  let (exponent, afterExponent) ← readExponent afterFraction
  let n ← digits (whole ++ fraction)
  if afterExponent.length = rest.length then
    if negative then if n ≤ integerBound then some (.int (-(n : Int)), rest) else none
    else if n < integerBound then some (.int n, rest) else none
  else if !negative && overflows n (exponent - fraction.length) then none
  else some (.real (String.ofList (cs.take (cs.length - afterExponent.length))), afterExponent)

def readNumber (cs : List Char) : Option (Json × List Char) :=
  match cs with
  | '0' :: 'x' :: rest => readRadix 16 rest
  | '0' :: 'o' :: rest => readRadix 8 rest
  | '0' :: 'b' :: rest => readRadix 2 rest
  | _ =>
    let (negative, rest) := readSign cs
    match specialNumbers.find? fun s => s.toList.isPrefixOf rest with
    | some s => some (.real s, rest.drop s.length)
    | none => readDecimal negative rest

def readField (count low high : Nat) (cs : List Char) : Option (Nat × List Char) := do
  guard (count ≤ cs.length)
  let n ← digits (cs.take count)
  if low ≤ n ∧ n ≤ high then some (n, cs.drop count) else none

def readMark (mark : Char) : List Char → Option (List Char)
  | c :: rest => if c = mark then some rest else none
  | [] => none

def isLeapYear (year : Nat) : Bool := year % 4 = 0 && (year % 100 ≠ 0 || year % 400 = 0)

def daysInMonth (year month : Nat) : Nat :=
  if month = 2 then if isLeapYear year then 29 else 28
  else if month = 4 ∨ month = 6 ∨ month = 9 ∨ month = 11 then 30
  else 31

def readDate (cs : List Char) : Option (String × List Char) := do
  let (year, cs) ← readField 4 0 9999 cs
  let (month, cs) ← readField 2 1 12 (← readMark '-' cs)
  let (day, cs) ← readField 2 1 (daysInMonth year month) (← readMark '-' cs)
  some (padded 4 year ++ "-" ++ padded 2 month ++ "-" ++ padded 2 day, cs)

/-- The fraction of a second as text: nine digits at most, and none that is a zero at the end. -/
def secondFraction (ds : List Char) : String :=
  match ((ds.take 9).reverse.dropWhile (· = '0')).reverse with
  | [] => ""
  | kept => "." ++ String.ofList kept

def readTime (cs : List Char) : Option (String × List Char) := do
  let (hour, cs) ← readField 2 0 23 cs
  let (minute, cs) ← readField 2 0 59 (← readMark ':' cs)
  let (second, cs) ← readField 2 0 60 (← readMark ':' cs)
  let (fraction, cs) :=
    match cs with
    | '.' :: rest =>
      if (rest.takeWhile Char.isDigit).isEmpty then ("", cs)
      else (secondFraction (rest.takeWhile Char.isDigit), rest.dropWhile Char.isDigit)
    | _ => ("", cs)
  some (padded 2 hour ++ ":" ++ padded 2 minute ++ ":" ++ padded 2 second ++ fraction, cs)

def readOffset (cs : List Char) : Option (String × List Char) :=
  match cs with
  | c :: rest =>
    if c = 'Z' ∨ c = 'z' then some ("Z", rest)
    else if c = '+' ∨ c = '-' then do
      let (hour, rest) ← readField 2 0 23 rest
      let (minute, rest) ← readField 2 0 59 (← readMark ':' rest)
      let sign := if c = '-' ∧ 0 < hour + minute then "-" else "+"
      some (sign ++ padded 2 hour ++ ":" ++ padded 2 minute, rest)
    else some ("", cs)
  | [] => some ("", [])

/-- A moment in time is a table with one entry of this name. -/
def momentKey : String := "$__toml_private_datetime"

def readMoment (cs : List Char) : Option (Json × List Char) :=
  let moment (text : String) : Json := .obj [(momentKey, .str text)]
  match readDate cs with
  | some (date, rest) =>
    let time :=
      match rest with
      | c :: rest => if c = 'T' ∨ c = 't' ∨ c = ' ' then readTime rest else none
      | [] => none
    match time with
    | some (time, rest) =>
      (readOffset rest).map fun (offset, rest) => (moment (date ++ "T" ++ time ++ offset), rest)
    | none => some (moment date, rest)
  | none => (readTime cs).map fun (time, rest) => (moment time, rest)

end ClusterSurvey.Toml
