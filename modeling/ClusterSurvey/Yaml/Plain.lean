import ClusterSurvey.Text.Decimal
import ClusterSurvey.Text.Magnitude
import ClusterSurvey.Text.Reader
import ClusterSurvey.Yaml.Basic

/-! What scalars stand for that are not quoted: nothing, a truth value, a number, or else their
text. -/
namespace ClusterSurvey.Yaml

def isNullText (s : String) : Bool := ["null", "Null", "NULL", "~"].contains s

def readBool? (s : String) : Option Bool :=
  if ["true", "True", "TRUE"].contains s then some true
  else if ["false", "False", "FALSE"].contains s then some false
  else none

def withoutSign : List Char → List Char
  | '-' :: rest | '+' :: rest => rest
  | cs => cs

/-- Whether a text is made of digits, but begins with a zero to no purpose. -/
def hasIdleZero (cs : List Char) : Bool :=
  match withoutSign cs with
  | '0' :: c :: rest => (c :: rest).all Char.isDigit
  | _ => false

def readMagnitude? (cs : List Char) : Option Nat :=
  match cs with
  | '0' :: 'x' :: c :: rest => Text.radixValue 16 (c :: rest)
  | '0' :: 'o' :: c :: rest => Text.radixValue 8 (c :: rest)
  | '0' :: 'b' :: c :: rest => Text.radixValue 2 (c :: rest)
  | _ => Text.digits cs

def readWhole? (cs : List Char) : Option Int :=
  if hasIdleZero cs then none
  else
    match cs with
    | '-' :: rest => (readMagnitude? rest).map fun n => -(n : Int)
    | _ => (readMagnitude? (if cs.head? = some '+' then cs.drop 1 else cs)).map Int.ofNat

/-- A number in the normal form of its kind: no zero ends the digits. -/
def Fractional.ofDigits (isNegative : Bool) (digits : List Char) (power : Int) : Fractional :=
  let kept := (digits.reverse.dropWhile (· = '0')).reverse
  match (Text.digits kept).getD 0 with
  | 0 => .finite 0 0
  | n => .finite (if isNegative then -n else n) (power + (digits.length - kept.length))

/-- The power that an exponent states; zero if there is none. -/
def readPower? (cs : List Char) : Option Int :=
  match cs with
  | [] => some 0
  | mark :: rest =>
    if mark = 'e' || mark = 'E' then
      match rest with
      | '-' :: ds => (Text.digits ds).map fun n => -(n : Int)
      | '+' :: ds => (Text.digits ds).map Int.ofNat
      | ds => (Text.digits ds).map Int.ofNat
    else none

/-- A decimal number, if it can be held. There have to be digits before or behind the point. -/
def readDecimal? (isNegative : Bool) (cs : List Char) : Option Fractional := do
  let whole := cs.takeWhile Char.isDigit
  let behind := cs.drop whole.length
  let fraction :=
    match behind with
    | '.' :: rest => rest.takeWhile Char.isDigit
    | _ => []
  let power ← readPower? (if behind.head? = some '.' then behind.drop (fraction.length + 1)
    else behind)
  let digits ← Text.digits (whole ++ fraction)
  let power := power - fraction.length
  if Text.overflows digits power then none
  else some (Fractional.ofDigits isNegative (whole ++ fraction) power)

def infinityTexts : List String := [".inf", ".Inf", ".INF"]

def notANumberTexts : List String := [".nan", ".NaN", ".NAN"]

def readFractional? (s : String) : Option Fractional :=
  if notANumberTexts.contains s then some .notANumber
  else
    match s.toList with
    | '-' :: rest =>
      if infinityTexts.contains (String.ofList rest) then some (.infinite true)
      else readDecimal? true rest
    | cs =>
      let rest := if cs.head? = some '+' then cs.drop 1 else cs
      if infinityTexts.contains (String.ofList rest) then some (.infinite false)
      else readDecimal? false rest

def isWord (n : Int) : Bool := -0x8000000000000000 ≤ n && n < 0x10000000000000000

def isDoubleWord (n : Int) : Bool :=
  -0x80000000000000000000000000000000 ≤ n && n < 0x100000000000000000000000000000000

/-- What a plain scalar stands for. A whole number that needs more than 64 bits is no value, unless
it is too large to be taken for one. -/
def ofPlain? (s : String) : Option Yaml :=
  let large : Yaml :=
    if hasIdleZero s.toList then .str s else (readFractional? s).elim (.str s) .real
  if s.isEmpty || isNullText s then some .null
  else
    match readBool? s, readWhole? s.toList with
    | some b, _ => some (.bool b)
    | none, some n =>
      if isWord n then some (.int n) else if isDoubleWord n then none else some large
    | none, none => some large

def coreTag : String := "tag:yaml.org,2002:"

/-- What a scalar with a tag in full stands for. Most tags leave the text as it is. -/
def ofTagged? (tag s : String) : Option Yaml :=
  if tag = coreTag ++ "bool" then (readBool? s).map .bool
  else if tag = coreTag ++ "int" then ((readWhole? s.toList).filter isWord).map .int
  else if tag = coreTag ++ "float" then (readFractional? s).map .real
  else if tag = coreTag ++ "null" then if isNullText s then some .null else none
  else some (.str s)

end ClusterSurvey.Yaml
