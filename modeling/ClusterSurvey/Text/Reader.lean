/-! Readers, and the digits and code points that they meet in quoted text. -/
namespace ClusterSurvey.Text

/-- A reader takes something off the front of a text and gives back the rest. -/
abbrev Reader (α : Type) := List Char → Option (α × List Char)

def hexDigit (c : Char) : Option Nat :=
  if '0' ≤ c ∧ c ≤ '9' then some (c.toNat - '0'.toNat)
  else if 'a' ≤ c ∧ c ≤ 'f' then some (c.toNat - 'a'.toNat + 10)
  else if 'A' ≤ c ∧ c ≤ 'F' then some (c.toNat - 'A'.toNat + 10)
  else none

def radixValue (base : Nat) (cs : List Char) : Option Nat :=
  cs.foldl (fun n c => n.bind fun n => (hexDigit c).bind fun d =>
    if d < base then some (n * base + d) else none) (some 0)

def hexValue (cs : List Char) : Option Nat := radixValue 16 cs

def isSurrogate (n : Nat) : Bool := 0xD800 ≤ n && n ≤ 0xDFFF

def scalar (n : Nat) : Option Char :=
  if isSurrogate n || 0x10FFFF < n then none else some (Char.ofNat n)

end ClusterSurvey.Text
