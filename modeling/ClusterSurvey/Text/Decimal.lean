/-! Whole numbers in decimal: an optional sign and at least one ASCII digit, refused when the
value does not fit the range asked for. -/
namespace ClusterSurvey.Text

def digitValue (c : Char) : Option Nat :=
  if '0' ≤ c ∧ c ≤ '9' then some (c.toNat - '0'.toNat) else none

/-- The value of a run of digits behind `value`; nothing if another character stands among
them. -/
def digitsOnto (value : Nat) : List Char → Option Nat
  | [] => some value
  | c :: rest =>
    match digitValue c with
    | some d => digitsOnto (value * 10 + d) rest
    | none => none

def digits : List Char → Option Nat
  | [] => none
  | cs => digitsOnto 0 cs

/-- An unsigned number below `bound`; one `+` may stand in front. -/
def unsigned (bound : Nat) (cs : List Char) : Option Nat :=
  let value :=
    match cs with
    | '+' :: rest => digits rest
    | _ => digits cs
  value.filter (· < bound)

def signed (bound : Nat) (cs : List Char) : Option Int :=
  let value : Option Int :=
    match cs with
    | '+' :: rest => (digits rest).map Int.ofNat
    | '-' :: rest => (digits rest).map fun n => -(n : Int)
    | _ => (digits cs).map Int.ofNat
  value.filter fun i => -(bound : Int) ≤ i ∧ i < bound

end ClusterSurvey.Text
