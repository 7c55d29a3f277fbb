/-! How large a decimal number is, compared with what a floating-point number of 64 bits holds. -/
namespace ClusterSurvey.Text

/-- From here on a number is rounded to infinity. -/
def floatBound : Nat := Nat.pow 2 1024 - Nat.pow 2 970

/-- Whether `digits` · 10 ^ `exponent` is too large to be held. -/
def overflows (digits : Nat) (exponent : Int) : Bool :=
  let size : Int := (Nat.repr digits).length + exponent
  if digits = 0 || size < 309 then false
  else if 309 < size then true
  else if 0 ≤ exponent then floatBound ≤ digits * Nat.pow 10 exponent.toNat
  else floatBound * Nat.pow 10 exponent.natAbs ≤ digits

end ClusterSurvey.Text
