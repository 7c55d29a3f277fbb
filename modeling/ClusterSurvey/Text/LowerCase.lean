import ClusterSurvey.Text.Cased

/-! Full lower-casing of a text. Every character goes to its own lower-case form except the
capital sigma, whose form depends on its place in the word. -/
namespace ClusterSurvey.Text

/-- The lower-case form of one character out of context. Only `İ` has two characters. -/
def lowerChar (c : Char) : List Char :=
  if c = 'İ' then ['i', '\u0307']
  else
    match lowerCodeIn lowerRuns c.toNat with
    | some n => [Char.ofNat n]
    | none => [c]

def casedComesFirst (cs : List Char) : Bool :=
  match cs.dropWhile isCaseIgnorable with
  | [] => false
  | c :: _ => isCased c

/-- A sigma is final when a cased character comes before it and none after it; `before` is read
backwards from the sigma. -/
def lowerSigma (before after : List Char) : Char :=
  if casedComesFirst before && !casedComesFirst after then 'ς' else 'σ'

/-- The lower-case form of a text that follows `before`, which is held in reverse. -/
def lowerAfter (before : List Char) : List Char → List Char
  | [] => []
  | c :: rest =>
    (if c = 'Σ' then [lowerSigma before rest] else lowerChar c) ++ lowerAfter (c :: before) rest

def toLower (cs : List Char) : List Char := lowerAfter [] cs

end ClusterSurvey.Text
