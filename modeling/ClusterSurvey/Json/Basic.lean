import ClusterSurvey.Dict

/-! JSON values. A number that is written whole and fits 64 bits is kept as an integer; every
other number is kept as it was written, since no setting or object field here is fractional. -/
namespace ClusterSurvey

inductive Json where
  | null
  | bool (b : Bool)
  | int (n : Int)
  | real (text : String)
  | str (s : String)
  | arr (items : List Json)
  | obj (fields : List (String × Json))
  /-- What is written as JSON and has no value: a string that is no text, an object with such a
  key, a number that is too large. It does no harm where it is passed over. -/
  | broken
  deriving Inhabited, Repr

namespace Json

def ofNat (n : Nat) : Json := .int n

def ofOption (f : α → Json) : Option α → Json
  | none => .null
  | some a => f a

def ofList (f : α → Json) (l : List α) : Json := .arr (l.map f)

def ofStrings (l : List String) : Json := ofList .str l

def ofDict (f : α → Json) (d : Dict α) : Json := .obj (d.entries.map fun e => (e.1, f e.2))

def lookup (key : String) : List (String × Json) → Option Json
  | [] => none
  | (k, v) :: rest =>
    match lookup key rest with
    | some w => some w
    | none => if k = key then some v else none

def field? (j : Json) (key : String) : Option Json :=
  match j with
  | .obj fields => lookup key fields
  | _ => none

/-- A field of an object where `null` counts as no field. -/
def present? (j : Json) (key : String) : Option Json :=
  (j.field? key).filter fun v => !(v matches .null)

/-- Whether none of some fields is there twice. -/
def hasOnce (names : List String) (j : Json) : Bool :=
  match j with
  | .obj fields => names.all fun name => (fields.filter fun e => e.1 = name).length ≤ 1
  | _ => true

def str? : Json → Option String
  | .str s => some s
  | _ => none

def bool? : Json → Option Bool
  | .bool b => some b
  | _ => none

def int? : Json → Option Int
  | .int n => some n
  | _ => none

def arr? : Json → Option (List Json)
  | .arr items => some items
  | _ => none

def obj? : Json → Option (List (String × Json))
  | .obj fields => some fields
  | _ => none

def natBelow? (bound : Nat) (j : Json) : Option Nat :=
  match j with
  | .int (.ofNat n) => if n < bound then some n else none
  | _ => none

def intWithin? (bound : Nat) (j : Json) : Option Int :=
  j.int?.filter fun n => -(bound : Int) ≤ n ∧ n < bound

def listOf? (f : Json → Option α) (j : Json) : Option (List α) := j.arr?.bind (·.mapM f)

def strings? (j : Json) : Option (List String) := j.listOf? str?

def dictOf? (f : Json → Option α) (j : Json) : Option (Dict α) :=
  j.obj?.bind fun fields =>
    (fields.mapM fun e => (f e.2).map fun v => (e.1, v)).map Dict.ofList

mutual

/-- Whether nothing in a value is broken and its nesting is at most `depth`. -/
def isSound (depth : Nat) : Json → Bool
  | .broken => false
  | .arr items => 0 < depth && itemsSound (depth - 1) items
  | .obj fields => 0 < depth && fieldsSound (depth - 1) fields
  | _ => true

def itemsSound (depth : Nat) : List Json → Bool
  | [] => true
  | j :: rest => isSound depth j && itemsSound depth rest

def fieldsSound (depth : Nat) : List (String × Json) → Bool
  | [] => true
  | (_, j) :: rest => isSound depth j && fieldsSound depth rest

end

def depthLimit : Nat := 127

end Json

end ClusterSurvey
