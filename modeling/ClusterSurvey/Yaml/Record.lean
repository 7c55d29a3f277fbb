import ClusterSurvey.Yaml.Basic

/-! Records in YAML: mappings from names to values of known kinds. Tags do not matter in them. -/
namespace ClusterSurvey.Yaml

def text? (v : Yaml) : Option String :=
  match v.untagged with
  | str s => some s
  | _ => none

def bool? (v : Yaml) : Option Bool :=
  match v.untagged with
  | bool b => some b
  | _ => none

/-- The items of a sequence; nothing is an empty one. -/
def listOf? (f : Yaml → Option α) (v : Yaml) : Option (List α) :=
  match v.untagged with
  | seq items => items.mapM f
  | null => some []
  | _ => none

abbrev Record := List (String × Yaml)

def record? (v : Yaml) : Option Record :=
  match v.untagged with
  | map entries => entries.mapM fun e => e.1.text?.map fun name => (name, e.2)
  | null => some []
  | _ => none

def textRecord? (v : Yaml) : Option (List (String × String)) := do
  (← v.record?).mapM fun e => e.2.text?.map fun text => (e.1, text)

def nullable (f : Yaml → Option α) : Yaml → Option (Option α)
  | null => some none
  | v => (f v).map some

/-- One of the names that a value is, be it as a text or as the tag of nothing. -/
def oneOf? (names : List String) (v : Yaml) : Option String :=
  let name :=
    match v with
    | str s => some s
    | tagged tag null => some tag
    | _ => none
  name.filter names.contains

mutual

/-- Whether a value is plain data: all names in it are texts, and there are no tags. -/
def isData : Yaml → Bool
  | seq items => areData items
  | map entries => entriesAreData entries
  | tagged .. => false
  | _ => true

def areData : List Yaml → Bool
  | [] => true
  | v :: rest => isData v && areData rest

def entriesAreData : List (Yaml × Yaml) → Bool
  | [] => true
  | (key, v) :: rest => key.text?.isSome && isData v && entriesAreData rest

end

namespace Record

def valuesOf (r : Record) (name : String) : List Yaml :=
  (r.filter fun e => e.1 = name).map (·.2)

def required (f : Yaml → Option α) (r : Record) (name : String) : Option α :=
  match r.valuesOf name with
  | [v] => f v
  | _ => none

def given (f : Yaml → Option α) (r : Record) (name : String) : Option (Option α) :=
  match r.valuesOf name with
  | [] => some none
  | [v] => (f v).map some
  | _ => none

def optional (f : Yaml → Option α) (r : Record) (name : String) : Option (Option α) :=
  (r.given (nullable f) name).map Option.join

def optionalText (r : Record) (name : String) : Option (Option String) := r.optional text? name

def listOf (f : Yaml → Option α) (r : Record) (name : String) : Option (List α) :=
  (r.optional (·.listOf? f) name).map (·.getD [])

end Record

end ClusterSurvey.Yaml
