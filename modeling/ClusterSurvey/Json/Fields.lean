import ClusterSurvey.Json.Basic

/-! The fields of a JSON object as the API reads and writes them. An optional field may be absent or
`null`. Of a field that is there more than once the last counts, but all have to be right. -/
namespace ClusterSurvey.Json

def fieldsNamed (j : Json) (key : String) : List Json :=
  match j with
  | .obj fields => (fields.filter fun e => e.1 = key).map (·.2)
  | _ => []

def nullable (f : Json → Option α) : Json → Option (Option α)
  | .null => some none
  | j => (f j).map some

def optional (f : Json → Option α) (j : Json) (key : String) : Option (Option α) :=
  ((j.fieldsNamed key).mapM (nullable f)).map fun values => values.getLast?.join

/-- Whether some fields are texts where they are there and not `null`. -/
def hasTexts (j : Json) (names : List String) : Bool :=
  names.all fun name => (j.optional str? name).isSome

/-- Whether a field, if it is there at all, is a certain text. -/
def agrees (j : Json) (key text : String) : Bool :=
  (j.fieldsNamed key).all fun v => v.str? = some text

def ofFields (fields : List (String × Option Json)) : Json :=
  .obj (fields.filterMap fun f => f.2.map fun v => (f.1, v))

/-- Fields in the order in which the API writes them: that of their names. -/
def inOrder (fields : List (String × Option Json)) : List (String × Option Json) :=
  fields.mergeSort fun f g => f.1 ≤ g.1

end ClusterSurvey.Json
