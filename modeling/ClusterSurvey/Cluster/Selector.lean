import ClusterSurvey.Object.Basic
import ClusterSurvey.Text.Split

/-! Selectors: comma-separated terms `key=value`, all of which have to hold of a pod. A selector
is text; it is written from a map of labels and cut again where it is applied. -/
namespace ClusterSurvey

/-- The selectors of a listing of pods. One that is not given, or empty, selects every pod. -/
structure PodQuery where
  labels : Option String
  fields : Option String
  deriving DecidableEq, Repr

namespace Selector

def termText (key value : String) : String := key ++ "=" ++ value

def ofLabels (labels : Dict String) : String :=
  ",".intercalate (labels.entries.map fun e => termText e.1 e.2)

/-- The key and the value of a term; a text without `=` is no term. -/
def readTerm (text : List Char) : Option (String × String) :=
  (Text.splitOnce '=' text).map fun t => (String.ofList t.1, String.ofList t.2)

/-- What stands between the commas of a selector. -/
def terms (selector : String) : List (Option (String × String)) :=
  (Text.pieces ',' selector.toList).map readTerm

def holds (value? : String → Option String) (selector : Option String) : Bool :=
  match selector with
  | none => true
  | some text =>
    text.isEmpty || (terms text).all fun term =>
      match term with
      | some (key, value) => value? key = some value
      | none => false

def nodeField : String := "spec.nodeName"

end Selector

def Pod.field? (pod : Pod) (key : String) : Option String :=
  if key = Selector.nodeField then pod.spec.bind (·.nodeName) else none

def Pod.meets (pod : Pod) (query : PodQuery) : Bool :=
  Selector.holds pod.label? query.labels && Selector.holds pod.field? query.fields

end ClusterSurvey
