import ClusterSurvey.Explorer.Basic

/-! Trying the explorers of a component in turn. -/
namespace ClusterSurvey

/-- A component with the explorers that may find it, in the order in which they are tried. -/
structure Dispatcher where
  component : String
  candidates : List Explorer

namespace Dispatcher

def strategies (d : Dispatcher) : List String := d.candidates.map (·.strategy)

/-- The first result with a running instance, verbatim; a failure ends the search, and the empty
list means that nothing runs. -/
def search (component : String) :
    List Explorer → Survey (Except SurveyError (List Component))
  | [] => return .ok []
  | candidate :: rest => do
    Survey.note (.consulted component candidate.strategy)
    match ← candidate.find with
    | .error e => return .error (.explorer candidate.strategy e)
    | .ok found => if found.any (·.isRunning) then return .ok found else search component rest

def find (d : Dispatcher) : Survey (Except SurveyError (List Component)) :=
  search d.component d.candidates

def asExplorer (d : Dispatcher) : Explorer := ⟨"auto", d.find⟩

end Dispatcher

end ClusterSurvey
