import ClusterSurvey.Assignment
import ClusterSurvey.Snapshot.Basic
import ClusterSurvey.Survey.Bridge

/-! Explorers look for one component in one way. -/
namespace ClusterSurvey

structure Explorer where
  strategy : String
  find : Survey (Except SurveyError (List Component))

def Pod.argumentsOf (pod : Pod) (component : String) : Dict String :=
  match pod.container? component with
  | some container => readArguments container.commandLine
  | none => ∅

/-- Looks at every node behind the gate of the component stage, and then fails with the first
failure, if there is one. -/
def Explorer.perNode (visit : String → Survey (Except SurveyError Component))
    (nodes : List String) : Survey (Except SurveyError (List Component)) := do
  return firstFailure (← Survey.forEach (fun node => .gated .components node (visit node)) nodes)

def Explorer.scripted (number : Nat) (strategy : String)
    (outcome : Except SurveyError (List Component)) : Explorer where
  strategy
  find := do
    Survey.note (.marked number)
    return outcome

end ClusterSurvey
