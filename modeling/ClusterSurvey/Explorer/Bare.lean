import ClusterSurvey.Explorer.Basic
import ClusterSurvey.Text.Decimal

/-! Finding a component among the processes of the nodes. -/
namespace ClusterSurvey

/-- The shell command that prints the number of a process, then one of its arguments a line, and
ends with a code other than zero if there is no such process. -/
def probeCommand (process : String) : List String :=
  ["sh", "-c",
    "pid=$(pidof -s " ++ process ++
      ") && echo \"$pid\" && tr '\\0' '\\n' < /proc/$pid/cmdline | tail -n +2"]

def readProbe (component node stdout : String) : Component :=
  match Text.lines stdout.toList with
  | [] => .absent component node
  | first :: rest =>
    match Text.unsigned UInt32.size (Text.trim first) with
    | some _ => .running component node (readArguments (rest.map String.ofList))
    | none => .absent component node

/-- What the outcome of a probe tells: a code other than zero means that nothing runs, any other
failure tells nothing. -/
def judgeProbe (component node : String) :
    Except SurveyError ExecOutput → Except SurveyError Component
  | .ok output => .ok (readProbe component node output.stdout)
  | .error e => if e.isExitCode then .ok (.absent component node) else .error e

def probeNode (executor : NodeExecutor) (component node : String) :
    Survey (Except SurveyError Component) := do
  return judgeProbe component node (← executor node (probeCommand component))

def Explorer.byProcess (executor : NodeExecutor) (name : String) (nodes : List String) :
    Explorer where
  strategy := Strategy.bare.name
  find := Explorer.perNode (probeNode executor name) nodes

end ClusterSurvey
