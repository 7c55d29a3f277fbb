import ClusterSurvey.Config.File
import ClusterSurvey.Files
import ClusterSurvey.Kubeconfig.Target
import ClusterSurvey.Kubeconfig.Yaml
import ClusterSurvey.Json.Printer
import ClusterSurvey.Program.Options
import ClusterSurvey.Snapshot.Summary
import ClusterSurvey.Surveyor

/-! One run of the program: read the configuration, connect, survey the cluster once and print
what was found. -/
namespace ClusterSurvey

/-- What a run finds around it. -/
structure Surroundings where
  file : FileReader
  kubeconfig : Option Kubeconfig
  network : Target → Connection
  now : Timestamp

inductive RunError where
  | configFile (path : String) (fault : FileFault)
  | config (path : String) (error : ConfigFileError)
  | connect (error : ConnectError)
  | survey (abort : Abort)
  | noSnapshot

namespace RunError

/-- The message of the failure, then those down the chain of its causes. A run that broke off has
nothing to say. -/
def messages : RunError → List String
  | configFile path fault => ["Failed to read config file: " ++ path, fault.message]
  | config path error => ["Invalid config file: " ++ path, error.message]
  | connect error => error.message :: error.sources
  | survey (.failed error) => error.message :: error.sources
  | survey (.overflow _) => []
  | noSnapshot => ["Discovery finished without publishing a snapshot"]

def line (e : RunError) : String := ": ".intercalate e.messages

def numbered (causes : List String) : List String :=
  match causes with
  | [cause] => ["    " ++ cause]
  | causes => causes.zipIdx.map fun (cause, n) =>
    String.ofList (List.replicate (5 - (Nat.repr n).length) ' ') ++ Nat.repr n ++ ": " ++ cause

/-- The failure over several lines: its message, then its causes, which are numbered if there is
more than one. -/
def report (e : RunError) : String :=
  match e.messages with
  | [] => ""
  | [text] => text
  | text :: causes => "\n".intercalate (text :: "" :: "Caused by:" :: numbered causes)

end RunError

inductive RunOutcome where
  | printed (json : Json)
  | usage (error : UsageError)
  | failed (error : RunError)

namespace RunOutcome

def exitCode : RunOutcome → UInt8
  | printed _ => 0
  | usage .help | usage .version => 0
  | usage _ => 2
  | failed (.survey (.overflow _)) => 101
  | failed _ => 1

end RunOutcome

/-- The surveyor after a call, on which a run depends. -/
def Surveyor.afterOnly (s : Surveyor) (call : SurveyorCall) (cluster : Cluster) :
    Except RunError Surveyor :=
  match ((s.after call).on cluster).value with
  | (next, none) => .ok next
  | (_, some abort) => .error (.survey abort)

def SurveyConfig.surveyOnce (config : SurveyConfig) (cluster : Cluster) (now : Timestamp) :
    Except RunError Snapshot := do
  let surveyor ← (Surveyor.new config .builtin).afterOnly .init cluster
  let surveyor ← surveyor.afterOnly (.sync now) cluster
  match surveyor.snapshot? with
  | some snapshot => return snapshot
  | none => throw .noSnapshot

def Snapshot.rendered (s : Snapshot) : OutputFormat → Json
  | .summary => (Summary.ofSnapshot s).toJson
  | .json => s.toJson

namespace Surroundings

def config (s : Surroundings) (o : Options) : Except RunError SurveyConfig := do
  let config ←
    match o.config with
    | none => pure .standard
    | some path =>
      let text ← (s.file path).mapError (.configFile path)
      (SurveyConfig.ofText text).mapError (.config path)
  return { config with tolerateFailures := config.tolerateFailures || o.tolerateFailures }

def connect (s : Surroundings) (o : Options) : Except RunError Connection :=
  (Target.connect s.network s.file s.kubeconfig o.context).mapError .connect

def output (s : Surroundings) (o : Options) : Except RunError Json := do
  let config ← s.config o
  let connection ← s.connect o
  return (← config.surveyOnce connection.cluster s.now).rendered o.output

def run (s : Surroundings) (args : List String) : RunOutcome :=
  match Options.ofArguments args with
  | .error e => .usage e
  | .ok o =>
    match s.output o with
    | .ok json => .printed json
    | .error e => .failed e

end Surroundings

end ClusterSurvey
