import ClusterSurvey.Program.Run
import ClusterSurvey.Program.Usage
import Std.Time.DateTime.Timestamp

/-! The program: it reads its files and prints how the run ends. It has no network of its own, so
every API is out of its reach. -/
namespace ClusterSurvey.Main

def fileFault : IO.Error → FileFault
  | .permissionDenied .. => .denied
  | .inappropriateType (some _) .. => .notDirectory
  | .inappropriateType none .. => .isDirectory
  | .invalidArgument (some _) .. => .nameTooLong
  | .userError _ => .notText
  | _ => .missing

def readFile (path : String) : IO (Except FileFault String) := do
  try return .ok (← IO.FS.readFile path)
  catch e => return .error (fileFault e)

def readKubeconfig : IO (Option Kubeconfig) := do
  let path ←
    match ← IO.getEnv "KUBECONFIG" with
    | some path => pure path
    | none => pure (((← IO.getEnv "HOME").getD "") ++ "/.kube/config")
  let directory := "/".intercalate (path.splitOn "/").dropLast
  return (← readFile path).toOption.bind (Kubeconfig.ofText? directory)

def readFiles (paths : List String) : IO FileReader := do
  let files ← paths.mapM fun path => return (path, ← readFile path)
  return fun path => (List.lookup path files).getD (.error .missing)

def now : IO Timestamp := do
  let sinceEpoch := (← Std.Time.Timestamp.now).toNanosecondsSinceUnixEpoch.val
  return ⟨sinceEpoch / 1000000000, (sinceEpoch % 1000000000).toNat⟩

def finish (outcome : RunOutcome) : IO UInt32 := do
  match outcome with
  | .printed json => IO.println json.pretty
  | .usage e => if e.fault?.isSome then IO.eprintln e.text else IO.println e.text
  | .failed (.survey (.overflow _)) => IO.eprintln "a semaphore may not have more permits"
  | .failed e =>
    IO.eprintln ("Error: " ++ e.line)
    IO.eprintln ("Error: " ++ e.report)
  return outcome.exitCode.toUInt32

end ClusterSurvey.Main

def main (args : List String) : IO UInt32 := do
  let kubeconfig ← ClusterSurvey.Main.readKubeconfig
  let named := (ClusterSurvey.Options.ofArguments args).toOption.bind (·.config)
  let paths := named.toList ++ (kubeconfig.map (·.paths)).getD []
  let surroundings : ClusterSurvey.Surroundings := {
    file := ← ClusterSurvey.Main.readFiles paths
    kubeconfig
    network := fun _ => .offline
    now := ← ClusterSurvey.Main.now }
  ClusterSurvey.Main.finish (surroundings.run args)
