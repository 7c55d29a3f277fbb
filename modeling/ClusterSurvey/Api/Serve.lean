import ClusterSurvey.Api.Connection
import ClusterSurvey.Cluster.Memory
import ClusterSurvey.Json.Printer

/-! The API of a cluster held in memory. Prepared answers come before those of the cluster. -/
namespace ClusterSurvey

structure Route where
  path : String
  response : Response
  deriving DecidableEq, Repr

namespace Response

def ofJson (j : Json) : Response := ⟨200, j.compact⟩

def failure (status : Nat) (reason text : String) : Response where
  status
  body := (Json.obj [("apiVersion", .str "v1"), ("kind", .str "Status"),
    ("status", .str "Failure"), ("message", .str text), ("reason", .str reason),
    ("code", .ofNat status)]).compact

def ofObjects {kind : ObjectKind} (items : List (KubeObject kind)) : Response :=
  ofJson (.obj [("apiVersion", .str kind.apiVersion), ("kind", .str (kind.objectName ++ "List")),
    ("metadata", .obj []), ("items", .ofList KubeObject.toJson items)])

end Response

namespace ExecStatus

def toJson (s : ExecStatus) : Json :=
  .ofFields [("status", s.status.map .str), ("message", s.text.map .str),
    ("reason", s.reason.map .str),
    ("details", s.causes.map fun causes => .obj [("causes", .ofList (fun c =>
      .ofFields [("reason", c.reason.map .str), ("message", c.text.map .str)]) causes)])]

def ofOutcome : Except CallError ExecOutput → ExecStatus
  | .ok _ => ⟨some success, none, none, none⟩
  | .error (.exitCode code) =>
    ⟨some "Failure", some nonZeroExit, some "command terminated with non-zero exit code",
      some [⟨some exitCodeCause, some (Json.intText code.toInt)⟩]⟩
  | .error (.stream text) => ⟨some "Failure", none, some text, none⟩
  | .error e => ⟨some "Failure", none, some e.message, none⟩

end ExecStatus

def ExecStream.ofOutcome (outcome : Except CallError ExecOutput) : ExecStream where
  frames :=
    let output :=
      match outcome with
      | .ok output => output
      | .error _ => ⟨"", ""⟩
    let bytes (text : String) : List UInt8 := text.toUTF8.toList
    [.binary stdoutChannel (bytes output.stdout), .binary stderrChannel (bytes output.stderr),
      .binary statusChannel (bytes (ExecStatus.ofOutcome outcome).toJson.compact)]
  isClosed := true

namespace MemoryCluster

def serveKind (m : MemoryCluster) (path : String) : Option Response :=
  (ObjectKind.all.find? fun kind => kind.path = path).map fun kind =>
    match m.kindFailures kind with
    | some e => .failure 500 "InternalError" e.message
    | none => .ofObjects (m.inventory.slot kind)

def servePods (m : MemoryCluster) (request : Request) : Option Response :=
  match (Text.pieces '/' request.path.toList).map String.ofList with
  | ["", "api", "v1", "namespaces", ns, "pods"] =>
    let query := PodQuery.ofParameters request.query
    some (.ofObjects (m.pods.filter fun pod => isIn pod (some ns) && Pod.meets pod query))
  | ["", "api", "v1", "namespaces", ns, "pods", name] =>
    (m.pods.find? fun pod => pod.metadata.ns = some ns && pod.metadata.name = some name).map
      fun pod => .ofJson (KubeObject.toJson pod)
  | _ => none

def serve (m : MemoryCluster) (request : Request) : Response :=
  ((m.serveKind request.path).or (m.servePods request)).getD
    (.failure 404 notFoundReason "not found")

def readExec? (request : Request) : Option (String × List String) :=
  match (Text.pieces '/' request.path.toList).map String.ofList with
  | ["", "api", "v1", "namespaces", _, "pods", name, "exec"] =>
    some (name, (request.query.filter fun p => p.1 = "command").map (·.2))
  | _ => none

def serveExec (m : MemoryCluster) (request : Request) : ExecReply :=
  match readExec? request with
  | some (pod, command) => .opened (.ofOutcome (m.outcome pod command))
  | none => .refused 404

/-- A connection to the API of a cluster held in memory. -/
def connection (m : MemoryCluster) (routes : List Route) : Connection where
  respond request := some
    (match routes.find? fun route => route.path = request.path with
      | some route => route.response
      | none => m.serve request)
  stream request := some (m.serveExec request)
  wording := .usual

end MemoryCluster

end ClusterSurvey
