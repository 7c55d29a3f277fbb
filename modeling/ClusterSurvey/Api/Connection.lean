import ClusterSurvey.Api.ExecStream
import ClusterSurvey.Api.Wording

/-! A cluster seen through its API: each call is one request. -/
namespace ClusterSurvey

/-- A way to the API. Where no connection can be made there is no response. -/
structure Connection where
  respond : Request → Option Response
  stream : Request → Option ExecReply
  wording : ClientWording

namespace Connection

def offline : Connection := ⟨fun _ => none, fun _ => none, .usual⟩

def fault (c : Connection) (response : Response) : ResponseFault → ApiFault
  | .refused e => .refused e.code e.reason (c.wording.refused e)
  | .unreadable => .unreadable (c.wording.unreadable response)

def sendable (c : Connection) (request : Except RequestFault Request) : Except ApiFault Request :=
  request.mapError fun fault => .unanswered (c.wording.notAsked fault)

def fetch (c : Connection) (request : Except RequestFault Request)
    (f : Response → Except ResponseFault α) : Except ApiFault α := do
  match c.respond (← c.sendable request) with
  | some response => (f response).mapError (c.fault response)
  | none => throw (.unanswered c.wording.unreachable)

def exec (c : Connection) (ns pod : String) (command : List String) :
    Except CallError ExecOutput := do
  let request ← (c.sendable (Call.exec ns pod command).request).mapError (.attach ns pod)
  match c.stream request with
  | none => throw (.attach ns pod (.unanswered c.wording.unreachable))
  | some (.refused status) =>
    throw (.attach ns pod (.unanswered (c.wording.notUpgraded status)))
  | some (.opened stream) => stream.outcome

def cluster (c : Connection) : Cluster
  | .listNodes =>
    (c.fetch (Call.request .listNodes) (·.objects .nodes)).mapError
      (.list ObjectKind.nodes.name)
  | .listObjects kind =>
    (c.fetch (Call.request (.listObjects kind)) (·.objects kind)).mapError (.list kind.name)
  | .listPods ns query =>
    (c.fetch (Call.request (.listPods ns query)) (·.objects .pods)).mapError
      (.list ("pods in " ++ ns.getD "all namespaces"))
  | .getPod ns name =>
    (c.fetch (Call.request (.getPod ns name)) (·.object? .pods)).mapError (.getPod ns name)
  | .exec ns pod command => c.exec ns pod command

def check (c : Connection) : Except ApiFault Unit :=
  (c.fetch reachabilityRequest (·.objects .namespaces)).map fun _ => ()

end Connection

end ClusterSurvey
