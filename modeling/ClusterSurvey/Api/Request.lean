import ClusterSurvey.Api.Address
import ClusterSurvey.Api.Form
import ClusterSurvey.Api.Http
import ClusterSurvey.Cluster.Basic

/-! The request that stands for each call. Names stand in its URL as they are, so a name may end
the path, or may make no URL at all. -/
namespace ClusterSurvey

def ObjectKind.path (kind : ObjectKind) : String :=
  (if kind.apiVersion = "v1" then "/api/v1/" else "/apis/" ++ kind.apiVersion ++ "/") ++ kind.name

def podsPath (ns : String) : String := "/api/v1/namespaces/" ++ ns ++ "/pods"

def podPath (ns name : String) : String := podsPath ns ++ "/" ++ name

namespace PodQuery

def labelParameter : String := "labelSelector"

def fieldParameter : String := "fieldSelector"

/-- A selector as a parameter; the empty one is not sent. -/
def parameter (name : String) (selector : Option String) : List (String × String) :=
  match selector with
  | some text => if text.isEmpty then [] else [(name, text)]
  | none => []

def parameters (query : PodQuery) : List (String × String) :=
  parameter fieldParameter query.fields ++ parameter labelParameter query.labels

def ofParameters (parameters : List (String × String)) : PodQuery where
  labels := List.lookup labelParameter parameters
  fields := List.lookup fieldParameter parameters

end PodQuery

inductive RequestFault where
  | noName
  | badUrl (fault : AddressFault)
  deriving DecidableEq, Repr

namespace RequestFault

def message : RequestFault → String
  | noName => "failed to validate request: A non-empty name is required"
  | badUrl fault => "failed to build request: " ++ fault.message

def sources : RequestFault → List String
  | noName => []
  | badUrl fault => [fault.message]

end RequestFault

namespace Request

/-- The request for a URL without a host. What follows a `#` is not part of it. -/
def ofUrl (url : List Char) : Except RequestFault Request := do
  (Address.check (String.ofList url)).mapError .badUrl
  let url := url.takeWhile (· ≠ '#')
  let path := url.takeWhile (· ≠ '?')
  return ⟨String.ofList path, Form.decode ((url.drop path.length).drop 1)⟩

def withParameters (path : String) (parameters : List (String × String)) :
    Except RequestFault Request :=
  ofUrl (path.toList ++ '?' :: Form.encode parameters)

end Request

def Call.request : Call → Except RequestFault Request
  | .listNodes => Request.withParameters ObjectKind.nodes.path []
  | .listObjects kind => Request.withParameters kind.path []
  | .listPods (some ns) query => Request.withParameters (podsPath ns) query.parameters
  | .listPods none query => Request.withParameters ObjectKind.pods.path query.parameters
  | .getPod ns name =>
    if name.isEmpty then .error .noName else Request.ofUrl (podPath ns name).toList
  | .exec ns pod command =>
    Request.withParameters (podPath ns pod ++ "/exec")
      ([("stdout", "true"), ("stderr", "true")] ++ command.map fun word => ("command", word))

/-- The smallest request that shows whether the API can be reached: one namespace. -/
def reachabilityRequest : Except RequestFault Request :=
  Request.withParameters ObjectKind.namespaces.path [("limit", "1")]

end ClusterSurvey
