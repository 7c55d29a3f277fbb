import ClusterSurvey.Api.Http
import ClusterSurvey.Config.Json
import ClusterSurvey.Json.Parser
import ClusterSurvey.Object.Json
import ClusterSurvey.Text.Quoted

/-! What a response gives: objects, or the reason why there are none. -/
namespace ClusterSurvey

def unknownReason : String := "Failed to parse error data"

def notFoundReason : String := "NotFound"

structure ErrorResponse where
  status : String
  text : String
  reason : String
  code : Nat
  deriving DecidableEq, Repr

/-- The error that a body describes, each of its fields at most once. -/
def ErrorResponse.ofJson? (j : Json) : Option ErrorResponse := do
  let names := ["status", "message", "reason", "code"]
  let j ← j.settings? names
  guard (j.hasOnce names)
  return {
    status := ← j.required Json.str? "status"
    text := ← j.setting Json.str? "" "message"
    reason := ← j.setting Json.str? "" "reason"
    code := ← j.required (Json.natBelow? UInt16.size) "code" }

inductive ResponseFault where
  | refused (error : ErrorResponse)
  | unreadable
  deriving DecidableEq, Repr

namespace Response

def error (r : Response) : ErrorResponse :=
  ((Json.ofText? r.body).bind ErrorResponse.ofJson?).getD
    ⟨statusText r.status, Text.quoted r.body, unknownReason, r.status⟩

def decode (f : Json → Option α) (r : Response) : Except ResponseFault α :=
  if r.isError then .error (.refused r.error)
  else
    match (Json.ofText? r.content).bind f with
    | some a => .ok a
    | none => .error .unreadable

end Response

/-- The fields of a list that are read each by itself. -/
def listFields : List String := ["metadata", "items"]

def hasSoundRest (j : Json) : Bool :=
  (j.obj?.getD []).all fun e => listFields.contains e.1 || e.2.isSound (Json.depthLimit - 1)

/-- The objects of a list; `items` has to be there, but may be `null`. -/
def itemsOfJson? (kind : ObjectKind) (j : Json) : Option (List (KubeObject kind)) := do
  guard (j.hasOnce listFields && hasSoundRest j)
  let _ ← j.setting Json.listMetadata? () "metadata"
  j.required (KubeObject.listOfJson? kind) "items"

def Response.objects (kind : ObjectKind) (r : Response) :
    Except ResponseFault (List (KubeObject kind)) :=
  r.decode (itemsOfJson? kind)

def Response.object? (kind : ObjectKind) (r : Response) :
    Except ResponseFault (Option (KubeObject kind)) :=
  match r.decode (KubeObject.ofJson? kind) with
  | .ok o => .ok (some o)
  | .error (.refused error) =>
    if error.reason = notFoundReason then .ok none else .error (.refused error)
  | .error fault => .error fault

end ClusterSurvey
