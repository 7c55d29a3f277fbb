import ClusterSurvey.Base64
import ClusterSurvey.Object.Basic

/-! Objects as JSON. A field of the wrong type, or an `apiVersion` or `kind` of another type of
object, makes the whole object unreadable. An object is written with all that was read of it, a
secret with what it holds. -/
namespace ClusterSurvey

def Json.listMetadata? (j : Json) : Option Unit := do
  let _ ← j.obj?
  guard (j.hasTexts ["continue", "resourceVersion", "selfLink"])
  let _ ← j.optional (intWithin? 0x8000000000000000) "remainingItemCount"

namespace Metadata

def ofJson? (j : Json) : Option Metadata := do
  let _ ← j.obj?
  return {
    name := ← j.optional Json.str? "name"
    ns := ← j.optional Json.str? "namespace"
    labels := ← j.optional (Json.dictOf? Json.str?) "labels"
    annotations := ← j.optional (Json.dictOf? Json.str?) "annotations"
    others := ← PassedFields.ofJson? .metadata j }

def fields (m : Metadata) : List (String × Option Json) :=
  [("name", m.name.map .str), ("namespace", m.ns.map .str),
    ("labels", m.labels.map (.ofDict .str)), ("annotations", m.annotations.map (.ofDict .str))] ++
    m.others.fields

def toJson (m : Metadata) : Json :=
  .ofFields (Json.inOrder m.fields)

end Metadata

namespace Variable

def ofJson? (j : Json) : Option Variable := do
  let _ ← j.obj?
  return {
    name := (← j.optional Json.str? "name").getD ""
    value := ← j.optional Json.str? "value"
    others := ← PassedFields.ofJson? .environment j }

def toJson (v : Variable) : Json :=
  .ofFields (Json.inOrder
    ([("name", some (.str v.name)), ("value", v.value.map .str)] ++ v.others.fields))

end Variable

namespace Container

def ofJson? (j : Json) : Option Container := do
  let _ ← j.obj?
  return {
    name := (← j.optional Json.str? "name").getD ""
    command := ← j.optional Json.strings? "command"
    args := ← j.optional Json.strings? "args"
    env := ← j.optional (Json.listOf? Variable.ofJson?) "env"
    others := ← PassedFields.ofJson? .container j }

def toJson (c : Container) : Json :=
  .ofFields (Json.inOrder ([("name", some (.str c.name)), ("command", c.command.map .ofStrings),
    ("args", c.args.map .ofStrings), ("env", c.env.map (.ofList Variable.toJson))] ++
    c.others.fields))

end Container

namespace PodSpec

def ofJson? (j : Json) : Option PodSpec := do
  let _ ← j.obj?
  return {
    nodeName := ← j.optional Json.str? "nodeName"
    containers := (← j.optional (Json.listOf? Container.ofJson?) "containers").getD []
    others := ← PassedFields.ofJson? .podSpec j }

def toJson (s : PodSpec) : Json :=
  .ofFields (Json.inOrder ([("nodeName", s.nodeName.map .str),
    ("containers", some (.ofList Container.toJson s.containers))] ++ s.others.fields))

end PodSpec

namespace PodBody

def ofJson? (j : Json) : Option PodBody := do
  return {
    spec := ← j.optional PodSpec.ofJson? "spec"
    status := ← j.optional (PassedFields.ofJson? .podStatus) "status" }

def fields (b : PodBody) : List (String × Option Json) :=
  [("spec", b.spec.map PodSpec.toJson), ("status", b.status.map PassedFields.toJson)]

end PodBody

namespace SecretBody

def payload? : Json → Option (List UInt8)
  | .null => some []
  | j => j.str?.bind fun text => (Base64.decode text).toOption

def payloadJson (bytes : List UInt8) : Json := .str (Base64.encode bytes)

def ofJson? (j : Json) : Option SecretBody := do
  return {
    data := ← j.optional (Json.dictOf? payload?) "data"
    stringData := ← j.optional (Json.dictOf? Json.str?) "stringData"
    secretType := ← j.optional Json.str? "type"
    immutable := ← j.optional Json.bool? "immutable" }

def fields (b : SecretBody) : List (String × Option Json) :=
  [("data", b.data.map (.ofDict payloadJson)), ("stringData", b.stringData.map (.ofDict .str)),
    ("type", b.secretType.map .str), ("immutable", b.immutable.map .bool)]

end SecretBody

namespace ConfigMapBody

def ofJson? (j : Json) : Option ConfigMapBody := do
  return {
    data := ← j.optional (Json.dictOf? Json.str?) "data"
    others := ← PassedFields.ofJson? .configMap j }

def fields (b : ConfigMapBody) : List (String × Option Json) :=
  ("data", b.data.map (.ofDict .str)) :: b.others.fields

end ConfigMapBody

namespace Outline

/-- A spec or a status, if there are any of the kind; else the field is one that is passed over. -/
def part? (table : FieldTable) (j : Json) (name : String) : Option (Option (PassedFields table)) :=
  if table.names.isEmpty then some none else j.optional (PassedFields.ofJson? table) name

def ofJson? (kind : ObjectKind) (j : Json) : Option (Outline kind) := do
  return {
    spec := ← part? kind.specTable j "spec"
    status := ← part? kind.statusTable j "status"
    others := ← PassedFields.ofJson? kind.otherTable j }

def fields {kind : ObjectKind} (o : Outline kind) : List (String × Option Json) :=
  [("spec", o.spec.map PassedFields.toJson), ("status", o.status.map PassedFields.toJson)] ++
    o.others.fields

end Outline

def ObjectKind.bodyOfJson? (kind : ObjectKind) (j : Json) : Option kind.Body :=
  match kind with
  | .pods => PodBody.ofJson? j
  | .secrets => SecretBody.ofJson? j
  | .configMaps => ConfigMapBody.ofJson? j
  | .nodes | .namespaces | .deployments | .daemonSets | .statefulSets | .jobs | .cronJobs
  | .services | .ingresses | .networkPolicies | .serviceAccounts | .roles | .clusterRoles
  | .roleBindings | .clusterRoleBindings | .persistentVolumes | .persistentVolumeClaims
  | .limitRanges | .resourceQuotas | .podDisruptionBudgets | .horizontalPodAutoscalers =>
    Outline.ofJson? _ j

def ObjectKind.bodyFields (kind : ObjectKind) (body : kind.Body) : List (String × Option Json) :=
  match kind, body with
  | .pods, pod => PodBody.fields pod
  | .secrets, secret => SecretBody.fields secret
  | .configMaps, map => ConfigMapBody.fields map
  | .nodes, o | .namespaces, o | .deployments, o | .daemonSets, o | .statefulSets, o | .jobs, o
  | .cronJobs, o | .services, o | .ingresses, o | .networkPolicies, o | .serviceAccounts, o
  | .roles, o | .clusterRoles, o | .roleBindings, o | .clusterRoleBindings, o
  | .persistentVolumes, o | .persistentVolumeClaims, o | .limitRanges, o | .resourceQuotas, o
  | .podDisruptionBudgets, o | .horizontalPodAutoscalers, o => Outline.fields o

namespace KubeObject

variable {kind : ObjectKind}

def ofJson? (kind : ObjectKind) (j : Json) : Option (KubeObject kind) := do
  let _ ← j.obj?
  guard (j.agrees "apiVersion" kind.apiVersion && j.agrees "kind" kind.objectName)
  return {
    metadata := (← j.optional Metadata.ofJson? "metadata").getD .blank
    body := ← kind.bodyOfJson? j }

/-- What an object is written with beside its type. -/
def fields (o : KubeObject kind) : List (String × Option Json) :=
  ("metadata", some o.metadata.toJson) :: kind.bodyFields o.body

def toJson (o : KubeObject kind) : Json :=
  .ofFields ([("apiVersion", some (.str kind.apiVersion)),
    ("kind", some (.str kind.objectName))] ++ Json.inOrder o.fields)

/-- The objects of an array; `null` holds none. -/
def listOfJson? (kind : ObjectKind) : Json → Option (List (KubeObject kind))
  | .null => some []
  | .arr items => items.mapM (ofJson? kind)
  | _ => none

end KubeObject

def ObjectList.ofJson? (kind : ObjectKind) (j : Json) : Option ObjectList :=
  (KubeObject.listOfJson? kind j).map fun items => ⟨kind, items⟩

end ClusterSurvey
