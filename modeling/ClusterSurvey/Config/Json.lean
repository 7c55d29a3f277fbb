import ClusterSurvey.Config.Basic
import ClusterSurvey.Json.Basic

/-! Configurations as trees of settings. An omitted setting has its default, a setting that is
there must have the right type (`null` never has), and what a type does not know is passed over.
A record whose type is not spelled out among other fields may also be an array of its settings in
order. -/
namespace ClusterSurvey

/-- The settings of a record: its fields, or an array of values for `names` in order. -/
def Json.settings? (names : List String) : Json → Option Json
  | .obj fields => some (.obj fields)
  | .arr values => if values.length ≤ names.length then some (.obj (names.zip values)) else none
  | _ => none

def Json.setting (f : Json → Option α) (default : α) (j : Json) (key : String) : Option α :=
  match j.field? key with
  | none => some default
  | some v => f v

def Json.required (f : Json → Option α) (j : Json) (key : String) : Option α :=
  (j.field? key).bind f

inductive ConfigFormat where
  | json
  | toml
  deriving DecidableEq, Repr

inductive SourceType where
  | auto
  | label
  | staticPod
  | bare
  deriving DecidableEq, Repr

namespace SourceType

def all : List SourceType := [auto, label, staticPod, bare]

def name : SourceType → String
  | auto => "auto"
  | label => "label"
  | staticPod => "staticpod"
  | bare => "bare"

/-- The type with a name. In JSON its place among the types stands for it, too. -/
def ofJson? (format : ConfigFormat) : Json → Option SourceType
  | .str s => all.find? fun t => t.name = s
  | .int (.ofNat n) =>
    match format with
    | .json => all[n]?
    | .toml => none
  | _ => none

end SourceType

namespace Source

def ofJson? (format : ConfigFormat) (j : Json) : Option Source := do
  let type ← j.required (SourceType.ofJson? format) "type"
  let nodes := j.setting Json.strings? [] "nodes"
  let onMasters := j.setting Json.bool? false "master_nodes"
  match type with
  | .auto => return .auto (← j.setting (Json.dictOf? Json.str?) ∅ "labels") (← nodes) (← onMasters)
  | .label => return .label (← j.required (Json.dictOf? Json.str?) "labels")
  | .staticPod => return .staticPod (← nodes) (← onMasters)
  | .bare => return .bare (← nodes) (← onMasters)

def jsonFields (s : Source) : List (String × Json) :=
  let targets (nodes : List String) (onMasters : Bool) : List (String × Json) :=
    [("nodes", .ofStrings nodes), ("master_nodes", .bool onMasters)]
  ("type", .str s.typeName) ::
    match s with
    | auto labels nodes onMasters => ("labels", .ofDict .str labels) :: targets nodes onMasters
    | label labels => [("labels", .ofDict .str labels)]
    | staticPod nodes onMasters | bare nodes onMasters => targets nodes onMasters

end Source

namespace ComponentConfig

def ofJson? (format : ConfigFormat) (j : Json) : Option ComponentConfig := do
  let _ ← j.obj?
  return {
    name := ← j.required Json.str? "name"
    ns := ← j.setting Json.str? defaultNamespace "namespace"
    source := ← Source.ofJson? format j }

def toJson (c : ComponentConfig) : Json :=
  .obj ([("name", .str c.name), ("namespace", .str c.ns)] ++ c.source.jsonFields)

end ComponentConfig

namespace BridgeConfig

def ofSettings? (type : String) (j : Json) : Option BridgeConfig :=
  if type = "proxy" then do
    let j ← j.settings? ["namespace", "agent"]
    return .proxy (← j.setting Json.str? defaultNamespace "namespace")
      (← j.setting Json.str? defaultAgent "agent")
  else if type = "none" then (j.settings? []).map fun _ => disabled
  else none

/-- A bridge; as an array it begins with its type. -/
def ofJson? : Json → Option BridgeConfig
  | .obj fields => (Json.obj fields).required Json.str? "type" >>= (ofSettings? · (.obj fields))
  | .arr (type :: values) => type.str? >>= (ofSettings? · (.arr values))
  | _ => none

def toJson : BridgeConfig → Json
  | proxy ns agent => .obj [("type", .str "proxy"), ("namespace", .str ns), ("agent", .str agent)]
  | disabled => .obj [("type", .str "none")]

end BridgeConfig

def Json.word? (j : Json) : Option UInt64 := (j.natBelow? UInt64.size).map UInt64.ofNat

namespace SurveyConfig

def fieldNames : List String :=
  ["bridge", "components", "tolerate_component_failures", "machine_concurrency"]

def ofJson? (format : ConfigFormat) (j : Json) : Option SurveyConfig := do
  let j ← j.settings? fieldNames
  return {
    bridge := ← j.setting BridgeConfig.ofJson? standard.bridge "bridge"
    components :=
      ← j.setting (Json.listOf? (ComponentConfig.ofJson? format)) standard.components "components"
    tolerateFailures :=
      ← j.setting Json.bool? standard.tolerateFailures "tolerate_component_failures"
    concurrency := ← j.setting Json.word? standard.concurrency "machine_concurrency" }

def toJson (c : SurveyConfig) : Json :=
  .obj [("bridge", c.bridge.toJson), ("components", .ofList ComponentConfig.toJson c.components),
    ("tolerate_component_failures", .bool c.tolerateFailures),
    ("machine_concurrency", .ofNat c.concurrency.toNat)]

end SurveyConfig

end ClusterSurvey
