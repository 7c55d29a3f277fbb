import ClusterSurvey.Object.Passed

/-! The objects of a cluster. All kinds share their metadata; what else an object carries
depends on its kind. What a survey does not read is passed on. -/
namespace ClusterSurvey

structure Metadata where
  name : Option String
  ns : Option String
  labels : Option (Dict String)
  annotations : Option (Dict String)
  others : PassedFields .metadata

def Metadata.blank : Metadata := ⟨none, none, none, none, ∅⟩

structure Variable where
  name : String
  value : Option String
  others : PassedFields .environment

structure Container where
  name : String
  command : Option (List String)
  args : Option (List String)
  env : Option (List Variable)
  others : PassedFields .container

def Container.commandLine (c : Container) : List String := c.command.getD [] ++ c.args.getD []

structure PodSpec where
  nodeName : Option String
  containers : List Container
  others : PassedFields .podSpec

structure PodBody where
  spec : Option PodSpec
  status : Option (PassedFields .podStatus)

structure SecretBody where
  data : Option (Dict (List UInt8))
  stringData : Option (Dict String)
  secretType : Option String
  immutable : Option Bool

def SecretBody.redacted (body : SecretBody) : SecretBody :=
  { body with data := none, stringData := none }

structure ConfigMapBody where
  data : Option (Dict String)
  others : PassedFields .configMap

/-- What a survey has no use for as a whole: what an object should be and what it is. -/
structure Outline (kind : ObjectKind) where
  spec : Option (PassedFields kind.specTable)
  status : Option (PassedFields kind.statusTable)
  others : PassedFields kind.otherTable

def ObjectKind.Body : ObjectKind → Type
  | .pods => PodBody
  | .secrets => SecretBody
  | .configMaps => ConfigMapBody
  | kind => Outline kind

structure KubeObject (kind : ObjectKind) where
  metadata : Metadata
  body : kind.Body

/-- An object as it is shown: a secret without what it holds, any other as it is. -/
def KubeObject.redacted : {kind : ObjectKind} → KubeObject kind → KubeObject kind
  | .secrets, secret => ⟨secret.metadata, SecretBody.redacted secret.body⟩
  | _, object => object

abbrev Node := KubeObject .nodes
abbrev Pod := KubeObject .pods
abbrev Secret := KubeObject .secrets

structure ObjectList where
  kind : ObjectKind
  items : List (KubeObject kind)

namespace ObjectList

def empty (kind : ObjectKind) : ObjectList := ⟨kind, []⟩

def length (l : ObjectList) : Nat := l.items.length

def isEmpty (l : ObjectList) : Bool := l.length = 0

end ObjectList

namespace Pod

def spec (pod : Pod) : Option PodSpec := PodBody.spec pod.body

/-- The node that a pod is scheduled on; empty as long as it is on none. -/
def nodeName (pod : Pod) : String := (pod.spec.bind (·.nodeName)).getD ""

def container? (pod : Pod) (name : String) : Option Container :=
  pod.spec.bind fun spec => spec.containers.find? fun c => c.name = name

def label? (pod : Pod) (key : String) : Option String :=
  pod.metadata.labels.bind (·.get? key)

end Pod

def masterRoleLabels : List String :=
  ["node-role.kubernetes.io/master", "node-role.kubernetes.io/control-plane"]

namespace Node

/-- Whether a node carries a label of the control plane, whatever its value. -/
def isMaster (node : Node) : Bool :=
  match node.metadata.labels with
  | some labels => masterRoleLabels.any labels.contains
  | none => false

/-- The names of nodes in list order; a node without a name is left out. -/
def names (nodes : List Node) : List String := nodes.filterMap (·.metadata.name)

end Node

/-- The nodes that something is expected on: the named masters if it lives on masters, else the
nodes that are listed for it, else every named node. -/
def resolveNodes (nodes : List Node) (explicit : List String) (onMasters : Bool) : List String :=
  if onMasters then Node.names (nodes.filter Node.isMaster)
  else if explicit.isEmpty then Node.names nodes
  else explicit

end ClusterSurvey
