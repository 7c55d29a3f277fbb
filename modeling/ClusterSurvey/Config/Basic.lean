import ClusterSurvey.Dict

/-! What a survey is to look for, and how it may reach the nodes. -/
namespace ClusterSurvey

def defaultNamespace : String := "kube-system"

def defaultAgent : String := "kubeprobe-agent"

def defaultConcurrency : UInt64 := 100

def agentLabelKey : String := "k8s-app"

inductive Strategy where
  | label
  | staticPod
  | bare
  deriving DecidableEq, Repr

namespace Strategy

def name : Strategy → String
  | label => "label"
  | staticPod => "staticpod"
  | bare => "bare"

end Strategy

/-- Where a component is looked for: by every strategy that applies, or by one of them. -/
inductive Source where
  | auto (labels : Dict String) (nodes : List String) (onMasters : Bool)
  | label (labels : Dict String)
  | staticPod (nodes : List String) (onMasters : Bool)
  | bare (nodes : List String) (onMasters : Bool)
  deriving DecidableEq

namespace Source

def typeName : Source → String
  | auto .. => "auto"
  | label .. => "label"
  | staticPod .. => "staticpod"
  | bare .. => "bare"

def permits : Source → Strategy → Bool
  | auto .., _ => true
  | label .., .label => true
  | staticPod .., .staticPod => true
  | bare .., .bare => true
  | _, _ => false

def labels? : Source → Option (Dict String)
  | auto labels _ _ | label labels => some labels
  | _ => none

def nodes : Source → List String
  | auto _ nodes _ | staticPod nodes _ | bare nodes _ => nodes
  | label _ => []

def onMasters : Source → Bool
  | auto _ _ m | staticPod _ m | bare _ m => m
  | label _ => false

def targetsNodes (s : Source) : Bool := s.onMasters || !s.nodes.isEmpty

end Source

structure ComponentConfig where
  name : String
  ns : String
  source : Source
  deriving DecidableEq

def ComponentConfig.controlPlane (name : String) : ComponentConfig where
  name
  ns := defaultNamespace
  source := .auto (.ofList [("component", name)]) [] true

inductive BridgeConfig where
  | proxy (ns agent : String)
  | disabled
  deriving DecidableEq

def BridgeConfig.isEnabled : BridgeConfig → Bool
  | proxy .. => true
  | disabled => false

def BridgeConfig.standard : BridgeConfig := .proxy defaultNamespace defaultAgent

structure SurveyConfig where
  bridge : BridgeConfig
  components : List ComponentConfig
  /-- Record a component that cannot be looked for and go on, instead of giving up. -/
  tolerateFailures : Bool
  concurrency : UInt64
  deriving DecidableEq

/-- The control plane by labels and static pods on the masters, the service proxy by its label,
and the node agent as a bare process everywhere. -/
def SurveyConfig.standard : SurveyConfig where
  bridge := .standard
  components :=
    ["kube-apiserver", "kube-controller-manager", "kube-scheduler", "etcd"].map
        ComponentConfig.controlPlane ++
      [{ name := "kube-proxy", ns := defaultNamespace,
         source := .auto (.ofList [("k8s-app", "kube-proxy")]) [] false },
       { name := "kubelet", ns := defaultNamespace, source := .bare [] false }]
  tolerateFailures := false
  concurrency := defaultConcurrency

end ClusterSurvey
