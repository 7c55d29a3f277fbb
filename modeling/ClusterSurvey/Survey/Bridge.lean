import ClusterSurvey.Config.Basic
import ClusterSurvey.Survey.Error
import ClusterSurvey.Survey.Trace

/-! Running commands on nodes. No node is called directly: each one runs an agent pod, and a
command for a node is run inside its agent, from where it enters the node itself. -/
namespace ClusterSurvey

abbrev NodeExecutor := String → List String → Survey (Except SurveyError ExecOutput)

/-- What a command begins with that leaves the agent and enters the node. -/
def enterHost : List String :=
  ["nsenter", "--target", "1", "--mount", "--uts", "--ipc", "--net", "--pid", "--"]

structure AgentBridge where
  ns : String
  agent : String
  deriving DecidableEq, Repr

namespace AgentBridge

def selector (bridge : AgentBridge) : String := Selector.termText agentLabelKey bridge.agent

def query (bridge : AgentBridge) (node : String) : PodQuery where
  labels := some bridge.selector
  fields := some (Selector.termText Selector.nodeField node)

def agentAmong (bridge : AgentBridge) (node : String) (pods : List Pod) :
    Except SurveyError String :=
  match pods with
  | [] => .error (.agentNotFound node bridge.ns bridge.agent)
  | [pod] =>
    match pod.metadata.name with
    | some name => .ok name
    | none => .error (.agentNotFound node bridge.ns bridge.agent)
  | many => .error (.ambiguousAgent node many.length)

def agentPod (bridge : AgentBridge) (node : String) : Survey (Except SurveyError String) := do
  match ← Survey.ask (.listPods (some bridge.ns) (bridge.query node)) with
  | .ok pods => return bridge.agentAmong node pods
  | .error e => return .error (.transport ("failed to find remote agent on node " ++ node) e)

def execute (bridge : AgentBridge) : NodeExecutor := fun node command => do
  match ← bridge.agentPod node with
  | .ok pod =>
    return (← Survey.ask (.exec bridge.ns pod (enterHost ++ command))).mapError (.remote node)
  | .error e => return .error e

end AgentBridge

def BridgeConfig.bridge? : BridgeConfig → Option AgentBridge
  | proxy ns agent => some ⟨ns, agent⟩
  | disabled => none

/-- The way to the nodes that a configuration asks for. -/
def BridgeConfig.executor? (config : BridgeConfig) : Option NodeExecutor :=
  config.bridge?.map (·.execute)

end ClusterSurvey
