import ClusterSurvey.Cluster.Memory
import ClusterSurvey.Proofs.Commands
import ClusterSurvey.Proofs.Selectors

/-! The pods that commands for nodes are run in. A bridge asks for the agent of a node by two
selectors, one with the name of the agent and one with that of the node, and runs the command in the
pod that answers alone. Both names go into the selectors as they are, so a comma in one of them ends
the name that is asked for. -/
namespace ClusterSurvey

/-- A cluster whose listings of pods keep to their namespace and their query. -/
def Cluster.Selects (cluster : Cluster) : Prop :=
  ∀ ns query pods, cluster (.listPods (some ns) query) = .ok pods →
    ∀ pod ∈ pods, pod.metadata.ns = some ns ∧ pod.meets query = true

theorem MemoryCluster.eq_of_barring_eq_ok {α : Type} {failure : Option CallError} {answer a : α}
    (h : barring failure answer = .ok a) : a = answer := by
  cases failure with
  | some e => cases h
  | none => exact (Except.ok.inj h).symm

theorem MemoryCluster.selects_answer (m : MemoryCluster) : Cluster.Selects m.answer := by
  intro ns query pods hpods pod hpod
  rw [eq_of_barring_eq_ok hpods, List.mem_filter, Bool.and_eq_true] at hpod
  obtain ⟨_, hns, hmeets⟩ := hpod
  exact ⟨by simpa [isIn] using hns, hmeets⟩

/-- A pod that runs an agent on a node. -/
structure Pod.RunsAgent (pod : Pod) (ns agent node : String) : Prop where
  ns_eq : pod.metadata.ns = some ns
  label_eq : pod.label? agentLabelKey = some agent
  nodeName_eq : pod.spec.bind (·.nodeName) = some node

namespace AgentBridge

variable {bridge : AgentBridge} {cluster : Cluster} {node name : String} {pod : Pod}

structure Picks (bridge : AgentBridge) (cluster : Cluster) (node : String) (pod : Pod)
    (name : String) : Prop where
  listed : cluster (.listPods (some bridge.ns) (bridge.query node)) = .ok [pod]
  named : pod.metadata.name = some name

theorem agentAmong_eq_ok_iff {pods : List Pod} :
    bridge.agentAmong node pods = .ok name ↔
      ∃ pod, pods = [pod] ∧ pod.metadata.name = some name := by
  unfold agentAmong
  split
  · simp
  · rename_i pod
    cases hname : pod.metadata.name with
    | none => simp [hname]
    | some other => simp [hname]
  · rename_i hmany
    constructor
    · intro h
      cases h
    · rintro ⟨pod, hpods, _⟩
      exact absurd hpods (hmany pod)

theorem value_agentPod_eq_ok_iff :
    ((bridge.agentPod node).on cluster).value = .ok name ↔
      ∃ pod, bridge.Picks cluster node pod name := by
  unfold agentPod
  rw [Survey.value_bind, Survey.value_ask]
  cases hlisted : cluster (.listPods (some bridge.ns) (bridge.query node)) with
  | error e =>
    constructor
    · intro h
      cases h
    · rintro ⟨pod, hpicks⟩
      cases hlisted.symm.trans hpicks.listed
  | ok pods =>
    rw [Survey.value_pure, agentAmong_eq_ok_iff]
    constructor
    · rintro ⟨pod, rfl, hname⟩
      exact ⟨pod, hlisted, hname⟩
    · rintro ⟨pod, hpicks⟩
      exact ⟨pod, Except.ok.inj (hlisted.symm.trans hpicks.listed), hpicks.named⟩

theorem events_agentPod :
    ((bridge.agentPod node).on cluster).events =
      [.asked (.listPods (some bridge.ns) (bridge.query node))] := by
  unfold agentPod
  rw [Survey.events_bind, Survey.events_ask, Survey.value_ask]
  cases cluster (.listPods (some bridge.ns) (bridge.query node)) <;> rfl

theorem events_execute_of_error {e : SurveyError}
    (h : ((bridge.agentPod node).on cluster).value = .error e) (command : List String) :
    ((bridge.execute node command).on cluster).events =
      [.asked (.listPods (some bridge.ns) (bridge.query node))] := by
  unfold execute
  rw [Survey.events_bind, events_agentPod, h]
  rfl

theorem events_execute_of_picks (h : bridge.Picks cluster node pod name) (command : List String) :
    ((bridge.execute node command).on cluster).events =
      [.asked (.listPods (some bridge.ns) (bridge.query node)),
        .asked (.exec bridge.ns name (enterHost ++ command))] := by
  unfold execute
  rw [Survey.events_bind, events_agentPod, value_agentPod_eq_ok_iff.mpr ⟨pod, h⟩]
  rfl

theorem events_execute_of_not_picks (h : ∀ pod name, ¬bridge.Picks cluster node pod name)
    (command : List String) :
    ((bridge.execute node command).on cluster).events =
      [.asked (.listPods (some bridge.ns) (bridge.query node))] := by
  cases hagent : ((bridge.agentPod node).on cluster).value with
  | error e => exact events_execute_of_error hagent command
  | ok name =>
    obtain ⟨pod, hpicks⟩ := value_agentPod_eq_ok_iff.mp hagent
    exact absurd hpicks (h pod name)

theorem executions_execute_of_picks (h : bridge.Picks cluster node pod name)
    (command : List String) :
    executions ((bridge.execute node command).on cluster).events =
      [⟨bridge.ns, name, enterHost ++ command⟩] := by
  rw [events_execute_of_picks h]
  rfl

theorem executions_execute_of_error {command : List String} {e : SurveyError}
    (h : ((bridge.agentPod node).on cluster).value = .error e) :
    executions ((bridge.execute node command).on cluster).events = [] := by
  rw [events_execute_of_error h]
  rfl

theorem plain_agentLabelKey : Selector.Plain agentLabelKey := ⟨by decide, by decide⟩

theorem plain_nodeField : Selector.Plain Selector.nodeField := ⟨by decide, by decide⟩

theorem Picks.runsAgent (hselects : Cluster.Selects cluster)
    (h : bridge.Picks cluster node pod name) :
    pod.RunsAgent bridge.ns (Selector.beforeComma bridge.agent) (Selector.beforeComma node) := by
  obtain ⟨hns, hmeets⟩ := hselects _ _ _ h.listed pod List.mem_cons_self
  unfold Pod.meets query selector at hmeets
  rw [Bool.and_eq_true] at hmeets
  refine ⟨hns, Selector.value?_of_holds plain_agentLabelKey hmeets.1, ?_⟩
  have hfield := Selector.value?_of_holds plain_nodeField hmeets.2
  unfold Pod.field? at hfield
  rwa [if_pos rfl] at hfield

theorem Picks.runsAgent_iff (hselects : Cluster.Selects cluster)
    (h : bridge.Picks cluster node pod name) :
    pod.RunsAgent bridge.ns bridge.agent node ↔
      ',' ∉ bridge.agent.toList ∧ ',' ∉ node.toList := by
  have hfront := h.runsAgent hselects
  rw [← Selector.beforeComma_eq_self_iff, ← Selector.beforeComma_eq_self_iff]
  constructor
  · intro hwhole
    constructor
    · exact Option.some.inj (hfront.label_eq.symm.trans hwhole.label_eq)
    · exact Option.some.inj (hfront.nodeName_eq.symm.trans hwhole.nodeName_eq)
  · rintro ⟨hagent, hnode⟩
    rwa [hagent, hnode] at hfront

structure Delivers (bridge : AgentBridge) (node : String) (command : List String)
    (cluster : Cluster) : Prop where
  executions_eq : ∀ pod name, bridge.Picks cluster node pod name →
    executions ((bridge.execute node command).on cluster).events =
      [⟨bridge.ns, name, enterHost ++ command⟩]
  eq_nil : (∀ pod name, ¬ bridge.Picks cluster node pod name) →
    executions ((bridge.execute node command).on cluster).events = []
  runsAgent : ∀ pod name, bridge.Picks cluster node pod name →
    pod.RunsAgent bridge.ns (Selector.beforeComma bridge.agent) (Selector.beforeComma node)
  runsAgent_iff : ∀ pod name, bridge.Picks cluster node pod name →
    (pod.RunsAgent bridge.ns bridge.agent node ↔ ',' ∉ bridge.agent.toList ∧ ',' ∉ node.toList)

/-- A command is run at most once, in the pod that was picked; that this is the agent of the node is
certain just where neither of the two names holds a comma. -/
theorem delivers_execute (bridge : AgentBridge) (node : String) (command : List String)
    {cluster : Cluster} (h : Cluster.Selects cluster) :
    bridge.Delivers node command cluster where
  executions_eq := by
    intro pod name hpicks
    exact executions_execute_of_picks hpicks command
  eq_nil := by
    intro hnone
    rw [events_execute_of_not_picks hnone]
    rfl
  runsAgent := fun _ _ hpicks => hpicks.runsAgent h
  runsAgent_iff := fun _ _ hpicks => hpicks.runsAgent_iff h

end AgentBridge

namespace Sample

def agent : Pod :=
  ⟨{ Metadata.blank with
      name := some "kubeprobe-agent-cp-1"
      ns := some "kube-system"
      labels := some (.ofList [("k8s-app", "kubeprobe-agent")]) },
    (⟨some ⟨some "cp-1", [], ∅⟩, none⟩ : PodBody)⟩

def host : MemoryCluster where
  inventory := ((∅ : Inventory).absorb ⟨.nodes, [node]⟩).absorb ⟨.pods, [agent]⟩
  nodesFailure := none
  kindFailures := fun _ => none
  labelFailures := ∅
  fieldFailures := ∅
  podFailures := ∅
  commands := [⟨none, none, .ok ⟨"7\n--v=2\n", ""⟩⟩]

def misplaced : SurveyConfig where
  bridge := .standard
  components := [⟨"kubelet", "kube-system", .bare ["cp-1,spec.nodeName=cp-1"] false⟩]
  tolerateFailures := false
  concurrency := 5

def bridge : AgentBridge := ⟨"kube-system", "kubeprobe-agent"⟩

theorem picks_misplaced :
    bridge.Picks host.answer "cp-1,spec.nodeName=cp-1" agent "kubeprobe-agent-cp-1" where
  listed := rfl
  named := rfl

end Sample

theorem AgentBridge.delivers_sample : Cluster.Selects Sample.host.answer ∧
    Sample.bridge.Delivers "cp-1,spec.nodeName=cp-1" ["uname", "-r"] Sample.host.answer :=
  ⟨Sample.host.selects_answer, delivers_execute _ _ _ Sample.host.selects_answer⟩

/-- A configuration that is accepted can have a command for one node run on another. -/
theorem AgentBridge.strays_from_node :
    Sample.misplaced.validate = .ok () ∧
      Sample.misplaced.bridge.bridge? = some Sample.bridge ∧
      ∃ c ∈ Sample.misplaced.components,
        ∃ node ∈ resolveNodes Sample.host.inventory.nodes c.source.nodes c.source.onMasters,
          executions ((Sample.bridge.execute node (probeCommand c.name)).on
              Sample.host.answer).events =
            [⟨"kube-system", "kubeprobe-agent-cp-1", enterHost ++ probeCommand c.name⟩] ∧
          Sample.bridge.Picks Sample.host.answer node Sample.agent "kubeprobe-agent-cp-1" ∧
          Sample.agent.spec.bind (·.nodeName) = some "cp-1" ∧ node ≠ "cp-1" := by
  refine ⟨rfl, rfl, _, List.mem_cons_self, "cp-1,spec.nodeName=cp-1", List.mem_cons_self, ?_,
    Sample.picks_misplaced, rfl, by decide⟩
  exact executions_execute_of_picks Sample.picks_misplaced _

end ClusterSurvey
