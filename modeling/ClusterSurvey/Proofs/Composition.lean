import ClusterSurvey.Proofs.Chain
import ClusterSurvey.Surveyor

/-! Properties that surveys keep when they are put one after the other. Such a property holds of an
explorer, of a stage and of a whole survey as soon as it holds of the calls that are made there, so
that what a survey is made of is gone through here once for all of them. -/
namespace ClusterSurvey.Survey

/-- A property of surveys that is kept by what comes after. -/
structure Composes (Q : {α : Type} → Survey α → Prop) : Prop where
  of_pure : ∀ {α : Type} (a : α), Q (pure a : Survey α)
  of_bind : ∀ {α β : Type} {survey : Survey α} {next : α → Survey β},
    Q survey → (∀ a, Q (next a)) → Q (survey >>= next)

namespace Composes

variable {Q : {α : Type} → Survey α → Prop} (h : Composes Q) {α β ε : Type}

include h

theorem forEach {visit : α → Survey β} {items : List α} (hvisit : ∀ a ∈ items, Q (visit a)) :
    Q (Survey.forEach visit items) := by
  induction items with
  | nil => exact h.of_pure _
  | cons a rest ih =>
    rw [List.forall_mem_cons] at hvisit
    exact h.of_bind hvisit.1 fun _ => h.of_bind (ih hvisit.2) fun _ => h.of_pure _

theorem untilFailure {visit : α → Survey (Except ε β)} {items : List α}
    (hvisit : ∀ a ∈ items, Q (visit a)) : Q (Survey.untilFailure visit items) := by
  induction items with
  | nil => exact h.of_pure _
  | cons a rest ih =>
    rw [List.forall_mem_cons] at hvisit
    rw [Survey.untilFailure]
    apply h.of_bind hvisit.1
    intro result
    cases result with
    | error e => exact h.of_pure _
    | ok b => exact h.of_bind (ih hvisit.2) fun _ => h.of_pure _

theorem execute {bridge : AgentBridge} {node : String} {command : List String}
    (hlist : Q (ask (.listPods (some bridge.ns) (bridge.query node))))
    (hexec : ∀ pod, Q (ask (.exec bridge.ns pod (enterHost ++ command)))) :
    Q (bridge.execute node command) := by
  unfold AgentBridge.execute AgentBridge.agentPod
  apply h.of_bind
  · apply h.of_bind hlist
    intro answer
    cases answer with
    | error e => exact h.of_pure _
    | ok pods => exact h.of_pure _
  · intro agent
    cases agent with
    | error e => exact h.of_pure _
    | ok pod => exact h.of_bind (hexec pod) fun _ => h.of_pure _

theorem byLabels {name ns : String} {labels : Dict String}
    (hlist : Q (ask (.listPods (some ns) ⟨some (Selector.ofLabels labels), none⟩))) :
    Q (Explorer.byLabels name ns labels).find := by
  unfold Explorer.byLabels
  apply h.of_bind hlist
  intro answer
  cases answer with
  | error e => exact h.of_pure _
  | ok pods => exact h.of_pure _

theorem perNode {visit : String → Survey (Except SurveyError Component)} {nodes : List String}
    (hvisit : ∀ node ∈ nodes, Q (gated .components node (visit node))) :
    Q (Explorer.perNode visit nodes) := by
  unfold Explorer.perNode
  exact h.of_bind (h.forEach hvisit) fun _ => h.of_pure _

theorem staticPodOn {name ns node : String}
    (hget : Q (ask (.getPod ns (staticPodName name node)))) :
    Q (ClusterSurvey.staticPodOn name ns node) := by
  unfold ClusterSurvey.staticPodOn
  apply h.of_bind hget
  intro answer
  cases answer with
  | error e => exact h.of_pure _
  | ok pod => cases pod <;> exact h.of_pure _

theorem probeNode {executor : NodeExecutor} {name node : String}
    (hexec : Q (executor node (probeCommand name))) :
    Q (ClusterSurvey.probeNode executor name node) :=
  h.of_bind hexec fun _ => h.of_pure _

theorem builtin {ctx : ExplorerContext} {explorer : Explorer} (hbuiltin : ctx.Builtin explorer)
    (hlist : ∀ query, Q (ask (.listPods (some ctx.component.ns) query)))
    (hstatic : ∀ node ∈ ctx.nodes, Q (gated .components node
      (ClusterSurvey.staticPodOn ctx.component.name ctx.component.ns node)))
    (hbare : ∀ executor, ctx.executor = some executor → ∀ node ∈ ctx.nodes,
      Q (gated .components node (ClusterSurvey.probeNode executor ctx.component.name node))) :
    Q explorer.find := by
  cases hbuiltin with
  | label => exact h.byLabels (hlist _)
  | staticPod => exact h.perNode hstatic
  | bare executor _ reached => exact h.perNode (hbare executor reached)

theorem search {component : String} {candidates : List Explorer}
    (hcandidates : ∀ candidate ∈ candidates,
      Q (note (.consulted component candidate.strategy)) ∧ Q candidate.find) :
    Q (Dispatcher.search component candidates) := by
  induction candidates with
  | nil => exact h.of_pure _
  | cons candidate rest ih =>
    obtain ⟨⟨hconsulted, hfind⟩, hrest⟩ := List.forall_mem_cons.mp hcandidates
    rw [Dispatcher.search]
    refine h.of_bind hconsulted fun _ => h.of_bind hfind ?_
    intro result
    cases result with
    | error e => exact h.of_pure _
    | ok found =>
      dsimp only
      split
      · exact h.of_pure _
      · exact ih hrest

theorem fetchInventory (hlist : ∀ kind, Q (ask (.listObjects kind))) :
    Q Collector.fetchInventory := by
  unfold Collector.fetchInventory Collector.fetchKinds
  refine h.of_bind (h.untilFailure ?_) fun _ => h.of_pure _
  intro kind _
  unfold Collector.listKind
  apply h.of_bind (hlist kind)
  intro answer
  cases answer with
  | error e => exact h.of_pure _
  | ok items => exact h.of_pure _

theorem dispatchAll {dispatchers : List Dispatcher} (hfind : ∀ d ∈ dispatchers, Q d.find) :
    Q (Collector.dispatchAll dispatchers) := by
  unfold Collector.dispatchAll
  apply h.forEach
  intro d hd
  exact h.of_bind (hfind d hd) fun _ => h.of_pure _

theorem fetchMachine {executor : NodeExecutor} {node : String}
    (hexec : Q (executor node tunablesCommand)) : Q (Collector.fetchMachine executor node) := by
  unfold Collector.fetchMachine
  apply h.of_bind hexec
  intro result
  cases result with
  | error e => exact h.of_pure _
  | ok output => exact h.of_pure _

theorem probeNodes {executor : NodeExecutor} {nodes : List String}
    (hprobe : ∀ node ∈ nodes, Q (gated .machines node (Collector.fetchMachine executor node))) :
    Q (Collector.probeNodes executor nodes) := by
  unfold Collector.probeNodes
  exact h.of_bind (h.untilFailure hprobe) fun _ => h.of_pure _

theorem fetchMachines {c : Collector} {stage : ComponentStage}
    (hprobe : ∀ executor, c.executor = some executor →
      ∀ node ∈ Node.names stage.inventory.nodes,
        Q (gated .machines node (Collector.fetchMachine executor node))) :
    Q (c.fetchMachines stage) := by
  unfold Collector.fetchMachines
  split
  · exact h.of_pure _
  · rename_i executor hexecutor
    split
    · exact h.of_pure _
    · exact h.of_bind (h.probeNodes (hprobe executor hexecutor)) fun _ => h.of_pure _

theorem collect {c : Collector} (hlist : ∀ kind, Q (ask (.listObjects kind)))
    (hfind : ∀ d ∈ c.dispatchers, Q d.find) (hmachines : ∀ stage, Q (c.fetchMachines stage))
    (now : Timestamp) : Q (c.collect now) := by
  unfold Collector.collect
  apply h.of_bind (h.fetchInventory hlist)
  intro listed
  cases listed with
  | error e => exact h.of_pure _
  | ok inventory =>
    unfold Collector.fetchComponents
    apply h.of_bind (h.of_bind (h.dispatchAll hfind) fun _ => h.of_pure _)
    intro merged
    cases merged with
    | error e => exact h.of_pure _
    | ok stage => exact h.of_bind (hmachines stage) fun _ => h.of_pure _

theorem init {s : Surveyor} (hnodes : Q (ask .listNodes)) : Q s.init := by
  unfold Surveyor.init
  split
  · exact h.of_pure _
  · split
    · exact h.of_pure _
    · apply h.of_bind hnodes
      intro answer
      cases answer with
      | error e => exact h.of_pure _
      | ok nodes =>
        dsimp only
        split
        · exact h.of_pure _
        · exact h.of_pure _

theorem sync {s : Surveyor} {now : Timestamp}
    (hcollect : ∀ collector, s.collector = some collector → Q (collector.collect now)) :
    Q (s.sync now) := by
  unfold Surveyor.sync
  split
  · exact h.of_pure _
  · rename_i collector hcollector
    apply h.of_bind (hcollect collector hcollector)
    intro result
    cases result with
    | error abort => exact h.of_pure _
    | ok snapshot => exact h.of_pure _

end Composes

end ClusterSurvey.Survey
