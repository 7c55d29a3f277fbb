import ClusterSurvey.Proofs.AgentPods
import ClusterSurvey.Proofs.Stages

/-! The nodes that a survey turns to. A component is looked for on the nodes that its source makes
of those its surveyor was set up with, and on no others (`Surveyor.aimsAt_of_mem_events_find`); the
machines that are read are those of the nodes that the survey itself has listed. -/
namespace ClusterSurvey

/-- Which of some nodes a component is expected on. -/
structure Source.ExpectedOn (source : Source) (nodes : List Node) (targets : List String) :
    Prop where
  masters : source.onMasters = true → targets =
    (nodes.filter fun node => masterRoleLabels.any fun key =>
      (node.metadata.labels.bind (·.get? key)).isSome).filterMap (·.metadata.name)
  listed : source.onMasters = false → source.nodes ≠ [] → targets = source.nodes
  named : source.onMasters = false → source.nodes = [] →
    targets = nodes.filterMap (·.metadata.name)

theorem Node.isMaster_eq (node : Node) :
    node.isMaster = masterRoleLabels.any fun key =>
      (node.metadata.labels.bind (·.get? key)).isSome := by
  unfold isMaster
  cases node.metadata.labels with
  | none => rfl
  | some labels => rfl

theorem Source.expectedOn_resolveNodes (source : Source) (nodes : List Node) :
    source.ExpectedOn nodes (resolveNodes nodes source.nodes source.onMasters) where
  masters := by
    intro honMasters
    unfold resolveNodes Node.names
    rw [if_pos honMasters, funext Node.isMaster_eq]
  listed := by
    intro honMasters hlisted
    unfold resolveNodes
    rw [if_neg (by simp [honMasters]), if_neg (by simpa using hlisted)]
  named := by
    intro honMasters hnone
    unfold resolveNodes Node.names
    rw [if_neg (by simp [honMasters]), if_pos (by simp [hnone])]

namespace AgentBridge

variable {bridge : AgentBridge} {cluster : Cluster} {node : String}

theorem mem_events_execute {command : List String} {event : Event}
    (h : event ∈ ((bridge.execute node command).on cluster).events) :
    event = .asked (.listPods (some bridge.ns) (bridge.query node)) ∨
      ∃ pod name, bridge.Picks cluster node pod name ∧
        event = .asked (.exec bridge.ns name (enterHost ++ command)) := by
  by_cases hpicked : ∃ pod name, bridge.Picks cluster node pod name
  · obtain ⟨pod, name, hpicks⟩ := hpicked
    rw [events_execute_of_picks hpicks, List.mem_cons, List.mem_singleton] at h
    exact h.imp_right fun hexec => ⟨pod, name, hpicks, hexec⟩
  · push Not at hpicked
    rw [events_execute_of_not_picks hpicked, List.mem_singleton] at h
    exact .inl h

end AgentBridge

/-- The events of a search for a component on some nodes: whatever is turned to a node is turned to
one of these. -/
inductive Event.AimsAt (bridge : BridgeConfig) (c : ComponentConfig) (targets : List String)
    (cluster : Cluster) : Event → Prop where
  | consults (strategy : String) : AimsAt bridge c targets cluster (.consulted c.name strategy)
  | selects (labels : Dict String) (labelled : c.source.labels? = some labels) :
      AimsAt bridge c targets cluster
        (.asked (.listPods (some c.ns) ⟨some (Selector.ofLabels labels), none⟩))
  | enters (node : String) (target : node ∈ targets) :
      AimsAt bridge c targets cluster (.passed .components (.enter node))
  | leaves (node : String) (target : node ∈ targets) :
      AimsAt bridge c targets cluster (.passed .components (.drop node))
  | looksUp (node : String) (target : node ∈ targets) :
      AimsAt bridge c targets cluster (.asked (.getPod c.ns (staticPodName c.name node)))
  | findsAgent (agents : AgentBridge) (bridged : bridge.bridge? = some agents) (node : String)
      (target : node ∈ targets) :
      AimsAt bridge c targets cluster (.asked (.listPods (some agents.ns) (agents.query node)))
  | probes (agents : AgentBridge) (bridged : bridge.bridge? = some agents) (node : String)
      (target : node ∈ targets) (pod : Pod) (name : String)
      (picked : agents.Picks cluster node pod name) :
      AimsAt bridge c targets cluster
        (.asked (.exec agents.ns name (enterHost ++ probeCommand c.name)))

namespace Explorer

theorem events_perNode (visit : String → Survey (Except SurveyError Component))
    (nodes : List String) (cluster : Cluster) :
    ((perNode visit nodes).on cluster).events =
      nodes.flatMap fun node => .passed .components (.enter node) ::
        ((visit node).on cluster).events ++ [.passed .components (.drop node)] := by
  simp [perNode]

theorem events_staticPodOn (component ns node : String) (cluster : Cluster) :
    ((staticPodOn component ns node).on cluster).events =
      [.asked (.getPod ns (staticPodName component node))] := by
  unfold staticPodOn
  rw [Survey.events_bind, Survey.events_ask, Survey.value_ask]
  cases cluster (.getPod ns (staticPodName component node)) with
  | error e => rfl
  | ok found => cases found <;> rfl

theorem mem_events_perNode {visit : String → Survey (Except SurveyError Component)}
    {nodes : List String} {cluster : Cluster} {event : Event}
    (h : event ∈ ((perNode visit nodes).on cluster).events) :
    ∃ node ∈ nodes, event = .passed .components (.enter node) ∨
      event ∈ ((visit node).on cluster).events ∨ event = .passed .components (.drop node) := by
  rw [events_perNode] at h
  obtain ⟨node, hnode, hevent⟩ := List.mem_flatMap.mp h
  refine ⟨node, hnode, ?_⟩
  simpa using hevent

end Explorer

theorem ExplorerContext.Builtin.aimsAt {ctx : ExplorerContext} {explorer : Explorer}
    {bridge : BridgeConfig} {cluster : Cluster} (h : ctx.Builtin explorer)
    (hbridge : ctx.executor = bridge.executor?) {event : Event}
    (hevent : event ∈ (explorer.find.on cluster).events) :
    event.AimsAt bridge ctx.component ctx.nodes cluster := by
  cases h with
  | label labels _ labelled =>
    unfold Explorer.byLabels at hevent
    rw [Survey.events_bind, Survey.events_ask, Survey.value_ask] at hevent
    cases hpods : cluster (.listPods (some ctx.component.ns)
        ⟨some (Selector.ofLabels labels), none⟩) with
    | error e =>
      rw [hpods] at hevent
      rw [List.mem_singleton.mp hevent]
      exact .selects labels labelled
    | ok pods =>
      rw [hpods] at hevent
      rw [List.mem_singleton.mp hevent]
      exact .selects labels labelled
  | staticPod =>
    obtain ⟨node, hnode, rfl | hevent | rfl⟩ := Explorer.mem_events_perNode hevent
    · exact .enters node hnode
    · rw [Explorer.events_staticPodOn] at hevent
      rw [List.mem_singleton.mp hevent]
      exact .looksUp node hnode
    · exact .leaves node hnode
  | bare executor _ reached =>
    rw [hbridge] at reached
    obtain ⟨agents, hagents, rfl⟩ := Option.map_eq_some_iff.mp reached
    obtain ⟨node, hnode, rfl | hevent | rfl⟩ := Explorer.mem_events_perNode hevent
    · exact .enters node hnode
    · unfold probeNode at hevent
      rw [Survey.events_bind, Survey.events_pure, List.append_nil] at hevent
      rcases AgentBridge.mem_events_execute hevent with rfl | ⟨pod, name, hpicks, rfl⟩
      · exact .findsAgent agents hagents node hnode
      · exact .probes agents hagents node hnode pod name hpicks
    · exact .leaves node hnode

theorem Dispatcher.mem_events_search {component : String} {candidates : List Explorer}
    {cluster : Cluster} {event : Event}
    (h : event ∈ ((search component candidates).on cluster).events) :
    ∃ candidate ∈ candidates, event = .consulted component candidate.strategy ∨
      event ∈ (candidate.find.on cluster).events := by
  induction candidates with
  | nil => cases h
  | cons candidate rest ih =>
    rw [search, Survey.events_bind, Survey.events_note, Survey.events_bind,
      List.singleton_append, List.mem_cons, List.mem_append] at h
    rcases h with h | h | h
    · exact ⟨candidate, List.mem_cons_self, .inl h⟩
    · exact ⟨candidate, List.mem_cons_self, .inr h⟩
    · cases hfound : (candidate.find.on cluster).value with
      | error e =>
        rw [hfound] at h
        cases h
      | ok found =>
        rw [hfound] at h
        dsimp only at h
        split at h
        · cases h
        · obtain ⟨other, hother, hevent⟩ := ih h
          exact ⟨other, List.mem_cons_of_mem _ hother, hevent⟩

theorem Surveyor.aimsAt_of_mem_events_find {config : SurveyConfig} {nodes : List Node}
    {c : ComponentConfig} {cluster : Cluster} {event : Event}
    (h : event ∈ ((dispatcher config .builtin nodes c).find.on cluster).events) :
    event.AimsAt config.bridge c (resolveNodes nodes c.source.nodes c.source.onMasters)
      cluster := by
  obtain ⟨candidate, hcandidate, rfl | hevent⟩ := Dispatcher.mem_events_search h
  · exact .consults _
  · exact (Registry.mem_chain_builtin_iff.mp hcandidate).aimsAt rfl hevent

namespace Survey

variable {α β ε : Type}

theorem exists_visited (visit : α → Survey (Except ε β)) (items : List α) (cluster : Cluster) :
    ∃ visited, visited <+: items ∧
      ((untilFailure visit items).on cluster).events =
        visited.flatMap (fun a => ((visit a).on cluster).events) ∧
      ∀ values, ((untilFailure visit items).on cluster).value = .ok values → visited = items := by
  induction items with
  | nil => exact ⟨[], List.prefix_refl _, rfl, fun _ _ => rfl⟩
  | cons a rest ih =>
    obtain ⟨visited, hprefix, hevents, hall⟩ := ih
    rw [untilFailure, events_bind, value_bind]
    cases hvalue : ((visit a).on cluster).value with
    | error e =>
      refine ⟨[a], List.prefix_append [a] rest, by simp, ?_⟩
      intro values hvalues
      cases hvalues
    | ok b =>
      refine ⟨a :: visited, (List.prefix_cons_inj a).mpr hprefix, ?_, ?_⟩
      · rw [List.flatMap_cons, ← hevents, events_bind, events_pure, List.append_nil]
      · intro values hvalues
        rw [value_bind, value_pure] at hvalues
        cases hrest : ((untilFailure visit rest).on cluster).value with
        | error e =>
          rw [hrest] at hvalues
          cases hvalues
        | ok later => rw [hall later hrest]

end Survey

end ClusterSurvey
