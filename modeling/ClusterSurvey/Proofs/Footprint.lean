import ClusterSurvey.Proofs.Composition

/-! What a survey can leave in the trace, whatever the cluster answers. A rule for events is kept by
a survey if its parts keep it, so that for each explorer and each stage it is enough to look at the
few events that are its own. -/
namespace ClusterSurvey

namespace Survey

variable {α β ε : Type} {P : Event → Prop}

/-- A survey that leaves no other events than those of some sort. -/
def Only (P : Event → Prop) (survey : Survey α) : Prop :=
  ∀ cluster, ∀ event ∈ (survey.on cluster).events, P event

theorem only_pure (a : α) : (pure a : Survey α).Only P := by
  intro cluster event h
  cases h

theorem only_bind {survey : Survey α} {next : α → Survey β} (h : survey.Only P)
    (hnext : ∀ a, (next a).Only P) : (survey >>= next).Only P := by
  intro cluster event hevent
  rw [events_bind, List.mem_append] at hevent
  rcases hevent with hevent | hevent
  · exact h cluster event hevent
  · exact hnext _ cluster event hevent

theorem only_note {event : Event} (h : P event) : (note event).Only P := by
  intro cluster other hother
  rw [events_note, List.mem_singleton] at hother
  rw [hother]
  exact h

theorem only_ask {call : Call} (h : P (.asked call)) : (ask call).Only P := by
  intro cluster other hother
  rw [events_ask, List.mem_singleton] at hother
  rw [hother]
  exact h

theorem only_gated {stage : Stage} {visitor : String} {survey : Survey α}
    (hgate : ∀ step, P (.passed stage step)) (h : survey.Only P) :
    (gated stage visitor survey).Only P := by
  unfold gated
  refine only_bind (only_note (hgate _)) fun _ => only_bind h fun a => ?_
  exact only_bind (only_note (hgate _)) fun _ => only_pure a

theorem composes_only : Composes (Only P) := ⟨only_pure, only_bind⟩

end Survey

variable {P : Event → Prop}

theorem AgentBridge.only_execute (bridge : AgentBridge) {node : String} {command : List String}
    (hlist : P (.asked (.listPods (some bridge.ns) (bridge.query node))))
    (hexec : ∀ pod, P (.asked (.exec bridge.ns pod (enterHost ++ command)))) :
    (bridge.execute node command).Only P :=
  Survey.composes_only.execute (Survey.only_ask hlist) fun pod => Survey.only_ask (hexec pod)

theorem BridgeConfig.executor?_eq_some_iff {config : BridgeConfig} {executor : NodeExecutor} :
    config.executor? = some executor ↔
      ∃ ns agent, config = .proxy ns agent ∧ executor = (AgentBridge.mk ns agent).execute := by
  cases config with
  | disabled => simp [executor?, bridge?]
  | proxy ns agent => simp [executor?, bridge?, eq_comm]

theorem ExplorerContext.Builtin.only {ctx : ExplorerContext} {explorer : Explorer}
    (h : ctx.Builtin explorer) (hgate : ∀ step, P (.passed .components step))
    (hlist : ∀ query, P (.asked (.listPods (some ctx.component.ns) query)))
    (hget : ∀ node ∈ ctx.nodes,
      P (.asked (.getPod ctx.component.ns (staticPodName ctx.component.name node))))
    (hexec : ∀ executor, ctx.executor = some executor →
      ∀ node ∈ ctx.nodes, (executor node (probeCommand ctx.component.name)).Only P) :
    explorer.find.Only P := by
  refine Survey.composes_only.builtin h ?_ ?_ ?_
  · intro query
    exact Survey.only_ask (hlist query)
  · intro node hnode
    refine Survey.only_gated hgate ?_
    exact Survey.composes_only.staticPodOn (Survey.only_ask (hget node hnode))
  · intro executor reached node hnode
    refine Survey.only_gated hgate ?_
    exact Survey.composes_only.probeNode (hexec executor reached node hnode)

theorem Dispatcher.only_search {component : String} {candidates : List Explorer}
    (h : ∀ candidate ∈ candidates,
      P (.consulted component candidate.strategy) ∧ candidate.find.Only P) :
    (search component candidates).Only P :=
  Survey.composes_only.search fun candidate hcandidate =>
    ⟨Survey.only_note (h candidate hcandidate).1, (h candidate hcandidate).2⟩

theorem Collector.only_fetchMachines (c : Collector) (stage : ComponentStage)
    (hgate : ∀ step, P (.passed .machines step))
    (hexec : ∀ executor, c.executor = some executor →
      ∀ node ∈ Node.names stage.inventory.nodes, (executor node tunablesCommand).Only P) :
    (c.fetchMachines stage).Only P := by
  refine Survey.composes_only.fetchMachines ?_
  intro executor hexecutor node hnode
  refine Survey.only_gated hgate ?_
  exact Survey.composes_only.fetchMachine (hexec executor hexecutor node hnode)

namespace Surveyor

theorem only_init {s : Surveyor} (hnodes : P (.asked .listNodes)) : s.init.Only P :=
  Survey.composes_only.init (Survey.only_ask hnodes)

theorem only_sync {s : Surveyor} {now : Timestamp}
    (h : ∀ collector, s.collector = some collector → (collector.collect now).Only P) :
    (s.sync now).Only P :=
  Survey.composes_only.sync h

/-- With the explorers that are built in, commands are run for the tunables of nodes and to probe
for a configured component, and only where a bridge is configured. -/
theorem only_collect_prepare {config : SurveyConfig} {nodes : List Node}
    (hobjects : ∀ kind, P (.asked (.listObjects kind)))
    (hpods : ∀ ns query, P (.asked (.listPods ns query)))
    (hpod : ∀ ns name, P (.asked (.getPod ns name)))
    (hgate : ∀ stage step, P (.passed stage step))
    (hconsulted : ∀ c ∈ config.components,
      ∀ candidate ∈ (dispatcher config .builtin nodes c).candidates,
        P (.consulted c.name candidate.strategy))
    (htunables : ∀ ns agent, config.bridge = .proxy ns agent →
      ∀ pod, P (.asked (.exec ns pod (enterHost ++ tunablesCommand))))
    (hprobe : ∀ ns agent, config.bridge = .proxy ns agent →
      ∀ c ∈ config.components, ∀ pod, P (.asked (.exec ns pod (enterHost ++ probeCommand c.name))))
    (now : Timestamp) : ((prepare config .builtin nodes).collect now).Only P := by
  refine Survey.composes_only.collect (fun kind => Survey.only_ask (hobjects kind)) ?_ ?_ now
  · intro d hd
    obtain ⟨c, hc, rfl⟩ := List.mem_map.mp hd
    apply Dispatcher.only_search
    intro candidate hcandidate
    refine ⟨hconsulted c hc candidate hcandidate, ?_⟩
    refine (Registry.mem_chain_builtin_iff.mp hcandidate).only (hgate _) (hpods _)
      (fun _ _ => hpod _ _) ?_
    intro executor hexecutor node _
    obtain ⟨ns, agent, hbridge, rfl⟩ := BridgeConfig.executor?_eq_some_iff.mp hexecutor
    exact AgentBridge.only_execute _ (hpods _ _) (hprobe ns agent hbridge c hc)
  · intro stage
    apply Collector.only_fetchMachines _ stage (hgate _)
    intro executor hexecutor node _
    obtain ⟨ns, agent, hbridge, rfl⟩ := BridgeConfig.executor?_eq_some_iff.mp hexecutor
    exact AgentBridge.only_execute _ (hpods _ _) (htunables ns agent hbridge)

end Surveyor

end ClusterSurvey
