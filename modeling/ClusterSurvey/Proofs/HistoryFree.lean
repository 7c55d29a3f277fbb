import ClusterSurvey.Proofs.Agreement
import ClusterSurvey.Proofs.Permits
import ClusterSurvey.Proofs.Progress

/-! What a survey depends on. Once it is set up, a surveyor keeps the nodes that it found then, and
nothing of any survey: two of one configuration that found the same nodes come to the same in the
same cluster, whatever they have been through since (`Surveyor.targets_fixed`). -/
namespace ClusterSurvey

theorem Collector.events_probe (executor : NodeExecutor) (node : String) (cluster : Cluster) :
    ((probe executor node).on cluster).events =
      .passed .machines (.enter node) :: ((executor node tunablesCommand).on cluster).events ++
        [.passed .machines (.drop node)] := by
  unfold probe fetchMachine
  rw [Survey.events_gated, Survey.events_bind]
  cases ((executor node tunablesCommand).on cluster).value <;>
    rw [Survey.events_pure, List.append_nil]

namespace AgentBridge

/-- The events of reading the machine of a node: its agent is asked for, and lists the tunables if
one pod answers for it. -/
inductive CallsFor (bridge : AgentBridge) (cluster : Cluster) (node : String) :
    List Event → Prop where
  | answered (pod : Pod) (name : String) (picked : bridge.Picks cluster node pod name) :
      CallsFor bridge cluster node
        [.passed .machines (.enter node), .asked (.listPods (some bridge.ns) (bridge.query node)),
          .asked (.exec bridge.ns name (enterHost ++ tunablesCommand)),
          .passed .machines (.drop node)]
  | unanswered (unpicked : ∀ pod name, ¬bridge.Picks cluster node pod name) :
      CallsFor bridge cluster node
        [.passed .machines (.enter node), .asked (.listPods (some bridge.ns) (bridge.query node)),
          .passed .machines (.drop node)]

theorem callsFor_events_probe (bridge : AgentBridge) (cluster : Cluster) (node : String) :
    bridge.CallsFor cluster node ((Collector.probe bridge.execute node).on cluster).events := by
  rw [Collector.events_probe]
  by_cases hpicked : ∃ pod name, bridge.Picks cluster node pod name
  · obtain ⟨pod, name, hpicks⟩ := hpicked
    rw [events_execute_of_picks hpicks]
    exact .answered pod name hpicks
  · push Not at hpicked
    rw [events_execute_of_not_picks hpicked]
    exact .unanswered hpicked

end AgentBridge

namespace Collector

variable {c : Collector} {cluster : Cluster} {now : Timestamp} {inventory : Inventory}

theorem agreeOn_undated_collect (c : Collector) (cluster : Cluster) (now now' : Timestamp) :
    ((c.collect now).on cluster).AgreeOn Snapshot.undated ((c.collect now').on cluster) := by
  have hsame : ∀ {α ε : Type} (survey : Survey (Except ε α)),
      (survey.on cluster).AgreeOn id (survey.on cluster) := fun _ => ⟨rfl, rfl⟩
  rw [collect_eq_andThen, collect_eq_andThen]
  refine Survey.agreeOn_andThen (hsame _) _ ?_
  rintro inventory _ rfl
  refine Survey.agreeOn_andThen (hsame _) _ ?_
  rintro stage _ rfl
  refine Survey.agreeOn_map (hsame _) ?_
  rintro snapshot _ rfl
  rfl

theorem events_collect_of_unlisted {e : SurveyError}
    (h : (fetchInventory.on cluster).value = .error e) (now : Timestamp) :
    ((c.collect now).on cluster).events = (fetchInventory.on cluster).events := by
  rw [collect_eq_andThen, Survey.events_andThen_of_error h]

/-- The events of a machine stage: it turns to the nodes one after the other, to each of them where
it does not fail, and to none without a way to them. -/
structure Probes (executor? : Option NodeExecutor) (cluster : Cluster) (nodes : List String)
    (complete : Prop) (events : List Event) : Prop where
  eq_nil : executor? = none → events = []
  exists_visited : ∀ executor, executor? = some executor → ∃ visited, visited <+: nodes ∧
    events = visited.flatMap (fun node => ((probe executor node).on cluster).events) ∧
    (complete → visited = nodes)

theorem probes_fetchMachines (c : Collector) (stage : ComponentStage) (cluster : Cluster) :
    Probes c.executor cluster (Node.names stage.inventory.nodes)
      (∃ s, ((c.fetchMachines stage).on cluster).value = .ok s)
      ((c.fetchMachines stage).on cluster).events := by
  unfold fetchMachines
  constructor
  · intro hnone
    rw [hnone]
    rfl
  · intro executor hexecutor
    rw [hexecutor]
    dsimp only
    cases Gate.ofLimit? c.concurrency.toNat with
    | none =>
      refine ⟨[], List.nil_prefix, rfl, ?_⟩
      rintro ⟨s, hs⟩
      cases hs
    | some gate =>
      obtain ⟨visited, hprefix, hevents, hall⟩ :=
        Survey.exists_visited (probe executor) (Node.names stage.inventory.nodes) cluster
      refine ⟨visited, hprefix, ?_, ?_⟩
      · rw [Survey.events_bind, Survey.events_pure, List.append_nil, ← hevents]
        exact List.append_nil _
      · rintro ⟨s, hs⟩
        cases hvalue : ((Survey.untilFailure (probe executor)
            (Node.names stage.inventory.nodes)).on cluster).value with
        | ok machines => exact hall machines hvalue
        | error e =>
          have hprobed : ((probeNodes executor (Node.names stage.inventory.nodes)).on
              cluster).value = .error e := congrArg (Except.map Dict.ofList) hvalue
          rw [Survey.value_bind, Survey.value_pure, hprobed] at hs
          cases hs

theorem exists_probes_collect (h : (fetchInventory.on cluster).value = .ok inventory)
    (now : Timestamp) :
    ∃ probed, ((c.collect now).on cluster).events =
        (fetchInventory.on cluster).events ++
          (c.dispatchers.flatMap (fun d => (d.find.on cluster).events) ++ probed) ∧
      Probes c.executor cluster (Node.names inventory.nodes)
        (∃ s, ((c.collect now).on cluster).value = .ok s) probed := by
  rw [collect_eq_andThen, Survey.events_andThen_of_ok h, Survey.value_andThen_of_ok h]
  cases hstage : mergeResults c.tolerateFailures inventory (c.dispatched cluster) with
  | error e =>
    -- the survey ends here, before any machine is read
    have hfailed : ((c.fetchComponents inventory).on cluster).value = .error e :=
      (value_fetchComponents c inventory cluster).trans hstage
    refine ⟨[], ?_, fun _ => rfl, ?_⟩
    · rw [Survey.events_andThen_of_error hfailed, events_fetchComponents, List.append_nil]
    · rintro executor _
      refine ⟨[], List.nil_prefix, rfl, ?_⟩
      rintro ⟨s, hs⟩
      rw [Survey.value_andThen_of_error hfailed] at hs
      cases hs
  | ok stage =>
    have hmerged : ((c.fetchComponents inventory).on cluster).value = .ok stage :=
      (value_fetchComponents c inventory cluster).trans hstage
    obtain ⟨hnil, hvisited⟩ := probes_fetchMachines c stage cluster
    rw [inventory_of_mergeResults hstage] at hvisited
    refine ⟨((c.fetchMachines stage).on cluster).events, ?_, hnil, ?_⟩
    · rw [Survey.events_andThen_of_ok hmerged, events_fetchComponents, Survey.events_bind,
        Survey.events_pure, List.append_nil]
    · intro executor hexecutor
      obtain ⟨visited, hprefix, hevents, hall⟩ := hvisited executor hexecutor
      refine ⟨visited, hprefix, hevents, ?_⟩
      rintro ⟨s, hs⟩
      apply hall
      rw [Survey.value_andThen_of_ok hmerged, Survey.value_bind, Survey.value_pure] at hs
      cases hmachines : ((c.fetchMachines stage).on cluster).value with
      | error abort =>
        rw [hmachines] at hs
        cases hs
      | ok complete => exact ⟨complete, rfl⟩

end Collector

namespace Surveyor

variable {config : SurveyConfig} {registry : Registry} {nodes : List Node} {visits : List Visit}

theorem collector_run_of_eq_some {s : Surveyor} {c : Collector} (h : s.collector = some c)
    (visits : List Visit) : (s.run visits).collector = some c := by
  induction visits generalizing s with
  | nil => exact h
  | cons v rest ih =>
    apply ih
    cases (Episode.mk v s).ends with
    | failed _ _ next => rw [next, h]
    | settled _ _ _ fresh => rw [isInitialized_eq_false_iff.mp fresh] at h; cases h
    | published _ _ _ _ _ _ _ next =>
      rw [next]
      exact h

/-- Some call among others has set the surveyor up, when the cluster had some nodes. -/
def SettlesWith (s : Surveyor) (visits : List Visit) (nodes : List Node) : Prop :=
  ∃ e ∈ s.history visits, e.setsUp = true ∧ e.cluster .listNodes = .ok nodes

theorem collector_run_of_settlesWith {s : Surveyor} (hs : s.Consistent config registry)
    (h : s.SettlesWith visits nodes) :
    (s.run visits).collector = some (prepare config registry nodes) := by
  obtain ⟨e, he, hsetsUp, hnodes⟩ := h
  induction visits generalizing s with
  | nil => cases he
  | cons v rest ih =>
    rcases List.mem_cons.mp he with rfl | he
    · have hnone : (Episode.mk v s).failure? = none := by
        simpa using (Bool.and_eq_true_iff.mp hsetsUp).2
      have hnext : (Episode.next ⟨v, s⟩).collector = some (prepare config registry nodes) := by
        cases (Episode.mk v s).ends with
        | failed _ failure => rw [hnone] at failure; cases failure
        | published _ _ _ call =>
          rw [Episode.setsUp, call] at hsetsUp
          cases hsetsUp
        | settled found _ _ _ _ listed next =>
          rw [hnodes] at listed
          cases listed
          rw [next, ← hs.config_eq, ← hs.registry_eq]
          rfl
      exact collector_run_of_eq_some hnext rest
    · exact ih (Consistent.next (e := ⟨v, s⟩) hs) he

end Surveyor

structure Episode.AgreeOn {β : Type} (view : Snapshot → β) (e e' : Episode) : Prop where
  failure?_eq : e.failure? = e'.failure?
  events_eq : e.events = e'.events
  published_eq : e.failure? = none → e.next.snapshot?.map view = e'.next.snapshot?.map view

/-- How a survey turns to nodes: for a component to those that its source makes of the nodes of the
setting up, for machines to those that the survey has listed. -/
structure Episode.KeepsToTargets (config : SurveyConfig) (nodes : List Node) (e : Episode) :
    Prop where
  unlisted : ∀ error, (Collector.fetchInventory.on e.cluster).value = .error error →
    e.events = (Collector.fetchInventory.on e.cluster).events
  listed : ∀ inventory, (Collector.fetchInventory.on e.cluster).value = .ok inventory →
    e.cluster (.listObjects .nodes) = .ok inventory.nodes ∧
    ∃ probed, e.events = (Collector.fetchInventory.on e.cluster).events ++
        (config.components.flatMap (fun c =>
          ((Surveyor.dispatcher config .builtin nodes c).find.on e.cluster).events) ++ probed) ∧
      Collector.Probes config.bridge.executor? e.cluster (Node.names inventory.nodes)
        (e.failure? = none) probed
  callsFor : ∀ agents, config.bridge.bridge? = some agents →
    config.bridge.executor? = some agents.execute ∧ ∀ node, agents.CallsFor e.cluster node
      ((Collector.probe agents.execute node).on e.cluster).events
  aimsAt : ∀ c ∈ config.components, ∃ targets, c.source.ExpectedOn nodes targets ∧
    ∀ event ∈ ((Surveyor.dispatcher config .builtin nodes c).find.on e.cluster).events,
      event.AimsAt config.bridge c targets e.cluster

namespace Surveyor

variable {config : SurveyConfig} {nodes : List Node} {s s' : Surveyor} {c c' : Collector}
  {cluster cluster' : Cluster} {now now' : Timestamp}

theorem agreeOn_sync {β : Type} {view : Snapshot → β} (h : s.collector = some c)
    (h' : s'.collector = some c')
    (hcollect : ((c.collect now).on cluster).AgreeOn view ((c'.collect now').on cluster')) :
    (Episode.mk ⟨.sync now, cluster⟩ s).AgreeOn view
      (Episode.mk ⟨.sync now', cluster'⟩ s') := by
  obtain ⟨hvalue, hevents⟩ := hcollect
  have hevents' : (Episode.mk ⟨.sync now, cluster⟩ s).events =
      (Episode.mk ⟨.sync now', cluster'⟩ s').events :=
    (events_sync h now cluster).trans (hevents.trans (events_sync h' now' cluster').symm)
  refine ⟨?_, hevents', ?_⟩
  · rw [failure?_sync h, failure?_sync h']
    obtain ⟨abort, hx, hx'⟩ | ⟨built, built', hx, hx', _⟩ := error_or_ok_of_map_eq_map hvalue
    · rw [hx, hx']
    · rw [hx, hx']
  · rw [failure?_sync_eq_none_iff h, next_sync h, next_sync h']
    rintro ⟨built, hbuilt⟩
    obtain ⟨abort, hx, _⟩ | ⟨built, built', hx, hx', hview⟩ := error_or_ok_of_map_eq_map hvalue
    · rw [hbuilt] at hx
      cases hx
    · rw [hx, hx']
      exact congrArg some hview

theorem keepsToTargets_sync (h : s.collector = some (prepare config .builtin nodes))
    (now : Timestamp) (cluster : Cluster) :
    (Episode.mk ⟨.sync now, cluster⟩ s).KeepsToTargets config nodes where
  unlisted := by
    intro error hunlisted
    have hevents := events_sync h now cluster
    exact hevents.trans (Collector.events_collect_of_unlisted hunlisted now)
  listed := by
    intro inventory hlisted
    refine ⟨Collector.slot_of_fetchKinds ObjectKind.nodup_all hlisted (ObjectKind.mem_all _), ?_⟩
    obtain ⟨probed, hevents, hprobes⟩ :=
      Collector.exists_probes_collect (c := prepare config .builtin nodes) hlisted now
    rw [← failure?_sync_eq_none_iff h] at hprobes
    refine ⟨probed, ?_, hprobes⟩
    refine Eq.trans (events_sync h now cluster) (Eq.trans hevents ?_)
    unfold prepare
    rw [List.flatMap_map]
  callsFor := by
    intro agents hagents
    refine ⟨?_, fun node => agents.callsFor_events_probe cluster node⟩
    unfold BridgeConfig.executor?
    rw [hagents]
    rfl
  aimsAt := by
    intro c _
    exact ⟨_, c.source.expectedOn_resolveNodes nodes, fun event => aimsAt_of_mem_events_find⟩

/-- Two surveyors of one configuration, set up with the same nodes, come to the same in the same
cluster, whatever calls came between; they turn to no nodes but those that the first nodes and the
present ones tell, and the gate that they share with earlier surveys is as it was at first. -/
theorem targets_fixed {visits visits' : List Visit}
    (h : (new config .builtin).SettlesWith visits nodes)
    (h' : (new config .builtin).SettlesWith visits' nodes) (cluster : Cluster)
    (now now' : Timestamp) :
    (Episode.mk ⟨.sync now, cluster⟩ ((new config .builtin).run visits)).AgreeOn Snapshot.undated
        (Episode.mk ⟨.sync now', cluster⟩ ((new config .builtin).run visits')) ∧
      (Episode.mk ⟨.sync now, cluster⟩ ((new config .builtin).run visits)).KeepsToTargets
        config nodes ∧
      ∀ gate, Gate.ofLimit? config.concurrency.toNat = some gate →
        gate.run (gateSteps (((new config .builtin).history visits).flatMap Episode.events)) =
          gate := by
  have hready := collector_run_of_settlesWith consistent_new h
  have hready' := collector_run_of_settlesWith consistent_new h'
  refine ⟨agreeOn_sync hready hready' (Collector.agreeOn_undated_collect _ _ _ _),
    keepsToTargets_sync hready now cluster, ?_⟩
  intro gate hgate
  exact gate_run_history consistent_new visits (Gate.idle_of_ofLimit? hgate)

end Surveyor

namespace Sample

theorem settlesWith_settled : (Surveyor.new config .builtin).SettlesWith [settled.toVisit] [node] :=
  ⟨settled, List.mem_cons_self, by decide +kernel, rfl⟩

theorem settlesWith_surveyed : (Surveyor.new config .builtin).SettlesWith
    [settled.toVisit, surveyed.toVisit] [node] :=
  ⟨settled, List.mem_cons_self, by decide +kernel, rfl⟩

end Sample

theorem Surveyor.targets_fixed_sample :
    (new Sample.config .builtin).SettlesWith [Sample.settled.toVisit] [Sample.node] ∧
      (new Sample.config .builtin).SettlesWith
        [Sample.settled.toVisit, Sample.surveyed.toVisit] [Sample.node] ∧
      (Episode.mk ⟨.sync ⟨0, 0⟩, Sample.cluster⟩
        ((new Sample.config .builtin).run [Sample.settled.toVisit])).AgreeOn Snapshot.undated
          (Episode.mk ⟨.sync ⟨9, 0⟩, Sample.cluster⟩ ((new Sample.config .builtin).run
            [Sample.settled.toVisit, Sample.surveyed.toVisit])) ∧
      (Episode.mk ⟨.sync ⟨0, 0⟩, Sample.cluster⟩
        ((new Sample.config .builtin).run [Sample.settled.toVisit])).KeepsToTargets
          Sample.config [Sample.node] ∧
      ∀ gate, Gate.ofLimit? Sample.config.concurrency.toNat = some gate →
        gate.run (gateSteps (((new Sample.config .builtin).history
          [Sample.settled.toVisit]).flatMap Episode.events)) = gate :=
  ⟨Sample.settlesWith_settled, Sample.settlesWith_surveyed,
    targets_fixed Sample.settlesWith_settled Sample.settlesWith_surveyed Sample.cluster _ _⟩

end ClusterSurvey
