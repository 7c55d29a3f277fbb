import ClusterSurvey.Proofs.Footprint
import ClusterSurvey.Proofs.Progress
import ClusterSurvey.Proofs.WellFormed

/-! The order of the stages of a survey. However its parts get on, every listing is done before a
dispatcher is consulted, and every dispatcher before a node is read; a stage that fails is the
last one (`Surveyor.stages_in_order`). -/
namespace ClusterSurvey

def Stage.place : Stage → Nat
  | inventory => 0
  | components => 1
  | machines => 2

inductive Event.BelongsTo : Event → Stage → Prop where
  | lists (kind : ObjectKind) : BelongsTo (.asked (.listObjects kind)) .inventory
  | consults (component strategy : String) : BelongsTo (.consulted component strategy) .components
  | findsPods (ns : Option String) (query : PodQuery) :
      BelongsTo (.asked (.listPods ns query)) .components
  | getsPod (ns name : String) : BelongsTo (.asked (.getPod ns name)) .components
  | probes (ns pod process : String) :
      BelongsTo (.asked (.exec ns pod (enterHost ++ probeCommand process))) .components
  | entersStage (step : GateStep) : BelongsTo (.passed .components step) .components
  | findsAgent (ns : Option String) (query : PodQuery) :
      BelongsTo (.asked (.listPods ns query)) .machines
  | readsTunables (ns pod : String) :
      BelongsTo (.asked (.exec ns pod (enterHost ++ tunablesCommand))) .machines
  | entersNode (step : GateStep) : BelongsTo (.passed .machines step) .machines

namespace Event.BelongsTo

variable {stage : Stage}

theorem listing_iff {event : Event} (h : event.BelongsTo stage) :
    (∃ kind, event = .asked (.listObjects kind)) ↔ stage = .inventory := by
  cases h <;> simp

theorem eq_machines {ns pod : String}
    (h : (asked (.exec ns pod (enterHost ++ tunablesCommand))).BelongsTo stage) :
    stage = .machines := by
  generalize hcommand : enterHost ++ tunablesCommand = command at h
  cases h with
  | probes _ _ process =>
    have hsame : tunablesCommand = probeCommand process := List.append_cancel_left hcommand
    simp [tunablesCommand, probeCommand] at hsame
  | readsTunables => rfl

end Event.BelongsTo

namespace Progress

structure Kept (place : Nat) (trace : List (Stage × Event)) : Prop where
  sorted : trace.Pairwise fun x y => x.1.place ≤ y.1.place
  before : ∀ x ∈ trace, x.1.place < place
  belongs : ∀ x ∈ trace, x.2.BelongsTo x.1

theorem kept_nil : Kept 0 [] := ⟨.nil, by simp, by simp⟩

theorem Kept.mono {place later : Nat} {trace : List (Stage × Event)} (h : Kept place trace)
    (hle : place ≤ later) : Kept later trace :=
  ⟨h.sorted, fun x hx => (h.before x hx).trans_le hle, h.belongs⟩

theorem Kept.append {place : Nat} {past : List (Stage × Event)} (h : Kept place past)
    {stage : Stage} (hstage : stage.place = place) {events : List Event}
    (hevents : ∀ event ∈ events, event.BelongsTo stage) :
    Kept (place + 1) (past ++ events.map fun event => (stage, event)) where
  sorted := by
    refine List.pairwise_append.mpr ⟨h.sorted, List.pairwise_map.mpr ?_, ?_⟩
    · exact List.pairwise_of_forall fun _ _ => Nat.le_refl _
    · intro x hx y hy
      obtain ⟨event, _, rfl⟩ := List.mem_map.mp hy
      rw [hstage]
      exact (h.before x hx).le
  before := by
    intro x hx
    rcases List.mem_append.mp hx with hx | hx
    · exact (h.before x hx).trans (Nat.lt_succ_self place)
    · obtain ⟨event, _, rfl⟩ := List.mem_map.mp hx
      rw [hstage]
      exact Nat.lt_succ_self place
  belongs := by
    intro x hx
    rcases List.mem_append.mp hx with hx | hx
    · exact h.belongs x hx
    · obtain ⟨event, hevent, rfl⟩ := List.mem_map.mp hx
      exact hevents event hevent

end Progress

/-- A collector with one dispatcher for each component, whose dispatchers and whose way to the nodes
leave no events of another stage. -/
structure Collector.KeepsApart (c : Collector) : Prop where
  nodup : (c.dispatchers.map (·.component)).Nodup
  components : ∀ d ∈ c.dispatchers, d.find.Only (·.BelongsTo .components)
  machines : ∀ executor, c.executor = some executor →
    ∀ node, (executor node tunablesCommand).Only (·.BelongsTo .machines)

namespace Progress

open Collector (listKind probe mergeResults BulkComesTo)

inductive Follows (c : Collector) (cluster : Cluster) : Progress → Prop where
  | listing (past : List (Stage × Event)) (kept : Kept 0 past) (s : Sweep ObjectKind ObjectList)
      (reached : (Sweep.start listKind cluster ObjectKind.all).Reaches listKind cluster s) :
      Follows c cluster ⟨past, .listing s⟩
  | unlisted (past : List (Stage × Event)) (kept : Kept 1 past) (e : SurveyError)
      (listed : BulkComesTo cluster (.error e)) :
      Follows c cluster ⟨past, .ended (.error (.failed e))⟩
  | gathering (past : List (Stage × Event)) (kept : Kept 1 past) (inventory : Inventory)
      (listed : BulkComesTo cluster (.ok inventory)) (g : Gathering)
      (reached : (Gathering.start c.dispatchers cluster).Reaches g) :
      Follows c cluster ⟨past, .gathering inventory g⟩
  | ungathered (past : List (Stage × Event)) (kept : Kept 2 past) (inventory : Inventory)
      (listed : BulkComesTo cluster (.ok inventory)) (e : SurveyError)
      (merged : mergeResults c.tolerateFailures inventory (c.dispatched cluster) = .error e) :
      Follows c cluster ⟨past, .ended (.error (.failed e))⟩
  | probing (past : List (Stage × Event)) (kept : Kept 2 past) (inventory : Inventory)
      (listed : BulkComesTo cluster (.ok inventory)) (stage : ComponentStage)
      (merged : mergeResults c.tolerateFailures inventory (c.dispatched cluster) = .ok stage)
      (executor : NodeExecutor) (reachable : c.executor = some executor)
      (s : Sweep String (String × Machine))
      (reached : (Sweep.start (probe executor) cluster
        (Node.names stage.inventory.nodes)).Reaches (probe executor) cluster s) :
      Follows c cluster ⟨past, .probing stage executor s⟩
  | complete (past : List (Stage × Event)) (kept : Kept 3 past) (inventory : Inventory)
      (listed : BulkComesTo cluster (.ok inventory)) (stage : ComponentStage)
      (merged : mergeResults c.tolerateFailures inventory (c.dispatched cluster) = .ok stage)
      (result : Except Abort Snapshot) : Follows c cluster ⟨past, .ended result⟩

variable {c : Collector} {cluster : Cluster} {now : Timestamp} {p p' : Progress}

theorem follows_start : (start cluster).Follows c cluster :=
  .listing [] kept_nil _ .refl

theorem belongsTo_listing {s : Sweep ObjectKind ObjectList}
    (h : (Sweep.start listKind cluster ObjectKind.all).Reaches listKind cluster s) :
    ∀ event ∈ s.log, event.BelongsTo .inventory := by
  intro event hevent
  have hmem := (Collector.log_perm_of_reaches h).mem_iff.mp (List.mem_append_left _ hevent)
  obtain ⟨kind, _, rfl⟩ := List.mem_map.mp hmem
  exact .lists kind

theorem belongsTo_gathering (hc : c.KeepsApart) {g : Gathering}
    (h : (Gathering.start c.dispatchers cluster).Reaches g) :
    ∀ event ∈ g.events, event.BelongsTo .components := by
  intro event hevent
  have hfollows := (Gathering.follows_start hc.nodup).of_reaches hc.nodup h
  obtain ⟨d, hd, hmem⟩ := hfollows.mem_events hevent
  exact hc.components d hd cluster event hmem

theorem belongsTo_probing (hc : c.KeepsApart) {executor : NodeExecutor}
    (hexecutor : c.executor = some executor) {nodes : List String}
    {s : Sweep String (String × Machine)}
    (h : (Sweep.start (probe executor) cluster nodes).Reaches (probe executor) cluster s) :
    ∀ event ∈ s.log, event.BelongsTo .machines := by
  intro event hevent
  obtain ⟨order, hfollows⟩ := Sweep.exists_follows_of_reaches h
  obtain ⟨node, _, hmem⟩ := hfollows.mem_log hevent
  have honly : (probe executor node).Only (·.BelongsTo .machines) := by
    refine Survey.only_gated (fun step => Event.BelongsTo.entersNode step) ?_
    exact Survey.composes_only.fetchMachine (hc.machines executor hexecutor node)
  exact honly cluster event hmem

theorem follows_afterGathering {past : List (Stage × Event)} (hpast : Kept 2 past)
    {inventory : Inventory} (hlisted : BulkComesTo cluster (.ok inventory)) :
    Follows c cluster ⟨past, c.afterGathering cluster now
      (mergeResults c.tolerateFailures inventory (c.dispatched cluster))⟩ := by
  cases hmerged : mergeResults c.tolerateFailures inventory (c.dispatched cluster) with
  | error e => exact .ungathered past hpast inventory hlisted e hmerged
  | ok stage =>
    have hlater : Kept 3 past := hpast.mono (by decide)
    unfold Collector.afterGathering
    dsimp only
    split
    · exact .complete past hlater inventory hlisted stage hmerged _
    · rename_i executor hexecutor
      split
      · exact .complete past hlater inventory hlisted stage hmerged _
      · exact .probing past hpast inventory hlisted stage hmerged executor hexecutor _ .refl

theorem Follows.step (hc : c.KeepsApart) (h : p.Follows c cluster)
    (hstep : Step c cluster now p p') : p'.Follows c cluster := by
  cases hstep with
  | lists past s s' step =>
    cases h with
    | listing _ kept _ reached => exact .listing past kept s' (reached.tail step)
  | listed past s result ends =>
    cases h with
    | listing _ kept _ reached =>
      have hkept : Kept 1 (trace ⟨past, .listing s⟩) :=
        kept.append rfl (belongsTo_listing reached)
      cases result with
      | error e => exact .unlisted _ hkept e ⟨s, _, reached, ends, rfl⟩
      | ok lists => exact .gathering _ hkept _ ⟨s, _, reached, ends, rfl⟩ _ .refl
  | gathers past inventory g g' step =>
    cases h with
    | gathering _ kept _ listed _ reached =>
      exact .gathering past kept inventory listed g' (reached.tail step)
  | gathered past inventory g finished =>
    cases h with
    | gathering _ kept _ listed _ reached =>
      have hfollows := (Gathering.follows_start hc.nodup).of_reaches hc.nodup reached
      rw [hfollows.conclude_eq hc.nodup finished]
      exact follows_afterGathering (kept.append rfl (belongsTo_gathering hc reached)) listed
  | probes past stage executor s s' step =>
    cases h with
    | probing _ kept inventory listed _ merged _ reachable _ reached =>
      exact .probing past kept inventory listed stage merged executor reachable s'
        (reached.tail step)
  | probed past stage executor s result ends =>
    cases h with
    | probing _ kept inventory listed _ merged _ reachable _ reached =>
      have hkept : Kept 3 (trace ⟨past, .probing stage executor s⟩) :=
        kept.append rfl (belongsTo_probing hc reachable reached)
      cases result with
      | error e => exact .complete _ hkept inventory listed stage merged _
      | ok machines => exact .complete _ hkept inventory listed stage merged _

theorem Follows.of_reaches (hc : c.KeepsApart) (h : p.Follows c cluster)
    (hreach : Reaches c cluster now p p') : p'.Follows c cluster := by
  induction hreach with
  | refl => exact h
  | tail _ hstep ih => exact ih.step hc hstep

theorem Follows.kept_trace (hc : c.KeepsApart) (h : p.Follows c cluster) :
    ∃ place, Kept place p.trace := by
  cases h with
  | listing past kept s reached => exact ⟨_, kept.append rfl (belongsTo_listing reached)⟩
  | unlisted past kept => exact ⟨1, by rwa [trace_ended]⟩
  | gathering past kept _ _ g reached => exact ⟨_, kept.append rfl (belongsTo_gathering hc reached)⟩
  | ungathered past kept => exact ⟨2, by rwa [trace_ended]⟩
  | probing past kept _ _ _ _ executor reachable s reached =>
    exact ⟨_, kept.append rfl (belongsTo_probing hc reachable reached)⟩
  | complete past kept => exact ⟨3, by rwa [trace_ended]⟩

theorem Kept.eq_inventory {events : List (Stage × Event)} (h : Kept 1 events) :
    ∀ x ∈ events, x.1 = .inventory := by
  rintro ⟨stage, event⟩ hx
  have hplace : stage.place < 1 := h.before _ hx
  cases stage with
  | inventory => rfl
  | components => exact absurd hplace (by decide)
  | machines => exact absurd hplace (by decide)

theorem Kept.ne_machines {events : List (Stage × Event)} (h : Kept 2 events) :
    ∀ x ∈ events, x.1 ≠ .machines := by
  intro x hx hstage
  have hplace := h.before x hx
  rw [hstage] at hplace
  exact absurd hplace (by decide)

theorem Follows.of_failed_listing (h : p.Follows c cluster) {kind : ObjectKind} {source : CallError}
    (hfailed : cluster (.listObjects kind) = .error source) :
    Kept 1 p.trace ∧ ∀ result, p.phase = .ended result →
      ∃ e, BulkComesTo cluster (.error e) ∧ result = .error (.failed e) := by
  have hnot : ∀ inventory, ¬ BulkComesTo cluster (.ok inventory) := by
    intro inventory hlisted
    rw [Collector.slot_of_bulkComesTo hlisted kind] at hfailed
    cases hfailed
  cases h with
  | listing past kept s reached =>
    refine ⟨kept.append rfl (belongsTo_listing reached), ?_⟩
    intro result hended
    cases hended
  | unlisted past kept e listed =>
    refine ⟨by rwa [trace_ended], ?_⟩
    intro result hended
    cases hended
    exact ⟨e, listed, rfl⟩
  | gathering _ _ inventory listed => exact absurd listed (hnot inventory)
  | ungathered _ _ inventory listed => exact absurd listed (hnot inventory)
  | probing _ _ inventory listed => exact absurd listed (hnot inventory)
  | complete _ _ inventory listed => exact absurd listed (hnot inventory)

theorem Follows.of_failed_gathering (hc : c.KeepsApart) (h : p.Follows c cluster)
    (hlisted : ∀ kind, ∃ items, cluster (.listObjects kind) = .ok items) {failure : SurveyError}
    (hfailed : ∀ inventory, mergeResults c.tolerateFailures inventory (c.dispatched cluster) =
      .error failure) :
    Kept 2 p.trace ∧ ∀ result, p.phase = .ended result → result = .error (.failed failure) := by
  cases h with
  | listing past kept s reached =>
    refine ⟨(kept.append rfl (belongsTo_listing reached)).mono (by decide), ?_⟩
    intro result hended
    cases hended
  | unlisted past kept e listed =>
    obtain ⟨kind, source, hsource, _⟩ := Collector.bulkComesTo_error_iff.mp listed
    obtain ⟨items, hitems⟩ := hlisted kind
    rw [hsource] at hitems
    cases hitems
  | gathering past kept inventory listed g reached =>
    refine ⟨kept.append rfl (belongsTo_gathering hc reached), ?_⟩
    intro result hended
    cases hended
  | ungathered past kept inventory listed e merged =>
    refine ⟨by rwa [trace_ended], ?_⟩
    intro result hended
    cases hended
    rw [hfailed inventory] at merged
    cases merged
    rfl
  | probing _ _ inventory _ stage merged =>
    rw [hfailed inventory] at merged
    cases merged
  | complete _ _ inventory _ stage merged =>
    rw [hfailed inventory] at merged
    cases merged

theorem Step.trace_isPrefix (h : Step c cluster now p p') : p.trace <+: p'.trace := by
  have hlog : ∀ {α β ε : Type} {visit : α → Survey (Except ε β)} {s s' : Sweep α β},
      s.Step visit cluster s' → s.log <+: s'.log := by
    intro α β ε visit s s' hstep
    cases hstep with
    | leaves => exact List.prefix_append _ _
    | takes => exact List.prefix_refl _
  cases h with
  | lists past s s' step =>
    exact (List.prefix_append_right_inj past).mpr ((hlog step).map _)
  | listed past s result => exact List.prefix_append _ _
  | gathers past inventory g g' step =>
    refine (List.prefix_append_right_inj past).mpr (List.IsPrefix.map _ ?_)
    cases step with
    | advance => exact (List.prefix_append _ _).filterMap _
  | gathered past inventory g => exact List.prefix_append _ _
  | probes past stage executor s s' step =>
    exact (List.prefix_append_right_inj past).mpr ((hlog step).map _)
  | probed past stage executor s result => exact List.prefix_append _ _

end Progress

namespace Collector

open Progress (Reaches Step)

/-- How the stages of a survey stand to each other, in whatever order its parts get on. -/
structure InStages (c : Collector) (cluster : Cluster) (now : Timestamp) : Prop where
  grows : ∀ p p', Reaches c cluster now (.start cluster) p → Step c cluster now p p' →
    p.trace <+: p'.trace
  sorted : ∀ p, Reaches c cluster now (.start cluster) p →
    p.trace.Pairwise fun x y => x.1.place ≤ y.1.place
  belongs : ∀ p, Reaches c cluster now (.start cluster) p → ∀ x ∈ p.trace, x.2.BelongsTo x.1
  listing_iff : ∀ p, Reaches c cluster now (.start cluster) p → ∀ x ∈ p.trace,
    (∃ kind, x.2 = .asked (.listObjects kind)) ↔ x.1 = .inventory
  eq_machines : ∀ p, Reaches c cluster now (.start cluster) p → ∀ x ∈ p.trace, ∀ ns pod,
    x.2 = .asked (.exec ns pod (enterHost ++ tunablesCommand)) → x.1 = .machines
  failed_listing : ∀ p, Reaches c cluster now (.start cluster) p →
    (∃ kind source, cluster (.listObjects kind) = .error source) →
      (∀ x ∈ p.trace, ∃ kind, x.2 = .asked (.listObjects kind)) ∧
      ∀ result, p.phase = .ended result →
        ∃ kind source, cluster (.listObjects kind) = .error source ∧
          result = .error (.failed (.transport ("failed to fetch " ++ kind.name) source))
  failed_gathering : ∀ p, Reaches c cluster now (.start cluster) p →
    (∀ kind, ∃ items, cluster (.listObjects kind) = .ok items) → c.tolerateFailures = false →
    (∃ d ∈ c.dispatchers, ∃ e, (d.find.on cluster).value = .error e) →
      (∀ x ∈ p.trace, ∀ ns pod, x.2 ≠ .asked (.exec ns pod (enterHost ++ tunablesCommand))) ∧
      ∀ result, p.phase = .ended result →
        ∃ failures, result = .error (.failed (.components failures)) ∧
          ∀ f, f ∈ failures ↔
            ∃ d ∈ c.dispatchers, d.component = f.1 ∧ (d.find.on cluster).value = .error f.2
  exists_ended : ∀ p, Reaches c cluster now (.start cluster) p →
    ∃ p' result, Reaches c cluster now p p' ∧ p'.phase = .ended result
  inTurn : ∃ p, Reaches c cluster now (.start cluster) p ∧
    p.phase = .ended ((c.collect now).on cluster).value ∧
    p.trace.map (·.2) = ((c.collect now).on cluster).events

theorem KeepsApart.inStages {c : Collector} (hc : c.KeepsApart) (cluster : Cluster)
    (now : Timestamp) : c.InStages cluster now := by
  have hfollows : ∀ {p}, Reaches c cluster now (.start cluster) p → p.Follows c cluster :=
    fun hreach => Progress.follows_start.of_reaches hc hreach
  have hbelongs : ∀ p, Reaches c cluster now (.start cluster) p → ∀ x ∈ p.trace,
      x.2.BelongsTo x.1 := by
    intro p hreach
    obtain ⟨_, hkept⟩ := (hfollows hreach).kept_trace hc
    exact hkept.belongs
  refine {
    grows := fun p p' _ hstep => hstep.trace_isPrefix
    sorted := ?_
    belongs := hbelongs
    listing_iff := fun p hreach x hx => (hbelongs p hreach x hx).listing_iff
    eq_machines := ?_
    failed_listing := ?_
    failed_gathering := ?_
    exists_ended := fun p _ => p.canEnd
    inTurn := Progress.exists_ended_inTurn hc.nodup cluster now }
  · intro p hreach
    obtain ⟨_, hkept⟩ := (hfollows hreach).kept_trace hc
    exact hkept.sorted
  · intro p hreach x hx ns pod hevent
    have hx := hbelongs p hreach x hx
    rw [hevent] at hx
    exact hx.eq_machines
  · rintro p hreach ⟨kind, source, hfailed⟩
    obtain ⟨hkept, hended⟩ := (hfollows hreach).of_failed_listing hfailed
    constructor
    · intro x hx
      exact (hkept.belongs x hx).listing_iff.mpr (hkept.eq_inventory x hx)
    · intro result hresult
      obtain ⟨e, hcomes, rfl⟩ := hended result hresult
      obtain ⟨kind, source, hsource, rfl⟩ := bulkComesTo_error_iff.mp hcomes
      exact ⟨kind, source, hsource, rfl⟩
  · rintro p hreach hlisted htolerate ⟨d, hd, e, hfailed⟩
    have hsome : failuresAmong (c.dispatched cluster) ≠ [] := by
      have hmem : (d.component, e) ∈ failuresAmong (c.dispatched cluster) :=
        mem_failuresAmong.mpr (mem_dispatched_iff.mpr ⟨d, hd, rfl, hfailed⟩)
      exact List.ne_nil_of_mem hmem
    have hmerged : ∀ inventory, mergeResults c.tolerateFailures inventory (c.dispatched cluster) =
        .error (.components (failuresAmong (c.dispatched cluster))) :=
      fun _ => mergeResults_eq_error_iff.mpr ⟨htolerate, hsome, rfl⟩
    obtain ⟨hkept, hended⟩ := (hfollows hreach).of_failed_gathering hc hlisted hmerged
    constructor
    · intro x hx ns pod hevent
      have hx' := hkept.belongs x hx
      rw [hevent] at hx'
      exact hkept.ne_machines x hx hx'.eq_machines
    · intro result hresult
      refine ⟨_, hended result hresult, ?_⟩
      intro f
      rw [mem_failuresAmong, mem_dispatched_iff]

end Collector

namespace Surveyor

theorem keepsApart_prepare {config : SurveyConfig} (hvalid : config.validate = .ok ())
    (nodes : List Node) : (prepare config .builtin nodes).KeepsApart where
  nodup := by
    obtain ⟨_, _, _, hnodup⟩ := (SurveyConfig.validate_eq_ok_iff config).mp hvalid
    unfold prepare
    rw [List.map_map]
    exact hnodup
  components := by
    intro d hd
    obtain ⟨component, _, rfl⟩ := List.mem_map.mp hd
    apply Dispatcher.only_search
    intro candidate hcandidate
    refine ⟨.consults _ _, ?_⟩
    refine (Registry.mem_chain_builtin_iff.mp hcandidate).only .entersStage (.findsPods _)
      (fun _ _ => .getsPod _ _) ?_
    intro executor hexecutor node _
    obtain ⟨ns, agent, _, rfl⟩ := BridgeConfig.executor?_eq_some_iff.mp hexecutor
    exact AgentBridge.only_execute _ (.findsPods _ _) fun pod => .probes _ pod _
  machines := by
    intro executor hexecutor node
    obtain ⟨ns, agent, _, rfl⟩ := BridgeConfig.executor?_eq_some_iff.mp hexecutor
    exact AgentBridge.only_execute _ (.findsAgent _ _) fun pod => .readsTunables _ pod

/-- A surveyor that is set up surveys stage by stage: what it leaves and how it ends is what its
collector leaves and comes to. -/
structure SurveysInStages (s : Surveyor) (cluster : Cluster) (now : Timestamp) (c : Collector) :
    Prop where
  collector_eq : s.collector = some c
  inStages : c.InStages cluster now
  events_eq : (Episode.mk ⟨.sync now, cluster⟩ s).events = ((c.collect now).on cluster).events
  failure?_eq_some_iff : ∀ abort, (Episode.mk ⟨.sync now, cluster⟩ s).failure? = some abort ↔
    ((c.collect now).on cluster).value = .error abort

/-- Once it is set up, a surveyor lists, then looks for components, then reads the machines. Where a
listing fails it makes no other call and reports a kind that failed; where components fail and
that is not tolerated, it reports them and reads no machine. -/
theorem stages_in_order {config : SurveyConfig} {visits : List Visit}
    (h : ((new config .builtin).run visits).isInitialized = true) (cluster : Cluster)
    (now : Timestamp) :
    ∃ nodes, ((new config .builtin).run visits).SurveysInStages cluster now
      (prepare config .builtin nodes) := by
  have hconsistent : ((new config .builtin).run visits).Consistent config .builtin :=
    consistent_new.run visits
  obtain ⟨c, hready⟩ := Option.isSome_iff_exists.mp h
  obtain ⟨hvalid, nodes, rfl⟩ := hconsistent.collector_eq c hready
  refine ⟨nodes, hready, (keepsApart_prepare hvalid nodes).inStages cluster now, ?_, ?_⟩
  · exact events_sync hready now cluster
  · intro abort
    rw [failure?_sync hready]
    cases (((prepare config .builtin nodes).collect now).on cluster).value <;> simp

theorem stages_in_order_sample :
    ((new Sample.config .builtin).run [Sample.settled.toVisit]).isInitialized = true ∧
      ∃ nodes, ((new Sample.config .builtin).run [Sample.settled.toVisit]).SurveysInStages
        Sample.cluster ⟨0, 0⟩ (prepare Sample.config .builtin nodes) :=
  ⟨by decide +kernel, stages_in_order (by decide +kernel) Sample.cluster ⟨0, 0⟩⟩

end Surveyor

end ClusterSurvey
