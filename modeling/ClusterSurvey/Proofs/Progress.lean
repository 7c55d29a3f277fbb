import ClusterSurvey.Proofs.Gathering
import ClusterSurvey.Proofs.Listings

/-! A survey under way, with all that goes on in it at the same time: the listings, then the tasks
of the dispatchers, then the readings of the machines. However far it has got it can be brought to
its end, and one way for it to go is the one in which nothing happens at the same time. -/
namespace ClusterSurvey

namespace Gathering

variable {dispatchers : List Dispatcher} {cluster : Cluster} {g : Gathering}

def events (g : Gathering) : List Event :=
  g.log.filterMap fun x =>
    match x.2 with
    | .leaves event => some event
    | _ => none

theorem mem_events_iff {event : Event} :
    event ∈ g.events ↔ ∃ name, (name, .leaves event) ∈ g.log := by
  unfold events
  rw [List.mem_filterMap]
  constructor
  · rintro ⟨⟨name, moment⟩, hmem, hleft⟩
    cases moment with
    | leaves other =>
      cases hleft
      exact ⟨name, hmem⟩
    | begins => cases hleft
    | returns => cases hleft
    | arrives => cases hleft
  · rintro ⟨name, hmem⟩
    exact ⟨_, hmem, rfl⟩

theorem Follows.mem_events (h : g.Follows dispatchers cluster) {event : Event}
    (hevent : event ∈ g.events) : ∃ d ∈ dispatchers, event ∈ (d.find.on cluster).events := by
  obtain ⟨name, hmem⟩ := mem_events_iff.mp hevent
  obtain ⟨d, hd, hmoment⟩ := List.mem_flatMap.mp (h.perm.mem_iff.mp (List.mem_append_left _ hmem))
  obtain ⟨moment, hcourse, heq⟩ := List.mem_map.mp hmoment
  cases heq
  refine ⟨d, hd, ?_⟩
  simpa [Dispatcher.course] using hcourse

theorem events_of_log_eq (h : g.log = inTurn dispatchers cluster) :
    g.events = dispatchers.flatMap fun d => (d.find.on cluster).events := by
  unfold events
  rw [h]
  unfold inTurn
  rw [List.filterMap_flatMap]
  congr 1
  funext d
  unfold Dispatcher.course
  simp [List.filterMap_append, List.filterMap_map, Function.comp_def]

end Gathering

/-- Where a survey has got to: what is under way in its present stage, or its result. -/
inductive Phase where
  | listing (sweep : Sweep ObjectKind ObjectList)
  | gathering (inventory : Inventory) (gathering : Gathering)
  | probing (stage : ComponentStage) (executor : NodeExecutor)
      (sweep : Sweep String (String × Machine))
  | ended (result : Except Abort Snapshot)

def Phase.events : Phase → List (Stage × Event)
  | listing s => s.log.map fun event => (.inventory, event)
  | gathering _ g => g.events.map fun event => (.components, event)
  | probing _ _ s => s.log.map fun event => (.machines, event)
  | ended _ => []

structure Progress where
  /-- What the stages have left that are over, each event with its stage. -/
  past : List (Stage × Event)
  phase : Phase

def ComponentStage.snapshot (stage : ComponentStage) (now : Timestamp) (machines : Dict Machine) :
    Snapshot where
  syncedAt := some now
  inventory := stage.inventory
  components := stage.components
  componentErrors := stage.componentErrors
  machines

namespace Collector

def probe (executor : NodeExecutor) (node : String) :
    Survey (Except SurveyError (String × Machine)) :=
  .gated .machines node (fetchMachine executor node)

def collectFrom (c : Collector) (now : Timestamp) (inventory : Inventory) :
    Survey (Except Abort Snapshot) := do
  match ← c.fetchComponents inventory with
  | .error e => return .error (.failed e)
  | .ok stage => return (← c.fetchMachines stage).map fun s => { s with syncedAt := some now }

theorem collect_eq (c : Collector) (now : Timestamp) :
    c.collect now = fetchInventory >>= fun
      | .error e => pure (.error (.failed e))
      | .ok inventory => c.collectFrom now inventory := rfl

section Phases

variable (c : Collector) (cluster : Cluster) (now : Timestamp)

def listingPhase : Phase := .listing (.start listKind cluster ObjectKind.all)

def afterListing : Except SurveyError (List ObjectList) → Phase
  | .ok lists => .gathering (lists.foldl .absorb ∅) (.start c.dispatchers cluster)
  | .error e => .ended (.error (.failed e))

def afterGathering : Except SurveyError ComponentStage → Phase
  | .error e => .ended (.error (.failed e))
  | .ok stage =>
    match c.executor with
    | none => .ended (.ok (stage.snapshot now ∅))
    | some executor =>
      match Gate.ofLimit? c.concurrency.toNat with
      | none => .ended (.error (.overflow c.concurrency.toNat))
      | some _ =>
        .probing stage executor (.start (probe executor) cluster (Node.names stage.inventory.nodes))

def afterProbing (stage : ComponentStage) (now : Timestamp) :
    Except SurveyError (List (String × Machine)) → Phase
  | .ok machines => .ended (.ok (stage.snapshot now (.ofList machines)))
  | .error e => .ended (.error (.failed e))

end Phases

end Collector

namespace Progress

open Collector (listKind probe)

def trace (p : Progress) : List (Stage × Event) := p.past ++ p.phase.events

theorem trace_ended (past : List (Stage × Event)) (result : Except Abort Snapshot) :
    trace ⟨past, .ended result⟩ = past := List.append_nil past

theorem trace_afterProbing (past : List (Stage × Event)) (stage : ComponentStage)
    (now : Timestamp) (result : Except SurveyError (List (String × Machine))) :
    trace ⟨past, Collector.afterProbing stage now result⟩ = past := by
  cases result <;> exact trace_ended past _

section Semantics

variable (c : Collector) (cluster : Cluster) (now : Timestamp)

def start : Progress := ⟨[], Collector.listingPhase cluster⟩

/-- The present stage gets on, or it has come to its end and the next phase begins. -/
inductive Step : Progress → Progress → Prop where
  | lists (past : List (Stage × Event)) (s s' : Sweep ObjectKind ObjectList)
      (step : s.Step listKind cluster s') : Step ⟨past, .listing s⟩ ⟨past, .listing s'⟩
  | listed (past : List (Stage × Event)) (s : Sweep ObjectKind ObjectList)
      (result : Except SurveyError (List ObjectList)) (ends : s.Ends listKind cluster result) :
      Step ⟨past, .listing s⟩ ⟨trace ⟨past, .listing s⟩, c.afterListing cluster result⟩
  | gathers (past : List (Stage × Event)) (inventory : Inventory) (g g' : Gathering)
      (step : g.Step g') : Step ⟨past, .gathering inventory g⟩ ⟨past, .gathering inventory g'⟩
  | gathered (past : List (Stage × Event)) (inventory : Inventory) (g : Gathering)
      (finished : g.Finished) :
      Step ⟨past, .gathering inventory g⟩ ⟨trace ⟨past, .gathering inventory g⟩,
        c.afterGathering cluster now (g.conclude c.tolerateFailures inventory)⟩
  | probes (past : List (Stage × Event)) (stage : ComponentStage) (executor : NodeExecutor)
      (s s' : Sweep String (String × Machine)) (step : s.Step (probe executor) cluster s') :
      Step ⟨past, .probing stage executor s⟩ ⟨past, .probing stage executor s'⟩
  | probed (past : List (Stage × Event)) (stage : ComponentStage) (executor : NodeExecutor)
      (s : Sweep String (String × Machine)) (result : Except SurveyError (List (String × Machine)))
      (ends : s.Ends (probe executor) cluster result) :
      Step ⟨past, .probing stage executor s⟩ ⟨trace ⟨past, .probing stage executor s⟩,
        Collector.afterProbing stage now result⟩

def Reaches : Progress → Progress → Prop := Relation.ReflTransGen (Step c cluster now)

end Semantics

variable {c : Collector} {cluster : Cluster} {now : Timestamp} {p p' : Progress}

/-! However far a survey has got, it can be brought to its end. -/

theorem reaches_listing {past : List (Stage × Event)} {s s' : Sweep ObjectKind ObjectList}
    (h : s.Reaches listKind cluster s') :
    Reaches c cluster now ⟨past, .listing s⟩ ⟨past, .listing s'⟩ := by
  induction h with
  | refl => exact .refl
  | tail _ hstep ih => exact ih.tail (.lists past _ _ hstep)

theorem reaches_gathering {past : List (Stage × Event)} {inventory : Inventory}
    {g g' : Gathering} (h : g.Reaches g') :
    Reaches c cluster now ⟨past, .gathering inventory g⟩ ⟨past, .gathering inventory g'⟩ := by
  induction h with
  | refl => exact .refl
  | tail _ hstep ih => exact ih.tail (.gathers past inventory _ _ hstep)

theorem reaches_probing {past : List (Stage × Event)} {stage : ComponentStage}
    {executor : NodeExecutor} {s s' : Sweep String (String × Machine)}
    (h : s.Reaches (probe executor) cluster s') :
    Reaches c cluster now ⟨past, .probing stage executor s⟩ ⟨past, .probing stage executor s'⟩ := by
  induction h with
  | refl => exact .refl
  | tail _ hstep ih => exact ih.tail (.probes past stage executor _ _ hstep)

def CanEnd (c : Collector) (cluster : Cluster) (now : Timestamp) (p : Progress) : Prop :=
  ∃ p' result, Reaches c cluster now p p' ∧ p'.phase = .ended result

theorem CanEnd.of_reaches (hreach : Reaches c cluster now p p') (h : p'.CanEnd c cluster now) :
    p.CanEnd c cluster now := by
  obtain ⟨p'', result, hreach', hended⟩ := h
  exact ⟨p'', result, hreach.trans hreach', hended⟩

theorem canEnd_ended (past : List (Stage × Event)) (result : Except Abort Snapshot) :
    CanEnd c cluster now ⟨past, .ended result⟩ := ⟨_, result, .refl, rfl⟩

theorem canEnd_probing (past : List (Stage × Event)) (stage : ComponentStage)
    (executor : NodeExecutor) (s : Sweep String (String × Machine)) :
    CanEnd c cluster now ⟨past, .probing stage executor s⟩ := by
  obtain ⟨s', result, hreach, hends⟩ :=
    Sweep.exists_ends (probe executor) cluster s
  have hprobed : Reaches c cluster now ⟨past, .probing stage executor s⟩ _ :=
    (reaches_probing hreach).tail (.probed past stage executor s' _ hends)
  apply CanEnd.of_reaches hprobed
  cases result with
  | error e => exact canEnd_ended _ _
  | ok machines => exact canEnd_ended _ _

theorem canEnd_gathering (past : List (Stage × Event)) (inventory : Inventory) (g : Gathering) :
    CanEnd c cluster now ⟨past, .gathering inventory g⟩ := by
  obtain ⟨g', hreach, hfinished⟩ :=
    Gathering.exists_reaches_finished (List.nil_append g.tasks).symm (by simp)
  have hgathered : Reaches c cluster now ⟨past, .gathering inventory g⟩ _ :=
    (reaches_gathering hreach).tail (.gathered past inventory g' hfinished)
  apply CanEnd.of_reaches hgathered
  cases g'.conclude c.tolerateFailures inventory with
  | error e => exact canEnd_ended _ _
  | ok stage =>
    unfold Collector.afterGathering
    dsimp only
    split
    · exact canEnd_ended _ _
    · split
      · exact canEnd_ended _ _
      · exact canEnd_probing _ _ _ _

theorem canEnd (p : Progress) : p.CanEnd c cluster now := by
  obtain ⟨past, phase⟩ := p
  cases phase with
  | ended result => exact canEnd_ended past result
  | probing stage executor s => exact canEnd_probing past stage executor s
  | gathering inventory g => exact canEnd_gathering past inventory g
  | listing s =>
    obtain ⟨s', result, hreach, hends⟩ :=
      Sweep.exists_ends listKind cluster s
    have hlisted : Reaches c cluster now ⟨past, .listing s⟩ _ :=
      (reaches_listing hreach).tail (.listed past s' _ hends)
    apply CanEnd.of_reaches hlisted
    cases result with
    | error e => exact canEnd_ended _ _
    | ok lists => exact canEnd_gathering _ _ _

/-! One way for a survey to go is the one in which nothing happens at the same time. -/

theorem exists_gathering_inTurn (hn : (c.dispatchers.map (·.component)).Nodup) (cluster : Cluster)
    (inventory : Inventory) :
    ∃ g, (Gathering.start c.dispatchers cluster).Reaches g ∧ g.Finished ∧
      g.conclude c.tolerateFailures inventory = ((c.fetchComponents inventory).on cluster).value ∧
      g.events = ((c.fetchComponents inventory).on cluster).events := by
  have hnames : ((Gathering.start c.dispatchers cluster).tasks.map (·.name)).Nodup := by
    rw [(Gathering.follows_start hn).names_eq]
    exact hn
  have hwaiting : ∀ d ∈ c.dispatchers, ⟨d.component, d.course cluster⟩ ∈
      (Gathering.start c.dispatchers cluster).tasks := fun d hd => List.mem_map_of_mem hd
  have hothers : ∀ task ∈ (Gathering.start c.dispatchers cluster).tasks,
      task.rest = [] ∨ task.name ∈ c.dispatchers.map (·.component) := by
    intro task htask
    obtain ⟨d, hd, rfl⟩ := List.mem_map.mp htask
    exact .inr (List.mem_map_of_mem hd)
  obtain ⟨g, hreach, hfinished, hlog⟩ :=
    Gathering.exists_reaches_inTurn hn hnames hwaiting hothers
  have hfollows := (Gathering.follows_start hn).of_reaches hn hreach
  refine ⟨g, hreach, hfinished, ?_, ?_⟩
  · rw [hfollows.conclude_eq hn hfinished, Collector.value_fetchComponents]
    rfl
  · rw [Gathering.events_of_log_eq hlog, Collector.events_fetchComponents]

theorem exists_ended_machines (c : Collector) (cluster : Cluster) (now : Timestamp)
    (past : List (Stage × Event)) (stage : ComponentStage) :
    ∃ p, Reaches c cluster now ⟨past, c.afterGathering cluster now (.ok stage)⟩ p ∧
      p.phase = .ended (((c.fetchMachines stage).on cluster).value.map fun s =>
        { s with syncedAt := some now }) ∧
      p.trace.map (·.2) =
        past.map (·.2) ++ ((c.fetchMachines stage).on cluster).events := by
  unfold Collector.afterGathering Collector.fetchMachines
  cases c.executor with
  | none => exact ⟨_, .refl, rfl, by simp [trace_ended]⟩
  | some executor =>
    dsimp only
    cases Gate.ofLimit? c.concurrency.toNat with
    | none => exact ⟨_, .refl, rfl, by simp [trace_ended]⟩
    | some gate =>
      obtain ⟨s, hreach, hends, hlog⟩ := Sweep.exists_ends_of_perm (probe executor) cluster
        (List.Perm.refl (Node.names stage.inventory.nodes))
      have hevents : ((Collector.probeNodes executor
          (Node.names stage.inventory.nodes)).on cluster).events = s.log := by
        rw [hlog]
        exact List.append_nil _
      refine ⟨_, (reaches_probing hreach).tail (.probed past stage executor s _ hends), ?_, ?_⟩
      · unfold Collector.probeNodes
        simp only [Survey.value_bind, Survey.value_pure]
        unfold Collector.afterProbing probe
        cases ((Survey.untilFailure _ _).on cluster).value <;> rfl
      · rw [trace_afterProbing, Survey.events_bind, Survey.events_pure, List.append_nil, hevents]
        simp [trace, Phase.events, Function.comp_def]

theorem exists_ended_components (hn : (c.dispatchers.map (·.component)).Nodup) (cluster : Cluster)
    (now : Timestamp) (past : List (Stage × Event)) (inventory : Inventory) :
    ∃ p, Reaches c cluster now
        ⟨past, .gathering inventory (.start c.dispatchers cluster)⟩ p ∧
      p.phase = .ended ((c.collectFrom now inventory).on cluster).value ∧
      p.trace.map (·.2) = past.map (·.2) ++ ((c.collectFrom now inventory).on cluster).events := by
  obtain ⟨g, hgathers, hfinished, hconclude, hevents⟩ :=
    exists_gathering_inTurn hn cluster inventory
  have hgathered : Reaches c cluster now _ _ :=
    (reaches_gathering hgathers).tail (.gathered past inventory g hfinished)
  have hpast : (trace ⟨past, .gathering inventory g⟩).map (·.2) =
      past.map (·.2) ++ ((c.fetchComponents inventory).on cluster).events := by
    rw [← hevents]
    simp [trace, Phase.events, Function.comp_def]
  rw [hconclude] at hgathered
  unfold Collector.collectFrom
  rw [Survey.value_bind, Survey.events_bind, ← List.append_assoc, ← hpast]
  cases hstage : ((c.fetchComponents inventory).on cluster).value with
  | error e =>
    rw [hstage] at hgathered
    refine ⟨_, hgathered, rfl, ?_⟩
    dsimp only [Collector.afterGathering]
    rw [trace_ended, Survey.events_pure, List.append_nil]
  | ok stage =>
    rw [hstage] at hgathered
    obtain ⟨p, hprobes, hended, htrace⟩ := exists_ended_machines c cluster now
      (trace ⟨past, .gathering inventory g⟩) stage
    refine ⟨p, hgathered.trans hprobes, hended, ?_⟩
    rw [htrace, Survey.events_bind, Survey.events_pure, List.append_nil]

theorem exists_ended_inTurn (hn : (c.dispatchers.map (·.component)).Nodup) (cluster : Cluster)
    (now : Timestamp) :
    ∃ p, Reaches c cluster now (start cluster) p ∧
      p.phase = .ended ((c.collect now).on cluster).value ∧
      p.trace.map (·.2) = ((c.collect now).on cluster).events := by
  obtain ⟨s, hreach, hends, hlog⟩ := Sweep.exists_ends_of_perm listKind cluster
    (List.Perm.refl ObjectKind.all)
  have hlisted : Reaches c cluster now (start cluster) _ :=
    (reaches_listing hreach).tail (.listed [] s _ hends)
  have hpast : (trace ⟨[], .listing s⟩).map (·.2) =
      (Collector.fetchInventory.on cluster).events := by
    unfold Collector.fetchInventory Collector.fetchKinds
    rw [Survey.events_bind, Survey.events_pure, List.append_nil, ← hlog]
    simp [trace, Phase.events, Function.comp_def]
  have hinventory : (Collector.fetchInventory.on cluster).value =
      ((Survey.untilFailure listKind ObjectKind.all).on cluster).value.map
        fun lists => lists.foldl .absorb ∅ := rfl
  rw [Collector.collect_eq, Survey.value_bind, Survey.events_bind, hinventory, ← hpast]
  cases hlists : ((Survey.untilFailure listKind ObjectKind.all).on cluster).value with
  | error e =>
    rw [hlists] at hlisted
    refine ⟨_, hlisted, rfl, ?_⟩
    dsimp only [Except.map, Collector.afterListing]
    rw [trace_ended, Survey.events_pure, List.append_nil]
  | ok lists =>
    rw [hlists] at hlisted
    obtain ⟨p, hgathers, hended, htrace⟩ := exists_ended_components hn cluster now
      (trace ⟨[], .listing s⟩) (lists.foldl .absorb ∅)
    exact ⟨p, hlisted.trans hgathers, hended, htrace⟩

end Progress

end ClusterSurvey
