import ClusterSurvey.Proofs.Targets

/-! The gate of the component stage outlives a survey. Whatever calls are made of a surveyor, those
who came to it have left it again when they are over, so that a later survey finds it as the first
one did (`Surveyor.gate_run_history`). -/
namespace ClusterSurvey

structure Gate.Idle (g : Gate) : Prop where
  held_eq : g.held = []
  waiting_eq : g.waiting = []
  limit_pos : 0 < g.limit

namespace Gate

theorem run_append (g : Gate) (steps others : List GateStep) :
    g.run (steps ++ others) = (g.run steps).run others := List.foldl_append

theorem run_enter_drop {g : Gate} (h : g.Idle) (visitor : String) :
    g.run [.enter visitor, .drop visitor] = g := by
  obtain ⟨limit, held, waiting⟩ := g
  obtain ⟨rfl, rfl, hlimit⟩ := h
  have henter : step ⟨limit, [], []⟩ (.enter visitor) = ⟨limit, [visitor], []⟩ :=
    if_pos hlimit
  have hdrop : step ⟨limit, [visitor], []⟩ (.drop visitor) = ⟨limit, [], []⟩ := by
    simp [step, refill]
  exact (congrArg (fun g => step g (.drop visitor)) henter).trans hdrop

theorem idle_of_ofLimit? {limit : Nat} {g : Gate} (h : ofLimit? limit = some g) : g.Idle := by
  unfold ofLimit? at h
  split at h
  · cases h
    exact ⟨rfl, rfl, Nat.lt_of_lt_of_le Nat.zero_lt_one (Nat.le_max_right _ _)⟩
  · cases h

end Gate

def Event.gateStep? : Event → Option GateStep
  | passed .components step => some step
  | _ => none

def Event.OffGate (event : Event) : Prop := event.gateStep? = none

def gateSteps (events : List Event) : List GateStep := events.filterMap Event.gateStep?

theorem gateSteps_append (events others : List Event) :
    gateSteps (events ++ others) = gateSteps events ++ gateSteps others := List.filterMap_append

namespace Survey

variable {α β : Type}

/-- A survey that leaves the gate of the component stage as it finds it. -/
def GivesBack (survey : Survey α) : Prop :=
  ∀ cluster (g : Gate), g.Idle → g.run (gateSteps (survey.on cluster).events) = g

theorem givesBack_of_only {survey : Survey α} (h : survey.Only Event.OffGate) :
    survey.GivesBack := by
  intro cluster g _
  have hnone : gateSteps (survey.on cluster).events = [] :=
    List.filterMap_eq_nil_iff.mpr (h cluster)
  rw [hnone]
  rfl

theorem givesBack_bind {survey : Survey α} {next : α → Survey β} (h : survey.GivesBack)
    (hnext : ∀ a, (next a).GivesBack) : (survey >>= next).GivesBack := by
  intro cluster g hg
  rw [events_bind, gateSteps_append, Gate.run_append, h cluster g hg]
  exact hnext _ cluster g hg

theorem givesBack_pure (a : α) : (pure a : Survey α).GivesBack := givesBack_of_only (only_pure a)

theorem givesBack_gated {visitor : String} {survey : Survey α}
    (h : survey.Only Event.OffGate) : (gated .components visitor survey).GivesBack := by
  intro cluster g hg
  have hnone : gateSteps (survey.on cluster).events = [] :=
    List.filterMap_eq_nil_iff.mpr (h cluster)
  have hsteps : gateSteps ((gated .components visitor survey).on cluster).events =
      [.enter visitor, .drop visitor] := by
    rw [events_gated, List.cons_append]
    change _ :: gateSteps (_ ++ _) = _
    rw [gateSteps_append, hnone]
    rfl
  rw [hsteps, Gate.run_enter_drop hg]

theorem composes_givesBack : Composes GivesBack := ⟨givesBack_pure, givesBack_bind⟩

end Survey

theorem AgentBridge.only_offGate_execute (bridge : AgentBridge) (node : String)
    (command : List String) : (bridge.execute node command).Only Event.OffGate :=
  bridge.only_execute rfl fun _ => rfl

theorem ExplorerContext.Builtin.givesBack {ctx : ExplorerContext} {explorer : Explorer}
    {bridge : BridgeConfig} (h : ctx.Builtin explorer) (hbridge : ctx.executor = bridge.executor?) :
    explorer.find.GivesBack := by
  refine Survey.composes_givesBack.builtin h ?_ ?_ ?_
  · intro query
    exact Survey.givesBack_of_only (Survey.only_ask rfl)
  · intro node _
    exact Survey.givesBack_gated (Survey.composes_only.staticPodOn (Survey.only_ask rfl))
  · intro executor reached node _
    rw [hbridge] at reached
    obtain ⟨agents, _, rfl⟩ := Option.map_eq_some_iff.mp reached
    exact Survey.givesBack_gated
      (Survey.composes_only.probeNode (agents.only_offGate_execute node _))

namespace Surveyor

theorem givesBack_collect {config : SurveyConfig} {nodes : List Node} (now : Timestamp) :
    ((prepare config .builtin nodes).collect now).GivesBack := by
  refine Survey.composes_givesBack.collect ?_ ?_ ?_ now
  · intro kind
    exact Survey.givesBack_of_only (Survey.only_ask rfl)
  · intro d hd
    obtain ⟨component, _, rfl⟩ := List.mem_map.mp hd
    refine Survey.composes_givesBack.search ?_
    intro candidate hcandidate
    exact ⟨Survey.givesBack_of_only (Survey.only_note rfl),
      (Registry.mem_chain_builtin_iff.mp hcandidate).givesBack rfl⟩
  · intro stage
    apply Survey.givesBack_of_only
    refine Collector.only_fetchMachines (P := Event.OffGate) _ stage (fun _ => rfl) ?_
    intro executor hexecutor node _
    obtain ⟨agents, _, rfl⟩ := Option.map_eq_some_iff.mp hexecutor
    exact agents.only_offGate_execute node _

theorem givesBack_after {s : Surveyor} {config : SurveyConfig} (h : s.Consistent config .builtin)
    (call : SurveyorCall) : (s.after call).GivesBack := by
  cases call with
  | init => exact Survey.givesBack_of_only (only_init rfl)
  | sync now =>
    refine Survey.composes_givesBack.sync ?_
    intro collector hcollector
    obtain ⟨_, nodes, rfl⟩ := h.collector_eq collector hcollector
    exact givesBack_collect now

theorem gate_run_history {s : Surveyor} {config : SurveyConfig} (h : s.Consistent config .builtin)
    (visits : List Visit) {g : Gate} (hg : g.Idle) :
    g.run (gateSteps ((s.history visits).flatMap Episode.events)) = g := by
  induction visits generalizing s with
  | nil => rfl
  | cons v rest ih =>
    have hfirst : g.run (gateSteps (Episode.mk v s).events) = g :=
      givesBack_after h v.call v.cluster g hg
    rw [history, List.flatMap_cons, gateSteps_append, Gate.run_append, hfirst]
    exact ih (Consistent.next (e := ⟨v, s⟩) h)

end Surveyor

end ClusterSurvey
