import ClusterSurvey.Proofs.Composition

/-! Two surveys side by side, of one cluster or of two. They agree in their events, and in their
results as far as some view of them shows, as long as their parts do. -/
namespace ClusterSurvey

theorem error_or_ok_of_map_eq_map {α β ε : Type} {view : α → β} {x y : Except ε α}
    (h : x.map view = y.map view) :
    (∃ e, x = .error e ∧ y = .error e) ∨
      ∃ a a', x = .ok a ∧ y = .ok a' ∧ view a = view a' := by
  cases x with
  | error e =>
    cases y with
    | error e' =>
      cases h
      exact .inl ⟨e, rfl, rfl⟩
    | ok a' => cases h
  | ok a =>
    cases y with
    | error e' => cases h
    | ok a' => exact .inr ⟨a, a', rfl, rfl, Except.ok.inj h⟩

namespace Survey

variable {α β ε ε' : Type}

def andThen (survey : Survey (Except ε α)) (fail : ε → ε') (next : α → Survey (Except ε' β)) :
    Survey (Except ε' β) := do
  match ← survey with
  | .error e => return .error (fail e)
  | .ok a => next a

section AndThen

variable {survey : Survey (Except ε α)} {fail : ε → ε'} {next : α → Survey (Except ε' β)}
  {cluster : Cluster} {a : α} {e : ε}

theorem value_andThen_of_ok (h : (survey.on cluster).value = .ok a) :
    ((survey.andThen fail next).on cluster).value = ((next a).on cluster).value := by
  unfold andThen
  rw [value_bind, h]

theorem events_andThen_of_ok (h : (survey.on cluster).value = .ok a) :
    ((survey.andThen fail next).on cluster).events =
      (survey.on cluster).events ++ ((next a).on cluster).events := by
  unfold andThen
  rw [events_bind, h]

theorem value_andThen_of_error (h : (survey.on cluster).value = .error e) :
    ((survey.andThen fail next).on cluster).value = .error (fail e) := by
  unfold andThen
  rw [value_bind, h]
  rfl

theorem events_andThen_of_error (h : (survey.on cluster).value = .error e) :
    ((survey.andThen fail next).on cluster).events = (survey.on cluster).events := by
  unfold andThen
  rw [events_bind, h]
  exact List.append_nil _

theorem exists_of_andThen_eq_ok {b : β}
    (h : ((survey.andThen fail next).on cluster).value = .ok b) :
    ∃ a, (survey.on cluster).value = .ok a ∧ ((next a).on cluster).value = .ok b := by
  cases hfirst : (survey.on cluster).value with
  | error e =>
    rw [value_andThen_of_error hfirst] at h
    cases h
  | ok a =>
    rw [value_andThen_of_ok hfirst] at h
    exact ⟨a, rfl, h⟩

end AndThen

theorem untilFailure_cons (visit : α → Survey (Except ε β)) (a : α) (rest : List α) :
    untilFailure visit (a :: rest) =
      (visit a).andThen id fun b => do return (← untilFailure visit rest).map (b :: ·) := rfl

end Survey

namespace Collector

theorem collect_eq_andThen (c : Collector) (now : Timestamp) :
    c.collect now = fetchInventory.andThen .failed fun inventory =>
      (c.fetchComponents inventory).andThen .failed fun stage => do
        return (← c.fetchMachines stage).map fun s => { s with syncedAt := some now } := by
  unfold collect Survey.andThen
  congr 1
  funext listed
  cases listed with
  | error e => rfl
  | ok inventory =>
    dsimp only
    congr 1
    funext staged
    cases staged with
    | error e => rfl
    | ok stage => rfl

theorem syncedAt_of_collect {c : Collector} {now : Timestamp} {cluster : Cluster}
    {snapshot : Snapshot} (h : ((c.collect now).on cluster).value = .ok snapshot) :
    snapshot.syncedAt = some now := by
  rw [collect_eq_andThen] at h
  obtain ⟨inventory, _, h⟩ := Survey.exists_of_andThen_eq_ok h
  obtain ⟨stage, _, h⟩ := Survey.exists_of_andThen_eq_ok h
  rw [Survey.value_bind, Survey.value_pure] at h
  cases hmachines : ((c.fetchMachines stage).on cluster).value with
  | error abort =>
    rw [hmachines] at h
    cases h
  | ok complete =>
    rw [hmachines] at h
    cases h
    rfl

end Collector

def Snapshot.undated (s : Snapshot) : Snapshot := { s with syncedAt := none }

structure Observed.AgreeOn {α β ε : Type} (view : α → β) (x y : Observed (Except ε α)) : Prop where
  value_eq : x.value.map view = y.value.map view
  events_eq : x.events = y.events

namespace Survey

variable {α β ε : Type} {w w' : Cluster}

def SameOn (w w' : Cluster) (survey : Survey α) : Prop := survey.on w = survey.on w'

theorem sameOn_pure (a : α) : (pure a : Survey α).SameOn w w' := rfl

theorem sameOn_note (event : Event) : (note event).SameOn w w' := rfl

theorem sameOn_ask {call : Call} (h : w call = w' call) : (ask call).SameOn w w' :=
  congrArg (fun answer => Observed.mk answer [.asked call]) h

theorem sameOn_bind {survey : Survey α} {next : α → Survey β} (h : survey.SameOn w w')
    (hnext : ∀ a, (next a).SameOn w w') : (survey >>= next).SameOn w w' := by
  have hlater : (next (survey.on w').value).on w = (next (survey.on w').value).on w' := hnext _
  have hfirst : survey.on w = survey.on w' := h
  apply Observed.ext
  · rw [value_bind, value_bind, hfirst, hlater]
  · rw [events_bind, events_bind, hfirst, hlater]

theorem sameOn_gated {stage : Stage} {visitor : String} {survey : Survey α}
    (h : survey.SameOn w w') : (gated stage visitor survey).SameOn w w' :=
  sameOn_bind (sameOn_note _) fun _ => sameOn_bind h fun a =>
    sameOn_bind (sameOn_note _) fun _ => sameOn_pure a

theorem composes_sameOn : Composes (SameOn w w') := ⟨sameOn_pure, sameOn_bind⟩

/-! Surveys that agree as long as their parts do. -/

section Agree

variable {ε' γ δ : Type} {view : α → γ} {view' : β → δ} {survey survey' : Survey (Except ε α)}

theorem agreeOn_map (h : (survey.on w).AgreeOn view (survey'.on w')) {f f' : α → β}
    (hf : ∀ a a', view a = view a' → view' (f a) = view' (f' a')) :
    ((do return (← survey).map f : Survey (Except ε β)).on w).AgreeOn view'
      ((do return (← survey').map f' : Survey (Except ε β)).on w') := by
  constructor
  · simp only [value_bind, value_pure]
    obtain ⟨e, hx, hx'⟩ | ⟨a, a', hx, hx', hview⟩ := error_or_ok_of_map_eq_map h.value_eq
    · rw [hx, hx']
      rfl
    · rw [hx, hx']
      exact congrArg Except.ok (hf a a' hview)
  · simpa only [events_bind, events_pure, List.append_nil] using h.events_eq

theorem agreeOn_andThen (h : (survey.on w).AgreeOn view (survey'.on w')) (fail : ε → ε')
    {next next' : α → Survey (Except ε' β)}
    (hnext : ∀ a a', view a = view a' → ((next a).on w).AgreeOn view' ((next' a').on w')) :
    ((survey.andThen fail next).on w).AgreeOn view' ((survey'.andThen fail next').on w') := by
  obtain ⟨hvalue, hevents⟩ := h
  obtain ⟨e, hx, hx'⟩ | ⟨a, a', hx, hx', hview⟩ := error_or_ok_of_map_eq_map hvalue
  · constructor
    · rw [value_andThen_of_error hx, value_andThen_of_error hx']
    · rw [events_andThen_of_error hx, events_andThen_of_error hx', hevents]
  · obtain ⟨hlater, hlaterEvents⟩ := hnext a a' hview
    constructor
    · rw [value_andThen_of_ok hx, value_andThen_of_ok hx', hlater]
    · rw [events_andThen_of_ok hx, events_andThen_of_ok hx', hevents, hlaterEvents]

end Agree

theorem agreeOn_untilFailure {γ : Type} {view : β → γ} {visit : α → Survey (Except ε β)}
    {items : List α} (h : ∀ a ∈ items, ((visit a).on w).AgreeOn view ((visit a).on w')) :
    ((untilFailure visit items).on w).AgreeOn (List.map view)
      ((untilFailure visit items).on w') := by
  induction items with
  | nil => exact ⟨rfl, rfl⟩
  | cons a rest ih =>
    rw [List.forall_mem_cons] at h
    rw [untilFailure_cons]
    refine agreeOn_andThen h.1 id fun b b' hview => ?_
    refine agreeOn_map (ih h.2) fun later later' hlater => ?_
    rw [List.map_cons, List.map_cons, hview, hlater]

end Survey

end ClusterSurvey
