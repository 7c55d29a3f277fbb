import ClusterSurvey.Proofs.Permits

/-! The places at a gate. Whatever is done at it, step by step, the places that are taken and those
that are free are as many as the gate lets in, and nobody waits while one of them is free
(`Gate.Balanced`). -/
namespace ClusterSurvey

namespace Gate

variable {limit : Nat} {g : Gate} {visitor other : String}

def places (g : Gate) : List String := g.held ++ g.waiting

structure Kept (limit : Nat) (g : Gate) : Prop where
  limit_eq : g.limit = max limit 1
  held_le : g.held.length ≤ g.limit
  /-- Nobody waits while there is room. -/
  full : g.waiting ≠ [] → g.held.length = g.limit

theorem kept_of_ofLimit? (h : ofLimit? limit = some g) : g.Kept limit := by
  unfold ofLimit? at h
  split at h
  · cases h
    exact ⟨rfl, Nat.zero_le _, absurd rfl⟩
  · cases h

theorem places_of_ofLimit? (h : ofLimit? limit = some g) : g.places = [] := by
  have hidle := idle_of_ofLimit? h
  simp [places, hidle.held_eq, hidle.waiting_eq]

theorem kept_refill (hlimit : g.limit = max limit 1) (hheld : g.held.length ≤ g.limit) :
    g.refill.Kept limit := by
  constructor
  · exact hlimit
  · simp only [refill, available, List.length_append, List.length_take]
    omega
  · intro hwaiting
    simp only [refill, available, ne_eq, List.drop_eq_nil_iff, List.length_append,
      List.length_take] at hwaiting ⊢
    omega

theorem step_enter_of_room (h : 0 < g.available) (visitor : String) :
    g.step (.enter visitor) = { g with held := g.held ++ [visitor] } := if_pos h

theorem step_enter_of_full (h : g.available = 0) (visitor : String) :
    g.step (.enter visitor) = { g with waiting := g.waiting ++ [visitor] } :=
  if_neg (Nat.not_lt.mpr h.le)

theorem Kept.step (h : g.Kept limit) (s : GateStep) : (g.step s).Kept limit := by
  obtain ⟨hlimit, hheld, hfull⟩ := h
  cases s with
  | enter visitor =>
    obtain hnone | hroom := Nat.eq_zero_or_pos g.available
    · have hall : g.held.length = g.limit := by
        unfold available at hnone
        omega
      rw [step_enter_of_full hnone]
      exact ⟨hlimit, hheld, fun _ => hall⟩
    · rw [step_enter_of_room hroom]
      unfold available at hroom
      constructor
      · exact hlimit
      · simp
        omega
      · intro hwaiting
        have := hfull hwaiting
        omega
  | drop visitor => exact kept_refill hlimit ((List.length_filter_le _ _).trans hheld)

theorem Kept.run (h : g.Kept limit) (steps : List GateStep) : (g.run steps).Kept limit := by
  induction steps generalizing g with
  | nil => exact h
  | cons s rest ih => exact ih (h.step s)

theorem Kept.balance (h : g.Kept limit) : g.held.length + g.available = max limit 1 := by
  have := h.held_le
  rw [← h.limit_eq]
  unfold available
  omega

theorem Kept.available_of_held_eq_nil (h : g.Kept limit) (hheld : g.held = []) :
    g.available = max limit 1 := by
  simpa [hheld] using h.balance

theorem places_step_enter (g : Gate) (visitor : String) :
    (g.step (.enter visitor)).places.Perm (visitor :: g.places) := by
  unfold places
  obtain hnone | hroom := Nat.eq_zero_or_pos g.available
  · rw [step_enter_of_full hnone, ← List.append_assoc]
    exact List.perm_append_singleton _ _
  · rw [step_enter_of_room hroom, List.append_assoc]
    exact List.perm_middle

theorem places_step_drop (g : Gate) (visitor : String) :
    (g.step (.drop visitor)).places = g.places.filter (· ≠ visitor) := by
  unfold step refill places
  rw [List.append_assoc, List.take_append_drop, List.filter_append]

theorem mem_places_step_drop_iff :
    other ∈ (g.step (.drop visitor)).places ↔ other ∈ g.places ∧ other ≠ visitor := by
  simp [places_step_drop]

theorem mem_places_step_enter_iff :
    other ∈ (g.step (.enter visitor)).places ↔ other = visitor ∨ other ∈ g.places := by
  rw [(places_step_enter g visitor).mem_iff, List.mem_cons]

structure Balanced (limit : Nat) (g : Gate) : Prop where
  balance : g.held.length + g.available = max limit 1
  admits_iff : ∀ visitor, (g.step (.enter visitor)).held = g.held ++ [visitor] ↔ 0 < g.available
  waits : ∀ visitor, g.available = 0 →
    g.step (.enter visitor) = { g with waiting := g.waiting ++ [visitor] }
  none_waiting : 0 < g.available → g.waiting = []
  leaves : ∀ visitor, (g.step (.drop visitor)).places = g.places.filter (· ≠ visitor)

theorem Kept.balanced (h : g.Kept limit) : g.Balanced limit where
  balance := h.balance
  admits_iff := by
    intro visitor
    constructor
    · intro hlet
      by_contra hnone
      rw [step_enter_of_full (Nat.eq_zero_of_not_pos hnone)] at hlet
      simp at hlet
    · intro hroom
      rw [step_enter_of_room hroom]
  waits _ hnone := step_enter_of_full hnone _
  none_waiting := by
    intro hroom
    by_contra hwaiting
    have hall := h.full hwaiting
    unfold available at hroom
    omega
  leaves := g.places_step_drop

example : run ⟨1, [], []⟩ [.enter "cp-1", .enter "cp-2", .drop "cp-1"] = ⟨1, ["cp-2"], []⟩ := rfl

end Gate

end ClusterSurvey
