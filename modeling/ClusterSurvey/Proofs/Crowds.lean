import ClusterSurvey.Proofs.Places
import Mathlib.Data.Fintype.EquivFin
import Mathlib.Logic.Relation

/-! Calls that share a gate. Any number of them come at any time, each with a ticket of its own, and
a call that is over, or that is given up before it is, gives back the place it has. Where every call
goes through the gate once and does its work inside, none of them waits for a place while it has
one, and all can come to their end (`Crowd.Disciplined`). -/
namespace ClusterSurvey

def Event.IsPassage : Event → Prop
  | passed .. => True
  | _ => False

namespace Gate

variable {limit : Nat} {g : Gate} {ticket other : String} {event : Event}

def after (g : Gate) (ticket : String) : Event → Gate
  | .passed _ (.enter _) => g.step (.enter ticket)
  | .passed _ (.drop _) => g.step (.drop ticket)
  | _ => g

theorem after_of_not_isPassage (h : ¬ event.IsPassage) : g.after ticket event = g := by
  cases event with
  | passed => exact absurd trivial h
  | asked | consulted | marked => rfl

theorem Kept.after (h : g.Kept limit) (ticket : String) (event : Event) :
    (g.after ticket event).Kept limit := by
  unfold Gate.after
  split
  · exact h.step _
  · exact h.step _
  · exact h

/-- What one call does leaves the places of all others as they are. -/
theorem mem_places_after_iff (h : other ≠ ticket) :
    other ∈ (g.after ticket event).places ↔ other ∈ g.places := by
  unfold after
  split
  · rw [mem_places_step_enter_iff, or_iff_right h]
  · rw [mem_places_step_drop_iff, and_iff_left h]
  · exact Iff.rfl

end Gate

structure Caller where
  ticket : String
  rest : List Event

structure Crowd where
  gate : Gate
  callers : List Caller

namespace Crowd

def tickets (c : Crowd) : List String := c.callers.map (·.ticket)

inductive Advance : Crowd → Crowd → Prop where
  | acts (g : Gate) (front back : List Caller) (ticket : String) (event : Event)
      (rest : List Event) (admitted : ticket ∉ g.waiting) :
      Advance ⟨g, front ++ ⟨ticket, event :: rest⟩ :: back⟩
        ⟨g.after ticket event, front ++ ⟨ticket, rest⟩ :: back⟩
  | ends (g : Gate) (front back : List Caller) (ticket : String) :
      Advance ⟨g, front ++ ⟨ticket, []⟩ :: back⟩ ⟨g.step (.drop ticket), front ++ back⟩

/-- A call comes, gets on, or is given up wherever it has got to. -/
inductive Step (calls : List Event → Prop) : Crowd → Crowd → Prop where
  | comes (g : Gate) (callers : List Caller) (ticket : String) (course : List Event)
      (fresh : ∀ caller ∈ callers, caller.ticket ≠ ticket) (known : calls course) :
      Step calls ⟨g, callers⟩ ⟨g, ⟨ticket, course⟩ :: callers⟩
  | advances {c c' : Crowd} (advance : Advance c c') : Step calls c c'
  | cancelled (g : Gate) (front back : List Caller) (caller : Caller) :
      Step calls ⟨g, front ++ caller :: back⟩ ⟨g.step (.drop caller.ticket), front ++ back⟩

def Formed (limit : Nat) (calls : List Event → Prop) (c : Crowd) : Prop :=
  ∃ g, Gate.ofLimit? limit = some g ∧ Relation.ReflTransGen (Step calls) ⟨g, []⟩ c

variable {limit : Nat} {calls : List Event → Prop} {c c' : Crowd} {g : Gate}
  {front back : List Caller} {caller : Caller} {ticket : String} {event : Event}
  {rest : List Event}

structure Kept (limit : Nat) (c : Crowd) : Prop where
  gate : c.gate.Kept limit
  nodup : c.tickets.Nodup
  placed : ∀ ticket ∈ c.gate.places, ticket ∈ c.tickets

theorem tickets_perm (g g' : Gate) (front back : List Caller) (caller : Caller) :
    (tickets ⟨g, front ++ caller :: back⟩).Perm
      (caller.ticket :: tickets ⟨g', front ++ back⟩) :=
  List.perm_middle.map _

theorem notMem_tickets (fresh : ∀ caller ∈ c.callers, caller.ticket ≠ ticket) :
    ticket ∉ c.tickets := by
  intro hmem
  obtain ⟨caller, hcaller, hsame⟩ := List.mem_map.mp hmem
  exact fresh caller hcaller hsame

theorem Kept.exists_caller (h : c.Kept limit) (hplace : ticket ∈ c.gate.places) :
    ∃ caller ∈ c.callers, caller.ticket = ticket :=
  List.mem_map.mp (h.placed ticket hplace)

theorem Kept.ne_ticket (h : Kept limit ⟨g, front ++ caller :: back⟩) {other : Caller}
    (hother : other ∈ front ++ back) : other.ticket ≠ caller.ticket := by
  have hnodup := List.nodup_cons.mp ((tickets_perm g g front back caller).nodup_iff.mp h.nodup)
  intro hsame
  apply hnodup.1
  rw [← hsame]
  exact List.mem_map_of_mem hother

theorem Kept.acts (h : Kept limit ⟨g, front ++ ⟨ticket, event :: rest⟩ :: back⟩) :
    Kept limit ⟨g.after ticket event, front ++ ⟨ticket, rest⟩ :: back⟩ := by
  have hsame : tickets ⟨g.after ticket event, front ++ ⟨ticket, rest⟩ :: back⟩ =
      tickets ⟨g, front ++ ⟨ticket, event :: rest⟩ :: back⟩ := by
    simp [tickets]
  refine ⟨h.gate.after ticket event, hsame ▸ h.nodup, ?_⟩
  intro other hother
  rw [hsame]
  by_cases hne : other = ticket
  · simp [hne, tickets]
  · exact h.placed other ((Gate.mem_places_after_iff hne).mp hother)

theorem Kept.leaves (h : Kept limit ⟨g, front ++ caller :: back⟩) :
    Kept limit ⟨g.step (.drop caller.ticket), front ++ back⟩ := by
  have hperm := tickets_perm g (g.step (.drop caller.ticket)) front back caller
  refine ⟨h.gate.step (.drop caller.ticket), ?_, ?_⟩
  · exact (List.nodup_cons.mp (hperm.nodup_iff.mp h.nodup)).2
  · intro other hother
    obtain ⟨hplace, hne⟩ := Gate.mem_places_step_drop_iff.mp hother
    exact (List.mem_cons.mp (hperm.mem_iff.mp (h.placed other hplace))).resolve_left hne

theorem Kept.comes (h : Kept limit ⟨g, front⟩) (fresh : ∀ caller ∈ front, caller.ticket ≠ ticket) :
    Kept limit ⟨g, ⟨ticket, rest⟩ :: front⟩ where
  gate := h.gate
  nodup := List.nodup_cons.mpr ⟨notMem_tickets (c := ⟨g, front⟩) fresh, h.nodup⟩
  placed other hother := List.mem_cons_of_mem _ (h.placed other hother)

theorem Kept.advance (h : c.Kept limit) (hadvance : c.Advance c') : c'.Kept limit := by
  cases hadvance with
  | acts => exact h.acts
  | ends => exact h.leaves

theorem Kept.step (h : c.Kept limit) (hstep : c.Step calls c') : c'.Kept limit := by
  cases hstep with
  | comes _ _ _ _ fresh => exact h.comes fresh
  | advances hadvance => exact h.advance hadvance
  | cancelled => exact h.leaves

theorem Formed.kept (h : c.Formed limit calls) : c.Kept limit := by
  obtain ⟨g, hmade, hreaches⟩ := h
  induction hreaches with
  | refl =>
    refine ⟨Gate.kept_of_ofLimit? hmade, List.nodup_nil, ?_⟩
    simp [Gate.places_of_ofLimit? hmade]
  | tail _ hstep ih => exact ih.step hstep

theorem exists_fresh (callers : List Caller) :
    ∃ ticket, ∀ caller ∈ callers, caller.ticket ≠ ticket := by
  have hinfinite : Infinite String :=
    .of_injective String.ofList fun _ _ => String.ofList_injective
  obtain ⟨ticket, hnew⟩ := Infinite.exists_notMem_finset (callers.map (·.ticket)).toFinset
  refine ⟨ticket, ?_⟩
  rintro caller hcaller rfl
  exact hnew (List.mem_toFinset.mpr (List.mem_map_of_mem hcaller))

theorem exists_formed (hmade : Gate.ofLimit? limit = some g) (courses : List (List Event))
    (hknown : ∀ course ∈ courses, calls course) :
    ∃ c : Crowd, c.Formed limit calls ∧ c.callers.map (·.rest) = courses := by
  induction courses with
  | nil => exact ⟨⟨g, []⟩, ⟨g, hmade, .refl⟩, rfl⟩
  | cons course others ih =>
    obtain ⟨hcourse, hothers⟩ := List.forall_mem_cons.mp hknown
    obtain ⟨⟨gate, callers⟩, ⟨first, hfirst, hreaches⟩, hrest⟩ := ih hothers
    obtain ⟨ticket, hfresh⟩ := exists_fresh callers
    refine ⟨⟨gate, ⟨ticket, course⟩ :: callers⟩, ⟨first, hfirst, ?_⟩, ?_⟩
    · exact hreaches.tail (.comes gate callers ticket course hfresh hcourse)
    · rw [List.map_cons, hrest]

structure Balanced (limit : Nat) (c : Crowd) : Prop where
  gate : c.gate.Balanced limit
  all_free : c.callers = [] → c.gate.available = max limit 1

theorem Kept.balanced (h : c.Kept limit) : c.Balanced limit where
  gate := h.gate.balanced
  all_free := by
    intro hnone
    apply h.gate.available_of_held_eq_nil
    apply List.eq_nil_iff_forall_not_mem.mpr
    intro ticket hheld
    obtain ⟨caller, hcaller, _⟩ := h.exists_caller (List.mem_append_left _ hheld)
    simp [hnone] at hcaller

end Crowd

def IsVisit (course : List Event) : Prop :=
  ∃ stage visitor work, course =
      .passed stage (.enter visitor) :: (work ++ [.passed stage (.drop visitor)]) ∧
    ∀ event ∈ work, ¬ event.IsPassage

/-- How far a call has got that goes through a gate once. -/
inductive Caller.Stands (g : Gate) (caller : Caller) : Prop where
  | ahead (visit : IsVisit caller.rest) (outside : caller.ticket ∉ g.places)
  | inside (stage : Stage) (visitor : String) (work : List Event)
      (rest_eq : caller.rest = work ++ [.passed stage (.drop visitor)])
      (plain : ∀ event ∈ work, ¬ event.IsPassage) (placed : caller.ticket ∈ g.places)
  | gone (rest_eq : caller.rest = []) (outside : caller.ticket ∉ g.places)

theorem Caller.Stands.congr {g g' : Gate} {caller : Caller} (h : caller.Stands g)
    (hsame : caller.ticket ∈ g'.places ↔ caller.ticket ∈ g.places) : caller.Stands g' := by
  cases h with
  | ahead visit outside => exact .ahead visit (mt hsame.mp outside)
  | inside stage visitor work rest_eq plain placed =>
    exact .inside stage visitor work rest_eq plain (hsame.mpr placed)
  | gone rest_eq outside => exact .gone rest_eq (mt hsame.mp outside)

theorem Caller.Stands.acts {g : Gate} {ticket : String} {event : Event} {rest : List Event}
    (h : Stands g ⟨ticket, event :: rest⟩) (hnodup : g.places.Nodup) :
    Stands (g.after ticket event) ⟨ticket, rest⟩ ∧ (g.after ticket event).places.Nodup := by
  cases h with
  | ahead visit outside =>
    obtain ⟨stage, visitor, work, hcourse, hplain⟩ := visit
    cases hcourse
    refine ⟨.inside stage visitor work rfl hplain ?_, ?_⟩
    · exact Gate.mem_places_step_enter_iff.mpr (.inl rfl)
    · exact (g.places_step_enter ticket).nodup_iff.mpr (List.nodup_cons.mpr ⟨outside, hnodup⟩)
  | inside stage visitor work rest_eq plain placed =>
    cases work with
    | nil =>
      cases rest_eq
      refine ⟨.gone rfl ?_, ?_⟩
      · exact fun hplace => (Gate.mem_places_step_drop_iff.mp hplace).2 rfl
      · exact (g.places_step_drop ticket) ▸ hnodup.filter _
    | cons first later =>
      cases rest_eq
      obtain ⟨hfirst, hlater⟩ := List.forall_mem_cons.mp plain
      rw [Gate.after_of_not_isPassage hfirst]
      exact ⟨.inside stage visitor later rfl hlater placed, hnodup⟩
  | gone rest_eq => cases rest_eq

theorem Caller.Stands.not_enters {g : Gate} {caller : Caller} (h : caller.Stands g)
    (hplace : caller.ticket ∈ g.places) (stage : Stage) (visitor : String) :
    .passed stage (.enter visitor) ∉ caller.rest := by
  cases h with
  | ahead _ outside => exact absurd hplace outside
  | inside _ _ work rest_eq plain =>
    rw [rest_eq, List.mem_append]
    rintro (hwork | hlast)
    · exact plain _ hwork trivial
    · simp at hlast
  | gone _ outside => exact absurd hplace outside

theorem Caller.Stands.placed {g : Gate} {ticket : String} {event : Event} {rest : List Event}
    (h : Stands g ⟨ticket, event :: rest⟩) (hplain : ¬ event.IsPassage) : ticket ∈ g.places := by
  cases h with
  | ahead visit =>
    obtain ⟨stage, visitor, work, hcourse, _⟩ := visit
    cases hcourse
    exact absurd trivial hplain
  | inside _ _ _ _ _ placed => exact placed
  | gone rest_eq => cases rest_eq

namespace Crowd

variable {limit : Nat} {calls : List Event → Prop} {c c' : Crowd} {g : Gate}
  {front back : List Caller} {caller : Caller} {ticket : String} {event : Event}
  {rest : List Event}

structure Orderly (limit : Nat) (c : Crowd) : Prop where
  kept : c.Kept limit
  nodup_places : c.gate.places.Nodup
  stands : ∀ caller ∈ c.callers, caller.Stands c.gate

theorem Orderly.acts (h : Orderly limit ⟨g, front ++ ⟨ticket, event :: rest⟩ :: back⟩) :
    Orderly limit ⟨g.after ticket event, front ++ ⟨ticket, rest⟩ :: back⟩ := by
  obtain ⟨hkept, hnodup, hstands⟩ := h
  obtain ⟨hnext, hplaces⟩ := (hstands ⟨ticket, event :: rest⟩ (by simp)).acts hnodup
  refine ⟨hkept.acts, hplaces, ?_⟩
  intro other hother
  rw [List.perm_middle.mem_iff, List.mem_cons] at hother
  rcases hother with rfl | hother
  · exact hnext
  · have hlisted := List.perm_middle.mem_iff.mpr
      (List.mem_cons_of_mem (Caller.mk ticket (event :: rest)) hother)
    exact (hstands other hlisted).congr (Gate.mem_places_after_iff (hkept.ne_ticket hother))

theorem Orderly.leaves (h : Orderly limit ⟨g, front ++ caller :: back⟩) :
    Orderly limit ⟨g.step (.drop caller.ticket), front ++ back⟩ := by
  obtain ⟨hkept, hnodup, hstands⟩ := h
  refine ⟨hkept.leaves, (g.places_step_drop caller.ticket) ▸ hnodup.filter _, ?_⟩
  intro other hother
  have hlisted := List.perm_middle.mem_iff.mpr (List.mem_cons_of_mem caller hother)
  refine (hstands other hlisted).congr ?_
  rw [Gate.mem_places_step_drop_iff, and_iff_left (hkept.ne_ticket hother)]

theorem Orderly.comes (h : Orderly limit ⟨g, front⟩)
    (fresh : ∀ caller ∈ front, caller.ticket ≠ ticket) (hvisit : IsVisit rest) :
    Orderly limit ⟨g, ⟨ticket, rest⟩ :: front⟩ := by
  refine ⟨h.kept.comes fresh, h.nodup_places, List.forall_mem_cons.mpr ⟨?_, h.stands⟩⟩
  exact .ahead hvisit fun hplace => notMem_tickets fresh (h.kept.placed ticket hplace)

theorem Orderly.advance (h : c.Orderly limit) (hadvance : c.Advance c') : c'.Orderly limit := by
  cases hadvance with
  | acts => exact h.acts
  | ends => exact h.leaves

theorem Orderly.step (h : c.Orderly limit) (hvisits : ∀ course, calls course → IsVisit course)
    (hstep : c.Step calls c') : c'.Orderly limit := by
  cases hstep with
  | comes _ _ _ course fresh known => exact h.comes fresh (hvisits course known)
  | advances hadvance => exact h.advance hadvance
  | cancelled => exact h.leaves

theorem Formed.orderly (h : c.Formed limit calls)
    (hvisits : ∀ course, calls course → IsVisit course) : c.Orderly limit := by
  obtain ⟨g, hmade, hreaches⟩ := h
  induction hreaches with
  | refl =>
    have hformed : Formed limit calls ⟨g, []⟩ := ⟨g, hmade, .refl⟩
    refine ⟨hformed.kept, ?_, by simp⟩
    simp [Gate.places_of_ofLimit? hmade]
  | tail _ hstep ih => exact ih.step hvisits hstep

def inFlight (c : Crowd) : List Caller := c.callers.filter fun caller => caller.ticket ∈ c.gate.held

theorem Orderly.length_inFlight (h : c.Orderly limit) :
    c.inFlight.length = c.gate.held.length := by
  have hheld : c.gate.held.Nodup := (List.nodup_append.mp h.nodup_places).1
  have htickets : c.inFlight.map (·.ticket) = c.tickets.filter (· ∈ c.gate.held) := by
    unfold inFlight tickets
    rw [List.filter_map]
    rfl
  have hperm : (c.inFlight.map (·.ticket)).Perm c.gate.held := by
    rw [htickets, List.perm_ext_iff_of_nodup (h.kept.nodup.filter _) hheld]
    intro ticket
    simp only [List.mem_filter, decide_eq_true_eq, and_iff_right_iff_imp]
    exact fun hmem => h.kept.placed ticket (List.mem_append_left _ hmem)
  rw [← hperm.length_eq, List.length_map]

theorem Orderly.not_mem_waiting (h : c.Orderly limit) (hheld : ticket ∈ c.gate.held) :
    ticket ∉ c.gate.waiting :=
  fun hwaiting => (List.nodup_append.mp h.nodup_places).2.2 ticket hheld ticket hwaiting rfl

/-- If all had to wait, the gate would be full, and somebody inside would have to wait as well. -/
theorem Orderly.exists_admitted (h : c.Orderly limit) (hsome : c.callers ≠ []) :
    ∃ caller ∈ c.callers, caller.ticket ∉ c.gate.waiting := by
  by_contra hnone
  push Not at hnone
  obtain ⟨first, hfirst⟩ := List.exists_mem_of_ne_nil _ hsome
  have hfull := h.kept.gate.full (List.ne_nil_of_mem (hnone first hfirst))
  have hlimit := h.kept.gate.limit_eq
  obtain ⟨ticket, hheld⟩ : ∃ ticket, ticket ∈ c.gate.held := by
    apply List.exists_mem_of_length_pos
    omega
  obtain ⟨caller, hcaller, rfl⟩ := h.kept.exists_caller (List.mem_append_left _ hheld)
  exact h.not_mem_waiting hheld (hnone caller hcaller)

theorem Orderly.exists_advance (h : c.Orderly limit) (hsome : c.callers ≠ []) :
    ∃ c', c.Advance c' := by
  obtain ⟨caller, hcaller, hadmitted⟩ := h.exists_admitted hsome
  obtain ⟨gate, callers⟩ := c
  obtain ⟨ticket, rest⟩ := caller
  obtain ⟨front, back, rfl⟩ := List.append_of_mem hcaller
  cases rest with
  | nil => exact ⟨_, .ends gate front back ticket⟩
  | cons event rest => exact ⟨_, .acts gate front back ticket event rest hadmitted⟩

def remaining (c : Crowd) : Nat := c.callers.length + (c.callers.flatMap (·.rest)).length

theorem Advance.remaining_lt (h : c.Advance c') : c'.remaining < c.remaining := by
  cases h with
  | acts | ends =>
    simp only [remaining, List.flatMap_append, List.flatMap_cons, List.length_append,
      List.length_cons]
    omega

/-- All can come to their end, one after the other, and nobody has to be given up for that. -/
theorem Orderly.exists_finished (h : c.Orderly limit) :
    ∃ c', Relation.ReflTransGen Advance c c' ∧ c'.callers = [] ∧ c'.Orderly limit := by
  induction hsize : c.remaining using Nat.strong_induction_on generalizing c with
  | _ size ih =>
    by_cases hnone : c.callers = []
    · exact ⟨c, .refl, hnone, h⟩
    · obtain ⟨next, hadvance⟩ := h.exists_advance hnone
      have hless : next.remaining < size := hsize ▸ hadvance.remaining_lt
      obtain ⟨last, hreaches, hlast⟩ := ih _ hless (h.advance hadvance) rfl
      exact ⟨last, hreaches.head hadvance, hlast⟩

theorem Orderly.held_eq_nil (h : c.Orderly limit) (hover : ∀ caller ∈ c.callers, caller.rest = []) :
    c.gate.held = [] := by
  apply List.eq_nil_iff_forall_not_mem.mpr
  intro ticket hheld
  have hplace : ticket ∈ c.gate.places := List.mem_append_left _ hheld
  obtain ⟨caller, hcaller, rfl⟩ := h.kept.exists_caller hplace
  cases h.stands caller hcaller with
  | ahead visit outside => exact outside hplace
  | inside _ _ work rest_eq =>
    rw [hover caller hcaller] at rest_eq
    simp at rest_eq
  | gone _ outside => exact outside hplace

/-- How calls share a gate of which each goes through it once. -/
structure Disciplined (limit : Nat) (c : Crowd) : Prop where
  inFlight : c.inFlight.length + c.gate.available = max limit 1
  inside : ∀ ticket event rest, ⟨ticket, event :: rest⟩ ∈ c.callers → ¬ event.IsPassage →
    ticket ∉ c.gate.waiting → ticket ∈ c.gate.held
  /-- Whoever is inside waits for nothing at the gate, neither now nor later. -/
  holds_once : ∀ caller ∈ c.callers, caller.ticket ∈ c.gate.held →
    caller.ticket ∉ c.gate.waiting ∧
      ∀ stage visitor, .passed stage (.enter visitor) ∉ caller.rest
  gets_on : c.callers ≠ [] → ∃ c', c.Advance c'
  finishes : ∃ c', Relation.ReflTransGen Advance c c' ∧ c'.callers = [] ∧
    c'.gate.available = max limit 1
  all_free : (∀ caller ∈ c.callers, caller.rest = []) → c.gate.available = max limit 1

theorem Orderly.disciplined (h : c.Orderly limit) : c.Disciplined limit where
  inFlight := by
    rw [h.length_inFlight]
    exact h.kept.gate.balance
  inside := by
    intro ticket event rest hcaller hplain hadmitted
    have hplace := (h.stands _ hcaller).placed hplain
    exact (List.mem_append.mp hplace).resolve_right hadmitted
  holds_once := by
    intro caller hcaller hheld
    refine ⟨h.not_mem_waiting hheld, ?_⟩
    exact (h.stands caller hcaller).not_enters (List.mem_append_left _ hheld)
  gets_on := h.exists_advance
  finishes := by
    obtain ⟨last, hreaches, hnone, hlast⟩ := h.exists_finished
    exact ⟨last, hreaches, hnone, hlast.kept.balanced.all_free hnone⟩
  all_free := by
    intro hover
    exact h.kept.gate.available_of_held_eq_nil (h.held_eq_nil hover)

end Crowd

end ClusterSurvey
