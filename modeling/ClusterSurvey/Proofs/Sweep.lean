import ClusterSurvey.Proofs.Instances
import Mathlib.Data.Set.List
import Mathlib.Logic.Relation

/-! Items that are visited all at the same time. Each has an errand of its own; results are taken in
as errands come to their end, and the first failure that is taken in ends the sweep, with the other
errands left where they are. A sweep comes to what the visits come to one after the other in some
order of the items, and every order is possible (`Sweep.ends_iff`). -/
namespace ClusterSurvey

theorem firstFailure_map_ok_append {α ε : Type} (values : List α) (results : List (Except ε α)) :
    firstFailure (values.map .ok ++ results) = (firstFailure results).map (values ++ ·) := by
  induction values with
  | nil =>
    cases h : firstFailure results <;> simp [h, Except.map]
  | cons v rest ih =>
    rw [List.map_cons, List.cons_append, firstFailure, ih]
    cases firstFailure results <;> rfl

theorem firstFailure_eq_error_iff {α ε : Type} {results : List (Except ε α)} {error : ε} :
    firstFailure results = .error error ↔
      ∃ (values : List α) (rest : List (Except ε α)),
        results = values.map .ok ++ .error error :: rest := by
  constructor
  · intro h
    induction results with
    | nil => cases h
    | cons result rest ih =>
      cases result with
      | error e =>
        cases h
        exact ⟨[], rest, rfl⟩
      | ok a =>
        rw [firstFailure] at h
        cases hrest : firstFailure rest with
        | ok values =>
          rw [hrest] at h
          cases h
        | error e =>
          rw [hrest] at h
          cases h
          obtain ⟨values, others, rfl⟩ := ih hrest
          exact ⟨a :: values, others, rfl⟩
  · rintro ⟨values, rest, rfl⟩
    rw [firstFailure_map_ok_append]
    rfl

theorem firstFailure_map_eq_error_iff {α β ε : Type} {visit : α → Except ε β} {items : List α}
    {error : ε} :
    firstFailure (items.map visit) = .error error ↔
      ∃ front a back, items = front ++ a :: back ∧
        (∀ other ∈ front, ∃ b, visit other = .ok b) ∧ visit a = .error error := by
  rw [firstFailure_eq_error_iff]
  constructor
  · rintro ⟨values, rest, hsplit⟩
    obtain ⟨front, back, rfl, hfront, hback⟩ := List.map_eq_append_iff.mp hsplit
    obtain ⟨a, back, rfl, ha, _⟩ := List.map_eq_cons_iff.mp hback
    refine ⟨front, a, back, rfl, ?_, ha⟩
    intro other hother
    have hmem : visit other ∈ values.map Except.ok := by
      rw [← hfront]
      exact List.mem_map_of_mem hother
    obtain ⟨b, _, hvalue⟩ := List.mem_map.mp hmem
    exact ⟨b, hvalue.symm⟩
  · rintro ⟨front, a, back, rfl, hfront, ha⟩
    have hvalues : front.map visit ∈ Set.range (List.map Except.ok) := by
      rw [Set.range_list_map]
      intro result hresult
      obtain ⟨other, hother, rfl⟩ := List.mem_map.mp hresult
      obtain ⟨b, hb⟩ := hfront other hother
      exact ⟨b, hb.symm⟩
    obtain ⟨values, hvalues⟩ := hvalues
    exact ⟨values, back.map visit, by rw [List.map_append, List.map_cons, ← hvalues, ha]⟩

theorem exists_firstFailure_map_eq_ok_iff {α β ε : Type} {visit : α → Except ε β}
    {items : List α} :
    (∃ values, firstFailure (items.map visit) = .ok values) ↔
      ∀ a ∈ items, ∃ b, visit a = .ok b := by
  constructor
  · rintro ⟨values, hvalues⟩ a ha
    have hmem : visit a ∈ values.map Except.ok := by
      rw [← firstFailure_eq_ok_iff.mp hvalues]
      exact List.mem_map_of_mem ha
    obtain ⟨b, _, hb⟩ := List.mem_map.mp hmem
    exact ⟨b, hb.symm⟩
  · intro hall
    cases hvalue : firstFailure (items.map visit) with
    | ok values => exact ⟨values, rfl⟩
    | error e =>
      obtain ⟨front, a, back, rfl, _, ha⟩ := firstFailure_map_eq_error_iff.mp hvalue
      obtain ⟨b, hb⟩ := hall a (by simp)
      rw [ha] at hb
      cases hb

theorem map_eq_of_map_eq_map_ok {α β ε : Type} {visit : α → Except ε β} {item : β → α}
    (hitem : ∀ a b, visit a = .ok b → item b = a) {items : List α} {values : List β}
    (h : items.map visit = values.map .ok) : values.map item = items := by
  induction items generalizing values with
  | nil =>
    rw [List.map_nil, eq_comm, List.map_eq_nil_iff] at h
    rw [h, List.map_nil]
  | cons a rest ih =>
    cases values with
    | nil => cases h
    | cons b values =>
      obtain ⟨hhead, hrest⟩ := List.cons.inj h
      rw [List.map_cons, hitem a b hhead, ih hrest]

structure Errand (α : Type) where
  item : α
  rest : List Event

/-- A sweep under way: the errands that are not taken in, and the results of those that are. -/
structure Sweep (α β : Type) where
  errands : List (Errand α)
  taken : List β
  log : List Event

namespace Sweep

variable {α β ε : Type}

section Semantics

variable (visit : α → Survey (Except ε β)) (cluster : Cluster)

def errand (a : α) : Errand α := ⟨a, ((visit a).on cluster).events⟩

def start (items : List α) : Sweep α β := ⟨items.map (errand visit cluster), [], []⟩

/-- Any errand may do what it has to do next; one that has nothing left to do may be taken in. -/
inductive Step (s : Sweep α β) : Sweep α β → Prop where
  | leaves (front back : List (Errand α)) (a : α) (event : Event) (rest : List Event)
      (errands_eq : s.errands = front ++ ⟨a, event :: rest⟩ :: back) :
      Step s ⟨front ++ ⟨a, rest⟩ :: back, s.taken, s.log ++ [event]⟩
  | takes (front back : List (Errand α)) (a : α) (b : β)
      (errands_eq : s.errands = front ++ ⟨a, []⟩ :: back)
      (value_eq : ((visit a).on cluster).value = .ok b) :
      Step s ⟨front ++ back, s.taken ++ [b], s.log⟩

def Reaches : Sweep α β → Sweep α β → Prop := Relation.ReflTransGen (Step visit cluster)

inductive Ends (s : Sweep α β) : Except ε (List β) → Prop where
  | failed (front back : List (Errand α)) (a : α) (e : ε)
      (errands_eq : s.errands = front ++ ⟨a, []⟩ :: back)
      (value_eq : ((visit a).on cluster).value = .error e) : Ends s (.error e)
  | done (errands_eq : s.errands = []) : Ends s (.ok s.taken)

structure Follows (items order : List α) (s : Sweep α β) : Prop where
  perm : (order ++ s.errands.map (·.item)).Perm items
  taken_eq : order.map (fun a => ((visit a).on cluster).value) = s.taken.map .ok
  log_perm : (s.log ++ s.errands.flatMap (·.rest)).Perm
    (items.flatMap fun a => ((visit a).on cluster).events)

end Semantics

variable {visit : α → Survey (Except ε β)} {cluster : Cluster} {items order : List α}
  {s s' : Sweep α β} {result : Except ε (List β)}

theorem follows_start (items : List α) :
    (start visit cluster items).Follows visit cluster items [] where
  perm := by simp [start, errand, Function.comp_def]
  taken_eq := rfl
  log_perm := by simp [start, errand, List.flatMap_map]

theorem Follows.step (h : s.Follows visit cluster items order) (hstep : s.Step visit cluster s') :
    ∃ order', s'.Follows visit cluster items order' := by
  have hperm := h.perm
  have hlog := h.log_perm
  cases hstep with
  | leaves front back a event rest errands_eq =>
    rw [errands_eq] at hperm hlog
    refine ⟨order, by simpa using hperm, h.taken_eq, ?_⟩
    refine List.Perm.trans ?_ hlog
    -- The event goes from the front of its errand to the end of the log.
    simp only [List.append_assoc, List.flatMap_append, List.flatMap_cons, List.cons_append,
      List.nil_append]
    exact List.Perm.append_left _ List.perm_middle.symm
  | takes front back a b errands_eq value_eq =>
    rw [errands_eq] at hperm hlog
    refine ⟨order ++ [a], ?_, ?_, by simpa using hlog⟩
    · refine List.Perm.trans ?_ hperm
      simp only [List.append_assoc, List.map_append, List.map_cons, List.singleton_append]
      exact List.Perm.append_left _ List.perm_middle.symm
    · simp [h.taken_eq, value_eq]

theorem exists_follows_of_reaches (h : (start visit cluster items).Reaches visit cluster s) :
    ∃ order, s.Follows visit cluster items order := by
  induction h with
  | refl => exact ⟨[], follows_start items⟩
  | tail _ hstep ih =>
    obtain ⟨order, hfollows⟩ := ih
    exact hfollows.step hstep

theorem Follows.mem_log (h : s.Follows visit cluster items order) {event : Event}
    (hevent : event ∈ s.log) : ∃ a ∈ items, event ∈ ((visit a).on cluster).events :=
  List.mem_flatMap.mp (h.log_perm.mem_iff.mp (List.mem_append_left _ hevent))

/-- The items taken in, then the one that fails, then the others: in this order the visits fail
where the sweep does. -/
theorem Follows.exists_order_of_ends (h : s.Follows visit cluster items order)
    (hends : s.Ends visit cluster result) :
    ∃ order', order'.Perm items ∧
      ((Survey.untilFailure visit order').on cluster).value = result := by
  have hperm := h.perm
  cases hends with
  | failed front back a e errands_eq value_eq =>
    refine ⟨order ++ a :: (front ++ back).map (·.item), ?_, ?_⟩
    · rw [errands_eq] at hperm
      refine List.Perm.trans (List.Perm.append_left _ ?_) hperm
      simpa using List.perm_middle.symm
    · rw [Survey.value_untilFailure, List.map_append, h.taken_eq, firstFailure_map_ok_append,
        List.map_cons, value_eq]
      rfl
  | done errands_eq =>
    refine ⟨order, by simpa [errands_eq] using hperm, ?_⟩
    rw [Survey.value_untilFailure, h.taken_eq, firstFailure_map_ok]

theorem Follows.taken_perm (h : s.Follows visit cluster items order) {value : α → β}
    (hvalue : ∀ a, ((visit a).on cluster).value = .ok (value a)) (hdone : s.errands = []) :
    s.taken.Perm (items.map value) := by
  have hperm := h.perm
  have htaken := h.taken_eq
  simp only [hvalue] at htaken
  rw [hdone, List.map_nil, List.append_nil] at hperm
  have hok : Function.Injective (Except.ok : β → Except ε β) := fun _ _ => Except.ok.inj
  have heq : order.map value = s.taken := by
    apply List.map_injective_iff.mpr hok
    rw [List.map_map, ← htaken]
    rfl
  rw [← heq]
  exact hperm.map value

theorem exists_reaches_idle {front back : List (Errand α)} {a : α} {rest : List Event}
    (herrands : s.errands = front ++ ⟨a, rest⟩ :: back) :
    s.Reaches visit cluster ⟨front ++ ⟨a, []⟩ :: back, s.taken, s.log ++ rest⟩ := by
  induction rest generalizing s with
  | nil =>
    rw [List.append_nil, ← herrands]
    exact .refl
  | cons event rest ih =>
    have hreach := ih (s := ⟨front ++ ⟨a, rest⟩ :: back, s.taken, s.log ++ [event]⟩) rfl
    rw [List.append_assoc, List.singleton_append] at hreach
    exact hreach.head (.leaves front back a event rest herrands)

theorem exists_ends_inTurn (h : s.errands.Perm (order.map (errand visit cluster))) :
    ∃ s', s.Reaches visit cluster s' ∧
      s'.Ends visit cluster
        (((Survey.untilFailure visit order).on cluster).value.map (s.taken ++ ·)) ∧
      s'.log = s.log ++ ((Survey.untilFailure visit order).on cluster).events := by
  induction order generalizing s with
  | nil =>
    have hnil : s.errands = [] := List.perm_nil.mp h
    refine ⟨s, .refl, ?_, (List.append_nil _).symm⟩
    have hvalue : ((Survey.untilFailure visit []).on cluster).value.map (s.taken ++ ·) =
        .ok s.taken := congrArg Except.ok (List.append_nil _)
    rw [hvalue]
    exact .done hnil
  | cons a order ih =>
    obtain ⟨front, back, hsplit⟩ := List.append_of_mem (h.mem_iff.mpr List.mem_cons_self)
    have hreach : s.Reaches visit cluster _ := exists_reaches_idle hsplit
    rw [Survey.untilFailure, Survey.value_bind, Survey.events_bind]
    cases hvalue : ((visit a).on cluster).value with
    | error e =>
      refine ⟨_, hreach, .failed front back a e rfl hvalue, ?_⟩
      simp
    | ok b =>
      have hrest : (front ++ back).Perm (order.map (errand visit cluster)) := by
        rw [hsplit] at h
        exact (List.perm_middle.symm.trans h).cons_inv
      obtain ⟨s', hreach', hends, hlog⟩ :=
        ih (s := ⟨front ++ back, s.taken ++ [b], s.log ++ ((visit a).on cluster).events⟩) hrest
      refine ⟨s', (hreach.tail (.takes front back a b rfl hvalue)).trans hreach', ?_, ?_⟩
      · rw [Survey.value_bind, Survey.value_pure]
        cases hlater : ((Survey.untilFailure visit order).on cluster).value with
        | error e =>
          rw [hlater] at hends
          exact hends
        | ok later =>
          rw [hlater] at hends
          simpa [Except.map] using hends
      · rw [hlog, Survey.events_bind, Survey.events_pure, List.append_nil, List.append_assoc]

theorem exists_ends (visit : α → Survey (Except ε β)) (cluster : Cluster) (s : Sweep α β) :
    ∃ s' result, s.Reaches visit cluster s' ∧ s'.Ends visit cluster result := by
  cases s with | mk errands taken log =>
  induction errands generalizing taken log with
  | nil => exact ⟨_, _, .refl, .done rfl⟩
  | cons x rest ih =>
    have hreach : Reaches visit cluster ⟨x :: rest, taken, log⟩ _ :=
      exists_reaches_idle (List.nil_append (x :: rest)).symm
    cases hvalue : ((visit x.item).on cluster).value with
    | error e => exact ⟨_, _, hreach, .failed [] rest x.item e rfl hvalue⟩
    | ok b =>
      obtain ⟨s', result, hreach', hends⟩ := ih (taken ++ [b]) (log ++ x.rest)
      exact ⟨s', result, (hreach.tail (.takes [] rest x.item b rfl hvalue)).trans hreach', hends⟩

theorem exists_ends_of_perm (visit : α → Survey (Except ε β)) (cluster : Cluster)
    (h : order.Perm items) :
    ∃ s, (start visit cluster items).Reaches visit cluster s ∧
      s.Ends visit cluster ((Survey.untilFailure visit order).on cluster).value ∧
      s.log = ((Survey.untilFailure visit order).on cluster).events := by
  have herrands : (start visit cluster items).errands.Perm (order.map (errand visit cluster)) :=
    (h.map _).symm
  obtain ⟨s, hreach, hends, hlog⟩ := exists_ends_inTurn herrands
  refine ⟨s, hreach, ?_, hlog⟩
  cases hvalue : ((Survey.untilFailure visit order).on cluster).value with
  | error e =>
    rw [hvalue] at hends
    exact hends
  | ok values =>
    rw [hvalue] at hends
    exact hends

/-- What a sweep can come to is what the visits come to, one after the other, in some order. -/
theorem ends_iff :
    (∃ s, (start visit cluster items).Reaches visit cluster s ∧ s.Ends visit cluster result) ↔
      ∃ order, order.Perm items ∧
        ((Survey.untilFailure visit order).on cluster).value = result := by
  constructor
  · rintro ⟨s, hreach, hends⟩
    obtain ⟨order, hfollows⟩ := exists_follows_of_reaches hreach
    exact hfollows.exists_order_of_ends hends
  · rintro ⟨order, hperm, rfl⟩
    obtain ⟨s, hreach, hends, _⟩ := exists_ends_of_perm visit cluster hperm
    exact ⟨s, hreach, hends⟩

end Sweep

end ClusterSurvey
