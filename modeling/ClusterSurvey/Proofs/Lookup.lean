import ClusterSurvey.Dict
import Mathlib.Data.List.Nodup

/-! Look-ups in maps that are built entry by entry. What a map holds under a key is the last value
put there; without repeated keys the order of the entries does not matter. -/
namespace ClusterSurvey.Dict

variable {α β γ : Type}

theorem contains_eq_true_iff {d : Dict α} {k : String} : d.contains k = true ↔ k ∈ d.keys :=
  mem_keys_iff.symm

theorem isEmpty_iff {d : Dict α} : d.isEmpty = true ↔ d = ∅ := by
  constructor
  · intro h
    apply ext_get?
    intro k
    unfold get?
    rw [List.isEmpty_iff.mp h]
    rfl
  · rintro rfl
    rfl

theorem nodup_keys (d : Dict α) : d.keys.Nodup := by
  unfold keys
  rw [List.nodup_iff_pairwise_ne, List.pairwise_map]
  refine d.sorted.imp ?_
  intro a b hlt heq
  rw [heq] at hlt
  exact String.lt_irrefl _ hlt

theorem length_keys (d : Dict α) : d.keys.length = d.size := List.length_map _

theorem get?_foldl_insert (key : γ → String) (value : γ → α) (l : List γ) (d : Dict α)
    (k : String) :
    (l.foldl (fun d x => d.insert (key x) (value x)) d).get? k =
      ((l.reverse.find? fun x => key x = k).map value).or (d.get? k) := by
  induction l generalizing d with
  | nil => rfl
  | cons x rest ih =>
    rw [List.foldl_cons, ih, get?_insert, List.reverse_cons, List.find?_append]
    cases List.find? (fun x => key x = k) rest.reverse with
    | some y => rfl
    | none => by_cases h : key x = k <;> simp [h]

/-- Where no key stands for two items, each item is found under its key. -/
theorem find?_reverse_eq_some_iff_of_injOn {key : γ → String} {l : List γ}
    (h : ∀ x ∈ l, ∀ y ∈ l, key x = key y → x = y) {k : String} {x : γ} :
    l.reverse.find? (fun x => key x = k) = some x ↔ x ∈ l ∧ key x = k := by
  constructor
  · intro hx
    exact ⟨List.mem_reverse.mp (List.mem_of_find?_eq_some hx), by simpa using List.find?_some hx⟩
  · rintro ⟨hx, rfl⟩
    rcases hf : l.reverse.find? (fun y => key y = key x) with _ | y
    · simpa using List.find?_eq_none.mp hf x (List.mem_reverse.mpr hx)
    · have hy : y ∈ l := List.mem_reverse.mp (List.mem_of_find?_eq_some hf)
      have hkey : key y = key x := by simpa using List.find?_some hf
      rw [h y hy x hx hkey]

theorem find?_reverse_eq_some_iff {key : γ → String} {l : List γ} (h : (l.map key).Nodup)
    {k : String} {x : γ} : l.reverse.find? (fun x => key x = k) = some x ↔ x ∈ l ∧ key x = k :=
  find?_reverse_eq_some_iff_of_injOn fun _ hx _ hy => List.inj_on_of_nodup_map h hx hy

theorem find?_reverse_eq_some_iff_append {p : γ → Bool} {l : List γ} {x : γ} :
    l.reverse.find? p = some x ↔
      p x = true ∧ ∃ front back, l = front ++ x :: back ∧ ∀ y ∈ back, p y = false := by
  rw [List.find?_eq_some_iff_append]
  refine and_congr_right fun _ => ?_
  constructor
  · rintro ⟨before, after, hsplit, hbefore⟩
    refine ⟨after.reverse, before.reverse, ?_, ?_⟩
    · rw [← List.reverse_reverse l, hsplit]
      simp
    · intro y hy
      simpa using hbefore y (List.mem_reverse.mp hy)
  · rintro ⟨front, back, rfl, hback⟩
    refine ⟨back.reverse, front.reverse, by simp, ?_⟩
    intro y hy
    simpa using hback y (List.mem_reverse.mp hy)

theorem get?_ofList (l : List (String × α)) (k : String) :
    (ofList l).get? k = (l.reverse.find? fun e => e.1 = k).map (·.2) := by
  unfold ofList
  rw [get?_foldl_insert]
  simp

theorem mem_keys_ofList_iff {l : List (String × α)} {k : String} :
    k ∈ (ofList l).keys ↔ ∃ v, (k, v) ∈ l := by
  rw [mem_keys_iff, get?_ofList, Option.isSome_map, List.find?_isSome]
  simp

theorem get?_ofList_append (l m : List (String × α)) (k : String) :
    (ofList (l ++ m)).get? k = ((ofList m).get? k).or ((ofList l).get? k) := by
  rw [get?_ofList, get?_ofList, get?_ofList, List.reverse_append, List.find?_append, Option.map_or]

theorem get?_ofList_eq_some_iff_last {l : List (String × α)} {k : String} {v : α} :
    (ofList l).get? k = some v ↔
      ∃ front back, l = front ++ (k, v) :: back ∧ ∀ e ∈ back, e.1 ≠ k := by
  rw [get?_ofList, Option.map_eq_some_iff]
  simp only [find?_reverse_eq_some_iff_append, decide_eq_true_eq, decide_eq_false_iff_not]
  constructor
  · rintro ⟨e, ⟨rfl, hsplit⟩, rfl⟩
    exact hsplit
  · intro hsplit
    exact ⟨(k, v), ⟨rfl, hsplit⟩, rfl⟩

theorem get?_ofList_eq_some_iff_of_injOn {l : List (String × α)}
    (h : ∀ x ∈ l, ∀ y ∈ l, x.1 = y.1 → x = y) {k : String} {v : α} :
    (ofList l).get? k = some v ↔ (k, v) ∈ l := by
  rw [get?_ofList, Option.map_eq_some_iff]
  simp only [find?_reverse_eq_some_iff_of_injOn h]
  constructor
  · rintro ⟨e, ⟨he, rfl⟩, rfl⟩
    exact he
  · intro he
    exact ⟨(k, v), ⟨he, rfl⟩, rfl⟩

theorem get?_ofList_eq_some_iff {l : List (String × α)} (h : (l.map (·.1)).Nodup) {k : String}
    {v : α} : (ofList l).get? k = some v ↔ (k, v) ∈ l :=
  get?_ofList_eq_some_iff_of_injOn fun _ hx _ hy => List.inj_on_of_nodup_map h hx hy

theorem ofList_eq_of_perm {l : List (String × α)} {d : Dict α} (h : l.Perm d.entries) :
    ofList l = d := by
  have hnodup : (l.map Prod.fst).Nodup := (h.map Prod.fst).nodup_iff.mpr (nodup_keys d)
  apply ext_get?
  intro k
  apply Option.ext
  intro v
  rw [get?_ofList_eq_some_iff hnodup, get?_eq_some_iff, h.mem_iff]

theorem ofList_entries (d : Dict α) : ofList d.entries = d :=
  ofList_eq_of_perm (List.Perm.refl _)

theorem entries_ofList {l : List (String × α)} (h : l.Pairwise fun a b => a.1 < b.1) :
    (ofList l).entries = l :=
  congrArg entries (ofList_entries ⟨l, h⟩)

@[simp] theorem get?_mapValues (f : String → α → β) (d : Dict α) (k : String) :
    (d.mapValues f).get? k = (d.get? k).map (f k) := by
  unfold mapValues get?
  rw [List.find?_map, Option.map_map, Option.map_map]
  rcases hf : d.entries.find? (fun e => e.1 = k) with _ | e
  · simp [Function.comp_def, hf]
  · have hk : e.1 = k := by simpa using List.find?_some hf
    simp [Function.comp_def, hf, hk]

@[simp] theorem keys_mapValues (f : String → α → β) (d : Dict α) :
    (d.mapValues f).keys = d.keys := by
  unfold mapValues keys
  rw [List.map_map]
  rfl

end ClusterSurvey.Dict
