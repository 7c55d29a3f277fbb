/-! Finite maps from names to values. A map is the list of its entries in strictly
ascending key order, so two maps with the same look-ups are the same map
(`Dict.ext_get?`) and every listing of a map comes out in key order. -/
namespace ClusterSurvey

/-- A finite map keyed by text, ordered by code point. -/
structure Dict (α : Type) where
  entries : List (String × α)
  sorted : entries.Pairwise (fun a b => a.1 < b.1)
  deriving DecidableEq

namespace Dict

variable {α β : Type}

/-- Entries with `k` bound to `v`; an earlier binding of `k` is replaced in place. -/
def insertEntry (k : String) (v : α) : List (String × α) → List (String × α)
  | [] => [(k, v)]
  | e :: rest =>
    if k < e.1 then (k, v) :: e :: rest
    else if k = e.1 then (k, v) :: rest
    else e :: insertEntry k v rest

theorem mem_insertEntry {k : String} {v : α} {x : String × α} {l : List (String × α)} :
    x ∈ insertEntry k v l → x = (k, v) ∨ x ∈ l := by
  induction l with
  | nil => simp [insertEntry]
  | cons e rest ih =>
    rw [insertEntry]
    split
    · simp
    · split
      · simp only [List.mem_cons]
        rintro (h | h)
        · exact .inl h
        · exact .inr (.inr h)
      · simp only [List.mem_cons]
        rintro (h | h)
        · exact .inr (.inl h)
        · exact (ih h).imp id .inr

theorem lt_of_not_lt_of_ne {a b : String} (h : ¬ a < b) (hne : a ≠ b) : b < a :=
  String.not_le.mp fun hab => h (String.not_le.mp fun hba => hne (String.le_antisymm hab hba))

theorem sorted_insertEntry (k : String) (v : α) {l : List (String × α)}
    (h : l.Pairwise (fun a b => a.1 < b.1)) :
    (insertEntry k v l).Pairwise (fun a b => a.1 < b.1) := by
  induction l with
  | nil => simp [insertEntry]
  | cons e rest ih =>
    obtain ⟨hhead, hrest⟩ := List.pairwise_cons.mp h
    rw [insertEntry]
    split
    · rename_i hlt
      refine List.pairwise_cons.mpr ⟨fun x hx => ?_, h⟩
      rcases List.mem_cons.mp hx with rfl | hx
      · exact hlt
      · exact String.lt_trans hlt (hhead x hx)
    · rename_i hge
      split
      · rename_i heq
        exact List.pairwise_cons.mpr ⟨fun x hx => by simpa [heq] using hhead x hx, hrest⟩
      · rename_i hne
        refine List.pairwise_cons.mpr ⟨fun x hx => ?_, ih hrest⟩
        rcases mem_insertEntry hx with rfl | hx
        · exact lt_of_not_lt_of_ne hge hne
        · exact hhead x hx

instance : EmptyCollection (Dict α) := ⟨⟨[], .nil⟩⟩
instance : Inhabited (Dict α) := ⟨∅⟩

def insert (d : Dict α) (k : String) (v : α) : Dict α :=
  ⟨insertEntry k v d.entries, sorted_insertEntry k v d.sorted⟩

def get? (d : Dict α) (k : String) : Option α :=
  (d.entries.find? (fun e => e.1 = k)).map (·.2)

def contains (d : Dict α) (k : String) : Bool := (d.get? k).isSome

def keys (d : Dict α) : List String := d.entries.map (·.1)

def size (d : Dict α) : Nat := d.entries.length

def isEmpty (d : Dict α) : Bool := d.entries.isEmpty

/-- Entries taken in order; of two with one key the later wins. -/
def ofList (l : List (String × α)) : Dict α := l.foldl (fun d e => d.insert e.1 e.2) ∅

def mapValues (f : String → α → β) (d : Dict α) : Dict β :=
  ⟨d.entries.map fun e => (e.1, f e.1 e.2), List.pairwise_map.mpr d.sorted⟩

@[simp] theorem entries_empty : (∅ : Dict α).entries = [] := rfl

@[simp] theorem get?_empty (k : String) : (∅ : Dict α).get? k = none := rfl

theorem find?_insertEntry (k : String) (v : α) (q : String) (l : List (String × α)) :
    ((insertEntry k v l).find? (fun e => e.1 = q)).map (·.2) =
      if k = q then some v else (l.find? (fun e => e.1 = q)).map (·.2) := by
  induction l with
  | nil => by_cases h : k = q <;> simp [insertEntry, h]
  | cons e rest ih =>
    rw [insertEntry]
    split
    · by_cases h : k = q <;> simp [List.find?_cons, h]
    · split
      · rename_i heq
        by_cases h : k = q <;> simp [← heq, h]
      · rename_i hne
        by_cases h : e.1 = q
        · have hk : k ≠ q := fun hk => hne (hk.trans h.symm)
          simp [h, hk]
        · simp [h, ih]

@[simp] theorem get?_insert (d : Dict α) (k q : String) (v : α) :
    (d.insert k v).get? q = if k = q then some v else d.get? q :=
  find?_insertEntry k v q d.entries

theorem entry_unique {l : List (String × α)} (h : l.Pairwise (fun a b => a.1 < b.1))
    {x y : String × α} (hx : x ∈ l) (hy : y ∈ l) (hk : x.1 = y.1) : x = y := by
  induction l with
  | nil => cases hx
  | cons e rest ih =>
    obtain ⟨hhead, hrest⟩ := List.pairwise_cons.mp h
    rcases List.mem_cons.mp hx with hxe | hx <;> rcases List.mem_cons.mp hy with hye | hy
    · exact hxe.trans hye.symm
    · exact absurd (hhead y hy) (hk ▸ hxe ▸ String.lt_irrefl _)
    · exact absurd (hhead x hx) (hk ▸ hye ▸ String.lt_irrefl _)
    · exact ih hrest hx hy

theorem get?_eq_some_iff {d : Dict α} {k : String} {v : α} :
    d.get? k = some v ↔ (k, v) ∈ d.entries := by
  constructor
  · intro h
    obtain ⟨e, he, rfl⟩ := Option.map_eq_some_iff.mp h
    have hk : e.1 = k := by simpa using List.find?_some he
    exact hk ▸ List.mem_of_find?_eq_some he
  · intro h
    rcases hf : d.entries.find? (fun e => e.1 = k) with _ | e
    · simpa using List.find?_eq_none.mp hf (k, v) h
    · have hk : e.1 = k := by simpa using List.find?_some hf
      have := entry_unique d.sorted (List.mem_of_find?_eq_some hf) h hk
      simp [get?, hf, this]

theorem eq_of_mem_iff {l m : List (String × α)} (hl : l.Pairwise (fun a b => a.1 < b.1))
    (hm : m.Pairwise (fun a b => a.1 < b.1)) (h : ∀ x, x ∈ l ↔ x ∈ m) : l = m := by
  induction l generalizing m with
  | nil =>
    cases m with
    | nil => rfl
    | cons e _ => exact absurd ((h e).mpr List.mem_cons_self) (by simp)
  | cons e l ih =>
    cases m with
    | nil => exact absurd ((h e).mp List.mem_cons_self) (by simp)
    | cons e' m =>
      obtain ⟨hle, hl'⟩ := List.pairwise_cons.mp hl
      obtain ⟨hme, hm'⟩ := List.pairwise_cons.mp hm
      have heq : e = e' := by
        rcases List.mem_cons.mp ((h e).mp List.mem_cons_self) with he | he
        · exact he
        · rcases List.mem_cons.mp ((h e').mpr List.mem_cons_self) with he' | he'
          · exact he'.symm
          · exact absurd (String.lt_trans (hme e he) (hle e' he')) (String.lt_irrefl _)
      subst heq
      refine congrArg _ (ih hl' hm' fun x => ⟨fun hx => ?_, fun hx => ?_⟩)
      · rcases List.mem_cons.mp ((h x).mp (List.mem_cons_of_mem _ hx)) with rfl | hx'
        · exact absurd (hle x hx) (String.lt_irrefl _)
        · exact hx'
      · rcases List.mem_cons.mp ((h x).mpr (List.mem_cons_of_mem _ hx)) with rfl | hx'
        · exact absurd (hme x hx) (String.lt_irrefl _)
        · exact hx'

theorem ext_get? {d e : Dict α} (h : ∀ k, d.get? k = e.get? k) : d = e := by
  cases d with | mk l hl =>
  cases e with | mk m hm =>
  have : l = m := eq_of_mem_iff hl hm fun x => by
    rw [← get?_eq_some_iff (d := ⟨l, hl⟩), ← get?_eq_some_iff (d := ⟨m, hm⟩), h]
  subst this
  rfl

theorem mem_keys_iff {d : Dict α} {k : String} : k ∈ d.keys ↔ (d.get? k).isSome := by
  rw [Option.isSome_iff_exists]
  simp [keys, get?_eq_some_iff]

end Dict

end ClusterSurvey
