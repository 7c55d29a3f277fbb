import ClusterSurvey.Inventory
import ClusterSurvey.Proofs.Lookup

/-! Listings that are taken into an inventory one after the other. A listing takes the place of what
was there of its kind and leaves all other kinds alone, so that of a whole history only the last
listing of each kind counts (`Inventory.keeps_last`). -/
namespace ClusterSurvey

def ObjectList.last? (kind : ObjectKind) (lists : List ObjectList) : Option ObjectList :=
  lists.reverse.find? fun l => l.kind = kind

namespace Inventory

variable {lists others : List ObjectList} {l : ObjectList} {kind : ObjectKind}

def ofLists (lists : List ObjectList) : Inventory := lists.foldl absorb ∅

theorem ofLists_concat (lists : List ObjectList) (l : ObjectList) :
    ofLists (lists ++ [l]) = (ofLists lists).absorb l := by
  simp [ofLists]

theorem eq_of_slot_eq {inventory other : Inventory}
    (h : ∀ kind, inventory.slot kind = other.slot kind) : inventory = other := by
  cases inventory
  cases other
  exact congrArg mk (funext h)

theorem slot_foldl_absorb_of_notMem (h : kind ∉ lists.map (·.kind)) (inventory : Inventory) :
    (lists.foldl absorb inventory).slot kind = inventory.slot kind := by
  induction lists generalizing inventory with
  | nil => rfl
  | cons l rest ih =>
    rw [List.map_cons, List.mem_cons, not_or] at h
    rw [List.foldl_cons, ih h.2, slot_absorb_of_ne inventory (Ne.symm h.1)]

theorem slot_foldl_absorb_append_cons (front : List ObjectList) {back : List ObjectList}
    (h : l.kind ∉ back.map (·.kind)) (inventory : Inventory) :
    ((front ++ l :: back).foldl absorb inventory).slot l.kind = l.items := by
  rw [List.foldl_append, List.foldl_cons, slot_foldl_absorb_of_notMem h, slot_absorb_self]

theorem slot_foldl_absorb_of_mem (hn : (lists.map (·.kind)).Nodup) (hl : l ∈ lists)
    (inventory : Inventory) : (lists.foldl absorb inventory).slot l.kind = l.items := by
  obtain ⟨front, back, rfl⟩ := List.append_of_mem hl
  rw [List.map_append, List.map_cons] at hn
  have hlast : l.kind ∉ back.map (·.kind) := (List.nodup_cons.mp hn.of_append_right).1
  exact slot_foldl_absorb_append_cons front hlast inventory

theorem slot_ofLists_of_last? (h : ObjectList.last? kind lists = some l) :
    (ofLists lists).slot l.kind = l.items ∧ l.kind = kind := by
  obtain ⟨hkind, front, back, rfl, hback⟩ := Dict.find?_reverse_eq_some_iff_append.mp h
  have heq : l.kind = kind := of_decide_eq_true hkind
  refine ⟨slot_foldl_absorb_append_cons front ?_ ∅, heq⟩
  intro hmem
  obtain ⟨later, hlater, hsame⟩ := List.mem_map.mp hmem
  have hne := of_decide_eq_false (hback later hlater)
  exact hne (hsame.trans heq)

theorem slot_ofLists_of_last?_eq_none (h : ObjectList.last? kind lists = none) :
    (ofLists lists).slot kind = [] := by
  apply slot_foldl_absorb_of_notMem
  intro hmem
  obtain ⟨l, hl, hkind⟩ := List.mem_map.mp hmem
  simpa [hkind] using List.find?_eq_none.mp h l (List.mem_reverse.mpr hl)

theorem ofLists_eq_of_last?_eq
    (h : ∀ kind, ObjectList.last? kind lists = ObjectList.last? kind others) :
    ofLists lists = ofLists others := by
  apply eq_of_slot_eq
  intro kind
  cases hlast : ObjectList.last? kind lists with
  | none =>
    rw [slot_ofLists_of_last?_eq_none hlast, slot_ofLists_of_last?_eq_none ((h kind).symm.trans hlast)]
  | some l =>
    obtain ⟨hslot, rfl⟩ := slot_ofLists_of_last? hlast
    rw [hslot, (slot_ofLists_of_last? ((h _).symm.trans hlast)).1]

theorem map_fst_counts (inventory : Inventory) : inventory.counts.map (·.1) = ObjectKind.all := by
  unfold counts
  rw [List.map_map]
  exact List.map_id _

theorem filter_counts (inventory : Inventory) (kind : ObjectKind) :
    inventory.counts.filter (fun c => c.1 = kind) = [(kind, inventory.count kind)] := by
  have hone : ObjectKind.all.filter (fun k => k = kind) = [kind] := by
    rw [List.filter_eq, List.count_eq_one_of_mem ObjectKind.nodup_all (ObjectKind.mem_all kind)]
    rfl
  unfold counts
  rw [List.filter_map]
  exact congrArg (List.map fun kind => (kind, inventory.count kind)) hone

structure KeepsLast (lists : List ObjectList) : Prop where
  slot_of_last : ∀ front l back, lists = front ++ l :: back →
    (∀ later ∈ back, later.kind ≠ l.kind) →
      (ofLists lists).slot l.kind = l.items ∧ (ofLists lists).count l.kind = l.length
  slot_of_none : ∀ kind, (∀ l ∈ lists, l.kind ≠ kind) →
    (ofLists lists).slot kind = [] ∧ (ofLists lists).count kind = 0
  map_fst_counts : (ofLists lists).counts.map (·.1) = ObjectKind.all
  filter_counts : ∀ kind,
    (ofLists lists).counts.filter (fun c => c.1 = kind) = [(kind, (ofLists lists).count kind)]
  slot_concat_of_ne : ∀ l kind, l.kind ≠ kind →
    (ofLists (lists ++ [l])).slot kind = (ofLists lists).slot kind
  eq_of_last?_eq : ∀ others,
    (∀ kind, ObjectList.last? kind lists = ObjectList.last? kind others) →
      ofLists lists = ofLists others

/-- The slot of each kind holds the last listing of that kind, whatever else was taken in before,
between and after. -/
theorem keeps_last (lists : List ObjectList) : KeepsLast lists where
  slot_of_last := by
    rintro front l back rfl hback
    have hslot : (ofLists (front ++ l :: back)).slot l.kind = l.items := by
      apply slot_foldl_absorb_append_cons
      simpa using hback
    exact ⟨hslot, congrArg List.length hslot⟩
  slot_of_none := by
    intro kind hnone
    have hslot : (ofLists lists).slot kind = [] := by
      apply slot_foldl_absorb_of_notMem
      simpa using hnone
    exact ⟨hslot, congrArg List.length hslot⟩
  map_fst_counts := Inventory.map_fst_counts _
  filter_counts := Inventory.filter_counts _
  slot_concat_of_ne := by
    intro l kind hne
    rw [ofLists_concat, slot_absorb_of_ne _ hne]
  eq_of_last?_eq := fun _ => ofLists_eq_of_last?_eq

example (front back : List Node) :
    ((ofLists [⟨.nodes, front⟩, ⟨.nodes, back⟩]).slot .nodes,
      (ofLists [⟨.nodes, front⟩, ⟨.nodes, back⟩]).count .pods) = (back, 0) := rfl

end Inventory

end ClusterSurvey
