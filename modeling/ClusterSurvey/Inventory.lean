import ClusterSurvey.Object.Json

/-! Everything that a survey lists: one slot of objects for each kind. -/
namespace ClusterSurvey

structure Inventory where
  slot : (kind : ObjectKind) → List (KubeObject kind)

namespace Inventory

instance : EmptyCollection Inventory := ⟨⟨fun _ => []⟩⟩
instance : Inhabited Inventory := ⟨∅⟩

/-- The inventory with a listing in the slot of its kind, in place of what was there. -/
def absorb (inventory : Inventory) (l : ObjectList) : Inventory :=
  ⟨fun kind => if h : l.kind = kind then h ▸ l.items else inventory.slot kind⟩

@[simp] theorem slot_absorb_self (inventory : Inventory) (l : ObjectList) :
    (inventory.absorb l).slot l.kind = l.items := by
  simp [absorb]

theorem slot_absorb_of_ne (inventory : Inventory) {l : ObjectList} {kind : ObjectKind}
    (h : l.kind ≠ kind) : (inventory.absorb l).slot kind = inventory.slot kind := by
  simp [absorb, h]

def count (inventory : Inventory) (kind : ObjectKind) : Nat := (inventory.slot kind).length

/-- The number of objects of every kind, in listing order. -/
def counts (inventory : Inventory) : List (ObjectKind × Nat) :=
  ObjectKind.all.map fun kind => (kind, inventory.count kind)

def nodes (inventory : Inventory) : List Node := inventory.slot .nodes

def redacted (inventory : Inventory) : Inventory :=
  ⟨fun kind => (inventory.slot kind).map KubeObject.redacted⟩

/-- One field for each kind, in listing order, with the objects as they are shown. -/
def jsonFields (inventory : Inventory) : List (String × Json) :=
  ObjectKind.all.map fun kind =>
    (kind.snapshotKey, .ofList KubeObject.toJson (inventory.redacted.slot kind))

def toJson (inventory : Inventory) : Json := .obj inventory.jsonFields

end Inventory

end ClusterSurvey
