import ClusterSurvey.Inventory
import ClusterSurvey.Timestamp

/-! The result of one survey: what was listed, which components run where, and how every node
is tuned. -/
namespace ClusterSurvey

structure Component where
  name : String
  node : String
  args : Dict String
  isRunning : Bool
  deriving DecidableEq

namespace Component

def running (name node : String) (args : Dict String) : Component := ⟨name, node, args, true⟩

def absent (name node : String) : Component := ⟨name, node, ∅, false⟩

def arg? (c : Component) (key : String) : Option String := c.args.get? key

def toJson (c : Component) : Json :=
  .obj [("name", .str c.name), ("node", .str c.node), ("args", .ofDict .str c.args),
    ("is_running", .bool c.isRunning)]

end Component

structure Machine where
  tunables : Dict String
  deriving DecidableEq

namespace Machine

def get? (m : Machine) (key : String) : Option String := m.tunables.get? key

def toJson (m : Machine) : Json := .obj [("sysctl", .ofDict .str m.tunables)]

end Machine

/-- The result of one survey. A component that was not found has the empty list; one that is not
tracked has no entry. -/
structure Snapshot where
  syncedAt : Option Timestamp
  inventory : Inventory
  components : Dict (List Component)
  componentErrors : Dict String
  machines : Dict Machine

namespace Snapshot

def component? (s : Snapshot) (name : String) : Option (List Component) := s.components.get? name

def isTracked (s : Snapshot) (name : String) : Bool := s.components.contains name

/-- Whether a component was looked for without an error and runs nowhere. -/
def isComponentAbsent (s : Snapshot) (name : String) : Bool :=
  match s.components.get? name with
  | some found => !s.componentErrors.contains name && !found.any (·.isRunning)
  | none => false

def runningComponents (s : Snapshot) (name : String) : List Component :=
  ((s.components.get? name).getD []).filter (·.isRunning)

def machine? (s : Snapshot) (node : String) : Option Machine := s.machines.get? node

def nodeNames (s : Snapshot) : List String := Node.names s.inventory.nodes

/-- The whole snapshot; a secret is shown without its payload. -/
def toJson (s : Snapshot) : Json :=
  .obj ([("synced_at", .ofOption (fun t => .str t.zuluText) s.syncedAt)] ++
    s.inventory.jsonFields ++
    [("core_components", .ofDict (.ofList Component.toJson) s.components),
      ("component_errors", .ofDict .str s.componentErrors),
      ("machines", .ofDict Machine.toJson s.machines)])

end Snapshot

end ClusterSurvey
