import ClusterSurvey.Snapshot.Basic

/-! The short view of a snapshot: how many objects there are, on which nodes each component
runs, and which components are absent or could not be looked for. -/
namespace ClusterSurvey

def cloudType : String := "kubernetes"

structure Summary where
  cloudType : String
  syncedAt : Option String
  objects : Dict Nat
  components : Dict (List String)
  absentComponents : List String
  componentErrors : Dict String
  machines : Nat
  deriving DecidableEq

namespace Summary

def ofSnapshot (s : Snapshot) : Summary where
  cloudType := ClusterSurvey.cloudType
  syncedAt := s.syncedAt.map (·.offsetText)
  objects := .ofList (s.inventory.counts.map fun c => (c.1.name, c.2))
  components := s.components.mapValues fun name _ => (s.runningComponents name).map (·.node)
  absentComponents := s.components.keys.filter s.isComponentAbsent
  componentErrors := s.componentErrors
  machines := s.machines.size

def toJson (s : Summary) : Json :=
  .obj [("cloud_type", .str s.cloudType), ("synced_at", .ofOption .str s.syncedAt),
    ("objects", .ofDict .ofNat s.objects), ("components", .ofDict .ofStrings s.components),
    ("absent_components", .ofStrings s.absentComponents),
    ("component_errors", .ofDict .str s.componentErrors), ("machines", .ofNat s.machines)]

end Summary

end ClusterSurvey
