import ClusterSurvey.Explorer.Registry
import ClusterSurvey.Survey.Collector

/-! The surveyor of a cluster: set up once, it surveys as often as it is asked to and keeps the
latest complete snapshot. A call that fails leaves it as it was. -/
namespace ClusterSurvey

/-- A snapshot that was published, with its number among those of its surveyor. -/
structure Edition where
  number : Nat
  snapshot : Snapshot

structure Surveyor where
  config : SurveyConfig
  registry : Registry
  collector : Option Collector
  tracked : List String
  latest : Option Edition

inductive SurveyorCall where
  | init
  | sync (now : Timestamp)
  deriving DecidableEq, Repr

namespace Surveyor

def new (config : SurveyConfig) (registry : Registry) : Surveyor :=
  ⟨config, registry, none, [], none⟩

def isInitialized (s : Surveyor) : Bool := s.collector.isSome

def snapshot? (s : Surveyor) : Option Snapshot := s.latest.map (·.snapshot)

def dispatcher (config : SurveyConfig) (registry : Registry) (nodes : List Node)
    (component : ComponentConfig) : Dispatcher where
  component := component.name
  candidates := registry.chain {
    component
    nodes := resolveNodes nodes component.source.nodes component.source.onMasters
    executor := config.bridge.executor? }

def prepare (config : SurveyConfig) (registry : Registry) (nodes : List Node) : Collector where
  executor := config.bridge.executor?
  dispatchers := config.components.map (dispatcher config registry nodes)
  concurrency := config.concurrency
  tolerateFailures := config.tolerateFailures

def setUp (s : Surveyor) (nodes : List Node) : Surveyor :=
  { s with
    tracked := s.config.components.map (·.name)
    collector := some (prepare s.config s.registry nodes) }

/-- The surveyor with a snapshot in place of the one it published before. -/
def publish (s : Surveyor) (snapshot : Snapshot) : Surveyor :=
  { s with latest := some ⟨s.latest.elim 0 fun e => e.number + 1, snapshot⟩ }

/-- Sets the surveyor up, or tells why that failed: the nodes that components are expected on are
those of now. -/
def init (s : Surveyor) : Survey (Surveyor × Option Abort) := do
  if s.isInitialized then return (s, some (.failed .alreadyInitialized))
  match s.config.validate with
  | .error e => return (s, some (.failed (.config e)))
  | .ok () =>
    match ← Survey.ask .listNodes with
    | .error e => return (s, some (.failed (.transport "failed to list nodes" e)))
    | .ok nodes =>
      match Gate.ofLimit? s.config.concurrency.toNat with
      | none => return (s, some (.overflow s.config.concurrency.toNat))
      | some _ => return (s.setUp nodes, none)

/-- Surveys the cluster and publishes the result, or tells why that failed. -/
def sync (s : Surveyor) (now : Timestamp) : Survey (Surveyor × Option Abort) := do
  match s.collector with
  | none => return (s, some (.failed .notInitialized))
  | some collector =>
    match ← collector.collect now with
    | .error abort => return (s, some abort)
    | .ok snapshot => return (s.publish snapshot, none)

def after (s : Surveyor) : SurveyorCall → Survey (Surveyor × Option Abort)
  | .init => s.init
  | .sync now => s.sync now

end Surveyor

end ClusterSurvey
