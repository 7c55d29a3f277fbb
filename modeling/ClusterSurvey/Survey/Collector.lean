import ClusterSurvey.Explorer.Dispatch

/-! A survey in three stages, each of which builds on the one before: the objects, the
components, the machines. A stage that fails ends the survey. -/
namespace ClusterSurvey

structure ComponentStage where
  inventory : Inventory
  components : Dict (List Component)
  componentErrors : Dict String

def tunablesCommand : List String := ["sysctl", "-a"]

structure Collector where
  executor : Option NodeExecutor
  dispatchers : List Dispatcher
  concurrency : UInt64
  tolerateFailures : Bool

namespace Collector

def listKind (kind : ObjectKind) : Survey (Except SurveyError ObjectList) := do
  match ← Survey.ask (.listObjects kind) with
  | .ok items => return .ok ⟨kind, items⟩
  | .error e => return .error (.transport ("failed to fetch " ++ kind.name) e)

def fetchKinds (kinds : List ObjectKind) : Survey (Except SurveyError Inventory) := do
  return (← Survey.untilFailure listKind kinds).map fun lists => lists.foldl .absorb ∅

def fetchInventory : Survey (Except SurveyError Inventory) := fetchKinds ObjectKind.all

def dispatchAll (dispatchers : List Dispatcher) :
    Survey (List (String × Except SurveyError (List Component))) :=
  Survey.forEach (fun d => do return (d.component, ← d.find)) dispatchers

def failuresAmong (results : List (String × Except SurveyError (List Component))) :
    List (String × SurveyError) :=
  (results.filterMap fun r =>
    match r.2 with
    | .ok _ => none
    | .error e => some (r.1, e)).mergeSort fun a b => a.1 ≤ b.1

def successesAmong (results : List (String × Except SurveyError (List Component))) :
    Dict (List Component) :=
  Dict.ofList (results.filterMap fun r =>
    match r.2 with
    | .ok found => some (r.1, found)
    | .error _ => none)

/-- The stage that some results make: failures end it, or they are recorded, and the component
counts as looked for. -/
def mergeResults (tolerate : Bool) (inventory : Inventory)
    (results : List (String × Except SurveyError (List Component))) :
    Except SurveyError ComponentStage :=
  let failures := failuresAmong results
  if !failures.isEmpty && !tolerate then .error (.components failures)
  else
    .ok {
      inventory
      components := failures.foldl (fun d f => d.insert f.1 []) (successesAmong results)
      componentErrors := .ofList (failures.map fun f => (f.1, f.2.message)) }

/-- Consults every dispatcher, also after one has failed. -/
def fetchComponents (c : Collector) (inventory : Inventory) :
    Survey (Except SurveyError ComponentStage) := do
  return mergeResults c.tolerateFailures inventory (← dispatchAll c.dispatchers)

def fetchMachine (executor : NodeExecutor) (node : String) :
    Survey (Except SurveyError (String × Machine)) := do
  match ← executor node tunablesCommand with
  | .ok output => return .ok (node, ⟨readTunables output.stdout⟩)
  | .error e => return .error (.machine node e)

def probeNodes (executor : NodeExecutor) (nodes : List String) :
    Survey (Except SurveyError (Dict Machine)) := do
  return (← Survey.untilFailure (fun n => .gated .machines n (fetchMachine executor n)) nodes).map
    Dict.ofList

/-- The machines of the nodes in the inventory, or none if no way leads to the nodes. -/
def fetchMachines (c : Collector) (stage : ComponentStage) : Survey (Except Abort Snapshot) := do
  let complete (machines : Dict Machine) : Snapshot :=
    { syncedAt := none
      inventory := stage.inventory
      components := stage.components
      componentErrors := stage.componentErrors
      machines }
  match c.executor with
  | none => return .ok (complete ∅)
  | some executor =>
    match Gate.ofLimit? c.concurrency.toNat with
    | none => return .error (.overflow c.concurrency.toNat)
    | some _ =>
      return ((← probeNodes executor (Node.names stage.inventory.nodes)).map complete).mapError
        .failed

def collect (c : Collector) (now : Timestamp) : Survey (Except Abort Snapshot) := do
  match ← fetchInventory with
  | .error e => return .error (.failed e)
  | .ok inventory =>
    match ← c.fetchComponents inventory with
    | .error e => return .error (.failed e)
    | .ok stage =>
      return (← c.fetchMachines stage).map fun s => { s with syncedAt := some now }

end Collector

end ClusterSurvey
