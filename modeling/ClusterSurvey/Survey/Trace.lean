import ClusterSurvey.Cluster.Basic
import ClusterSurvey.Survey.Gate

/-! Surveys as computations on a cluster that leave a trace: every call that is made, every
explorer that is consulted and every passage through a gate is an event. The trace of two
surveys in a row is one trace after the other (`Survey.events_bind`). -/
namespace ClusterSurvey

inductive Stage where
  | inventory
  | components
  | machines
  deriving DecidableEq, Repr

inductive Event where
  | asked (call : Call)
  | consulted (component strategy : String)
  | passed (stage : Stage) (step : GateStep)
  | marked (number : Nat)
  deriving DecidableEq, Repr

structure Observed (α : Type) where
  value : α
  events : List Event

@[ext] theorem Observed.ext {α : Type} {x y : Observed α} (hvalue : x.value = y.value)
    (hevents : x.events = y.events) : x = y := by
  cases x
  cases y
  cases hvalue
  cases hevents
  rfl

/-- A computation that may call a cluster. -/
def Survey (α : Type) : Type := Cluster → Observed α

namespace Survey

variable {α β ε : Type}

def on (survey : Survey α) (cluster : Cluster) : Observed α := survey cluster

instance : Monad Survey where
  pure a := fun _ => ⟨a, []⟩
  bind survey next := fun cluster =>
    ⟨((next (survey cluster).value) cluster).value,
      (survey cluster).events ++ ((next (survey cluster).value) cluster).events⟩

@[simp] theorem value_pure (a : α) (cluster : Cluster) :
    ((pure a : Survey α).on cluster).value = a := rfl

@[simp] theorem events_pure (a : α) (cluster : Cluster) :
    ((pure a : Survey α).on cluster).events = [] := rfl

@[simp] theorem value_bind (survey : Survey α) (next : α → Survey β) (cluster : Cluster) :
    ((survey >>= next).on cluster).value =
      ((next (survey.on cluster).value).on cluster).value := rfl

@[simp] theorem events_bind (survey : Survey α) (next : α → Survey β) (cluster : Cluster) :
    ((survey >>= next).on cluster).events =
      (survey.on cluster).events ++ ((next (survey.on cluster).value).on cluster).events := rfl

def note (event : Event) : Survey Unit := fun _ => ⟨(), [event]⟩

@[simp] theorem events_note (event : Event) (cluster : Cluster) :
    ((note event).on cluster).events = [event] := rfl

def ask (call : Call) : Survey (Except CallError call.Answer) := fun cluster =>
  ⟨cluster call, [.asked call]⟩

@[simp] theorem value_ask (call : Call) (cluster : Cluster) :
    ((ask call).on cluster).value = cluster call := rfl

@[simp] theorem events_ask (call : Call) (cluster : Cluster) :
    ((ask call).on cluster).events = [.asked call] := rfl

/-- Runs a survey behind the gate of a stage. -/
def gated (stage : Stage) (visitor : String) (survey : Survey α) : Survey α := do
  note (.passed stage (.enter visitor))
  let a ← survey
  note (.passed stage (.drop visitor))
  return a

@[simp] theorem value_gated (stage : Stage) (visitor : String) (survey : Survey α)
    (cluster : Cluster) :
    ((gated stage visitor survey).on cluster).value = (survey.on cluster).value := rfl

@[simp] theorem events_gated (stage : Stage) (visitor : String) (survey : Survey α)
    (cluster : Cluster) :
    ((gated stage visitor survey).on cluster).events =
      .passed stage (.enter visitor) :: (survey.on cluster).events ++
        [.passed stage (.drop visitor)] := by
  simp [gated]

def forEach (visit : α → Survey β) : List α → Survey (List β)
  | [] => pure []
  | a :: rest => do
    let b ← visit a
    let bs ← forEach visit rest
    return b :: bs

@[simp] theorem value_forEach (visit : α → Survey β) (items : List α) (cluster : Cluster) :
    ((forEach visit items).on cluster).value = items.map fun a => ((visit a).on cluster).value := by
  induction items with
  | nil => rfl
  | cons a rest ih => simp [forEach, ih]

@[simp] theorem events_forEach (visit : α → Survey β) (items : List α) (cluster : Cluster) :
    ((forEach visit items).on cluster).events =
      items.flatMap fun a => ((visit a).on cluster).events := by
  induction items with
  | nil => rfl
  | cons a rest ih => simp [forEach, ih]

def untilFailure (visit : α → Survey (Except ε β)) : List α → Survey (Except ε (List β))
  | [] => pure (.ok [])
  | a :: rest => do
    match ← visit a with
    | .error e => return .error e
    | .ok b => return (← untilFailure visit rest).map (b :: ·)

end Survey

/-- All results if none is a failure, else the first failure. -/
def firstFailure {α ε : Type} : List (Except ε α) → Except ε (List α)
  | [] => .ok []
  | .error e :: _ => .error e
  | .ok a :: rest => (firstFailure rest).map (a :: ·)

@[simp] theorem Survey.value_untilFailure {α β ε : Type} (visit : α → Survey (Except ε β))
    (items : List α) (cluster : Cluster) :
    ((untilFailure visit items).on cluster).value =
      firstFailure (items.map fun a => ((visit a).on cluster).value) := by
  induction items with
  | nil => rfl
  | cons a rest ih =>
    rw [untilFailure, value_bind, List.map_cons]
    cases h : ((visit a).on cluster).value with
    | error e => rfl
    | ok b => simp [firstFailure, ih]

end ClusterSurvey
