import ClusterSurvey.Cluster.Basic
import ClusterSurvey.Inventory

/-! A cluster held in memory: its objects, the calls that fail, and what commands answer. -/
namespace ClusterSurvey

structure CommandRule where
  pod : Option String
  /-- A part of the commands that the rule is for. -/
  contains : Option String
  outcome : Except CallError ExecOutput

/-- The part of a command that runs on the host: what follows the first `--`, if there is one. -/
def hostCommand (command : List String) : String :=
  let rest := command.dropWhile (· ≠ "--")
  " ".intercalate (if rest.isEmpty then command else rest.drop 1)

def CommandRule.applies (rule : CommandRule) (pod : String) (command : List String) : Bool :=
  rule.pod.all (· = pod) &&
    rule.contains.all fun part => Text.contains part.toList (hostCommand command).toList

structure MemoryCluster where
  inventory : Inventory
  nodesFailure : Option CallError
  kindFailures : ObjectKind → Option CallError
  labelFailures : Dict CallError
  fieldFailures : Dict CallError
  podFailures : Dict CallError
  commands : List CommandRule

namespace MemoryCluster

def pods (m : MemoryCluster) : List Pod := m.inventory.slot .pods

def scripted (failures : Dict CallError) (selector : Option String) : Option CallError :=
  selector.bind failures.get?

def barring (failure : Option CallError) (answer : α) : Except CallError α :=
  match failure with
  | some e => .error e
  | none => .ok answer

def isIn (pod : Pod) (ns : Option String) : Bool := ns.isNone || pod.metadata.ns = ns

/-- The outcome of a command under the first rule that applies; without one it exits with 1. -/
def outcome (m : MemoryCluster) (pod : String) (command : List String) :
    Except CallError ExecOutput :=
  match m.commands.find? (·.applies pod command) with
  | some rule => rule.outcome
  | none => .error (.exitCode 1)

def answer (m : MemoryCluster) : Cluster
  | .listNodes => barring m.nodesFailure m.inventory.nodes
  | .listObjects kind => barring (m.kindFailures kind) (m.inventory.slot kind)
  | .listPods ns query =>
    barring ((scripted m.labelFailures query.labels).or (scripted m.fieldFailures query.fields))
      (m.pods.filter fun pod => isIn pod ns && pod.meets query)
  | .getPod ns name =>
    barring (m.podFailures.get? name)
      (m.pods.find? fun pod => pod.metadata.ns = some ns && pod.metadata.name = some name)
  | .exec _ pod command => m.outcome pod command

end MemoryCluster

end ClusterSurvey
