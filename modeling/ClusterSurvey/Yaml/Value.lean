import ClusterSurvey.Yaml.Node
import ClusterSurvey.Yaml.Plain

/-! The values of documents. An alias has the value of the node that it names, which has to stand
before it. -/
namespace ClusterSurvey.Yaml

abbrev Anchors := List (String × Nat)

/-- A name that is given again gets a new number, but counts once. -/
def Anchors.give (anchors : Anchors) (name : String) : Anchors :=
  (name, anchors.length) :: anchors.filter fun e => e.1 ≠ name

namespace Node

def numberAnchor (anchors : Anchors) : Option String → Option Nat × Anchors
  | none => (none, anchors)
  | some name => (some anchors.length, anchors.give name)

mutual

def number? (anchors : Anchors) : Node String → Option (Node Nat × Anchors)
  | .alias name => (List.lookup name anchors).map fun n => (.alias n, anchors)
  | .scalar anchor tag text isPlain =>
    let (n, anchors) := numberAnchor anchors anchor
    some (.scalar n tag text isPlain, anchors)
  | .seq anchor tag items =>
    let (n, anchors) := numberAnchor anchors anchor
    (numberItems? anchors items).map fun (items, anchors) => (.seq n tag items, anchors)
  | .map anchor tag entries =>
    let (n, anchors) := numberAnchor anchors anchor
    (numberEntries? anchors entries).map fun (entries, anchors) => (.map n tag entries, anchors)

def numberItems? (anchors : Anchors) : List (Node String) → Option (List (Node Nat) × Anchors)
  | [] => some ([], anchors)
  | item :: rest => do
    let (item, anchors) ← number? anchors item
    let (rest, anchors) ← numberItems? anchors rest
    return (item :: rest, anchors)

def numberEntries? (anchors : Anchors) :
    List (Node String × Node String) → Option (List (Node Nat × Node Nat) × Anchors)
  | [] => some ([], anchors)
  | (key, value) :: rest => do
    let (key, anchors) ← number? anchors key
    let (value, anchors) ← number? anchors value
    let (rest, anchors) ← numberEntries? anchors rest
    return ((key, value) :: rest, anchors)

end

mutual

/-- The nodes of a tree, each before those in it, in front of others. -/
def allOnto (later : List (Node α)) : Node α → List (Node α)
  | .seq anchor tag items => .seq anchor tag items :: allOfItemsOnto later items
  | .map anchor tag entries => .map anchor tag entries :: allOfEntriesOnto later entries
  | n => n :: later

def allOfItemsOnto (later : List (Node α)) : List (Node α) → List (Node α)
  | [] => later
  | item :: rest => allOnto (allOfItemsOnto later rest) item

def allOfEntriesOnto (later : List (Node α)) : List (Node α × Node α) → List (Node α)
  | [] => later
  | (key, value) :: rest => allOnto (allOnto (allOfEntriesOnto later rest) value) key

end

def all (n : Node α) : List (Node α) := allOnto [] n

def anchor? : Node α → Option α
  | .alias _ => none
  | .scalar anchor .. | .seq anchor .. | .map anchor .. => anchor

/-- A node counts once, and a collection once more for its end. -/
def weight : Node α → Nat
  | .seq .. | .map .. => 2
  | _ => 1

end Node

/-- Nodes by the numbers of their anchors, with how many aliases may still be followed. -/
structure Targets where
  nodes : List (Nat × Node Nat)
  follows : Nat

/-- How many times each node of a document may be met by way of aliases. -/
def followsPerNode : Nat := 100

/-- The targets in a document. Of nodes with one number the last counts. -/
def Targets.ofNode (n : Node Nat) : Targets where
  nodes := (n.all.filterMap fun m => m.anchor?.map fun a => (a, m)).reverse
  follows := followsPerNode * n.all.foldl (fun sum m => sum + m.weight) 0

/-- The node that another stands for. -/
def Targets.follow? (t : Targets) : Node Nat → Option (Node Nat × Targets)
  | .alias n =>
    match t.follows with
    | 0 => none
    | follows + 1 => (List.lookup n t.nodes).map fun m => (m, { t with follows })
  | n => some (n, t)

def localTag? (tag : String) : Option String :=
  match tag.toList with
  | ['!'] => some tag
  | '!' :: name => some (String.ofList name)
  | _ => none

/-- A value under its tag, if that is not a tag in full. -/
def labelled (tag : Option String) (v : Yaml) : Yaml :=
  match tag.bind localTag? with
  | some name => .tagged name v
  | none => v

def ofScalar? (tag : Option String) (text : String) (isPlain : Bool) : Option Yaml :=
  match tag with
  | some tag =>
    match localTag? tag with
    | some name => (if isPlain then ofPlain? text else some (.str text)).map (.tagged name)
    | none => ofTagged? tag text
  | none => if isPlain then ofPlain? text else some (.str text)

abbrev ValueReader := Targets → Node Nat → Option (Yaml × Targets)

def valuesOf? (read : ValueReader) (t : Targets) :
    List (Node Nat) → Option (List Yaml × Targets)
  | [] => some ([], t)
  | item :: rest => do
    let (value, t) ← read t item
    let (values, t) ← valuesOf? read t rest
    return (value :: values, t)

def entriesOf? (read : ValueReader) (t : Targets) :
    List (Node Nat × Node Nat) → Option (List (Yaml × Yaml) × Targets)
  | [] => some ([], t)
  | (key, value) :: rest => do
    let (key, t) ← read t key
    let (value, t) ← read t value
    let (entries, t) ← entriesOf? read t rest
    return ((key, value) :: entries, t)

/-- The value of a node with at most `depth` collections in each other, those behind aliases
included. No key may stand twice in a mapping. -/
def valueOf? : Nat → ValueReader
  | depth, t, node => do
    let (node, t) ← t.follow? node
    match depth, node with
    | _, .scalar _ tag text isPlain => return (← ofScalar? tag text isPlain, t)
    | depth + 1, .seq _ tag items =>
      let (values, t) ← valuesOf? (valueOf? depth) t items
      return (labelled tag (.seq values), t)
    | depth + 1, .map _ tag entries =>
      let (entries, t) ← entriesOf? (valueOf? depth) t entries
      guard (hasDistinctKeys entries)
      return (labelled tag (.map entries), t)
    | _, _ => none

def ofNode? (n : Node String) : Option Yaml := do
  let (n, _) ← n.number? []
  let (v, _) ← valueOf? Node.depthLimit (.ofNode n) n
  return v

/-- The values of all documents of a text. Where there is no document, there is no value in it. -/
def ofText? (text : String) : Option (List Yaml) := do
  match ← documents? text.toList with
  | [] => return [.null]
  | nodes => nodes.mapM ofNode?

end ClusterSurvey.Yaml
