import ClusterSurvey.Yaml.Layout

/-! Documents as trees of nodes. A node may have an anchor, by which aliases name it, and a tag. -/
namespace ClusterSurvey.Yaml

inductive Node (α : Type) where
  | alias (name : α)
  | scalar (anchor : Option α) (tag : Option String) (text : String) (isPlain : Bool)
  | seq (anchor : Option α) (tag : Option String) (items : List (Node α))
  | map (anchor : Option α) (tag : Option String) (entries : List (Node α × Node α))
  deriving Inhabited, Repr

abbrev Handles := List (String × String)

namespace Handles

def standard : Handles := [("!", "!"), ("!!", "tag:yaml.org,2002:")]

def tag? (handles : Handles) (written : WrittenTag) : Option String :=
  if written.handle.isEmpty then some written.suffix
  else (List.lookup written.handle (handles ++ standard)).map (· ++ written.suffix)

end Handles

namespace Node

/-- A node that is not written. -/
def absent : Node α := .scalar none none "" true

inductive Place where
  | block
  /-- Anything, and a sequence without an indent of its own as well. -/
  | entry
  | flow
  deriving DecidableEq, Repr

abbrev Reader := Place → List Token → Option (Node String × List Token)

/-- A node, unless one of some tokens shows that there is none. -/
def readUnless (read : Reader) (place : Place) (ends : List Token) (ts : List Token) :
    Option (Node String × List Token) :=
  if ts.head?.any ends.contains then some (absent, ts) else read place ts

def readItems (read : Reader) (fuel : Nat) (items : List (Node String)) (ts : List Token) :
    Option (List (Node String) × List Token) :=
  match fuel, ts with
  | fuel + 1, .item :: ts => do
    let (item, ts) ← readUnless read .block [.item, .blockEnd] ts
    readItems read fuel (item :: items) ts
  | _, .blockEnd :: ts => some (items.reverse, ts)
  | _, _ => none

/-- The items of a sequence that has no indent of its own, and so no end. -/
def readOpenItems (read : Reader) (fuel : Nat) (items : List (Node String)) (ts : List Token) :
    Option (List (Node String) × List Token) :=
  match fuel, ts with
  | fuel + 1, .item :: ts => do
    let (item, ts) ← readUnless read .block [.item, .key, .value, .blockEnd] ts
    readOpenItems read fuel (item :: items) ts
  | _, ts => some (items.reverse, ts)

def readValue (read : Reader) (place : Place) (ends : List Token) (ts : List Token) :
    Option (Node String × List Token) :=
  match ts with
  | .value :: ts => readUnless read place ends ts
  | ts => some (absent, ts)

def readEntries (read : Reader) (fuel : Nat) (entries : List (Node String × Node String))
    (ts : List Token) : Option (List (Node String × Node String) × List Token) :=
  match fuel, ts with
  | fuel + 1, .key :: ts => do
    let ends := [.key, .value, .blockEnd]
    let (key, ts) ← readUnless read .entry ends ts
    let (value, ts) ← readValue read .entry ends ts
    readEntries read fuel ((key, value) :: entries) ts
  | _, .blockEnd :: ts => some (entries.reverse, ts)
  | _, _ => none

/-- Behind the comma that is needed before all parts of a flow collection but the first and the
end. -/
def passComma (isFirst : Bool) (ending : Token) (ts : List Token) : Option (List Token) :=
  match ts with
  | .comma :: rest => if isFirst then some ts else some rest
  | t :: _ => if isFirst || t = ending then some ts else none
  | [] => none

/-- An entry that stands for a mapping as an item of a flow sequence. Where no key is written,
the token in its place is passed over. -/
def readPair (read : Reader) (ts : List Token) : Option (Node String × List Token) := do
  let ends := [.comma, .flowSeqEnd]
  let (key, ts) ←
    if ts.head?.any (.value :: ends).contains then some (absent, ts.drop 1) else read .flow ts
  let (value, ts) ← readValue read .flow ends ts
  return (.map none none [(key, value)], ts)

def readFlowItems (read : Reader) (fuel : Nat) (isFirst : Bool) (items : List (Node String))
    (ts : List Token) : Option (List (Node String) × List Token) := do
  match fuel, ← passComma isFirst .flowSeqEnd ts with
  | _, .flowSeqEnd :: ts => return (items.reverse, ts)
  | fuel + 1, .key :: ts =>
    let (item, ts) ← readPair read ts
    readFlowItems read fuel false (item :: items) ts
  | fuel + 1, ts =>
    let (item, ts) ← read .flow ts
    readFlowItems read fuel false (item :: items) ts
  | 0, _ => none

/-- The entries of a flow mapping. Without a mark before it, a node is a key that has no value. -/
def readFlowEntries (read : Reader) (fuel : Nat) (isFirst : Bool)
    (entries : List (Node String × Node String)) (ts : List Token) :
    Option (List (Node String × Node String) × List Token) := do
  match fuel, ← passComma isFirst .flowMapEnd ts with
  | _, .flowMapEnd :: ts => return (entries.reverse, ts)
  | fuel + 1, .key :: ts =>
    let ends := [.comma, .flowMapEnd]
    let (key, ts) ← readUnless read .flow (.value :: ends) ts
    let (value, ts) ← readValue read .flow ends ts
    readFlowEntries read fuel false ((key, value) :: entries) ts
  | fuel + 1, ts =>
    let (key, ts) ← read .flow ts
    readFlowEntries read fuel false ((key, absent) :: entries) ts
  | 0, _ => none

def readProperties (ts : List Token) : Option String × Option WrittenTag × List Token :=
  match ts with
  | .anchor name :: .tag t :: rest => (some name, some t, rest)
  | .tag t :: .anchor name :: rest => (some name, some t, rest)
  | .anchor name :: rest => (some name, none, rest)
  | .tag t :: rest => (none, some t, rest)
  | _ => (none, none, ts)

def opensAt (place : Place) (t : Token) : Bool :=
  match t with
  | .flowSeqStart | .flowMapStart => true
  | .blockSeqStart | .blockMapStart => place ≠ .flow
  | .item => place = .entry
  | _ => false

def depthLimit : Nat := 128

/-- A collection with its anchor and tag, from its first token on. The nodes in it are read with
`read`. -/
def readCollection (read : Reader) (anchor tag : Option String) (first : Token)
    (ts : List Token) : Option (Node String × List Token) := do
  let fuel := ts.length + 1
  match first with
  | .flowSeqStart =>
    return (← readFlowItems read fuel true [] ts).map (.seq anchor tag ·) id
  | .flowMapStart =>
    return (← readFlowEntries read fuel true [] ts).map (.map anchor tag ·) id
  | .blockSeqStart => return (← readItems read fuel [] ts).map (.seq anchor tag ·) id
  | .blockMapStart => return (← readEntries read fuel [] ts).map (.map anchor tag ·) id
  | .item =>
    return (← readOpenItems read fuel [] (first :: ts)).map (.seq anchor tag ·) id
  | _ => none

/-- A node with at most `depth` collections in each other. A scalar with the tag that is one mark
alone has no tag. -/
def read? (handles : Handles) : Nat → Reader
  | depth, place, ts => do
    if let .alias name :: rest := ts then
      return (.alias name, rest)
    let (anchor, written, rest) := readProperties ts
    let tag ← written.elim (some none) fun w => (handles.tag? w).map some
    match rest with
    | .scalar text isPlain :: rest =>
      return (.scalar anchor (tag.filter (· ≠ "!")) text isPlain, rest)
    | t :: rest =>
      if opensAt place t then
        match depth with
        | 0 => none
        | depth + 1 => readCollection (read? handles depth) anchor tag t rest
      else if anchor.isSome || tag.isSome then return (.scalar anchor tag "" true, t :: rest)
      else none
    | [] => if anchor.isSome || tag.isSome then return (.scalar anchor tag "" true, []) else none

end Node

/-- The directives before a document, each of them there only once, and the rest. The versions
that are known do not differ. -/
def readDirectives (hasVersion : Bool) (handles : Handles) :
    List Token → Option (Handles × List Token)
  | .version major minor :: ts =>
    if !hasVersion && major = 1 && (minor = 1 || minor = 2) then readDirectives true handles ts
    else none
  | .tagHandle name start :: ts =>
    if (List.lookup name handles).isSome then none
    else readDirectives hasVersion ((name, start) :: handles) ts
  | ts => some (handles, ts)

def Token.isOutside : Token → Bool
  | version .. | tagHandle .. | documentStart | documentEnd => true
  | _ => false

/-- The content of a document, and the rest behind its end. -/
def readContent (handles : Handles) (ts : List Token) :
    Option (Node String × List Token) := do
  let (node, ts) ← Node.read? handles Node.depthLimit .block ts
  return (node, if ts.head? = some .documentEnd then ts.drop 1 else ts)

def readMarkedContent (handles : Handles) (ts : List Token) :
    Option (Node String × List Token) :=
  if ts.head?.all Token.isOutside then
    some (.absent, if ts.head? = some .documentEnd then ts.drop 1 else ts)
  else readContent handles ts

def readDocuments (fuel : Nat) (read : List (Node String)) (ts : List Token) :
    Option (List (Node String)) :=
  match fuel, ts with
  | _, [] => some read.reverse
  | 0, _ => none
  | fuel + 1, ts => do
    let (handles, ts) ← readDirectives false [] ts
    match ts with
    | .documentStart :: ts =>
      let (node, ts) ← readMarkedContent handles ts
      readDocuments fuel (node :: read) (ts.dropWhile (· = .documentEnd))
    | _ => none

def documents? (text : List Char) : Option (List (Node String)) := do
  let ts ← tokens? text
  match ts with
  | [] => return []
  | .version .. :: _ | .tagHandle .. :: _ | .documentStart :: _ =>
    readDocuments (ts.length + 1) [] ts
  | _ =>
    let (node, rest) ← readContent [] ts
    readDocuments (ts.length + 1) [node] (rest.dropWhile (· = .documentEnd))

end ClusterSurvey.Yaml
