import ClusterSurvey.Toml.Number
import ClusterSurvey.Toml.Quoted
import ClusterSurvey.Toml.Table

/-! Reading a TOML document into a tree. Nesting of eighty levels or more is refused, in values
and in keys. -/
namespace ClusterSurvey.Toml

open Text

def isBareKeyChar (c : Char) : Bool := c.isAlphanum || c = '_' || c = '-'

def readKeyPart (cs : List Char) : Option (String × List Char) :=
  match cs with
  | '"' :: rest => readBasic [] rest
  | '\'' :: rest => readLiteral [] rest
  | _ =>
    match cs.takeWhile isBareKeyChar with
    | [] => none
    | part => some (String.ofList part, cs.dropWhile isBareKeyChar)

def nestingLimit : Nat := 80

def readKey (fuel : Nat) (cs : List Char) : Option ((List String × String) × List Char) :=
  match fuel with
  | 0 => none
  | fuel + 1 => do
    let (part, rest) ← readKeyPart (skipInline cs)
    match skipInline rest with
    | '.' :: rest =>
      let ((path, last), rest) ← readKey fuel rest
      some ((part :: path, last), rest)
    | rest => some (([], part), rest)

def skipFiller (inComment : Bool) : List Char → List Char
  | '\n' :: rest => skipFiller false rest
  | '\r' :: '\n' :: rest => skipFiller false rest
  | c :: rest =>
    if inComment then if isTextChar c then skipFiller true rest else c :: rest
    else if isInlineBlank c then skipFiller false rest
    else if c = '#' then skipFiller true rest
    else c :: rest
  | [] => []

def words : List (String × Json) := [("true", .bool true), ("false", .bool false)]

def readScalar (cs : List Char) : Option (Json × List Char) :=
  match cs with
  | '"' :: _ | '\'' :: _ => (readString cs).map fun (s, rest) => (.str s, rest)
  | _ =>
    match words.find? fun w => w.1.toList.isPrefixOf cs with
    | some w => some (w.2, cs.drop w.1.length)
    | none => (readMoment cs).orElse fun _ => readNumber cs

mutual

/-- A value. `fuel` bounds the steps and `depth` the nesting that is left. -/
def readValue (fuel depth : Nat) (cs : List Char) : Option (Json × List Char) :=
  match fuel with
  | 0 => none
  | fuel + 1 =>
    match cs with
    | '[' :: rest =>
      if depth ≤ 1 then none
      else (readArray fuel (depth - 1) rest).map fun (items, rest) => (.arr items, rest)
    | '\x7b' :: rest =>
      if depth ≤ 1 then none
      else
        match skipInline rest with
        | '\x7d' :: rest => some (.obj [], rest)
        | rest =>
          (readInline fuel (depth - 1) [] rest).map fun (entries, rest) =>
            (.obj (entriesJson entries), rest)
    | _ => readScalar cs

/-- The items of an array up to its bracket; a comma may stand behind the last. -/
def readArray (fuel depth : Nat) (cs : List Char) : Option (List Json × List Char) :=
  match fuel with
  | 0 => none
  | fuel + 1 =>
    match skipFiller false cs with
    | ']' :: rest => some ([], rest)
    | cs => do
      let (item, rest) ← readValue fuel depth cs
      match skipFiller false rest with
      | ',' :: rest => (readArray fuel depth rest).map fun (items, rest) => (item :: items, rest)
      | ']' :: rest => some ([item], rest)
      | _ => none

def readInline (fuel depth : Nat) (entries : Entries) (cs : List Char) :
    Option (Entries × List Char) :=
  match fuel with
  | 0 => none
  | fuel + 1 => do
    let ((path, key), rest) ← readKey (nestingLimit - 1) cs
    let rest ← readMark '=' rest
    let (j, rest) ← readValue fuel depth (skipInline rest)
    let entries ← insertAt path key (.value j) entries
    match skipInline rest with
    | ',' :: rest => readInline fuel depth entries rest
    | '\x7d' :: rest => some (entries, rest)
    | _ => none

end

inductive Statement where
  | table (path : List String) (key : String)
  | nextTable (path : List String) (key : String)
  | entry (path : List String) (key : String) (value : Json)

/-- The text behind the end of a line, which may hold a comment. -/
def endLine (cs : List Char) : Option (List Char) :=
  let rest :=
    match skipInline cs with
    | '#' :: rest => rest.dropWhile isTextChar
    | rest => rest
  match rest with
  | [] => some []
  | rest => afterBreak? rest

def readHeader (cs : List Char) : Option ((List String × String) × List Char) := do
  let (key, rest) ← readKey (nestingLimit - 1) cs
  some (key, ← readMark ']' rest)

def readStatement (fuel : Nat) (cs : List Char) : Option (Statement × List Char) :=
  match cs with
  | '[' :: '[' :: rest => do
    let ((path, key), rest) ← readHeader rest
    some (.nextTable path key, ← readMark ']' rest)
  | '[' :: rest => do
    let ((path, key), rest) ← readHeader rest
    some (.table path key, rest)
  | _ => do
    let ((path, key), rest) ← readKey (nestingLimit - 1) cs
    let (j, rest) ← readValue fuel nestingLimit (skipInline (← readMark '=' rest))
    some (.entry path key j, rest)

def readStatements (fuel : Nat) (cs : List Char) : Option (List Statement) :=
  match fuel with
  | 0 => none
  | fuel + 1 =>
    match skipInline cs with
    | [] => some []
    | c :: rest =>
      if c = '#' ∨ c = '\n' ∨ c = '\r' then endLine (c :: rest) >>= readStatements fuel
      else do
        let (statement, rest) ← readStatement fuel (c :: rest)
        return statement :: (← readStatements fuel (← endLine rest))

/-- A document so far: its entries, and the path of the table that is open. -/
structure Document where
  entries : Entries
  current : List String

namespace Document

def run (d : Document) : Statement → Option Document
  | .table path key => (openTable path key d.entries).map (⟨·, path ++ [key]⟩)
  | .nextTable path key => (openNext path key d.entries).map (⟨·, path ++ [key]⟩)
  | .entry path key j =>
    (changeAt .implied .header (fun _ entries => insertAt path key (.value j) entries) d.current
      d.entries).map (⟨·, d.current⟩)

end Document

/-- The tree of a whole document; a byte order mark in front is passed over. -/
def parse? (text : String) : Option Json := do
  let cs :=
    match text.toList with
    | '\ufeff' :: rest => rest
    | cs => cs
  let statements ← readStatements (cs.length + 1) cs
  let d ← statements.foldlM Document.run ⟨[], []⟩
  return .obj (entriesJson d.entries)

end ClusterSurvey.Toml
