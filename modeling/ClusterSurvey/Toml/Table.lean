import ClusterSurvey.Json.Basic

/-! Tables under construction. A table remembers how it came to be, because that decides who may
add to it: a header names a table once, and dotted keys only add to tables that dotted keys or
longer headers have made. -/
namespace ClusterSurvey.Toml

/-- How a table came to be. -/
inductive Origin where
  | header
  | implied
  /-- A dotted key passed through it. -/
  | dotted
  deriving DecidableEq, Repr

inductive Item where
  | value (j : Json)
  | table (origin : Origin) (entries : List (String × Item))
  | tables (latest : List (String × Item)) (earlier : List (List (String × Item)))

abbrev Entries := List (String × Item)

def setEntry (key : String) (item : Item) (entries : Entries) : Entries :=
  entries.map fun e => if e.1 = key then (key, item) else e

def item? (key : String) (entries : Entries) : Option Item := List.lookup key entries

/-- Changes the table at the end of a path. What is missing on the way is made with an origin;
`here` is the origin of the table that the path starts from. -/
def changeAt (origin here : Origin) (change : Origin → Entries → Option Entries) :
    List String → Entries → Option Entries
  | [], entries => change here entries
  | key :: rest, entries =>
    match item? key entries with
    | none =>
      (changeAt origin origin change rest []).map fun sub =>
        entries ++ [(key, .table origin sub)]
    | some (.value _) => none
    | some (.table o sub) =>
      if origin = .dotted ∧ o = .header then none
      else (changeAt origin o change rest sub).map fun sub => setEntry key (.table o sub) entries
    | some (.tables latest earlier) =>
      (changeAt origin .header change rest latest).map fun latest =>
        setEntry key (.tables latest earlier) entries

/-- Adds an entry under a dotted key. The table that a longer key ends in has to be one of dotted
keys. -/
def insertAt (path : List String) (key : String) (item : Item) (entries : Entries) :
    Option Entries :=
  changeAt .dotted .header (fun origin entries =>
    if (path ≠ [] ∧ origin ≠ .dotted) ∨ (item? key entries).isSome then none
    else some (entries ++ [(key, item)])) path entries

def openTable (path : List String) (key : String) (entries : Entries) : Option Entries :=
  changeAt .implied .header (fun _ entries =>
    match item? key entries with
    | none => some (entries ++ [(key, .table .header [])])
    | some (.table .implied sub) => some (setEntry key (.table .header sub) entries)
    | some _ => none) path entries

def openNext (path : List String) (key : String) (entries : Entries) : Option Entries :=
  changeAt .implied .header (fun _ entries =>
    match item? key entries with
    | none => some (entries ++ [(key, .tables [] [])])
    | some (.tables latest earlier) =>
      some (setEntry key (.tables [] (latest :: earlier)) entries)
    | some _ => none) path entries

mutual

def Item.toJson : Item → Json
  | .value j => j
  | .table _ entries => .obj (entriesJson entries)
  | .tables latest earlier =>
    .arr ((Json.obj (entriesJson latest) :: tablesJson earlier).reverse)

def entriesJson : List (String × Item) → List (String × Json)
  | [] => []
  | (key, item) :: rest => (key, item.toJson) :: entriesJson rest

def tablesJson : List (List (String × Item)) → List Json
  | [] => []
  | entries :: rest => .obj (entriesJson entries) :: tablesJson rest

end

end ClusterSurvey.Toml
