import ClusterSurvey.Text.Split

/-! Files under their paths, and what comes of looking one up. -/
namespace ClusterSurvey

inductive FileFault where
  | missing
  | denied
  | notDirectory
  | isDirectory
  | nameTooLong
  | notText
  deriving DecidableEq, Repr

def FileFault.message : FileFault → String
  | missing => "No such file or directory (os error 2)"
  | denied => "Permission denied (os error 13)"
  | notDirectory => "Not a directory (os error 20)"
  | isDirectory => "Is a directory (os error 21)"
  | nameTooLong => "File name too long (os error 36)"
  | notText => "stream did not contain valid UTF-8"

inductive FileEntry where
  | directory
  | file (text : String)
  deriving DecidableEq, Repr

/-- What stands below the working directory and below the root, by the names on the way. The way
from the root begins with the empty name. -/
structure Files where
  entries : List (List String × FileEntry)
  deriving DecidableEq, Repr

namespace Files

def nameLimit : Nat := 255

def pathLimit : Nat := 4095

def entryAt? (files : Files) (place : List String) : Option FileEntry :=
  List.lookup place files.entries

/-- What is found along some names, from the directory at `place` on. Only through a directory
does the way go on. -/
def walk (files : Files) (place : List String) : List String → Except FileFault String
  | [] => .error .isDirectory
  | name :: rest =>
    if name = "" || name = "." then walk files place rest
    else if name = ".." then walk files (if place = [""] then place else place.dropLast) rest
    else if nameLimit < name.utf8ByteSize then .error .nameTooLong
    else
      match files.entryAt? (place ++ [name]) with
      | none => .error .missing
      | some .directory => walk files (place ++ [name]) rest
      | some (.file text) => if rest.isEmpty then .ok text else .error .notDirectory

def read (files : Files) (path : String) : Except FileFault String :=
  if path.isEmpty then .error .missing
  else if pathLimit < path.utf8ByteSize then .error .nameTooLong
  else
    let names := (Text.pieces '/' path.toList).map String.ofList
    files.walk (if path.startsWith "/" then [""] else []) names

end Files

end ClusterSurvey
