import ClusterSurvey.Dict
import ClusterSurvey.Text.Blank
import ClusterSurvey.Text.Split
import ClusterSurvey.Text.LowerCase

/-! Names bound to values by `=`: the lines of a listing of kernel tunables, and the arguments a
process was started with. The first `=` binds, so a value may hold more of them; what binds
nothing, or binds no name, is passed over; of two bindings of one name the later counts. -/
namespace ClusterSurvey

open Text

namespace Assignment

def ofLine? (line : List Char) : Option (String × String) :=
  (splitOnce '=' (trim line)).bind fun (name, value) =>
    if (trim name).isEmpty then none
    else some (String.ofList (trim name), String.ofList (trim value))

/-- The binding that one argument makes: leading dashes go, and the name is lower-cased. -/
def ofArgument? (argument : List Char) : Option (String × String) :=
  (splitOnce '=' ((trim argument).dropWhile (· = '-'))).bind fun (name, value) =>
    if (toLower (trim name)).isEmpty then none
    else some (String.ofList (toLower (trim name)), String.ofList (trim value))

end Assignment

def readTunables (text : String) : Dict String :=
  Dict.ofList ((lines text.toList).filterMap Assignment.ofLine?)

def readArguments (arguments : List String) : Dict String :=
  Dict.ofList (arguments.filterMap fun a => Assignment.ofArgument? a.toList)

def tunablesText (bindings : List (String × String)) : String :=
  String.join (bindings.map fun b => b.1 ++ " = " ++ b.2 ++ "\n")

def argumentText (dashes : Nat) (binding : String × String) : String :=
  String.ofList (List.replicate dashes '-') ++ binding.1 ++ "=" ++ binding.2

end ClusterSurvey
