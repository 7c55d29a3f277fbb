import ClusterSurvey.Json.Printer

/-! How a call to a cluster fails. What the errors of libraries say is up to these: of such an error
only its text and those of its causes are known. -/
namespace ClusterSurvey

/-- An error of a library: its own text, and the texts down its chain of causes. -/
structure LibraryError where
  text : String
  causes : List String
  deriving DecidableEq, Repr

def LibraryError.chain (error : LibraryError) : List String := error.text :: error.causes

inductive ApiFault where
  | refused (code : Nat) (reason : String) (error : LibraryError)
  | unreadable (error : LibraryError)
  | unanswered (error : LibraryError)
  deriving DecidableEq, Repr

namespace ApiFault

def error : ApiFault → LibraryError
  | refused _ _ error | unreadable error | unanswered error => error

def message (fault : ApiFault) : String := fault.error.text

end ApiFault

inductive CallError where
  | list (what : String) (fault : ApiFault)
  | getPod (ns name : String) (fault : ApiFault)
  | attach (ns pod : String) (fault : ApiFault)
  | io (pod : String) (error : LibraryError)
  | exitCode (code : Int32)
  | stream (text : String)
  deriving DecidableEq

/-- What every message about an exit code holds. -/
def exitCodeMarker : String := "terminated with exit code"

namespace CallError

def message : CallError → String
  | list what fault => "failed to list " ++ what ++ ": " ++ fault.message
  | getPod ns name fault => "failed to get pod " ++ ns ++ "/" ++ name ++ ": " ++ fault.message
  | attach ns pod fault =>
    "failed to open exec stream to pod " ++ ns ++ "/" ++ pod ++ ": " ++ fault.message
  | io pod error => "failed to read exec output from pod " ++ pod ++ ": " ++ error.text
  | exitCode code => "command " ++ exitCodeMarker ++ " " ++ Json.intText code.toInt
  | stream text => "exec stream failed: " ++ text

def origin? : CallError → Option LibraryError
  | list _ fault | getPod _ _ fault | attach _ _ fault => some fault.error
  | io _ error => some error
  | exitCode _ | stream _ => none

def sources (e : CallError) : List String := (e.origin?.map (·.chain)).getD []

end CallError

end ClusterSurvey
