import ClusterSurvey.Cluster.Error
import ClusterSurvey.Config.Validation
import ClusterSurvey.Text.Split

/-! How a survey fails. That something is absent is no failure. -/
namespace ClusterSurvey

inductive SurveyError where
  | config (error : ConfigError)
  | notInitialized
  | alreadyInitialized
  | transport (context : String) (source : CallError)
  | agentNotFound (node ns agent : String)
  | ambiguousAgent (node : String) (count : Nat)
  | remote (node : String) (source : CallError)
  | explorer (strategy : String) (source : SurveyError)
  /-- The components that could not be looked for, each with its reason. -/
  | components (failures : List (String × SurveyError))
  | machine (node : String) (source : SurveyError)
  | gateClosed
  /-- A task of the survey did not come to its end. -/
  | task (error : LibraryError)

namespace SurveyError

mutual

def message : SurveyError → String
  | config error => "invalid configuration: " ++ error.message
  | notInitialized => "cluster discovery has not been initialized"
  | alreadyInitialized => "cluster discovery is already initialized"
  | transport context source => context ++ ": " ++ source.message
  | agentNotFound node ns agent =>
    "remote agent " ++ agent ++ " not found on node " ++ node ++ " in namespace " ++ ns
  | ambiguousAgent node count =>
    Nat.repr count ++ " remote agent pods match node " ++ node
  | remote node source => "remote command on node " ++ node ++ " failed: " ++ source.message
  | explorer strategy source => strategy ++ " explorer failed: " ++ message source
  | components failures =>
    "failed to discover components: " ++ "; ".intercalate (failureTexts failures)
  | machine node source =>
    "failed to fetch machine info for node " ++ node ++ ": " ++ message source
  | gateClosed => "admission gate closed"
  | task error => "discovery task failed: " ++ error.text

def failureTexts : List (String × SurveyError) → List String
  | [] => []
  | (component, error) :: rest => (component ++ ": " ++ message error) :: failureTexts rest

end

def sources : SurveyError → List String
  | config error => [error.message]
  | transport _ source | remote _ source => source.message :: source.sources
  | explorer _ source | machine _ source => source.message :: sources source
  | task error => error.chain
  | _ => []

/-- Whether a command ran on a node and ended with a code other than zero, as far as the message
tells. -/
def isExitCode (e : SurveyError) : Bool :=
  Text.contains exitCodeMarker.toList e.message.toList

end SurveyError

inductive Abort where
  | failed (error : SurveyError)
  /-- A limit beyond any gate was asked for, and the program broke off. -/
  | overflow (limit : Nat)

end ClusterSurvey
