import ClusterSurvey.Config.Json
import ClusterSurvey.Config.Validation
import ClusterSurvey.Toml.Parser

/-! Configuration files: a TOML document with the settings of a survey, which have to keep the
rules. -/
namespace ClusterSurvey

inductive ConfigFileError where
  /-- It is no document, or no configuration. -/
  | malformed
  | invalid (error : ConfigError)
  deriving DecidableEq, Repr

def ConfigFileError.message : ConfigFileError → String
  | malformed => "TOML parse error"
  | invalid error => error.message

def SurveyConfig.ofText (text : String) : Except ConfigFileError SurveyConfig :=
  match (Toml.parse? text).bind (SurveyConfig.ofJson? .toml) with
  | none => .error .malformed
  | some config =>
    match config.validate with
    | .ok () => .ok config
    | .error e => .error (.invalid e)

end ClusterSurvey
