import ClusterSurvey.Program.Options

/-! What the program says about its own options. -/
namespace ClusterSurvey

def programName : String := "kubeprobe"

def programVersion : String := "0.1.0"

def usageLine : String := "Usage: " ++ programName ++ " [OPTIONS] [CONTEXT]"

def helpText : String := "\n".intercalate [
  "Discovers Kubernetes cluster objects, control-plane components and node tunables",
  "",
  usageLine,
  "",
  "Arguments:",
  "  [CONTEXT]  Kubernetes context name (defaults to the current context)",
  "",
  "Options:",
  "  -c, --config <FILE>                Discovery configuration file (TOML)",
  "  -o, --output <OUTPUT>              What to print once discovery completes " ++
    "[default: summary] [possible values: summary, json]",
  "      --tolerate-component-failures  Record component discovery failures instead of aborting",
  "  -v, --verbose                      Log discovery progress to stderr",
  "  -h, --help                         Print help",
  "  -V, --version                      Print version"]

namespace UsageError

def fault? : UsageError → Option String
  | help | version => none
  | unknownArgument => some "unexpected argument found"
  | invalidValue => some "an option has no value or an invalid one"
  | unneededValue => some "a value is given to an option that takes none"
  | repeated => some "an option cannot be used multiple times"

def text (e : UsageError) : String :=
  match e, e.fault? with
  | _, some fault => "error: " ++ fault ++ "\n\n" ++ usageLine ++
      "\n\nFor more information, try '--help'."
  | version, none => programName ++ " " ++ programVersion
  | _, none => helpText

end UsageError

end ClusterSurvey
