import ClusterSurvey.Config.Basic
import ClusterSurvey.Text.Quoted

/-! The rules that a configuration has to keep, and the first one that it breaks. -/
namespace ClusterSurvey

inductive BridgeField where
  | ns
  | agent
  deriving DecidableEq, Repr

def BridgeField.name : BridgeField → String
  | ns => "namespace"
  | agent => "agent"

inductive ConfigError where
  | emptyName
  | invalidName (name : String)
  | duplicate (name : String)
  | emptyNamespace (name : String)
  | missingLabels (name : String)
  | missingNodes (name : String)
  | bridgeRequired (name : String)
  | invalidBridge (field : BridgeField)
  | zeroConcurrency
  deriving DecidableEq, Repr

def ConfigError.message : ConfigError → String
  | emptyName => "component name must not be empty"
  | invalidName name =>
    "component name " ++ Text.quoted name ++
      " may only contain ASCII letters, digits, '-', '_' and '.'"
  | duplicate name => "component " ++ name ++ " is configured more than once"
  | emptyNamespace name => "component " ++ name ++ " has an empty namespace"
  | missingLabels name => "component " ++ name ++ " uses label discovery but has no labels"
  | missingNodes name =>
    "component " ++ name ++
      " uses static pod discovery but names no nodes and does not target master nodes"
  | bridgeRequired name =>
    "component " ++ name ++ " uses bare process discovery but the remote bridge is disabled"
  | invalidBridge field => "remote bridge " ++ field.name ++ " must not be empty"
  | zeroConcurrency => "machine concurrency must be greater than zero"

/-- The characters that a component name may hold; none of them means anything to a shell. -/
def isNameChar (c : Char) : Bool :=
  c.isAlphanum || c = '-' || c = '_' || c = '.'

def BridgeConfig.check : BridgeConfig → Except ConfigError Unit
  | proxy ns agent =>
    if ns.isEmpty then throw (.invalidBridge .ns)
    else if agent.isEmpty then throw (.invalidBridge .agent)
    else pure ()
  | disabled => pure ()

def ComponentConfig.checkSource (bridge : BridgeConfig) (c : ComponentConfig) :
    Except ConfigError Unit :=
  match c.source with
  | .auto .. => pure ()
  | .label labels => if labels.isEmpty then throw (.missingLabels c.name) else pure ()
  | .staticPod .. => if c.source.targetsNodes then pure () else throw (.missingNodes c.name)
  | .bare .. => if bridge.isEnabled then pure () else throw (.bridgeRequired c.name)

def ComponentConfig.check (bridge : BridgeConfig) (c : ComponentConfig) :
    Except ConfigError Unit :=
  if c.name.isEmpty then throw .emptyName
  else if !c.name.toList.all isNameChar then throw (.invalidName c.name)
  else if c.ns.isEmpty then throw (.emptyNamespace c.name)
  else c.checkSource bridge

/-- The rules for a list of components after others with the names `seen`. -/
def checkComponents (bridge : BridgeConfig) (seen : List String) :
    List ComponentConfig → Except ConfigError Unit
  | [] => pure ()
  | c :: rest => do
    c.check bridge
    if seen.contains c.name then throw (.duplicate c.name)
    checkComponents bridge (c.name :: seen) rest

/-- The first rule that a configuration breaks, the bridge's first, then the limit's, then those
of the components in turn. -/
def SurveyConfig.validate (config : SurveyConfig) : Except ConfigError Unit := do
  config.bridge.check
  if config.concurrency = 0 then throw .zeroConcurrency
  checkComponents config.bridge [] config.components

end ClusterSurvey
