import ClusterSurvey.Api.Connection
import ClusterSurvey.Kubeconfig.Credentials

/-! Where a context leads, and connecting to the API that is there. -/
namespace ClusterSurvey

/-- The address of an API, with the namespace that counts where none is named and the user who
asks. -/
structure Target where
  address : String
  defaultNamespace : String
  proxy : Option String
  user : User
  deriving DecidableEq, Repr

inductive ContextFault where
  | unnamed
  | missing (context : String)
  | unknownCluster (cluster : String)
  | noAddress
  | badAddress (fault : AddressFault)
  | noAuthority (fault : MaterialFault)
  | badProxy (fault : AddressFault)
  deriving DecidableEq, Repr

namespace ContextFault

def message : ContextFault → String
  | unnamed => "failed to determine current context"
  | missing context => "failed to load current context: " ++ context
  | unknownCluster cluster => "failed to load the cluster of context: " ++ cluster
  | noAddress => "cluster url is missing on selected cluster"
  | badAddress fault => "failed to parse cluster url: " ++ fault.message
  | noAuthority fault => "failed to load certificate authority: " ++ fault.message
  | badProxy fault => "failed to parse proxy url: " ++ fault.message

def sources : ContextFault → List String
  | badAddress fault | badProxy fault => [fault.message]
  | noAuthority fault => fault.message :: fault.sources
  | _ => []

end ContextFault

inductive ConnectError where
  | noKubeconfig
  | unknownContext (name : String)
  | context (name : String) (fault : ContextFault)
  | client (name : String) (fault : ClientFault)
  /-- No context was asked for, and there is none that counts then. The fault is that of the
  kubeconfig, if there is one. -/
  | noDefault (fault : Option ContextFault)
  | noDefaultClient (fault : ClientFault)
  | unreachable (fault : ApiFault)
  deriving DecidableEq, Repr

namespace ConnectError

def message : ConnectError → String
  | noKubeconfig => "Failed to read kubeconfig. Is kubectl configured?"
  | unknownContext name => "Context '" ++ name ++ "' not found in kubeconfig"
  | context name _ => "Failed to create config for context: " ++ name
  | client name _ => "Failed to create client for context: " ++ name
  | noDefault _ | noDefaultClient _ => "Failed to create client from the default configuration"
  | unreachable _ => "Cluster API is not reachable with the selected credentials"

def sources : ConnectError → List String
  | noKubeconfig | unknownContext _ => []
  | context _ fault => fault.message :: fault.sources
  | client _ fault | noDefaultClient fault => fault.message :: fault.sources
  | noDefault fault =>
    ["Failed to infer configuration" ++ (fault.map fun f => ": " ++ f.message).getD ""]
  | unreachable fault => fault.error.chain

end ConnectError

namespace ClusterAccess

/-- The address of the API and the proxy on the way to it, if all that is said about the way is
right. An empty proxy is none. -/
def route (c : ClusterAccess) (file : FileReader) :
    Except ContextFault (String × Option String) := do
  let some address := c.address | throw .noAddress
  (Address.check address).mapError .badAddress
  let _ ← (c.authority.load file).mapError .noAuthority
  let proxy := c.proxy.filter (!·.isEmpty)
  if let some proxy := proxy then
    (Address.check proxy).mapError .badProxy
  return (address, proxy)

end ClusterAccess

namespace Kubeconfig

def userOf (k : Kubeconfig) (c : Context) : User :=
  (c.user.bind fun name => Named.get? name k.users).getD .anonymous

/-- Where the first context with a name leads. A program that knows the cluster is told about it
before anything else is looked at. -/
def target (k : Kubeconfig) (file : FileReader) (name : String) : Except ContextFault Target := do
  let some context := Named.get? name k.contexts | throw (.missing name)
  let some cluster := Named.get? context.cluster k.clusters |
    throw (.unknownCluster context.cluster)
  let user := k.userOf context
  if user.program.any (·.knowsCluster) then
    let _ ← (cluster.authority.load file).mapError .noAuthority
  let (address, proxy) ← cluster.route file
  return { address, defaultNamespace := context.ns.getD "default", proxy, user }

def currentTarget (k : Kubeconfig) (file : FileReader) : Except ContextFault Target :=
  match k.current with
  | some name => k.target file name
  | none => .error .unnamed

end Kubeconfig

namespace Target

def check (t : Target) (file : FileReader) : Except ClientFault Unit := do
  if let some proxy := t.proxy then
    throw (.proxy proxy)
  t.user.check file

def ofContext (file : FileReader) (k : Option Kubeconfig) (name : String) :
    Except ConnectError Target := do
  let some k := k | throw .noKubeconfig
  unless k.contextNames.contains name do throw (.unknownContext name)
  let target ← (k.target file name).mapError (.context name)
  (target.check file).mapError (.client name)
  return target

def ofCurrent (file : FileReader) (k : Option Kubeconfig) : Except ConnectError Target := do
  let some k := k | throw (.noDefault none)
  let target ← (k.currentTarget file).mapError fun fault => .noDefault (some fault)
  (target.check file).mapError .noDefaultClient
  return target

def choose (file : FileReader) (k : Option Kubeconfig) : Option String →
    Except ConnectError Target
  | some name => ofContext file k name
  | none => ofCurrent file k

/-- A connection to where requests go, if the API there can be reached. -/
def connect (network : Target → Connection) (file : FileReader) (k : Option Kubeconfig)
    (context : Option String) : Except ConnectError Connection := do
  let target ← choose file k context
  let connection := network target
  match connection.check with
  | .ok () => return connection
  | .error fault => throw (.unreachable fault)

end Target

end ClusterSurvey
