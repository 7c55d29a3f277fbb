/-! Kubeconfigs: the clusters, users and contexts that are known, each by its name, and the
context that counts where none is named. -/
namespace ClusterSurvey

structure Named (α : Type) where
  name : String
  value : Option α
  deriving DecidableEq, Repr

def Named.get? (name : String) (l : List (Named α)) : Option α :=
  (l.find? fun e => e.name = name).bind (·.value)

/-- Something that is given directly, in base64, or stands in a file. What is given directly
counts. -/
structure Material where
  data : Option String
  file : Option String
  deriving DecidableEq, Repr

structure IdentityProvider where
  name : String
  settings : List (String × String)
  deriving DecidableEq, Repr

structure IdentityProgram where
  command : Option String
  knowsCluster : Bool
  deriving DecidableEq, Repr

structure User where
  name : Option String
  password : Option String
  token : Option String
  tokenFile : Option String
  certificate : Material
  key : Material
  provider : Option IdentityProvider
  program : Option IdentityProgram
  impersonated : Option String
  groups : List String
  deriving DecidableEq, Repr

def User.anonymous : User :=
  ⟨none, none, none, none, ⟨none, none⟩, ⟨none, none⟩, none, none, none, []⟩

structure Context where
  cluster : String
  user : Option String
  ns : Option String
  deriving DecidableEq, Repr

structure ClusterAccess where
  address : Option String
  authority : Material
  proxy : Option String
  deriving DecidableEq, Repr

structure Kubeconfig where
  kind : Option String
  apiVersion : Option String
  clusters : List (Named ClusterAccess)
  users : List (Named User)
  contexts : List (Named Context)
  current : Option String
  deriving DecidableEq, Repr

namespace Kubeconfig

def empty : Kubeconfig := ⟨none, none, [], [], [], none⟩

/-- A path as it is meant in a file that stands in a directory. -/
def pathFrom (directory path : String) : String :=
  if directory.isEmpty || path.startsWith "/" then path else directory ++ "/" ++ path

def inDirectory (k : Kubeconfig) (directory : String) : Kubeconfig :=
  let place (m : Material) : Material := { m with file := m.file.map (pathFrom directory) }
  { k with
    clusters := k.clusters.map fun e =>
      { e with value := e.value.map fun c => { c with authority := place c.authority } }
    users := k.users.map fun e =>
      { e with value := e.value.map fun u =>
        { u with
          tokenFile := u.tokenFile.map (pathFrom directory)
          certificate := place u.certificate
          key := place u.key } } }

def paths (k : Kubeconfig) : List String :=
  (k.clusters.filterMap fun e => e.value.bind (·.authority.file)) ++
    (k.users.filterMap (·.value)).flatMap fun u =>
      u.tokenFile.toList ++ u.certificate.file.toList ++ u.key.file.toList

def contextNames (k : Kubeconfig) : List String := k.contexts.map (·.name)

def appendNew (l m : List (Named α)) : List (Named α) :=
  l ++ m.filter fun e => l.all fun f => f.name ≠ e.name

/-- Whether two texts agree where both are there. -/
def agree (a b : Option String) : Bool := a.isNone || b.isNone || a = b

/-- Two kubeconfigs in one. What the first says counts. -/
def merge? (k l : Kubeconfig) : Option Kubeconfig :=
  if agree k.kind l.kind && agree k.apiVersion l.apiVersion then
    some {
      kind := k.kind.or l.kind
      apiVersion := k.apiVersion.or l.apiVersion
      clusters := appendNew k.clusters l.clusters
      users := appendNew k.users l.users
      contexts := appendNew k.contexts l.contexts
      current := k.current.or l.current }
  else none

end Kubeconfig

end ClusterSurvey
