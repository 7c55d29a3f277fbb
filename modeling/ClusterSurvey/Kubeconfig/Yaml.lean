import ClusterSurvey.Kubeconfig.Basic
import ClusterSurvey.Yaml.Record
import ClusterSurvey.Yaml.Value

/-! Kubeconfigs as YAML. Fields that are known have to be right wherever they stand; others are
passed over. A file may hold several documents, which count as one kubeconfig. -/
namespace ClusterSurvey

open Yaml (Record)

def Yaml.Record.hasExtensions (r : Record) : Bool :=
  let read (v : Yaml) : Option Unit := do
    let r ← v.record?
    let _ ← r.required Yaml.text? "name"
    let _ ← r.required (fun v => if v.isData then some v else none) "extension"
  (r.optional (·.listOf? read) "extensions").isSome

def Material.ofRecord? (name : String) (r : Record) : Option Material := do
  return { data := ← r.optionalText (name ++ "-data"), file := ← r.optionalText name }

def ClusterAccess.ofYaml? (v : Yaml) : Option ClusterAccess := do
  let r ← v.record?
  let _ ← r.optional Yaml.bool? "insecure-skip-tls-verify"
  let _ ← r.optional Yaml.bool? "disable-compression"
  let _ ← r.optionalText "tls-server-name"
  guard r.hasExtensions
  return {
    address := ← r.optionalText "server"
    authority := ← Material.ofRecord? "certificate-authority" r
    proxy := ← r.optionalText "proxy-url" }

def IdentityProvider.ofYaml? (v : Yaml) : Option IdentityProvider := do
  let r ← v.record?
  return {
    name := ← r.required Yaml.text? "name"
    settings := (← r.given Yaml.textRecord? "config").getD [] }

/-- When a program may ask back. -/
def interactiveModes : List String := ["Never", "IfAvailable", "Always"]

def IdentityProgram.ofYaml? (v : Yaml) : Option IdentityProgram := do
  let r ← v.record?
  let _ ← r.optionalText "apiVersion"
  let _ ← r.optional (·.listOf? Yaml.text?) "args"
  let _ ← r.optional (·.listOf? Yaml.textRecord?) "env"
  let _ ← r.optional (Yaml.oneOf? interactiveModes) "interactiveMode"
  return {
    command := ← r.optionalText "command"
    knowsCluster := (← r.given Yaml.bool? "provideClusterInfo").getD false }

def User.ofYaml? (v : Yaml) : Option User := do
  let r ← v.record?
  return {
    name := ← r.optionalText "username"
    password := ← r.optionalText "password"
    token := ← r.optionalText "token"
    tokenFile := ← r.optionalText "tokenFile"
    certificate := ← Material.ofRecord? "client-certificate" r
    key := ← Material.ofRecord? "client-key" r
    provider := ← r.optional IdentityProvider.ofYaml? "auth-provider"
    program := ← r.optional IdentityProgram.ofYaml? "exec"
    impersonated := ← r.optionalText "as"
    groups := ← r.listOf Yaml.text? "as-groups" }

def Context.ofYaml? (v : Yaml) : Option Context := do
  let r ← v.record?
  guard r.hasExtensions
  return {
    cluster := ← r.required Yaml.text? "cluster"
    user := ← r.optionalText "user"
    ns := ← r.optionalText "namespace" }

def Named.ofYaml? (key : String) (f : Yaml → Option α) (v : Yaml) : Option (Named α) := do
  let r ← v.record?
  return { name := ← r.required Yaml.text? "name", value := ← r.optional f key }

namespace Kubeconfig

/-- Whether the settings of an editor are right. -/
def arePreferences (v : Yaml) : Option Unit := do
  let r ← v.record?
  let _ ← r.optional Yaml.bool? "colors"
  guard r.hasExtensions

def ofYaml? (v : Yaml) : Option Kubeconfig := do
  let r ← v.record?
  let _ ← r.optional arePreferences "preferences"
  guard r.hasExtensions
  return {
    kind := ← r.optionalText "kind"
    apiVersion := ← r.optionalText "apiVersion"
    clusters := ← r.listOf (Named.ofYaml? "cluster" ClusterAccess.ofYaml?) "clusters"
    users := ← r.listOf (Named.ofYaml? "user" User.ofYaml?) "users"
    contexts := ← r.listOf (Named.ofYaml? "context" Context.ofYaml?) "contexts"
    current := ← r.optionalText "current-context" }

/-- The kubeconfig that a file in a directory holds, with all its documents merged. A byte order
mark before them does not count. -/
def ofText? (directory text : String) : Option Kubeconfig := do
  let text := if text.startsWith "\ufeff" then String.ofList (text.toList.drop 1) else text
  match (← (← Yaml.ofText? text).mapM ofYaml?).map (·.inDirectory directory) with
  | [] => some .empty
  | first :: rest => rest.foldlM merge? first

end Kubeconfig

end ClusterSurvey
