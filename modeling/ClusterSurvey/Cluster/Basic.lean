import ClusterSurvey.Cluster.Error
import ClusterSurvey.Cluster.Selector

/-! A cluster, as far as a survey can see it: what it answers to each call. -/
namespace ClusterSurvey

structure ExecOutput where
  stdout : String
  stderr : String
  deriving DecidableEq, Repr

inductive Call where
  | listNodes
  | listObjects (kind : ObjectKind)
  /-- The pods of a namespace, or of all of them, that meet a query. -/
  | listPods (ns : Option String) (query : PodQuery)
  /-- A pod, or nothing if there is none of that name. -/
  | getPod (ns name : String)
  | exec (ns pod : String) (command : List String)
  deriving DecidableEq, Repr

abbrev Call.Answer : Call → Type
  | .listNodes => List Node
  | .listObjects kind => List (KubeObject kind)
  | .listPods _ _ => List Pod
  | .getPod _ _ => Option Pod
  | .exec _ _ _ => ExecOutput

/-- A cluster at one time. -/
abbrev Cluster := (call : Call) → Except CallError call.Answer

end ClusterSurvey
