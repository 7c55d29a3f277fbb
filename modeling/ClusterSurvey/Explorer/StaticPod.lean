import ClusterSurvey.Explorer.Basic

/-! Finding a component by the pods that stand for the static manifests of the nodes. -/
namespace ClusterSurvey

def staticPodName (component node : String) : String := component ++ "-" ++ node

/-- The instance on a node: it runs if its pod is there. -/
def staticPodOn (component ns node : String) : Survey (Except SurveyError Component) := do
  let name := staticPodName component node
  match ← Survey.ask (.getPod ns name) with
  | .ok (some pod) => return .ok (.running component node (Pod.argumentsOf pod component))
  | .ok none => return .ok (.absent component node)
  | .error e =>
    return .error (.transport ("failed to look up static pod " ++ name ++ " on node " ++ node) e)

def Explorer.byStaticPods (name ns : String) (nodes : List String) : Explorer where
  strategy := Strategy.staticPod.name
  find := Explorer.perNode (staticPodOn name ns) nodes

end ClusterSurvey
