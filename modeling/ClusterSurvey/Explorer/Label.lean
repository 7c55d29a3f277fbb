import ClusterSurvey.Explorer.Basic

/-! Finding a component by the labels of its pods. -/
namespace ClusterSurvey

def Pod.instanceOf (pod : Pod) (component : String) : Component :=
  .running component pod.nodeName (pod.argumentsOf component)

def Explorer.byLabels (name ns : String) (labels : Dict String) : Explorer where
  strategy := Strategy.label.name
  find := do
    let selector := Selector.ofLabels labels
    match ← Survey.ask (.listPods (some ns) ⟨some selector, none⟩) with
    | .ok pods => return .ok (pods.map (·.instanceOf name))
    | .error e =>
      return .error (.transport ("failed to list pods matching " ++ selector ++ " in " ++ ns) e)

end ClusterSurvey
