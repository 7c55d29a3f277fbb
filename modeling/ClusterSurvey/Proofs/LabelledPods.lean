import ClusterSurvey.Explorer.Label
import ClusterSurvey.Proofs.AgentPods
import ClusterSurvey.Proofs.ProcessArguments

/-! Components that are found by labels in a cluster held in memory. The labels go through the text
of a selector, and still no pod is found but those that carry them, and none of these is missed
(`Explorer.findsLabelled_byLabels`). -/
namespace ClusterSurvey

namespace Pod

def Carries (pod : Pod) (labels : Dict String) : Prop :=
  ∀ key value, labels.get? key = some value → pod.label? key = some value

instance (pod : Pod) (labels : Dict String) : Decidable (pod.Carries labels) :=
  decidable_of_iff (∀ e ∈ labels.entries, pod.label? e.1 = some e.2) (by
    simp [Carries, Dict.get?_eq_some_iff])

structure ShownAs (pod : Pod) (component : String) (c : Component) : Prop where
  name_eq : c.name = component
  isRunning : c.isRunning = true
  scheduled : ∀ node, pod.spec.bind (·.nodeName) = some node → c.node = node
  unscheduled : pod.spec.bind (·.nodeName) = none → c.node = ""
  started : ∀ command args, pod.Starts component command args →
    c.args = readArguments (command.getD [] ++ args.getD [])
  unnamed : (∀ spec ∈ pod.spec, ∀ container ∈ spec.containers, container.name ≠ component) →
    c.args = ∅

variable {pod : Pod} {component : String}

theorem argumentsOf_of_unnamed
    (h : ∀ spec ∈ pod.spec, ∀ container ∈ spec.containers, container.name ≠ component) :
    pod.argumentsOf component = ∅ := by
  have hnone : pod.container? component = none := by
    unfold container?
    cases hspec : pod.spec with
    | none => rfl
    | some spec => simpa using h spec hspec
  unfold argumentsOf
  rw [hnone]

theorem shownAs_instanceOf (pod : Pod) (component : String) :
    pod.ShownAs component (pod.instanceOf component) where
  name_eq := rfl
  isRunning := rfl
  scheduled := by
    intro node hnode
    exact congrArg (Option.getD · "") hnode
  unscheduled := by
    intro hnone
    exact congrArg (Option.getD · "") hnone
  started := by
    intro command args hstarts
    exact argumentsOf_of_starts hstarts
  unnamed := argumentsOf_of_unnamed

theorem meets_ofLabels_iff {labels : Dict String} (h : Selector.Unambiguous labels) :
    pod.meets ⟨some (Selector.ofLabels labels), none⟩ = true ↔ pod.Carries labels := by
  unfold meets
  rw [Bool.and_eq_true, Selector.holds_ofLabels_iff h]
  exact and_iff_left rfl

end Pod

namespace MemoryCluster

def carriers (m : MemoryCluster) (ns : String) (labels : Dict String) : List Pod :=
  m.pods.filter fun pod => pod.metadata.ns = some ns ∧ pod.Carries labels

theorem answer_listPods_ofLabels (m : MemoryCluster) (ns : String) {labels : Dict String}
    (h : Selector.Unambiguous labels) :
    m.answer (.listPods (some ns) ⟨some (Selector.ofLabels labels), none⟩) =
      barring (m.labelFailures.get? (Selector.ofLabels labels)) (m.carriers ns labels) := by
  have hfilter : ∀ pod : Pod,
      (isIn pod (some ns) && pod.meets ⟨some (Selector.ofLabels labels), none⟩) =
        decide (pod.metadata.ns = some ns ∧ pod.Carries labels) := by
    intro pod
    rw [Bool.eq_iff_iff, Bool.and_eq_true, Pod.meets_ofLabels_iff h, decide_eq_true_iff]
    simp [isIn]
  -- The other selector is not given, and so its failures do not count.
  have hfailure : (scripted m.labelFailures (some (Selector.ofLabels labels))).or
      (scripted m.fieldFailures none) = m.labelFailures.get? (Selector.ofLabels labels) :=
    Option.or_none
  unfold answer carriers
  simp only [hfilter, hfailure]

end MemoryCluster

namespace Explorer

/-- What a search by labels asks of a cluster held in memory, and what it makes of the answer. -/
structure FindsLabelled (m : MemoryCluster) (name ns : String) (labels : Dict String) : Prop where
  terms_eq : labels.isEmpty = false →
    Selector.terms (Selector.ofLabels labels) = labels.entries.map some
  events_eq : ((byLabels name ns labels).find.on m.answer).events =
    [.asked (.listPods (some ns) ⟨some (Selector.ofLabels labels), none⟩)]
  found : m.labelFailures.get? (Selector.ofLabels labels) = none →
    ∃ found, ((byLabels name ns labels).find.on m.answer).value = .ok found ∧
      List.Forall₂ (fun pod c => pod.ShownAs name c) (m.carriers ns labels) found
  failed : ∀ e, m.labelFailures.get? (Selector.ofLabels labels) = some e →
    ((byLabels name ns labels).find.on m.answer).value = .error (.transport
      ("failed to list pods matching " ++ Selector.ofLabels labels ++ " in " ++ ns) e)

/-- The pods of the namespace that carry the labels are found, each once and in list order. -/
theorem findsLabelled_byLabels (m : MemoryCluster) (name ns : String) {labels : Dict String}
    (h : Selector.Unambiguous labels) : FindsLabelled m name ns labels where
  terms_eq := Selector.terms_ofLabels h
  events_eq := by
    unfold byLabels
    rw [Survey.events_bind, Survey.events_ask, Survey.value_ask]
    split <;> rfl
  found := by
    intro hlisted
    refine ⟨(m.carriers ns labels).map (·.instanceOf name), ?_, ?_⟩
    · unfold byLabels
      rw [Survey.value_bind, Survey.value_ask, m.answer_listPods_ofLabels ns h, hlisted]
      rfl
    · rw [List.forall₂_map_right_iff, List.forall₂_same]
      intro pod _
      exact pod.shownAs_instanceOf name
  failed := by
    intro e hfailed
    unfold byLabels
    rw [Survey.value_bind, Survey.value_ask, m.answer_listPods_ofLabels ns h, hfailed]
    rfl

end Explorer

namespace Sample

def oddLabels : Dict String := .ofList [("", "a=b"), ("tier", "")]

def labelled (ns : String) (labels : List (String × String)) (spec : Option PodSpec) : Pod :=
  ⟨{ Metadata.blank with ns := some ns, labels := some (.ofList labels) }, (⟨spec, none⟩ : PodBody)⟩

def labelledHost : MemoryCluster where
  inventory := (∅ : Inventory).absorb ⟨.pods, [
    labelled "kube-system" [("tier", ""), ("", "a=b"), ("x", "y")]
      (some ⟨some "cp-1", [⟨"sidecar", none, some ["--v=1"], none, ∅⟩,
        ⟨"scheduler", none, some ["--v=2"], none, ∅⟩], ∅⟩),
    labelled "kube-system" [("tier", ""), ("", "a")] none,
    labelled "default" [("tier", ""), ("", "a=b")] none,
    labelled "kube-system" [("tier", ""), ("", "a=b")] none]⟩
  nodesFailure := none
  kindFailures := fun _ => none
  labelFailures := ∅
  fieldFailures := ∅
  podFailures := ∅
  commands := []

end Sample

theorem Explorer.findsLabelled_sample :
    Selector.Unambiguous Sample.oddLabels ∧
      FindsLabelled Sample.labelledHost "scheduler" "kube-system" Sample.oddLabels ∧
      (((byLabels "scheduler" "kube-system" Sample.oddLabels).find.on
          Sample.labelledHost.answer).value.toOption.map fun found =>
        found.map fun c => (c.node, c.args.entries)) = some [("cp-1", [("v", "2")]), ("", [])] :=
  ⟨by decide, findsLabelled_byLabels _ _ _ (by decide), by decide⟩

end ClusterSurvey
