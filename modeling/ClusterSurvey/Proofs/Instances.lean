import ClusterSurvey.Proofs.Chain

/-! What explorers and dispatchers can report. An instance bears the name of its component, and
one that does not run has no arguments; this is shown of each way of finding instances, and then
of any chain of them. -/
namespace ClusterSurvey

theorem firstFailure_map_ok {α ε : Type} (values : List α) :
    firstFailure (values.map fun a => (.ok a : Except ε α)) = .ok values := by
  induction values with
  | nil => rfl
  | cons v rest ih =>
    rw [List.map_cons, firstFailure, ih]
    rfl

theorem firstFailure_eq_ok_iff {α ε : Type} {results : List (Except ε α)} {values : List α} :
    firstFailure results = .ok values ↔ results = values.map .ok := by
  constructor
  · intro h
    induction results generalizing values with
    | nil =>
      cases h
      rfl
    | cons result rest ih =>
      cases result with
      | error e => cases h
      | ok a =>
        rw [firstFailure] at h
        cases hrest : firstFailure rest with
        | error e =>
          rw [hrest] at h
          cases h
        | ok tail =>
          rw [hrest] at h
          cases h
          rw [ih hrest]
          rfl
  · rintro rfl
    exact firstFailure_map_ok values

/-- What every instance of a component is like that an explorer reports. -/
structure Component.IsInstanceOf (c : Component) (name : String) : Prop where
  name_eq : c.name = name
  args_eq_empty : c.isRunning = false → c.args = ∅

namespace Component

theorem isInstanceOf_running (name node : String) (args : Dict String) :
    (running name node args).IsInstanceOf name := by
  refine ⟨rfl, ?_⟩
  intro h
  cases h

theorem isInstanceOf_absent (name node : String) : (absent name node).IsInstanceOf name :=
  ⟨rfl, fun _ => rfl⟩

end Component

namespace Explorer

def Finds (explorer : Explorer) (name : String) : Prop :=
  ∀ cluster found, (explorer.find.on cluster).value = .ok found →
    ∀ c ∈ found, c.IsInstanceOf name

theorem finds_byLabels (name ns : String) (labels : Dict String) :
    (byLabels name ns labels).Finds name := by
  intro cluster found hfound c hc
  unfold byLabels at hfound
  rw [Survey.value_bind, Survey.value_ask] at hfound
  split at hfound
  · cases hfound
    obtain ⟨pod, _, rfl⟩ := List.mem_map.mp hc
    exact Component.isInstanceOf_running _ _ _
  · cases hfound

theorem value_perNode (visit : String → Survey (Except SurveyError Component))
    (nodes : List String) (cluster : Cluster) :
    ((perNode visit nodes).on cluster).value =
      firstFailure (nodes.map fun node => ((visit node).on cluster).value) := by
  simp [perNode]

theorem finds_perNode {visit : String → Survey (Except SurveyError Component)} {name : String}
    (h : ∀ node cluster c, ((visit node).on cluster).value = .ok c → c.IsInstanceOf name)
    (strategy : String) (nodes : List String) :
    (Explorer.mk strategy (perNode visit nodes)).Finds name := by
  intro cluster found hfound c hc
  rw [value_perNode, firstFailure_eq_ok_iff] at hfound
  have hmem : Except.ok c ∈ nodes.map fun node => ((visit node).on cluster).value := by
    rw [hfound]
    exact List.mem_map_of_mem hc
  obtain ⟨node, _, hnode⟩ := List.mem_map.mp hmem
  exact h node cluster c hnode

theorem finds_byStaticPods (name ns : String) (nodes : List String) :
    (byStaticPods name ns nodes).Finds name := by
  apply finds_perNode
  intro node cluster c hc
  unfold staticPodOn at hc
  rw [Survey.value_bind, Survey.value_ask] at hc
  split at hc
  · cases hc
    exact Component.isInstanceOf_running _ _ _
  · cases hc
    exact Component.isInstanceOf_absent _ _
  · cases hc

theorem isInstanceOf_readProbe (name node stdout : String) :
    (readProbe name node stdout).IsInstanceOf name := by
  unfold readProbe
  split
  · exact Component.isInstanceOf_absent _ _
  · split
    · exact Component.isInstanceOf_running _ _ _
    · exact Component.isInstanceOf_absent _ _

theorem finds_byProcess (executor : NodeExecutor) (name : String) (nodes : List String) :
    (byProcess executor name nodes).Finds name := by
  apply finds_perNode
  intro node cluster c hc
  unfold probeNode at hc
  rw [Survey.value_bind, Survey.value_pure] at hc
  unfold judgeProbe at hc
  split at hc
  · cases hc
    exact isInstanceOf_readProbe _ _ _
  · split at hc
    · cases hc
      exact Component.isInstanceOf_absent _ _
    · cases hc

end Explorer

theorem ExplorerContext.Builtin.finds {ctx : ExplorerContext} {explorer : Explorer}
    (h : ctx.Builtin explorer) : explorer.Finds ctx.component.name := by
  cases h with
  | label => exact Explorer.finds_byLabels _ _ _
  | staticPod => exact Explorer.finds_byStaticPods _ _ _
  | bare => exact Explorer.finds_byProcess _ _ _

theorem Dispatcher.eq_nil_or_of_search_eq_ok {component : String} {candidates : List Explorer}
    {cluster : Cluster} {found : List Component}
    (h : ((search component candidates).on cluster).value = .ok found) :
    found = [] ∨ found.any (·.isRunning) = true ∧
      ∃ candidate ∈ candidates, (candidate.find.on cluster).value = .ok found := by
  induction candidates with
  | nil =>
    cases h
    exact .inl rfl
  | cons candidate rest ih =>
    rw [search, Survey.value_bind, Survey.value_bind] at h
    split at h
    · cases h
    · rename_i result hresult
      split at h
      · rename_i hrunning
        cases h
        exact .inr ⟨hrunning, candidate, List.mem_cons_self, hresult⟩
      · rcases ih h with hnil | ⟨hrunning, other, hother, hvalue⟩
        · exact .inl hnil
        · exact .inr ⟨hrunning, other, List.mem_cons_of_mem _ hother, hvalue⟩

end ClusterSurvey
