import ClusterSurvey.Proofs.WellFormed
import ClusterSurvey.Snapshot.Summary
import Mathlib.Logic.ExistsUnique

/-! What the short view of a snapshot says of each component: that it runs, that it is absent, or
that it could not be looked for. A survey never leaves more than one of these true. -/
namespace ClusterSurvey

inductive Standing where
  | running
  | absent
  | failed
  deriving DecidableEq, Repr

/-- Whether a summary says something of a component. -/
def Summary.Reports (s : Summary) (name : String) : Standing → Prop
  | .running => ∃ nodes, s.components.get? name = some nodes ∧ nodes ≠ []
  | .absent => name ∈ s.absentComponents
  | .failed => name ∈ s.componentErrors.keys

namespace Snapshot

variable {s : Snapshot} {name : String} {found : List Component}

theorem reports_running_iff (h : s.components.get? name = some found) :
    (Summary.ofSnapshot s).Reports name .running ↔ ∃ c ∈ found, c.isRunning = true := by
  have hget : (Summary.ofSnapshot s).components.get? name =
      some ((found.filter (·.isRunning)).map (·.node)) := by
    unfold Summary.ofSnapshot runningComponents
    rw [Dict.get?_mapValues, h]
    rfl
  unfold Summary.Reports
  rw [hget]
  simp

theorem reports_absent_iff (h : s.components.get? name = some found) :
    (Summary.ofSnapshot s).Reports name .absent ↔
      name ∉ s.componentErrors.keys ∧ ¬ ∃ c ∈ found, c.isRunning = true := by
  have hmem : name ∈ s.components.keys := Dict.mem_keys_iff.mpr (by simp [h])
  have herror : s.componentErrors.contains name = true ↔ name ∈ s.componentErrors.keys :=
    Dict.contains_eq_true_iff
  unfold Summary.Reports Summary.ofSnapshot isComponentAbsent
  rw [List.mem_filter, h, ← herror]
  simp [hmem]

theorem reports_failed_iff :
    (Summary.ofSnapshot s).Reports name .failed ↔ name ∈ s.componentErrors.keys :=
  Iff.rfl

/-- In a snapshot of the right shape a component has one standing. The list of one that failed is
empty, so it does not run, and it is not taken for absent because its error is recorded. -/
theorem WellFormed.existsUnique_standing {config : SurveyConfig} (hs : s.WellFormed config)
    (hname : name ∈ config.components.map (·.name)) :
    ∃! standing, (Summary.ofSnapshot s).Reports name standing := by
  rw [← hs.mem_keys_iff, Dict.mem_keys_iff, Option.isSome_iff_exists] at hname
  obtain ⟨found, hfound⟩ := hname
  have hrunning := reports_running_iff hfound
  have habsent := reports_absent_iff hfound
  have hfailed : (Summary.ofSnapshot s).Reports name .failed ↔ name ∈ s.componentErrors.keys :=
    reports_failed_iff
  by_cases herror : name ∈ s.componentErrors.keys
  · have hnil : found = [] := by
      rw [(hs.failed name herror).2] at hfound
      exact (Option.some.inj hfound).symm
    refine ⟨.failed, hfailed.mpr herror, ?_⟩
    intro standing hreports
    cases standing with
    | running => simp [hrunning, hnil] at hreports
    | absent => exact absurd herror (habsent.mp hreports).1
    | failed => rfl
  · by_cases hruns : ∃ c ∈ found, c.isRunning = true
    · refine ⟨.running, hrunning.mpr hruns, ?_⟩
      intro standing hreports
      cases standing with
      | running => rfl
      | absent => exact absurd hruns (habsent.mp hreports).2
      | failed => exact absurd (hfailed.mp hreports) herror
    · refine ⟨.absent, habsent.mpr ⟨herror, hruns⟩, ?_⟩
      intro standing hreports
      cases standing with
      | running => exact absurd (hrunning.mp hreports) hruns
      | absent => rfl
      | failed => exact absurd (hfailed.mp hreports) herror

end Snapshot

theorem Summary.nodup_absentComponents (s : Snapshot) :
    (ofSnapshot s).absentComponents.Nodup :=
  (Dict.nodup_keys s.components).filter _

/-- A summary that lists some components and no others, and each of them in one way. -/
structure Summary.Classifies (s : Summary) (names : List String) : Prop where
  mem_keys_iff : ∀ name, name ∈ s.components.keys ↔ name ∈ names
  mem_of_reports : ∀ name standing, s.Reports name standing → name ∈ names
  nodup_absent : s.absentComponents.Nodup
  existsUnique_standing : ∀ name ∈ names, ∃! standing, s.Reports name standing

theorem Snapshot.WellFormed.classifies {config : SurveyConfig} {s : Snapshot}
    (hs : s.WellFormed config) :
    (Summary.ofSnapshot s).Classifies (config.components.map (·.name)) := by
  have hkeys : ∀ name, name ∈ (Summary.ofSnapshot s).components.keys ↔
      name ∈ config.components.map (·.name) := by
    intro name
    rw [← hs.mem_keys_iff]
    unfold Summary.ofSnapshot
    rw [Dict.keys_mapValues]
  refine {
    mem_keys_iff := hkeys
    mem_of_reports := ?_
    nodup_absent := Summary.nodup_absentComponents s
    existsUnique_standing := fun _ hname => hs.existsUnique_standing hname }
  intro name standing hreports
  cases standing with
  | running =>
    obtain ⟨nodes, hnodes, _⟩ := hreports
    exact (hkeys name).mp (Dict.mem_keys_iff.mpr (by simp [hnodes]))
  | absent => exact (hs.mem_keys_iff name).mp (List.mem_filter.mp hreports).1
  | failed => exact (hs.mem_keys_iff name).mp (hs.failed name hreports).1

/-- The summary of a survey that succeeded says one thing of each configured component: it runs,
or it is absent, or it could not be looked for. -/
theorem classifies_of_sync {config : SurveyConfig} {visits : List Visit} {e : Episode}
    {now : Timestamp} (he : e ∈ (Surveyor.new config .builtin).history visits)
    (hcall : e.call = .sync now) (hok : e.failure? = none) :
    ∃ snapshot, e.next.snapshot? = some snapshot ∧
      (Summary.ofSnapshot snapshot).Classifies (config.components.map (·.name)) := by
  obtain ⟨nodes, snapshot, hvalid, hcollect, hpublished, _⟩ := e.exists_collect_of_sync he hcall hok
  exact ⟨snapshot, hpublished, (Surveyor.wellFormed_of_collect hvalid hcollect).classifies⟩

theorem classifies_sample : Sample.surveyed.failure? = none ∧
    ∃ snapshot, Sample.surveyed.next.snapshot? = some snapshot ∧
      (Summary.ofSnapshot snapshot).Classifies (Sample.config.components.map (·.name)) :=
  ⟨Sample.failure?_surveyed,
    classifies_of_sync Sample.surveyed_mem_history rfl Sample.failure?_surveyed⟩

end ClusterSurvey
