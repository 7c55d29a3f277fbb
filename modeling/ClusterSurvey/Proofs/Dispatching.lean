import ClusterSurvey.Explorer.Dispatch

/-! How a dispatcher goes through its candidates. It consults them in order up to the first one that
fails or finds a running instance, whose outcome is its own, and none of those behind that one
(`Dispatcher.dispatches`). -/
namespace ClusterSurvey

namespace Explorer

variable {cluster : Cluster} {explorer : Explorer}

def settles (cluster : Cluster) (explorer : Explorer) : Bool :=
  match (explorer.find.on cluster).value with
  | .error _ => true
  | .ok found => found.any (·.isRunning)

theorem settles_of_error {e : SurveyError} (h : (explorer.find.on cluster).value = .error e) :
    explorer.settles cluster = true := by
  unfold settles
  rw [h]

theorem settles_of_ok {found : List Component} (h : (explorer.find.on cluster).value = .ok found) :
    explorer.settles cluster = found.any (·.isRunning) := by
  unfold settles
  rw [h]

end Explorer

namespace Dispatcher

variable {component : String} {candidate : Explorer} {before rest : List Explorer}
  {cluster : Cluster}

def consultations (component : String) (cluster : Cluster) (explorers : List Explorer) :
    List Event :=
  explorers.flatMap fun explorer =>
    .consulted component explorer.strategy :: (explorer.find.on cluster).events

theorem search_cons_of_settles (h : candidate.settles cluster = true) (rest : List Explorer) :
    (search component (candidate :: rest)).on cluster =
      ⟨(candidate.find.on cluster).value.mapError (.explorer candidate.strategy),
        consultations component cluster [candidate]⟩ := by
  apply Observed.ext
  · rw [search, Survey.value_bind, Survey.value_bind]
    cases hvalue : (candidate.find.on cluster).value with
    | error e => rfl
    | ok found =>
      have hmap : (Except.ok found).mapError (SurveyError.explorer candidate.strategy) =
          .ok found := rfl
      rw [Explorer.settles_of_ok hvalue] at h
      simp [h, hmap]
  · rw [search, Survey.events_bind, Survey.events_note, Survey.events_bind]
    cases hvalue : (candidate.find.on cluster).value with
    | error e => simp [consultations]
    | ok found =>
      rw [Explorer.settles_of_ok hvalue] at h
      simp [consultations, h]

theorem search_cons_of_not_settles (h : candidate.settles cluster = false) (rest : List Explorer) :
    (search component (candidate :: rest)).on cluster =
      ⟨((search component rest).on cluster).value,
        consultations component cluster [candidate] ++
          ((search component rest).on cluster).events⟩ := by
  cases hvalue : (candidate.find.on cluster).value with
  | error e =>
    rw [Explorer.settles_of_error hvalue] at h
    cases h
  | ok found =>
    rw [Explorer.settles_of_ok hvalue] at h
    apply Observed.ext
    · rw [search, Survey.value_bind, Survey.value_bind, hvalue]
      simp [h]
    · rw [search, Survey.events_bind, Survey.events_note, Survey.events_bind, hvalue]
      simp [consultations, h]

theorem search_append_of_not_settles (h : ∀ b ∈ before, b.settles cluster = false)
    (rest : List Explorer) :
    (search component (before ++ rest)).on cluster =
      ⟨((search component rest).on cluster).value,
        consultations component cluster before ++
          ((search component rest).on cluster).events⟩ := by
  induction before with
  | nil => rfl
  | cons b before ih =>
    obtain ⟨hb, hbefore⟩ := List.forall_mem_cons.mp h
    rw [List.cons_append, search_cons_of_not_settles hb, ih hbefore]
    simp [consultations]

structure SettledAt (d : Dispatcher) (cluster : Cluster) (i : Nat) (candidate : Explorer) :
    Prop where
  getElem?_eq : d.candidates[i]? = some candidate
  settles : candidate.settles cluster = true
  before : ∀ b ∈ d.candidates.take i, b.settles cluster = false

theorem exists_settledAt {d : Dispatcher} (h : ∃ c ∈ d.candidates, c.settles cluster = true) :
    ∃ i candidate, d.SettledAt cluster i candidate := by
  have hlt : d.candidates.findIdx (·.settles cluster) < d.candidates.length :=
    List.findIdx_lt_length_of_exists h
  refine ⟨_, _, List.getElem?_eq_getElem hlt, List.findIdx_getElem, ?_⟩
  intro b hb
  obtain ⟨j, hj, rfl⟩ := List.mem_take_iff_getElem.mp hb
  exact List.not_of_lt_findIdx (Nat.lt_of_lt_of_le hj (Nat.min_le_left _ _))

theorem SettledAt.find_eq {d : Dispatcher} {i : Nat} (h : d.SettledAt cluster i candidate)
    (rest : List Explorer) :
    (find ⟨d.component, d.candidates.take (i + 1) ++ rest⟩).on cluster =
      ⟨(candidate.find.on cluster).value.mapError (.explorer candidate.strategy),
        consultations d.component cluster (d.candidates.take (i + 1))⟩ := by
  have htake : d.candidates.take (i + 1) = d.candidates.take i ++ [candidate] := by
    rw [List.take_add_one, h.getElem?_eq]
    rfl
  unfold find
  rw [htake, List.append_assoc, search_append_of_not_settles h.before, List.singleton_append,
    search_cons_of_settles h.settles]
  simp [consultations]

/-- What a dispatcher comes to in a cluster, and whom it consults. -/
structure Dispatches (d : Dispatcher) (cluster : Cluster) : Prop where
  exhausted : (∀ c ∈ d.candidates, c.settles cluster = false) →
    d.find.on cluster = ⟨.ok [], consultations d.component cluster d.candidates⟩
  settled : (∃ c ∈ d.candidates, c.settles cluster = true) →
    ∃ i candidate, d.SettledAt cluster i candidate
  found : ∀ i candidate found, d.SettledAt cluster i candidate →
    (candidate.find.on cluster).value = .ok found →
      d.find.on cluster =
        ⟨.ok found, consultations d.component cluster (d.candidates.take (i + 1))⟩
  failed : ∀ i candidate e, d.SettledAt cluster i candidate →
    (candidate.find.on cluster).value = .error e →
      d.find.on cluster =
        ⟨.error (.explorer candidate.strategy e),
          consultations d.component cluster (d.candidates.take (i + 1))⟩
  heedless : ∀ i candidate rest, d.SettledAt cluster i candidate →
    (find ⟨d.component, d.candidates.take (i + 1) ++ rest⟩).on cluster = d.find.on cluster

/-- The first candidate that fails or finds a running instance decides, and is the last that is
consulted. -/
theorem dispatches (d : Dispatcher) (cluster : Cluster) : d.Dispatches cluster := by
  have hfind : ∀ {i candidate}, d.SettledAt cluster i candidate → d.find.on cluster =
      ⟨(candidate.find.on cluster).value.mapError (.explorer candidate.strategy),
        consultations d.component cluster (d.candidates.take (i + 1))⟩ := by
    intro i candidate h
    have h := h.find_eq (d.candidates.drop (i + 1))
    rwa [List.take_append_drop] at h
  refine {
    exhausted := ?_
    settled := exists_settledAt
    found := ?_
    failed := ?_
    heedless := ?_ }
  · intro h
    unfold find
    rw [← List.append_nil d.candidates, search_append_of_not_settles h []]
    simp [search]
  · intro i candidate found h hvalue
    rw [hfind h, hvalue]
    rfl
  · intro i candidate e h hvalue
    rw [hfind h, hvalue]
    rfl
  · intro i candidate rest h
    rw [h.find_eq rest, hfind h]

end Dispatcher

end ClusterSurvey
