import ClusterSurvey.Proofs.ComponentStage

/-! A survey from end to end. One that succeeds has gone through all three stages, its trace is
theirs in order, and the last stage only adds to what the first two have found. -/
namespace ClusterSurvey.Collector

variable {c : Collector} {cluster : Cluster} {now : Timestamp}

def dispatched (c : Collector) (cluster : Cluster) :
    List (String × Except SurveyError (List Component)) :=
  c.dispatchers.map fun d => (d.component, (d.find.on cluster).value)

theorem map_fst_dispatched (c : Collector) (cluster : Cluster) :
    (c.dispatched cluster).map (·.1) = c.dispatchers.map (·.component) := by
  unfold dispatched
  rw [List.map_map]
  rfl

theorem mem_dispatched_iff {name : String} {result : Except SurveyError (List Component)} :
    (name, result) ∈ c.dispatched cluster ↔
      ∃ d ∈ c.dispatchers, d.component = name ∧ (d.find.on cluster).value = result := by
  unfold dispatched
  simp [List.mem_map]

theorem value_fetchComponents (c : Collector) (inventory : Inventory) (cluster : Cluster) :
    ((c.fetchComponents inventory).on cluster).value =
      mergeResults c.tolerateFailures inventory (c.dispatched cluster) := by
  unfold fetchComponents dispatchAll dispatched
  rw [Survey.value_bind, Survey.value_pure, Survey.value_forEach]
  rfl

theorem events_fetchComponents (c : Collector) (inventory : Inventory) (cluster : Cluster) :
    ((c.fetchComponents inventory).on cluster).events =
      c.dispatchers.flatMap fun d => (d.find.on cluster).events := by
  unfold fetchComponents dispatchAll
  rw [Survey.events_bind, Survey.events_pure, List.append_nil, Survey.events_forEach]
  simp

theorem fetchMachines_eq_ok {stage : ComponentStage} {snapshot : Snapshot}
    (h : ((c.fetchMachines stage).on cluster).value = .ok snapshot) :
    snapshot.inventory = stage.inventory ∧ snapshot.components = stage.components ∧
      snapshot.componentErrors = stage.componentErrors := by
  unfold fetchMachines at h
  split at h
  · cases h
    exact ⟨rfl, rfl, rfl⟩
  · split at h
    · cases h
    · rw [Survey.value_bind, Survey.value_pure] at h
      generalize ((probeNodes _ _).on cluster).value = probed at h
      cases probed with
      | error e => cases h
      | ok machines =>
        cases h
        exact ⟨rfl, rfl, rfl⟩

theorem collect_eq_ok {snapshot : Snapshot}
    (h : ((c.collect now).on cluster).value = .ok snapshot) :
    ∃ inventory stage, (fetchInventory.on cluster).value = .ok inventory ∧
      mergeResults c.tolerateFailures inventory (c.dispatched cluster) = .ok stage ∧
        snapshot.inventory = inventory ∧ snapshot.components = stage.components ∧
          snapshot.componentErrors = stage.componentErrors ∧
            ((c.collect now).on cluster).events =
              (fetchInventory.on cluster).events ++
                (c.dispatchers.flatMap (fun d => (d.find.on cluster).events) ++
                  ((c.fetchMachines stage).on cluster).events) := by
  unfold collect at h ⊢
  rw [Survey.value_bind] at h
  rw [Survey.events_bind]
  cases hinventory : (fetchInventory.on cluster).value with
  | error e =>
    rw [hinventory] at h
    cases h
  | ok inventory =>
    rw [hinventory] at h
    dsimp only at h ⊢
    rw [Survey.value_bind, value_fetchComponents] at h
    rw [Survey.events_bind, value_fetchComponents, events_fetchComponents]
    cases hstage : mergeResults c.tolerateFailures inventory (c.dispatched cluster) with
    | error e =>
      rw [hstage] at h
      cases h
    | ok stage =>
      rw [hstage] at h
      dsimp only at h ⊢
      rw [Survey.value_bind, Survey.value_pure] at h
      rw [Survey.events_bind, Survey.events_pure, List.append_nil]
      cases hmachines : ((c.fetchMachines stage).on cluster).value with
      | error abort =>
        rw [hmachines] at h
        cases h
      | ok complete =>
        rw [hmachines] at h
        cases h
        obtain ⟨hinv, hcomponents, herrors⟩ := fetchMachines_eq_ok hmachines
        rw [inventory_of_mergeResults hstage] at hinv
        exact ⟨inventory, stage, rfl, hstage, hinv, hcomponents, herrors, rfl⟩

end ClusterSurvey.Collector
