import ClusterSurvey.Proofs.WellFormed

/-! Gates that are asked for more than any gate can hold. A configuration is accepted whatever its
limit is, as long as it is not zero; the first call that needs a gate breaks off if the limit is
beyond the capacity of gates, and if it is not, no later call does (`Surveyor.starts_by_limit`). -/
namespace ClusterSurvey

theorem Gate.ofLimit?_eq_none_iff {limit : Nat} : ofLimit? limit = none ↔ capacity < limit := by
  unfold ofLimit?
  split <;> simp_all

namespace Collector

variable {c : Collector} {cluster : Cluster} {limit : Nat}

theorem capacity_lt_of_fetchMachines_eq_overflow {stage : ComponentStage}
    (h : ((c.fetchMachines stage).on cluster).value = .error (.overflow limit)) :
    Gate.capacity < c.concurrency.toNat := by
  unfold fetchMachines at h
  split at h
  · cases h
  · split at h
    · rename_i hgate
      exact Gate.ofLimit?_eq_none_iff.mp hgate
    · rw [Survey.value_bind, Survey.value_pure] at h
      generalize ((probeNodes _ _).on cluster).value = probed at h
      cases probed with
      | error e => cases h
      | ok machines => cases h

theorem capacity_lt_of_collect_eq_overflow {now : Timestamp}
    (h : ((c.collect now).on cluster).value = .error (.overflow limit)) :
    Gate.capacity < c.concurrency.toNat := by
  unfold collect at h
  rw [Survey.value_bind] at h
  cases hinventory : (fetchInventory.on cluster).value with
  | error e =>
    rw [hinventory] at h
    cases h
  | ok inventory =>
    rw [hinventory] at h
    dsimp only at h
    rw [Survey.value_bind] at h
    cases hstage : ((c.fetchComponents inventory).on cluster).value with
    | error e =>
      rw [hstage] at h
      cases h
    | ok stage =>
      rw [hstage] at h
      dsimp only at h
      rw [Survey.value_bind, Survey.value_pure] at h
      cases hmachines : ((c.fetchMachines stage).on cluster).value with
      | error abort =>
        rw [hmachines] at h
        cases h
        exact capacity_lt_of_fetchMachines_eq_overflow hmachines
      | ok snapshot =>
        rw [hmachines] at h
        cases h

end Collector

namespace Surveyor

variable {config : SurveyConfig} {registry : Registry} {s : Surveyor} {nodes : List Node}
  {cluster : Cluster}

theorem value_init_of_listed (h : s.isInitialized = false) (hvalid : s.config.validate = .ok ())
    (hlisted : cluster .listNodes = .ok nodes) :
    (s.init.on cluster).value =
      if s.config.concurrency.toNat ≤ Gate.capacity then (s.setUp nodes, none)
      else (s, some (.overflow s.config.concurrency.toNat)) := by
  rw [value_init_of_valid h hvalid, hlisted]
  by_cases hlimit : s.config.concurrency.toNat ≤ Gate.capacity
  · simp [Gate.ofLimit?, hlimit]
  · simp [Gate.ofLimit?, hlimit]

def Fits (s : Surveyor) : Prop :=
  s.isInitialized = true → s.config.concurrency.toNat ≤ Gate.capacity

theorem Fits.next {e : Episode} (h : e.before.Fits) : e.next.Fits := by
  cases e.ends with
  | failed _ _ next =>
    rw [next]
    exact h
  | published _ _ _ _ _ _ _ next =>
    rw [next]
    exact h
  | settled nodes call failure fresh valid _ next =>
    obtain ⟨⟨call', cluster⟩, before⟩ := e
    subst call
    rw [next]
    intro _
    exact ((failure?_init_of_valid fresh valid cluster).mp failure).2

theorem capacity_lt_of_overflow {e : Episode} {now : Timestamp} {limit : Nat}
    (h : e.before.Consistent config registry) (hcall : e.call = .sync now)
    (hfailure : e.failure? = some (.overflow limit)) :
    e.before.isInitialized = true ∧ Gate.capacity < e.before.config.concurrency.toNat := by
  obtain ⟨⟨call, cluster⟩, before⟩ := e
  subst hcall
  cases hready : before.collector with
  | none =>
    have hrefused := sync_of_collector_eq_none hready now
    change ((before.sync now).on cluster).value.2 = _ at hfailure
    rw [hrefused] at hfailure
    cases hfailure
  | some collector =>
    rw [failure?_sync hready] at hfailure
    obtain ⟨_, nodes, rfl⟩ := h.collector_eq collector hready
    refine ⟨by simp [isInitialized, hready], ?_⟩
    cases hcollected : (((prepare config registry nodes).collect now).on cluster).value with
    | ok snapshot =>
      rw [hcollected] at hfailure
      cases hfailure
    | error abort =>
      rw [hcollected] at hfailure
      cases hfailure
      have hlimit := Collector.capacity_lt_of_collect_eq_overflow hcollected
      rwa [← h.config_eq] at hlimit

structure StartsByLimit (config : SurveyConfig) (registry : Registry) (nodes : List Node)
    (first : Episode) : Prop where
  settled : config.concurrency.toNat ≤ Gate.capacity →
    first.failure? = none ∧ first.next = (new config registry).setUp nodes
  broken : Gate.capacity < config.concurrency.toNat →
    first.failure? = some (.overflow config.concurrency.toNat) ∧
      first.next = new config registry ∧ first.events = [.asked .listNodes]
  /-- Whatever is called afterwards, no survey is broken off. -/
  unbroken : ∀ visits, ∀ e ∈ first.next.history visits, ∀ now limit, e.call = .sync now →
    e.failure? ≠ some (.overflow limit)

/-- A configuration that is accepted can be set up wherever the nodes can be listed, provided that
its limit is within the capacity of gates; a limit beyond it breaks the call off. -/
theorem starts_by_limit (registry : Registry) (hvalid : config.validate = .ok ())
    (hlisted : cluster .listNodes = .ok nodes) :
    StartsByLimit config registry nodes ⟨⟨.init, cluster⟩, new config registry⟩ := by
  have hvalue : ((new config registry).init.on cluster).value =
      if config.concurrency.toNat ≤ Gate.capacity then ((new config registry).setUp nodes, none)
      else (new config registry, some (.overflow config.concurrency.toNat)) :=
    value_init_of_listed rfl hvalid hlisted
  have hfits : (Episode.mk ⟨.init, cluster⟩ (new config registry)).next.Fits :=
    Fits.next (e := ⟨⟨.init, cluster⟩, new config registry⟩) Bool.noConfusion
  have hconsistent : (Episode.mk ⟨.init, cluster⟩ (new config registry)).next.Consistent
      config registry :=
    Consistent.next (e := ⟨⟨.init, cluster⟩, new config registry⟩) consistent_new
  refine {
    settled := ?_
    broken := ?_
    unbroken := ?_ }
  · intro hlimit
    rw [if_pos hlimit] at hvalue
    exact ⟨congrArg (·.2) hvalue, congrArg (·.1) hvalue⟩
  · intro hlimit
    rw [if_neg (Nat.not_le.mpr hlimit)] at hvalue
    exact ⟨congrArg (·.2) hvalue, congrArg (·.1) hvalue,
      events_init_of_valid rfl hvalid cluster⟩
  · intro visits e he now limit hcall hfailure
    obtain ⟨hinitialized, hlimit⟩ :=
      capacity_lt_of_overflow (hconsistent.of_mem_history he) hcall hfailure
    have hwithin := kept_of_mem_history (fun _ => Fits.next) hfits he hinitialized
    exact Nat.not_le.mpr hlimit hwithin

end Surveyor

namespace Sample

def crowded : SurveyConfig := { config with concurrency := 0x2000000000000000 }

end Sample

theorem Surveyor.starts_by_limit_sample :
    Sample.crowded.validate = .ok () ∧ Sample.cluster .listNodes = .ok [Sample.node] ∧
      StartsByLimit Sample.crowded .builtin [Sample.node]
        ⟨⟨.init, Sample.cluster⟩, new Sample.crowded .builtin⟩ :=
  ⟨by decide +kernel, rfl, starts_by_limit .builtin (by decide +kernel) rfl⟩

/-- A configuration that is accepted can break off the first call, although the nodes are listed. -/
theorem Surveyor.breaks_off_although_valid :
    Sample.crowded.validate = .ok () ∧ Sample.cluster .listNodes = .ok [Sample.node] ∧
      (Episode.mk ⟨.init, Sample.cluster⟩ (new Sample.crowded .builtin)).failure? =
        some (.overflow 0x2000000000000000) := by
  have hvalid : Sample.crowded.validate = .ok () := by decide +kernel
  have hlisted : Sample.cluster .listNodes = .ok [Sample.node] := rfl
  have hvalue := value_init_of_listed (s := new Sample.crowded .builtin) rfl hvalid hlisted
  exact ⟨hvalid, hlisted, congrArg (·.2) hvalue⟩

end ClusterSurvey
