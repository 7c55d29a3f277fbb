import ClusterSurvey.Proofs.Stages

/-! The two ways to treat components that cannot be looked for. What ends a strict stage is what a
tolerant one records, and a stage that has nothing to record is the same under both. -/
namespace ClusterSurvey

namespace Collector

variable {c : Collector} {cluster : Cluster} {inventory : Inventory} {tolerant : ComponentStage}

def stageIf (tolerate : Bool) (c : Collector) (inventory : Inventory) (cluster : Cluster) :
    Except SurveyError ComponentStage :=
  (({ c with tolerateFailures := tolerate }.fetchComponents inventory).on cluster).value

theorem stageIf_eq (tolerate : Bool) (c : Collector) (inventory : Inventory) (cluster : Cluster) :
    stageIf tolerate c inventory cluster =
      mergeResults tolerate inventory (c.dispatched cluster) := by
  unfold stageIf
  rw [value_fetchComponents]
  rfl

structure Records (c : Collector) (cluster : Cluster) (inventory : Inventory)
    (failures : List (String × SurveyError)) (stage : ComponentStage) : Prop where
  sorted : failures.Pairwise fun f g => f.1 < g.1
  mem_failures_iff : ∀ f, f ∈ failures ↔
    ∃ d ∈ c.dispatchers, d.component = f.1 ∧ (d.find.on cluster).value = .error f.2
  inventory_eq : stage.inventory = inventory
  componentErrors_eq :
    stage.componentErrors.entries = failures.map fun f => (f.1, f.2.message)
  get?_failed : ∀ f ∈ failures, stage.components.get? f.1 = some []
  get?_found : ∀ d ∈ c.dispatchers, ∀ found, (d.find.on cluster).value = .ok found →
    stage.components.get? d.component = some found
  mem_keys_iff : ∀ name, name ∈ stage.components.keys ↔ name ∈ c.dispatchers.map (·.component)

theorem entries_componentErrors (hn : ((c.dispatched cluster).map (·.1)).Nodup)
    (h : mergeResults true inventory (c.dispatched cluster) = .ok tolerant) :
    tolerant.componentErrors.entries =
      (failuresAmong (c.dispatched cluster)).map fun f => (f.1, f.2.message) := by
  obtain ⟨_, rfl⟩ := mergeResults_eq_ok_iff.mp h
  apply Dict.entries_ofList
  rw [List.pairwise_map]
  exact sorted_failuresAmong hn

theorem records_of_mergeResults (hn : ((c.dispatched cluster).map (·.1)).Nodup)
    (h : mergeResults true inventory (c.dispatched cluster) = .ok tolerant) :
    c.Records cluster inventory (failuresAmong (c.dispatched cluster)) tolerant where
  sorted := sorted_failuresAmong hn
  mem_failures_iff := by
    intro f
    rw [mem_failuresAmong, mem_dispatched_iff]
  inventory_eq := inventory_of_mergeResults h
  componentErrors_eq := entries_componentErrors hn h
  get?_failed := by
    intro f hf
    rw [get?_components_of_mergeResults hn h]
    exact .inr ⟨rfl, f.2, mem_failuresAmong.mp hf⟩
  get?_found := by
    intro d hd found hfound
    rw [get?_components_of_mergeResults hn h]
    exact .inl (mem_dispatched_iff.mpr ⟨d, hd, rfl, hfound⟩)
  mem_keys_iff := by
    intro name
    rw [mem_keys_components_of_mergeResults hn h, map_fst_dispatched]

theorem componentErrors_eq_empty_iff (hn : ((c.dispatched cluster).map (·.1)).Nodup)
    (h : mergeResults true inventory (c.dispatched cluster) = .ok tolerant) :
    tolerant.componentErrors = ∅ ↔ failuresAmong (c.dispatched cluster) = [] := by
  rw [← Dict.isEmpty_iff, Dict.isEmpty, entries_componentErrors hn h, List.isEmpty_iff,
    List.map_eq_nil_iff]

/-- How a strict stage goes with a tolerant one over the same dispatchers. -/
structure PoliciesAgree (strict : Except SurveyError ComponentStage) (tolerant : ComponentStage)
    (failures : List (String × SurveyError)) : Prop where
  ok_iff : (∃ stage, strict = .ok stage) ↔ tolerant.componentErrors = ∅
  eq_ok : tolerant.componentErrors = ∅ → strict = .ok tolerant
  eq_error : tolerant.componentErrors ≠ ∅ → strict = .error (.components failures)

theorem policiesAgree_of_mergeResults (hn : ((c.dispatched cluster).map (·.1)).Nodup)
    (h : mergeResults true inventory (c.dispatched cluster) = .ok tolerant) :
    PoliciesAgree (mergeResults false inventory (c.dispatched cluster)) tolerant
      (failuresAmong (c.dispatched cluster)) := by
  have heq_ok : tolerant.componentErrors = ∅ →
      mergeResults false inventory (c.dispatched cluster) = .ok tolerant := by
    intro hempty
    obtain ⟨_, hstage⟩ := mergeResults_eq_ok_iff.mp h
    exact mergeResults_eq_ok_iff.mpr
      ⟨fun _ => (componentErrors_eq_empty_iff hn h).mp hempty, hstage⟩
  refine ⟨⟨?_, fun hempty => ⟨tolerant, heq_ok hempty⟩⟩, heq_ok, ?_⟩
  · rintro ⟨stage, hstage⟩
    obtain ⟨hnone, _⟩ := mergeResults_eq_ok_iff.mp hstage
    exact (componentErrors_eq_empty_iff hn h).mpr (hnone rfl)
  · intro hfailed
    rw [Ne, componentErrors_eq_empty_iff hn h] at hfailed
    exact mergeResults_eq_error_iff.mpr ⟨rfl, hfailed, rfl⟩

/-- A tolerant stage always succeeds. It records the failures that a strict one ends with, in the
order of their names, and without failures both are the same. -/
theorem policies_agree (c : Collector) (hn : (c.dispatchers.map (·.component)).Nodup)
    (inventory : Inventory) (cluster : Cluster) :
    ∃ tolerant failures, stageIf true c inventory cluster = .ok tolerant ∧
      PoliciesAgree (stageIf false c inventory cluster) tolerant failures ∧
      c.Records cluster inventory failures tolerant := by
  rw [← map_fst_dispatched c cluster] at hn
  rw [stageIf_eq, stageIf_eq]
  cases h : mergeResults true inventory (c.dispatched cluster) with
  | error e =>
    obtain ⟨htolerate, _⟩ := mergeResults_eq_error_iff.mp h
    cases htolerate
  | ok tolerant =>
    exact ⟨tolerant, _, rfl, policiesAgree_of_mergeResults hn h, records_of_mergeResults hn h⟩

end Collector

namespace Sample

def collector : Collector where
  executor := none
  dispatchers :=
    [⟨"kubelet", [.scripted 0 "bare" (.error (.agentNotFound "cp-1" "kube-system" "agent"))]⟩,
      ⟨"kube-proxy", [.scripted 1 "label" (.ok [.running "kube-proxy" "cp-1" ∅])]⟩,
      ⟨"etcd", [.scripted 2 "label" (.ok []), .scripted 3 "staticpod" (.error .gateClosed)]⟩]
  concurrency := 5
  tolerateFailures := false

def silent : Cluster := fun _ => .error (.stream "reset")

end Sample

theorem Collector.policies_agree_sample :
    (Sample.collector.dispatchers.map (·.component)).Nodup ∧
      ∃ tolerant failures, stageIf true Sample.collector ∅ Sample.silent = .ok tolerant ∧
        PoliciesAgree (stageIf false Sample.collector ∅ Sample.silent) tolerant failures ∧
        Sample.collector.Records Sample.silent ∅ failures tolerant :=
  ⟨by decide, policies_agree Sample.collector (by decide) ∅ Sample.silent⟩

end ClusterSurvey
