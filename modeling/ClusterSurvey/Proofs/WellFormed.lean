import ClusterSurvey.Proofs.Instances
import ClusterSurvey.Proofs.Lifecycle
import ClusterSurvey.Proofs.Stages
import ClusterSurvey.Proofs.Validation

/-! The shape of every snapshot that a survey publishes: one entry for each configured component,
with instances of that component only, and none of them unless something runs. -/
namespace ClusterSurvey

/-- How a snapshot of a configuration has to look. -/
structure Snapshot.WellFormed (config : SurveyConfig) (s : Snapshot) : Prop where
  mem_keys_iff : ∀ name, name ∈ s.components.keys ↔ name ∈ config.components.map (·.name)
  size_eq : s.components.size = config.components.length
  name_eq : ∀ name found, s.components.get? name = some found → ∀ c ∈ found, c.name = name
  /-- A list without a running instance is empty. -/
  runs : ∀ name found, s.components.get? name = some found →
    found = [] ∨ ∃ c ∈ found, c.isRunning = true
  args_eq_empty : ∀ name found, s.components.get? name = some found →
    ∀ c ∈ found, c.isRunning = false → c.args = ∅
  /-- What could not be looked for is listed, with no instance. -/
  failed : ∀ name ∈ s.componentErrors.keys,
    name ∈ s.components.keys ∧ s.components.get? name = some []
  strict : config.tolerateFailures = false → s.componentErrors = ∅

namespace Surveyor

variable {config : SurveyConfig} {nodes : List Node} {cluster : Cluster} {now : Timestamp}

theorem map_fst_dispatched_prepare (registry : Registry) :
    ((prepare config registry nodes).dispatched cluster).map (·.1) =
      config.components.map (·.name) := by
  rw [Collector.map_fst_dispatched]
  unfold prepare
  rw [List.map_map]
  rfl

theorem nodup_dispatched_prepare (registry : Registry) (hvalid : config.validate = .ok ()) :
    (((prepare config registry nodes).dispatched cluster).map (·.1)).Nodup := by
  obtain ⟨_, _, _, hnodup⟩ := (SurveyConfig.validate_eq_ok_iff config).mp hvalid
  rw [map_fst_dispatched_prepare]
  exact hnodup

theorem found_of_mem_dispatched {name : String} {found : List Component}
    (h : (name, .ok found) ∈ (prepare config .builtin nodes).dispatched cluster) :
    (∀ c ∈ found, c.IsInstanceOf name) ∧ (found = [] ∨ ∃ c ∈ found, c.isRunning = true) := by
  obtain ⟨d, hd, heq⟩ := List.mem_map.mp h
  obtain ⟨component, _, rfl⟩ := List.mem_map.mp hd
  obtain ⟨rfl, hvalue⟩ := Prod.mk.inj heq
  rcases Dispatcher.eq_nil_or_of_search_eq_ok hvalue with rfl | ⟨hrunning, candidate, hmem, hfound⟩
  · simp
  · refine ⟨?_, .inr (by simpa using hrunning)⟩
    exact (Registry.mem_chain_builtin_iff.mp hmem).finds cluster found hfound

theorem wellFormed_of_collect {snapshot : Snapshot} (hvalid : config.validate = .ok ())
    (h : (((prepare config .builtin nodes).collect now).on cluster).value = .ok snapshot) :
    snapshot.WellFormed config := by
  obtain ⟨inventory, stage, _, hstage, _, hcomponents, herrors, _⟩ := Collector.collect_eq_ok h
  obtain ⟨_, _, _, hnodup⟩ := (SurveyConfig.validate_eq_ok_iff config).mp hvalid
  have hn : (((prepare config .builtin nodes).dispatched cluster).map (·.1)).Nodup :=
    nodup_dispatched_prepare .builtin hvalid
  have hkeys : ∀ name, name ∈ snapshot.components.keys ↔
      name ∈ config.components.map (·.name) := by
    intro name
    rw [hcomponents, Collector.mem_keys_components_of_mergeResults hn hstage,
      map_fst_dispatched_prepare]
  have hfound : ∀ name found, snapshot.components.get? name = some found →
      (∀ c ∈ found, c.IsInstanceOf name) ∧ (found = [] ∨ ∃ c ∈ found, c.isRunning = true) := by
    intro name found hget
    rw [hcomponents, Collector.get?_components_of_mergeResults hn hstage] at hget
    rcases hget with hok | ⟨rfl, _⟩
    · exact found_of_mem_dispatched hok
    · simp
  refine {
    mem_keys_iff := hkeys
    size_eq := ?_
    name_eq := fun name found hget c hc => ((hfound name found hget).1 c hc).name_eq
    runs := fun name found hget => (hfound name found hget).2
    args_eq_empty := fun name found hget c hc => ((hfound name found hget).1 c hc).args_eq_empty
    failed := ?_
    strict := ?_ }
  · have hperm : snapshot.components.keys.Perm (config.components.map (·.name)) :=
      (List.perm_ext_iff_of_nodup (Dict.nodup_keys _) hnodup).mpr hkeys
    rw [← Dict.length_keys, hperm.length_eq, List.length_map]
  · intro name hname
    rw [Dict.mem_keys_iff, Option.isSome_iff_exists] at hname
    obtain ⟨text, htext⟩ := hname
    rw [herrors, Collector.get?_componentErrors_of_mergeResults hn hstage] at htext
    obtain ⟨e, he, _⟩ := htext
    have hempty : snapshot.components.get? name = some [] := by
      rw [hcomponents, Collector.get?_components_of_mergeResults hn hstage]
      exact .inr ⟨rfl, e, he⟩
    exact ⟨Dict.mem_keys_iff.mpr (by simp [hempty]), hempty⟩
  · intro htolerate
    obtain ⟨hnone, rfl⟩ := Collector.mergeResults_eq_ok_iff.mp hstage
    rw [herrors]
    dsimp only
    rw [hnone htolerate]
    rfl

end Surveyor

/-- Whatever was called before, and whatever has become of the cluster since: a survey that does
not fail publishes a snapshot of the right shape. -/
theorem wellFormed_of_sync {config : SurveyConfig} {visits : List Visit} {e : Episode}
    {now : Timestamp} (he : e ∈ (Surveyor.new config .builtin).history visits)
    (hcall : e.call = .sync now) (hok : e.failure? = none) :
    ∃ snapshot, e.next.snapshot? = some snapshot ∧ snapshot.WellFormed config := by
  obtain ⟨nodes, snapshot, hvalid, hcollect, hpublished, _⟩ := e.exists_collect_of_sync he hcall hok
  exact ⟨snapshot, hpublished, Surveyor.wellFormed_of_collect hvalid hcollect⟩

/-! A small cluster in which one component runs as pods and one as a process, one is absent, and
one cannot be looked for. -/

namespace Sample

def config : SurveyConfig where
  bridge := .standard
  components :=
    [⟨"kube-dns", "kube-system", .label (.ofList [("k8s-app", "kube-dns")])⟩,
      ⟨"kube-proxy", "kube-system", .label (.ofList [("k8s-app", "kube-proxy")])⟩,
      ⟨"etcd", "kube-system", .staticPod ["cp-1", "cp-2"] false⟩,
      ⟨"kubelet", "kube-system", .bare ["cp-1", "cp-2"] false⟩]
  tolerateFailures := true
  concurrency := 5

def node : Node := ⟨{ Metadata.blank with name := some "cp-1" }, (⟨none, none, ∅⟩ : Outline .nodes)⟩

def pod : Pod :=
  ⟨{ Metadata.blank with name := some "agent" }, (⟨some ⟨some "cp-1", [], ∅⟩, none⟩ : PodBody)⟩

def cluster : Cluster
  | .listNodes => .ok [node]
  | .listObjects .nodes => .ok [node]
  | .listObjects _ => .ok []
  | .listPods _ query =>
    if query.labels = some "k8s-app=kube-proxy" then .error (.stream "reset") else .ok [pod]
  | .getPod _ _ => .ok none
  | .exec _ _ _ => .ok ⟨"7\n--v=2\n", ""⟩

def settled : Episode := ⟨⟨.init, cluster⟩, .new config .builtin⟩

def surveyed : Episode := ⟨⟨.sync ⟨0, 0⟩, cluster⟩, settled.next⟩

theorem surveyed_mem_history : surveyed ∈ (Surveyor.new config .builtin).history
    [settled.toVisit, surveyed.toVisit] :=
  List.mem_cons_of_mem _ List.mem_cons_self

theorem failure?_surveyed : surveyed.failure? = none := by
  rw [← Option.isNone_iff_eq_none]
  decide +kernel

end Sample

theorem wellFormed_sample : Sample.surveyed.failure? = none ∧
    ∃ snapshot, Sample.surveyed.next.snapshot? = some snapshot ∧
      snapshot.WellFormed Sample.config :=
  ⟨Sample.failure?_surveyed,
    wellFormed_of_sync Sample.surveyed_mem_history rfl Sample.failure?_surveyed⟩

end ClusterSurvey
