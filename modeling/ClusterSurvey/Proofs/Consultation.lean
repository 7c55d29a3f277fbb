import ClusterSurvey.Proofs.Footprint
import ClusterSurvey.Proofs.WellFormed

/-! Which components are looked for. A survey consults an explorer for every component that some
explorer applies to. A component out of reach is tracked and reported as absent all the same,
although nobody has looked for it. -/
namespace ClusterSurvey

def Event.consults (name : String) : Event → Bool
  | .consulted component _ => component = name
  | _ => false

def Event.WithinReach (config : SurveyConfig) (event : Event) : Prop :=
  ∀ name, event.consults name = true →
    ∃ c ∈ config.components, c.name = name ∧ ¬ c.OutOfReach config.bridge

theorem Event.withinReach_asked {config : SurveyConfig} (call : Call) :
    (Event.asked call).WithinReach config := by
  intro name h
  cases h

theorem Event.withinReach_passed {config : SurveyConfig} (stage : Stage) (step : GateStep) :
    (Event.passed stage step).WithinReach config := by
  intro name h
  cases h

theorem Dispatcher.any_consults {d : Dispatcher} (h : d.candidates ≠ []) (cluster : Cluster) :
    (d.find.on cluster).events.any (Event.consults d.component) = true := by
  unfold find
  cases hcandidates : d.candidates with
  | nil => exact absurd hcandidates h
  | cons candidate rest =>
    rw [search, Survey.events_bind, Survey.events_note, List.any_append]
    simp [Event.consults]

theorem Dispatcher.find_of_candidates_eq_nil {d : Dispatcher} (h : d.candidates = []) :
    d.find = pure (.ok []) := by
  unfold find
  rw [h]
  rfl

namespace Surveyor

variable {config : SurveyConfig} {nodes : List Node} {cluster : Cluster} {now : Timestamp}
  {c : ComponentConfig}

theorem candidates_eq_nil_iff (hvalid : config.validate = .ok ()) (hc : c ∈ config.components) :
    (dispatcher config .builtin nodes c).candidates = [] ↔ c.OutOfReach config.bridge := by
  obtain ⟨_, _, hchecks, _⟩ := (SurveyConfig.validate_eq_ok_iff config).mp hvalid
  exact Registry.chain_eq_nil_iff (hchecks c hc) _

theorem only_withinReach_collect (hvalid : config.validate = .ok ()) :
    ((prepare config .builtin nodes).collect now).Only (Event.WithinReach config) := by
  apply only_collect_prepare
  · exact fun _ => Event.withinReach_asked _
  · exact fun _ _ => Event.withinReach_asked _
  · exact fun _ _ => Event.withinReach_asked _
  · exact fun _ _ => Event.withinReach_passed _ _
  · intro c hc candidate hcandidate name hname
    refine ⟨c, hc, of_decide_eq_true hname, ?_⟩
    intro hreach
    rw [(candidates_eq_nil_iff hvalid hc).mpr hreach] at hcandidate
    cases hcandidate
  · exact fun _ _ _ _ => Event.withinReach_asked _
  · exact fun _ _ _ _ _ _ => Event.withinReach_asked _

theorem any_consults_iff_of_collect {snapshot : Snapshot} (hvalid : config.validate = .ok ())
    (h : (((prepare config .builtin nodes).collect now).on cluster).value = .ok snapshot)
    (hc : c ∈ config.components) :
    (((prepare config .builtin nodes).collect now).on cluster).events.any
        (Event.consults c.name) = true ↔ ¬ c.OutOfReach config.bridge := by
  constructor
  · intro hany
    obtain ⟨event, hevent, hconsults⟩ := List.any_eq_true.mp hany
    obtain ⟨c', hc', hname, hreach⟩ :=
      only_withinReach_collect hvalid cluster event hevent c.name hconsults
    obtain ⟨_, _, _, hnodup⟩ := (SurveyConfig.validate_eq_ok_iff config).mp hvalid
    rwa [← List.inj_on_of_nodup_map hnodup hc' hc hname]
  · intro hreach
    obtain ⟨_, _, _, _, _, _, _, hevents⟩ := Collector.collect_eq_ok h
    have hne : (dispatcher config .builtin nodes c).candidates ≠ [] :=
      mt (candidates_eq_nil_iff hvalid hc).mp hreach
    obtain ⟨event, hevent, hconsults⟩ := List.any_eq_true.mp (Dispatcher.any_consults hne cluster)
    refine List.any_eq_true.mpr ⟨event, ?_, hconsults⟩
    rw [hevents]
    refine List.mem_append_right _ (List.mem_append_left _ (List.mem_flatMap.mpr ?_))
    exact ⟨_, List.mem_map_of_mem hc, hevent⟩

theorem isComponentAbsent_of_collect {snapshot : Snapshot} (hvalid : config.validate = .ok ())
    (h : (((prepare config .builtin nodes).collect now).on cluster).value = .ok snapshot)
    (hc : c ∈ config.components) (hreach : c.OutOfReach config.bridge) :
    snapshot.isComponentAbsent c.name = true := by
  obtain ⟨_, stage, _, hstage, _, hcomponents, herrors, _⟩ := Collector.collect_eq_ok h
  have hn : (((prepare config .builtin nodes).dispatched cluster).map (·.1)).Nodup :=
    nodup_dispatched_prepare .builtin hvalid
  have hnone : (c.name, .ok []) ∈ (prepare config .builtin nodes).dispatched cluster := by
    refine List.mem_map.mpr ⟨_, List.mem_map_of_mem hc, ?_⟩
    rw [Dispatcher.find_of_candidates_eq_nil ((candidates_eq_nil_iff hvalid hc).mpr hreach)]
    rfl
  have hfound : snapshot.components.get? c.name = some [] := by
    rw [hcomponents, Collector.get?_components_of_mergeResults hn hstage]
    exact .inl hnone
  have herror : snapshot.componentErrors.contains c.name = false := by
    apply eq_false_of_ne_true
    rw [Dict.contains_eq_true_iff, Dict.mem_keys_iff, Option.isSome_iff_exists, herrors]
    rintro ⟨text, htext⟩
    obtain ⟨e, he, _⟩ := (Collector.get?_componentErrors_of_mergeResults hn hstage).mp htext
    cases List.inj_on_of_nodup_map hn hnone he rfl
  unfold Snapshot.isComponentAbsent
  rw [hfound, herror]
  rfl

end Surveyor

/-- How a snapshot goes with the trace of the survey that built it. -/
structure Snapshot.AccountsFor (config : SurveyConfig) (events : List Event) (s : Snapshot) :
    Prop where
  isTracked_iff : ∀ name, s.isTracked name = true ↔ name ∈ config.components.map (·.name)
  any_consults_iff : ∀ c ∈ config.components,
    events.any (Event.consults c.name) = true ↔ ¬ c.OutOfReach config.bridge
  isComponentAbsent : ∀ c ∈ config.components, c.OutOfReach config.bridge →
    s.isComponentAbsent c.name = true

/-- Whatever was called before, a survey that succeeds has looked for every component except those
out of reach, and reports these as absent. -/
theorem accountsFor_of_sync {config : SurveyConfig} {visits : List Visit} {e : Episode}
    {now : Timestamp} (he : e ∈ (Surveyor.new config .builtin).history visits)
    (hcall : e.call = .sync now) (hok : e.failure? = none) :
    ∃ snapshot, e.next.snapshot? = some snapshot ∧ snapshot.AccountsFor config e.events := by
  obtain ⟨nodes, snapshot, hvalid, hcollect, hpublished, hevents⟩ :=
    e.exists_collect_of_sync he hcall hok
  have hs : snapshot.WellFormed config := Surveyor.wellFormed_of_collect hvalid hcollect
  refine ⟨snapshot, hpublished, ?_⟩
  rw [hevents]
  refine {
    isTracked_iff := ?_
    any_consults_iff := fun c hc => Surveyor.any_consults_iff_of_collect hvalid hcollect hc
    isComponentAbsent := fun c hc hreach =>
      Surveyor.isComponentAbsent_of_collect hvalid hcollect hc hreach }
  intro name
  unfold Snapshot.isTracked
  rw [Dict.contains_eq_true_iff, hs.mem_keys_iff]

namespace Sample

def unbridged : SurveyConfig where
  bridge := .disabled
  components :=
    [⟨"kube-dns", "kube-system", .label (.ofList [("k8s-app", "kube-dns")])⟩,
      ⟨"etcd", "kube-system", .auto ∅ [] false⟩]
  tolerateFailures := false
  concurrency := 5

def unbridgedSettled : Episode := ⟨⟨.init, cluster⟩, .new unbridged .builtin⟩

def unbridgedSurveyed : Episode := ⟨⟨.sync ⟨0, 0⟩, cluster⟩, unbridgedSettled.next⟩

theorem unbridgedSurveyed_mem_history :
    unbridgedSurveyed ∈ (Surveyor.new unbridged .builtin).history
      [unbridgedSettled.toVisit, unbridgedSurveyed.toVisit] :=
  List.mem_cons_of_mem _ List.mem_cons_self

theorem failure?_unbridgedSurveyed : unbridgedSurveyed.failure? = none := by
  rw [← Option.isNone_iff_eq_none]
  decide +kernel

end Sample

theorem accountsFor_sample : Sample.unbridgedSurveyed.failure? = none ∧
    ∃ snapshot, Sample.unbridgedSurveyed.next.snapshot? = some snapshot ∧
      snapshot.AccountsFor Sample.unbridged Sample.unbridgedSurveyed.events :=
  ⟨Sample.failure?_unbridgedSurveyed, accountsFor_of_sync Sample.unbridgedSurveyed_mem_history rfl
    Sample.failure?_unbridgedSurveyed⟩

/-- A component can be tracked and absent although no explorer was ever consulted for it. -/
theorem absent_without_consultation :
    Sample.unbridged.validate = .ok () ∧ Sample.unbridgedSurveyed.failure? = none ∧
      (∃ snapshot, Sample.unbridgedSurveyed.next.snapshot? = some snapshot ∧
        snapshot.isTracked "etcd" = true ∧ snapshot.isComponentAbsent "etcd" = true) ∧
      Sample.unbridgedSurveyed.events.any (Event.consults "etcd") = false := by
  refine ⟨rfl, Sample.failure?_unbridgedSurveyed, ?_, by decide +kernel⟩
  have hpublished : (Sample.unbridgedSurveyed.next.snapshot?.any fun s =>
      s.isTracked "etcd" && s.isComponentAbsent "etcd") = true := by
    decide +kernel
  obtain ⟨snapshot, hsnapshot, h⟩ := (Option.any_eq_true _ _).mp hpublished
  exact ⟨snapshot, hsnapshot, by simpa using h⟩

end ClusterSurvey
