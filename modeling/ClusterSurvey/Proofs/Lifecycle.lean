import ClusterSurvey.Surveyor

/-! The life of a surveyor over any calls, with a cluster that may be another one at every call.
What a single call can do is said once (`Episode.ends`); the rest follows by induction over the
calls. The main statement (`lifecycle`) is that a surveyor publishes whole snapshots or nothing. -/
namespace ClusterSurvey

namespace Surveyor

theorem init_of_isInitialized {s : Surveyor} (h : s.isInitialized = true) :
    s.init = pure (s, some (.failed .alreadyInitialized)) := by
  unfold init
  rw [if_pos h]

theorem init_of_invalid {s : Surveyor} {error : ConfigError} (h : s.isInitialized = false)
    (hv : s.config.validate = .error error) :
    s.init = pure (s, some (.failed (.config error))) := by
  unfold init
  rw [if_neg (by simp [h]), hv]

theorem value_init_of_valid {s : Surveyor} (h : s.isInitialized = false)
    (hv : s.config.validate = .ok ()) (cluster : Cluster) :
    (s.init.on cluster).value =
      match cluster .listNodes with
      | .error e => (s, some (.failed (.transport "failed to list nodes" e)))
      | .ok nodes =>
        match Gate.ofLimit? s.config.concurrency.toNat with
        | none => (s, some (.overflow s.config.concurrency.toNat))
        | some _ => (s.setUp nodes, none) := by
  unfold init
  rw [if_neg (by simp [h]), hv]
  simp only [Survey.value_bind]
  rw [Survey.value_ask]
  cases cluster .listNodes with
  | error e => rfl
  | ok nodes => cases Gate.ofLimit? s.config.concurrency.toNat <;> rfl

theorem events_init_of_valid {s : Surveyor} (h : s.isInitialized = false)
    (hv : s.config.validate = .ok ()) (cluster : Cluster) :
    (s.init.on cluster).events = [.asked .listNodes] := by
  unfold init
  rw [if_neg (by simp [h]), hv]
  dsimp only
  rw [Survey.events_bind, Survey.value_ask]
  cases cluster .listNodes with
  | error e => rfl
  | ok nodes =>
    dsimp only
    cases Gate.ofLimit? s.config.concurrency.toNat <;> rfl

theorem sync_of_collector_eq_none {s : Surveyor} (h : s.collector = none) (now : Timestamp) :
    s.sync now = pure (s, some (.failed .notInitialized)) := by
  unfold sync
  rw [h]

theorem value_sync {s : Surveyor} {collector : Collector} (h : s.collector = some collector)
    (now : Timestamp) (cluster : Cluster) :
    ((s.sync now).on cluster).value =
      match ((collector.collect now).on cluster).value with
      | .error abort => (s, some abort)
      | .ok snapshot => (s.publish snapshot, none) := by
  unfold sync
  rw [h, Survey.value_bind]
  cases ((collector.collect now).on cluster).value <;> rfl

theorem events_sync {s : Surveyor} {collector : Collector} (h : s.collector = some collector)
    (now : Timestamp) (cluster : Cluster) :
    ((s.sync now).on cluster).events = ((collector.collect now).on cluster).events := by
  unfold sync
  rw [h, Survey.events_bind]
  cases ((collector.collect now).on cluster).value <;> simp

theorem isInitialized_eq_false_iff {s : Surveyor} :
    s.isInitialized = false ↔ s.collector = none := by
  simp [isInitialized]

end Surveyor

structure Visit where
  call : SurveyorCall
  cluster : Cluster

structure Episode extends Visit where
  before : Surveyor

namespace Episode

def seen (e : Episode) : Observed (Surveyor × Option Abort) :=
  (e.before.after e.call).on e.cluster

def next (e : Episode) : Surveyor := e.seen.value.1

def failure? (e : Episode) : Option Abort := e.seen.value.2

def events (e : Episode) : List Event := e.seen.events

def setsUp (e : Episode) : Bool := e.call = .init && e.failure?.isNone

def snapshot? (e : Episode) : Option Snapshot :=
  match e.call, e.before.collector with
  | .sync now, some collector => ((collector.collect now).on e.cluster).value.toOption
  | _, _ => none

theorem refused {e : Episode} {abort : Abort}
    (h : e.seen = (pure (e.before, some abort) : Survey (Surveyor × Option Abort)).on e.cluster) :
    e.failure? = some abort ∧ e.events = [] := by
  unfold failure? events
  rw [h]
  exact ⟨rfl, rfl⟩

/-- How a call can end. -/
inductive Ends (e : Episode) : Prop where
  | failed (abort : Abort) (failure : e.failure? = some abort) (next : e.next = e.before)
      (snapshot : e.snapshot? = none)
  | settled (nodes : List Node) (call : e.call = .init) (failure : e.failure? = none)
      (fresh : e.before.isInitialized = false) (valid : e.before.config.validate = .ok ())
      (listed : e.cluster .listNodes = .ok nodes) (next : e.next = e.before.setUp nodes)
      (snapshot : e.snapshot? = none)
  | published (now : Timestamp) (collector : Collector) (built : Snapshot)
      (call : e.call = .sync now) (failure : e.failure? = none)
      (ready : e.before.collector = some collector)
      (collected : ((collector.collect now).on e.cluster).value = .ok built)
      (next : e.next = e.before.publish built) (snapshot : e.snapshot? = some built)

theorem ends_of_init {e : Episode} (hcall : e.call = .init) : e.Ends := by
  have hseen : e.seen = e.before.init.on e.cluster := by
    unfold seen
    rw [hcall]
    rfl
  have hsnapshot : e.snapshot? = none := by
    unfold snapshot?
    rw [hcall]
  have failed : ∀ abort, e.seen.value = (e.before, some abort) → e.Ends := by
    intro abort h
    exact .failed abort (by rw [failure?, h]) (by rw [next, h]) hsnapshot
  cases hfresh : e.before.isInitialized with
  | true =>
    apply failed (.failed .alreadyInitialized)
    rw [hseen, Surveyor.init_of_isInitialized hfresh]
    rfl
  | false =>
    cases hvalid : e.before.config.validate with
    | error error =>
      apply failed (.failed (.config error))
      rw [hseen, Surveyor.init_of_invalid hfresh hvalid]
      rfl
    | ok _ =>
      have hvalue := Surveyor.value_init_of_valid hfresh hvalid e.cluster
      rw [← hseen] at hvalue
      cases hlisted : e.cluster .listNodes with
      | error error =>
        rw [hlisted] at hvalue
        exact failed _ hvalue
      | ok nodes =>
        rw [hlisted] at hvalue
        cases hgate : Gate.ofLimit? e.before.config.concurrency.toNat with
        | none =>
          rw [hgate] at hvalue
          exact failed _ hvalue
        | some gate =>
          rw [hgate] at hvalue
          exact .settled nodes hcall (by rw [failure?, hvalue]) hfresh hvalid hlisted
            (by rw [next, hvalue]) hsnapshot

theorem ends_of_sync {e : Episode} {now : Timestamp} (hcall : e.call = .sync now) : e.Ends := by
  have hseen : e.seen = (e.before.sync now).on e.cluster := by
    unfold seen
    rw [hcall]
    rfl
  cases hready : e.before.collector with
  | none =>
    have hvalue : e.seen.value = (e.before, some (.failed .notInitialized)) := by
      rw [hseen, Surveyor.sync_of_collector_eq_none hready]
      rfl
    have hsnapshot : e.snapshot? = none := by
      unfold snapshot?
      rw [hcall, hready]
    exact .failed _ (by rw [failure?, hvalue]) (by rw [next, hvalue]) hsnapshot
  | some collector =>
    have hvalue := Surveyor.value_sync hready now e.cluster
    have hsnapshot : e.snapshot? = ((collector.collect now).on e.cluster).value.toOption := by
      unfold snapshot?
      rw [hcall, hready]
    rw [← hseen] at hvalue
    cases hcollected : ((collector.collect now).on e.cluster).value with
    | error abort =>
      rw [hcollected] at hvalue hsnapshot
      exact .failed abort (by rw [failure?, hvalue]) (by rw [next, hvalue]) hsnapshot
    | ok built =>
      rw [hcollected] at hvalue hsnapshot
      exact .published now collector built hcall (by rw [failure?, hvalue]) hready hcollected
        (by rw [next, hvalue]) hsnapshot

/-- A call fails and changes nothing, or sets the surveyor up, or publishes what it built. -/
theorem ends (e : Episode) : e.Ends := by
  cases h : e.call with
  | init => exact ends_of_init h
  | sync now => exact ends_of_sync h

theorem next_of_failure {e : Episode} {abort : Abort} (h : e.failure? = some abort) :
    e.next = e.before := by
  cases e.ends with
  | failed _ _ hnext _ => exact hnext
  | settled _ _ failure => rw [failure] at h; cases h
  | published _ _ _ _ failure => rw [failure] at h; cases h

theorem isSome_snapshot?_iff (e : Episode) :
    e.snapshot?.isSome ↔ (∃ now, e.call = .sync now) ∧ e.failure? = none := by
  cases e.ends with
  | failed _ failure _ snapshot => simp [failure, snapshot]
  | settled _ call _ _ _ _ _ snapshot => simp [call, snapshot]
  | published _ _ _ call failure _ _ _ snapshot => simp [call, failure, snapshot]

theorem snapshot?_next (e : Episode) :
    e.next.snapshot? = e.snapshot?.or e.before.snapshot? := by
  cases e.ends with
  | failed _ _ next snapshot => rw [next, snapshot, Option.none_or]
  | settled _ _ _ _ _ _ next snapshot =>
    rw [next, snapshot, Option.none_or]
    rfl
  | published _ _ _ _ _ _ _ next snapshot =>
    rw [next, snapshot, Option.some_or]
    rfl

theorem isInitialized_next (e : Episode) :
    e.next.isInitialized = (e.before.isInitialized || e.setsUp) := by
  unfold setsUp
  cases e.ends with
  | failed _ failure next => simp [failure, next]
  | settled _ call failure _ _ _ next =>
    rw [next, call, failure]
    simp [Surveyor.setUp, Surveyor.isInitialized]
  | published _ _ _ call failure _ _ next =>
    rw [next, call, failure]
    simp [Surveyor.publish, Surveyor.isInitialized]

theorem setsUp_of_isInitialized {e : Episode} (h : e.before.isInitialized = true) :
    e.setsUp = false := by
  unfold setsUp
  cases e.ends with
  | failed _ failure => simp [failure]
  | settled _ _ _ fresh => rw [h] at fresh; cases fresh
  | published _ _ _ call => simp [call]

end Episode

/-- What stays true of a surveyor of some configuration, whatever is asked of it. -/
structure Surveyor.Consistent (config : SurveyConfig) (registry : Registry) (s : Surveyor) :
    Prop where
  config_eq : s.config = config
  registry_eq : s.registry = registry
  tracked_eq : s.tracked = if s.isInitialized then config.components.map (·.name) else []
  collector_eq : ∀ collector, s.collector = some collector →
    config.validate = .ok () ∧ ∃ nodes, collector = prepare config registry nodes

namespace Surveyor

variable {config : SurveyConfig} {registry : Registry}

theorem consistent_new : (new config registry).Consistent config registry where
  config_eq := rfl
  registry_eq := rfl
  tracked_eq := rfl
  collector_eq := by
    intro collector h
    cases h

theorem Consistent.next {e : Episode} (h : e.before.Consistent config registry) :
    e.next.Consistent config registry := by
  cases e.ends with
  | failed _ _ next =>
    rw [next]
    exact h
  | published _ _ built _ _ _ _ next =>
    rw [next]
    exact ⟨h.config_eq, h.registry_eq, h.tracked_eq, h.collector_eq⟩
  | settled nodes _ _ _ valid _ next =>
    rw [next]
    refine ⟨h.config_eq, h.registry_eq, ?_, ?_⟩
    · simp [setUp, isInitialized, h.config_eq]
    · intro collector hcollector
      have heq : prepare e.before.config e.before.registry nodes = collector :=
        Option.some.inj hcollector
      rw [h.config_eq, h.registry_eq] at heq
      rw [h.config_eq] at valid
      exact ⟨valid, nodes, heq.symm⟩

def history (s : Surveyor) : List Visit → List Episode
  | [] => []
  | v :: rest => ⟨v, s⟩ :: history (Episode.next ⟨v, s⟩) rest

def run (s : Surveyor) : List Visit → Surveyor
  | [] => s
  | v :: rest => run (Episode.next ⟨v, s⟩) rest

theorem Consistent.run {s : Surveyor} (h : s.Consistent config registry) (visits : List Visit) :
    (s.run visits).Consistent config registry := by
  induction visits generalizing s with
  | nil => exact h
  | cons v rest ih =>
    apply ih
    exact Consistent.next h

theorem kept_of_mem_history {P : Surveyor → Prop} (hnext : ∀ e : Episode, P e.before → P e.next)
    {s : Surveyor} (h : P s) {visits : List Visit} {e : Episode} (he : e ∈ s.history visits) :
    P e.before := by
  induction visits generalizing s with
  | nil => cases he
  | cons v rest ih =>
    rcases List.mem_cons.mp he with rfl | he
    · exact h
    · exact ih (hnext ⟨v, s⟩ h) he

theorem Consistent.of_mem_history {s : Surveyor} (h : s.Consistent config registry)
    {visits : List Visit} {e : Episode} (he : e ∈ s.history visits) :
    e.before.Consistent config registry :=
  kept_of_mem_history (fun _ => Consistent.next) h he

theorem snapshot?_run (s : Surveyor) (visits : List Visit) :
    (s.run visits).snapshot? =
      ((s.history visits).filterMap Episode.snapshot?).getLast?.or s.snapshot? := by
  induction visits generalizing s with
  | nil => rfl
  | cons v rest ih =>
    rw [run, history, ih, Episode.snapshot?_next, List.filterMap_cons]
    cases hsnapshot : Episode.snapshot? ⟨v, s⟩ with
    | none => rw [Option.none_or]
    | some built =>
      rw [List.getLast?_cons, Option.some_or, Option.some_or]
      cases ((history _ rest).filterMap Episode.snapshot?).getLast? <;> rfl

theorem isInitialized_run (s : Surveyor) (visits : List Visit) :
    (s.run visits).isInitialized =
      (s.isInitialized || (s.history visits).any Episode.setsUp) := by
  induction visits generalizing s with
  | nil => simp [run, history]
  | cons v rest ih =>
    rw [run, history, ih, Episode.isInitialized_next, List.any_cons, Bool.or_assoc]

theorem filter_setsUp_of_isInitialized {s : Surveyor} (h : s.isInitialized = true)
    (visits : List Visit) : (s.history visits).filter Episode.setsUp = [] := by
  induction visits generalizing s with
  | nil => rfl
  | cons v rest ih =>
    have hnext : (Episode.next ⟨v, s⟩).isInitialized = true := by
      rw [Episode.isInitialized_next, h, Bool.true_or]
    rw [history, List.filter_cons_of_neg, ih hnext]
    rw [Episode.setsUp_of_isInitialized h]
    exact Bool.false_ne_true

theorem length_filter_setsUp_le (s : Surveyor) (visits : List Visit) :
    ((s.history visits).filter Episode.setsUp).length ≤ 1 := by
  induction visits generalizing s with
  | nil => exact Nat.zero_le _
  | cons v rest ih =>
    rw [history]
    cases hfirst : Episode.setsUp ⟨v, s⟩ with
    | false =>
      rw [List.filter_cons_of_neg (by simp [hfirst])]
      exact ih _
    | true =>
      have hnext : (Episode.next ⟨v, s⟩).isInitialized = true := by
        rw [Episode.isInitialized_next, hfirst, Bool.or_true]
      rw [List.filter_cons_of_pos hfirst, filter_setsUp_of_isInitialized hnext]
      exact Nat.le_refl 1

/-- What holds of a surveyor after some calls, and of the call that comes next. -/
structure Lifecycle (config : SurveyConfig) (past : List Episode) (s : Surveyor) : Prop where
  /-- Published is what the last survey that came to its end has built. -/
  published : s.snapshot? = (past.filterMap Episode.snapshot?).getLast?
  built : ∀ e ∈ past, e.snapshot?.isSome ↔ (∃ now, e.call = .sync now) ∧ e.failure? = none
  initialized : s.isInitialized = past.any Episode.setsUp
  once : (past.filter Episode.setsUp).length ≤ 1
  tracked : s.tracked = if s.isInitialized then config.components.map (·.name) else []
  /-- A call that fails, for whatever reason, leaves everything as it was. -/
  failed : ∀ visit, (Episode.mk visit s).failure?.isSome → (Episode.mk visit s).next = s
  settled : ∀ cluster, (Episode.mk ⟨.init, cluster⟩ s).setsUp = true ↔
    s.isInitialized = false ∧ config.validate = .ok () ∧
      (∃ nodes, cluster .listNodes = .ok nodes) ∧ config.concurrency.toNat ≤ Gate.capacity
  again : ∀ cluster, s.isInitialized = true →
    (Episode.mk ⟨.init, cluster⟩ s).failure? = some (.failed .alreadyInitialized) ∧
      (Episode.mk ⟨.init, cluster⟩ s).events = []
  early : ∀ now cluster, s.isInitialized = false →
    (Episode.mk ⟨.sync now, cluster⟩ s).failure? = some (.failed .notInitialized) ∧
      (Episode.mk ⟨.sync now, cluster⟩ s).events = []
  rejected : ∀ cluster error, s.isInitialized = false → config.validate = .error error →
    (Episode.mk ⟨.init, cluster⟩ s).failure? = some (.failed (.config error)) ∧
      (Episode.mk ⟨.init, cluster⟩ s).events = []

theorem failure?_init_of_valid {s : Surveyor} (h : s.isInitialized = false)
    (hv : s.config.validate = .ok ()) (cluster : Cluster) :
    (Episode.mk ⟨.init, cluster⟩ s).failure? = none ↔
      (∃ nodes, cluster .listNodes = .ok nodes) ∧ s.config.concurrency.toNat ≤ Gate.capacity := by
  have hvalue := value_init_of_valid h hv cluster
  change (s.init.on cluster).value.2 = none ↔ _
  cases hlisted : cluster .listNodes with
  | error e =>
    rw [hlisted] at hvalue
    rw [hvalue]
    simp
  | ok nodes =>
    rw [hlisted] at hvalue
    unfold Gate.ofLimit? at hvalue
    by_cases hlimit : s.config.concurrency.toNat ≤ Gate.capacity
    · rw [if_pos hlimit] at hvalue
      rw [hvalue]
      simp [hlimit]
    · rw [if_neg hlimit] at hvalue
      rw [hvalue]
      simp [hlimit]

theorem setsUp_init_iff {s : Surveyor} (cluster : Cluster) :
    (Episode.mk ⟨.init, cluster⟩ s).setsUp = true ↔
      s.isInitialized = false ∧ s.config.validate = .ok () ∧
        (∃ nodes, cluster .listNodes = .ok nodes) ∧
          s.config.concurrency.toNat ≤ Gate.capacity := by
  constructor
  · intro hsetsUp
    have hnone : (Episode.mk ⟨.init, cluster⟩ s).failure? = none := by
      simpa [Episode.setsUp] using hsetsUp
    cases (Episode.mk ⟨.init, cluster⟩ s).ends with
    | failed abort failure => rw [hnone] at failure; cases failure
    | published now _ _ call => cases call
    | settled nodes _ _ fresh valid =>
      exact ⟨fresh, valid, (failure?_init_of_valid fresh valid cluster).mp hnone⟩
  · rintro ⟨fresh, valid, h⟩
    simpa [Episode.setsUp] using (failure?_init_of_valid fresh valid cluster).mpr h

/-- A surveyor is set up at most once, and publishes the snapshots of the surveys that come to
their end; no other call changes what can be seen of it. -/
theorem lifecycle (config : SurveyConfig) (registry : Registry) (visits : List Visit) :
    Lifecycle config ((new config registry).history visits) ((new config registry).run visits) := by
  have hconsistent : ((new config registry).run visits).Consistent config registry :=
    consistent_new.run visits
  have hconfig := hconsistent.config_eq
  refine {
    published := ?_
    built := fun e _ => e.isSome_snapshot?_iff
    initialized := ?_
    once := length_filter_setsUp_le _ visits
    tracked := hconsistent.tracked_eq
    failed := ?_
    settled := ?_
    again := ?_
    early := ?_
    rejected := ?_ }
  · rw [snapshot?_run]
    exact Option.or_none
  · rw [isInitialized_run]
    exact Bool.false_or _
  · intro visit hfailed
    obtain ⟨abort, habort⟩ := Option.isSome_iff_exists.mp hfailed
    exact Episode.next_of_failure habort
  · intro cluster
    rw [setsUp_init_iff, hconfig]
  · intro cluster hinit
    apply Episode.refused
    exact congrArg (fun call => call.on cluster) (init_of_isInitialized hinit)
  · intro now cluster hinit
    apply Episode.refused
    exact congrArg (fun call => call.on cluster)
      (sync_of_collector_eq_none (isInitialized_eq_false_iff.mp hinit) now)
  · intro cluster error hinit hvalid
    rw [← hconfig] at hvalid
    apply Episode.refused
    exact congrArg (fun call => call.on cluster) (init_of_invalid hinit hvalid)

end Surveyor

namespace Surveyor

variable {s : Surveyor} {c : Collector}

theorem failure?_sync (h : s.collector = some c) (now : Timestamp) (cluster : Cluster) :
    (Episode.mk ⟨.sync now, cluster⟩ s).failure? =
      match ((c.collect now).on cluster).value with
      | .error abort => some abort
      | .ok _ => none := by
  have hvalue := congrArg (·.2) (value_sync h now cluster)
  refine Eq.trans hvalue ?_
  cases ((c.collect now).on cluster).value <;> rfl

theorem next_sync (h : s.collector = some c) (now : Timestamp) (cluster : Cluster) :
    (Episode.mk ⟨.sync now, cluster⟩ s).next =
      match ((c.collect now).on cluster).value with
      | .error _ => s
      | .ok snapshot => s.publish snapshot := by
  have hvalue := congrArg (·.1) (value_sync h now cluster)
  refine Eq.trans hvalue ?_
  cases ((c.collect now).on cluster).value <;> rfl

theorem failure?_sync_eq_none_iff (h : s.collector = some c) (now : Timestamp) (cluster : Cluster) :
    (Episode.mk ⟨.sync now, cluster⟩ s).failure? = none ↔
      ∃ snapshot, ((c.collect now).on cluster).value = .ok snapshot := by
  rw [failure?_sync h]
  cases ((c.collect now).on cluster).value <;> simp

end Surveyor

theorem Episode.exists_collect_of_sync {config : SurveyConfig} {registry : Registry}
    {visits : List Visit} {e : Episode} {now : Timestamp}
    (he : e ∈ (Surveyor.new config registry).history visits) (hcall : e.call = .sync now)
    (hok : e.failure? = none) :
    ∃ nodes snapshot, config.validate = .ok () ∧
      (((Surveyor.prepare config registry nodes).collect now).on e.cluster).value = .ok snapshot ∧
        e.next.snapshot? = some snapshot ∧
          e.events = (((Surveyor.prepare config registry nodes).collect now).on e.cluster).events := by
  have hconsistent : e.before.Consistent config registry :=
    Surveyor.consistent_new.of_mem_history he
  cases e.ends with
  | failed _ failure => rw [hok] at failure; cases failure
  | settled _ call => rw [hcall] at call; cases call
  | published now' collector built call _ ready collected next =>
    rw [hcall] at call
    cases call
    obtain ⟨hvalid, nodes, rfl⟩ := hconsistent.collector_eq _ ready
    refine ⟨nodes, built, hvalid, collected, ?_, ?_⟩
    · rw [next]
      rfl
    · unfold events seen
      rw [hcall]
      exact Surveyor.events_sync ready now e.cluster

end ClusterSurvey
