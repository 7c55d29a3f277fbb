import ClusterSurvey.Proofs.Consultation
import ClusterSurvey.Proofs.HistoryFree
import ClusterSurvey.Proofs.Payloads
import Mathlib.Data.List.Forall2

/-! What secrets hold comes out nowhere. Two surveyors that live through the same calls in clusters
that differ only in the payloads of their secrets fail alike, make the same calls and publish what
cannot be told apart (`Surveyor.payloads_undisclosed`), though either keeps the secrets whole. -/
namespace ClusterSurvey

/-- An entry that says all of a secret but what it holds: every other field is as it stands in the
secret written as a whole. -/
structure Secret.ShownAs (secret : Secret) (entry : Json) : Prop where
  read : KubeObject.ofJson? .secrets entry = some secret.redacted
  unchanged : ∀ key ∉ SecretBody.payloadFields,
    entry.fieldsNamed key = secret.toJson.fieldsNamed key
  hidden : ∀ key ∈ SecretBody.payloadFields, entry.fieldsNamed key = []

theorem Secret.shownAs_toJson_redacted (secret : Secret) :
    Secret.ShownAs secret secret.redacted.toJson where
  read := KubeObject.ofJson?_toJson_secrets secret.redacted
  unchanged _ := KubeObject.fieldsNamed_toJson_redacted secret
  hidden _ := KubeObject.fieldsNamed_toJson_redacted_of_mem secret

namespace Snapshot

variable {s s' : Snapshot}

def dated (s : Snapshot) (time : Option Timestamp) : Snapshot := { s with syncedAt := time }

theorem redacted_dated (s : Snapshot) (time : Option Timestamp) :
    (s.dated time).redacted = s.shown.dated time := rfl

theorem toJson_dated_of_shown_eq (h : s.shown = s'.shown) (time : Option Timestamp) :
    (s.dated time).toJson = (s'.dated time).toJson := by
  rw [← toJson_redacted, redacted_dated, h, ← redacted_dated, toJson_redacted]

theorem ofSnapshot_dated_of_shown_eq (h : s.shown = s'.shown) (time : Option Timestamp) :
    Summary.ofSnapshot (s.dated time) = Summary.ofSnapshot (s'.dated time) := by
  rw [← Summary.ofSnapshot_redacted, redacted_dated, h, ← redacted_dated,
    Summary.ofSnapshot_redacted]

/-- A snapshot that has the secrets of a cluster as they are, and is written with an entry for each
of them, in their order. -/
structure KeepsSecretsOf (cluster : Cluster) (s : Snapshot) : Prop where
  kept : cluster (.listObjects .secrets) = .ok (s.inventory.slot .secrets)
  written : ∃ entries, s.toJson.fieldsNamed "secrets" = [.arr entries] ∧
    List.Forall₂ Secret.ShownAs (s.inventory.slot .secrets) entries

theorem keepsSecretsOf_of_collect {c : Collector} {cluster : Cluster} {now : Timestamp}
    (h : ((c.collect now).on cluster).value = .ok s) : s.KeepsSecretsOf cluster := by
  obtain ⟨inventory, stage, hlisted, _, rfl, _⟩ := Collector.collect_eq_ok h
  refine ⟨Collector.slot_of_fetchKinds ObjectKind.nodup_all hlisted (ObjectKind.mem_all _), ?_⟩
  refine ⟨_, s.fieldsNamed_toJson .secrets, ?_⟩
  change List.Forall₂ Secret.ShownAs _
    (((s.inventory.slot .secrets).map KubeObject.redacted).map KubeObject.toJson)
  rw [List.forall₂_map_right_iff, List.forall₂_map_right_iff, List.forall₂_same]
  exact fun secret _ => Secret.shownAs_toJson_redacted secret

end Snapshot

/-- Two visits for the same call, of clusters that differ only in what their secrets hold. The
times of two surveys may differ. -/
inductive Visit.AlikeButPayloads : Visit → Visit → Prop
  | init {w w' : Cluster} (h : w.AlikeButPayloads w') :
    AlikeButPayloads ⟨.init, w⟩ ⟨.init, w'⟩
  | sync {w w' : Cluster} (now now' : Timestamp) (h : w.AlikeButPayloads w') :
    AlikeButPayloads ⟨.sync now, w⟩ ⟨.sync now', w'⟩

/-- Two surveyors that are the same but for what the secrets hold in their snapshots, and for the
times of these. -/
structure Surveyor.ShowsAlike (s s' : Surveyor) : Prop where
  kept : s' = { s with latest := s'.latest }
  shown : s.snapshot?.map Snapshot.shown = s'.snapshot?.map Snapshot.shown

namespace Surveyor

variable {s s' : Surveyor} {w w' : Cluster} {config : SurveyConfig}

theorem init_latest (s : Surveyor) (latest : Option Edition) (w : Cluster) :
    ({ s with latest } : Surveyor).init.on w =
      ⟨({ (s.init.on w).value.1 with latest }, (s.init.on w).value.2), (s.init.on w).events⟩ := by
  cases hinit : s.isInitialized with
  | true =>
    have hinit' : ({ s with latest } : Surveyor).isInitialized = true := hinit
    rw [init_of_isInitialized hinit, init_of_isInitialized hinit']
    rfl
  | false =>
    have hinit' : ({ s with latest } : Surveyor).isInitialized = false := hinit
    cases hvalid : s.config.validate with
    | error e =>
      have hvalid' : ({ s with latest } : Surveyor).config.validate = .error e := hvalid
      rw [init_of_invalid hinit hvalid, init_of_invalid hinit' hvalid']
      rfl
    | ok _ =>
      have hvalid' : ({ s with latest } : Surveyor).config.validate = .ok () := hvalid
      apply Observed.ext
      · rw [value_init_of_valid hinit' hvalid', value_init_of_valid hinit hvalid]
        cases w .listNodes with
        | error e => rfl
        | ok nodes =>
          dsimp only
          cases Gate.ofLimit? s.config.concurrency.toNat <;> rfl
      · rw [events_init_of_valid hinit' hvalid', events_init_of_valid hinit hvalid]

end Surveyor

/-- Two calls that come to the same, and leave surveyors that are the same, as far as is shown. -/
structure Episode.EndAlike (e e' : Episode) : Prop where
  failure?_eq : e.failure? = e'.failure?
  events_eq : e.events = e'.events
  next : e.next.ShowsAlike e'.next

namespace Surveyor

variable {s s' : Surveyor} {w w' : Cluster} {config : SurveyConfig}

theorem ShowsAlike.collector_eq (h : s.ShowsAlike s') : s'.collector = s.collector := by
  rw [h.kept]

theorem endAlike_init (hs : s.ShowsAlike s') (h : w.AlikeButPayloads w') :
    (Episode.mk ⟨.init, w⟩ s).EndAlike (Episode.mk ⟨.init, w'⟩ s') := by
  have hnodes : w .listNodes = w' .listNodes := h.others .listNodes Call.noConfusion
  have hsame : s.init.on w = s.init.on w' := Survey.composes_sameOn.init (Survey.sameOn_ask hnodes)
  -- the second surveyor does as the first would, and keeps its own edition
  have hseen : s'.init.on w' =
      ⟨({ (s.init.on w).value.1 with latest := s'.latest }, (s.init.on w).value.2),
        (s.init.on w).events⟩ := by
    rw [hs.kept, init_latest, hsame]
  have hsnapshot : (s.init.on w).value.1.snapshot? = s.snapshot? :=
    (Episode.mk ⟨.init, w⟩ s).snapshot?_next
  refine ⟨?_, ?_, ?_, ?_⟩
  · exact congrArg (·.value.2) hseen.symm
  · exact congrArg (·.events) hseen.symm
  · change (s'.init.on w').value.1 = { (s.init.on w).value.1 with
      latest := (s'.init.on w').value.1.latest }
    rw [hseen]
  · change (s.init.on w).value.1.snapshot?.map _ = (s'.init.on w').value.1.snapshot?.map _
    rw [hseen, hsnapshot]
    exact hs.shown

theorem endAlike_sync (hs : s.ShowsAlike s') (hconsistent : s.Consistent config .builtin)
    (h : w.AlikeButPayloads w') (now now' : Timestamp) :
    (Episode.mk ⟨.sync now, w⟩ s).EndAlike (Episode.mk ⟨.sync now', w'⟩ s') := by
  cases hready : s.collector with
  | none =>
    have hready' : s'.collector = none := hs.collector_eq.trans hready
    have hrefused : (Episode.mk ⟨.sync now, w⟩ s).seen =
      (pure (s, some (.failed .notInitialized)) : Survey _).on w :=
        congrArg (fun call => call.on w) (sync_of_collector_eq_none hready now)
    have hrefused' : (Episode.mk ⟨.sync now', w'⟩ s').seen =
      (pure (s', some (.failed .notInitialized)) : Survey _).on w' :=
        congrArg (fun call => call.on w') (sync_of_collector_eq_none hready' now')
    obtain ⟨hfailure, hevents⟩ := Episode.refused hrefused
    obtain ⟨hfailure', hevents'⟩ := Episode.refused hrefused'
    refine ⟨hfailure.trans hfailure'.symm, hevents.trans hevents'.symm, ?_⟩
    rw [Episode.next_of_failure hfailure, Episode.next_of_failure hfailure']
    exact hs
  | some c =>
    have hready' : s'.collector = some c := hs.collector_eq.trans hready
    obtain ⟨_, nodes, rfl⟩ := hconsistent.collector_eq c hready
    have hagree := agreeOn_collect_prepare h config nodes now now'
    have hepisodes := agreeOn_sync hready hready' hagree
    refine ⟨hepisodes.failure?_eq, hepisodes.events_eq, ?_⟩
    rw [next_sync hready, next_sync hready']
    obtain ⟨abort, hx, hx'⟩ | ⟨built, built', hx, hx', hshown⟩ :=
      error_or_ok_of_map_eq_map hagree.value_eq
    · rw [hx, hx']
      exact hs
    · rw [hx, hx']
      exact ⟨congrArg (fun t : Surveyor => { t with latest := (s'.publish built').latest }) hs.kept,
        congrArg some hshown⟩

theorem endAlike_history {visits visits' : List Visit}
    (h : List.Forall₂ Visit.AlikeButPayloads visits visits') (hs : s.ShowsAlike s')
    (hconsistent : s.Consistent config .builtin) :
    List.Forall₂ Episode.EndAlike (s.history visits) (s'.history visits') := by
  -- along the visits, with surveyors that stay the same as far as is shown
  induction h generalizing s s' with
  | nil => exact .nil
  | @cons v v' rest rest' hvisit _ ih =>
    have hstep : (Episode.mk v s).EndAlike (Episode.mk v' s') := by
      cases hvisit with
      | init h => exact endAlike_init hs h
      | sync now now' h => exact endAlike_sync hs hconsistent h now now'
    exact .cons hstep (ih hstep.next (Consistent.next (e := ⟨v, s⟩) hconsistent))

end Surveyor

/-- Two calls that cannot be told apart by what comes out: they fail alike, after the same events,
and the snapshot that can be seen afterwards is the same in either form, but for its time. Still
each survey keeps the secrets of its own cluster. -/
structure Episode.Indistinct (e e' : Episode) : Prop where
  failure?_eq : e.failure? = e'.failure?
  events_eq : e.events = e'.events
  /-- What is handed to any writer of snapshots is the same. -/
  shown_eq : e.next.snapshot?.map Snapshot.shown = e'.next.snapshot?.map Snapshot.shown
  json_eq : ∀ time, e.next.snapshot?.map (fun s => (s.dated time).toJson) =
    e'.next.snapshot?.map (fun s => (s.dated time).toJson)
  summary_eq : ∀ time, e.next.snapshot?.map (fun s => Summary.ofSnapshot (s.dated time)) =
    e'.next.snapshot?.map (fun s => Summary.ofSnapshot (s.dated time))
  keeps : ∀ now, e.call = .sync now → e.failure? = none →
    ∃ s, e.next.snapshot? = some s ∧ s.KeepsSecretsOf e.cluster
  keeps' : ∀ now, e'.call = .sync now → e'.failure? = none →
    ∃ s, e'.next.snapshot? = some s ∧ s.KeepsSecretsOf e'.cluster

theorem Episode.exists_keepsSecretsOf {e : Episode} {now : Timestamp} (hcall : e.call = .sync now)
    (hok : e.failure? = none) :
    ∃ s, e.next.snapshot? = some s ∧ s.syncedAt = some now ∧ s.KeepsSecretsOf e.cluster := by
  cases e.ends with
  | failed _ failure => rw [hok] at failure; cases failure
  | settled _ call => rw [hcall] at call; cases call
  | published now' collector built call _ _ collected next =>
    rw [hcall] at call
    cases call
    refine ⟨built, ?_, Collector.syncedAt_of_collect collected,
      Snapshot.keepsSecretsOf_of_collect collected⟩
    rw [next]
    rfl

theorem Surveyor.ShowsAlike.map_eq {β : Type} {view : Snapshot → β} {s s' : Surveyor}
    (h : s.ShowsAlike s')
    (hview : ∀ shot shot' : Snapshot, shot.shown = shot'.shown → view shot = view shot') :
    s.snapshot?.map view = s'.snapshot?.map view := by
  have hshown := h.shown
  cases hs : s.snapshot? with
  | none =>
    rw [hs] at hshown
    rw [Option.map_eq_none_iff.mp hshown.symm]
  | some shot =>
    rw [hs] at hshown
    obtain ⟨shot', hs', hshot⟩ := Option.map_eq_some_iff.mp hshown.symm
    rw [hs']
    exact congrArg some (hview shot shot' hshot.symm)

theorem Episode.EndAlike.indistinct {e e' : Episode} (h : e.EndAlike e') : e.Indistinct e' where
  failure?_eq := h.failure?_eq
  events_eq := h.events_eq
  shown_eq := h.next.shown
  json_eq time := h.next.map_eq fun _ _ hshown => Snapshot.toJson_dated_of_shown_eq hshown time
  summary_eq time :=
    h.next.map_eq fun _ _ hshown => Snapshot.ofSnapshot_dated_of_shown_eq hshown time
  keeps := by
    intro now hcall hok
    obtain ⟨s, hnext, _, hkeeps⟩ := exists_keepsSecretsOf hcall hok
    exact ⟨s, hnext, hkeeps⟩
  keeps' := by
    intro now hcall hok
    obtain ⟨s, hnext, _, hkeeps⟩ := exists_keepsSecretsOf hcall hok
    exact ⟨s, hnext, hkeeps⟩

namespace Surveyor

variable {config : SurveyConfig}

theorem showsAlike_refl (s : Surveyor) : s.ShowsAlike s := ⟨rfl, rfl⟩

/-- What secrets hold, in whatever cluster and at whatever call, comes out of no call. -/
theorem payloads_undisclosed {visits visits' : List Visit}
    (h : List.Forall₂ Visit.AlikeButPayloads visits visits') :
    List.Forall₂ Episode.Indistinct ((new config .builtin).history visits)
      ((new config .builtin).history visits') :=
  (endAlike_history h (showsAlike_refl _) consistent_new).imp fun _ _ => Episode.EndAlike.indistinct

end Surveyor

namespace Sample

def credentials (data : Option (Dict (List UInt8))) (stringData : Option (Dict String)) : Secret :=
  ⟨{ Metadata.blank with
      name := some "db-credentials"
      ns := some "default"
      others := fun name => if name.val = "uid" then some ⟨.str "6f1c2a", rfl⟩ else none },
    (⟨data, stringData, some "Opaque", some true⟩ : SecretBody)⟩

def filled : Secret := credentials (some (.ofList [("password", [104, 117, 110, 116])]))
  (some (.ofList [("token", "s3cr3t")]))

def emptied : Secret := credentials none (some ∅)

def holding (secret : Secret) : MemoryCluster where
  inventory := ((∅ : Inventory).absorb ⟨.nodes, [node]⟩).absorb ⟨.secrets, [secret]⟩
  nodesFailure := none
  kindFailures := fun _ => none
  labelFailures := ∅
  fieldFailures := ∅
  podFailures := ∅
  commands := []

def visits (secret : Secret) (now : Timestamp) : List Visit :=
  [⟨.init, (holding secret).answer⟩, ⟨.sync now, (holding secret).answer⟩]

theorem alike_holding : (holding filled).answer.AlikeButPayloads (holding emptied).answer := by
  apply MemoryCluster.answer_alikeButPayloads (holding filled)
  simp only [Inventory.redacted_absorb]
  rfl

theorem alike_visits (now now' : Timestamp) :
    List.Forall₂ Visit.AlikeButPayloads (visits filled now) (visits emptied now') :=
  .cons (.init alike_holding) (.cons (.sync now now' alike_holding) .nil)

end Sample

theorem Surveyor.payloads_undisclosed_sample :
    List.Forall₂ Visit.AlikeButPayloads (Sample.visits Sample.filled ⟨0, 0⟩)
      (Sample.visits Sample.emptied ⟨9, 0⟩) ∧
    (((new Sample.unbridged .builtin).history (Sample.visits Sample.filled ⟨0, 0⟩)).all
      fun e => e.failure?.isNone) = true ∧
    List.Forall₂ Episode.Indistinct
      ((new Sample.unbridged .builtin).history (Sample.visits Sample.filled ⟨0, 0⟩))
      ((new Sample.unbridged .builtin).history (Sample.visits Sample.emptied ⟨9, 0⟩)) :=
  ⟨Sample.alike_visits _ _, by decide +kernel, payloads_undisclosed (Sample.alike_visits _ _)⟩

end ClusterSurvey
