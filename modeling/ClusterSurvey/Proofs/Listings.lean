import ClusterSurvey.Proofs.Absorption
import ClusterSurvey.Proofs.Stages
import ClusterSurvey.Proofs.Sweep

/-! The bulk listing: the objects of every kind, all kinds at the same time. It comes to an
inventory only if no listing fails, each slot then holds what was answered for its kind, and a
failure names its kind (`Collector.all_or_nothing`). The order in which the listings come in matters
for nothing but which one of several failures is reported. -/
namespace ClusterSurvey

namespace Collector

variable {cluster : Cluster} {kind : ObjectKind} {order : List ObjectKind} {error : SurveyError}
  {inventory : Inventory}

theorem value_listKind (kind : ObjectKind) (cluster : Cluster) :
    ((listKind kind).on cluster).value =
      match cluster (.listObjects kind) with
      | .ok items => .ok ⟨kind, items⟩
      | .error e => .error (.transport ("failed to fetch " ++ kind.name) e) := by
  unfold listKind
  rw [Survey.value_bind, Survey.value_ask]
  cases cluster (.listObjects kind) <;> rfl

theorem events_listKind (kind : ObjectKind) (cluster : Cluster) :
    ((listKind kind).on cluster).events = [.asked (.listObjects kind)] := by
  unfold listKind
  rw [Survey.events_bind, Survey.events_ask, Survey.value_ask]
  cases cluster (.listObjects kind) <;> rfl

theorem value_listKind_eq_ok_iff {l : ObjectList} :
    ((listKind kind).on cluster).value = .ok l ↔
      ∃ items, cluster (.listObjects kind) = .ok items ∧ l = ⟨kind, items⟩ := by
  rw [value_listKind]
  cases cluster (.listObjects kind) <;> simp [eq_comm]

theorem exists_value_listKind_iff :
    (∃ l, ((listKind kind).on cluster).value = .ok l) ↔
      ∃ items, cluster (.listObjects kind) = .ok items := by
  rw [value_listKind]
  cases cluster (.listObjects kind) <;> simp

theorem value_listKind_eq_error_iff :
    ((listKind kind).on cluster).value = .error error ↔
      ∃ source, cluster (.listObjects kind) = .error source ∧
        error = .transport ("failed to fetch " ++ kind.name) source := by
  rw [value_listKind]
  cases cluster (.listObjects kind) <;> simp [eq_comm]

theorem value_fetchKinds (kinds : List ObjectKind) (cluster : Cluster) :
    ((fetchKinds kinds).on cluster).value =
      (firstFailure (kinds.map fun kind => ((listKind kind).on cluster).value)).map
        fun lists => lists.foldl .absorb ∅ := by
  unfold fetchKinds
  rw [Survey.value_bind, Survey.value_pure, Survey.value_untilFailure]

theorem kind_of_listed {l : ObjectList} (h : ((listKind kind).on cluster).value = .ok l) :
    l.kind = kind := by
  obtain ⟨items, _, rfl⟩ := value_listKind_eq_ok_iff.mp h
  rfl

theorem slot_of_fetchKinds (hn : order.Nodup)
    (h : ((fetchKinds order).on cluster).value = .ok inventory) (hkind : kind ∈ order) :
    cluster (.listObjects kind) = .ok (inventory.slot kind) := by
  rw [value_fetchKinds] at h
  cases hlists : firstFailure (order.map fun kind => ((listKind kind).on cluster).value) with
  | error e =>
    rw [hlists] at h
    cases h
  | ok lists =>
    rw [hlists] at h
    cases h
    rw [firstFailure_eq_ok_iff] at hlists
    have hmem : ((listKind kind).on cluster).value ∈ lists.map Except.ok := by
      rw [← hlists]
      exact List.mem_map_of_mem hkind
    obtain ⟨l, hl, hvalue⟩ := List.mem_map.mp hmem
    obtain ⟨items, hitems, rfl⟩ := value_listKind_eq_ok_iff.mp hvalue.symm
    have hkinds : lists.map (·.kind) = order :=
      map_eq_of_map_eq_map_ok (fun _ _ hlisted => kind_of_listed hlisted) hlists
    have hslot := Inventory.slot_foldl_absorb_of_mem (by rwa [hkinds]) hl ∅
    rw [hslot, hitems]

theorem fetchKinds_eq_error_iff :
    ((fetchKinds order).on cluster).value = .error error ↔
      ∃ front kind back source, order = front ++ kind :: back ∧
        (∀ other ∈ front, ∃ items, cluster (.listObjects other) = .ok items) ∧
        cluster (.listObjects kind) = .error source ∧
        error = .transport ("failed to fetch " ++ kind.name) source := by
  have herror : ((fetchKinds order).on cluster).value = .error error ↔
      firstFailure (order.map fun kind => ((listKind kind).on cluster).value) = .error error := by
    rw [value_fetchKinds]
    cases firstFailure (order.map fun kind => ((listKind kind).on cluster).value) <;>
      simp [Except.map]
  rw [herror, firstFailure_map_eq_error_iff]
  simp only [exists_value_listKind_iff, value_listKind_eq_error_iff]
  constructor
  · rintro ⟨front, kind, back, rfl, hfront, source, hfailed, rfl⟩
    exact ⟨front, kind, back, source, rfl, hfront, hfailed, rfl⟩
  · rintro ⟨front, kind, back, source, rfl, hfront, hfailed, rfl⟩
    exact ⟨front, kind, back, rfl, hfront, source, hfailed, rfl⟩

theorem exists_fetchKinds_eq_ok
    (h : ∀ kind ∈ order, ∃ items, cluster (.listObjects kind) = .ok items) :
    ∃ inventory, ((fetchKinds order).on cluster).value = .ok inventory := by
  obtain ⟨lists, hlists⟩ := exists_firstFailure_map_eq_ok_iff.mpr fun kind hkind =>
    exists_value_listKind_iff.mpr (h kind hkind)
  refine ⟨lists.foldl .absorb ∅, ?_⟩
  rw [value_fetchKinds, hlists]
  rfl

/-- The listings of all kinds, let on in any way, can come to a result. -/
def BulkComesTo (cluster : Cluster) (result : Except SurveyError Inventory) : Prop :=
  ∃ s lists, (Sweep.start listKind cluster ObjectKind.all).Reaches listKind cluster s ∧
    s.Ends listKind cluster lists ∧ lists.map (·.foldl .absorb ∅) = result

theorem bulkComesTo_iff {result : Except SurveyError Inventory} :
    BulkComesTo cluster result ↔
      ∃ order, order.Perm ObjectKind.all ∧ ((fetchKinds order).on cluster).value = result := by
  constructor
  · rintro ⟨s, lists, hreach, hends, rfl⟩
    obtain ⟨order, hperm, rfl⟩ := Sweep.ends_iff.mp ⟨s, hreach, hends⟩
    exact ⟨order, hperm, rfl⟩
  · rintro ⟨order, hperm, rfl⟩
    obtain ⟨s, hreach, hends⟩ := Sweep.ends_iff.mpr ⟨order, hperm, rfl⟩
    exact ⟨s, _, hreach, hends, rfl⟩

theorem slot_of_bulkComesTo (h : BulkComesTo cluster (.ok inventory)) (kind : ObjectKind) :
    cluster (.listObjects kind) = .ok (inventory.slot kind) := by
  obtain ⟨order, hperm, hvalue⟩ := bulkComesTo_iff.mp h
  have hnodup : order.Nodup := hperm.nodup_iff.mpr ObjectKind.nodup_all
  exact slot_of_fetchKinds hnodup hvalue (hperm.mem_iff.mpr (ObjectKind.mem_all kind))

theorem bulkComesTo_error_iff :
    BulkComesTo cluster (.error error) ↔
      ∃ kind source, cluster (.listObjects kind) = .error source ∧
        error = .transport ("failed to fetch " ++ kind.name) source := by
  constructor
  · intro hcomes
    obtain ⟨order, _, hvalue⟩ := bulkComesTo_iff.mp hcomes
    obtain ⟨_, kind, _, source, _, _, hfailed, rfl⟩ := fetchKinds_eq_error_iff.mp hvalue
    exact ⟨kind, source, hfailed, rfl⟩
  · rintro ⟨kind, source, hfailed, rfl⟩
    -- The listing that fails may come in before all others.
    have hperm : (kind :: ObjectKind.all.erase kind).Perm ObjectKind.all :=
      (List.perm_cons_erase (ObjectKind.mem_all kind)).symm
    have hvalue := fetchKinds_eq_error_iff.mpr
      ⟨[], kind, ObjectKind.all.erase kind, source, rfl, by simp, hfailed, rfl⟩
    exact bulkComesTo_iff.mpr ⟨_, hperm, hvalue⟩

def listingCalls : List Event := ObjectKind.all.map fun kind => .asked (.listObjects kind)

theorem nodup_listingCalls : listingCalls.Nodup := by
  refine ObjectKind.nodup_all.map ?_
  intro kind other heq
  cases heq
  rfl

theorem log_perm_of_reaches {s : Sweep ObjectKind ObjectList}
    (h : (Sweep.start listKind cluster ObjectKind.all).Reaches listKind cluster s) :
    (s.log ++ s.errands.flatMap (·.rest)).Perm listingCalls := by
  obtain ⟨order, hfollows⟩ := Sweep.exists_follows_of_reaches h
  have hcalls : (ObjectKind.all.flatMap fun kind => ((listKind kind).on cluster).events) =
      listingCalls := by
    simp only [events_listKind]
    exact List.flatMap_pure_eq_map _ _
  rw [← hcalls]
  exact hfollows.log_perm

/-- How the bulk listing of a cluster can go. -/
structure AllOrNothing (cluster : Cluster) : Prop where
  exists_result : ∀ s, (Sweep.start listKind cluster ObjectKind.all).Reaches listKind cluster s →
    ∃ s' lists, s.Reaches listKind cluster s' ∧ s'.Ends listKind cluster lists
  ok_iff : ∀ result, BulkComesTo cluster result →
    ((∃ inventory, result = .ok inventory) ↔
      ∀ kind, ∃ items, cluster (.listObjects kind) = .ok items)
  slot_eq : ∀ inventory, BulkComesTo cluster (.ok inventory) →
    ∀ kind, cluster (.listObjects kind) = .ok (inventory.slot kind)
  /-- What can be reported is the failure of each kind that fails, and nothing else. -/
  error_iff : ∀ e, BulkComesTo cluster (.error e) ↔
    ∃ kind source, cluster (.listObjects kind) = .error source ∧
      e = .transport ("failed to fetch " ++ kind.name) source
  unique : ∀ inventory result, BulkComesTo cluster (.ok inventory) → BulkComesTo cluster result →
    result = .ok inventory
  /-- The listings may come in in any order, that in which they were begun among others. -/
  comesTo_iff : ∀ result, BulkComesTo cluster result ↔
    ∃ order, order.Perm ObjectKind.all ∧ ((fetchKinds order).on cluster).value = result
  inTurn : BulkComesTo cluster (fetchInventory.on cluster).value
  inTurn_error_iff : ∀ e, (fetchInventory.on cluster).value = .error e ↔
    ∃ front kind back source, ObjectKind.all = front ++ kind :: back ∧
      (∀ other ∈ front, ∃ items, cluster (.listObjects other) = .ok items) ∧
      cluster (.listObjects kind) = .error source ∧
      e = .transport ("failed to fetch " ++ kind.name) source
  nodup_log : ∀ s, (Sweep.start listKind cluster ObjectKind.all).Reaches listKind cluster s →
    s.log.Nodup
  log_perm : ∀ s lists, (Sweep.start listKind cluster ObjectKind.all).Reaches listKind cluster s →
    s.Ends listKind cluster (.ok lists) → s.log.Perm listingCalls

/-- Every kind is listed and each slot holds what was answered for its kind, or a kind that could
not be listed is reported; the order in which the listings come in decides only which. -/
theorem all_or_nothing (cluster : Cluster) : AllOrNothing cluster := by
  refine {
    exists_result := fun s _ => Sweep.exists_ends listKind cluster s
    ok_iff := ?_
    slot_eq := fun _ => slot_of_bulkComesTo
    error_iff := fun _ => bulkComesTo_error_iff
    unique := ?_
    comesTo_iff := fun _ => bulkComesTo_iff
    inTurn := bulkComesTo_iff.mpr ⟨ObjectKind.all, List.Perm.refl _, rfl⟩
    inTurn_error_iff := fun _ => fetchKinds_eq_error_iff
    nodup_log := ?_
    log_perm := ?_ }
  · intro result hcomes
    constructor
    · rintro ⟨inventory, rfl⟩ kind
      exact ⟨_, slot_of_bulkComesTo hcomes kind⟩
    · intro hall
      obtain ⟨order, _, rfl⟩ := bulkComesTo_iff.mp hcomes
      exact exists_fetchKinds_eq_ok fun kind _ => hall kind
  · intro inventory result hinventory hresult
    cases result with
    | error e =>
      obtain ⟨kind, source, hfailed, _⟩ := bulkComesTo_error_iff.mp hresult
      rw [slot_of_bulkComesTo hinventory kind] at hfailed
      cases hfailed
    | ok other =>
      have heq : ∀ kind, other.slot kind = inventory.slot kind := fun kind =>
        Except.ok.inj
          ((slot_of_bulkComesTo hresult kind).symm.trans (slot_of_bulkComesTo hinventory kind))
      exact congrArg (fun slot => Except.ok (Inventory.mk slot)) (funext heq)
  · intro s hreach
    have hnodup := (log_perm_of_reaches hreach).nodup_iff.mpr nodup_listingCalls
    exact hnodup.of_append_left
  · intro s lists hreach hends
    have hperm := log_perm_of_reaches hreach
    cases hends with
    | done errands_eq => rwa [errands_eq, List.flatMap_nil, List.append_nil] at hperm

end Collector

end ClusterSurvey
