import ClusterSurvey.Proofs.Lookup
import ClusterSurvey.Survey.Collector

/-! The component stage as a function of what the dispatchers came to. With one dispatcher for each
component, the stage holds every result under its own name, a failure as an empty list together
with its message, and nothing else. -/
namespace ClusterSurvey.Collector

variable {results others : List (String × Except SurveyError (List Component))}
  {tolerate : Bool} {inventory : Inventory} {stage : ComponentStage}

theorem mem_failuresAmong {f : String × SurveyError} :
    f ∈ failuresAmong results ↔ (f.1, .error f.2) ∈ results := by
  unfold failuresAmong
  rw [List.mem_mergeSort, List.mem_filterMap]
  constructor
  · rintro ⟨⟨name, result⟩, hmem, heq⟩
    cases result with
    | ok found => cases heq
    | error e =>
      cases heq
      exact hmem
  · intro hmem
    exact ⟨_, hmem, rfl⟩

theorem nodup_map_fst_filterMap {α β : Type} {l : List (String × α)}
    (h : (l.map (·.1)).Nodup) {select : String × α → Option (String × β)}
    (hselect : ∀ r x, select r = some x → x.1 = r.1) : ((l.filterMap select).map (·.1)).Nodup := by
  induction l with
  | nil => exact List.nodup_nil
  | cons r rest ih =>
    rw [List.map_cons, List.nodup_cons] at h
    rw [List.filterMap_cons]
    cases hr : select r with
    | none => exact ih h.2
    | some x =>
      rw [List.map_cons, List.nodup_cons, hselect r x hr]
      refine ⟨?_, ih h.2⟩
      intro hmem
      obtain ⟨y, hy, hname⟩ := List.mem_map.mp hmem
      obtain ⟨r', hr', hy'⟩ := List.mem_filterMap.mp hy
      apply h.1
      rw [← hname, hselect r' y hy']
      exact List.mem_map_of_mem hr'

theorem nodup_failuresAmong (h : (results.map (·.1)).Nodup) :
    ((failuresAmong results).map (·.1)).Nodup := by
  unfold failuresAmong
  rw [((List.mergeSort_perm _ _).map _).nodup_iff]
  apply nodup_map_fst_filterMap h
  rintro ⟨name, result⟩ x hx
  cases result with
  | ok found => cases hx
  | error e =>
    cases hx
    rfl

theorem sorted_failuresAmong (h : (results.map (·.1)).Nodup) :
    (failuresAmong results).Pairwise fun f g => f.1 < g.1 := by
  have hle : (failuresAmong results).Pairwise fun f g => decide (f.1 ≤ g.1) = true := by
    unfold failuresAmong
    apply List.pairwise_mergeSort
    · intro f g k hfg hgk
      exact decide_eq_true (String.le_trans (of_decide_eq_true hfg) (of_decide_eq_true hgk))
    · intro f g
      simpa using String.le_total f.1 g.1
  have hne : (failuresAmong results).Pairwise fun f g => f.1 ≠ g.1 :=
    List.pairwise_map.mp (nodup_failuresAmong h)
  refine hle.imp₂ ?_ hne
  intro f g hfg hne
  exact String.not_le.mp fun hgf => hne (String.le_antisymm (of_decide_eq_true hfg) hgf)

theorem get?_successesAmong (h : (results.map (·.1)).Nodup) {name : String}
    {found : List Component} :
    (successesAmong results).get? name = some found ↔ (name, .ok found) ∈ results := by
  unfold successesAmong
  rw [Dict.get?_ofList_eq_some_iff, List.mem_filterMap]
  · constructor
    · rintro ⟨⟨name', result⟩, hmem, heq⟩
      cases result with
      | error e => cases heq
      | ok found' =>
        cases heq
        exact hmem
    · intro hmem
      exact ⟨_, hmem, rfl⟩
  · apply nodup_map_fst_filterMap h
    rintro ⟨name', result⟩ x hx
    cases result with
    | error e => cases hx
    | ok found' =>
      cases hx
      rfl

theorem failuresAmong_perm (hn : (results.map (·.1)).Nodup) (h : results.Perm others) :
    failuresAmong results = failuresAmong others := by
  have hn' : (others.map (·.1)).Nodup := (h.map _).nodup_iff.mp hn
  apply Dict.eq_of_mem_iff (sorted_failuresAmong hn) (sorted_failuresAmong hn')
  intro f
  rw [mem_failuresAmong, mem_failuresAmong, h.mem_iff]

theorem successesAmong_perm (hn : (results.map (·.1)).Nodup) (h : results.Perm others) :
    successesAmong results = successesAmong others := by
  have hn' : (others.map (·.1)).Nodup := (h.map _).nodup_iff.mp hn
  apply Dict.ext_get?
  intro name
  apply Option.ext
  intro found
  rw [get?_successesAmong hn, get?_successesAmong hn', h.mem_iff]

theorem mergeResults_perm (hn : (results.map (·.1)).Nodup) (h : results.Perm others) :
    mergeResults tolerate inventory results = mergeResults tolerate inventory others := by
  unfold mergeResults
  rw [failuresAmong_perm hn h, successesAmong_perm hn h]

theorem mergeResults_eq_ok_iff :
    mergeResults tolerate inventory results = .ok stage ↔
      (tolerate = false → failuresAmong results = []) ∧
        stage = {
          inventory
          components := (failuresAmong results).foldl (fun d f => d.insert f.1 [])
            (successesAmong results)
          componentErrors := .ofList ((failuresAmong results).map fun f => (f.1, f.2.message)) } := by
  have hstop : (!(failuresAmong results).isEmpty && !tolerate) = true ↔
      ¬ (tolerate = false → failuresAmong results = []) := by
    cases tolerate <;> simp
  unfold mergeResults
  by_cases h : tolerate = false → failuresAmong results = []
  · rw [if_neg (by rw [hstop]; exact not_not_intro h)]
    constructor
    · intro hstage
      exact ⟨h, (Except.ok.inj hstage).symm⟩
    · rintro ⟨_, rfl⟩
      rfl
  · rw [if_pos (hstop.mpr h)]
    constructor
    · intro hstage
      cases hstage
    · rintro ⟨hnone, _⟩
      exact absurd hnone h

theorem mergeResults_eq_error_iff {e : SurveyError} :
    mergeResults tolerate inventory results = .error e ↔
      tolerate = false ∧ failuresAmong results ≠ [] ∧ e = .components (failuresAmong results) := by
  unfold mergeResults
  cases tolerate with
  | true => simp
  | false =>
    cases failuresAmong results with
    | nil => simp
    | cons f rest => simp [eq_comm (a := e)]

theorem inventory_of_mergeResults (h : mergeResults tolerate inventory results = .ok stage) :
    stage.inventory = inventory := by
  obtain ⟨_, rfl⟩ := mergeResults_eq_ok_iff.mp h
  rfl

theorem get?_components_of_mergeResults (hn : (results.map (·.1)).Nodup)
    (h : mergeResults tolerate inventory results = .ok stage) {name : String}
    {found : List Component} :
    stage.components.get? name = some found ↔
      (name, .ok found) ∈ results ∨ found = [] ∧ ∃ e, (name, .error e) ∈ results := by
  obtain ⟨_, rfl⟩ := mergeResults_eq_ok_iff.mp h
  dsimp only
  rw [Dict.get?_foldl_insert (fun f : String × SurveyError => f.1) (fun _ => [])]
  rcases hf : (failuresAmong results).reverse.find? (fun f => f.1 = name) with _ | f
  · have hnone : ∀ e, (name, .error e) ∉ results := by
      intro e he
      have := List.find?_eq_none.mp hf (name, e) (List.mem_reverse.mpr (mem_failuresAmong.mpr he))
      simp at this
    rw [hf, Option.map_none, Option.none_or, get?_successesAmong hn]
    simp [hnone]
  · obtain ⟨hmem, rfl⟩ := (Dict.find?_reverse_eq_some_iff (nodup_failuresAmong hn)).mp hf
    rw [mem_failuresAmong] at hmem
    -- A component that failed has no second result.
    have hnot : (f.1, .ok found) ∉ results := by
      intro hok
      cases List.inj_on_of_nodup_map hn hmem hok rfl
    rw [hf, Option.map_some, Option.some_or]
    constructor
    · intro hfound
      exact .inr ⟨(Option.some.inj hfound).symm, f.2, hmem⟩
    · rintro (hok | ⟨rfl, _⟩)
      · exact absurd hok hnot
      · rfl

theorem get?_componentErrors_of_mergeResults (hn : (results.map (·.1)).Nodup)
    (h : mergeResults tolerate inventory results = .ok stage) {name text : String} :
    stage.componentErrors.get? name = some text ↔
      ∃ e, (name, .error e) ∈ results ∧ e.message = text := by
  obtain ⟨_, rfl⟩ := mergeResults_eq_ok_iff.mp h
  have hkeys : (((failuresAmong results).map fun f => (f.1, f.2.message)).map (·.1)).Nodup := by
    rw [List.map_map]
    exact nodup_failuresAmong hn
  rw [Dict.get?_ofList_eq_some_iff hkeys, List.mem_map]
  constructor
  · rintro ⟨⟨name', e⟩, hmem, heq⟩
    cases heq
    exact ⟨e, mem_failuresAmong.mp hmem, rfl⟩
  · rintro ⟨e, hmem, rfl⟩
    exact ⟨(name, e), mem_failuresAmong.mpr hmem, rfl⟩

theorem mem_keys_components_of_mergeResults (hn : (results.map (·.1)).Nodup)
    (h : mergeResults tolerate inventory results = .ok stage) {name : String} :
    name ∈ stage.components.keys ↔ name ∈ results.map (·.1) := by
  rw [Dict.mem_keys_iff, Option.isSome_iff_exists]
  simp only [get?_components_of_mergeResults hn h, List.mem_map]
  constructor
  · rintro ⟨found, hmem | ⟨_, e, hmem⟩⟩
    · exact ⟨_, hmem, rfl⟩
    · exact ⟨_, hmem, rfl⟩
  · rintro ⟨⟨name', result⟩, hmem, rfl⟩
    cases result with
    | ok found => exact ⟨found, .inl hmem⟩
    | error e => exact ⟨[], .inr ⟨rfl, e, hmem⟩⟩

end ClusterSurvey.Collector
