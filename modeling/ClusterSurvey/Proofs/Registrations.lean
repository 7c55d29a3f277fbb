import ClusterSurvey.Explorer.Registry
import ClusterSurvey.Proofs.Lookup

/-! Strategies that are registered in a table of explorers, in any order and as often as one likes.
Where a strategy stands in the table is settled by its first registration and what it is made with
by its last one, and a chain asks each factory of the table at most once
(`Registry.keeps_registrations`). -/
namespace ClusterSurvey

namespace Registry

variable {r : Registry} {strategy other : Strategy} {factory : ExplorerFactory}
  {ctx : ExplorerContext} {entries calls : List (Strategy × ExplorerFactory)}

def registerAll (r : Registry) (calls : List (Strategy × ExplorerFactory)) : Registry :=
  calls.foldl (fun r call => r.register call.1 call.2) r

def factory? (r : Registry) (strategy : Strategy) : Option ExplorerFactory :=
  (r.entries.find? fun e => e.1 = strategy).map (·.2)

def consult (ctx : ExplorerContext) :
    List (Strategy × ExplorerFactory) → List (Strategy × Option Explorer)
  | [] => []
  | e :: rest =>
    if ctx.component.source.permits e.1 then (e.1, e.2 ctx) :: consult ctx rest
    else consult ctx rest

def consultations (r : Registry) (ctx : ExplorerContext) : List (Strategy × Option Explorer) :=
  consult ctx r.entries

theorem map_fst_place_of_mem (h : strategy ∈ entries.map (·.1)) :
    (place strategy factory entries).map (·.1) = entries.map (·.1) := by
  induction entries with
  | nil => cases h
  | cons e rest ih =>
    unfold place
    split
    · rename_i heq
      simp [heq]
    · rename_i hne
      have hrest : strategy ∈ rest.map (·.1) := by simpa [Ne.symm hne] using h
      simp [ih hrest]

theorem map_fst_place_of_notMem (h : strategy ∉ entries.map (·.1)) :
    (place strategy factory entries).map (·.1) = entries.map (·.1) ++ [strategy] := by
  induction entries with
  | nil => rfl
  | cons e rest ih =>
    rw [List.map_cons, List.mem_cons, not_or] at h
    rw [place, if_neg (Ne.symm h.1), List.map_cons, ih h.2, List.map_cons, List.cons_append]

theorem strategies_register (r : Registry) (strategy : Strategy) (factory : ExplorerFactory) :
    (r.register strategy factory).strategies =
      if strategy ∈ r.strategies then r.strategies else r.strategies ++ [strategy] := by
  split
  · rename_i hmem
    exact map_fst_place_of_mem hmem
  · rename_i hmem
    exact map_fst_place_of_notMem hmem

theorem find?_place (strategy other : Strategy) (factory : ExplorerFactory)
    (entries : List (Strategy × ExplorerFactory)) :
    (place strategy factory entries).find? (fun e => e.1 = other) =
      if strategy = other then some (strategy, factory) else entries.find? fun e => e.1 = other := by
  induction entries with
  | nil => by_cases h : strategy = other <;> simp [place, h]
  | cons e rest ih =>
    unfold place
    split
    · rename_i heq
      by_cases h : strategy = other <;> simp [h, heq]
    · rename_i hne
      rw [List.find?_cons, ih, List.find?_cons]
      by_cases h : strategy = other
      · have hother : e.1 ≠ other := h ▸ hne
        simp [h, hother]
      · simp [h]

theorem factory?_register (r : Registry) (strategy other : Strategy) (factory : ExplorerFactory) :
    (r.register strategy factory).factory? other =
      if strategy = other then some factory else r.factory? other := by
  unfold factory? register
  rw [find?_place]
  split <;> rfl

theorem factory?_registerAll (r : Registry) (calls : List (Strategy × ExplorerFactory))
    (strategy : Strategy) :
    (r.registerAll calls).factory? strategy =
      ((calls.reverse.find? fun c => c.1 = strategy).map (·.2)).or (r.factory? strategy) := by
  induction calls generalizing r with
  | nil => rfl
  | cons call rest ih =>
    have hstep : r.registerAll (call :: rest) = (r.register call.1 call.2).registerAll rest := rfl
    rw [hstep, ih, factory?_register, List.reverse_cons, List.find?_append, Option.map_or,
      Option.or_assoc]
    by_cases h : call.1 = strategy <;> simp [h]

theorem factory?_of_mem (hnodup : r.strategies.Nodup) {e : Strategy × ExplorerFactory}
    (he : e ∈ r.entries) : r.factory? e.1 = some e.2 := by
  unfold factory?
  rcases hfound : r.entries.find? (fun x => x.1 = e.1) with _ | x
  · simpa using List.find?_eq_none.mp hfound e he
  · have hx : x ∈ r.entries := List.mem_of_find?_eq_some hfound
    have hsame : x.1 = e.1 := by simpa using List.find?_some hfound
    obtain rfl : x = e := List.inj_on_of_nodup_map hnodup hx he hsame
    rw [hfound]
    rfl

theorem chain_eq_filterMap_strategies (hnodup : r.strategies.Nodup) (ctx : ExplorerContext) :
    r.chain ctx = (r.strategies.filter ctx.component.source.permits).filterMap
      fun s => (r.factory? s).bind fun make => make ctx := by
  unfold chain permitted strategies
  rw [List.filter_map, List.filterMap_map]
  apply List.filterMap_congr
  intro e he
  have hentry : e ∈ r.entries := List.mem_of_mem_filter he
  simp [factory?_of_mem hnodup hentry]

theorem consultations_eq (r : Registry) (ctx : ExplorerContext) :
    r.consultations ctx = (r.permitted ctx.component.source).map fun e => (e.1, e.2 ctx) := by
  unfold consultations permitted
  induction r.entries with
  | nil => rfl
  | cons e rest ih =>
    unfold consult
    split
    · rename_i hpermits
      simp [hpermits, ih]
    · rename_i hdenied
      simp [hdenied, ih]

theorem filterMap_consultations (r : Registry) (ctx : ExplorerContext) :
    (r.consultations ctx).filterMap (·.2) = r.chain ctx := by
  rw [consultations_eq, List.filterMap_map]
  rfl

theorem map_fst_consultations (r : Registry) (ctx : ExplorerContext) :
    (r.consultations ctx).map (·.1) = r.strategies.filter ctx.component.source.permits := by
  rw [consultations_eq, List.map_map, strategies, List.filter_map]
  rfl

theorem answer_of_mem_consultations (hnodup : r.strategies.Nodup)
    {c : Strategy × Option Explorer} (hc : c ∈ r.consultations ctx) :
    ∃ make, r.factory? c.1 = some make ∧ c.2 = make ctx := by
  rw [consultations_eq] at hc
  obtain ⟨e, he, rfl⟩ := List.mem_map.mp hc
  exact ⟨e.2, factory?_of_mem hnodup (List.mem_of_mem_filter he), rfl⟩

theorem chain_register_of_not_permits (hdenied : ctx.component.source.permits strategy = false) :
    (r.register strategy factory).chain ctx = r.chain ctx := by
  unfold chain permitted register
  congr 1
  induction r.entries with
  | nil => simp [place, hdenied]
  | cons e rest ih =>
    unfold place
    split
    · rename_i heq
      simp [hdenied, heq]
    · rw [List.filter_cons, List.filter_cons, ih]

/-- A table that some registrations have left. -/
structure TableOf (calls : List (Strategy × ExplorerFactory)) (r : Registry) : Prop where
  nodup : r.strategies.Nodup
  mem_iff : ∀ strategy, strategy ∈ r.strategies ↔ strategy ∈ calls.map (·.1)
  ordered : r.strategies.Pairwise fun earlier later =>
    (calls.map (·.1)).idxOf earlier < (calls.map (·.1)).idxOf later
  factory_iff : ∀ strategy factory, r.factory? strategy = some factory ↔
    ∃ front back, calls = front ++ (strategy, factory) :: back ∧ ∀ c ∈ back, c.1 ≠ strategy
  chain_eq : ∀ ctx, r.chain ctx = (r.strategies.filter ctx.component.source.permits).filterMap
    fun strategy => (r.factory? strategy).bind fun make => make ctx
  chain_eq_answers : ∀ ctx, r.chain ctx = (r.consultations ctx).filterMap (·.2)
  consulted_eq : ∀ ctx, (r.consultations ctx).map (·.1) =
    r.strategies.filter ctx.component.source.permits
  nodup_consulted : ∀ ctx, ((r.consultations ctx).map (·.1)).Nodup
  answer_eq : ∀ ctx, ∀ c ∈ r.consultations ctx, ∃ make, r.factory? c.1 = some make ∧ c.2 = make ctx
  chain_register : ∀ ctx strategy factory, ctx.component.source.permits strategy = false →
    (r.register strategy factory).chain ctx = r.chain ctx

structure Ranked (names : List Strategy) (r : Registry) : Prop where
  mem_iff : ∀ strategy, strategy ∈ r.strategies ↔ strategy ∈ names
  ordered : r.strategies.Pairwise fun earlier later => names.idxOf earlier < names.idxOf later

theorem ranked_empty : Ranked [] ∅ := ⟨fun _ => Iff.rfl, List.Pairwise.nil⟩

theorem Ranked.nodup {names : List Strategy} (h : r.Ranked names) : r.strategies.Nodup :=
  h.ordered.imp fun hlt heq => absurd hlt (by simp [heq])

theorem Ranked.register {names : List Strategy} (h : r.Ranked names) (strategy : Strategy)
    (factory : ExplorerFactory) : (r.register strategy factory).Ranked (names ++ [strategy]) := by
  have hkept : ∀ s ∈ r.strategies, (names ++ [strategy]).idxOf s = names.idxOf s :=
    fun s hs => List.idxOf_append_of_mem ((h.mem_iff s).mp hs)
  have hordered : r.strategies.Pairwise fun earlier later =>
      (names ++ [strategy]).idxOf earlier < (names ++ [strategy]).idxOf later := by
    refine h.ordered.imp_of_mem ?_
    intro earlier later hearlier hlater hlt
    rwa [hkept earlier hearlier, hkept later hlater]
  by_cases hmem : strategy ∈ r.strategies
  · have hsame := (strategies_register r strategy factory).trans (if_pos hmem)
    constructor
    · intro s
      rw [hsame, h.mem_iff, List.mem_append, List.mem_singleton, iff_self_or]
      rintro rfl
      exact (h.mem_iff s).mp hmem
    · rwa [hsame]
  · have happended := (strategies_register r strategy factory).trans (if_neg hmem)
    constructor
    · intro s
      rw [happended, List.mem_append, List.mem_append, h.mem_iff]
    · rw [happended, List.pairwise_append]
      refine ⟨hordered, List.pairwise_singleton _ _, ?_⟩
      intro earlier hearlier later hlater
      have hnew : strategy ∉ names := fun hnames => hmem ((h.mem_iff strategy).mpr hnames)
      have hbefore : names.idxOf earlier < names.length :=
        List.idxOf_lt_length_of_mem ((h.mem_iff earlier).mp hearlier)
      rw [List.mem_singleton.mp hlater, hkept earlier hearlier, List.idxOf_append_of_notMem hnew]
      omega

theorem Ranked.registerAll {names : List Strategy} (h : r.Ranked names)
    (calls : List (Strategy × ExplorerFactory)) :
    (r.registerAll calls).Ranked (names ++ calls.map (·.1)) := by
  induction calls generalizing r names with
  | nil => simpa [Registry.registerAll] using h
  | cons call rest ih =>
    rw [List.map_cons, List.append_cons]
    exact ih (h.register call.1 call.2)

theorem tableOf_registerAll (calls : List (Strategy × ExplorerFactory)) :
    (registerAll ∅ calls).TableOf calls := by
  have hranked : (registerAll ∅ calls).Ranked (calls.map (·.1)) := ranked_empty.registerAll calls
  refine ⟨hranked.nodup, hranked.mem_iff, hranked.ordered, ?_,
    chain_eq_filterMap_strategies hranked.nodup, fun ctx => (filterMap_consultations _ ctx).symm,
    map_fst_consultations _, ?_, fun _ _ => answer_of_mem_consultations hranked.nodup,
    fun _ _ _ => chain_register_of_not_permits⟩
  · intro strategy factory
    rw [factory?_registerAll, show (∅ : Registry).factory? strategy = none from rfl, Option.or_none,
      Option.map_eq_some_iff]
    simp only [Dict.find?_reverse_eq_some_iff_append, decide_eq_true_eq, decide_eq_false_iff_not]
    constructor
    · rintro ⟨call, ⟨rfl, hsplit⟩, rfl⟩
      exact hsplit
    · intro hsplit
      exact ⟨(strategy, factory), ⟨rfl, hsplit⟩, rfl⟩
  · intro ctx
    rw [map_fst_consultations]
    exact hranked.nodup.filter _

def builtinCalls : List (Strategy × ExplorerFactory) :=
  [(.label, labelFactory), (.staticPod, staticPodFactory), (.bare, bareFactory)]

theorem registerAll_builtin (calls : List (Strategy × ExplorerFactory)) :
    builtin.registerAll calls = registerAll ∅ (builtinCalls ++ calls) := rfl

/-- A table keeps to its registrations, whether it starts out empty or with what is built in. -/
theorem keeps_registrations (calls : List (Strategy × ExplorerFactory)) :
    (registerAll ∅ calls).TableOf calls ∧
      (builtin.registerAll calls).TableOf (builtinCalls ++ calls) := by
  refine ⟨tableOf_registerAll calls, ?_⟩
  rw [registerAll_builtin]
  exact tableOf_registerAll (builtinCalls ++ calls)

example : (builtin.registerAll [(.label, fun _ => none)]).strategies =
    [.label, .staticPod, .bare] := rfl

end Registry

end ClusterSurvey
