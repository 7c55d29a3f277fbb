import ClusterSurvey.Proofs.Sweep
import ClusterSurvey.Proofs.Targets

/-! Looks at one node after the other, or at all of them at the same time. A look that fails keeps
none of the others from being taken, and only when all results are in does the failure of the first
node in the list count (`Explorer.visits_every_node`). -/
namespace ClusterSurvey

def Event.lookup? : Event → Option Call
  | .asked (.getPod ns name) => some (.getPod ns name)
  | .asked (.listPods ns query) => some (.listPods ns query)
  | _ => none

def lookups (events : List Event) : List Call := events.filterMap Event.lookup?

theorem eq_of_zipIdx_perm {α : Type} {l m : List α} (h : l.zipIdx.Perm m.zipIdx) : l = m := by
  apply List.ext_getElem?
  intro i
  apply Option.ext
  intro a
  rw [← List.mk_mem_zipIdx_iff_getElem?, h.mem_iff, List.mk_mem_zipIdx_iff_getElem?]

theorem AgentBridge.lookups_execute (bridge : AgentBridge) (node : String) (command : List String)
    (cluster : Cluster) :
    lookups ((bridge.execute node command).on cluster).events =
      [.listPods (some bridge.ns) (bridge.query node)] := by
  unfold execute
  rw [Survey.events_bind, events_agentPod]
  cases ((bridge.agentPod node).on cluster).value <;> rfl

namespace Explorer

section PerNode

variable (visit : String → Survey (Except SurveyError Component)) (nodes : List String)
  (cluster : Cluster)

def lookAt (entry : String × Nat) : Survey (Except Empty (Except SurveyError Component × Nat)) := do
  return .ok (← Survey.gated .components entry.1 (visit entry.1), entry.2)

def lookTogether : Sweep (String × Nat) (Except SurveyError Component × Nat) :=
  Sweep.start (lookAt visit) cluster nodes.zipIdx

/-- Looks that were begun together are all over, and each result is put in the place of its node. -/
structure ComesTo (s : Sweep (String × Nat) (Except SurveyError Component × Nat))
    (result : Except SurveyError (List Component)) : Prop where
  reaches : (lookTogether visit nodes cluster).Reaches (lookAt visit) cluster s
  errands_eq : s.errands = []
  placed : ∃ results, s.taken.Perm results.zipIdx ∧ firstFailure results = result

/-- How a look at each of some nodes goes: what it asks for on a node is `call`, and `Fails` are its
failures. -/
structure VisitsEach (explorer : Explorer) (call : String → Call)
    (Fails : String → SurveyError → Prop) : Prop where
  find_eq : explorer.find = perNode visit nodes
  lookups_eq : lookups (explorer.find.on cluster).events = nodes.map call
  ok_iff : (∃ found, (explorer.find.on cluster).value = .ok found) ↔
    ∀ node ∈ nodes, ∀ e, ¬ Fails node e
  node_eq : ∀ found, (explorer.find.on cluster).value = .ok found → found.map (·.node) = nodes
  error_iff : ∀ e, (explorer.find.on cluster).value = .error e ↔
    ∃ front node back, nodes = front ++ node :: back ∧
      (∀ other ∈ front, ∀ e, ¬ Fails other e) ∧ Fails node e
  exists_comesTo : ∀ s, (lookTogether visit nodes cluster).Reaches (lookAt visit) cluster s →
    ∃ s' result, s.Reaches (lookAt visit) cluster s' ∧ ComesTo visit nodes cluster s' result
  lookups_perm : ∀ s result, ComesTo visit nodes cluster s result →
    (lookups s.log).Perm (nodes.map call)
  result_eq : ∀ s result, ComesTo visit nodes cluster s result →
    result = (explorer.find.on cluster).value

/-- How a look at one node goes, whichever node it is. -/
structure Looks (call : String → Call) (Fails : String → SurveyError → Prop) : Prop where
  lookups_eq : ∀ node, lookups ((visit node).on cluster).events = [call node]
  node_eq : ∀ node c, ((visit node).on cluster).value = .ok c → c.node = node
  error_iff : ∀ node e, ((visit node).on cluster).value = .error e ↔ Fails node e

end PerNode

variable {visit : String → Survey (Except SurveyError Component)} {nodes : List String}
  {cluster : Cluster} {call : String → Call} {Fails : String → SurveyError → Prop}
  {s : Sweep (String × Nat) (Except SurveyError Component × Nat)}

theorem Looks.exists_ok_iff (h : Looks visit cluster call Fails) (node : String) :
    (∃ c, ((visit node).on cluster).value = .ok c) ↔ ∀ e, ¬ Fails node e := by
  simp only [← h.error_iff]
  cases ((visit node).on cluster).value <;> simp

theorem Looks.lookups_perNode (h : Looks visit cluster call Fails) (nodes : List String) :
    lookups ((perNode visit nodes).on cluster).events = nodes.map call := by
  rw [events_perNode]
  induction nodes with
  | nil => rfl
  | cons node rest ih =>
    have hnode := h.lookups_eq node
    unfold lookups at ih hnode ⊢
    rw [List.flatMap_cons, List.filterMap_append, ih, List.cons_append, List.filterMap_cons,
      List.filterMap_append, hnode]
    rfl

section Together

theorem value_lookAt (entry : String × Nat) :
    ((lookAt visit entry).on cluster).value =
      .ok (((visit entry.1).on cluster).value, entry.2) := rfl

theorem flatMap_events_lookAt (visit : String → Survey (Except SurveyError Component))
    (nodes : List String) (cluster : Cluster) :
    (nodes.zipIdx.flatMap fun entry => ((lookAt visit entry).on cluster).events) =
      ((perNode visit nodes).on cluster).events := by
  have hevents : ∀ entry : String × Nat, ((lookAt visit entry).on cluster).events =
      ((Survey.gated .components entry.1 (visit entry.1)).on cluster).events :=
    fun _ => List.append_nil _
  simp only [hevents, perNode, Survey.events_bind, Survey.events_pure, List.append_nil,
    Survey.events_forEach]
  conv_rhs => rw [← List.zipIdx_map_fst 0 nodes, List.flatMap_map]

variable (hreaches : (lookTogether visit nodes cluster).Reaches (lookAt visit) cluster s)
  (hdone : s.errands = [])

include hreaches hdone

theorem taken_perm_of_done :
    s.taken.Perm (nodes.map fun node => ((visit node).on cluster).value).zipIdx := by
  obtain ⟨order, hfollows⟩ := Sweep.exists_follows_of_reaches hreaches
  have hperm := hfollows.taken_perm value_lookAt hdone
  rwa [← List.map_zipIdx]

theorem log_perm_of_done : s.log.Perm ((perNode visit nodes).on cluster).events := by
  obtain ⟨order, hfollows⟩ := Sweep.exists_follows_of_reaches hreaches
  have hperm := hfollows.log_perm
  rwa [hdone, List.flatMap_nil, List.append_nil, flatMap_events_lookAt] at hperm

theorem comesTo_of_done :
    ComesTo visit nodes cluster s ((perNode visit nodes).on cluster).value :=
  ⟨hreaches, hdone, _, taken_perm_of_done hreaches hdone, (value_perNode visit nodes cluster).symm⟩

end Together

theorem ComesTo.result_eq {result : Except SurveyError (List Component)}
    (h : ComesTo visit nodes cluster s result) :
    result = ((perNode visit nodes).on cluster).value := by
  obtain ⟨results, hplaced, rfl⟩ := h.placed
  have hperm := hplaced.symm.trans (taken_perm_of_done h.reaches h.errands_eq)
  rw [eq_of_zipIdx_perm hperm, value_perNode]

theorem exists_done (s : Sweep (String × Nat) (Except SurveyError Component × Nat)) :
    ∃ s', s.Reaches (lookAt visit) cluster s' ∧ s'.errands = [] := by
  obtain ⟨s', _, hreach, hends⟩ := Sweep.exists_ends (lookAt visit) cluster s
  cases hends with
  | failed _ _ _ e => exact e.elim
  | done errands_eq => exact ⟨s', hreach, errands_eq⟩

theorem visitsEach_perNode (h : Looks visit cluster call Fails) (strategy : String)
    (nodes : List String) :
    VisitsEach visit nodes cluster ⟨strategy, perNode visit nodes⟩ call Fails where
  find_eq := rfl
  lookups_eq := h.lookups_perNode nodes
  ok_iff := by
    simp only [value_perNode, exists_firstFailure_map_eq_ok_iff, h.exists_ok_iff]
  node_eq := by
    intro found hfound
    rw [value_perNode, firstFailure_eq_ok_iff] at hfound
    exact map_eq_of_map_eq_map_ok h.node_eq hfound
  error_iff := by
    intro e
    simp only [value_perNode, firstFailure_map_eq_error_iff, h.exists_ok_iff, h.error_iff]
  exists_comesTo := by
    intro s hreach
    obtain ⟨s', hreach', hdone⟩ := exists_done s
    exact ⟨s', _, hreach', comesTo_of_done (hreach.trans hreach') hdone⟩
  lookups_perm := by
    intro s result hcomes
    have hperm := (log_perm_of_done hcomes.reaches hcomes.errands_eq).filterMap Event.lookup?
    rwa [← lookups, ← lookups, h.lookups_perNode] at hperm
  result_eq := fun _ _ hcomes => hcomes.result_eq

theorem looks_staticPodOn (name ns : String) (cluster : Cluster) :
    Looks (staticPodOn name ns) cluster (fun node => .getPod ns (staticPodName name node))
      fun node e => ∃ source, cluster (.getPod ns (staticPodName name node)) = .error source ∧
        e = .transport ("failed to look up static pod " ++ staticPodName name node ++ " on node " ++
          node) source where
  lookups_eq := by
    intro node
    rw [events_staticPodOn]
    rfl
  node_eq := by
    intro node c hc
    unfold staticPodOn at hc
    rw [Survey.value_bind, Survey.value_ask] at hc
    split at hc <;> cases hc <;> rfl
  error_iff := by
    intro node e
    unfold staticPodOn
    rw [Survey.value_bind, Survey.value_ask]
    cases cluster (.getPod ns (staticPodName name node)) with
    | error source => simp [eq_comm]
    | ok found => cases found <;> simp

theorem node_readProbe (name node stdout : String) : (readProbe name node stdout).node = node := by
  unfold readProbe
  split
  · rfl
  · split <;> rfl

theorem judgeProbe_eq_error_iff {name node : String} {outcome : Except SurveyError ExecOutput}
    {e : SurveyError} :
    judgeProbe name node outcome = .error e ↔ outcome = .error e ∧ e.isExitCode = false := by
  unfold judgeProbe
  constructor
  · intro h
    split at h
    · cases h
    · split at h
      · cases h
      · rename_i hcode
        cases h
        exact ⟨rfl, eq_false_of_ne_true hcode⟩
  · rintro ⟨rfl, hcode⟩
    exact if_neg (ne_true_of_eq_false hcode)

theorem looks_probeNode (bridge : AgentBridge) (name : String) (cluster : Cluster) :
    Looks (probeNode bridge.execute name) cluster
      (fun node => .listPods (some bridge.ns) (bridge.query node))
      fun node e => ((bridge.execute node (probeCommand name)).on cluster).value = .error e ∧
        e.isExitCode = false where
  lookups_eq := by
    intro node
    unfold probeNode
    rw [Survey.events_bind, Survey.events_pure, List.append_nil, bridge.lookups_execute]
  node_eq := by
    intro node c hc
    unfold probeNode at hc
    rw [Survey.value_bind, Survey.value_pure] at hc
    unfold judgeProbe at hc
    split at hc
    · cases hc
      exact node_readProbe _ _ _
    · split at hc
      · cases hc
        rfl
      · cases hc
  error_iff := by
    intro node e
    unfold probeNode
    rw [Survey.value_bind, Survey.value_pure, judgeProbe_eq_error_iff]

/-- Static pods and processes are looked for on each of the nodes, in the order of the list. -/
theorem visits_every_node (name ns : String) (bridge : AgentBridge) (nodes : List String)
    (cluster : Cluster) :
    VisitsEach (staticPodOn name ns) nodes cluster (byStaticPods name ns nodes)
        (fun node => .getPod ns (name ++ "-" ++ node))
        (fun node e => ∃ source, cluster (.getPod ns (name ++ "-" ++ node)) = .error source ∧
          e = .transport ("failed to look up static pod " ++ (name ++ "-" ++ node) ++ " on node " ++
            node) source) ∧
      VisitsEach (probeNode bridge.execute name) nodes cluster
        (byProcess bridge.execute name nodes)
        (fun node => .listPods (some bridge.ns) (bridge.query node))
        (fun node e => ((bridge.execute node (probeCommand name)).on cluster).value = .error e ∧
          e.isExitCode = false) :=
  ⟨visitsEach_perNode (looks_staticPodOn name ns cluster) _ nodes,
    visitsEach_perNode (looks_probeNode bridge name cluster) _ nodes⟩

end Explorer

end ClusterSurvey
