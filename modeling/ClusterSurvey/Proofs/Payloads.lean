import ClusterSurvey.Cluster.Memory
import ClusterSurvey.Proofs.Agreement
import ClusterSurvey.Proofs.Footprint
import ClusterSurvey.Proofs.Listings
import ClusterSurvey.Proofs.Redaction

/-! Surveys of two clusters that differ only in what their secrets hold. Nothing but the listing of
the objects asks for secrets, so both surveys make the same calls and come to the same, as far as
snapshots are shown (`Surveyor.agreeOn_collect_prepare`). -/
namespace ClusterSurvey

/-- Two clusters that are the same but for what the secrets hold. -/
structure Cluster.AlikeButPayloads (w w' : Cluster) : Prop where
  others : ∀ call, call ≠ .listObjects .secrets → w call = w' call
  secrets : (w (.listObjects .secrets)).map (List.map KubeObject.redacted) =
    (w' (.listObjects .secrets)).map (List.map KubeObject.redacted)

namespace Cluster

variable {w w' : Cluster}

def AlikeBesidesObjects (w w' : Cluster) : Prop :=
  ∀ call, (∀ kind, call ≠ .listObjects kind) → w call = w' call

theorem AlikeButPayloads.besidesObjects (h : w.AlikeButPayloads w') : w.AlikeBesidesObjects w' :=
  fun call hcall => h.others call (hcall .secrets)

theorem AlikeButPayloads.listed (h : w.AlikeButPayloads w') (kind : ObjectKind) :
    (w (.listObjects kind)).map (List.map KubeObject.redacted) =
      (w' (.listObjects kind)).map (List.map KubeObject.redacted) := by
  by_cases hkind : kind = .secrets
  · subst hkind
    exact h.secrets
  · rw [h.others (.listObjects kind) fun hcall => hkind (Call.listObjects.inj hcall)]

end Cluster

theorem MemoryCluster.answer_alikeButPayloads (m : MemoryCluster)
    {inventory inventory' : Inventory} (h : inventory.redacted = inventory'.redacted) :
    ({ m with inventory } : MemoryCluster).answer.AlikeButPayloads
      ({ m with inventory := inventory' } : MemoryCluster).answer where
  others := by
    have hnodes : inventory.slot .nodes = inventory'.slot .nodes :=
      Inventory.slot_eq_of_redacted_eq h (by decide)
    have hpods : inventory.slot .pods = inventory'.slot .pods :=
      Inventory.slot_eq_of_redacted_eq h (by decide)
    intro call hcall
    cases call with
    | listNodes => exact congrArg (barring m.nodesFailure) hnodes
    | listObjects kind =>
      have hkind : kind ≠ .secrets := fun heq => hcall (congrArg Call.listObjects heq)
      exact congrArg (barring (m.kindFailures kind)) (Inventory.slot_eq_of_redacted_eq h hkind)
    | listPods ns query =>
      exact congrArg (fun pods : List Pod => barring _ (pods.filter _)) hpods
    | getPod ns name => exact congrArg (fun pods : List Pod => barring _ (pods.find? _)) hpods
    | exec ns pod command => rfl
  secrets := by
    have hsecrets : inventory.redacted.slot .secrets = inventory'.redacted.slot .secrets := by
      rw [h]
    have hmap : ∀ secrets : List Secret,
        (barring (m.kindFailures .secrets) secrets).map (List.map KubeObject.redacted) =
          barring (m.kindFailures .secrets) (secrets.map KubeObject.redacted) := by
      intro secrets
      unfold barring
      cases m.kindFailures .secrets <;> rfl
    exact (hmap _).trans ((congrArg (barring (m.kindFailures .secrets)) hsecrets).trans
      (hmap _).symm)

variable {w w' : Cluster}

theorem AgentBridge.sameOn_execute (h : w.AlikeBesidesObjects w') (bridge : AgentBridge)
    (node : String) (command : List String) : (bridge.execute node command).SameOn w w' :=
  Survey.composes_sameOn.execute (Survey.sameOn_ask (h _ fun _ => Call.noConfusion)) fun _ =>
    Survey.sameOn_ask (h _ fun _ => Call.noConfusion)

theorem ExplorerContext.Builtin.sameOn {ctx : ExplorerContext} {explorer : Explorer}
    (hbuiltin : ctx.Builtin explorer) (h : w.AlikeBesidesObjects w')
    (hexec : ∀ executor, ctx.executor = some executor →
      ∀ node command, (executor node command).SameOn w w') :
    explorer.find.SameOn w w' := by
  refine Survey.composes_sameOn.builtin hbuiltin ?_ ?_ ?_
  · intro query
    exact Survey.sameOn_ask (h _ fun _ => Call.noConfusion)
  · intro node _
    apply Survey.sameOn_gated
    exact Survey.composes_sameOn.staticPodOn (Survey.sameOn_ask (h _ fun _ => Call.noConfusion))
  · intro executor reached node _
    apply Survey.sameOn_gated
    exact Survey.composes_sameOn.probeNode (hexec executor reached node _)

def Snapshot.shown (s : Snapshot) : Snapshot := s.undated.redacted

def ComponentStage.redacted (stage : ComponentStage) : ComponentStage :=
  { stage with inventory := stage.inventory.redacted }

namespace Collector

theorem agreeOn_listKind (h : w.AlikeButPayloads w') (kind : ObjectKind) :
    ((listKind kind).on w).AgreeOn ObjectList.redacted ((listKind kind).on w') := by
  constructor
  · rw [value_listKind, value_listKind]
    obtain ⟨e, hx, hx'⟩ | ⟨items, items', hx, hx', hitems⟩ :=
      error_or_ok_of_map_eq_map (h.listed kind)
    · rw [hx, hx']
    · rw [hx, hx']
      exact congrArg (fun shown => Except.ok (ObjectList.mk kind shown)) hitems
  · rw [events_listKind, events_listKind]

theorem agreeOn_fetchInventory (h : w.AlikeButPayloads w') :
    (fetchInventory.on w).AgreeOn Inventory.redacted (fetchInventory.on w') := by
  unfold fetchInventory fetchKinds
  apply Survey.agreeOn_map (Survey.agreeOn_untilFailure fun kind _ => agreeOn_listKind h kind)
  intro lists lists' hlists
  rw [Inventory.redacted_foldl_absorb, hlists, Inventory.redacted_foldl_absorb]

theorem map_redacted_mergeResults (tolerate : Bool) (inventory : Inventory)
    (results : List (String × Except SurveyError (List Component))) :
    (mergeResults tolerate inventory results).map ComponentStage.redacted =
      mergeResults tolerate inventory.redacted results := by
  unfold mergeResults
  dsimp only
  split <;> rfl

theorem agreeOn_fetchComponents {c : Collector} (h : ∀ d ∈ c.dispatchers, d.find.SameOn w w')
    {inventory inventory' : Inventory} (hinventory : inventory.redacted = inventory'.redacted) :
    ((c.fetchComponents inventory).on w).AgreeOn ComponentStage.redacted
      ((c.fetchComponents inventory').on w') := by
  have hall : (dispatchAll c.dispatchers).on w = (dispatchAll c.dispatchers).on w' :=
    Survey.composes_sameOn.dispatchAll h
  unfold fetchComponents
  constructor
  · rw [Survey.value_bind, Survey.value_bind, Survey.value_pure, Survey.value_pure, hall,
      map_redacted_mergeResults, map_redacted_mergeResults, hinventory]
  · rw [Survey.events_bind, Survey.events_bind, hall]
    rfl

theorem sameOn_probeNodes {executor : NodeExecutor}
    (h : ∀ node command, (executor node command).SameOn w w') (nodes : List String) :
    (probeNodes executor nodes).SameOn w w' := by
  apply Survey.composes_sameOn.probeNodes
  intro node _
  exact Survey.sameOn_gated (Survey.composes_sameOn.fetchMachine (h node _))

theorem agreeOn_fetchMachines {c : Collector}
    (h : ∀ executor, c.executor = some executor →
      ∀ node command, (executor node command).SameOn w w')
    {stage stage' : ComponentStage} (hstage : stage.redacted = stage'.redacted) :
    ((c.fetchMachines stage).on w).AgreeOn Snapshot.redacted
      ((c.fetchMachines stage').on w') := by
  have hcomplete : ∀ machines,
      (Snapshot.mk none stage.inventory stage.components stage.componentErrors machines).redacted =
        (Snapshot.mk none stage'.inventory stage'.components stage'.componentErrors
          machines).redacted := fun machines =>
    congrArg (fun shown : ComponentStage =>
      Snapshot.mk none shown.inventory shown.components shown.componentErrors machines) hstage
  unfold fetchMachines
  cases hexecutor : c.executor with
  | none => exact ⟨congrArg Except.ok (hcomplete _), rfl⟩
  | some executor =>
    dsimp only
    cases Gate.ofLimit? c.concurrency.toNat with
    | none => exact ⟨rfl, rfl⟩
    | some gate =>
      -- nodes are no secrets, so both surveys turn to the same ones
      have hnodes : stage.inventory.nodes = stage'.inventory.nodes :=
        Inventory.slot_eq_of_redacted_eq (congrArg ComponentStage.inventory hstage) (by decide)
      have hsame : (probeNodes executor (Node.names stage.inventory.nodes)).on w =
          (probeNodes executor (Node.names stage'.inventory.nodes)).on w' := by
        rw [hnodes]
        exact sameOn_probeNodes (h executor hexecutor) _
      constructor
      · rw [Survey.value_bind, Survey.value_bind, Survey.value_pure, Survey.value_pure, hsame]
        cases ((probeNodes executor (Node.names stage'.inventory.nodes)).on w').value with
        | error e => rfl
        | ok machines => exact congrArg Except.ok (hcomplete machines)
      · rw [Survey.events_bind, Survey.events_bind, hsame]
        rfl

theorem agreeOn_collect {c : Collector} (h : w.AlikeButPayloads w')
    (hfind : ∀ d ∈ c.dispatchers, d.find.SameOn w w')
    (hexec : ∀ executor, c.executor = some executor →
      ∀ node command, (executor node command).SameOn w w') (now now' : Timestamp) :
    ((c.collect now).on w).AgreeOn Snapshot.shown
      ((c.collect now').on w') := by
  rw [collect_eq_andThen, collect_eq_andThen]
  refine Survey.agreeOn_andThen (agreeOn_fetchInventory h) _ ?_
  intro inventory inventory' hinventory
  refine Survey.agreeOn_andThen (agreeOn_fetchComponents hfind hinventory) _ ?_
  intro stage stage' hstage
  refine Survey.agreeOn_map (agreeOn_fetchMachines hexec hstage) ?_
  intro snapshot snapshot' hsnapshot
  exact congrArg Snapshot.undated hsnapshot

end Collector

namespace Surveyor

/-- With the explorers that are built in, a surveyor asks for secrets in the listing of the objects
only, and shows nothing of what they hold. -/
theorem agreeOn_collect_prepare (h : w.AlikeButPayloads w') (config : SurveyConfig)
    (nodes : List Node) (now now' : Timestamp) :
    (((prepare config .builtin nodes).collect now).on w).AgreeOn Snapshot.shown
      (((prepare config .builtin nodes).collect now').on w') := by
  have hexec : ∀ executor, config.bridge.executor? = some executor →
      ∀ node command, (executor node command).SameOn w w' := by
    intro executor hexecutor
    obtain ⟨ns, agent, _, rfl⟩ := BridgeConfig.executor?_eq_some_iff.mp hexecutor
    exact AgentBridge.sameOn_execute h.besidesObjects _
  refine Collector.agreeOn_collect h ?_ hexec now now'
  intro d hd
  obtain ⟨component, _, rfl⟩ := List.mem_map.mp hd
  apply Survey.composes_sameOn.search
  intro candidate hcandidate
  refine ⟨Survey.sameOn_note _, ?_⟩
  exact (Registry.mem_chain_builtin_iff.mp hcandidate).sameOn h.besidesObjects hexec

end Surveyor

end ClusterSurvey
