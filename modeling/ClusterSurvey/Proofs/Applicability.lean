import ClusterSurvey.Proofs.Chain
import ClusterSurvey.Proofs.Lifecycle

/-! Which of the explorers that are built in a component gets, read off its settings. The rule that
a configuration has to keep for a component of one strategy is just what its explorer needs, so in a
configuration that is accepted such a component gets that explorer and no other
(`chainsApplicable_builtin`). -/
namespace ClusterSurvey

/-- Whether a strategy may be tried for a component and has what it needs. -/
def ExplorerContext.applies (ctx : ExplorerContext) : Strategy → Bool
  | .label =>
    match ctx.component.source with
    | .auto labels _ _ | .label labels => !labels.isEmpty
    | _ => false
  | .staticPod =>
    match ctx.component.source with
    | .auto _ nodes onMasters | .staticPod nodes onMasters => !nodes.isEmpty || onMasters
    | _ => false
  | .bare =>
    match ctx.component.source with
    | .auto .. | .bare .. => ctx.executor.isSome
    | _ => false

def Strategy.inOrder : List Strategy := [.label, .staticPod, .bare]

def Source.only? : Source → Option Strategy
  | auto .. => none
  | label _ => some .label
  | staticPod .. => some .staticPod
  | bare .. => some .bare

namespace Registry

def factory : Strategy → ExplorerFactory
  | .label => labelFactory
  | .staticPod => staticPodFactory
  | .bare => bareFactory

theorem map_strategy_factory (ctx : ExplorerContext) (strategy : Strategy) :
    (if ctx.component.source.permits strategy then factory strategy ctx else none).map
        (·.strategy) = if ctx.applies strategy then some strategy.name else none := by
  obtain ⟨⟨name, ns, source⟩, targets, executor⟩ := ctx
  cases strategy with
  | label =>
    cases source with
    | auto labels _ _ | label labels =>
      cases h : labels.isEmpty <;>
        simp [factory, labelFactory, ExplorerContext.applies, Source.permits, Source.labels?, h,
          Explorer.byLabels]
    | staticPod | bare => rfl
  | staticPod =>
    cases source with
    | auto _ nodes onMasters | staticPod nodes onMasters =>
      cases onMasters <;> cases nodes <;> rfl
    | label | bare => rfl
  | bare =>
    cases source with
    | auto | bare => cases executor <;> rfl
    | label | staticPod => rfl

theorem strategies_chain_builtin (ctx : ExplorerContext) :
    (builtin.chain ctx).map (·.strategy) =
      (Strategy.inOrder.filter ctx.applies).map Strategy.name := by
  have hentries : builtin.entries = Strategy.inOrder.map fun s => (s, factory s) := rfl
  have hchain : builtin.chain ctx =
      (Strategy.inOrder.filter ctx.component.source.permits).filterMap (factory · ctx) := by
    rw [chain, permitted, hentries, List.filter_map, List.filterMap_map]
    rfl
  rw [hchain, List.filterMap_filter, List.map_filterMap, ← List.filterMap_eq_map,
    List.filterMap_filter]
  exact List.filterMap_congr fun strategy _ => map_strategy_factory ctx strategy

end Registry

namespace ComponentConfig

variable {bridge : BridgeConfig} {c : ComponentConfig} {strategy : Strategy}

theorem isSome_executor? (bridge : BridgeConfig) :
    bridge.executor?.isSome = bridge.isEnabled := by
  cases bridge <;> rfl

theorem applies_eq_of_checkSource (hsource : c.checkSource bridge = .ok ())
    (honly : c.source.only? = some strategy) (nodes : List String) :
    (ExplorerContext.mk c nodes bridge.executor?).applies = fun s => decide (s = strategy) := by
  obtain ⟨name, ns, source⟩ := c
  funext s
  unfold checkSource at hsource
  cases source with
  | auto => cases honly
  | label labels =>
    cases honly
    dsimp only at hsource
    split at hsource
    · cases hsource
    · rename_i hlabels
      cases s <;> simp [ExplorerContext.applies, hlabels]
  | staticPod listed onMasters =>
    cases honly
    dsimp only at hsource
    split at hsource
    · rename_i htargets
      have happlies : (!listed.isEmpty || onMasters) = true := by
        rw [Bool.or_comm]
        exact htargets
      cases s <;> simp [ExplorerContext.applies, happlies]
    · cases hsource
  | bare =>
    cases honly
    dsimp only at hsource
    split at hsource
    · rename_i henabled
      cases s <;> simp [ExplorerContext.applies, isSome_executor?, henabled]
    · cases hsource

theorem candidates_of_check (hc : c.check bridge = .ok ())
    (honly : c.source.only? = some strategy) (nodes : List String) :
    ∃ explorer, Registry.builtin.chain ⟨c, nodes, bridge.executor?⟩ = [explorer] ∧
      explorer.strategy = strategy.name := by
  obtain ⟨_, _, _, hsource⟩ := (check_eq_ok_iff bridge c).mp hc
  have hstrategies :
      (Registry.builtin.chain ⟨c, nodes, bridge.executor?⟩).map (·.strategy) = [strategy.name] := by
    rw [Registry.strategies_chain_builtin, applies_eq_of_checkSource hsource honly]
    cases strategy <;> rfl
  exact List.map_eq_singleton_iff.mp hstrategies

end ComponentConfig

structure Dispatcher.Serves (d : Dispatcher) (c : ComponentConfig) : Prop where
  component_eq : d.component = c.name
  candidates : ∀ strategy, c.source.only? = some strategy →
    ∃ explorer, d.candidates = [explorer] ∧ explorer.strategy = strategy.name

theorem Surveyor.serves_prepare {config : SurveyConfig} (h : config.validate = .ok ())
    (nodes : List Node) :
    List.Forall₂ (fun c d => Dispatcher.Serves d c) config.components
      (prepare config .builtin nodes).dispatchers := by
  obtain ⟨_, _, hcomponents, _⟩ := (SurveyConfig.validate_eq_ok_iff config).mp h
  unfold prepare
  rw [List.forall₂_map_right_iff, List.forall₂_same]
  intro c hc
  exact ⟨rfl, fun _ honly => ComponentConfig.candidates_of_check (hcomponents c hc) honly _⟩

/-- A table of explorers whose chains hold the strategies that apply. -/
structure Registry.ChainsApplicable (r : Registry) : Prop where
  strategies_eq : ∀ ctx, (r.chain ctx).map (·.strategy) =
    (Strategy.inOrder.filter ctx.applies).map Strategy.name
  mem_iff : ∀ ctx explorer, explorer ∈ r.chain ctx ↔ ctx.Builtin explorer
  serves : ∀ config, config.validate = .ok () → ∀ nodes,
    List.Forall₂ (fun c d => Dispatcher.Serves d c) config.components
      (Surveyor.prepare config r nodes).dispatchers
  serves_of_run : ∀ config visits collector,
    ((Surveyor.new config r).run visits).collector = some collector →
      List.Forall₂ (fun c d => Dispatcher.Serves d c) config.components collector.dispatchers

/-- A component of one strategy gets that strategy, as its rule asks for what the strategy needs. -/
theorem chainsApplicable_builtin : Registry.builtin.ChainsApplicable where
  strategies_eq := Registry.strategies_chain_builtin
  mem_iff _ _ := Registry.mem_chain_builtin_iff
  serves _ := Surveyor.serves_prepare
  serves_of_run := by
    intro config visits collector hcollector
    have hconsistent : ((Surveyor.new config .builtin).run visits).Consistent config .builtin :=
      Surveyor.consistent_new.run visits
    obtain ⟨hvalid, nodes, rfl⟩ := hconsistent.collector_eq collector hcollector
    exact Surveyor.serves_prepare hvalid nodes

example :
    (Registry.builtin.chain
        ⟨⟨"etcd", "kube-system", .auto ∅ ["cp-1"] false⟩, ["cp-1"], none⟩).map (·.strategy) =
      ["staticpod"] := rfl

end ClusterSurvey
