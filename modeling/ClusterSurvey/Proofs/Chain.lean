import ClusterSurvey.Explorer.Registry
import ClusterSurvey.Proofs.Lookup
import ClusterSurvey.Proofs.Validation

/-! The explorers that a component gets from those that are built in. The source of the component
says which may be tried, and each of them needs something to work with: labels, nodes, or a way to
the nodes. -/
namespace ClusterSurvey

namespace Registry

theorem chain_eq_flatMap (r : Registry) (ctx : ExplorerContext) :
    r.chain ctx = r.entries.flatMap fun e =>
      if ctx.component.source.permits e.1 then (e.2 ctx).toList else [] := by
  unfold chain permitted
  induction r.entries with
  | nil => rfl
  | cons e rest ih =>
    rw [List.flatMap_cons, ← ih]
    cases hpermits : ctx.component.source.permits e.1 with
    | false =>
      rw [List.filter_cons_of_neg (by simp [hpermits])]
      rfl
    | true =>
      rw [List.filter_cons_of_pos (by exact hpermits)]
      cases hmade : e.2 ctx <;> simp [hmade]

theorem chain_builtin (ctx : ExplorerContext) :
    builtin.chain ctx =
      (if ctx.component.source.permits .label then (labelFactory ctx).toList else []) ++
        ((if ctx.component.source.permits .staticPod then (staticPodFactory ctx).toList else []) ++
          (if ctx.component.source.permits .bare then (bareFactory ctx).toList else [])) := by
  have hentries : builtin.entries =
      [(.label, labelFactory), (.staticPod, staticPodFactory), (.bare, bareFactory)] := rfl
  rw [chain_eq_flatMap, hentries, List.flatMap_cons, List.flatMap_cons, List.flatMap_cons,
    List.flatMap_nil, List.append_nil]

end Registry

/-- An explorer that is built in, with what it is made of. -/
inductive ExplorerContext.Builtin (ctx : ExplorerContext) : Explorer → Prop where
  | label (labels : Dict String) (permits : ctx.component.source.permits .label = true)
      (labelled : ctx.component.source.labels? = some labels) (nonempty : labels.isEmpty = false) :
      ctx.Builtin (.byLabels ctx.component.name ctx.component.ns labels)
  | staticPod (permits : ctx.component.source.permits .staticPod = true)
      (targets : ctx.component.source.targetsNodes = true) :
      ctx.Builtin (.byStaticPods ctx.component.name ctx.component.ns ctx.nodes)
  | bare (executor : NodeExecutor) (permits : ctx.component.source.permits .bare = true)
      (reached : ctx.executor = some executor) :
      ctx.Builtin (.byProcess executor ctx.component.name ctx.nodes)

namespace Registry

variable {ctx : ExplorerContext} {explorer : Explorer}

theorem labelFactory_eq_some_iff :
    labelFactory ctx = some explorer ↔
      ∃ labels, ctx.component.source.labels? = some labels ∧ labels.isEmpty = false ∧
        explorer = .byLabels ctx.component.name ctx.component.ns labels := by
  unfold labelFactory
  rw [Option.map_eq_some_iff]
  constructor
  · rintro ⟨labels, hlabels, rfl⟩
    obtain ⟨hlabelled, hnonempty⟩ := Option.filter_eq_some_iff.mp hlabels
    exact ⟨labels, hlabelled, by simpa using hnonempty, rfl⟩
  · rintro ⟨labels, hlabelled, hnonempty, rfl⟩
    exact ⟨labels, Option.filter_eq_some_iff.mpr ⟨hlabelled, by simp [hnonempty]⟩, rfl⟩

theorem staticPodFactory_eq_some_iff :
    staticPodFactory ctx = some explorer ↔
      ctx.component.source.targetsNodes = true ∧
        explorer = .byStaticPods ctx.component.name ctx.component.ns ctx.nodes := by
  unfold staticPodFactory
  split
  · rename_i htargets
    simp [htargets, eq_comm]
  · rename_i htargets
    simp [htargets]

theorem bareFactory_eq_some_iff :
    bareFactory ctx = some explorer ↔
      ∃ executor, ctx.executor = some executor ∧
        explorer = .byProcess executor ctx.component.name ctx.nodes := by
  unfold bareFactory
  rw [Option.map_eq_some_iff]
  simp only [eq_comm (a := explorer)]

theorem mem_chain_builtin_iff : explorer ∈ builtin.chain ctx ↔ ctx.Builtin explorer := by
  rw [chain_builtin, List.mem_append, List.mem_append, List.mem_ite_nil_right,
    List.mem_ite_nil_right, List.mem_ite_nil_right, Option.mem_toList, Option.mem_toList,
    Option.mem_toList, labelFactory_eq_some_iff, staticPodFactory_eq_some_iff,
    bareFactory_eq_some_iff]
  constructor
  · rintro (⟨permits, labels, labelled, nonempty, rfl⟩ | ⟨permits, targets, rfl⟩ |
      ⟨permits, executor, reached, rfl⟩)
    · exact .label labels permits labelled nonempty
    · exact .staticPod permits targets
    · exact .bare executor permits reached
  · intro h
    cases h with
    | label labels permits labelled nonempty =>
      exact .inl ⟨permits, labels, labelled, nonempty, rfl⟩
    | staticPod permits targets => exact .inr (.inl ⟨permits, targets, rfl⟩)
    | bare executor permits reached => exact .inr (.inr ⟨permits, executor, reached, rfl⟩)

end Registry

/-- A component that no explorer built in can look for: nothing tells where it is, and no way
leads to the nodes. -/
structure ComponentConfig.OutOfReach (bridge : BridgeConfig) (c : ComponentConfig) : Prop where
  bridge_eq : bridge = .disabled
  source_eq : c.source = .auto ∅ [] false

theorem ComponentConfig.outOfReach_of_not_builtin {bridge : BridgeConfig} {c : ComponentConfig}
    (hsource : c.checkSource bridge = .ok ()) {nodes : List String}
    (hnone : ∀ explorer, ¬ (ExplorerContext.mk c nodes bridge.executor?).Builtin explorer) :
    c.OutOfReach bridge := by
  have hlabel : ∀ labels, c.source.permits .label = true → c.source.labels? = some labels →
      labels.isEmpty = true := by
    intro labels permits labelled
    by_contra hempty
    exact hnone _ (.label labels permits labelled (eq_false_of_ne_true hempty))
  have hpod : c.source.permits .staticPod = true → c.source.targetsNodes = false := by
    intro permits
    by_contra htargets
    exact hnone _ (.staticPod permits (eq_true_of_ne_false htargets))
  have hbare : c.source.permits .bare = true → bridge = .disabled := by
    intro permits
    cases bridge with
    | proxy ns agent => exact absurd (.bare _ permits rfl) (hnone _)
    | disabled => rfl
  unfold checkSource at hsource
  cases heq : c.source with
  | label labels =>
    rw [heq] at hsource hlabel
    simp only [hlabel labels rfl rfl] at hsource
    cases hsource
  | staticPod nodes onMasters =>
    rw [heq] at hsource hpod
    rw [hpod rfl] at hsource
    cases hsource
  | bare nodes onMasters =>
    rw [heq] at hsource hbare
    rw [hbare rfl] at hsource
    cases hsource
  | auto labels nodes onMasters =>
    rw [heq] at hlabel hpod hbare
    have htargets : onMasters = false ∧ nodes = [] := by
      simpa [Source.targetsNodes, Source.onMasters, Source.nodes] using hpod rfl
    have hlabels : labels = ∅ := Dict.isEmpty_iff.mp (hlabel labels rfl rfl)
    refine ⟨hbare rfl, ?_⟩
    rw [heq, hlabels, htargets.1, htargets.2]

theorem ComponentConfig.OutOfReach.not_builtin {bridge : BridgeConfig} {c : ComponentConfig}
    (h : c.OutOfReach bridge) (nodes : List String) (explorer : Explorer) :
    ¬ (ExplorerContext.mk c nodes bridge.executor?).Builtin explorer := by
  obtain ⟨rfl, hauto⟩ := h
  intro hmade
  cases hmade with
  | label labels permits labelled nonempty =>
    rw [hauto] at labelled
    cases labelled
    cases nonempty
  | staticPod permits targets =>
    rw [hauto] at targets
    cases targets
  | bare executor permits reached => cases reached

theorem Registry.chain_eq_nil_iff {bridge : BridgeConfig} {c : ComponentConfig}
    (hc : c.check bridge = .ok ()) (nodes : List String) :
    builtin.chain ⟨c, nodes, bridge.executor?⟩ = [] ↔ c.OutOfReach bridge := by
  obtain ⟨_, _, _, hsource⟩ := (ComponentConfig.check_eq_ok_iff bridge c).mp hc
  simp only [List.eq_nil_iff_forall_not_mem, mem_chain_builtin_iff]
  exact ⟨ComponentConfig.outOfReach_of_not_builtin hsource, fun h => h.not_builtin nodes⟩

end ClusterSurvey
