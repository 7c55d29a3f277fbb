import ClusterSurvey.Proofs.Lookup
import ClusterSurvey.Proofs.Validation
import Mathlib.Data.List.Induction

/-! The rules of a configuration as such, without the order in which they are checked, and the rule
that a refusal names. Of several that are broken it is that of the bridge, then that of the limit,
then one of the first component that breaks any, and of those the one that comes first for a
component (`SurveyConfig.judged_by_rules`). -/
namespace ClusterSurvey

def InNameAlphabet (char : Char) : Prop :=
  ('A' ≤ char ∧ char ≤ 'Z') ∨ ('a' ≤ char ∧ char ≤ 'z') ∨ ('0' ≤ char ∧ char ≤ '9') ∨
    char ∈ ['.', '_', '-']

theorem isAlphanum_iff {char : Char} :
    char.isAlphanum = true ↔
      ('A' ≤ char ∧ char ≤ 'Z') ∨ ('a' ≤ char ∧ char ≤ 'z') ∨ ('0' ≤ char ∧ char ≤ '9') := by
  have hrange : ∀ low high : Char,
      (decide (low ≤ char) && decide (char ≤ high)) = true ↔ low ≤ char ∧ char ≤ high := by
    intro low high
    rw [Bool.and_eq_true, decide_eq_true_eq, decide_eq_true_eq]
  have hupper : char.isUpper = true ↔ 'A' ≤ char ∧ char ≤ 'Z' := decide_eq_true_iff
  have hlower : char.isLower = true ↔ 'a' ≤ char ∧ char ≤ 'z' := hrange 'a' 'z'
  have hdigit : char.isDigit = true ↔ '0' ≤ char ∧ char ≤ '9' := hrange '0' '9'
  change (char.isUpper || char.isLower || char.isDigit) = true ↔ _
  rw [Bool.or_eq_true, Bool.or_eq_true, hupper, hlower, hdigit, or_assoc]

theorem isNameChar_iff {char : Char} : isNameChar char = true ↔ InNameAlphabet char := by
  unfold isNameChar InNameAlphabet
  simp only [Bool.or_eq_true, isAlphanum_iff, decide_eq_true_eq, List.mem_cons, List.not_mem_nil,
    or_false]
  tauto

/-- The rules of a configuration. -/
structure SurveyConfig.KeepsRules (config : SurveyConfig) : Prop where
  bridge : ∀ ns agent, config.bridge = .proxy ns agent → ns ≠ "" ∧ agent ≠ ""
  concurrency : config.concurrency ≠ 0
  name : ∀ c ∈ config.components, c.name ≠ "" ∧ ∀ char ∈ c.name.toList, InNameAlphabet char
  ns : ∀ c ∈ config.components, c.ns ≠ ""
  labels : ∀ c ∈ config.components, ∀ labels, c.source = .label labels → labels ≠ ∅
  nodes : ∀ c ∈ config.components, ∀ nodes onMasters,
    c.source = .staticPod nodes onMasters → nodes ≠ [] ∨ onMasters = true
  reach : ∀ c ∈ config.components, ∀ nodes onMasters,
    c.source = .bare nodes onMasters → config.bridge ≠ .disabled
  distinct : config.components.Pairwise fun c d => c.name ≠ d.name

/-- The place of a rule in the order in which the rules of a configuration count. -/
def ConfigError.rank : ConfigError → Nat
  | invalidBridge .ns => 0
  | invalidBridge .agent => 1
  | zeroConcurrency => 2
  | emptyName => 3
  | invalidName _ => 4
  | emptyNamespace _ => 5
  | missingLabels _ | missingNodes _ | bridgeRequired _ => 6
  | duplicate _ => 7

inductive ComponentConfig.Breaks (bridge : BridgeConfig) (before : List ComponentConfig)
    (c : ComponentConfig) : ConfigError → Prop where
  | emptyName (empty : c.name = "") : c.Breaks bridge before .emptyName
  | invalidName (char : Char) (mem : char ∈ c.name.toList) (strange : ¬ InNameAlphabet char) :
      c.Breaks bridge before (.invalidName c.name)
  | emptyNamespace (empty : c.ns = "") : c.Breaks bridge before (.emptyNamespace c.name)
  | missingLabels (source : c.source = .label ∅) : c.Breaks bridge before (.missingLabels c.name)
  | missingNodes (source : c.source = .staticPod [] false) :
      c.Breaks bridge before (.missingNodes c.name)
  | bridgeRequired (nodes : List String) (onMasters : Bool)
      (source : c.source = .bare nodes onMasters) (unreached : bridge = .disabled) :
      c.Breaks bridge before (.bridgeRequired c.name)
  | duplicate (other : ComponentConfig) (mem : other ∈ before) (same : other.name = c.name) :
      c.Breaks bridge before (.duplicate c.name)

structure ComponentConfig.BreaksFirst (bridge : BridgeConfig) (before : List ComponentConfig)
    (c : ComponentConfig) (error : ConfigError) : Prop where
  breaks : c.Breaks bridge before error
  first : ∀ other, c.Breaks bridge before other → error.rank ≤ other.rank

/-- The rule that counts of those that a configuration breaks. Those before the component would be
accepted without it. -/
inductive SurveyConfig.BreaksFirst (config : SurveyConfig) : ConfigError → Prop where
  | ns (agent : String) (bridge : config.bridge = .proxy "" agent) :
      config.BreaksFirst (.invalidBridge .ns)
  | agent (ns : String) (bridge : config.bridge = .proxy ns "") (nonempty : ns ≠ "") :
      config.BreaksFirst (.invalidBridge .agent)
  | concurrency (bridge : ∀ ns agent, config.bridge = .proxy ns agent → ns ≠ "" ∧ agent ≠ "")
      (zero : config.concurrency = 0) : config.BreaksFirst .zeroConcurrency
  | component (before : List ComponentConfig) (c : ComponentConfig) (after : List ComponentConfig)
      (error : ConfigError) (split_eq : config.components = before ++ c :: after)
      (keeps : SurveyConfig.KeepsRules { config with components := before })
      (first : c.BreaksFirst config.bridge before error) : config.BreaksFirst error

namespace ComponentConfig

variable {bridge : BridgeConfig} {before : List ComponentConfig} {c : ComponentConfig}
  {error other : ConfigError}

theorem Breaks.eq_of_rank_eq (h : c.Breaks bridge before error) (h' : c.Breaks bridge before other)
    (hrank : error.rank = other.rank) : error = other := by
  cases h <;> cases h' <;> simp_all [ConfigError.rank]

theorem BreaksFirst.unique (h : c.BreaksFirst bridge before error)
    (h' : c.BreaksFirst bridge before other) : error = other :=
  h.breaks.eq_of_rank_eq h'.breaks
    (Nat.le_antisymm (h.first other h'.breaks) (h'.first error h.breaks))

theorem Breaks.rank_ne_six (h : c.Breaks bridge before error)
    (hlabels : ∀ labels, c.source = .label labels → labels ≠ ∅)
    (hnodes : ∀ nodes onMasters, c.source = .staticPod nodes onMasters →
      nodes ≠ [] ∨ onMasters = true)
    (hreach : ∀ nodes onMasters, c.source = .bare nodes onMasters → bridge ≠ .disabled) :
    error.rank ≠ 6 := by
  cases h with
  | missingLabels source => exact absurd rfl (hlabels ∅ source)
  | missingNodes source => simpa using hnodes [] false source
  | bridgeRequired nodes onMasters source unreached =>
    exact absurd unreached (hreach nodes onMasters source)
  | _ => simp [ConfigError.rank]

theorem breaks_of_checkSource_eq_error (h : c.checkSource bridge = .error error) :
    c.Breaks bridge before error ∧ error.rank = 6 := by
  unfold checkSource at h
  cases hsource : c.source with
  | auto labels nodes onMasters =>
    rw [hsource] at h
    cases h
  | label labels =>
    rw [hsource] at h
    dsimp only at h
    split at h
    · rename_i hempty
      cases h
      exact ⟨.missingLabels (by rw [hsource, Dict.isEmpty_iff.mp hempty]), rfl⟩
    · cases h
  | staticPod nodes onMasters =>
    rw [hsource] at h
    dsimp only at h
    split at h
    · cases h
    · rename_i htargets
      cases h
      have hnone : onMasters = false ∧ nodes = [] := by
        simpa [Source.targetsNodes, Source.onMasters, Source.nodes] using htargets
      exact ⟨.missingNodes (by rw [hsource, hnone.1, hnone.2]), rfl⟩
  | bare nodes onMasters =>
    rw [hsource] at h
    dsimp only at h
    split at h
    · cases h
    · rename_i hdisabled
      cases h
      refine ⟨.bridgeRequired nodes onMasters hsource ?_, rfl⟩
      cases bridge with
      | proxy ns agent => exact absurd rfl hdisabled
      | disabled => rfl

theorem checkSource_eq_ok_iff :
    c.checkSource bridge = .ok () ↔
      (∀ labels, c.source = .label labels → labels ≠ ∅) ∧
        (∀ nodes onMasters, c.source = .staticPod nodes onMasters → nodes ≠ [] ∨ onMasters = true) ∧
        ∀ nodes onMasters, c.source = .bare nodes onMasters → bridge ≠ .disabled := by
  constructor
  · intro h
    refine ⟨?_, ?_, ?_⟩
    · rintro labels hsource rfl
      unfold checkSource at h
      rw [hsource] at h
      cases h
    · intro nodes onMasters hsource
      unfold checkSource at h
      rw [hsource] at h
      cases onMasters with
      | true => exact .inr rfl
      | false =>
        cases nodes with
        | nil => cases h
        | cons node rest => exact .inl (List.cons_ne_nil node rest)
    · rintro nodes onMasters hsource rfl
      unfold checkSource at h
      rw [hsource] at h
      cases h
  · rintro ⟨hlabels, hnodes, hreach⟩
    cases hcheck : c.checkSource bridge with
    | ok u => rfl
    | error e =>
      have hbroken : c.Breaks bridge [] e ∧ e.rank = 6 := breaks_of_checkSource_eq_error hcheck
      exact absurd hbroken.2 (hbroken.1.rank_ne_six hlabels hnodes hreach)

/-! What is left of the order of the rules once the first of them are kept. -/

section Ranks

variable (h : c.Breaks bridge before error)
include h

theorem Breaks.three_le_rank : 3 ≤ error.rank := by
  cases h <;> simp [ConfigError.rank]

theorem Breaks.four_le_rank (hname : c.name ≠ "") : 4 ≤ error.rank := by
  cases h with
  | emptyName empty => exact absurd empty hname
  | _ => simp [ConfigError.rank]

theorem Breaks.five_le_rank (hname : c.name ≠ "")
    (hchars : ∀ char ∈ c.name.toList, isNameChar char = true) : 5 ≤ error.rank := by
  cases h with
  | emptyName empty => exact absurd empty hname
  | invalidName char mem strange => exact absurd (isNameChar_iff.mp (hchars char mem)) strange
  | _ => simp [ConfigError.rank]

theorem Breaks.six_le_rank (hname : c.name ≠ "")
    (hchars : ∀ char ∈ c.name.toList, isNameChar char = true) (hns : c.ns ≠ "") :
    6 ≤ error.rank := by
  have hrank := h.five_le_rank hname hchars
  cases h with
  | emptyNamespace empty => exact absurd empty hns
  | emptyName => simp [ConfigError.rank] at hrank
  | invalidName => simp [ConfigError.rank] at hrank
  | _ => simp [ConfigError.rank]

theorem Breaks.same_name_of_check_eq_ok (hcheck : c.check bridge = .ok ()) :
    error = .duplicate c.name ∧ ∃ other ∈ before, other.name = c.name := by
  obtain ⟨hname, hchars, hns, hsource⟩ := (check_eq_ok_iff bridge c).mp hcheck
  obtain ⟨hlabels, hnodes, hreach⟩ := checkSource_eq_ok_iff.mp hsource
  have hrank := h.six_le_rank hname hchars hns
  have hsix := h.rank_ne_six hlabels hnodes hreach
  cases h with
  | duplicate other mem same => exact ⟨rfl, other, mem, same⟩
  | _ => simp [ConfigError.rank] at hrank hsix

end Ranks

theorem breaksFirst_of_check_eq_error (h : c.check bridge = .error error) :
    c.BreaksFirst bridge before error := by
  unfold check at h
  split at h
  · rename_i hname
    cases h
    exact ⟨.emptyName (by simpa using hname), fun _ hother => hother.three_le_rank⟩
  · rename_i hname
    have hname : c.name ≠ "" := by simpa using hname
    split at h
    · rename_i hchars
      cases h
      obtain ⟨char, hmem, hstrange⟩ :
          ∃ char ∈ c.name.toList, ¬ isNameChar char = true := by simpa using hchars
      exact ⟨.invalidName char hmem (mt isNameChar_iff.mpr hstrange),
        fun _ hother => hother.four_le_rank hname⟩
    · rename_i hchars
      have hchars : ∀ char ∈ c.name.toList, isNameChar char = true := by simpa using hchars
      split at h
      · rename_i hns
        cases h
        exact ⟨.emptyNamespace (by simpa using hns),
          fun _ hother => hother.five_le_rank hname hchars⟩
      · rename_i hns
        have hns : c.ns ≠ "" := by simpa using hns
        obtain ⟨hbreaks, hrank⟩ := breaks_of_checkSource_eq_error h
        exact ⟨hbreaks, fun _ hother => hrank ▸ hother.six_le_rank hname hchars hns⟩

end ComponentConfig

section Components

variable {bridge : BridgeConfig} {seen : List String} {c : ComponentConfig} {error : ConfigError}

theorem checkComponents_append (bridge : BridgeConfig) (seen : List String)
    (components rest : List ComponentConfig) :
    checkComponents bridge seen (components ++ rest) =
      checkComponents bridge seen components >>= fun _ =>
        checkComponents bridge ((components.map (·.name)).reverse ++ seen) rest := by
  induction components generalizing seen with
  | nil => rfl
  | cons c components ih =>
    rw [List.cons_append, checkComponents, checkComponents]
    cases hcheck : c.check bridge with
    | error e => rfl
    | ok u =>
      by_cases hseen : seen.contains c.name = true
      · rw [if_pos hseen, if_pos hseen]
        rfl
      · rw [if_neg hseen, if_neg hseen, List.map_cons, List.reverse_cons, List.append_assoc,
          List.singleton_append]
        exact ih (c.name :: seen)

theorem exists_of_checkComponents_eq_error {components : List ComponentConfig}
    (h : checkComponents bridge seen components = .error error) :
    ∃ before c after, components = before ++ c :: after ∧
      checkComponents bridge seen before = .ok () ∧
        checkComponents bridge ((before.map (·.name)).reverse ++ seen) [c] = .error error := by
  induction components using List.reverseRecOn with
  | nil => cases h
  | append_singleton components c ih =>
    rw [checkComponents_append] at h
    cases hcomponents : checkComponents bridge seen components with
    | ok u =>
      rw [hcomponents] at h
      exact ⟨components, c, [], rfl, hcomponents, h⟩
    | error e =>
      rw [hcomponents] at h
      cases h
      obtain ⟨before, d, after, hsplit, hbefore, hd⟩ := ih hcomponents
      exact ⟨before, d, after ++ [c], by rw [hsplit]; simp, hbefore, hd⟩

theorem checkComponents_singleton_eq_error_iff {before : List ComponentConfig}
    (hseen : ∀ name, name ∈ seen ↔ name ∈ before.map (·.name)) :
    checkComponents bridge seen [c] = .error error ↔ c.BreaksFirst bridge before error := by
  have hfirst : ∀ {e}, checkComponents bridge seen [c] = .error e →
      c.BreaksFirst bridge before e := by
    intro e h
    rw [checkComponents] at h
    cases hcheck : c.check bridge with
    | error e' =>
      rw [hcheck] at h
      cases h
      exact ComponentConfig.breaksFirst_of_check_eq_error hcheck
    | ok u =>
      rw [hcheck] at h
      by_cases hname : c.name ∈ seen
      · obtain ⟨other, hother, hsame⟩ := List.mem_map.mp ((hseen c.name).mp hname)
        rw [if_pos (by simpa using hname)] at h
        cases h
        refine ⟨.duplicate other hother hsame, ?_⟩
        intro e he
        exact Nat.le_of_eq (congrArg ConfigError.rank (he.same_name_of_check_eq_ok hcheck).1.symm)
      · rw [if_neg (by simpa using hname)] at h
        cases h
  refine ⟨hfirst, ?_⟩
  intro h
  cases hvalue : checkComponents bridge seen [c] with
  | error e => rw [(hfirst hvalue).unique h]
  | ok u =>
    obtain ⟨hcheck, hname, _⟩ := (checkComponents_cons_eq_ok_iff bridge seen c []).mp hvalue
    obtain ⟨_, other, hother, hsame⟩ := h.breaks.same_name_of_check_eq_ok hcheck
    exact absurd ((hseen c.name).mpr (List.mem_map.mpr ⟨other, hother, hsame⟩)) hname

end Components

theorem BridgeConfig.check_eq_ok_iff {bridge : BridgeConfig} :
    bridge.check = .ok () ↔ ∀ ns agent, bridge = .proxy ns agent → ns ≠ "" ∧ agent ≠ "" := by
  cases bridge with
  | disabled => simp [check, pure, Except.pure]
  | proxy ns agent =>
    by_cases hns : ns = ""
    · simp [check, hns, throw, throwThe, MonadExceptOf.throw]
    · by_cases hagent : agent = ""
      · simp [check, hns, hagent, throw, throwThe, MonadExceptOf.throw]
      · simp [check, hns, hagent, pure, Except.pure]

namespace SurveyConfig

variable {config : SurveyConfig} {error : ConfigError}

theorem validate_eq_ok_iff_keepsRules : config.validate = .ok () ↔ config.KeepsRules := by
  rw [validate_eq_ok_iff, BridgeConfig.check_eq_ok_iff, List.nodup_iff_pairwise_ne,
    List.pairwise_map]
  constructor
  · rintro ⟨hbridge, hlimit, hchecks, hdistinct⟩
    have hkept : ∀ c ∈ config.components, _ := fun c hc =>
      (ComponentConfig.check_eq_ok_iff _ c).mp (hchecks c hc)
    have hsource : ∀ c ∈ config.components, _ := fun c hc =>
      ComponentConfig.checkSource_eq_ok_iff.mp (hkept c hc).2.2.2
    exact {
      bridge := hbridge
      concurrency := hlimit
      name := fun c hc =>
        ⟨(hkept c hc).1, fun char hchar => isNameChar_iff.mp ((hkept c hc).2.1 char hchar)⟩
      ns := fun c hc => (hkept c hc).2.2.1
      labels := fun c hc => (hsource c hc).1
      nodes := fun c hc => (hsource c hc).2.1
      reach := fun c hc => (hsource c hc).2.2
      distinct := hdistinct }
  · intro h
    refine ⟨h.bridge, h.concurrency, ?_, h.distinct⟩
    intro c hc
    refine (ComponentConfig.check_eq_ok_iff _ c).mpr
      ⟨(h.name c hc).1, ?_, h.ns c hc, ComponentConfig.checkSource_eq_ok_iff.mpr
        ⟨h.labels c hc, h.nodes c hc, h.reach c hc⟩⟩
    exact fun char hchar => isNameChar_iff.mpr ((h.name c hc).2 char hchar)

theorem validate_of_check_eq_ok (hbridge : config.bridge.check = .ok ())
    (hlimit : config.concurrency ≠ 0) (components : List ComponentConfig) :
    validate { config with components } = checkComponents config.bridge [] components := by
  unfold validate
  dsimp only
  rw [hbridge, if_neg hlimit]
  rfl

theorem breaksFirst_of_validate_eq_error (h : config.validate = .error error) :
    config.BreaksFirst error := by
  cases hbridge : config.bridge.check with
  | error e =>
    unfold validate at h
    rw [hbridge] at h
    cases h
    unfold BridgeConfig.check at hbridge
    split at hbridge
    · rename_i ns agent hproxy
      split at hbridge
      · rename_i hns
        cases hbridge
        exact .ns agent (by simpa [String.isEmpty_iff.mp hns] using hproxy)
      · rename_i hns
        split at hbridge
        · rename_i hagent
          cases hbridge
          exact .agent ns (by simpa [String.isEmpty_iff.mp hagent] using hproxy)
            (by simpa using hns)
        · cases hbridge
    · cases hbridge
  | ok u =>
    by_cases hlimit : config.concurrency = 0
    · unfold validate at h
      rw [hbridge, if_pos hlimit] at h
      cases h
      exact .concurrency (BridgeConfig.check_eq_ok_iff.mp hbridge) hlimit
    · have hwhole : config.validate = _ := validate_of_check_eq_ok hbridge hlimit config.components
      obtain ⟨before, c, after, hsplit, hbefore, hc⟩ :=
        exists_of_checkComponents_eq_error (hwhole.symm.trans h)
      rw [← validate_of_check_eq_ok hbridge hlimit] at hbefore
      refine .component before c after error hsplit (validate_eq_ok_iff_keepsRules.mp hbefore)
        ((checkComponents_singleton_eq_error_iff ?_).mp hc)
      simp

theorem validate_eq_error_of_breaksFirst (h : config.BreaksFirst error) :
    config.validate = .error error := by
  cases h with
  | ns agent bridge =>
    unfold validate
    rw [bridge]
    rfl
  | agent ns bridge nonempty =>
    unfold validate BridgeConfig.check
    rw [bridge]
    dsimp only
    rw [if_neg (by simpa using nonempty)]
    rfl
  | concurrency bridge zero =>
    unfold validate
    rw [BridgeConfig.check_eq_ok_iff.mpr bridge, if_pos zero]
    rfl
  | component before c after _ split_eq keeps first =>
    have hbridge : config.bridge.check = .ok () := BridgeConfig.check_eq_ok_iff.mpr keeps.bridge
    have hvalidate := validate_of_check_eq_ok hbridge keeps.concurrency
    have hbefore : checkComponents config.bridge [] before = .ok () :=
      (hvalidate before).symm.trans (validate_eq_ok_iff_keepsRules.mpr keeps)
    have hc : checkComponents config.bridge ((before.map (·.name)).reverse ++ []) [c] =
        .error error := (checkComponents_singleton_eq_error_iff (by simp)).mpr first
    calc config.validate
      _ = checkComponents config.bridge [] (before ++ ([c] ++ after)) := by
        rw [List.singleton_append, ← split_eq]
        exact hvalidate config.components
      _ = .error error := by
        rw [checkComponents_append, hbefore]
        change checkComponents config.bridge _ ([c] ++ after) = _
        rw [checkComponents_append, hc]
        rfl

structure JudgedByRules (config : SurveyConfig) : Prop where
  accepted_iff : config.validate = .ok () ↔ config.KeepsRules
  refused_iff : ∀ error, config.validate = .error error ↔ config.BreaksFirst error
  definite : ¬ config.KeepsRules → ∃! error, config.BreaksFirst error

/-- A configuration is accepted just where it keeps the rules, and else refused for the first that
counts of those that it breaks. -/
theorem judged_by_rules (config : SurveyConfig) : config.JudgedByRules := by
  have hrefused : ∀ error, config.validate = .error error ↔ config.BreaksFirst error := fun _ =>
    ⟨breaksFirst_of_validate_eq_error, validate_eq_error_of_breaksFirst⟩
  refine ⟨validate_eq_ok_iff_keepsRules, hrefused, ?_⟩
  intro hbroken
  cases hvalidate : config.validate with
  | ok u => exact absurd (validate_eq_ok_iff_keepsRules.mp hvalidate) hbroken
  | error e =>
    refine ⟨e, (hrefused e).mp hvalidate, ?_⟩
    intro other hother
    exact Except.error.inj (((hrefused other).mpr hother).symm.trans hvalidate)

end SurveyConfig

end ClusterSurvey
