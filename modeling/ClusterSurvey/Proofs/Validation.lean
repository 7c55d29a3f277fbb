import ClusterSurvey.Config.Validation
import Mathlib.Data.List.Nodup

/-! What is true of a configuration that is accepted. The rules are checked one after the other;
accepted is a configuration that keeps all of them. -/
namespace ClusterSurvey

theorem bind_eq_ok_unit_iff {ε : Type} {first : Except ε Unit} {rest : Unit → Except ε Unit} :
    first >>= rest = .ok () ↔ first = .ok () ∧ rest () = .ok () := by
  cases first with
  | error e => simp [bind, Except.bind]
  | ok u => simp [bind, Except.bind]

theorem throw_bind_ne_ok {ε : Type} (error : ε) (rest : Unit → Except ε Unit) :
    ¬ (throw error >>= rest : Except ε Unit) = .ok () := by
  intro h
  cases h

theorem ComponentConfig.check_eq_ok_iff (bridge : BridgeConfig) (c : ComponentConfig) :
    c.check bridge = .ok () ↔
      c.name ≠ "" ∧ (∀ char ∈ c.name.toList, isNameChar char = true) ∧ c.ns ≠ "" ∧
        c.checkSource bridge = .ok () := by
  have hthrow : ∀ error : ConfigError, (throw error : Except ConfigError Unit) ≠ .ok () := by
    intro error h
    cases h
  have hempty : ∀ text : String, text.isEmpty = true ↔ text = "" := by simp
  unfold check
  by_cases hname : c.name = ""
  · rw [if_pos ((hempty _).mpr hname)]
    simp only [hthrow, hname, ne_eq, not_true, false_and]
  · rw [if_neg (mt (hempty _).mp hname)]
    by_cases hchars : ∀ char ∈ c.name.toList, isNameChar char = true
    · rw [if_neg (by simpa using hchars)]
      by_cases hns : c.ns = ""
      · rw [if_pos ((hempty _).mpr hns)]
        simp only [hthrow, hns, ne_eq, not_true, false_and, and_false]
      · rw [if_neg (mt (hempty _).mp hns)]
        exact ⟨fun h => ⟨hname, hchars, hns, h⟩, fun h => h.2.2.2⟩
    · rw [if_pos (by simpa using hchars)]
      simp only [hthrow, hchars, false_and, and_false]

theorem checkComponents_cons_eq_ok_iff (bridge : BridgeConfig) (seen : List String)
    (c : ComponentConfig) (rest : List ComponentConfig) :
    checkComponents bridge seen (c :: rest) = .ok () ↔
      c.check bridge = .ok () ∧ c.name ∉ seen ∧
        checkComponents bridge (c.name :: seen) rest = .ok () := by
  rw [checkComponents, bind_eq_ok_unit_iff]
  by_cases hseen : c.name ∈ seen
  · rw [if_pos (by simpa using hseen)]
    simp only [throw_bind_ne_ok, hseen, not_true, false_and]
  · rw [if_neg (by simpa using hseen)]
    simp only [hseen, not_false_eq_true, true_and]

theorem checkComponents_eq_ok_iff (bridge : BridgeConfig) (seen : List String)
    (components : List ComponentConfig) :
    checkComponents bridge seen components = .ok () ↔
      (∀ c ∈ components, c.check bridge = .ok ()) ∧ (components.map (·.name)).Nodup ∧
        ∀ c ∈ components, c.name ∉ seen := by
  induction components generalizing seen with
  | nil => simp [checkComponents, pure, Except.pure]
  | cons c rest ih =>
    -- The names behind `c` differ from the names before it and from its own.
    have hrest : (∀ d ∈ rest, d.name ∉ c.name :: seen) ↔
        c.name ∉ rest.map (·.name) ∧ ∀ d ∈ rest, d.name ∉ seen := by
      simp only [List.mem_cons, not_or, List.mem_map, not_exists, not_and]
      constructor
      · intro h
        exact ⟨fun d hd => (h d hd).1, fun d hd => (h d hd).2⟩
      · rintro ⟨hname, hseen⟩ d hd
        exact ⟨hname d hd, hseen d hd⟩
    rw [checkComponents_cons_eq_ok_iff, ih, hrest, List.map_cons, List.nodup_cons,
      List.forall_mem_cons, List.forall_mem_cons]
    tauto

theorem SurveyConfig.validate_eq_ok_iff (config : SurveyConfig) :
    config.validate = .ok () ↔
      config.bridge.check = .ok () ∧ config.concurrency ≠ 0 ∧
        (∀ c ∈ config.components, c.check config.bridge = .ok ()) ∧
          (config.components.map (·.name)).Nodup := by
  rw [validate, bind_eq_ok_unit_iff]
  by_cases hzero : config.concurrency = 0
  · rw [if_pos hzero]
    simp only [throw_bind_ne_ok, hzero, ne_eq, not_true, false_and]
  · rw [if_neg hzero]
    simp only [hzero, ne_eq, not_false_eq_true, true_and]
    rw [checkComponents_eq_ok_iff]
    simp

end ClusterSurvey
