import ClusterSurvey.Text.Split
import Mathlib.Data.List.Infix

/-! Where a text occurs in another that is put together of several parts. Between two parts there may
stand a text that no occurrence can touch; what occurs in the whole then occurs in one of the parts
(`Text.Fences.infix_iff`). -/
namespace ClusterSurvey.Text

variable {needle mid : List Char}

theorem contains_eq_true_iff {hay : List Char} : contains needle hay = true ↔ needle <:+: hay := by
  induction hay with
  | nil => simp [contains]
  | cons c rest ih =>
    rw [contains, Bool.or_eq_true, ih, List.isPrefixOf_iff_prefix, List.infix_cons_iff]

/-- A text that no occurrence of `needle` can hold, lie in or overlap. -/
structure Fences (needle mid : List Char) : Prop where
  apart : ¬ needle <:+: mid
  whole : ¬ mid <:+: needle
  front : ∀ t ∈ mid.inits, t <:+ needle → t = []
  back : ∀ t ∈ mid.tails, t <+: needle → t = []

instance : Decidable (Fences needle mid) :=
  decidable_of_iff
    (¬ needle <:+: mid ∧ ¬ mid <:+: needle ∧ (∀ t ∈ mid.inits, t <:+ needle → t = []) ∧
      ∀ t ∈ mid.tails, t <+: needle → t = [])
    ⟨fun h => ⟨h.1, h.2.1, h.2.2.1, h.2.2.2⟩, fun h => ⟨h.apart, h.whole, h.front, h.back⟩⟩

namespace Fences

variable (h : Fences needle mid)
include h

theorem infix_append_iff {after : List Char} : needle <:+: mid ++ after ↔ needle <:+: after := by
  refine ⟨?_, fun hafter => hafter.trans (List.suffix_append mid after).isInfix⟩
  intro hocc
  obtain hmid | hafter | ⟨front, rest, rfl, hfront, hrest⟩ := List.infix_append_iff.mp hocc
  · exact absurd hmid h.apart
  · exact hafter
  · rw [h.back front ((List.mem_tails _ _).mpr hfront) (List.prefix_append _ _)]
    exact hrest.isInfix

theorem infix_iff {before after : List Char} :
    needle <:+: before ++ (mid ++ after) ↔ needle <:+: before ∨ needle <:+: after := by
  rw [List.infix_append_iff, h.infix_append_iff]
  refine ⟨?_, fun hocc => hocc.imp_right .inl⟩
  rintro (hbefore | hafter | ⟨front, rest, rfl, hfront, hrest⟩)
  · exact .inl hbefore
  · exact .inr hafter
  · -- An occurrence that begins in `before` ends in `mid`, or it holds all of `mid`.
    obtain hend | hhold := List.prefix_or_prefix_of_prefix hrest (List.prefix_append mid after)
    · rw [h.front rest ((List.mem_inits _ _).mpr hend) (List.suffix_append _ _), List.append_nil]
      exact .inl hfront.isInfix
    · exact absurd (hhold.isInfix.trans (List.suffix_append front rest).isInfix) h.whole

end Fences

end ClusterSurvey.Text
