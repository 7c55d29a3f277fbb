import ClusterSurvey.Cluster.Selector
import ClusterSurvey.Proofs.Lines

/-! What a selector asks for that is written as one term. The value of the term may hold the comma
that ends it. What is asked for is then the front of the value, and whatever the rest of it says on
top of that. A selector that is written from labels asks for these labels and nothing else, just
where no text among them holds what ends it (`Selector.terms_ofLabels_iff`). -/
namespace ClusterSurvey

theorem Text.exists_pieces_eq_cons (sep : Char) (cs : List Char) :
    ∃ rest, pieces sep cs = cs.takeWhile (· ≠ sep) :: rest := by
  induction cs with
  | nil => exact ⟨[], rfl⟩
  | cons c cs ih =>
    obtain ⟨rest, hrest⟩ := ih
    rw [pieces_cons]
    by_cases h : c = sep
    · exact ⟨pieces sep cs, by simp [h]⟩
    · exact ⟨rest, by simp [h, hrest, consHead]⟩

namespace Selector

def beforeComma (value : String) : String := String.ofList (value.toList.takeWhile (· ≠ ','))

theorem beforeComma_eq_self_iff {value : String} :
    beforeComma value = value ↔ ',' ∉ value.toList := by
  unfold beforeComma
  rw [← String.toList_inj, String.toList_ofList, List.takeWhile_eq_self_iff]
  constructor
  · intro h hcomma
    simpa using h ',' hcomma
  · intro h char hchar
    exact decide_eq_true fun heq => h (heq ▸ hchar)

structure Plain (key : String) : Prop where
  comma : ',' ∉ key.toList
  equals : '=' ∉ key.toList

instance (key : String) : Decidable (Plain key) :=
  decidable_of_iff (',' ∉ key.toList ∧ '=' ∉ key.toList)
    ⟨fun h => ⟨h.1, h.2⟩, fun h => ⟨h.comma, h.equals⟩⟩

variable {key value : String} {value? : String → Option String}

theorem toList_termText (key value : String) :
    (termText key value).toList = key.toList ++ '=' :: value.toList := by
  simp [termText]

theorem readTerm_eq_some_iff {text : List Char} :
    readTerm text = some (key, value) ↔ text = (termText key value).toList ∧ '=' ∉ key.toList := by
  unfold readTerm
  rw [toList_termText, Option.map_eq_some_iff, ← Text.splitOnce_eq_some_iff]
  constructor
  · rintro ⟨⟨front, back⟩, hsplit, hpair⟩
    cases hpair
    rwa [String.toList_ofList, String.toList_ofList]
  · intro hsplit
    exact ⟨_, hsplit, by rw [String.ofList_toList, String.ofList_toList]⟩

theorem exists_terms_termText_eq_cons (hkey : Plain key) (value : String) :
    ∃ rest, terms (termText key value) = some (key, beforeComma value) :: rest := by
  obtain ⟨rest, hrest⟩ := Text.exists_pieces_eq_cons ',' (termText key value).toList
  have hfirst : (termText key value).toList.takeWhile (· ≠ ',') =
      key.toList ++ '=' :: (beforeComma value).toList := by
    have hplain : ∀ char ∈ key.toList, decide (char ≠ ',') = true := by
      intro char hchar
      exact decide_eq_true fun heq => hkey.comma (heq ▸ hchar)
    unfold beforeComma
    rw [toList_termText, List.takeWhile_append_of_pos hplain, String.toList_ofList]
    simp
  refine ⟨rest.map readTerm, ?_⟩
  have hread : readTerm (termText key (beforeComma value)).toList =
      some (key, beforeComma value) := readTerm_eq_some_iff.mpr ⟨rfl, hkey.equals⟩
  rw [toList_termText] at hread
  unfold terms
  rw [hrest, List.map_cons, hfirst, hread]

theorem value?_of_holds (hkey : Plain key)
    (h : holds value? (some (termText key value)) = true) :
    value? key = some (beforeComma value) := by
  obtain ⟨rest, hrest⟩ := exists_terms_termText_eq_cons hkey value
  have hnonempty : (termText key value).isEmpty = false := by
    unfold termText
    simp
  unfold holds at h
  dsimp only at h
  rw [hrest, hnonempty, Bool.false_or, List.all_cons, Bool.and_eq_true] at h
  simpa using h.1

/-- Labels in which every text ends where its term is cut. A value may hold an equals sign: its
term is cut at the first. -/
structure Unambiguous (labels : Dict String) : Prop where
  plain : ∀ e ∈ labels.entries, Plain e.1
  comma : ∀ e ∈ labels.entries, ',' ∉ e.2.toList

instance (labels : Dict String) : Decidable (Unambiguous labels) :=
  decidable_of_iff ((∀ e ∈ labels.entries, Plain e.1) ∧ ∀ e ∈ labels.entries, ',' ∉ e.2.toList)
    ⟨fun h => ⟨h.1, h.2⟩, fun h => ⟨h.plain, h.comma⟩⟩

variable {labels : Dict String}

theorem toList_ofLabels (labels : Dict String) :
    (ofLabels labels).toList =
      [','].intercalate (labels.entries.map fun e => (termText e.1 e.2).toList) := by
  unfold ofLabels
  rw [String.toList_intercalate, List.map_map]
  rfl

theorem comma_notMem_termText (hkey : Plain key) (hvalue : ',' ∉ value.toList) :
    ',' ∉ (termText key value).toList := by
  rw [toList_termText]
  simp [hkey.comma, hvalue]

theorem terms_ofLabels (h : Unambiguous labels) (hlabels : labels.isEmpty = false) :
    terms (ofLabels labels) = labels.entries.map some := by
  have hne : (labels.entries.map fun e => (termText e.1 e.2).toList) ≠ [] := by
    simpa [Dict.isEmpty] using hlabels
  have hcomma : ∀ text ∈ labels.entries.map (fun e => (termText e.1 e.2).toList), ',' ∉ text := by
    intro text htext
    obtain ⟨e, he, rfl⟩ := List.mem_map.mp htext
    exact comma_notMem_termText (h.plain e he) (h.comma e he)
  unfold terms
  rw [Text.pieces_eq_splitOn, toList_ofLabels, List.splitOn_intercalate ',' hcomma hne,
    List.map_map]
  apply List.map_congr_left
  intro e he
  exact readTerm_eq_some_iff.mpr ⟨rfl, (h.plain e he).equals⟩

theorem plain_of_mem_terms {selector : String} (h : some (key, value) ∈ terms selector) :
    Plain key ∧ ',' ∉ value.toList := by
  obtain ⟨piece, hpiece, hread⟩ := List.mem_map.mp h
  have hcomma := Text.notMem_of_mem_pieces hpiece
  obtain ⟨rfl, hequals⟩ := readTerm_eq_some_iff.mp hread
  rw [toList_termText, List.mem_append, List.mem_cons, not_or, not_or] at hcomma
  exact ⟨⟨hcomma.1, hequals⟩, hcomma.2.2⟩

/-- No other labels come back from their selector. -/
theorem terms_ofLabels_iff :
    terms (ofLabels labels) = labels.entries.map some ↔
      labels.isEmpty = false ∧ Unambiguous labels := by
  constructor
  · intro h
    have hread : ∀ e ∈ labels.entries, Plain e.1 ∧ ',' ∉ e.2.toList := by
      intro e he
      apply plain_of_mem_terms
      rw [h]
      exact List.mem_map_of_mem he
    refine ⟨?_, fun e he => (hread e he).1, fun e he => (hread e he).2⟩
    -- There is a piece in any text, if only an empty one.
    have hne : labels.entries.map some ≠ [] := by
      rw [← h]
      simp [terms, Text.pieces_ne_nil]
    simpa [Dict.isEmpty] using hne
  · rintro ⟨hlabels, hunambiguous⟩
    exact terms_ofLabels hunambiguous hlabels

theorem isEmpty_ofLabels (h : Unambiguous labels) (hlabels : labels.isEmpty = false) :
    (ofLabels labels).isEmpty = false := by
  by_contra hempty
  have hterms := terms_ofLabels h hlabels
  rw [String.isEmpty_iff.mp (eq_true_of_ne_false hempty)] at hterms
  -- The one piece of the empty text is no term.
  have hnone : none ∈ labels.entries.map some := hterms ▸ List.mem_cons_self
  simp at hnone

theorem holds_ofLabels_iff (h : Unambiguous labels) :
    holds value? (some (ofLabels labels)) = true ↔
      ∀ key value, labels.get? key = some value → value? key = some value := by
  cases hlabels : labels.isEmpty with
  | true =>
    have hnone : labels.entries = [] := List.isEmpty_iff.mp hlabels
    simp [Dict.get?_eq_some_iff, hnone, ofLabels, holds]
  | false =>
    simp [Dict.get?_eq_some_iff, holds, isEmpty_ofLabels h hlabels, terms_ofLabels h hlabels]

end Selector

end ClusterSurvey
