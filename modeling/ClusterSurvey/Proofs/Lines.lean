import ClusterSurvey.Text.Blank
import ClusterSurvey.Text.Split
import Mathlib.Data.List.DropRight

/-! Blanks around a text, and the lines of a text. A line is read back with at most one carriage
return less, which trimming takes away in any case. -/
namespace ClusterSurvey.Text

variable {before cs after : List Char}

section Trim

theorem trimStart_append (h : ∀ c ∈ before, isBlank c) :
    trimStart (before ++ cs) = trimStart cs :=
  List.dropWhile_append_of_pos h

theorem trimEnd_append (h : ∀ c ∈ after, isBlank c) : trimEnd (cs ++ after) = trimEnd cs := by
  have hreverse : ∀ c ∈ after.reverse, isBlank c := fun c hc => h c (List.mem_reverse.mp hc)
  unfold trimEnd
  rw [List.reverse_append, List.dropWhile_append_of_pos hreverse]

theorem trim_append_append (hbefore : ∀ c ∈ before, isBlank c) (hafter : ∀ c ∈ after, isBlank c) :
    trim (before ++ cs ++ after) = trim cs := by
  unfold trim
  rw [List.append_assoc, trimStart_append hbefore]
  unfold trimStart
  rw [List.dropWhile_append]
  split
  · rename_i hblank
    -- Nothing but blanks: the start takes all of them away.
    have hnil : after.dropWhile isBlank = [] := List.dropWhile_eq_nil_iff.mpr hafter
    rw [hnil, List.isEmpty_iff.mp hblank]
  · exact trimEnd_append hafter

theorem trim_append (h : ∀ c ∈ after, isBlank c) : trim (cs ++ after) = trim cs :=
  @trim_append_append [] cs after (by simp) h

theorem trim_eq_self (h : ∀ c ∈ cs, isBlank c = false) : trim cs = cs := by
  have hkept : ∀ ds : List Char, (∀ c ∈ ds, isBlank c = false) → ds.dropWhile isBlank = ds := by
    intro ds hds
    cases ds with
    | nil => rfl
    | cons c ds => exact List.dropWhile_cons_of_neg (by simp [hds c List.mem_cons_self])
  unfold trim trimStart trimEnd
  rw [hkept cs h, hkept cs.reverse fun c hc => h c (List.mem_reverse.mp hc), List.reverse_reverse]

theorem trim_prefix_trimStart (cs : List Char) : trim cs <+: trimStart cs :=
  List.rdropWhile_prefix isBlank _

theorem isInfix_trim (cs : List Char) : trim cs <:+: cs :=
  (trim_prefix_trimStart cs).isInfix.trans (List.dropWhile_suffix isBlank).isInfix

theorem dropWhile_append_cons {p : Char → Bool} {sep : Char} (h : p sep = false)
    (left right : List Char) :
    (left ++ sep :: right).dropWhile p = left.dropWhile p ++ sep :: right := by
  induction left with
  | nil => simp [h]
  | cons c left ih => cases hc : p c <;> simp [hc, ih]

theorem trim_append_cons {sep : Char} (h : isBlank sep = false) (left right : List Char) :
    trim (left ++ sep :: right) = trimStart left ++ sep :: trimEnd right := by
  have hstart : trimStart (left ++ sep :: right) = trimStart left ++ sep :: right :=
    dropWhile_append_cons h left right
  unfold trim
  rw [hstart]
  unfold trimEnd
  simp [dropWhile_append_cons h]

@[simp] theorem trim_trimStart (cs : List Char) : trim (trimStart cs) = trim cs :=
  congrArg trimEnd (List.dropWhile_idempotent isBlank cs)

@[simp] theorem trim_trimEnd (cs : List Char) : trim (trimEnd cs) = trim cs := by
  have hblank : ∀ c ∈ cs.rtakeWhile isBlank, isBlank c := fun c => List.mem_rtakeWhile_imp
  have hcs : trimEnd cs ++ cs.rtakeWhile isBlank = cs :=
    List.rdropWhile_append_rtakeWhile
  calc trim (trimEnd cs) = trim (trimEnd cs ++ cs.rtakeWhile isBlank) := (trim_append hblank).symm
    _ = trim cs := by rw [hcs]

@[simp] theorem trim_trim (cs : List Char) : trim (trim cs) = trim cs := by
  have hend : trim cs = trimEnd (trimStart cs) := rfl
  rw [hend, trim_trimEnd, trim_trimStart]
  rfl

theorem trimStart_eq_self_iff : trimStart cs = cs ↔ ∀ c ∈ cs.head?, isBlank c = false := by
  unfold trimStart
  rw [List.dropWhile_eq_self_iff]
  cases cs <;> simp

theorem trimEnd_eq_self_iff : trimEnd cs = cs ↔ ∀ c ∈ cs.getLast?, isBlank c = false := by
  have hreverse : trimEnd cs = cs ↔ trimStart cs.reverse = cs.reverse :=
    List.reverse_eq_iff
  rw [hreverse, trimStart_eq_self_iff, List.head?_reverse]

theorem trim_eq_self_iff :
    trim cs = cs ↔
      (∀ c ∈ cs.head?, isBlank c = false) ∧ ∀ c ∈ cs.getLast?, isBlank c = false := by
  rw [← trimStart_eq_self_iff, ← trimEnd_eq_self_iff]
  constructor
  · intro h
    have hstart : trimStart cs = cs := by
      apply (List.dropWhile_suffix isBlank).eq_of_length_le
      calc cs.length = (trim cs).length := by rw [h]
        _ ≤ (trimStart cs).length := (trim_prefix_trimStart cs).length_le
    refine ⟨hstart, ?_⟩
    calc trimEnd cs = trim cs := by rw [trim, hstart]
      _ = cs := h
  · rintro ⟨hstart, hend⟩
    rw [trim, hstart, hend]

theorem exists_eq_append_trim_append (cs : List Char) :
    ∃ before after, cs = before ++ trim cs ++ after ∧ (∀ c ∈ before, isBlank c) ∧
      ∀ c ∈ after, isBlank c := by
  refine ⟨cs.takeWhile isBlank, (trimStart cs).rtakeWhile isBlank, ?_,
    fun c => List.mem_takeWhile_imp, fun c => List.mem_rtakeWhile_imp⟩
  have hend : trim cs ++ (trimStart cs).rtakeWhile isBlank = trimStart cs :=
    List.rdropWhile_append_rtakeWhile
  calc cs = cs.takeWhile isBlank ++ trimStart cs := List.takeWhile_append_dropWhile.symm
    _ = _ := by rw [List.append_assoc, hend]

theorem exists_blanks_of_head?_trim {c : Char} (h : (trim cs).head? = some c) :
    ∃ blanks rest, cs = blanks ++ c :: rest ∧ ∀ b ∈ blanks, isBlank b := by
  obtain ⟨shown, hshown⟩ := List.head?_eq_some_iff.mp h
  obtain ⟨before, after, hcs, hbefore, _⟩ := exists_eq_append_trim_append cs
  refine ⟨before, shown ++ after, ?_, hbefore⟩
  calc cs = before ++ trim cs ++ after := hcs
    _ = before ++ c :: (shown ++ after) := by rw [hshown]; simp

end Trim

section Lines

theorem dropReturn_eq_self {line : List Char} (h : line.getLast? ≠ some '\r') :
    dropReturn line = line := by
  unfold dropReturn
  split
  · rename_i hlast
    exact absurd hlast h
  · rfl

theorem dropReturn_concat (line : List Char) : dropReturn (line ++ ['\r']) = line := by
  unfold dropReturn
  rw [List.getLast?_concat]
  exact List.dropLast_concat

theorem trim_dropReturn (line : List Char) : trim (dropReturn line) = trim line := by
  by_cases h : line.getLast? = some '\r'
  · obtain ⟨front, rfl⟩ := List.getLast?_eq_some_iff.mp h
    have hreturn : ∀ c ∈ ['\r'], isBlank c := List.forall_mem_singleton.mpr rfl
    rw [dropReturn_concat, trim_append hreturn]
  · rw [dropReturn_eq_self h]

theorem pieces_cons (sep c : Char) (cs : List Char) :
    pieces sep (c :: cs) = if c = sep then [] :: pieces sep cs else consHead c (pieces sep cs) :=
  rfl

theorem pieces_eq_splitOn (sep : Char) (cs : List Char) : pieces sep cs = cs.splitOn sep := by
  induction cs with
  | nil => rfl
  | cons c cs ih =>
    rw [pieces_cons, List.splitOn_cons_eq_if_modifyHead, ih]
    by_cases h : c = sep
    · simp [h]
    · cases hrest : cs.splitOn sep with
      | nil => exact absurd hrest (List.splitOn_ne_nil sep cs)
      | cons first rest => simp [h, consHead]

theorem pieces_ne_nil (sep : Char) (cs : List Char) : pieces sep cs ≠ [] := by
  rw [pieces_eq_splitOn]
  exact List.splitOn_ne_nil sep cs

theorem notMem_of_mem_pieces {sep : Char} {piece : List Char} (h : piece ∈ pieces sep cs) :
    sep ∉ piece := by
  induction cs generalizing piece with
  | nil =>
    obtain rfl : piece = [] := List.mem_singleton.mp h
    exact List.not_mem_nil
  | cons c cs ih =>
    rw [pieces_cons] at h
    split at h
    · rcases List.mem_cons.mp h with rfl | hrest
      · simp
      · exact ih hrest
    · rename_i hc
      cases hpieces : pieces sep cs with
      | nil => exact absurd hpieces (pieces_ne_nil sep cs)
      | cons first rest =>
        rw [hpieces, consHead] at h
        rcases List.mem_cons.mp h with rfl | hrest
        · have hfirst := ih (hpieces ▸ List.mem_cons_self)
          simp [Ne.symm hc, hfirst]
        · exact ih (hpieces ▸ List.mem_cons_of_mem _ hrest)

theorem pieces_append_cons {sep : Char} {front : List Char} (h : sep ∉ front)
    (rest : List Char) : pieces sep (front ++ sep :: rest) = front :: pieces sep rest := by
  rw [pieces_eq_splitOn, pieces_eq_splitOn, List.splitOn_append_cons_self_of_not_mem h]

theorem lines_append_cons {line : List Char} (h : '\n' ∉ line) (rest : List Char) :
    lines (line ++ '\n' :: rest) = dropReturn line :: lines rest := by
  unfold lines
  rw [pieces_append_cons h, linesOfSegments]
  exact pieces_ne_nil '\n' rest

theorem lines_flatMap {ls : List (List Char)} (h : ∀ l ∈ ls, '\n' ∉ l) :
    lines (ls.flatMap fun l => l ++ ['\n']) = ls.map dropReturn := by
  induction ls with
  | nil => rfl
  | cons l ls ih =>
    obtain ⟨hl, hls⟩ := List.forall_mem_cons.mp h
    rw [List.flatMap_cons, List.append_assoc, List.singleton_append, lines_append_cons hl, ih hls,
      List.map_cons]

/-- What is read off single lines can be read off what stands between the line feeds. -/
theorem filterMap_linesOfSegments {α : Type} {f : List Char → Option α} (hnil : f [] = none)
    (hreturn : ∀ line, f (dropReturn line) = f line) (segments : List (List Char)) :
    (linesOfSegments segments).filterMap f = segments.filterMap f := by
  induction segments with
  | nil => rfl
  | cons s rest ih =>
    cases rest with
    | nil =>
      cases s with
      | nil => simp [linesOfSegments, hnil]
      | cons c s => rfl
    | cons next rest =>
      have hstep : linesOfSegments (s :: next :: rest) =
          dropReturn s :: linesOfSegments (next :: rest) := rfl
      rw [hstep, List.filterMap_cons, List.filterMap_cons, hreturn, ih]

theorem filterMap_lines {α : Type} {f : List Char → Option α} (hnil : f [] = none)
    (hreturn : ∀ line, f (dropReturn line) = f line) (cs : List Char) :
    (lines cs).filterMap f = (cs.splitOn '\n').filterMap f := by
  rw [lines, filterMap_linesOfSegments hnil hreturn, pieces_eq_splitOn]

theorem exists_splitOn_append (sep : Char) (cs : List Char) :
    ∃ front last, ∀ tail, sep ∉ tail → (cs ++ tail).splitOn sep = front ++ [last ++ tail] := by
  induction cs with
  | nil => exact ⟨[], [], fun tail h => List.splitOn_eq_singleton h⟩
  | cons c cs ih =>
    obtain ⟨front, last, hsplit⟩ := ih
    by_cases hc : c = sep
    · refine ⟨[] :: front, last, fun tail h => ?_⟩
      rw [List.cons_append, List.splitOn_cons_eq_if_modifyHead, if_pos (beq_iff_eq.mpr hc),
        hsplit tail h, List.cons_append]
    · cases front with
      | nil =>
        refine ⟨[], c :: last, fun tail h => ?_⟩
        rw [List.cons_append, List.splitOn_cons_eq_if_modifyHead, if_neg (by simpa using hc),
          hsplit tail h]
        rfl
      | cons first front =>
        refine ⟨(c :: first) :: front, last, fun tail h => ?_⟩
        rw [List.cons_append, List.splitOn_cons_eq_if_modifyHead, if_neg (by simpa using hc),
          hsplit tail h]
        rfl

end Lines

end ClusterSurvey.Text
