/-! Cutting a text at a separator: at its first occurrence, at every occurrence, and into
lines. -/
namespace ClusterSurvey.Text

/-- What stands before and after the first `sep`; nothing if `sep` does not occur. -/
def splitOnce (sep : Char) (cs : List Char) : Option (List Char × List Char) :=
  match cs.dropWhile (· ≠ sep) with
  | [] => none
  | _ :: rest => some (cs.takeWhile (· ≠ sep), rest)

theorem splitOnce_eq_none_iff {sep : Char} {cs : List Char} :
    splitOnce sep cs = none ↔ sep ∉ cs := by
  induction cs with
  | nil => simp [splitOnce]
  | cons c cs ih =>
    by_cases h : c = sep
    · subst h
      simp [splitOnce]
    · have hstep : splitOnce sep (c :: cs) = none ↔ splitOnce sep cs = none := by
        simp only [splitOnce, List.dropWhile_cons, decide_eq_true_eq, ne_eq, h, not_false_eq_true,
          if_true]
        split <;> simp
      simp [hstep, ih, Ne.symm h]

/-- The separator written back between the two parts gives the text, and the first part is
free of it. -/
theorem splitOnce_eq_some_iff {sep : Char} {cs a b : List Char} :
    splitOnce sep cs = some (a, b) ↔ cs = a ++ sep :: b ∧ sep ∉ a := by
  induction cs generalizing a with
  | nil => simp [splitOnce]
  | cons c cs ih =>
    by_cases h : c = sep
    · subst h
      cases a with
      | nil => simp [splitOnce]
      | cons x a =>
        simp only [splitOnce, List.dropWhile_cons, ne_eq, not_true_eq_false, decide_false]
        constructor
        · simp
        · rintro ⟨hc, hs⟩
          exact absurd (List.mem_cons.mpr (.inl (List.cons.inj hc).1)) hs
    · have hstep : splitOnce sep (c :: cs) =
          (splitOnce sep cs).map fun p => (c :: p.1, p.2) := by
        simp only [splitOnce, List.dropWhile_cons, List.takeWhile_cons, decide_eq_true_eq, ne_eq, h,
          not_false_eq_true, if_true]
        split <;> simp
      rw [hstep, Option.map_eq_some_iff]
      constructor
      · rintro ⟨⟨p, q⟩, hp, heq⟩
        obtain ⟨rfl, rfl⟩ := Prod.mk.injEq .. ▸ heq
        obtain ⟨hc, hs⟩ := ih.mp hp
        exact ⟨by simp [hc], by simp [Ne.symm h, hs]⟩
      · rintro ⟨hc, hs⟩
        cases a with
        | nil => exact absurd (by simpa using hc : c = sep ∧ cs = b).1 h
        | cons x a =>
          obtain ⟨rfl, hcs⟩ : c = x ∧ cs = a ++ sep :: b := by simpa using hc
          exact ⟨(a, b), ih.mpr ⟨hcs, fun hm => hs (List.mem_cons_of_mem _ hm)⟩, rfl⟩

def consHead (c : Char) : List (List Char) → List (List Char)
  | [] => [[c]]
  | p :: ps => (c :: p) :: ps

def pieces (sep : Char) (cs : List Char) : List (List Char) :=
  cs.foldr (fun c ps => if c = sep then [] :: ps else consHead c ps) [[]]

def dropReturn (line : List Char) : List Char :=
  match line.getLast? with
  | some '\r' => line.dropLast
  | _ => line

/-- Lines out of line-feed separated segments: every segment but the last was ended by a line
feed; the last is a line only if something stands in it. -/
def linesOfSegments : List (List Char) → List (List Char)
  | [] => []
  | [last] => if last.isEmpty then [] else [last]
  | s :: rest => dropReturn s :: linesOfSegments rest

def lines (cs : List Char) : List (List Char) := linesOfSegments (pieces '\n' cs)

/-- Whether `needle` stands somewhere in `hay`. -/
def contains (needle hay : List Char) : Bool :=
  match hay with
  | [] => needle.isEmpty
  | _ :: rest => needle.isPrefixOf hay || contains needle rest

end ClusterSurvey.Text
