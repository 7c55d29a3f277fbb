import ClusterSurvey.Proofs.Lines
import ClusterSurvey.Text.LowerCase

/-! Lower-casing is done once: what comes out of it stays as it is (`toLower_toLower`). It makes no
blanks, dashes or `=` either, so a text that is trimmed is still trimmed in lower case. -/
namespace ClusterSurvey.Text

section Runs

def IsCapital (run : Nat × Nat × Nat × Nat) (n : Nat) : Prop :=
  run.1 ≤ n ∧ n ≤ run.2.1 ∧ (n - run.1) % run.2.2.1 = 0

theorem exists_run_of_lowerCodeIn {runs : List (Nat × Nat × Nat × Nat)} {n m : Nat}
    (h : lowerCodeIn runs n = some m) :
    ∃ run ∈ runs, IsCapital run n ∧ m = run.2.2.2 + (n - run.1) := by
  induction runs with
  | nil => cases h
  | cons run rest ih =>
    rw [lowerCodeIn] at h
    split at h
    · rename_i hcapital
      exact ⟨run, List.mem_cons_self, hcapital, (Option.some.inj h).symm⟩
    · obtain ⟨other, hother, hform⟩ := ih h
      exact ⟨other, List.mem_cons_of_mem _ hother, hform⟩

theorem lowerCodeIn_eq_none {runs : List (Nat × Nat × Nat × Nat)} {n : Nat}
    (h : ∀ run ∈ runs, ¬ IsCapital run n) : lowerCodeIn runs n = none := by
  induction runs with
  | nil => rfl
  | cons run rest ih =>
    obtain ⟨hrun, hrest⟩ := List.forall_mem_cons.mp h
    rw [lowerCodeIn]
    exact (if_neg hrun).trans (ih hrest)

/-- Whether no form that one run gives is a capital of another. The spans lie apart, or both runs
pass over every other code point and the one meets only what the other passes over. -/
def apart (run other : Nat × Nat × Nat × Nat) : Bool :=
  Nat.blt other.2.1 run.2.2.2 || Nat.blt (run.2.2.2 + (run.2.1 - run.1)) other.1 ||
    (other.2.2.1 == 2 && (run.2.2.1 == 2 || run.1 == run.2.1) && run.2.2.2 % 2 != other.1 % 2)

theorem not_isCapital_of_apart {run other : Nat × Nat × Nat × Nat} {n : Nat}
    (h : apart run other = true) (hn : IsCapital run n) :
    ¬ IsCapital other (run.2.2.2 + (n - run.1)) := by
  obtain ⟨first, last, step, target⟩ := run
  obtain ⟨first', last', step', target'⟩ := other
  simp only [apart, Nat.blt_eq, Bool.or_eq_true, Bool.and_eq_true, beq_iff_eq, bne_iff_ne] at h
  simp only [IsCapital] at hn ⊢
  rintro ⟨hfirst, hlast, hstep⟩
  rcases h with (h | h) | ⟨⟨rfl, rfl | rfl⟩, h⟩ <;> omega

/-- Whether a run gives forms that are letters: characters, none of them blank, a sign of ASCII or
`İ`, which is the one character with a form of its own. -/
def givesLetters (run : Nat × Nat × Nat × Nat) : Bool :=
  let first := run.2.2.2
  let last := first + (run.2.1 - run.1)
  0x61 ≤ first && (last < 0x85 || 0xA0 < first) && (last < 0x130 || 0x130 < first) &&
    (last < 0x1680 || 0x1680 < first) &&
    (last < 0x2000 || (0x205F < first && last < 0x3000) || 0x3000 < first) &&
    (last < 0xD800 || (0xDFFF < first && last < 0x110000))

theorem lowerRuns_apart : (lowerRuns.all fun run => lowerRuns.all (apart run)) = true := by
  decide +kernel

theorem lowerRuns_givesLetters : lowerRuns.all givesLetters = true := by decide +kernel

theorem lowerCodeIn_lowerRuns_of_eq_some {n m : Nat} (h : lowerCodeIn lowerRuns n = some m) :
    lowerCodeIn lowerRuns m = none := by
  obtain ⟨run, hrun, hcapital, rfl⟩ := exists_run_of_lowerCodeIn h
  apply lowerCodeIn_eq_none
  intro other hother
  have hall := List.all_eq_true.mp lowerRuns_apart run hrun
  exact not_isCapital_of_apart (List.all_eq_true.mp hall other hother) hcapital

end Runs

def isMark (c : Char) : Bool := isBlank c || c = '-' || c = '='

theorem isMark_eq_false_iff {c : Char} :
    isMark c = false ↔ isBlank c = false ∧ c ≠ '-' ∧ c ≠ '=' := by
  simp [isMark, and_assoc]

theorem letter_of_lowerCodeIn {n m : Nat} (h : lowerCodeIn lowerRuns n = some m) :
    (Char.ofNat m).toNat = m ∧ Char.ofNat m ≠ 'İ' ∧ isMark (Char.ofNat m) = false := by
  obtain ⟨run, hrun, hcapital, hm⟩ := exists_run_of_lowerCodeIn h
  have hletters := List.all_eq_true.mp lowerRuns_givesLetters run hrun
  obtain ⟨first, last, step, target⟩ := run
  simp only [givesLetters, IsCapital, Bool.and_eq_true, Bool.or_eq_true, decide_eq_true_eq]
    at hletters hcapital hm
  have hvalid : m.isValidChar := by
    unfold Nat.isValidChar
    omega
  have hcode : (Char.ofNat m).toNat = m := by
    rw [Char.ofNat, dif_pos hvalid]
    rfl
  have hne : ∀ c : Char, m ≠ c.toNat → Char.ofNat m ≠ c := by
    rintro c hc rfl
    exact hc hcode.symm
  have hblank : isBlank (Char.ofNat m) = false := by
    simp only [isBlank, hcode, Bool.or_eq_false_iff, Bool.and_eq_false_iff, decide_eq_false_iff_not]
    omega
  have hdotted : m ≠ 'İ'.toNat := by
    change m ≠ 0x130
    omega
  have hdash : m ≠ '-'.toNat := by
    change m ≠ 0x2D
    omega
  have hbinds : m ≠ '='.toNat := by
    change m ≠ 0x3D
    omega
  exact ⟨hcode, hne _ hdotted, isMark_eq_false_iff.mpr ⟨hblank, hne _ hdash, hne _ hbinds⟩⟩

section Characters

variable {c x : Char} {form : List Char}

def IsLower (c : Char) : Prop := c ≠ 'Σ' ∧ lowerChar c = [c]

instance (c : Char) : Decidable (IsLower c) := inferInstanceAs (Decidable (_ ∧ _))

/-- What stands for a character in lower case. A sigma has two forms, and its place decides. -/
inductive LowersTo : Char → List Char → Prop where
  | sigma : LowersTo 'Σ' ['σ']
  | finalSigma : LowersTo 'Σ' ['ς']
  | other (c : Char) (h : c ≠ 'Σ') : LowersTo c (lowerChar c)

theorem lowerChar_cases (c : Char) :
    lowerChar c = ['i', '\u0307'] ∨
      (∃ m, lowerCodeIn lowerRuns c.toNat = some m ∧ lowerChar c = [Char.ofNat m]) ∨
        lowerChar c = [c] := by
  unfold lowerChar
  split
  · exact .inl rfl
  · cases h : lowerCodeIn lowerRuns c.toNat with
    | none => exact .inr (.inr rfl)
    | some m => exact .inr (.inl ⟨m, rfl, rfl⟩)

theorem isLower_ofNat {n m : Nat} (h : lowerCodeIn lowerRuns n = some m) :
    IsLower (Char.ofNat m) := by
  obtain ⟨hcode, hdotted, _⟩ := letter_of_lowerCodeIn h
  have hform : lowerCodeIn lowerRuns (Char.ofNat m).toNat = none := by
    rw [hcode]
    exact lowerCodeIn_lowerRuns_of_eq_some h
  constructor
  · intro hsigma
    rw [hsigma] at hform
    exact absurd hform (by decide)
  · unfold lowerChar
    rw [if_neg hdotted, hform]

theorem LowersTo.ne_nil (h : LowersTo c form) : form ≠ [] := by
  cases h with
  | sigma => simp
  | finalSigma => simp
  | other c h =>
    obtain h | ⟨m, _, h⟩ | h := lowerChar_cases c <;> simp [h]

theorem LowersTo.isLower (h : LowersTo c form) (hx : x ∈ form) : IsLower x := by
  cases h with
  | sigma => rw [List.mem_singleton.mp hx]; decide
  | finalSigma => rw [List.mem_singleton.mp hx]; decide
  | other c hc =>
    obtain h | ⟨m, hm, h⟩ | h := lowerChar_cases c <;> rw [h] at hx
    · obtain rfl | rfl : x = 'i' ∨ x = '\u0307' := by simpa using hx
      · decide
      · decide
    · rw [List.mem_singleton.mp hx]
      exact isLower_ofNat hm
    · rw [List.mem_singleton.mp hx]
      exact ⟨hc, h⟩

theorem LowersTo.eq_of_isMark (h : LowersTo c form) (hx : x ∈ form) (hmark : isMark x = true) :
    x = c := by
  cases h with
  | sigma => rw [List.mem_singleton.mp hx] at hmark; exact absurd hmark (by decide)
  | finalSigma => rw [List.mem_singleton.mp hx] at hmark; exact absurd hmark (by decide)
  | other c hc =>
    obtain h | ⟨m, hm, h⟩ | h := lowerChar_cases c <;> rw [h] at hx
    · obtain rfl | rfl : x = 'i' ∨ x = '\u0307' := by simpa using hx
      · exact absurd hmark (by decide)
      · exact absurd hmark (by decide)
    · rw [List.mem_singleton.mp hx, (letter_of_lowerCodeIn hm).2.2] at hmark
      cases hmark
    · exact List.mem_singleton.mp hx

end Characters

section Texts

variable {before cs : List Char} {c x : Char}

theorem exists_lowersTo (before : List Char) (c : Char) (rest : List Char) :
    ∃ form, LowersTo c form ∧
      lowerAfter before (c :: rest) = form ++ lowerAfter (c :: before) rest := by
  rw [lowerAfter]
  split
  · rename_i hc
    subst hc
    refine ⟨_, ?_, rfl⟩
    unfold lowerSigma
    split
    · exact .finalSigma
    · exact .sigma
  · rename_i hc
    exact ⟨_, .other c hc, rfl⟩

theorem exists_lowersTo_of_mem (h : x ∈ lowerAfter before cs) :
    ∃ c ∈ cs, ∃ form, LowersTo c form ∧ x ∈ form := by
  induction cs generalizing before with
  | nil => cases h
  | cons c rest ih =>
    obtain ⟨form, hform, heq⟩ := exists_lowersTo before c rest
    rw [heq, List.mem_append] at h
    rcases h with hx | hx
    · exact ⟨c, List.mem_cons_self, form, hform, hx⟩
    · obtain ⟨d, hd, hx⟩ := ih hx
      exact ⟨d, List.mem_cons_of_mem _ hd, hx⟩

theorem lowerAfter_eq_self (h : ∀ c ∈ cs, IsLower c) : lowerAfter before cs = cs := by
  induction cs generalizing before with
  | nil => rfl
  | cons c rest ih =>
    obtain ⟨⟨hsigma, hc⟩, hrest⟩ := List.forall_mem_cons.mp h
    rw [lowerAfter, if_neg hsigma, hc, ih hrest, List.singleton_append]

theorem toLower_eq_self (h : ∀ c ∈ cs, IsLower c) : toLower cs = cs := lowerAfter_eq_self h

theorem isLower_of_mem_toLower (h : x ∈ toLower cs) : IsLower x := by
  obtain ⟨c, _, form, hform, hmem⟩ := exists_lowersTo_of_mem h
  exact hform.isLower hmem

@[simp] theorem toLower_toLower (cs : List Char) : toLower (toLower cs) = toLower cs :=
  toLower_eq_self fun _ => isLower_of_mem_toLower

theorem mem_of_mem_toLower (h : x ∈ toLower cs) (hmark : isMark x = true) : x ∈ cs := by
  obtain ⟨c, hc, form, hform, hmem⟩ := exists_lowersTo_of_mem h
  rwa [hform.eq_of_isMark hmem hmark]

theorem toLower_ne_nil (h : cs ≠ []) : toLower cs ≠ [] := by
  obtain ⟨c, rest, rfl⟩ := List.exists_cons_of_ne_nil h
  obtain ⟨form, hform, heq⟩ := exists_lowersTo [] c rest
  unfold toLower
  rw [heq]
  exact List.append_ne_nil_of_left_ne_nil hform.ne_nil _

theorem head?_eq_of_head?_toLower (h : (toLower cs).head? = some x) (hmark : isMark x = true) :
    cs.head? = some x := by
  cases cs with
  | nil => cases h
  | cons c rest =>
    obtain ⟨form, hform, heq⟩ := exists_lowersTo [] c rest
    unfold toLower at h
    rw [heq, List.head?_append_of_ne_nil _ hform.ne_nil] at h
    rw [hform.eq_of_isMark (List.mem_of_head? h) hmark]
    rfl

theorem exists_lowerAfter_concat (before cs : List Char) (c : Char) :
    ∃ front form, LowersTo c form ∧ lowerAfter before (cs ++ [c]) = front ++ form := by
  induction cs generalizing before with
  | nil =>
    obtain ⟨form, hform, heq⟩ := exists_lowersTo before c []
    exact ⟨[], form, hform, by simpa [lowerAfter] using heq⟩
  | cons d rest ih =>
    obtain ⟨form', _, heq'⟩ := exists_lowersTo before d (rest ++ [c])
    obtain ⟨front, form, hform, heq⟩ := ih (d :: before)
    refine ⟨form' ++ front, form, hform, ?_⟩
    rw [List.cons_append, heq', heq, List.append_assoc]

theorem getLast?_eq_of_getLast?_toLower (h : (toLower cs).getLast? = some x)
    (hmark : isMark x = true) : cs.getLast? = some x := by
  rcases List.eq_nil_or_concat' cs with rfl | ⟨front, c, rfl⟩
  · cases h
  · obtain ⟨front', form, hform, heq⟩ := exists_lowerAfter_concat [] front c
    unfold toLower at h
    rw [heq, List.getLast?_append_of_ne_nil _ hform.ne_nil] at h
    rw [hform.eq_of_isMark (List.mem_of_getLast? h) hmark, List.getLast?_concat]

theorem trim_toLower (h : trim cs = cs) : trim (toLower cs) = toLower cs := by
  have hmark : ∀ {c}, isBlank c = true → isMark c = true := fun hc => by simp [isMark, hc]
  obtain ⟨hhead, hlast⟩ := trim_eq_self_iff.mp h
  apply trim_eq_self_iff.mpr
  constructor
  · intro x hx
    by_contra hblank
    have hx' := head?_eq_of_head?_toLower hx (hmark (eq_true_of_ne_false hblank))
    exact hblank (hhead x hx')
  · intro x hx
    by_contra hblank
    have hx' := getLast?_eq_of_getLast?_toLower hx (hmark (eq_true_of_ne_false hblank))
    exact hblank (hlast x hx')

end Texts

end ClusterSurvey.Text
