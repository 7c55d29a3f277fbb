import ClusterSurvey.Json.Printer
import ClusterSurvey.Proofs.Lines
import ClusterSurvey.Proofs.TextBytes

/-! What texts the readers of decimal numbers take, and for which number: digits, however many
zeros in front, with at most one sign before them. What is printed in decimal is among them. -/
namespace ClusterSurvey.Text

structure Digits (cs : List Char) (n : Nat) : Prop where
  nonempty : cs ≠ []
  digit : ∀ c ∈ cs, c.isDigit
  value : Nat.ofDigitChars 10 cs 0 = n

/-- Digits with at most one sign in front. -/
inductive Numeral : List Char → Int → Prop where
  | bare {cs : List Char} {n : Nat} (h : Digits cs n) : Numeral cs n
  | plus {cs : List Char} {n : Nat} (h : Digits cs n) : Numeral ('+' :: cs) n
  | minus {cs : List Char} {n : Nat} (h : Digits cs n) : Numeral ('-' :: cs) (-n)

variable {bound n : Nat} {i : Int} {cs : List Char}

theorem isDigit_of_digitValue {c : Char} {d : Nat} (h : digitValue c = some d) : c.isDigit := by
  unfold digitValue at h
  split at h
  · rename_i hrange
    simpa [Char.isDigit, Char.le_def] using hrange
  · cases h

theorem isDigit_of_digitsOnto {value : Nat} (h : digitsOnto value cs = some n) :
    ∀ c ∈ cs, c.isDigit := by
  induction cs generalizing value with
  | nil => simp
  | cons c cs ih =>
    rw [digitsOnto] at h
    cases hc : digitValue c with
    | none =>
      rw [hc] at h
      cases h
    | some d =>
      rw [hc] at h
      exact List.forall_mem_cons.mpr ⟨isDigit_of_digitValue hc, ih h⟩

theorem digits_eq_some_iff : digits cs = some n ↔ Digits cs n := by
  cases cs with
  | nil =>
    constructor
    · intro h
      cases h
    · intro h
      exact absurd rfl h.nonempty
  | cons c cs =>
    constructor
    · intro h
      have hdigit := isDigit_of_digitsOnto h
      refine ⟨List.cons_ne_nil c cs, hdigit, ?_⟩
      exact Option.some.inj ((digitsOnto_of_isDigit hdigit 0).symm.trans h)
    · intro h
      exact (digitsOnto_of_isDigit h.digit 0).trans (congrArg some h.value)

theorem digits_decimal_repr (n : Nat) : Digits (Nat.repr n).toList n := by
  rw [Nat.toList_repr]
  exact digits_eq_some_iff.mp (digits_decimal n)

theorem Digits.head?_ne (h : Digits cs n) {c : Char} (hc : c.isDigit = false) :
    cs.head? ≠ some c := by
  intro hhead
  have hdigit := h.digit c (List.mem_of_mem_head? hhead)
  rw [hc] at hdigit
  cases hdigit

theorem unsigned_eq_of_head?_ne (h : cs.head? ≠ some '+') :
    unsigned bound cs = (digits cs).filter (· < bound) := by
  unfold unsigned
  split
  · exact absurd rfl h
  · rfl

theorem unsigned_eq_some_of_digits (h : Digits cs n) (hn : n < bound) :
    unsigned bound cs = some n := by
  rw [unsigned_eq_of_head?_ne (h.head?_ne (by decide)), digits_eq_some_iff.mpr h]
  exact Option.filter_eq_some_iff.mpr ⟨rfl, decide_eq_true hn⟩

theorem numeral_plus_iff : Numeral ('+' :: cs) i ↔ ∃ n, Digits cs n ∧ (n : Int) = i := by
  constructor
  · intro h
    cases h with
    | bare h => exact absurd rfl (h.head?_ne (by decide))
    | plus h => exact ⟨_, h, rfl⟩
  · rintro ⟨n, h, rfl⟩
    exact .plus h

theorem numeral_minus_iff : Numeral ('-' :: cs) i ↔ ∃ n, Digits cs n ∧ -(n : Int) = i := by
  constructor
  · intro h
    cases h with
    | bare h => exact absurd rfl (h.head?_ne (by decide))
    | minus h => exact ⟨_, h, rfl⟩
  · rintro ⟨n, h, rfl⟩
    exact .minus h

theorem numeral_bare_iff (hplus : ∀ rest, cs = '+' :: rest → False)
    (hminus : ∀ rest, cs = '-' :: rest → False) :
    Numeral cs i ↔ ∃ n, Digits cs n ∧ (n : Int) = i := by
  constructor
  · intro h
    cases h with
    | bare h => exact ⟨_, h, rfl⟩
    | plus => exact (hplus _ rfl).elim
    | minus => exact (hminus _ rfl).elim
  · rintro ⟨n, h, rfl⟩
    exact .bare h

theorem signed_eq_some_iff :
    signed bound cs = some i ↔ Numeral cs i ∧ -(bound : Int) ≤ i ∧ i < bound := by
  unfold signed
  rw [Option.filter_eq_some_iff, decide_eq_true_eq]
  refine and_congr_left fun _ => ?_
  split
  case h_1 rest =>
    rw [Option.map_eq_some_iff, numeral_plus_iff]
    simp only [digits_eq_some_iff, Int.ofNat_eq_natCast]
  case h_2 rest =>
    -- The number becomes an integer before it is negated.
    have hlift : (do let n ← digits rest; pure (n : Int)) = (digits rest).map Int.ofNat := by
      cases digits rest <;> rfl
    rw [hlift, Option.map_map, Option.map_eq_some_iff, numeral_minus_iff]
    simp only [digits_eq_some_iff, Function.comp_apply, Int.ofNat_eq_natCast]
  case h_3 hplus hminus =>
    rw [Option.map_eq_some_iff, numeral_bare_iff hplus hminus]
    simp only [digits_eq_some_iff, Int.ofNat_eq_natCast]

theorem numeral_intText (i : Int) : Numeral (Json.intText i).toList i := by
  cases i with
  | ofNat n => exact .bare (digits_decimal_repr n)
  | negSucc n =>
    have htext : (Json.intText (.negSucc n)).toList = '-' :: (Nat.repr (n + 1)).toList := by
      change ("-" ++ Nat.repr (n + 1)).toList = _
      rw [String.toList_append]
      rfl
    rw [htext]
    exact .minus (digits_decimal_repr (n + 1))

theorem not_isBlank_of_isDigit {c : Char} (h : c.isDigit) : isBlank c = false := by
  have hrange : 48 ≤ c.toNat ∧ c.toNat ≤ 57 := Char.isDigit_iff_toNat.mp h
  simp only [isBlank, Bool.or_eq_false_iff, Bool.and_eq_false_iff, decide_eq_false_iff_not]
  omega

theorem Digits.trim_eq (h : Digits cs n) : trim cs = cs :=
  trim_eq_self fun c hc => not_isBlank_of_isDigit (h.digit c hc)

theorem Numeral.trim_eq (h : Numeral cs i) : trim cs = cs := by
  have hsigned : ∀ {sign : Char} {rest : List Char} {n : Nat}, isBlank sign = false →
      Digits rest n → trim (sign :: rest) = sign :: rest := by
    intro sign rest n hsign hrest
    refine trim_eq_self (List.forall_mem_cons.mpr ⟨hsign, ?_⟩)
    exact fun c hc => not_isBlank_of_isDigit (hrest.digit c hc)
  cases h with
  | bare h => exact h.trim_eq
  | plus h => exact hsigned (by decide) h
  | minus h => exact hsigned (by decide) h

end ClusterSurvey.Text
