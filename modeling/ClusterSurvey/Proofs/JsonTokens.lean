import ClusterSurvey.Json.Printer
import ClusterSurvey.Proofs.TextBytes

/-! The strings and numbers of JSON text. A string is read up to its closing quote, whatever is
escaped in it (`Json.readString_quotedBody`); a number of 64 bits is read up to the mark behind it
(`Json.readNumber_intText`). -/
namespace ClusterSurvey.Json

open Text

variable {rest : List UInt8}

section Strings

variable {read : PartialText}

def IsPlain (b : UInt8) : Prop := b ≠ ascii '"' ∧ b ≠ ascii '\\' ∧ ¬ b < 0x20

theorem isPlain_of_le {b : UInt8} (h : 0x80 ≤ b) : IsPlain b := by
  refine ⟨?_, ?_, UInt8.not_lt.mpr (UInt8.le_trans (by decide) h)⟩ <;> rintro rfl <;>
    exact absurd h (by decide)

theorem isPlain_ascii {c : Char} (hlow : 0x20 ≤ c.toNat) (hhigh : c.toNat < 0x80)
    (hquote : c ≠ '"') (hslash : c ≠ '\\') : IsPlain (ascii c) := by
  refine ⟨?_, ?_, ?_⟩
  · rwa [Ne, ascii_inj hhigh (by decide)]
  · rwa [Ne, ascii_inj hhigh (by decide)]
  · rw [ascii, UInt8.lt_iff_toNat_lt, UInt8.toNat_ofNat_of_lt' (Nat.lt_trans hhigh (by decide))]
    exact Nat.not_lt.mpr hlow

@[simp] theorem PartialText.push_push (bs cs : List UInt8) :
    (read.push bs).push cs = read.push (bs ++ cs) := by
  simp [push]

theorem PartialText.push_nil (h : read.high = none) : read.push [] = read := by
  cases read
  simp_all [push]

theorem PartialText.pushUnit_of_lt (h : read.high = none) {n : Nat}
    (hn : n < 0xD800) : read.pushUnit n = read.push (encodeChar (Char.ofNat n)) := by
  have hnotHigh : isHighSurrogate n = false := by simp [isHighSurrogate]; omega
  have hnotLow : isLowSurrogate n = false := by simp [isLowSurrogate]; omega
  unfold pushUnit
  simp [h, hnotHigh, hnotLow]

theorem readString_quote : readString read (ascii '"' :: rest) = some (read.toString?, rest) := by
  unfold readString
  exact if_pos rfl

theorem readString_plain {b : UInt8} (h : IsPlain b) :
    readString read (b :: rest) = readString (read.push [b]) rest := by
  rw [readString.eq_def]
  dsimp only
  rw [if_neg h.1, if_neg h.2.1, if_neg h.2.2]

theorem readString_append {bs : List UInt8} (h : ∀ b ∈ bs, IsPlain b) (hne : bs ≠ []) :
    readString read (bs ++ rest) = readString (read.push bs) rest := by
  induction bs generalizing read with
  | nil => exact absurd rfl hne
  | cons b bs ih =>
    rw [List.cons_append, readString_plain (h b List.mem_cons_self)]
    cases bs with
    | nil => rfl
    | cons next bs =>
      rw [ih (fun c hc => h c (List.mem_cons_of_mem _ hc)) (List.cons_ne_nil _ _),
        PartialText.push_push]
      rfl

theorem readString_short {c e : Char} (hu : ascii e ≠ ascii 'u')
    (h : shortEscape (charOf (ascii e)) = some c) :
    readString read (ascii '\\' :: ascii e :: rest) = readString (read.push [ascii c]) rest := by
  rw [readString.eq_def]
  dsimp only
  rw [if_neg (by decide), if_pos rfl, if_neg hu, h]

theorem readString_unit {p q r s : UInt8} {n : Nat}
    (h : hexValue ([p, q, r, s].map charOf) = some n) :
    readString read (ascii '\\' :: ascii 'u' :: p :: q :: r :: s :: rest) =
      readString (read.pushUnit n) rest := by
  rw [readString.eq_def]
  dsimp only
  rw [if_neg (by decide), if_pos rfl, if_pos rfl, h]

theorem escapedChar_cases (c : Char) :
    (∃ e, escapedChar c = ['\\', e] ∧ shortEscape e = some c ∧ e ≠ 'u' ∧ e.toNat < 0x80 ∧
        c.toNat < 0x80) ∨
      (c.toNat < 0x20 ∧ escapedChar c =
        ['\\', 'u', '0', '0', Nat.digitChar (c.toNat / 16), Nat.digitChar (c.toNat % 16)]) ∨
      (escapedChar c = [c] ∧ 0x20 ≤ c.toNat ∧ c ≠ '"' ∧ c ≠ '\\') := by
  have hdigits : ∀ n < 0x20, (if n < 0x10 then ['0'] else []) ++ Nat.toDigits 16 n =
      [Nat.digitChar (n / 16), Nat.digitChar (n % 16)] := by
    decide
  fun_cases escapedChar c with
  | case1 => exact .inl ⟨'"', by subst c; decide⟩
  | case2 => exact .inl ⟨'\\', by subst c; decide⟩
  | case3 => exact .inl ⟨'n', by subst c; decide⟩
  | case4 => exact .inl ⟨'r', by subst c; decide⟩
  | case5 => exact .inl ⟨'t', by subst c; decide⟩
  | case6 => exact .inl ⟨'b', by subst c; decide⟩
  | case7 => exact .inl ⟨'f', by subst c; decide⟩
  | case8 _ _ _ _ _ _ _ hc =>
    refine .inr (.inl ⟨hc, ?_⟩)
    rw [List.append_assoc, hdigits _ hc]
    rfl
  | case9 hquote hslash _ _ _ _ _ hc =>
    exact .inr (.inr ⟨rfl, Nat.le_of_not_lt hc, hquote, hslash⟩)

theorem readString_control {c : Char} (h : c.toNat < 0x20) (hhigh : read.high = none) :
    readString read (['\\', 'u', '0', '0', Nat.digitChar (c.toNat / 16),
        Nat.digitChar (c.toNat % 16)].flatMap encodeChar ++ rest) =
      readString (read.push (encodeChar c)) rest := by
  have hascii : ∀ n < 0x20, ['\\', 'u', '0', '0', Nat.digitChar (n / 16),
      Nat.digitChar (n % 16)].all fun d => d.toNat < 0x80 := by
    decide
  have hvalue : ∀ n < 0x20, hexValue ((['0', '0', Nat.digitChar (n / 16),
      Nat.digitChar (n % 16)].map ascii).map charOf) = some n := by
    decide
  rw [flatMap_encodeChar (hascii _ h)]
  refine (readString_unit (hvalue _ h)).trans ?_
  rw [PartialText.pushUnit_of_lt hhigh (Nat.lt_trans h (by decide)), Char.ofNat_toNat]
  rfl

theorem readString_escapedChar (c : Char) (hhigh : read.high = none) :
    readString read ((escapedChar c).flatMap encodeChar ++ rest) =
      readString (read.push (encodeChar c)) rest := by
  obtain ⟨e, htext, hshort, hu, he, hc⟩ | ⟨hc, htext⟩ | ⟨htext, hlow, hquote, hslash⟩ :=
    escapedChar_cases c
  · rw [htext, flatMap_encodeChar (by simp [he]), encodeChar_of_lt hc]
    refine readString_short ?_ ?_
    · rwa [Ne, ascii_inj he (by decide)]
    · rwa [charOf_ascii he]
  · rw [htext]
    exact readString_control hc hhigh
  · rw [htext, List.flatMap_singleton]
    refine readString_append (fun b hb => ?_) (encodeChar_ne_nil c)
    by_cases hc : c.toNat < 0x80
    · rw [encodeChar_of_lt hc, List.mem_singleton] at hb
      subst hb
      exact isPlain_ascii hlow hc hquote hslash
    · exact isPlain_of_le (le_of_mem_encodeChar (Nat.le_of_not_lt hc) hb)

theorem readString_escaped (cs : List Char) (hhigh : read.high = none) :
    readString read ((cs.flatMap escapedChar).flatMap encodeChar ++ ascii '"' :: rest) =
      some ((read.push (cs.flatMap encodeChar)).toString?, rest) := by
  induction cs generalizing read with
  | nil =>
    rw [List.flatMap_nil, List.flatMap_nil, PartialText.push_nil hhigh]
    exact readString_quote
  | cons c cs ih =>
    rw [List.flatMap_cons, List.flatMap_append, List.append_assoc,
      readString_escapedChar c hhigh, ih rfl, PartialText.push_push, List.flatMap_cons]

def quotedBody (s : String) : List UInt8 :=
  (s.toList.flatMap escapedChar).flatMap encodeChar ++ [ascii '"']

theorem bytes_quotedText (s : String) : bytes (quotedText s) = ascii '"' :: quotedBody s := by
  have hquote : encodeChar '"' = [ascii '"'] := encodeChar_of_lt (by decide)
  rw [quotedText, bytes_ofList]
  simp [hquote, quotedBody]

@[simp] theorem readString_quotedBody (s : String) :
    readString .empty (quotedBody s ++ rest) = some (some s, rest) := by
  have htext : (PartialText.empty.push (s.toList.flatMap encodeChar)).toString? = some s := by
    rw [← bytes_eq_flatMap]
    refine Eq.trans ?_ (fromUTF8?_bytes s)
    simp [PartialText.toString?, PartialText.push, PartialText.empty]
  rw [quotedBody, List.append_assoc, ← htext]
  exact readString_escaped s.toList rfl

end Strings

section Numbers

/-- The rest of a text behind a value inside an array or an object, or behind the whole. -/
def Ends (rest : List UInt8) : Prop :=
  rest = [] ∨ ∃ mark ∈ [',', ']', '\x7d'], ∃ tail, rest = ascii mark :: tail

theorem Ends.mark {mark : Char} (h : mark ∈ [',', ']', '\x7d']) (tail : List UInt8) :
    Ends (ascii mark :: tail) :=
  .inr ⟨mark, h, tail, rfl⟩

theorem Ends.head {b : UInt8} (h : Ends (b :: rest)) :
    isDigit b = false ∧ b ≠ ascii '.' ∧ ¬ (b = ascii 'e' ∨ b = ascii 'E') := by
  obtain hnil | ⟨mark, hmark, _, heq⟩ := h
  · cases hnil
  · have hmarks : ∀ mark ∈ [',', ']', '\x7d'], isDigit (ascii mark) = false ∧
        ascii mark ≠ ascii '.' ∧ ¬ (ascii mark = ascii 'e' ∨ ascii mark = ascii 'E') := by
      intro mark hmark
      simp only [List.mem_cons, List.not_mem_nil, or_false] at hmark
      rcases hmark with rfl | rfl | rfl <;> decide
    rw [(List.cons.inj heq).1]
    exact hmarks mark hmark

theorem Ends.readFraction (h : Ends rest) : readFraction rest = some ([], rest) := by
  cases rest with
  | nil => rfl
  | cons b tail => exact if_neg h.head.2.1

theorem Ends.readExponent (h : Ends rest) : readExponent rest = some (none, rest) := by
  cases rest with
  | nil => rfl
  | cons b tail => exact if_neg h.head.2.2

theorem Ends.readDigits (hends : Ends rest) {cs : List Char} (h : ∀ c ∈ cs, c.isDigit) :
    readDigits (cs.map ascii ++ rest) = (cs, rest) := by
  have hdigits : ∀ b ∈ cs.map ascii, isDigit b := by
    simp only [List.mem_map]
    rintro _ ⟨c, hc, rfl⟩
    exact isDigit_ascii (h c hc)
  have hchars : (cs.map ascii).map charOf = cs := by
    rw [List.map_map]
    exact (List.map_congr_left fun c hc => charOf_ascii (toNat_lt_of_isDigit (h c hc))).trans
      (List.map_id cs)
  have hrest : rest.takeWhile isDigit = [] ∧ rest.dropWhile isDigit = rest := by
    cases rest with
    | nil => exact ⟨rfl, rfl⟩
    | cons b tail => simp [hends.head.1]
  unfold Json.readDigits
  rw [List.takeWhile_append_of_pos hdigits, List.dropWhile_append_of_pos hdigits, hrest.1,
    hrest.2, List.append_nil, hchars]

theorem readNumber_of_readMinus {bs : List UInt8} {negative : Bool} {n : Nat} (h : Ends rest)
    (hminus : readMinus bs = (negative, bytes (Nat.repr n) ++ rest)) :
    readNumber bs =
      some (NumberText.value ⟨negative, Nat.toDigits 10 n, [], none⟩, rest) := by
  have hread : readDigits (bytes (Nat.repr n) ++ rest) = (Nat.toDigits 10 n, rest) := by
    rw [bytes_repr]
    exact h.readDigits fun _ => isDigit_of_mem_decimal
  unfold readNumber
  rw [hminus]
  dsimp only
  rw [hread]
  obtain hzero | ⟨c, cs, hcs, hne⟩ := decimal_cases n
  · rw [hzero]
    simp [h.readFraction, h.readExponent]
  · rw [hcs]
    split
    · rename_i heq
      cases heq
    · rename_i heq
      cases heq
      exact absurd rfl hne
    · rename_i heq
      cases heq
      simp [h.readFraction, h.readExponent]

theorem readMinus_repr (n : Nat) (rest : List UInt8) :
    readMinus (bytes (Nat.repr n) ++ rest) = (false, bytes (Nat.repr n) ++ rest) := by
  rw [bytes_repr]
  cases hcs : Nat.toDigits 10 n with
  | nil => exact absurd hcs Nat.toDigits_ne_nil
  | cons c cs =>
    have hdigit : c.isDigit := isDigit_of_mem_decimal (n := n) (by simp [hcs])
    refine if_neg fun hminus => ?_
    rw [ascii_inj (toNat_lt_of_isDigit hdigit) (by decide)] at hminus
    subst hminus
    exact absurd hdigit (by decide)

theorem value_of_lt {n : Nat} (h : n < UInt64.size) :
    NumberText.value ⟨false, Nat.toDigits 10 n, [], none⟩ = .int n := by
  simp [NumberText.value, digitsValue, h]

theorem value_of_le {n : Nat} (hpos : 0 < n) (h : n ≤ 0x8000000000000000) :
    NumberText.value ⟨true, Nat.toDigits 10 n, [], none⟩ = .int (-(n : Int)) := by
  simp [NumberText.value, digitsValue, h, hpos]

theorem readNumber_intText {n : Int} (hlow : -0x8000000000000000 ≤ n) (hhigh : n < UInt64.size)
    (h : Ends rest) : readNumber (bytes (intText n) ++ rest) = some (.int n, rest) := by
  cases n with
  | ofNat n =>
    refine (readNumber_of_readMinus h (readMinus_repr n rest)).trans ?_
    rw [value_of_lt (Int.ofNat_lt.mp hhigh)]
    rfl
  | negSucc n =>
    rw [intText, bytes_append, bytes_of_ascii (s := "-") (by decide)]
    refine (readNumber_of_readMinus (n := n + 1) h rfl).trans ?_
    rw [value_of_le (Nat.succ_pos n) (by omega)]
    rfl

def startsNumber (b : UInt8) : Bool := b = ascii '-' || isDigit b

theorem exists_bytes_intText_eq_cons (n : Int) :
    ∃ b tail, bytes (intText n) = b :: tail ∧ startsNumber b := by
  cases n with
  | ofNat n =>
    cases hcs : Nat.toDigits 10 n with
    | nil => exact absurd hcs Nat.toDigits_ne_nil
    | cons c cs =>
      have hdigit : c.isDigit := isDigit_of_mem_decimal (n := n) (by simp [hcs])
      refine ⟨ascii c, cs.map ascii, ?_, by simp [startsNumber, isDigit_ascii hdigit]⟩
      rw [intText, bytes_repr, hcs]
      rfl
  | negSucc n =>
    refine ⟨ascii '-', bytes (Nat.repr (n + 1)), ?_, rfl⟩
    rw [intText, bytes_append, bytes_of_ascii (s := "-") (by decide)]
    rfl

end Numbers

end ClusterSurvey.Json
