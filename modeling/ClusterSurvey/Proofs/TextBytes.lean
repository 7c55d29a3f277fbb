import ClusterSurvey.Json.Parser

/-! Text as bytes and numbers as digits. ASCII is one byte for each character; all bytes of
other characters lie beyond it, so that no byte of a character is taken for a mark. -/
namespace ClusterSurvey

namespace Text

def bytes (s : String) : List UInt8 := s.toUTF8.toList

theorem toList_loop_eq (bs : ByteArray) (i : Nat) (read : List UInt8) :
    ByteArray.toList.loop bs i read = read.reverse ++ bs.data.toList.drop i := by
  fun_induction ByteArray.toList.loop bs i read with
  | case1 i read hi ih =>
    have hget : bs.get! i = bs.data.toList[i] := getElem!_pos bs.data i hi
    have hdrop := List.drop_eq_getElem_cons (l := bs.data.toList) hi
    rw [ih, hget, hdrop, List.reverse_cons, List.append_assoc]
    rfl
  | case2 i read hi =>
    have hend : bs.data.toList.length ≤ i := Nat.le_of_not_lt hi
    rw [List.drop_eq_nil_of_le hend, List.append_nil]

theorem bytes_eq (s : String) : bytes s = s.toByteArray.data.toList :=
  toList_loop_eq s.toUTF8 0 []

@[simp] theorem bytes_append (s t : String) : bytes (s ++ t) = bytes s ++ bytes t := by
  simp [bytes_eq]

theorem encodeChar_eq (c : Char) : encodeChar c = String.utf8EncodeChar c := by
  rw [encodeChar, ← bytes, bytes_eq, String.toByteArray_singleton, List.utf8Encode_singleton,
    List.toList_data_toByteArray]

theorem encodeChar_ne_nil (c : Char) : encodeChar c ≠ [] := by
  rw [encodeChar_eq]
  exact String.utf8EncodeChar_ne_nil

theorem bytes_ofList (cs : List Char) : bytes (String.ofList cs) = cs.flatMap encodeChar := by
  have hencode : encodeChar = String.utf8EncodeChar := funext encodeChar_eq
  rw [bytes_eq, String.toByteArray_ofList, List.utf8Encode, List.toList_data_toByteArray, hencode]

theorem bytes_eq_flatMap (s : String) : bytes s = s.toList.flatMap encodeChar := by
  rw [← bytes_ofList, String.ofList_toList]

theorem fromUTF8?_bytes (s : String) : String.fromUTF8? ⟨(bytes s).toArray⟩ = some s := by
  rw [bytes_eq]
  exact dif_pos s.isValidUTF8

theorem encodeChar_of_lt {c : Char} (h : c.toNat < 0x80) :
    encodeChar c = [UInt8.ofNat c.toNat] := by
  rw [encodeChar_eq]
  exact if_pos (Nat.le_of_lt_succ h)

theorem le_of_mem_encodeChar {c : Char} (h : 0x80 ≤ c.toNat) {b : UInt8}
    (hb : b ∈ encodeChar c) : 0x80 ≤ b := by
  have hbyte : ∀ n, 0x80 ≤ n → n < 0x100 → (0x80 : UInt8) ≤ UInt8.ofNat n := by
    intro n hlow hhigh
    rw [UInt8.le_iff_toNat_le, UInt8.toNat_ofNat_of_lt' hhigh]
    exact hlow
  have hwide : ¬ c.val.toNat ≤ 0x7f := Nat.not_le_of_lt h
  rw [encodeChar_eq] at hb
  unfold String.utf8EncodeChar at hb
  simp only [hwide, if_false] at hb
  -- two, three or four bytes
  split at hb
  · simp only [List.mem_cons, List.not_mem_nil, or_false] at hb
    rcases hb with rfl | rfl <;> apply hbyte <;> omega
  · split at hb
    · simp only [List.mem_cons, List.not_mem_nil, or_false] at hb
      rcases hb with rfl | rfl | rfl <;> apply hbyte <;> omega
    · simp only [List.mem_cons, List.not_mem_nil, or_false] at hb
      rcases hb with rfl | rfl | rfl | rfl <;> apply hbyte <;> omega

theorem digitValue_of_isDigit {c : Char} (h : c.isDigit) :
    digitValue c = some (c.toNat - '0'.toNat) := by
  have hrange : '0' ≤ c ∧ c ≤ '9' := by
    simpa [Char.isDigit, Char.le_def] using h
  exact if_pos hrange

theorem digitsOnto_of_isDigit {cs : List Char} (h : ∀ c ∈ cs, c.isDigit) (value : Nat) :
    digitsOnto value cs = some (Nat.ofDigitChars 10 cs value) := by
  induction cs generalizing value with
  | nil => simp [digitsOnto]
  | cons c cs ih =>
    rw [digitsOnto, digitValue_of_isDigit (h c List.mem_cons_self), Nat.ofDigitChars_cons,
      Nat.mul_comm]
    exact ih (fun d hd => h d (List.mem_cons_of_mem _ hd)) _

theorem isDigit_of_mem_decimal {n : Nat} {c : Char} (h : c ∈ Nat.toDigits 10 n) : c.isDigit :=
  Nat.isDigit_of_mem_toDigits (by decide) (by decide) h

@[simp] theorem digits_decimal (n : Nat) : digits (Nat.toDigits 10 n) = some n := by
  have hdigits : digits (Nat.toDigits 10 n) = digitsOnto 0 (Nat.toDigits 10 n) := by
    cases htext : Nat.toDigits 10 n with
    | nil => exact absurd htext Nat.toDigits_ne_nil
    | cons c cs => rfl
  rw [hdigits, digitsOnto_of_isDigit fun _ => isDigit_of_mem_decimal, Nat.ofDigitChars_ten_toDigits]

theorem decimal_cases (n : Nat) :
    Nat.toDigits 10 n = ['0'] ∨ ∃ c cs, Nat.toDigits 10 n = c :: cs ∧ c ≠ '0' := by
  induction n using Nat.base_induction 10 (by decide) with
  | single m hm =>
    rw [Nat.toDigits_of_lt_base hm]
    by_cases hzero : m = 0
    · exact .inl (by rw [hzero]; rfl)
    · have hdigit : ∀ m < 10, m ≠ 0 → m.digitChar ≠ '0' := by decide
      exact .inr ⟨_, _, rfl, hdigit m hm hzero⟩
  | digit m k hk hm ih =>
    rw [← Nat.toDigits_append_toDigits (by decide) hm hk]
    obtain hzero | ⟨c, cs, hcs, hne⟩ := ih
    · have hvalue := Nat.ofDigitChars_ten_toDigits (n := m)
      rw [hzero] at hvalue
      exact absurd hvalue.symm (Nat.ne_of_gt hm)
    · exact .inr ⟨c, cs ++ Nat.toDigits 10 k, by rw [hcs]; rfl, hne⟩

end Text

namespace Json

open Text

theorem charOf_ascii {c : Char} (h : c.toNat < 0x80) : charOf (ascii c) = c := by
  have hbyte : (UInt8.ofNat c.toNat).toNat = c.toNat :=
    UInt8.toNat_ofNat_of_lt' (Nat.lt_trans h (by decide))
  rw [charOf, ascii, hbyte, Char.ofNat_toNat]

theorem ascii_inj {c d : Char} (hc : c.toNat < 0x80) (hd : d.toNat < 0x80) :
    ascii c = ascii d ↔ c = d := by
  refine ⟨fun h => ?_, congrArg ascii⟩
  rw [← charOf_ascii hc, h, charOf_ascii hd]

theorem flatMap_encodeChar {cs : List Char} (h : cs.all fun c => c.toNat < 0x80) :
    cs.flatMap encodeChar = cs.map ascii := by
  induction cs with
  | nil => rfl
  | cons c cs ih =>
    rw [List.all_cons, Bool.and_eq_true, decide_eq_true_eq] at h
    rw [List.flatMap_cons, encodeChar_of_lt h.1, ih h.2]
    rfl

theorem bytes_of_ascii {s : String} (h : s.toList.all fun c => c.toNat < 0x80) :
    bytes s = s.toList.map ascii := by
  rw [bytes_eq_flatMap]
  exact flatMap_encodeChar h

theorem toNat_lt_of_isDigit {c : Char} (h : c.isDigit) : c.toNat < 0x80 := by
  simp only [Char.isDigit, UInt32.le_iff_toNat_le, Bool.and_eq_true, decide_eq_true_eq] at h
  exact Nat.lt_of_le_of_lt h.2 (by decide)

theorem isDigit_ascii {c : Char} (h : c.isDigit) : isDigit (ascii c) := by
  rwa [isDigit, charOf_ascii (toNat_lt_of_isDigit h)]

theorem bytes_repr (n : Nat) : bytes (Nat.repr n) = (Nat.toDigits 10 n).map ascii := by
  have hascii : (Nat.toDigits 10 n).all fun c => c.toNat < 0x80 := by
    rw [List.all_eq_true]
    exact fun c hc => decide_eq_true (toNat_lt_of_isDigit (isDigit_of_mem_decimal hc))
  rw [bytes_eq_flatMap, Nat.toList_repr, flatMap_encodeChar hascii]

end Json

end ClusterSurvey
