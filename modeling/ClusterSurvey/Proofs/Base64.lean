import ClusterSurvey.Base64
import ClusterSurvey.Proofs.TextBytes

/-! Bytes are read back from the base64 text that stands for them (`Base64.decode_encode`). The
reader takes the last group of symbols apart from the others, so what is written is taken apart
in the same way first (`Base64.exists_groups`). -/
namespace ClusterSurvey.Base64

variable {values : List Nat} {bytes rest : List UInt8}

theorem symbolValue?_symbol {value : Nat} (h : value < 64) :
    symbolValue? (symbol value) = some value := by
  have hall : ∀ v < 64, symbolValue? (symbol v) = some v := by decide
  exact hall value h

theorem symbol_ne_pad {value : Nat} (h : value < 64) : symbol value ≠ pad := by
  have hall : ∀ v < 64, symbol v ≠ pad := by decide
  exact hall value h

theorem readSymbols_map (h : ∀ v ∈ values, v < 64) (offset : Nat) (read : List Nat) :
    readSymbols offset read (values.map symbol) = .ok (read.reverse ++ values) := by
  induction values generalizing offset read with
  | nil => rw [List.map_nil, readSymbols, List.append_nil]
  | cons v values ih =>
    rw [List.forall_mem_cons] at h
    rw [List.map_cons, readSymbols, symbolValue?_symbol h.1]
    dsimp only
    rw [ih h.2, List.reverse_cons, List.append_assoc, List.singleton_append]

theorem readLastGroup_map_append (h : ∀ v ∈ values, v < 64) (offset : Nat) (read : List Nat) :
    readLastGroup offset read 0 (values.map symbol ++ rest) =
      readLastGroup offset (values.reverse ++ read) 0 rest := by
  induction values generalizing read with
  | nil => rfl
  | cons v values ih =>
    rw [List.forall_mem_cons] at h
    rw [List.map_cons, List.cons_append, readLastGroup, if_neg (symbol_ne_pad h.1),
      if_neg (Nat.lt_irrefl 0), symbolValue?_symbol h.1]
    dsimp only
    rw [ih h.2, List.reverse_cons, List.append_assoc, List.singleton_append]

theorem readLastGroup_pads {read : List Nat} (h : 2 ≤ read.length) (offset pads more : Nat) :
    readLastGroup offset read pads (List.replicate more pad) = .ok (read, pads + more) := by
  induction more generalizing pads with
  | zero => rfl
  | succ more ih =>
    have henough : ¬ read.length + pads < 2 := by omega
    rw [List.replicate_succ, readLastGroup, if_pos rfl, if_neg henough, ih, Nat.add_right_comm,
      Nat.add_assoc]

/-- Some bytes as groups of four values, the last of which is filled up with padding. -/
structure Groups (bytes : List UInt8) (front last : List Nat) (pads : Nat) : Prop where
  encoded : encodeBytes bytes = front.map symbol ++ (last.map symbol ++ List.replicate pads pad)
  front_lt : ∀ v ∈ front, v < 64
  last_lt : ∀ v ∈ last, v < 64
  front_full : front.length % 4 = 0
  last_full : last.length + pads = 4
  two_le : 2 ≤ last.length
  unused : last.reverse.headD 0 % spare last.length = 0
  unpacked : unpack (front ++ last) = bytes

theorem toUInt8_eq {n : Nat} {b : UInt8} (h : n = b.toNat) : n.toUInt8 = b := by
  rw [h]
  exact UInt8.ofNat_toNat

theorem lt_of_mem_cut {a b c : UInt8} {v : Nat} (h : v ∈ cut a b c) : v < 64 := by
  have ha := a.toNat_lt
  have hb := b.toNat_lt
  have hc := c.toNat_lt
  simp only [cut, List.mem_cons, List.not_mem_nil, or_false] at h
  omega

theorem unpack_cut_append (a b c : UInt8) (more : List Nat) :
    unpack (cut a b c ++ more) = a :: b :: c :: unpack more := by
  have ha := a.toNat_lt
  have hb := b.toNat_lt
  have hc := c.toNat_lt
  simp only [cut, List.cons_append, List.nil_append, unpack]
  rw [toUInt8_eq (b := a) (by omega), toUInt8_eq (b := b) (by omega),
    toUInt8_eq (b := c) (by omega)]

theorem Groups.cons {front last : List Nat} {pads : Nat} (h : Groups rest front last pads)
    (a b c : UInt8) : Groups (a :: b :: c :: rest) (cut a b c ++ front) last pads where
  encoded := by
    rw [encodeBytes, h.encoded, List.map_append, List.append_assoc]
  front_lt := by
    intro v hv
    exact (List.mem_append.mp hv).elim lt_of_mem_cut (h.front_lt v)
  last_lt := h.last_lt
  front_full := by
    rw [List.length_append]
    exact (Nat.add_mod_left 4 _).trans h.front_full
  last_full := h.last_full
  two_le := h.two_le
  unused := h.unused
  unpacked := by rw [List.append_assoc, unpack_cut_append, h.unpacked]

theorem exists_groups (h : bytes ≠ []) : ∃ front last pads, Groups bytes front last pads := by
  fun_induction encodeBytes bytes with
  | case1 a b c rest ih =>
    cases rest with
    | nil =>
      refine ⟨[], cut a b c, 0, rfl, List.forall_mem_nil _, fun _ => lt_of_mem_cut, rfl, rfl, ?_,
        Nat.mod_one _, ?_⟩
      · exact Nat.le_of_ble_eq_true rfl
      · simpa [unpack] using unpack_cut_append a b c []
    | cons d rest =>
      obtain ⟨front, last, pads, hgroups⟩ := ih (List.cons_ne_nil _ _)
      exact ⟨_, last, pads, hgroups.cons a b c⟩
  | case2 a b =>
    have ha := a.toNat_lt
    have hb := b.toNat_lt
    refine ⟨[], (cut a b 0).take 3, 1, rfl, List.forall_mem_nil _,
      fun _ hv => lt_of_mem_cut (List.mem_of_mem_take hv), rfl, rfl, ?_, ?_, ?_⟩
    · exact Nat.le_of_ble_eq_true rfl
    · change (b.toNat % 16 * 4 + 0 / 64) % 4 = 0
      omega
    · simp only [cut, List.take_succ_cons, List.take_zero, List.nil_append, unpack]
      rw [toUInt8_eq (b := a) (by omega), toUInt8_eq (b := b) (by simp; omega)]
  | case3 a =>
    have ha := a.toNat_lt
    refine ⟨[], (cut a 0 0).take 2, 2, rfl, List.forall_mem_nil _,
      fun _ hv => lt_of_mem_cut (List.mem_of_mem_take hv), rfl, rfl, ?_, ?_, ?_⟩
    · exact Nat.le_of_ble_eq_true rfl
    · change (a.toNat % 4 * 16 + 0 / 16) % 16 = 0
      omega
    · simp only [cut, List.take_succ_cons, List.take_zero, List.nil_append, unpack]
      rw [toUInt8_eq (b := a) (by simp; omega)]
  | case4 => exact absurd rfl h

namespace Groups

variable {front last : List Nat} {pads : Nat}

theorem length_eq (h : Groups bytes front last pads) :
    (encodeBytes bytes).length = (front.map symbol).length + 4 := by
  have hlast : (last.map symbol).length = last.length := List.length_map symbol
  rw [h.encoded, List.length_append, List.length_append, hlast, List.length_replicate,
    h.last_full]

theorem length_mod (h : Groups bytes front last pads) : (encodeBytes bytes).length % 4 = 0 := by
  rw [h.length_eq, Nat.add_mod_right, List.length_map, h.front_full]

theorem offset_eq (h : Groups bytes front last pads) :
    (encodeBytes bytes).length - lastLength (encodeBytes bytes).length =
      (front.map symbol).length := by
  unfold lastLength
  rw [h.length_mod, if_pos rfl, h.length_eq]
  omega

theorem readLastGroup_eq (h : Groups bytes front last pads) (offset : Nat) :
    readLastGroup offset [] 0 (last.map symbol ++ List.replicate pads pad) =
      .ok (last.reverse, pads) := by
  have htwo : 2 ≤ last.reverse.length := List.length_reverse.symm ▸ h.two_le
  rw [readLastGroup_map_append h.last_lt, List.append_nil, readLastGroup_pads htwo, Nat.zero_add]

theorem decodeBytes_eq (h : Groups bytes front last pads) :
    decodeBytes (encodeBytes bytes) = .ok bytes := by
  have hstray : strayByte? (encodeBytes bytes) = none := by
    unfold strayByte?
    rw [h.length_mod]
    rfl
  have hfront : (encodeBytes bytes).take (front.map symbol).length = front.map symbol := by
    rw [h.encoded, List.take_left]
  have hlast : (encodeBytes bytes).drop (front.map symbol).length =
      last.map symbol ++ List.replicate pads pad := by
    rw [h.encoded, List.drop_left]
  have hlong : ¬ (!(encodeBytes bytes).isEmpty && decide (last.reverse.length < 2)) = true := by
    have htwo := h.two_le
    rw [List.length_reverse, decide_eq_false (by omega), Bool.and_false]
    exact Bool.false_ne_true
  have hfull : ¬ (last.reverse.length + pads) % 4 ≠ 0 := by
    rw [List.length_reverse, h.last_full]
    decide
  have hunused : ¬ last.reverse.headD 0 % spare last.reverse.length ≠ 0 := by
    rw [List.length_reverse, h.unused]
    decide
  unfold decodeBytes
  rw [hstray]
  dsimp only
  rw [h.offset_eq, hfront, hlast, readSymbols_map h.front_lt, h.readLastGroup_eq]
  change (if (!(encodeBytes bytes).isEmpty && decide (last.reverse.length < 2)) = true then _
    else if (last.reverse.length + pads) % 4 ≠ 0 then _
    else if last.reverse.headD 0 % spare last.reverse.length ≠ 0 then _
    else Except.ok (unpack (front ++ last.reverse.reverse))) = _
  rw [if_neg hlong, if_neg hfull, if_neg hunused, List.reverse_reverse, h.unpacked]

theorem lt_of_mem_encodeBytes (h : Groups bytes front last pads) {byte : UInt8}
    (hbyte : byte ∈ encodeBytes bytes) : byte.toNat < 0x80 := by
  have hsymbol : ∀ v < 64, (symbol v).toNat < 0x80 := by decide
  rw [h.encoded, List.mem_append, List.mem_append, List.mem_map, List.mem_map] at hbyte
  obtain ⟨v, hv, rfl⟩ | ⟨v, hv, rfl⟩ | hpad := hbyte
  · exact hsymbol v (h.front_lt v hv)
  · exact hsymbol v (h.last_lt v hv)
  · rw [List.eq_of_mem_replicate hpad]
    decide

end Groups

theorem decodeBytes_encodeBytes (bytes : List UInt8) :
    decodeBytes (encodeBytes bytes) = .ok bytes := by
  by_cases hnil : bytes = []
  · subst hnil
    rfl
  · obtain ⟨front, last, pads, h⟩ := exists_groups hnil
    exact h.decodeBytes_eq

theorem encodeChar_ofNat {byte : UInt8} (h : byte.toNat < 0x80) :
    Text.encodeChar (Char.ofNat byte.toNat) = [byte] := by
  have hvalid : byte.toNat.isValidChar := .inl (Nat.lt_trans h (by decide))
  have hcode : (Char.ofNat byte.toNat).toNat = byte.toNat := by
    rw [Char.ofNat, dif_pos hvalid]
    rfl
  rw [Text.encodeChar_of_lt (hcode.symm ▸ h), hcode, UInt8.ofNat_toNat]

theorem bytes_encode (bytes : List UInt8) : Text.bytes (encode bytes) = encodeBytes bytes := by
  have hascii : ∀ byte ∈ encodeBytes bytes, byte.toNat < 0x80 := by
    by_cases hnil : bytes = []
    · subst hnil
      exact List.forall_mem_nil _
    · obtain ⟨front, last, pads, h⟩ := exists_groups hnil
      exact fun _ => h.lt_of_mem_encodeBytes
  unfold encode
  rw [Text.bytes_ofList, List.flatMap_map]
  generalize encodeBytes bytes = symbols at hascii ⊢
  induction symbols with
  | nil => rfl
  | cons byte symbols ih =>
    rw [List.forall_mem_cons] at hascii
    rw [List.flatMap_cons, encodeChar_ofNat hascii.1, ih hascii.2, List.singleton_append]

@[simp] theorem decode_encode (bytes : List UInt8) : decode (encode bytes) = .ok bytes := by
  change decodeBytes (Text.bytes (encode bytes)) = _
  rw [bytes_encode, decodeBytes_encodeBytes]

end ClusterSurvey.Base64
