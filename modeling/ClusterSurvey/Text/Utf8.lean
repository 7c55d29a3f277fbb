/-! Bytes read as UTF-8 text when they may be damaged. Each longest prefix of a sequence that
cannot be completed is shown as one replacement character, so decoding never fails. -/
namespace ClusterSurvey.Text

def replacement : Char := '\ufffd'

/-- What a lead byte announces: the bits it gives to the code point and the bounds of each byte
that must follow. Bytes that lead nothing announce nothing. -/
def leadByte (b : Nat) : Option (Nat × List (Nat × Nat)) :=
  let rest := (0x80, 0xBF)
  if b < 0x80 then some (b, [])
  else if 0xC2 ≤ b ∧ b ≤ 0xDF then some (b - 0xC0, [rest])
  else if b = 0xE0 then some (0, [(0xA0, 0xBF), rest])
  else if b = 0xED then some (0xD, [(0x80, 0x9F), rest])
  else if 0xE1 ≤ b ∧ b ≤ 0xEF then some (b - 0xE0, [rest, rest])
  else if b = 0xF0 then some (0, [(0x90, 0xBF), rest, rest])
  else if 0xF1 ≤ b ∧ b ≤ 0xF3 then some (b - 0xF0, [rest, rest, rest])
  else if b = 0xF4 then some (4, [(0x80, 0x8F), rest, rest])
  else none

def readFollowing (code : Nat) : List (Nat × Nat) → List UInt8 → Char × List UInt8
  | [], bytes => (Char.ofNat code, bytes)
  | _ :: _, [] => (replacement, [])
  | (low, high) :: bounds, b :: bytes =>
    if low ≤ b.toNat ∧ b.toNat ≤ high then
      readFollowing (code * 64 + (b.toNat - 0x80)) bounds bytes
    else (replacement, b :: bytes)

theorem length_readFollowing (code : Nat) (bounds : List (Nat × Nat)) (bytes : List UInt8) :
    (readFollowing code bounds bytes).2.length ≤ bytes.length := by
  fun_induction readFollowing code bounds bytes with
  | case1 => simp
  | case2 => simp
  | case3 _ _ _ _ _ _ _ ih => exact Nat.le_succ_of_le ih
  | case4 => simp

/-- Decodes `bytes` behind the characters already read, which are held in reverse. -/
def decodeOnto (read : List Char) (bytes : List UInt8) : List Char :=
  match bytes with
  | [] => read.reverse
  | b :: rest =>
    match leadByte b.toNat with
    | none => decodeOnto (replacement :: read) rest
    | some (code, bounds) =>
      have := length_readFollowing code bounds rest
      decodeOnto ((readFollowing code bounds rest).1 :: read) (readFollowing code bounds rest).2
  termination_by bytes.length
  decreasing_by all_goals simp only [List.length_cons]; omega

def decodeUtf8 (bytes : List UInt8) : String := String.ofList (decodeOnto [] bytes)

def encodeChar (c : Char) : List UInt8 := (String.singleton c).toUTF8.toList

end ClusterSurvey.Text
