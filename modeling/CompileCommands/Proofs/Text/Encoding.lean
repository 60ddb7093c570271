/-
  Reading what was written in UTF-16.

  * `Utf16.unitOf_unitBytes`: a unit is read back from its two octets;
  * `Utf16.decode_units`: a character is read back from its units, whatever follows: alone it is no
    surrogate, and a pair of surrogates stands for it otherwise;
  * `Utf16.decode_encode`: every text is read back.
-/
import CompileCommands.Text.Encoding

namespace CompileCommands.Text.Utf16

/-! ## Units -/

theorem unitOf_unitBytes {unit : Nat} (h : unit < 0x10000) :
    unitOf (UInt8.ofNat (unit % 256)) (UInt8.ofNat (unit / 256)) = unit := by
  rw [unitOf, UInt8.toNat_ofNat', UInt8.toNat_ofNat']
  omega

theorem decode_unit {unit : Nat} (h : unit < 0x10000) (hhigh : isHighSurrogate unit = false)
    (hlow : isLowSurrogate unit = false) (rest : Bytes) :
    decode (unitBytes unit ++ rest) = Char.ofNat unit :: decode rest := by
  rw [unitBytes, List.cons_append, List.cons_append, List.nil_append, decode.eq_def]
  simp only [unitOf_unitBytes h, hhigh, hlow, Bool.false_eq_true, if_false]

theorem decode_pair {high low : Nat} (hhigh : isHighSurrogate high) (hlow : isLowSurrogate low)
    (rest : Bytes) :
    decode (unitBytes high ++ (unitBytes low ++ rest)) = pairChar high low :: decode rest := by
  have hbounds : high < 0x10000 ∧ low < 0x10000 := by
    simp only [isHighSurrogate, isLowSurrogate, Bool.and_eq_true, decide_eq_true_eq] at hhigh hlow
    omega
  rw [unitBytes, unitBytes, List.cons_append, List.cons_append, List.nil_append, List.cons_append,
    List.cons_append, List.nil_append, decode]
  simp only [unitOf_unitBytes hbounds.1, unitOf_unitBytes hbounds.2, hhigh, hlow, if_true]

/-! ## Characters and texts -/

theorem isSurrogate_toNat (c : Char) :
    isHighSurrogate c.toNat = false ∧ isLowSurrogate c.toNat = false := by
  have hvalid : c.toNat < 0xD800 ∨ 0xDFFF < c.toNat ∧ c.toNat < 0x110000 := c.valid
  simp only [isHighSurrogate, isLowSurrogate, Bool.and_eq_false_iff, decide_eq_false_iff_not]
  omega

theorem pairChar_toNat {c : Char} (h : ¬c.toNat < 0x10000) :
    pairChar (0xD800 + (c.toNat - 0x10000) / 0x400) (0xDC00 + (c.toNat - 0x10000) % 0x400) = c := by
  rw [pairChar, Nat.add_sub_cancel_left, Nat.add_sub_cancel_left, Nat.add_assoc,
    Nat.div_add_mod', Nat.add_sub_cancel' (Nat.le_of_not_lt h), Char.ofNat_toNat]

theorem decode_units (c : Char) (rest : Bytes) :
    decode ((units c).flatMap unitBytes ++ rest) = c :: decode rest := by
  have hvalid : c.toNat < 0xD800 ∨ 0xDFFF < c.toNat ∧ c.toNat < 0x110000 := c.valid
  unfold units
  dsimp only
  split
  · next h =>
    obtain ⟨hhigh, hlow⟩ := isSurrogate_toNat c
    rw [List.flatMap_cons, List.flatMap_nil, List.append_nil, decode_unit h hhigh hlow,
      Char.ofNat_toNat]
  · next h =>
    rw [List.flatMap_cons, List.flatMap_cons, List.flatMap_nil, List.append_nil, List.append_assoc,
      decode_pair ?high ?low, pairChar_toNat h]
    case high =>
      simp only [isHighSurrogate, Bool.and_eq_true, decide_eq_true_eq]
      omega
    case low =>
      simp only [isLowSurrogate, Bool.and_eq_true, decide_eq_true_eq]
      omega

theorem decode_encode (s : List Char) : decode (encode s) = s := by
  induction s with
  | nil => rfl
  | cons c s ih => rw [encode, List.flatMap_cons, decode_units, ← encode, ih]

end CompileCommands.Text.Utf16
