import LcdPanel.Frame.Table
import LcdPanel.Proofs.Frame.Checksum

/-!
Reversing the bits of the register carries the bitwise CRC, shifting right with `0x8408`, into the
table-driven one, shifting left with `0x1021` eight bits a lookup.
-/

namespace LcdPanel.Frame

/-! ## Reversing the bits of a word -/

theorem reverseWord_xor (a b : UInt16) :
    reverseWord (a ^^^ b) = reverseWord a ^^^ reverseWord b := by
  rw [← UInt16.toBitVec_inj]
  apply BitVec.eq_of_getLsbD_eq
  intro i hi
  simp [reverseWord, BitVec.getLsbD_reverse, BitVec.getMsbD_xor]

theorem reverseWord_reverseWord (w : UInt16) : reverseWord (reverseWord w) = w := by
  rw [← UInt16.toBitVec_inj]
  exact BitVec.reverse_reverse_eq

/-- A shift to the right, reversed, is a shift to the left. -/
theorem reverseWord_shiftRight_one (w : UInt16) : reverseWord (w >>> 1) = reverseWord w <<< 1 := by
  rw [← UInt16.toBitVec_inj]
  apply BitVec.eq_of_getLsbD_eq
  intro i hi
  have h1 : (1 : UInt16).toBitVec % 16 = 1 := rfl
  have hone : (1 : BitVec 16).toNat = 1 := rfl
  simp only [reverseWord, UInt16.toBitVec_shiftLeft, UInt16.toBitVec_shiftRight, h1, hone,
    BitVec.shiftLeft_eq', BitVec.ushiftRight_eq', BitVec.getLsbD_ushiftRight,
    BitVec.getLsbD_shiftLeft, BitVec.getLsbD_reverse, BitVec.getMsbD_eq_getLsbD]
  -- bit 0 of the left shift is empty, as is the bit that the right shift brings in at the top
  rcases Nat.eq_zero_or_pos i with rfl | hpos
  · simp [BitVec.getLsbD_of_ge]
  · rw [show 1 + (16 - 1 - i) = 16 - 1 - (i - 1) by omega]
    simp [hi, show i - 1 < 16 by omega, show ¬i < 1 by omega]

theorem reverseWord_toUInt16 (b : UInt8) :
    reverseWord b.toUInt16 = (reverseByte b).toUInt16 <<< 8 := by
  rw [← UInt16.toBitVec_inj]
  apply BitVec.eq_of_getLsbD_eq
  intro i hi
  have h8 : (8 : UInt16).toBitVec % 16 = 8 := rfl
  simp only [reverseWord, reverseByte, UInt16.toBitVec_shiftLeft, h8, BitVec.shiftLeft_eq',
    UInt8.toBitVec_toUInt16, BitVec.getLsbD_reverse, BitVec.getMsbD_eq_getLsbD,
    BitVec.getLsbD_setWidth, BitVec.getLsbD_shiftLeft]
  grind

theorem testBit_reverseWord (w : UInt16) :
    (reverseWord w).toNat.testBit 15 = w.toNat.testBit 0 := by
  have h := BitVec.getLsbD_reverse (x := w.toBitVec) (i := 15)
  simp only [BitVec.getMsbD_eq_getLsbD] at h
  exact h

/-! ## Shifting to the left -/

namespace Crc16

theorem top_ne_zero_iff (c : UInt16) : c &&& 0x8000 ≠ 0 ↔ c.toNat.testBit 15 = true := by
  rw [Ne, ← UInt16.toNat_inj, UInt16.toNat_and]
  show ¬(c.toNat &&& 2 ^ 15 = 0) ↔ _
  rw [Nat.and_two_pow]
  cases c.toNat.testBit 15 <;> simp

variable (poly : UInt16)

theorem shift_xor (a b : UInt16) : shift poly (a ^^^ b) = shift poly a ^^^ shift poly b := by
  have htop : (a ^^^ b).toNat.testBit 15 = (a.toNat.testBit 15 ^^ b.toNat.testBit 15) := by
    simp
  simp only [shift, top_ne_zero_iff, htop, UInt16.shiftLeft_xor]
  -- the polynomial is folded in for each register with its top bit set; two of them cancel
  cases a.toNat.testBit 15 <;> cases b.toNat.testBit 15
  · simp
  · simp [UInt16.xor_assoc]
  · simp
    ac_rfl
  · simp [xor_xor_xor_cancel]

theorem shifts_xor (n : Nat) (a b : UInt16) :
    shifts poly n (a ^^^ b) = shifts poly n a ^^^ shifts poly n b := by
  induction n generalizing a b with
  | zero => rfl
  | succ n ih => simp only [shifts, shift_xor, ih]

/-- A register below `2^16 / 2^n` shifts `n` times without folding in the polynomial. -/
theorem toNat_shifts_of_lt {n : Nat} {c : UInt16} (h : c.toNat * 2 ^ n < 65536) :
    (shifts poly n c).toNat = c.toNat * 2 ^ n := by
  induction n generalizing c with
  | zero => simp [shifts]
  | succ n ih =>
    have hpow : c.toNat * 2 * 2 ^ n = c.toNat * 2 ^ (n + 1) := by
      rw [Nat.pow_succ', Nat.mul_assoc]
    have hlow : c.toNat < 32768 := by
      have := Nat.le_mul_of_pos_right (c.toNat * 2) (Nat.two_pow_pos n)
      omega
    have hshift : shift poly c = c <<< 1 := by
      rw [shift, if_neg]
      rw [top_ne_zero_iff, Nat.testBit_lt_two_pow (by simpa using hlow)]
      simp
    have hdouble : (c <<< 1).toNat = c.toNat * 2 := by
      simp only [UInt16.toNat_shiftLeft, Nat.shiftLeft_eq]
      simp
      omega
    rw [shifts, hshift, ih (by rw [hdouble, hpow]; exact h), hdouble, hpow]

theorem shifts_low (c : UInt16) : shifts poly 8 c.toUInt8.toUInt16 = c <<< 8 := by
  have hlow : c.toUInt8.toUInt16.toNat = c.toNat % 256 := by simp
  rw [← UInt16.toNat_inj, toNat_shifts_of_lt poly (by rw [hlow]; omega), hlow]
  simp only [UInt16.toNat_shiftLeft, Nat.shiftLeft_eq]
  simp
  omega

/-- The register with a byte xored into its top: the table's entry for the register's top byte
and the byte, and the low byte moved to the top. -/
theorem xor_top_eq (c : UInt16) (d : UInt8) :
    c ^^^ (d.toUInt16 <<< 8) = (((c >>> 8).toUInt8 ^^^ d).toUInt16 <<< 8) ^^^ c.toUInt8.toUInt16 := by
  rw [← UInt16.toBitVec_inj]
  apply BitVec.eq_of_getLsbD_eq
  intro i hi
  have h8 : (8 : UInt16).toBitVec % 16 = 8 := rfl
  simp only [UInt16.toBitVec_xor, UInt16.toBitVec_shiftLeft, UInt16.toBitVec_shiftRight, h8,
    BitVec.shiftLeft_eq', BitVec.ushiftRight_eq', UInt8.toBitVec_toUInt16, UInt16.toBitVec_toUInt8,
    UInt8.toBitVec_xor, BitVec.getLsbD_xor, BitVec.getLsbD_setWidth, BitVec.getLsbD_shiftLeft,
    BitVec.getLsbD_ushiftRight]
  grind

/-- One lookup does the work of eight shifts: a byte through a table made for a CRC is the byte,
reflected if the CRC says so, xored into the top of the register and shifted eight times. -/
theorem step_makeTable (p : Params) (c : UInt16) (d : UInt8) :
    (makeTable p).step c d =
      shifts p.poly 8 (c ^^^ ((if p.refIn then reverseByte d else d).toUInt16 <<< 8)) := by
  rw [xor_top_eq, shifts_xor, shifts_low, UInt16.xor_comm]
  rfl

end Crc16

/-! ## The reflected register -/

/-- A shift of the bitwise register, reversed, is a shift to the left of the reversed register
with the polynomial `0x1021`. -/
theorem reverseWord_crcShift (c : UInt16) :
    reverseWord (crcShift c) = Crc16.shift 0x1021 (reverseWord c) := by
  have hpoly : reverseWord crcPolynomial = 0x1021 := by decide
  have htop : reverseWord c &&& 0x8000 ≠ 0 ↔ c &&& 1 = 1 := by
    rw [Crc16.top_ne_zero_iff, testBit_reverseWord, and_one_eq_one_iff, Nat.testBit_zero]
    simp
  unfold crcShift Crc16.shift
  by_cases h : c &&& 1 = 1
  · rw [if_pos h, if_pos (htop.2 h), reverseWord_xor, reverseWord_shiftRight_one, hpoly]
  · rw [if_neg h, if_neg (mt htop.1 h), reverseWord_shiftRight_one]

theorem reverseWord_crcShifts (n : Nat) (c : UInt16) :
    reverseWord (crcShifts n c) = Crc16.shifts 0x1021 n (reverseWord c) := by
  induction n generalizing c with
  | zero => rfl
  | succ n ih => rw [crcShifts, ih, reverseWord_crcShift, Crc16.shifts]

/-- A byte through the bitwise register, reversed, is the byte through the table from the
reversed register. -/
theorem reverseWord_crcStep (c : UInt16) (b : UInt8) :
    reverseWord (crcStep c b) = crcTable.step (reverseWord c) b := by
  rw [crcStep, reverseWord_crcShifts, reverseWord_xor, reverseWord_toUInt16, crcTable,
    Crc16.step_makeTable]
  rfl

theorem reverseWord_foldl_crcStep (bs : List UInt8) (c : UInt16) :
    reverseWord (bs.foldl crcStep c) = bs.foldl crcTable.step (reverseWord c) := by
  induction bs generalizing c with
  | nil => rfl
  | cons b bs ih => rw [List.foldl_cons, ih, reverseWord_crcStep, List.foldl_cons]

/-- The device's check word as the library computes it from its table is CRC-16/X-25 computed
bit by bit, for every byte string. -/
theorem tableCrc_eq_crc (data : List UInt8) : tableCrc data = crc data := by
  have hinit : reverseWord 0xFFFF = 0xFFFF := by decide
  show reverseWord (data.foldl crcTable.step 0xFFFF) ^^^ 0xFFFF = _
  rw [← hinit, ← reverseWord_foldl_crcStep, reverseWord_reverseWord, hinit, crc]

end LcdPanel.Frame
