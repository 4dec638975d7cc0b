import LcdPanel.Proofs.Frame.Decode
import Mathlib.Data.Nat.Bitwise

/-!
A shift of the CRC register is linear and injective, so CRC-16/X-25 detects every error confined
to one byte, and a frame with one corrupted byte is dropped whole.
-/

namespace LcdPanel.Frame

theorem and_one_eq_one_iff (c : UInt16) : c &&& 1 = 1 ↔ c.toNat % 2 = 1 := by
  rw [← UInt16.toNat_inj]
  simp [Nat.and_one_is_mod]

theorem xor_xor_xor_cancel (x y p : UInt16) : (x ^^^ p) ^^^ (y ^^^ p) = x ^^^ y := by
  rw [UInt16.xor_assoc, ← UInt16.xor_assoc p, UInt16.xor_comm p y, UInt16.xor_assoc y,
    UInt16.xor_self, UInt16.xor_zero]

theorem crcShift_xor (a b : UInt16) : crcShift (a ^^^ b) = crcShift a ^^^ crcShift b := by
  have hab : (a ^^^ b).toNat % 2 = (a.toNat + b.toNat) % 2 := by
    simp [Nat.xor_mod_two_eq]
  simp only [crcShift, and_one_eq_one_iff, UInt16.shiftRight_xor, hab]
  -- the polynomial is folded in for each odd register; two of them cancel
  by_cases ha : a.toNat % 2 = 1 <;> by_cases hb : b.toNat % 2 = 1
  · simp [ha, hb, show (a.toNat + b.toNat) % 2 ≠ 1 by omega, xor_xor_xor_cancel]
  · simp [ha, hb, show (a.toNat + b.toNat) % 2 = 1 by omega]
    ac_rfl
  · simp [ha, hb, show (a.toNat + b.toNat) % 2 = 1 by omega, UInt16.xor_assoc]
  · simp [ha, hb, show (a.toNat + b.toNat) % 2 ≠ 1 by omega]

/-- A shift loses nothing: only the empty register shifts to the empty register. -/
theorem crcShift_eq_zero {c : UInt16} : crcShift c = 0 ↔ c = 0 := by
  have hc := c.toNat_lt
  have hhalf : (c >>> 1).toNat = c.toNat / 2 := by
    simp [UInt16.toNat_shiftRight, Nat.shiftRight_eq_div_pow]
  refine ⟨fun h => ?_, fun h => by rw [h]; rfl⟩
  unfold crcShift at h
  split at h
  · -- a one fell out: the polynomial's top bit is set, and a shifted register's never is
    have hpoly := congrArg UInt16.toNat (UInt16.xor_eq_zero_iff.1 h)
    simp [hhalf, crcPolynomial] at hpoly
    omega
  · rename_i heven
    rw [and_one_eq_one_iff] at heven
    have hzero := congrArg UInt16.toNat h
    rw [hhalf] at hzero
    rw [← UInt16.toNat_inj]
    simp only [UInt16.toNat_zero] at hzero ⊢
    omega

theorem crcShifts_xor (n : Nat) (a b : UInt16) :
    crcShifts n (a ^^^ b) = crcShifts n a ^^^ crcShifts n b := by
  induction n generalizing a b with
  | zero => rfl
  | succ n ih => simp only [crcShifts, crcShift_xor, ih]

theorem crcShifts_add (m n : Nat) (c : UInt16) :
    crcShifts (m + n) c = crcShifts n (crcShifts m c) := by
  induction m generalizing c with
  | zero => simp [crcShifts]
  | succ m ih => rw [Nat.add_right_comm, crcShifts, ih, crcShifts]

theorem crcShifts_eq_zero {n : Nat} {c : UInt16} : crcShifts n c = 0 ↔ c = 0 := by
  induction n generalizing c with
  | zero => rfl
  | succ n ih => rw [crcShifts, ih, crcShift_eq_zero]

theorem crcStep_xor (c : UInt16) (b m : UInt8) :
    crcStep c (b ^^^ m) = crcStep c b ^^^ crcShifts 8 m.toUInt16 := by
  rw [crcStep, crcStep, UInt8.toUInt16_xor, ← UInt16.xor_assoc, crcShifts_xor]

theorem foldl_crcStep_xor (bs : List UInt8) (c d : UInt16) :
    bs.foldl crcStep (c ^^^ d) = bs.foldl crcStep c ^^^ crcShifts (8 * bs.length) d := by
  induction bs generalizing c d with
  | nil => rfl
  | cons b bs ih =>
    have hstep : crcStep (c ^^^ d) b = crcStep c b ^^^ crcShifts 8 d := by
      rw [crcStep, crcStep, UInt16.xor_assoc, UInt16.xor_comm d, ← UInt16.xor_assoc,
        crcShifts_xor]
    rw [List.foldl_cons, hstep, ih, List.foldl_cons, ← crcShifts_add]
    congr 2
    simp only [List.length_cons]
    omega

/-- Changing byte `i` of a string by `m` changes the register it leaves by `m` shifted through
every bit from that byte on. -/
theorem foldl_crcStep_modify (bs : List UInt8) (c : UInt16) {i : Nat} (hi : i < bs.length)
    (m : UInt8) :
    (bs.modify i (· ^^^ m)).foldl crcStep c =
      bs.foldl crcStep c ^^^ crcShifts (8 * (bs.length - i)) m.toUInt16 := by
  induction bs generalizing c i with
  | nil => simp at hi
  | cons b bs ih =>
    cases i with
    | zero =>
      rw [List.modify_zero_cons, List.foldl_cons, crcStep_xor, foldl_crcStep_xor, List.foldl_cons,
        ← crcShifts_add]
      congr 2
      simp only [List.length_cons]
      omega
    | succ i =>
      rw [List.modify_succ_cons, List.foldl_cons, ih _ (by simpa using hi), List.foldl_cons]
      simp only [List.length_cons, Nat.add_sub_add_right]

/-- The CRC of a string with byte `i` changed by `m`: the seed and the final inversion cancel, so
the change is `m` shifted through the bits from byte `i` on. -/
theorem crc_modify (bs : List UInt8) {i : Nat} (hi : i < bs.length) (m : UInt8) :
    crc (bs.modify i (· ^^^ m)) = crc bs ^^^ crcShifts (8 * (bs.length - i)) m.toUInt16 := by
  rw [crc, crc, foldl_crcStep_modify bs _ hi]
  ac_rfl

/-- CRC-16/X-25 detects every error confined to one byte, in a string of any length. -/
theorem crc_modify_ne (bs : List UInt8) {i : Nat} (hi : i < bs.length) {m : UInt8} (hm : m ≠ 0) :
    crc (bs.modify i (· ^^^ m)) ≠ crc bs := by
  rw [crc_modify bs hi]
  intro h
  have hzero : crcShifts (8 * (bs.length - i)) m.toUInt16 = 0 := by
    simpa using (UInt16.xor_right_inj (crc bs)).1 (h.trans UInt16.xor_zero.symm)
  rw [crcShifts_eq_zero, ← UInt16.toNat_inj] at hzero
  exact hm (UInt8.toNat_inj.1 (by simpa using hzero))

/-! ## Corrupted frames -/

theorem modify_append_of_lt {α : Type} (f : α → α) {l₁ : List α} (l₂ : List α) {i : Nat}
    (hi : i < l₁.length) : (l₁ ++ l₂).modify i f = l₁.modify i f ++ l₂ := by
  induction l₁ generalizing i with
  | nil => simp at hi
  | cons a l₁ ih =>
    cases i with
    | zero => simp
    | succ i => simp [ih (by simpa using hi)]

theorem modify_append_length {α : Type} (f : α → α) (l₁ l₂ : List α) (j : Nat) :
    (l₁ ++ l₂).modify (l₁.length + j) f = l₁ ++ l₂.modify j f := by
  induction l₁ with
  | nil => simp
  | cons a l₁ ih => simp [Nat.add_right_comm, ih]

theorem modify_xor_ne (bs : List UInt8) {k : Nat} (hk : k < bs.length) {m : UInt8} (hm : m ≠ 0) :
    bs.modify k (· ^^^ m) ≠ bs := by
  intro h
  have hbyte : bs[k] ^^^ m = bs[k] := by
    simpa [List.getElem?_eq_getElem hk] using congrArg (fun l => l[k]?) h
  exact hm ((UInt8.xor_right_inj bs[k]).1 (hbyte.trans UInt8.xor_zero.symm))

namespace Codec

/-- A frame of the device's codec with one byte other than its length byte changed by a nonzero
mask is a frame whose check word is wrong: the same length byte, data of the same length, and a
check word other than the CRC of the code, length and data. -/
theorem modify_encode (p : Packet) {i : Nat} (hi : i < p.data.length + 4) (h1 : i ≠ 1)
    {m : UInt8} (hm : m ≠ 0) :
    ∃ code data w, data.length = p.data.length ∧
      (standard.encode p).modify i (· ^^^ m) =
        code :: p.data.length.toUInt8 :: (data ++ wordBytes w) ∧
      crc (code :: p.data.length.toUInt8 :: data) ≠ w := by
  let head := p.code :: p.data.length.toUInt8 :: p.data
  have henc : standard.encode p = head ++ wordBytes (crc head) := rfl
  rcases Nat.lt_or_ge i (p.data.length + 2) with hhead | hword
  · -- the code or a data byte: the check word stays, the CRC of the head moves
    have hin : i < head.length := by
      simp only [head, List.length_cons]
      omega
    have hne := crc_modify_ne head hin hm
    rw [henc, modify_append_of_lt _ _ hin]
    match i, h1 with
    | 0, _ => exact ⟨p.code ^^^ m, p.data, crc head, rfl, rfl, hne⟩
    | j + 2, _ =>
      exact ⟨p.code, p.data.modify j (· ^^^ m), crc head, List.length_modify .., rfl, hne⟩
  · -- a byte of the check word: the head stays, the word read moves
    obtain ⟨k, hk, rfl⟩ : ∃ k, k < 2 ∧ i = head.length + k :=
      ⟨i - head.length, by simp [head]; omega, by simp [head]; omega⟩
    rw [henc, modify_append_length]
    have hws : ((wordBytes (crc head)).modify k (· ^^^ m)).length = 2 := by
      simp [wordBytes]
    obtain ⟨lo, hi', hbytes⟩ : ∃ lo hi, (wordBytes (crc head)).modify k (· ^^^ m) = [lo, hi] :=
      ⟨_, _, List.eq_getElem_of_length_eq_two _ hws⟩
    have hmoved := modify_xor_ne (wordBytes (crc head)) (by simpa [wordBytes] using hk) hm
    refine ⟨p.code, p.data, lo.toUInt16 ||| (hi'.toUInt16 <<< 8), rfl, ?_, ?_⟩
    · rw [hbytes, wordBytes_of_bytes]
      rfl
    · intro heq
      apply hmoved
      rw [hbytes, ← wordBytes_of_bytes lo hi', ← heq]

/-- The device's codec drops the whole declared frame when any one byte of its code, data or
check word is corrupted: the frame of a packet whose data fits, with byte `i` other than the
length byte changed by a nonzero mask `m`, is refused with a skip of the frame's length. -/
theorem standard_drops_corrupt_frame (p : Packet) (hp : p.data.length ≤ maxDataLen) {i : Nat}
    (hi : i < p.data.length + 4) (h1 : i ≠ 1) {m : UInt8} (hm : m ≠ 0) :
    ∃ e, standard.decode ((standard.encode p).modify i (· ^^^ m)) = .malformed e ∧
      e.skip = p.data.length + 4 := by
  obtain ⟨code, data, w, hlen, hframe, hne⟩ := modify_encode p hi h1 hm
  have hfits : data.length ≤ maxDataLen := hlen ▸ hp
  have hdecode := standard.decode_frame hfits code w []
  rw [hlen, List.append_nil] at hdecode
  refine ⟨_, by rw [hframe, hdecode, if_neg (show standard.checksum _ ≠ w from hne)], ?_⟩
  simp [Malformed.skip]

/-- The last check byte of a ping frame flipped in its low bit: the frame is dropped whole. -/
theorem flipped_check_byte_dropped :
    (⟨0x40, [0x41, 0x42]⟩ : Packet).data.length ≤ maxDataLen ∧ 5 < 2 + 4 ∧ 5 ≠ 1 ∧
      (1 : UInt8) ≠ 0 ∧
      ∃ e, standard.decode ((standard.encode ⟨0x40, [0x41, 0x42]⟩).modify 5 (· ^^^ 1)) =
        .malformed e ∧ e.skip = 2 + 4 :=
  ⟨by decide, by decide, by decide, by decide,
    standard_drops_corrupt_frame ⟨0x40, [0x41, 0x42]⟩ (by decide) (by decide) (by decide)
      (by decide)⟩

end Codec

end LcdPanel.Frame
