import LcdPanel.Text.Utf8
import Mathlib.Tactic.SplitIfs

namespace LcdPanel.Utf8

/-- The bytes of a byte array, read by its loop, are its data. -/
theorem toList_loop (bs : ByteArray) (i : Nat) (r : List UInt8) :
    ByteArray.toList.loop bs i r = r.reverse ++ bs.data.toList.drop i := by
  have hsz : bs.data.toList.length = bs.size := Array.length_toList
  induction h : bs.size - i generalizing i r with
  | zero =>
    rw [ByteArray.toList.loop, if_neg (by omega), List.drop_of_length_le (by omega),
      List.append_nil]
  | succ k ih =>
    have hi : i < bs.data.toList.length := by omega
    rw [ByteArray.toList.loop, if_pos (by omega), ih (i + 1) _ (by omega),
      List.drop_eq_getElem_cons hi]
    simp only [ByteArray.get!, List.reverse_cons, List.append_assoc, List.singleton_append,
      Array.getElem_toList]
    rw [getElem!_pos bs.data i (by simpa using hi)]

theorem byteArray_toList (bs : ByteArray) : bs.toList = bs.data.toList := by
  simp [ByteArray.toList, toList_loop]

theorem ofString_eq (s : String) : ofString s = s.toList.flatMap String.utf8EncodeChar := by
  rw [ofString, String.toUTF8_eq_toByteArray, byteArray_toList, ← String.ofList_toList (s := s),
    String.toByteArray_ofList, String.toList_ofList]
  simp [List.utf8Encode, List.data_toByteArray]

theorem ofString_append (s t : String) : ofString (s ++ t) = ofString s ++ ofString t := by
  simp [ofString_eq, String.toList_append]

theorem ofString_singleton (c : Char) :
    ofString (String.singleton c) = String.utf8EncodeChar c := by
  simp [ofString_eq]

theorem ofNat_val {r : Nat} (h : r.isValidChar) : (Char.ofNat r).val.toNat = r := by
  show (if h : r.isValidChar then Char.ofNatAux r h else '\x00').val.toNat = r
  rw [dif_pos h]
  rfl

/-- A code point that is a Unicode scalar value is encoded as `encodeRune` writes it. -/
theorem utf8EncodeChar_ofNat {r : Nat} (h : r.isValidChar) :
    String.utf8EncodeChar (Char.ofNat r) = encodeRune r := by
  have hr : r < 0xD800 ∨ 0xDFFF < r ∧ r < 0x110000 := h
  have hscalar : ¬ (r > 0x10FFFF ∨ (0xD800 ≤ r ∧ r ≤ 0xDFFF)) := by omega
  simp only [String.utf8EncodeChar, ofNat_val h, encodeRune, hscalar, if_false]
  by_cases h1 : r ≤ 0x7f
  · simp [h1, show r < 0x80 by omega, Nat.toUInt8_eq]
  by_cases h2 : r ≤ 0x7ff
  · simp only [h1, h2, show ¬ r < 0x80 by omega, show r < 0x800 by omega, if_true, if_false,
      Nat.toUInt8_eq, List.cons.injEq, and_true]
    constructor <;> congr 1 <;> omega
  by_cases h3 : r ≤ 0xffff
  · simp only [h1, h2, h3, show ¬ r < 0x80 by omega, show ¬ r < 0x800 by omega,
      show r < 0x10000 by omega, if_true, if_false, Nat.toUInt8_eq, List.cons.injEq, and_true]
    refine ⟨?_, ?_, ?_⟩ <;> congr 1 <;> omega
  · simp only [h1, h2, h3, show ¬ r < 0x80 by omega, show ¬ r < 0x800 by omega,
      show ¬ r < 0x10000 by omega, if_false, Nat.toUInt8_eq, List.cons.injEq, and_true]
    refine ⟨?_, ?_, ?_, ?_⟩ <;> congr 1 <;> omega

/-! ## One sequence at the front -/

theorem front_ascii {b0 : UInt8} (h : b0.toNat < 0x80) (rest : List UInt8) :
    front b0 rest = (b0.toNat, 0) := by
  simp [front, h]

theorem front_two {b0 : UInt8} (h : 0xC2 ≤ b0.toNat ∧ b0.toNat ≤ 0xDF) (b1 : UInt8)
    (t : List UInt8) :
    front b0 (b1 :: t) =
      if within b1 0x80 0xBF then ((b0.toNat % 32) * 64 + b1.toNat % 64, 1)
      else (replacement, 0) := by
  simp only [front]
  rw [if_neg (by omega), if_pos h]

theorem front_three {b0 : UInt8} (h : 0xE0 ≤ b0.toNat ∧ b0.toNat ≤ 0xEF) (b1 b2 : UInt8)
    (t : List UInt8) :
    front b0 (b1 :: b2 :: t) =
      if within b1 (if b0.toNat = 0xE0 then 0xA0 else 0x80)
          (if b0.toNat = 0xED then 0x9F else 0xBF) ∧ within b2 0x80 0xBF then
        ((b0.toNat % 16) * 4096 + b1.toNat % 64 * 64 + b2.toNat % 64, 2)
      else (replacement, 0) := by
  -- the lead byte narrows the second byte's range at both ends
  have hlohi : (if b0.toNat = 0xE0 then ((0xA0 : Nat), (0xBF : Nat))
      else if b0.toNat = 0xED then (0x80, 0x9F) else (0x80, 0xBF)) =
      (if b0.toNat = 0xE0 then 0xA0 else 0x80, if b0.toNat = 0xED then 0x9F else 0xBF) := by
    by_cases hE0 : b0.toNat = 0xE0
    · simp [hE0]
    · by_cases hED : b0.toNat = 0xED <;> simp [hE0, hED]
  simp only [front]
  rw [if_neg (by omega), if_neg (by omega), if_pos h, hlohi]

theorem front_four {b0 : UInt8} (h : 0xF0 ≤ b0.toNat ∧ b0.toNat ≤ 0xF4) (b1 b2 b3 : UInt8)
    (t : List UInt8) :
    front b0 (b1 :: b2 :: b3 :: t) =
      if within b1 (if b0.toNat = 0xF0 then 0x90 else 0x80)
          (if b0.toNat = 0xF4 then 0x8F else 0xBF) ∧ within b2 0x80 0xBF ∧
          within b3 0x80 0xBF then
        ((b0.toNat % 8) * 262144 + b1.toNat % 64 * 4096 + b2.toNat % 64 * 64 + b3.toNat % 64, 3)
      else (replacement, 0) := by
  have hlohi : (if b0.toNat = 0xF0 then ((0x90 : Nat), (0xBF : Nat))
      else if b0.toNat = 0xF4 then (0x80, 0x8F) else (0x80, 0xBF)) =
      (if b0.toNat = 0xF0 then 0x90 else 0x80, if b0.toNat = 0xF4 then 0x8F else 0xBF) := by
    by_cases hF0 : b0.toNat = 0xF0
    · simp [hF0]
    · by_cases hF4 : b0.toNat = 0xF4 <;> simp [hF0, hF4]
  simp only [front]
  rw [if_neg (by omega), if_neg (by omega), if_neg (by omega), if_pos h, hlohi]

/-- The shapes of a well-formed sequence at the front of some bytes: one ASCII byte, or a lead
byte with one, two or three continuation bytes in the ranges that keep the sequence shortest, below
U+110000 and outside the surrogates, and the code point they spell. -/
theorem front_of_valid {b0 : UInt8} {rest : List UInt8} (h : frontValid b0 rest = true) :
    (b0.toNat < 0x80 ∧ front b0 rest = (b0.toNat, 0)) ∨
    (∃ b1 t, rest = b1 :: t ∧ 0xC2 ≤ b0.toNat ∧ b0.toNat ≤ 0xDF ∧
      0x80 ≤ b1.toNat ∧ b1.toNat ≤ 0xBF ∧
      front b0 rest = ((b0.toNat % 32) * 64 + b1.toNat % 64, 1)) ∨
    (∃ b1 b2 t, rest = b1 :: b2 :: t ∧ 0xE0 ≤ b0.toNat ∧ b0.toNat ≤ 0xEF ∧
      (if b0.toNat = 0xE0 then 0xA0 else 0x80) ≤ b1.toNat ∧
      b1.toNat ≤ (if b0.toNat = 0xED then 0x9F else 0xBF) ∧
      0x80 ≤ b2.toNat ∧ b2.toNat ≤ 0xBF ∧
      front b0 rest = ((b0.toNat % 16) * 4096 + b1.toNat % 64 * 64 + b2.toNat % 64, 2)) ∨
    (∃ b1 b2 b3 t, rest = b1 :: b2 :: b3 :: t ∧ 0xF0 ≤ b0.toNat ∧ b0.toNat ≤ 0xF4 ∧
      (if b0.toNat = 0xF0 then 0x90 else 0x80) ≤ b1.toNat ∧
      b1.toNat ≤ (if b0.toNat = 0xF4 then 0x8F else 0xBF) ∧
      0x80 ≤ b2.toNat ∧ b2.toNat ≤ 0xBF ∧
      0x80 ≤ b3.toNat ∧ b3.toNat ≤ 0xBF ∧
      front b0 rest =
        ((b0.toNat % 8) * 262144 + b1.toNat % 64 * 4096 + b2.toNat % 64 * 64 + b3.toNat % 64,
          3)) := by
  unfold frontValid at h
  by_cases hA : b0.toNat < 0x80
  · exact .inl ⟨hA, front_ascii hA rest⟩
  by_cases hB : 0xC2 ≤ b0.toNat ∧ b0.toNat ≤ 0xDF
  · refine .inr (.inl ?_)
    rcases rest with _ | ⟨b1, t⟩
    · simp [front, hA, hB] at h
    · by_cases hc : within b1 0x80 0xBF
      · rw [front_two hB, if_pos hc]
        simp only [within, decide_eq_true_eq] at hc
        exact ⟨b1, t, rfl, hB.1, hB.2, hc.1, hc.2, rfl⟩
      · rw [front_two hB, if_neg hc] at h
        simp at h
  by_cases hC : 0xE0 ≤ b0.toNat ∧ b0.toNat ≤ 0xEF
  · refine .inr (.inr (.inl ?_))
    rcases rest with _ | ⟨b1, _ | ⟨b2, t⟩⟩
    · simp [front, hA, hB, hC] at h
    · simp [front, hA, hB, hC] at h
    · by_cases hc : within b1 (if b0.toNat = 0xE0 then 0xA0 else 0x80)
          (if b0.toNat = 0xED then 0x9F else 0xBF) ∧ within b2 0x80 0xBF
      · rw [front_three hC, if_pos hc]
        simp only [within, decide_eq_true_eq] at hc
        exact ⟨b1, b2, t, rfl, hC.1, hC.2, hc.1.1, hc.1.2, hc.2.1, hc.2.2, rfl⟩
      · rw [front_three hC, if_neg hc] at h
        simp at h
  by_cases hD : 0xF0 ≤ b0.toNat ∧ b0.toNat ≤ 0xF4
  · refine .inr (.inr (.inr ?_))
    rcases rest with _ | ⟨b1, _ | ⟨b2, _ | ⟨b3, t⟩⟩⟩
    · simp [front, hA, hB, hC, hD] at h
    · simp [front, hA, hB, hC, hD] at h
    · simp [front, hA, hB, hC, hD] at h
    · by_cases hc : within b1 (if b0.toNat = 0xF0 then 0x90 else 0x80)
          (if b0.toNat = 0xF4 then 0x8F else 0xBF) ∧ within b2 0x80 0xBF ∧ within b3 0x80 0xBF
      · rw [front_four hD, if_pos hc]
        simp only [within, decide_eq_true_eq] at hc
        exact ⟨b1, b2, b3, t, rfl, hD.1, hD.2, hc.1.1, hc.1.2, hc.2.1.1, hc.2.1.2, hc.2.2.1,
          hc.2.2.2, rfl⟩
      · rw [front_four hD, if_neg hc] at h
        simp at h
  -- a byte that starts no sequence
  simp [front, hA, hB, hC, hD] at h

theorem toUInt8_eq_of_toNat {n : Nat} {b : UInt8} (h : n = b.toNat) : n.toUInt8 = b := by
  apply UInt8.toNat_inj.1
  simp [Nat.toUInt8_eq, h]

/-- A well-formed sequence spells a Unicode scalar value, which is written back as the sequence. -/
theorem encodeRune_front {b0 : UInt8} {rest : List UInt8} (h : frontValid b0 rest = true) :
    (front b0 rest).1.isValidChar ∧
      encodeRune (front b0 rest).1 = b0 :: rest.take (front b0 rest).2 := by
  have hb0 := b0.toNat_lt
  rcases front_of_valid h with ⟨hA, hf⟩ | ⟨b1, t, rfl, h0, h0', h1, h1', hf⟩ |
    ⟨b1, b2, t, rfl, h0, h0', h1, h1', h2, h2', hf⟩ |
    ⟨b1, b2, b3, t, rfl, h0, h0', h1, h1', h2, h2', h3, h3', hf⟩
  · rw [hf]
    refine ⟨Or.inl (by simp; omega), ?_⟩
    have hscalar : ¬ (b0.toNat > 0x10FFFF ∨ (0xD800 ≤ b0.toNat ∧ b0.toNat ≤ 0xDFFF)) := by
      omega
    simp [encodeRune, hA, hscalar]
  · rw [hf]
    dsimp only
    have := b1.toNat_lt
    generalize hr : b0.toNat % 32 * 64 + b1.toNat % 64 = r
    have hs : ¬ (r > 0x10FFFF ∨ (0xD800 ≤ r ∧ r ≤ 0xDFFF)) := by omega
    refine ⟨Or.inl (by omega), ?_⟩
    simp only [encodeRune, hs, if_false, show ¬ r < 0x80 by omega, show r < 0x800 by omega,
      if_true, List.take_succ_cons, List.take_zero]
    rw [toUInt8_eq_of_toNat (b := b0) (by omega), toUInt8_eq_of_toNat (b := b1) (by omega)]
  · rw [hf]
    dsimp only
    have := b1.toNat_lt
    have := b2.toNat_lt
    -- the lead byte's own ranges keep the value at three bytes and off the surrogates
    have hlo : 0x80 ≤ b1.toNat := by split at h1 <;> omega
    have hE0 : b0.toNat = 0xE0 → 0xA0 ≤ b1.toNat := fun he => by rwa [if_pos he] at h1
    have hED : b0.toNat = 0xED → b1.toNat ≤ 0x9F := fun he => by rwa [if_pos he] at h1'
    have hhi : b1.toNat ≤ 0xBF := by split at h1' <;> omega
    generalize hr : b0.toNat % 16 * 4096 + b1.toNat % 64 * 64 + b2.toNat % 64 = r
    have hs : ¬ (r > 0x10FFFF ∨ (0xD800 ≤ r ∧ r ≤ 0xDFFF)) := by omega
    refine ⟨by unfold Nat.isValidChar; omega, ?_⟩
    simp only [encodeRune, hs, if_false, show ¬ r < 0x80 by omega, show ¬ r < 0x800 by omega,
      show r < 0x10000 by omega, if_true, List.take_succ_cons, List.take_zero]
    rw [toUInt8_eq_of_toNat (n := 0xE0 + r / 4096) (b := b0) (by omega),
      toUInt8_eq_of_toNat (n := 0x80 + r / 64 % 64) (b := b1) (by omega),
      toUInt8_eq_of_toNat (n := 0x80 + r % 64) (b := b2) (by omega)]
  · rw [hf]
    dsimp only
    have := b1.toNat_lt
    have := b2.toNat_lt
    have := b3.toNat_lt
    have hlo : 0x80 ≤ b1.toNat := by split at h1 <;> omega
    have hF0 : b0.toNat = 0xF0 → 0x90 ≤ b1.toNat := fun he => by rwa [if_pos he] at h1
    have hF4 : b0.toNat = 0xF4 → b1.toNat ≤ 0x8F := fun he => by rwa [if_pos he] at h1'
    have hhi : b1.toNat ≤ 0xBF := by split at h1' <;> omega
    generalize hr : b0.toNat % 8 * 262144 + b1.toNat % 64 * 4096 + b2.toNat % 64 * 64 +
      b3.toNat % 64 = r
    have hs : ¬ (r > 0x10FFFF ∨ (0xD800 ≤ r ∧ r ≤ 0xDFFF)) := by omega
    refine ⟨by unfold Nat.isValidChar; omega, ?_⟩
    simp only [encodeRune, hs, if_false, show ¬ r < 0x80 by omega, show ¬ r < 0x800 by omega,
      show ¬ r < 0x10000 by omega, List.take_succ_cons, List.take_zero]
    rw [toUInt8_eq_of_toNat (n := 0xF0 + r / 262144) (b := b0) (by omega),
      toUInt8_eq_of_toNat (n := 0x80 + r / 4096 % 64) (b := b1) (by omega),
      toUInt8_eq_of_toNat (n := 0x80 + r / 64 % 64) (b := b2) (by omega),
      toUInt8_eq_of_toNat (n := 0x80 + r % 64) (b := b3) (by omega)]

theorem toNat_toUInt8_of_lt {n : Nat} (h : n < 256) : n.toUInt8.toNat = n := by
  simp [Nat.toUInt8_eq, Nat.mod_eq_of_lt h]

/-- `front` reads back what `encodeRune` writes for a Unicode scalar value, whatever follows. -/
theorem front_encodeRune {r : Nat} (hr : r.isValidChar) {b : UInt8} {t : List UInt8}
    (he : encodeRune r = b :: t) (more : List UInt8) : front b (t ++ more) = (r, t.length) := by
  have hr' : r < 0xD800 ∨ 0xDFFF < r ∧ r < 0x110000 := hr
  have hs : ¬ (r > 0x10FFFF ∨ (0xD800 ≤ r ∧ r ≤ 0xDFFF)) := by omega
  simp only [encodeRune, hs, if_false] at he
  by_cases h1 : r < 0x80
  · rw [if_pos h1] at he
    obtain ⟨rfl, rfl⟩ := List.cons.inj he
    rw [front_ascii (by rw [toNat_toUInt8_of_lt (by omega)]; omega), toNat_toUInt8_of_lt (by omega)]
    rfl
  by_cases h2 : r < 0x800
  · rw [if_neg h1, if_pos h2] at he
    obtain ⟨rfl, rfl⟩ := List.cons.inj he
    have ha := toNat_toUInt8_of_lt (n := 0xC0 + r / 64) (by omega)
    have hb := toNat_toUInt8_of_lt (n := 0x80 + r % 64) (by omega)
    rw [List.cons_append, front_two (by omega),
      if_pos (by simp only [within, decide_eq_true_eq, hb]; omega)]
    simp only [ha, hb, List.length_singleton, Prod.mk.injEq, and_true]
    omega
  by_cases h3 : r < 0x10000
  · rw [if_neg h1, if_neg h2, if_pos h3] at he
    obtain ⟨rfl, rfl⟩ := List.cons.inj he
    have ha := toNat_toUInt8_of_lt (n := 0xE0 + r / 4096) (by omega)
    have hb := toNat_toUInt8_of_lt (n := 0x80 + r / 64 % 64) (by omega)
    have hc := toNat_toUInt8_of_lt (n := 0x80 + r % 64) (by omega)
    rw [List.cons_append, List.cons_append, front_three (by omega), if_pos]
    · simp only [ha, hb, hc, List.length_cons, List.length_nil, Prod.mk.injEq, and_true]
      omega
    · simp only [within, decide_eq_true_eq, ha, hb, hc]
      split_ifs <;> omega
  · rw [if_neg h1, if_neg h2, if_neg h3] at he
    obtain ⟨rfl, rfl⟩ := List.cons.inj he
    have ha := toNat_toUInt8_of_lt (n := 0xF0 + r / 262144) (by omega)
    have hb := toNat_toUInt8_of_lt (n := 0x80 + r / 4096 % 64) (by omega)
    have hc := toNat_toUInt8_of_lt (n := 0x80 + r / 64 % 64) (by omega)
    have hd := toNat_toUInt8_of_lt (n := 0x80 + r % 64) (by omega)
    rw [List.cons_append, List.cons_append, List.cons_append, front_four (by omega), if_pos]
    · simp only [ha, hb, hc, hd, List.length_cons, List.length_nil, Prod.mk.injEq, and_true]
      omega
    · simp only [within, decide_eq_true_eq, ha, hb, hc, hd]
      split_ifs <;> omega

/-! ## Whole strings -/

theorem runes_cons (b0 : UInt8) (rest : List UInt8) :
    runes (b0 :: rest) = (front b0 rest).1 :: runes (rest.drop (front b0 rest).2) := by
  rw [runes]

theorem valid_cons (b0 : UInt8) (rest : List UInt8) :
    valid (b0 :: rest) = (frontValid b0 rest && valid (rest.drop (front b0 rest).2)) := by
  rw [valid]

/-- Valid bytes are the encodings of their characters, each a Unicode scalar value. -/
theorem encodeRunes_runes {bs : List UInt8} (h : valid bs = true) :
    encodeRunes (runes bs) = bs ∧ ∀ r ∈ runes bs, r.isValidChar := by
  -- strong induction on the length, as `runes` recurses past a whole sequence
  induction hn : bs.length using Nat.strongRecOn generalizing bs with
  | _ n ih =>
    match bs, h with
    | [], _ => simp [runes, encodeRunes]
    | b0 :: rest, h =>
      rw [valid_cons, Bool.and_eq_true] at h
      obtain ⟨hfront, hrest⟩ := h
      obtain ⟨hvalid, henc⟩ := encodeRune_front hfront
      obtain ⟨ihenc, ihvalid⟩ := ih _ (by simp at hn; simp; omega) hrest rfl
      rw [runes_cons]
      refine ⟨?_, ?_⟩
      · simp only [encodeRunes, List.flatMap_cons] at ihenc ⊢
        rw [henc, ihenc, List.cons_append, List.take_append_drop]
      · simpa [hvalid] using ihvalid

end LcdPanel.Utf8
