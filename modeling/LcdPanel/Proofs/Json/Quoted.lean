import LcdPanel.Json.Encode
import LcdPanel.Json.Scanner
import LcdPanel.Proofs.Text.Encoding
import Mathlib.Tactic.IntervalCases

namespace LcdPanel.Json

open LcdPanel Utf8

def quotedRune (r : Nat) : String :=
  if r < 0x80 then (if safeAscii r then String.singleton (Char.ofNat r) else escapeAscii r)
  else if r = 0x2028 then "\\u2028"
  else if r = 0x2029 then "\\u2029"
  else String.singleton (Char.ofNat r)

theorem le_front_of_valid {b0 : UInt8} {rest : List UInt8} (h : frontValid b0 rest = true)
    (hb : 0x80 ≤ b0.toNat) : 0x80 ≤ (front b0 rest).1 := by
  rcases front_of_valid h with ⟨hA, -⟩ | ⟨b1, t, rfl, h0, h0', -, -, hf⟩ |
    ⟨b1, b2, t, rfl, h0, h0', h1, h1', -, -, hf⟩ |
    ⟨b1, b2, b3, t, rfl, h0, h0', h1, h1', -, -, -, -, hf⟩
  · omega
  · rw [hf]; omega
  · rw [hf]; split at h1 <;> split at h1' <;> omega
  · rw [hf]; split at h1 <;> split at h1' <;> omega

/-- The body of a quoted string of valid UTF-8 is the pieces of its characters. -/
theorem ofString_quoteBody {bs : List UInt8} (h : valid bs = true) :
    ofString (quoteBody bs) = (runes bs).flatMap fun r => ofString (quotedRune r) := by
  induction hn : bs.length using Nat.strongRecOn generalizing bs with
  | _ n ih =>
    match bs, h with
    | [], _ => simp [quoteBody, runes, ofString_eq]
    | b0 :: rest, h =>
      rw [valid_cons, Bool.and_eq_true] at h
      obtain ⟨hfront, hrest⟩ := h
      have ih' := ih _ (by simp at hn; simp; omega) hrest rfl
      rw [quoteBody, runes_cons, List.flatMap_cons]
      by_cases ha : b0 < 0x80
      · have hA : b0.toNat < 0x80 := UInt8.lt_iff_toNat_lt.1 ha
        rw [front_ascii hA] at ih' ⊢
        dsimp only at ih' ⊢
        rw [List.drop_zero] at ih' ⊢
        rw [if_pos ha, ofString_append, quotedRune, if_pos hA, ih']
      · have hr := le_front_of_valid hfront (by simpa [UInt8.lt_iff_toNat_lt] using ha)
        rw [if_neg ha]
        rcases hf : front b0 rest with ⟨r, k⟩
        rw [hf] at ih' hr
        dsimp only at ih' hr ⊢
        rw [ofString_append, ih', quotedRune, if_neg (show ¬ r < 0x80 by omega)]

theorem hexDigit_bytes {n : Nat} (hn : n < 16) :
    ∃ h, String.utf8EncodeChar (hexDigit n) = [h] ∧ isHexDigit h = true ∧ hexValue h = n := by
  interval_cases n <;> exact ⟨_, rfl, by decide, by decide⟩

/-- The four shapes of a character's piece: a printable ASCII character, a backslash and one
letter, a backslash, `u` and four hex digits, or the UTF-8 bytes of a character outside ASCII. -/
theorem quotedRune_shapes {r : Nat} (hr : r.isValidChar) :
    (r < 0x80 ∧ safeAscii r = true ∧ ofString (quotedRune r) = [r.toUInt8]) ∨
    (∃ e, shortEscape e = some r ∧ ofString (quotedRune r) = [0x5C, e]) ∨
    (∃ a b c d, hex4? a b c d = some r ∧ ofString (quotedRune r) = [0x5C, 0x75, a, b, c, d]) ∨
    (0x80 ≤ r ∧ ofString (quotedRune r) = encodeRune r) := by
  unfold quotedRune
  by_cases ha : r < 0x80
  · rw [if_pos ha]
    by_cases hs : safeAscii r
    · refine .inl ⟨ha, hs, ?_⟩
      rw [if_pos hs, ofString_singleton, utf8EncodeChar_ofNat hr]
      simp [encodeRune, ha, show ¬ (r > 0x10FFFF ∨ (0xD800 ≤ r ∧ r ≤ 0xDFFF)) by omega]
    rw [if_neg hs]
    unfold escapeAscii
    split
    case h_8 =>
      -- every other ASCII character is written as `\u00` and two hex digits
      obtain ⟨h1, hb1, hx1, hv1⟩ := hexDigit_bytes (n := r / 16) (by omega)
      obtain ⟨h2, hb2, hx2, hv2⟩ := hexDigit_bytes (n := r % 16) (by omega)
      refine .inr (.inr (.inl ⟨0x30, 0x30, h1, h2, ?_, ?_⟩))
      · simp only [hex4?, hx1, hx2, hv1, hv2, show isHexDigit 0x30 = true by decide,
          show hexValue 0x30 = 0 by decide, and_self, if_true]
        congr 1
        omega
      · rw [ofString_eq, String.toList_ofList]
        simp [hb1, hb2]
        rfl
    all_goals
      refine .inr (.inl ⟨_, ?_, by rw [ofString_eq]; rfl⟩)
      rfl
  rw [if_neg ha]
  by_cases h28 : r = 0x2028
  · subst h28
    exact .inr (.inr (.inl ⟨0x32, 0x30, 0x32, 0x38, by decide, by rw [ofString_eq]; rfl⟩))
  by_cases h29 : r = 0x2029
  · subst h29
    exact .inr (.inr (.inl ⟨0x32, 0x30, 0x32, 0x39, by decide, by rw [ofString_eq]; rfl⟩))
  rw [if_neg h28, if_neg h29, ofString_singleton, utf8EncodeChar_ofNat hr]
  exact .inr (.inr (.inr ⟨by omega, rfl⟩))

theorem safe_byte {r : Nat} (ha : r < 0x80) (hsafe : safeAscii r = true) :
    r.toUInt8 ≠ 0x22 ∧ r.toUInt8 ≠ 0x5C ∧ 0x20 ≤ r.toUInt8.toNat := by
  have hbyte : r.toUInt8.toNat = r := by simp [Nat.toUInt8_eq]; omega
  simp only [safeAscii, Bool.and_eq_true, decide_eq_true_eq] at hsafe
  refine ⟨fun h => ?_, fun h => ?_, by omega⟩ <;> have := congrArg UInt8.toNat h <;> simp_all

theorem le_of_mem_encodeRune {r : Nat} (hr : 0x80 ≤ r) (hv : r.isValidChar) {b : UInt8}
    (hb : b ∈ encodeRune r) : 0x80 ≤ b.toNat := by
  have hv' : r < 0xD800 ∨ 0xDFFF < r ∧ r < 0x110000 := hv
  unfold encodeRune at hb
  simp only [show ¬ (r > 0x10FFFF ∨ (0xD800 ≤ r ∧ r ≤ 0xDFFF)) by omega, if_false,
    show ¬ r < 0x80 by omega] at hb
  split_ifs at hb <;> simp at hb <;> rcases hb with rfl | rfl | rfl | rfl <;>
    simp <;> omega

theorem ofString_quote (bs : List UInt8) :
    ofString (quote bs) = 0x22 :: ofString (quoteBody bs) ++ [0x22] := by
  rw [quote, ofString_append, ofString_append, ofString_eq (s := "\"")]
  rfl

/-! ## The checker inside a string -/

namespace Scanner

variable {s : Scanner}

theorem run_cons {t : Scanner} {c : UInt8} {rest : List UInt8} (h : s.step c rest = .ok t) :
    s.run (c :: rest) = t.run rest := by
  rw [run, h]
  rfl

theorem with_state_self {st : ScanState} (hs : s.state = st) : { s with state := st } = s := by
  cases s
  cases hs
  rfl

theorem step_inString_plain (hs : s.state = .inString) {c : UInt8} (h1 : c ≠ 0x22)
    (h2 : c ≠ 0x5C) (h3 : 0x20 ≤ c.toNat) (rest : List UInt8) : s.step c rest = .ok s := by
  have hlt : ¬ c < 0x20 := by rw [UInt8.lt_iff_toNat_lt]; simpa using h3
  simp [step, hs, h1, h2, hlt]

theorem run_inString_plain (hs : s.state = .inString) {bs : List UInt8}
    (hbs : ∀ c ∈ bs, c ≠ 0x22 ∧ c ≠ 0x5C ∧ 0x20 ≤ c.toNat) (rest : List UInt8) :
    s.run (bs ++ rest) = s.run rest := by
  induction bs with
  | nil => rfl
  | cons c bs ih =>
    obtain ⟨h1, h2, h3⟩ := hbs c List.mem_cons_self
    rw [List.cons_append, run_cons (step_inString_plain hs h1 h2 h3 _),
      ih fun c hc => hbs c (List.mem_cons_of_mem _ hc)]

theorem run_inString_short (hs : s.state = .inString) {e : UInt8} {r : Nat}
    (he : shortEscape e = some r) (rest : List UInt8) :
    s.run (0x5C :: e :: rest) = s.run rest := by
  -- the letters of the short escapes are the ones the checker lets through
  have hmem : [0x62, 0x66, 0x6E, 0x72, 0x74, 0x5C, 0x2F, 0x22].contains e = true := by
    unfold shortEscape at he
    split at he <;> first | rfl | cases he
  have hu : e ≠ 0x75 := by rintro rfl; cases he
  have hfault : escapeFault (0x5C :: e :: rest) = none := by simp only [escapeFault, hmem, if_true]
  rw [run_cons (t := { s with state := .inStringEsc }) (by simp [step, hs, hfault, go]),
    run_cons (t := s) (by simp [step, hu, go, with_state_self hs])]

theorem run_inString_hex (hs : s.state = .inString) {a b c d : UInt8} {r : Nat}
    (hx : hex4? a b c d = some r) (rest : List UInt8) :
    s.run (0x5C :: 0x75 :: a :: b :: c :: d :: rest) = s.run rest := by
  have hdigits : isHexDigit a = true ∧ isHexDigit b = true ∧ isHexDigit c = true ∧
      isHexDigit d = true := by
    unfold hex4? at hx
    split at hx
    · assumption
    · cases hx
  obtain ⟨ha, hb, hc, hd⟩ := hdigits
  have hfault : escapeFault (0x5C :: 0x75 :: a :: b :: c :: d :: rest) = none := by
    simp [escapeFault, ha, hb, hc, hd]
  rw [run_cons (t := { s with state := .inStringEsc }) (by simp [step, hs, hfault, go]),
    run_cons (t := { s with state := .inStringEscU 0 }) (by simp [step, go]),
    run_cons (t := { s with state := .inStringEscU 1 }) (by simp [step, go, ha]),
    run_cons (t := { s with state := .inStringEscU 2 }) (by simp [step, go, hb]),
    run_cons (t := { s with state := .inStringEscU 3 }) (by simp [step, go, hc]),
    run_cons (t := s) (by simp [step, go, hd, with_state_self hs])]

theorem run_inString_quotedRune (hs : s.state = .inString) {r : Nat} (hr : r.isValidChar)
    (rest : List UInt8) : s.run (ofString (quotedRune r) ++ rest) = s.run rest := by
  rcases quotedRune_shapes hr with ⟨ha, hsafe, hq⟩ | ⟨e, he, hq⟩ |
    ⟨a, b, c, d, hx, hq⟩ | ⟨hhigh, hq⟩ <;> rw [hq]
  · refine run_inString_plain hs (fun c hc => ?_) rest
    rw [List.mem_singleton.1 hc]
    exact safe_byte ha hsafe
  · exact run_inString_short hs he rest
  · exact run_inString_hex hs hx rest
  · refine run_inString_plain hs (fun c hc => ?_) rest
    have := le_of_mem_encodeRune hhigh hr hc
    refine ⟨fun h => ?_, fun h => ?_, by omega⟩ <;> subst h <;> simp at this

theorem run_quoteBody (hs : s.state = .inString) {bs : List UInt8} (h : valid bs = true)
    (rest : List UInt8) : s.run (ofString (quoteBody bs) ++ rest) = s.run rest := by
  rw [ofString_quoteBody h]
  have hvalid := (encodeRunes_runes h).2
  generalize runes bs = rs at hvalid ⊢
  -- one piece per character, each passed over by `run_inString_quotedRune`
  induction rs with
  | nil => rfl
  | cons r rs ih =>
    rw [List.flatMap_cons, List.append_assoc,
      run_inString_quotedRune hs (hvalid r List.mem_cons_self),
      ih fun r' hr' => hvalid r' (List.mem_cons_of_mem _ hr')]

theorem run_quote (hopen : ∀ rest, s.step 0x22 rest = .ok { s with state := .inString })
    {bs : List UInt8} (h : valid bs = true) (rest : List UInt8) :
    s.run (ofString (quote bs) ++ rest) = { s with state := .endValue }.run rest := by
  rw [ofString_quote, List.cons_append, List.cons_append, run_cons (hopen _), List.append_assoc,
    run_quoteBody rfl h, List.singleton_append, run_cons (t := { s with state := .endValue })]
  simp [step, go]

end Scanner

/-! ## The reader inside a string -/

theorem readStringBody_plain {b : UInt8} (h1 : b ≠ 0x22) (h2 : b ≠ 0x5C) (rest : List UInt8) :
    readStringBody (b :: rest) =
      ((front b rest).1 :: (readStringBody (rest.drop (front b rest).2)).1,
        (readStringBody (rest.drop (front b rest).2)).2) := by
  rw [readStringBody] <;> intros <;> simp_all

theorem readStringBody_short {e : UInt8} (hu : e ≠ 0x75) (rest : List UInt8) :
    readStringBody (0x5C :: e :: rest) =
      ((shortEscape e).getD replacement :: (readStringBody rest).1, (readStringBody rest).2) := by
  rw [readStringBody]
  -- the one side condition: a `\u` escape is not a short one
  intro _ _ _ _ _ he _
  exact hu he

theorem readStringBody_hex {a b c d : UInt8} {r : Nat} (h : hex4? a b c d = some r)
    (hs : isSurrogate r = false) (rest : List UInt8) :
    readStringBody (0x5C :: 0x75 :: a :: b :: c :: d :: rest) =
      (r :: (readStringBody rest).1, (readStringBody rest).2) := by
  rw [readStringBody]
  simp [h, hs]

theorem encodeRune_ne_nil (r : Nat) : encodeRune r ≠ [] := by
  unfold encodeRune
  dsimp only
  split_ifs <;> simp

/-- The reader reads the piece of any character back as the character. -/
theorem readStringBody_quotedRune {r : Nat} (hr : r.isValidChar) (rest : List UInt8) :
    readStringBody (ofString (quotedRune r) ++ rest) =
      (r :: (readStringBody rest).1, (readStringBody rest).2) := by
  have hr' : r < 0xD800 ∨ 0xDFFF < r ∧ r < 0x110000 := hr
  rcases quotedRune_shapes hr with ⟨ha, hsafe, hq⟩ | ⟨e, he, hq⟩ |
    ⟨a, b, c, d, hx, hq⟩ | ⟨hhigh, hq⟩ <;> rw [hq]
  · obtain ⟨h1, h2, -⟩ := safe_byte ha hsafe
    have hbyte : r.toUInt8.toNat = r := by simp; omega
    rw [List.singleton_append, readStringBody_plain h1 h2, front_ascii (by omega), hbyte,
      List.drop_zero]
  · have hu : e ≠ 0x75 := by rintro rfl; cases he
    rw [List.cons_append, List.cons_append, List.nil_append, readStringBody_short hu, he]
    rfl
  · simp only [List.cons_append, List.nil_append]
    rw [readStringBody_hex hx (by simp [isSurrogate]; omega)]
  · obtain ⟨b, t, hbt⟩ : ∃ b t, encodeRune r = b :: t :=
      List.exists_cons_of_ne_nil (encodeRune_ne_nil r)
    have hb := le_of_mem_encodeRune hhigh hr (hbt ▸ List.mem_cons_self)
    have h1 : b ≠ 0x22 := by rintro rfl; simp at hb
    have h2 : b ≠ 0x5C := by rintro rfl; simp at hb
    rw [hbt, List.cons_append, readStringBody_plain h1 h2, front_encodeRune hr hbt rest,
      List.drop_left]

/-- The reader reads the body of a quoted string of valid UTF-8 back as its characters, up to
the closing quote. -/
theorem readStringBody_quoteBody {bs : List UInt8} (h : valid bs = true) (rest : List UInt8) :
    readStringBody (ofString (quoteBody bs) ++ 0x22 :: rest) = (runes bs, rest) := by
  rw [ofString_quoteBody h]
  have hvalid := (encodeRunes_runes h).2
  generalize runes bs = rs at hvalid ⊢
  induction rs with
  | nil => rw [List.flatMap_nil, List.nil_append, readStringBody]
  | cons r rs ih =>
    rw [List.flatMap_cons, List.append_assoc,
      readStringBody_quotedRune (hvalid r List.mem_cons_self),
      ih fun r' hr' => hvalid r' (List.mem_cons_of_mem _ hr')]

end LcdPanel.Json
