import LcdPanel.Proofs.Json.RoundTrip
import LcdPanel.Json.Decode

namespace LcdPanel.Json

open LcdPanel Utf8 Wire

/-! ## Numbers in decimal -/

theorem utf8EncodeChar_ascii {c : Char} (h : c.toNat < 0x80) :
    String.utf8EncodeChar c = [c.toNat.toUInt8] := by
  conv_lhs => rw [← Char.ofNat_toNat c]
  rw [utf8EncodeChar_ofNat (r := c.toNat) c.valid]
  have hscalar : ¬ (c.toNat > 0x10FFFF ∨ (0xD800 ≤ c.toNat ∧ c.toNat ≤ 0xDFFF)) := by omega
  simp [encodeRune, h, hscalar]

/-- Text of printable ASCII bytes other than the quote, the backslash and the markup characters
is quoted as it is. -/
theorem ofString_quote_safe {bs : List UInt8}
    (h : ∀ b ∈ bs, b < 0x80 ∧ safeAscii b.toNat = true) :
    ofString (quote bs) = 0x22 :: bs ++ [0x22] := by
  suffices hbody : ofString (quoteBody bs) = bs by rw [ofString_quote, hbody]
  induction bs with
  | nil => rw [quoteBody, ofString_eq]; rfl
  | cons b bs ih =>
    obtain ⟨ha, hs⟩ := h b List.mem_cons_self
    have hA : b.toNat < 0x80 := UInt8.lt_iff_toNat_lt.1 ha
    -- the byte is one character of one byte
    have hchar : (Char.ofNat b.toNat).toNat = b.toNat :=
      ofNat_val (by unfold Nat.isValidChar; omega)
    have hascii : (Char.ofNat b.toNat).toNat < 0x80 := by rw [hchar]; exact hA
    rw [quoteBody, if_pos ha, if_pos hs, ofString_append, ofString_singleton,
      utf8EncodeChar_ascii hascii, hchar, ih fun b' hb' => h b' (List.mem_cons_of_mem _ hb')]
    simp

theorem digitChar_byte {d : Nat} (hd : d < 10) :
    (Nat.digitChar d).toNat < 0x80 ∧ ((Nat.digitChar d).toNat.toUInt8).toNat = 0x30 + d := by
  interval_cases d <;> decide

/-- The digits of a number as text, one byte per decimal digit. -/
theorem ofString_toString (k : Nat) :
    ofString (toString k) = (Nat.toDigits 10 k).map fun c => c.toNat.toUInt8 := by
  rw [ofString_eq, Nat.toString_eq_repr, Nat.repr_eq_ofList_toDigits, String.toList_ofList]
  -- every digit is an ASCII character, one byte long
  have hascii : ∀ c ∈ Nat.toDigits 10 k, c.toNat < 0x80 := fun c hc => by
    have := Nat.isDigit_of_mem_toDigits (by decide) (by decide) hc
    simp only [Char.isDigit, Bool.and_eq_true, decide_eq_true_eq] at this
    have h9 : c.toNat ≤ '9'.toNat := this.2
    simp at h9
    omega
  generalize Nat.toDigits 10 k = ds at hascii ⊢
  induction ds with
  | nil => rfl
  | cons c cs ih =>
    rw [List.flatMap_cons, utf8EncodeChar_ascii (hascii c List.mem_cons_self),
      ih fun c hc => hascii c (List.mem_cons_of_mem _ hc)]
    rfl

/-- The decimal digits of a number read back as the number. -/
theorem foldl_decimal (k : Nat) :
    (ofString (toString k)).foldl (fun acc c => acc * 10 + (c.toNat - 0x30)) 0 = k := by
  rw [ofString_toString]
  -- the digits grow at the end, one per division by ten
  induction k using Nat.strongRecOn with
  | _ k ih =>
    rw [Nat.toDigits_eq_if (by decide)]
    split
    · rename_i hk
      simp [(digitChar_byte hk).2]
    · rw [List.map_append, List.foldl_append, ih (k / 10) (by omega)]
      simp only [List.map_cons, List.map_nil, List.foldl_cons, List.foldl_nil,
        (digitChar_byte (Nat.mod_lt k (by decide))).2]
      omega

theorem isDigit_decimal (k : Nat) : ∀ c ∈ ofString (toString k), isDigit c = true := by
  rw [ofString_toString]
  intro c hc
  obtain ⟨ch, hch, rfl⟩ := List.mem_map.1 hc
  have hd := Nat.isDigit_of_mem_toDigits (by decide) (by decide) hch
  simp only [Char.isDigit, Bool.and_eq_true, decide_eq_true_eq] at hd
  have h0 : '0'.toNat ≤ ch.toNat := hd.1
  have h9 : ch.toNat ≤ '9'.toNat := hd.2
  simp at h0 h9
  simp only [isDigit, Bool.and_eq_true, decide_eq_true_eq, UInt8.le_iff_toNat_le]
  simp [Nat.toUInt8_eq, Nat.mod_eq_of_lt (show ch.toNat < 256 by omega)]
  omega

/-- A positive number's digits do not start with zero. -/
theorem head_decimal {k : Nat} (hk : 0 < k) : (ofString (toString k)).head? ≠ some 0x30 := by
  rw [ofString_toString]
  induction k using Nat.strongRecOn with
  | _ k ih =>
    rw [Nat.toDigits_eq_if (by decide)]
    split
    · rename_i hk10
      have := (digitChar_byte hk10).2
      simp only [List.map_cons, List.map_nil, List.head?_cons, ne_eq, Option.some.injEq]
      intro h
      rw [h] at this
      simp at this
      omega
    · rw [List.map_append, List.head?_append]
      have hne : (Nat.toDigits 10 (k / 10)).map (fun c => c.toNat.toUInt8) ≠ [] := by
        simp [Nat.toDigits_ne_nil]
      obtain ⟨c, cs, hcs⟩ := List.exists_cons_of_ne_nil hne
      have := ih (k / 10) (by omega) (by omega)
      rw [hcs] at this ⊢
      simpa using this

theorem numeral_decimal (k : Nat) : Numeral (ofString (toString k)) where
  ne_nil := by
    rw [ofString_toString]
    simp [Nat.toDigits_ne_nil]
  digits := isDigit_decimal k
  leading h := by
    rcases Nat.eq_zero_or_pos k with rfl | hk
    · rw [ofString_toString]; decide
    · exact absurd h (head_decimal hk)

theorem uint32Of_decimal (n : UInt32) : uint32Of (ofString (toString n.toNat)) = some n := by
  have hdigits : (ofString (toString n.toNat)).all isDigit = true :=
    List.all_eq_true.2 (isDigit_decimal n.toNat)
  have hlt : n.toNat < Nat.pow 2 32 := n.toNat_lt
  rw [uint32Of, if_pos ⟨(numeral_decimal _).ne_nil, hdigits⟩]
  simp only [foldl_decimal, if_pos hlt, UInt32.ofNat_toNat]

/-! ## Strings -/

theorem length_encodeRune_ge {r : Nat} (h : 0x80 ≤ r) : 2 ≤ (encodeRune r).length := by
  unfold encodeRune
  dsimp only
  split_ifs <;> simp only [List.length_cons, List.length_nil, replacement] at * <;> omega

/-- The encodings of Unicode scalar values are valid UTF-8. -/
theorem valid_encodeRunes {rs : List Nat} (hrs : ∀ r ∈ rs, r.isValidChar) :
    valid (encodeRunes rs) = true := by
  induction rs with
  | nil => rw [encodeRunes, List.flatMap_nil, valid]
  | cons r rs ih =>
    obtain ⟨b, t, hbt⟩ := List.exists_cons_of_ne_nil (encodeRune_ne_nil r)
    have hfront := front_encodeRune (hrs r List.mem_cons_self) hbt (encodeRunes rs)
    -- a sequence of one byte is ASCII, so never the replacement character read from a bad byte
    have hlong : r < 0x80 ∨ t.length ≠ 0 := by
      by_cases hr : r < 0x80
      · exact .inl hr
      · have := length_encodeRune_ge (r := r) (by omega)
        rw [hbt, List.length_cons] at this
        exact .inr (by omega)
    rw [encodeRunes, List.flatMap_cons, ← encodeRunes, hbt, List.cons_append, valid_cons, hfront,
      List.drop_left, ih fun r' hr' => hrs r' (List.mem_cons_of_mem _ hr')]
    simp only [frontValid, hfront, Bool.and_true, decide_eq_true_eq, replacement]
    omega

theorem ofString_eq_encodeRunes (s : String) :
    ofString s = encodeRunes (s.toList.map Char.toNat) := by
  rw [ofString_eq, encodeRunes, List.flatMap_map]
  congr 1
  funext c
  rw [← utf8EncodeChar_ofNat (r := c.toNat) c.valid, Char.ofNat_toNat]

theorem ofString_injective : Function.Injective ofString := by
  intro s t h
  simp only [ofString, String.toUTF8_eq_toByteArray, byteArray_toList] at h
  exact String.toByteArray_inj.1 (ByteArray.ext (Array.toList_inj.1 h))

theorem valid_ofString (s : String) : valid (ofString s) = true := by
  rw [ofString_eq_encodeRunes]
  exact valid_encodeRunes fun r hr => by
    obtain ⟨c, -, rfl⟩ := List.mem_map.1 hr
    exact c.valid

/-! ## The text of a record -/

def valueJson : Value → JValue
  | .num n => .num (ofString (toString n.toNat))
  | .flag b => .bool b
  | .text bs | .raw bs => .str bs

/-- The members a record is written with: the names and values of its fields, without the ones
that hold zero values. -/
def recordMembers (fields : List Field) (values : List Value) : List (List UInt8 × JValue) :=
  (fields.zip values).filterMap fun (f, v) =>
    if v.isZero then none else some (ofString f.name, valueJson v)

theorem recordMembers_nil (values : List Value) : recordMembers [] values = [] := rfl

theorem recordMembers_cons (f : Field) (v : Value) (fields : List Field) (values : List Value) :
    recordMembers (f :: fields) (v :: values) =
      if v.isZero then recordMembers fields values
      else (ofString f.name, valueJson v) :: recordMembers fields values := by
  by_cases hz : v.isZero <;> simp [recordMembers, hz]

def memberText (m : List UInt8 × JValue) : List UInt8 := ofString (quote m.1) ++ 0x3A :: m.2.write

theorem ofString_valueText (v : Value) : ofString (valueText v) = (valueJson v).write := by
  cases v with
  | num n => rfl
  | flag b => cases b <;> (rw [valueText, ofString_eq]; rfl)
  | text bs | raw bs => rfl

theorem ofString_intercalate (l : List String) :
    ofString (",".intercalate l) = [0x2C].intercalate (l.map ofString) := by
  induction l with
  | nil => rw [String.intercalate_nil, ofString_eq]; rfl
  | cons s l ih =>
    cases l with
    | nil => rw [String.intercalate_singleton, List.map_singleton, List.intercalate_singleton]
    | cons t l =>
      rw [String.intercalate_cons_cons, ofString_append, ofString_append, ih]
      simp only [List.map_cons, List.intercalate_cons_cons, ofString_eq (s := ",")]
      rfl

theorem writeMembers_eq (ms : List (List UInt8 × JValue)) :
    JValue.writeMembers ms = [0x2C].intercalate (ms.map memberText) := by
  induction ms with
  | nil => rfl
  | cons m ms ih =>
    obtain ⟨k, v⟩ := m
    cases ms with
    | nil => simp [JValue.writeMembers, JValue.writeMoreMembers, memberText]
    | cons m' ms =>
      rw [JValue.writeMembers, writeMoreMembers_cons, ih]
      simp [memberText, List.intercalate_cons_cons]

/-- A record's JSON is the object of its members. -/
theorem ofString_recordJson (fields : List Field) (values : List Value) :
    ofString (recordJson fields values) = (JValue.obj (recordMembers fields values)).write := by
  have hmembers : ((fields.zip values).filterMap fun (p : Field × Value) =>
      if p.2.isZero then none
      else some (quote (ofString p.1.name) ++ ":" ++ valueText p.2)).map ofString =
      (recordMembers fields values).map memberText := by
    rw [recordMembers, List.map_filterMap, List.map_filterMap]
    congr 1
    funext p
    by_cases hz : p.2.isZero
    · simp [hz]
    · simp [hz, memberText, ofString_append, ofString_valueText, ofString_eq (s := ":")]
      rfl
  rw [recordJson, JValue.write, writeMembers_eq, ← hmembers, ← ofString_intercalate,
    ofString_append, ofString_append, ofString_eq (s := "\x7b"), ofString_eq (s := "\x7d")]
  rfl

theorem membersPrintable_iff {ms : List (List UInt8 × JValue)} {room : Nat} :
    JValue.MembersPrintable ms room ↔ ∀ m ∈ ms, valid m.1 = true ∧ m.2.Printable room := by
  induction ms with
  | nil => simp [JValue.MembersPrintable]
  | cons m ms ih => simp [JValue.MembersPrintable, ih, and_assoc]

/-- The members of a record whose strings are valid UTF-8 are printable: its names are strings,
and its numbers are written in decimal. -/
theorem printable_recordMembers {fields : List Field} {values : List Value}
    (hvalid : ∀ p ∈ fields.zip values, ∀ t, (p.2 = .text t ∨ p.2 = .raw t) →
      valid t = true)
    (room : Nat) : JValue.MembersPrintable (recordMembers fields values) room := by
  rw [membersPrintable_iff]
  intro m hm
  obtain ⟨⟨f, v⟩, hp, hm⟩ := List.mem_filterMap.1 hm
  by_cases hz : v.isZero
  · simp [hz] at hm
  · simp only [hz, Bool.false_eq_true, if_false, Option.some.injEq] at hm
    subst hm
    refine ⟨valid_ofString _, ?_⟩
    cases v with
    | num n => simpa [valueJson, JValue.Printable] using numeral_decimal n.toNat
    | flag b => simp [valueJson, JValue.Printable]
    | text t => simpa [valueJson, JValue.Printable] using hvalid _ hp t (.inl rfl)
    | raw t => simpa [valueJson, JValue.Printable] using hvalid _ hp t (.inr rfl)

end LcdPanel.Json
