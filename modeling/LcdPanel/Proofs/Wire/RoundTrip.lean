import LcdPanel.Wire.Record
import Mathlib.Tactic.Ring

namespace LcdPanel.Wire

/-! ## Varints -/

/-- A varint read from its `k`-th byte on, below the bound the bytes left allow, reads back as its
value placed above the `7k` bits already read, with the bytes after it untouched. -/
theorem readVarintAt_varint (n : Nat) {k : Nat} (hk : k ≤ 9) (hn : n < 2 ^ (64 - 7 * k))
    (acc : Nat) (rest : List UInt8) :
    readVarintAt k acc (varint n ++ rest) = some (acc + n * 2 ^ (7 * k), rest) := by
  induction n using Nat.strongRecOn generalizing k acc with
  | ind n ih =>
    rw [varint]
    split
    · rename_i hsmall
      have hbyte : n.toUInt8.toNat = n := by simp [Nat.mod_eq_of_lt (by omega : n < 256)]
      simp only [List.cons_append, List.nil_append, readVarintAt, hbyte, Nat.pow_eq]
      split
      · rename_i h9
        subst h9
        simp only [show n < 2 from by simpa using hn, if_true]
      · rfl
    · rename_i hbig
      -- only a tenth byte of 0 or 1 is read, so a value that needs more than one byte there is
      -- beyond the bound
      have h9 : k ≠ 9 := by
        rintro rfl
        have : n < 2 := by simpa using hn
        omega
      have hbyte : (n % 128 + 128).toUInt8.toNat = n % 128 + 128 := by
        simp [Nat.mod_eq_of_lt (by omega : n % 128 + 128 < 256)]
      have hnext : n / 128 < 2 ^ (64 - 7 * (k + 1)) := by
        have : 2 ^ (64 - 7 * k) = 2 ^ (64 - 7 * (k + 1)) * 128 := by
          rw [show 64 - 7 * k = (64 - 7 * (k + 1)) + 7 by omega, Nat.pow_add]
        omega
      simp only [List.cons_append, readVarintAt, h9, if_false, hbyte,
        show ¬ n % 128 + 128 < 128 by omega, Nat.pow_eq, Nat.add_sub_cancel]
      rw [ih (n / 128) (by omega) (by omega) hnext]
      have hpow : 2 ^ (7 * (k + 1)) = 128 * 2 ^ (7 * k) := by
        rw [show 7 * (k + 1) = 7 + 7 * k by omega, Nat.pow_add]
      simp only [Option.some.injEq, Prod.mk.injEq, and_true, hpow]
      calc acc + n % 128 * 2 ^ (7 * k) + n / 128 * (128 * 2 ^ (7 * k))
          = acc + (n % 128 + 128 * (n / 128)) * 2 ^ (7 * k) := by ring
        _ = acc + n * 2 ^ (7 * k) := by rw [Nat.mod_add_div]

theorem readVarint_varint {n : Nat} (hn : n < 2 ^ 64) (rest : List UInt8) :
    readVarint (varint n ++ rest) = some (n, rest) := by
  simpa [readVarint] using readVarintAt_varint n (k := 0) (by omega) (by simpa using hn) 0 rest

/-! ## Values -/

def Value.kind : Value → FieldKind
  | .num _ => .uint32
  | .flag _ => .bool
  | .text _ => .string
  | .raw _ => .bytes

def Value.wire : Value → Nat
  | .num _ | .flag _ => wireVarint
  | .text _ | .raw _ => wireBytes

def Value.payload : Value → List UInt8
  | .num n => varint n.toNat
  | .flag _ => [1]
  | .text bs | .raw bs => varint bs.length ++ bs

/-- A value that reads back as written: a string is valid UTF-8, and no byte string is so long
that its length overflows a varint. -/
def Value.Readable : Value → Prop
  | .text bs => Utf8.valid bs = true ∧ bs.length < 2 ^ 64
  | .raw bs => bs.length < 2 ^ 64
  | _ => True

theorem Value.wire_lt (v : Value) : v.wire < 8 := by
  cases v <;> simp [Value.wire, wireVarint, wireBytes]

theorem encodeField_of_not_isZero (f : Field) {v : Value} (hz : v.isZero = false) :
    encodeField f v = key f.number v.wire ++ v.payload := by
  cases v <;> simp_all [encodeField, Value.wire, Value.payload, Value.isZero]

/-- The payload of a readable value reads back as the value. -/
theorem readValue_payload {v : Value} (hz : v.isZero = false) (hv : v.Readable)
    (rest : List UInt8) : readValue v.kind v.wire (v.payload ++ rest) = .read v rest := by
  cases v with
  | num n =>
    have hn : n.toNat < 2 ^ 64 := by have := n.toNat_lt; omega
    simp [readValue, Value.kind, Value.wire, Value.payload, wireVarint, readVarint_varint hn]
  | flag b =>
    have hb : b = true := by simpa [Value.isZero] using hz
    subst hb
    rfl
  | text bs =>
    simp [readValue, Value.kind, Value.wire, Value.payload, wireBytes, readVarint_varint hv.2]
  | raw bs =>
    simp [readValue, Value.kind, Value.wire, Value.payload, wireBytes,
      readVarint_varint (show bs.length < 2 ^ 64 from hv)]

theorem laterError_of_readable (f : Field) {v : Value} (hv : v.Readable) :
    laterError none f v = none := by
  cases v <;> simp_all [laterError, Value.Readable]

theorem Value.eq_zero_of_isZero {v : Value} {k : FieldKind} (hk : v.kind = k)
    (hz : v.isZero = true) : v = k.zero := by
  subst hk
  cases v <;> simp_all [Value.isZero, Value.kind, FieldKind.zero]

/-! ## Records -/

theorem decodeFields_empty (name : String) (fields : List Field) (values : List Value) :
    decodeFields name fields values none [] = .ok values := by
  rw [decodeFields.eq_def]
  rfl

/-- Reading a known field whose value fits its kind sets the field's value and goes on after it. -/
theorem decodeFields_known {name : String} {fields : List Field} {values : List Value}
    {later : Option WireError} {bs rest r : List UInt8} {x i : Nat} {f : Field} {v : Value}
    (hx : readVarint bs = some (x, rest)) (h0 : x / 8 ≠ 0)
    (hat : fieldAt? fields (x / 8) = some (i, f)) (hr : readValue f.kind (x % 8) rest = .read v r) :
    decodeFields name fields values later bs =
      decodeFields name fields (values.set i v) (laterError later f v) r := by
  rw [decodeFields.eq_def]
  split
  · rename_i h; rw [hx] at h; cases h
  · rename_i x' rest' h
    rw [hx] at h
    cases h
    simp only [h0, if_false, hat]
    split
    · rename_i h; rw [hr] at h; cases h
    · rename_i h; rw [hr] at h; cases h
    · rename_i v' r' h
      rw [hr] at h
      cases h
      rfl

/-- A field written with a readable value of its kind reads back as that value: a zero value is
not written and leaves the record as it was, any other value sets its field. -/
theorem decodeFields_encodeField {name : String} {fields : List Field} {values : List Value}
    {i : Nat} {f : Field} (hat : fieldAt? fields f.number = some (i, f)) (h0 : 0 < f.number)
    (hsmall : f.number < 2 ^ 60) {v : Value} (hk : v.kind = f.kind) (hv : v.Readable)
    (rest : List UInt8) :
    decodeFields name fields values none (encodeField f v ++ rest) =
      decodeFields name fields (if v.isZero then values else values.set i v) none rest := by
  cases hz : v.isZero
  · have hkey : readVarint (key f.number v.wire ++ (v.payload ++ rest)) =
        some (f.number * 8 + v.wire, v.payload ++ rest) :=
      readVarint_varint (by have := v.wire_lt; omega) _
    have hnum : (f.number * 8 + v.wire) / 8 = f.number := by have := v.wire_lt; omega
    have hwire : (f.number * 8 + v.wire) % 8 = v.wire := by have := v.wire_lt; omega
    rw [encodeField_of_not_isZero f hz, List.append_assoc,
      decodeFields_known hkey (by omega) (by rw [hnum]; exact hat)
        (by rw [hwire, ← hk]; exact readValue_payload hz hv rest),
      laterError_of_readable f hv]
    rfl
  · simp [encodeField, hz]

/-- What a record's schema needs for its records to read back: each field is found by its number
at its own position, and numbers are positive and small enough for a one-word key. -/
structure Schema (fields : List Field) : Prop where
  at_number : ∀ j (hj : j < fields.length), fieldAt? fields fields[j].number = some (j, fields[j])
  number_pos : ∀ f ∈ fields, 0 < f.number
  number_lt : ∀ f ∈ fields, f.number < 2 ^ 60

/-- Values that fit a record's fields: one per field, each of its field's kind and readable. -/
def Fits (fields : List Field) (values : List Value) : Prop :=
  values.length = fields.length ∧ ∀ p ∈ fields.zip values, p.2.kind = p.1.kind ∧ p.2.Readable

/-- Reading the written fields that follow those already read: the values read so far are kept,
the fields still to come hold their zero values until read. -/
theorem decodeFields_encodeRecord {name : String} {fields : List Field} (hs : Schema fields)
    (pre post : List Field) (done vs : List Value) (hfields : fields = pre ++ post)
    (hdone : done.length = pre.length) (hvs : Fits post vs) :
    decodeFields name fields (done ++ post.map (·.kind.zero)) none (encodeRecord post vs) =
      .ok (done ++ vs) := by
  induction post generalizing pre done vs with
  | nil =>
    obtain ⟨hlen, -⟩ := hvs
    cases vs with
    | nil => simpa [encodeRecord] using decodeFields_empty name fields done
    | cons v vs => simp at hlen
  | cons f post ih =>
    obtain ⟨hlen, hfit⟩ := hvs
    obtain ⟨v, vs, rfl⟩ : ∃ v vs', vs = v :: vs' := by
      cases vs with
      | nil => simp at hlen
      | cons v vs' => exact ⟨v, vs', rfl⟩
    have hlt : pre.length < fields.length := by simp [hfields]
    have hf : fields[pre.length] = f := by simp [hfields]
    have hat := hs.at_number pre.length hlt
    rw [hf] at hat
    have hmem : f ∈ fields := by simp [hfields]
    obtain ⟨hk, hv⟩ : v.kind = f.kind ∧ v.Readable := hfit (f, v) (by simp)
    -- after the field, the values read are those before it and this one
    have hset : (if v.isZero then done ++ (f :: post).map (·.kind.zero)
        else (done ++ (f :: post).map (·.kind.zero)).set pre.length v) =
        (done ++ [v]) ++ post.map (·.kind.zero) := by
      split
      · rename_i hz
        rw [Value.eq_zero_of_isZero hk hz]
        simp
      · simp [hdone]
    have henc : encodeRecord (f :: post) (v :: vs) = encodeField f v ++ encodeRecord post vs := by
      simp [encodeRecord]
    rw [henc, decodeFields_encodeField hat (hs.number_pos f hmem) (hs.number_lt f hmem) hk hv, hset,
      ih (pre ++ [f]) (done ++ [v]) vs (by simp [hfields]) (by simp [hdone])
      ⟨by simpa using hlen, fun p hp => hfit p (by simp [hp])⟩]
    simp

/-- A record whose values fit its schema reads back as those values. -/
theorem decodeRecord_encodeRecord {name : String} {fields : List Field} (hs : Schema fields)
    {values : List Value} (hv : Fits fields values) :
    decodeRecord name fields (encodeRecord fields values) = .ok values := by
  simpa [decodeRecord] using decodeFields_encodeRecord hs [] fields [] values rfl rfl hv

/-- A record that encodes holds valid UTF-8 in every string, and its bytes are its encoding. -/
theorem marshalRecord_eq_ok {fields : List Field} {values : List Value} {bs : List UInt8}
    (h : marshalRecord fields values = .ok bs) :
    bs = encodeRecord fields values ∧
      ∀ p ∈ fields.zip values, ∀ t, p.2 = .text t → Utf8.valid t = true := by
  unfold marshalRecord at h
  split at h
  · cases h
  · rename_i hbad
    cases h
    refine ⟨rfl, fun ⟨f, v⟩ hp t ht => ?_⟩
    have := List.findSome?_eq_none_iff.1 hbad (f, v) hp
    simp only at ht
    subst ht
    simpa using this

/-- A record fails to encode only for a string that is not valid UTF-8, which the error names. -/
theorem marshalRecord_eq_error {fields : List Field} {values : List Value} {e : WireError}
    (h : marshalRecord fields values = .error e) :
    ∃ f t, (f, Value.text t) ∈ fields.zip values ∧ Utf8.valid t = false ∧
      e = .invalidUtf8 ("." ++ f.declName) := by
  unfold marshalRecord at h
  split at h
  · rename_i name hbad
    cases h
    obtain ⟨⟨f, v⟩, hp, hsome⟩ := List.exists_of_findSome?_eq_some hbad
    cases v with
    | text t =>
      by_cases hv : Utf8.valid t = true
      · simp [hv] at hsome
      · simp only [hv, if_false, Bool.false_eq_true, Option.some.injEq] at hsome
        exact ⟨f, t, hp, by simpa using hv, by rw [hsome]⟩
    | _ => simp at hsome
  · cases h

end LcdPanel.Wire
