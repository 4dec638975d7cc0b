import LcdPanel.Proofs.Remote.Bridge
import Mathlib.Algebra.Order.BigOperators.Group.List

/-!
Typed messages in their envelope; the round trip needs the strings to hold fewer than `2^63`
bytes, as a program's do.
-/

namespace LcdPanel.Wire

/-- A varint of a value below `2^(7(k+1))` takes at most `k + 1` bytes. -/
theorem length_varint_le (k : Nat) {n : Nat} (h : n < 2 ^ (7 * (k + 1))) :
    (varint n).length ≤ k + 1 := by
  induction k generalizing n with
  | zero =>
    rw [varint, if_pos (by simpa using h)]
    simp
  | succ k ih =>
    rw [varint]
    split
    · simp
    · have hnext : n / 128 < 2 ^ (7 * (k + 1)) := by
        rw [Nat.div_lt_iff_lt_mul (by decide)]
        have hpow : 2 ^ (7 * (k + 1)) * 128 = 2 ^ (7 * (k + 1 + 1)) := by
          rw [show 7 * (k + 1 + 1) = 7 * (k + 1) + 7 by omega, Nat.pow_add]
        omega
      have := ih hnext
      simp only [List.length_cons]
      omega

/-- The bytes a value carries: those of a string or a byte string, none for a number or a flag. -/
def Value.byteLength : Value → Nat
  | .text bs | .raw bs => bs.length
  | _ => 0

/-- A field with a one-byte key, holding fewer than `2^63` bytes, takes at most eleven bytes
besides the bytes it carries: the key, and a varint of at most ten bytes. -/
theorem length_encodeField_le {f : Field} (hf : f.number < 16) {v : Value}
    (hv : v.byteLength < 2 ^ 63) : (encodeField f v).length ≤ 11 + v.byteLength := by
  by_cases hz : v.isZero = true
  · simp [encodeField, hz]
  · have hkey : (key f.number v.wire).length ≤ 1 :=
      length_varint_le 0 (by have := v.wire_lt; simp; omega)
    rw [encodeField_of_not_isZero f (by simpa using hz), List.length_append]
    cases v with
    | num n =>
      have := length_varint_le 4 (n := n.toNat) (by have := n.toNat_lt; simp; omega)
      simp only [Value.payload, Value.byteLength] at hkey ⊢
      omega
    | flag b =>
      simp only [Value.payload, Value.byteLength, List.length_singleton] at hkey ⊢
      omega
    | text bs =>
      have := length_varint_le 9 (n := bs.length) (by simp only [Value.byteLength] at hv; omega)
      simp only [Value.payload, Value.byteLength, List.length_append] at hkey ⊢
      omega
    | raw bs =>
      have := length_varint_le 9 (n := bs.length) (by simp only [Value.byteLength] at hv; omega)
      simp only [Value.payload, Value.byteLength, List.length_append] at hkey ⊢
      omega

/-- A record of one-byte keys takes at most eleven bytes a field besides the bytes it carries. -/
theorem length_encodeRecord_le {fields : List Field} (hf : ∀ f ∈ fields, f.number < 16)
    {values : List Value} (hv : ∀ v ∈ values, v.byteLength < 2 ^ 63) :
    (encodeRecord fields values).length ≤ 11 * fields.length + (values.map Value.byteLength).sum := by
  induction fields generalizing values with
  | nil => simp [encodeRecord]
  | cons f fields ih =>
    cases values with
    | nil => simp [encodeRecord]
    | cons v values =>
      have hhead := length_encodeField_le (hf f (by simp)) (hv v (by simp))
      have htail : (encodeRecord fields values).length ≤
          11 * fields.length + (values.map Value.byteLength).sum :=
        ih (fun g hg => hf g (by simp [hg])) (fun w hw => hv w (by simp [hw]))
      have hsplit : encodeRecord (f :: fields) (v :: values) =
          encodeField f v ++ encodeRecord fields values := by
        simp [encodeRecord]
      rw [hsplit, List.length_append]
      simp only [List.length_cons, List.map_cons, List.sum_cons]
      omega

end LcdPanel.Wire

namespace LcdPanel.Remote

open LcdPanel.Wire

def Message.texts : Message → List (List UInt8)
  | .commandErr t => [t]
  | .setContents a b => [a, b]
  | .sendData _ _ t => [t]
  | .keyEvent _ n _ => [n]
  | .commandOk | .clear | .setContrast _ | .setBacklight .. => []

theorem Message.text_mem_values {m : Message} {t : List UInt8} :
    Value.text t ∈ m.values ↔ t ∈ m.texts := by
  cases m <;> simp [Message.values, Message.texts]

theorem Message.byteLength_values (m : Message) :
    (m.values.map Value.byteLength).sum = (m.texts.map List.length).sum := by
  cases m <;> simp [Message.values, Message.texts, Value.byteLength]

theorem Message.body_of_valid {m : Message} (hvalid : ∀ t ∈ m.texts, Utf8.valid t = true) :
    m.body = .ok (encodeRecord m.type.fields m.values) := by
  cases hb : m.body with
  | ok bs => rw [(marshalRecord_eq_ok hb).1]
  | error e =>
    obtain ⟨f, t, hp, hbad, -⟩ := marshalRecord_eq_error hb
    have := hvalid t (Message.text_mem_values.1 (List.of_mem_zip hp).2)
    simp [this] at hbad

/-- The body of a message whose strings hold fewer than `2^63` bytes is shorter than `2^64`. -/
theorem Message.length_body_lt {m : Message} (hsize : (m.texts.map List.length).sum < 2 ^ 63) :
    (encodeRecord m.type.fields m.values).length < 2 ^ 64 := by
  have hkeys : ∀ f ∈ m.type.fields, f.number < 16 := by
    cases m <;> simp [Message.type, MessageType.fields]
  have hfields : m.type.fields.length ≤ 3 := by
    cases m <;> simp [Message.type, MessageType.fields]
  have hbytes : ∀ v ∈ m.values, v.byteLength < 2 ^ 63 := by
    intro v hv
    have hle : v.byteLength ≤ (m.values.map Value.byteLength).sum :=
      List.le_sum_of_mem (List.mem_map_of_mem hv)
    rw [Message.byteLength_values] at hle
    omega
  have := length_encodeRecord_le hkeys hbytes
  rw [Message.byteLength_values] at this
  omega

/-- An envelope names an unknown type exactly when its identifier is none of the eight, and then
names that identifier. -/
theorem Envelope.decode_unknownType_iff (e : Envelope) (id : UInt32) :
    e.decode = .error (.unknownType id) ↔ id = e.typeId ∧ ∀ t : MessageType, t.id ≠ e.typeId := by
  unfold Envelope.decode
  cases ht : MessageType.ofId? e.typeId with
  | none =>
    have hnone : ∀ t : MessageType, t.id ≠ e.typeId := by
      intro t hid
      have := List.find?_eq_none.1 ht t (by cases t <;> decide)
      simp [hid] at this
    simp [hnone, eq_comm]
  | some t =>
    have hid : t.id = e.typeId := by simpa using List.find?_some ht
    constructor
    · intro h
      cases hd : decodeRecord t.recordName t.fields e.message <;> simp [hd] at h
    · rintro ⟨-, hnot⟩
      exact absurd hid (hnot t)

/-- The kind and reply bits of the eight type identifiers: only a keypad event is an event, and
among the commands only the two replies are replies. -/
theorem Envelope.bits_of_type {env : Envelope} {t : MessageType} (h : env.typeId = t.id) :
    env.isEvent = decide (t = .keyEvent) ∧ env.isCommand = !decide (t = .keyEvent) ∧
      env.isReply = decide (t = .commandOk ∨ t = .commandErr) := by
  simp only [Envelope.isEvent, Envelope.isCommand, Envelope.isReply, Envelope.kind, h]
  cases t <;> decide

/-- Every message of the eight kinds whose strings are valid UTF-8 and hold fewer than `2^63`
bytes encodes, reads back from its bytes as itself, and travels in an envelope with its own type
identifier, whose kind and reply bits say what it is; and an envelope names an unknown type
exactly when its identifier is none of the eight. -/
theorem Message.typed_round_trip (m : Message) (hvalid : ∀ t ∈ m.texts, Utf8.valid t = true)
    (hsize : (m.texts.map List.length).sum < 2 ^ 63) :
    (∃ bytes, m.marshal = .ok bytes ∧ unmarshal bytes = .ok m ∧
      ∃ env, Envelope.parse bytes = .ok env ∧ env.typeId = m.type.id ∧
        env.isEvent = decide (m.type = .keyEvent) ∧ env.isCommand = !decide (m.type = .keyEvent) ∧
        env.isReply = decide (m.type = .commandOk ∨ m.type = .commandErr)) ∧
    ∀ (e : Envelope) (id : UInt32),
      e.decode = .error (.unknownType id) ↔ id = e.typeId ∧ ∀ t : MessageType, t.id ≠ e.typeId := by
  have hbody := Message.body_of_valid hvalid
  have hlen := Message.length_body_lt hsize
  let env : Envelope := ⟨m.type.id, encodeRecord m.type.fields m.values⟩
  have hmarshal : m.marshal = .ok env.encode := by
    simp [Message.marshal, Message.envelope, hbody, Except.map, env]
  have hparse : Envelope.parse env.encode = .ok env := Envelope.parse_encode env hlen
  have hdecode : env.decode = .ok m := Envelope.decode_of_body hbody hlen
  refine ⟨⟨env.encode, hmarshal, ?_, env, hparse, rfl, Envelope.bits_of_type rfl⟩,
    Envelope.decode_unknownType_iff⟩
  simp only [unmarshal, hparse, hdecode]

/-- A keypad event with the largest action and the text `Enter`, pressed. -/
theorem enter_event_round_trip :
    (∀ t ∈ (Message.keyEvent 0xFFFFFFFF [0x45, 0x6E, 0x74, 0x65, 0x72] true).texts,
        Utf8.valid t = true) ∧
      ((Message.keyEvent 0xFFFFFFFF [0x45, 0x6E, 0x74, 0x65, 0x72] true).texts.map
        List.length).sum < 2 ^ 63 ∧
      ∃ bytes, (Message.keyEvent 0xFFFFFFFF [0x45, 0x6E, 0x74, 0x65, 0x72] true).marshal =
          .ok bytes ∧
        unmarshal bytes = .ok (.keyEvent 0xFFFFFFFF [0x45, 0x6E, 0x74, 0x65, 0x72] true) := by
  have hvalid : ∀ t ∈ (Message.keyEvent 0xFFFFFFFF [0x45, 0x6E, 0x74, 0x65, 0x72] true).texts,
      Utf8.valid t = true := by
    simp [Message.texts, Utf8.valid, Utf8.frontValid, Utf8.front, Utf8.replacement]
  have hsize : ((Message.keyEvent 0xFFFFFFFF [0x45, 0x6E, 0x74, 0x65, 0x72] true).texts.map
      List.length).sum < 2 ^ 63 := by
    simp [Message.texts]
  obtain ⟨⟨bytes, hm, hu, -⟩, -⟩ := Message.typed_round_trip _ hvalid hsize
  exact ⟨hvalid, hsize, bytes, hm, hu⟩

end LcdPanel.Remote
