import LcdPanel.Proofs.Json.Record
import LcdPanel.Proofs.Remote.Typed
import LcdPanel.Remote.Socket
import Mathlib.Data.List.Nodup

/-! Messages in websocket frames: the frame names its type, and its JSON reads back as the message. -/

namespace LcdPanel.Remote

open LcdPanel Json Wire Utf8

/-! ## Keyed lists -/

/-- In a list with distinct keys, the entry found by a key is the one with that key. -/
theorem find?_key_iff {α κ : Type} [DecidableEq κ] (key : α → κ) {l : List α}
    (hn : (l.map key).Nodup) (k : κ) (r : α) :
    l.find? (fun x => key x = k) = some r ↔ r ∈ l ∧ key r = k := by
  constructor
  · intro h
    exact ⟨List.mem_of_find?_eq_some h, by simpa using List.find?_some h⟩
  · rintro ⟨hr, rfl⟩
    obtain ⟨r', hr'⟩ : ∃ r', l.find? (fun x => key x = key r) = some r' := by
      cases h : l.find? (fun x => key x = key r) with
      | some r' => exact ⟨r', rfl⟩
      | none => simp only [List.find?_eq_none] at h; exact absurd (by simp) (h r hr)
    have hm := List.mem_of_find?_eq_some hr'
    have hk : key r' = key r := by simpa using List.find?_some hr'
    rw [hr', List.inj_on_of_nodup_map hn hm hr hk]

/-! ## Frame names -/

theorem mem_frameNames (t : MessageType) : (t.frameName, t) ∈ frameNames := by
  cases t <;> decide

theorem frameNames_ids_nodup : (frameNames.map fun p => p.2.id).Nodup := by decide

theorem frameNames_names_nodup : (frameNames.map fun p => ofString p.1).Nodup := by
  have hnames : (frameNames.map fun p => p.1).Nodup := by decide
  have hmap := hnames.map ofString_injective
  rwa [List.map_map] at hmap

theorem find?_frameNames_id {l : List (String × MessageType)} (hl : l.Perm frameNames)
    (t : MessageType) : (l.find? fun p => p.2.id = t.id).map (·.1) = some t.frameName := by
  have hn : (l.map fun p => p.2.id).Nodup := (hl.map _).nodup_iff.2 frameNames_ids_nodup
  have hmem : (t.frameName, t) ∈ l := hl.mem_iff.2 (mem_frameNames t)
  rw [(find?_key_iff (fun p => p.2.id) hn t.id (t.frameName, t)).2 ⟨hmem, rfl⟩]
  rfl

theorem find?_frameName (t : MessageType) :
    frameNames.find? (fun p => ofString p.1 = ofString t.frameName) = some (t.frameName, t) :=
  (find?_key_iff (fun p => ofString p.1) frameNames_names_nodup _ _).2 ⟨mem_frameNames t, rfl⟩

/-- A frame is refused as unknown exactly when its type is no frame name, and the refusal names
the frame's type. -/
theorem Frame.decode_unknownType_iff (f : Frame) (name : List UInt8) :
    f.decode = .error (.unknownType name) ↔
      name = f.type ∧ ∀ p ∈ frameNames, ofString p.1 ≠ f.type := by
  unfold Frame.decode
  cases hfind : frameNames.find? (fun p => ofString p.1 = f.type) with
  | none =>
    have hnone : ∀ p ∈ frameNames, ofString p.1 ≠ f.type := by
      intro p hp heq
      have := List.find?_eq_none.1 hfind p hp
      simp [heq] at this
    simp only [Except.error.injEq, FrameError.unknownType.injEq]
    exact ⟨fun h => ⟨h.symm, hnone⟩, fun h => h.1.symm⟩
  | some p =>
    have hfound : ofString p.1 = f.type := by simpa using List.find?_some hfind
    constructor
    · -- a known type gives a message or a decoding error, never an unknown type
      intro h
      cases hm : f.message with
      | none => simp [hm] at h
      | some v =>
        cases hd : decodeAt p.2.shape.shortName [] p.2.shape p.2.shape.zero v <;> simp [hm, hd] at h
    · rintro ⟨-, hnot⟩
      exact absurd hfound (hnot p (List.mem_of_find?_eq_some hfind))

/-! ## Records read back from their members -/

def valueDatum : Value → Datum
  | .num n => .num n
  | .flag b => .flag b
  | .text bs | .raw bs => .text bs

/-- The JSON of a value of a field's kind decodes into the field's shape as the value's datum,
whatever the field held before. -/
theorem decodeAt_valueJson (root : String) (path : List PathStep) {v : Value} {k : FieldKind}
    (hk : v.kind = k) (cur : Datum) :
    decodeAt root path (kindShape k) cur (valueJson v) = .ok (valueDatum v) := by
  subst hk
  cases v with
  | num n => simp only [decodeAt, Value.kind, kindShape, valueJson, valueDatum, uint32Of_decimal]
  | flag b => simp [decodeAt, Value.kind, kindShape, valueJson, valueDatum]
  | text bs => simp [decodeAt, Value.kind, kindShape, valueJson, valueDatum]
  | raw bs => simp [decodeAt, Value.kind, kindShape, valueJson, valueDatum]

theorem valueDatum_of_isZero {v : Value} {k : FieldKind} (hk : v.kind = k) (hz : v.isZero = true) :
    valueDatum v = (kindShape k).zero := by
  rw [Value.eq_zero_of_isZero hk hz]
  cases k <;> rfl

theorem zeros_kindShape (fields : List Field) :
    Shape.zeros (fields.map fun f => (f.name, kindShape f.kind)) =
      fields.map fun f => (kindShape f.kind).zero := by
  induction fields with
  | nil => rfl
  | cons f fields ih => rw [List.map_cons, Shape.zeros, ih, List.map_cons]

/-- With distinct field names, a field's name finds the field's position. -/
theorem fieldIndex_name {fields : List Field} (hn : (fields.map (·.name)).Nodup) {j : Nat}
    (hj : j < fields.length) :
    fieldIndex (fields.map fun f => (f.name, kindShape f.kind)) (ofString fields[j].name) =
      some j := by
  have hfind : (fields.map fun f => (f.name, kindShape f.kind)).findIdx?
      (fun p => ofString p.1 = ofString fields[j].name) = some j := by
    rw [List.findIdx?_eq_some_iff_getElem]
    refine ⟨by simpa using hj, by simp, fun i hi => ?_⟩
    -- an earlier field has another name
    have hne : fields[i].name ≠ fields[j].name := fun heq =>
      absurd ((@List.Nodup.getElem_inj_iff _ _ hn i (by simpa using hi.trans hj) j
        (by simpa using hj)).1 (by simpa using heq)) (by omega)
    simpa using fun h => hne (ofString_injective h)
  rw [fieldIndex, hfind]

section Members

variable {fields : List Field} (hn : (fields.map (·.name)).Nodup) (root : String)
  (path : List PathStep)
include hn

/-- The member of a field, holding a value of the field's kind, sets the field to the value's
datum. -/
theorem decodeMembers_field {j : Nat} (hj : j < fields.length) {ds : List Datum}
    (hds : ds.length = fields.length) {v : Value} (hk : v.kind = fields[j].kind)
    (rest : List (List UInt8 × JValue)) :
    decodeMembers root path (fields.map fun f => (f.name, kindShape f.kind)) ds
        ((ofString fields[j].name, valueJson v) :: rest) =
      decodeMembers root path (fields.map fun f => (f.name, kindShape f.kind))
        (ds.set j (valueDatum v)) rest := by
  rw [decodeMembers, fieldIndex_name hn hj]
  simp [List.getElem?_eq_getElem hj, List.getElem?_eq_getElem (hds ▸ hj),
    decodeAt_valueJson _ _ hk]

/-- Reading the members written for the fields that follow those already read: the values read
so far are kept, each field still to come is set by its member or keeps its zero when it has
none. -/
theorem decodeMembers_recordMembers (pre post : List Field) (done : List Datum) (vs : List Value)
    (hfields : fields = pre ++ post) (hdone : done.length = pre.length)
    (hlen : vs.length = post.length) (hkinds : ∀ p ∈ post.zip vs, p.2.kind = p.1.kind) :
    decodeMembers root path (fields.map fun f => (f.name, kindShape f.kind))
        (done ++ post.map fun f => (kindShape f.kind).zero) (recordMembers post vs) =
      .ok (done ++ vs.map valueDatum) := by
  induction post generalizing pre done vs with
  | nil =>
    cases vs with
    | nil => simp [recordMembers_nil, decodeMembers]
    | cons v vs => simp at hlen
  | cons f post ih =>
    obtain ⟨v, vs, rfl⟩ : ∃ v vs', vs = v :: vs' := by
      cases vs with
      | nil => simp at hlen
      | cons v vs' => exact ⟨v, vs', rfl⟩
    have hk : v.kind = f.kind := hkinds (f, v) (by simp)
    have hnext := ih (pre ++ [f]) (done ++ [valueDatum v]) vs (by simp [hfields])
      (by simp [hdone]) (by simpa using hlen) (fun p hp => hkinds p (by simp [hp]))
    simp only [List.append_assoc, List.singleton_append] at hnext
    rw [recordMembers_cons, List.map_cons, List.map_cons]
    split
    · -- a zero value is not written, and its field keeps the zero it holds
      rename_i hz
      rw [valueDatum_of_isZero hk hz] at hnext ⊢
      exact hnext
    · have hj : pre.length < fields.length := by simp [hfields]
      have hf : fields[pre.length] = f := by simp [hfields]
      rw [← hf, decodeMembers_field hn root path hj (by simp [hfields, hdone]) (hf ▸ hk), hf]
      simpa [List.set_append_right _ _ hdone.ge, hdone] using hnext

end Members

theorem MessageType.ofDatum_values (m : Message) :
    m.type.ofDatum (.record (m.values.map valueDatum)) = m := by
  cases m <;> rfl

/-! ## Messages in frames -/

theorem MessageType.names_nodup (t : MessageType) : (t.fields.map (·.name)).Nodup := by
  cases t <;> decide

/-- A message's JSON object decodes into its type's shape as the record of its values. -/
theorem Message.decodeAt_members (m : Message) :
    decodeAt m.type.shape.shortName [] m.type.shape m.type.shape.zero
        (.obj (recordMembers m.type.fields m.values)) =
      .ok (.record (m.values.map valueDatum)) := by
  generalize m.type.shape.shortName = root
  have hdecode := decodeMembers_recordMembers m.type.names_nodup root []
    [] m.type.fields [] m.values rfl rfl m.length_values m.kinds_values
  rw [List.nil_append, List.nil_append, ← zeros_kindShape] at hdecode
  simp only [MessageType.shape, Shape.zero, decodeAt, hdecode]

/-- The object a message's frame is written as: the frame name of its type under `type`, the
record of its values under `message`. -/
def Message.frameJson (m : Message) : JValue :=
  .obj [(ofString "type", .str (ofString m.type.frameName)),
    (ofString "message", .obj (recordMembers m.type.fields m.values))]

theorem Message.ofString_frameText (m : Message) : ofString m.frameText = m.frameJson.write := by
  rw [Message.frameText, ofString_append, ofString_append, ofString_append, ofString_append,
    Message.json, ofString_recordJson]
  -- the two keys are plain ASCII, so they are quoted as they are
  have hkey : ∀ s, s = "type" ∨ s = "message" →
      ofString (quote (ofString s)) = 0x22 :: ofString s ++ [0x22] := by
    rintro s (rfl | rfl) <;> exact ofString_quote_safe (by simp only [ofString_eq]; decide +kernel)
  have hopen : ofString "\x7b\"type\":" = 0x7B :: ofString (quote (ofString "type")) ++ [0x3A] := by
    rw [hkey _ (.inl rfl)]
    simp only [ofString_eq]
    rfl
  have hmid : ofString ",\"message\":" =
      0x2C :: ofString (quote (ofString "message")) ++ [0x3A] := by
    rw [hkey _ (.inr rfl)]
    simp only [ofString_eq]
    rfl
  have hclose : ofString "\x7d" = [0x7D] := by rw [ofString_eq]; rfl
  rw [hopen, hmid, hclose]
  simp only [Message.frameJson, JValue.write, JValue.writeMembers, JValue.writeMoreMembers,
    List.append_assoc, List.cons_append, List.nil_append, List.append_nil]

theorem Message.valid_values {m : Message} (hvalid : ∀ t ∈ m.texts, valid t = true) :
    ∀ p ∈ m.type.fields.zip m.values, ∀ t, (p.2 = .text t ∨ p.2 = .raw t) →
      valid t = true := by
  rintro ⟨f, v⟩ hp t (rfl | rfl)
  · exact hvalid t (Message.text_mem_values.1 (List.of_mem_zip hp).2)
  · have hraw := (List.of_mem_zip hp).2
    cases m <;> simp [Message.values] at hraw

section Valid

variable {m : Message} (hvalid : ∀ t ∈ m.texts, valid t = true)
include hvalid

theorem Message.printable_record {room : Nat} (hroom : 0 < room) :
    (JValue.obj (recordMembers m.type.fields m.values)).Printable room :=
  ⟨hroom, printable_recordMembers (m.valid_values hvalid) _⟩

theorem Message.printable_frameJson : m.frameJson.Printable maxDepth := by
  simp only [Message.frameJson, JValue.Printable, JValue.MembersPrintable]
  exact ⟨by decide, valid_ofString _, valid_ofString _, valid_ofString _,
    m.printable_record hvalid (by decide), trivial⟩

/-- The frame of a message whose strings are valid UTF-8 reads back as the message's frame name
and the object of its record. -/
theorem Message.read_frameText :
    Frame.read (ofString m.frameText) =
      .ok ⟨ofString m.type.frameName, some (.obj (recordMembers m.type.fields m.values))⟩ := by
  rw [Message.ofString_frameText, Frame.read, decode, parse_write (m.printable_frameJson hvalid)]
  have htype : fieldIndex [("type", .text), ("message", .raw)] (ofString "type") = some 0 := by
    simp only [fieldIndex, ofString_eq]
    rfl
  have hmessage :
      fieldIndex [("type", .text), ("message", .raw)] (ofString "message") = some 1 := by
    simp only [fieldIndex, ofString_eq]
    rfl
  -- the two members land in the frame's two fields, the message kept as it is
  simp [frameShape, Shape.zero, Shape.zeros, decodeAt, decodeMembers, htype, hmessage,
    Message.frameJson]

end Valid

/-- A frame named by a type's frame name and carrying the object of a message's record decodes as
the message. -/
theorem Message.decode_frame (m : Message) :
    Frame.decode
        ⟨ofString m.type.frameName, some (.obj (recordMembers m.type.fields m.values))⟩ =
      .ok m := by
  simp only [Frame.decode, find?_frameName, m.decodeAt_members, MessageType.ofDatum_values]

/-- Every message whose strings are valid UTF-8 travels in a frame and comes back from it. The
name of its type is the one frame name mapped to its identifier, whichever order the names are
looked at in; its JSON reads as an object, which the frame's text carries under that name; and
the frame decodes as the message. A frame is refused as unknown exactly when its type is no frame
name. -/
theorem Message.frame_round_trip (m : Message) (hvalid : ∀ t ∈ m.texts, valid t = true) :
    (∀ l : List (String × MessageType), l.Perm frameNames →
      (l.find? fun p => p.2.id = m.type.id).map (·.1) = some m.type.frameName) ∧
    (∃ v, parse (ofString m.json) = .ok v ∧
      Frame.read (ofString m.frameText) = .ok ⟨ofString m.type.frameName, some v⟩ ∧
      Frame.decode ⟨ofString m.type.frameName, some v⟩ = .ok m) ∧
    ∀ (f : Frame) (name : List UInt8), f.decode = .error (.unknownType name) ↔
      name = f.type ∧ ∀ p ∈ frameNames, ofString p.1 ≠ f.type := by
  have hparse : parse (ofString m.json) = .ok (.obj (recordMembers m.type.fields m.values)) := by
    rw [Message.json, ofString_recordJson, parse_write (m.printable_record hvalid (by decide))]
  exact ⟨fun l hl => find?_frameNames_id hl m.type,
    ⟨_, hparse, m.read_frameText hvalid, m.decode_frame⟩, Frame.decode_unknownType_iff⟩

/-- The contents `hi` over an empty second line come back from their frame. -/
theorem contents_frame_round_trip :
    (∀ t ∈ (Message.setContents [0x68, 0x69] []).texts, valid t = true) ∧
      ∃ v, Frame.read (ofString (Message.setContents [0x68, 0x69] []).frameText) =
          .ok ⟨ofString "contents", some v⟩ ∧
        Frame.decode ⟨ofString "contents", some v⟩ = .ok (.setContents [0x68, 0x69] []) := by
  have hvalid : ∀ t ∈ (Message.setContents [0x68, 0x69] []).texts, valid t = true := by
    simp [Message.texts, valid, frontValid, front, replacement]
  obtain ⟨-, ⟨v, -, hread, hdecode⟩, -⟩ := Message.frame_round_trip _ hvalid
  exact ⟨hvalid, v, hread, hdecode⟩

end LcdPanel.Remote
