import LcdPanel.Remote.Bridge
import LcdPanel.Proofs.Wire.RoundTrip
import Mathlib.Tactic.IntervalCases
import Mathlib.Tactic.SplitIfs

/-! Running encoded commands, for every way the device may answer (`Yields`). -/

namespace LcdPanel.Utf8

theorem front_ff (rest : List UInt8) : front 0xff rest = (replacement, 0) := by
  simp [front]

theorem le_of_mem_take_front {b0 b : UInt8} {rest : List UInt8}
    (hb : b ∈ rest.take (front b0 rest).2) : b.toNat ≤ 0xBF := by
  rcases rest with _ | ⟨b1, _ | ⟨b2, _ | ⟨b3, tail⟩⟩⟩
  · simp at hb
  all_goals
    unfold front at hb
    simp only at hb
    split_ifs at hb
  -- a branch takes no byte, or only bytes it checked to lie within a range ending at 0xBF or below
  all_goals simp only [List.take, List.mem_cons, List.not_mem_nil, or_false] at hb
  all_goals rcases hb with rfl | rfl | rfl <;> simp_all [within] <;> omega

/-- Valid UTF-8 holds no byte `0xFF`: it leads no sequence and continues none. -/
theorem ff_not_mem_of_valid {bs : List UInt8} (h : valid bs = true) : (0xff : UInt8) ∉ bs := by
  fun_induction valid bs with
  | case1 => simp
  | case2 b0 rest ih =>
    rw [Bool.and_eq_true] at h
    obtain ⟨hfront, hrest⟩ := h
    have hb0 : b0 ≠ 0xff := by
      rintro rfl
      simp [frontValid, front_ff] at hfront
    intro hmem
    rcases List.mem_cons.1 hmem with h | h
    · exact hb0 h.symm
    · rw [← List.take_append_drop (front b0 rest).2 rest] at h
      rcases List.mem_append.1 h with h | h
      · have := le_of_mem_take_front h
        simp at this
      · exact ih hrest h

theorem valid_append_ff (bs : List UInt8) : valid (bs ++ [0xff]) = false := by
  cases h : valid (bs ++ [0xff])
  · rfl
  · exact absurd (by simp) (ff_not_mem_of_valid h)

end LcdPanel.Utf8

namespace LcdPanel.Display

open LcdPanel.Frame LcdPanel.Link

/-- The results a display program can end with, for some answers of the device. -/
inductive Exchange.Yields {α : Type} : Exchange α → Except DeviceError α → Prop
  | done (r : Except DeviceError α) : Yields (.done r) r
  | ask {cmd : Packet} {next : Except LinkError Packet → Exchange α} {r : Except DeviceError α}
      (reply : Except LinkError Packet) : Yields (next reply) r → Yields (.ask cmd next) r
  | askAtRate {cmd : Packet} {baud : Int} {next : Except LinkError Packet → Exchange α}
      {r : Except DeviceError α} (reply : Except LinkError Packet) :
      Yields (next reply) r → Yields (.askAtRate cmd baud next) r

def Exchange.Asks {α : Type} : Exchange α → Prop
  | .done _ => False
  | _ => True

namespace Exchange

variable {α β : Type}

theorem yields_done {r r' : Except DeviceError α} (h : (Exchange.done r).Yields r') : r' = r := by
  cases h; rfl

/-- A result of a sequence is a result of its first program passed on, or its first program's
failure. -/
theorem Yields.of_bind {x : Exchange α} {f : α → Exchange β} {r : Except DeviceError β}
    (h : (x.bind f).Yields r) :
    (∃ a, x.Yields (.ok a) ∧ (f a).Yields r) ∨ (∃ e, x.Yields (.error e) ∧ r = .error e) := by
  induction x with
  | done res =>
    cases res with
    | ok a => exact .inl ⟨a, .done _, h⟩
    | error e => exact .inr ⟨e, .done _, yields_done h⟩
  | ask cmd next ih =>
    cases h with
    | ask reply h =>
      rcases ih reply h with ⟨a, ha, hf⟩ | ⟨e, he, rfl⟩
      · exact .inl ⟨a, .ask reply ha, hf⟩
      · exact .inr ⟨e, .ask reply he, rfl⟩
  | askAtRate cmd baud next ih =>
    cases h with
    | askAtRate reply h =>
      rcases ih reply h with ⟨a, ha, hf⟩ | ⟨e, he, rfl⟩
      · exact .inl ⟨a, .askAtRate reply ha, hf⟩
      · exact .inr ⟨e, .askAtRate reply he, rfl⟩

/-- A program with its failure as its value never fails. -/
theorem Yields.of_attempt {x : Exchange α} {r : Except DeviceError (Except DeviceError α)}
    (h : x.attempt.Yields r) : ∃ r', r = .ok r' ∧ x.Yields r' := by
  induction x with
  | done res => exact ⟨res, yields_done h, .done _⟩
  | ask cmd next ih =>
    cases h with
    | ask reply h =>
      obtain ⟨r', rfl, hr⟩ := ih reply h
      exact ⟨r', rfl, .ask reply hr⟩
  | askAtRate cmd baud next ih =>
    cases h with
    | askAtRate reply h =>
      obtain ⟨r', rfl, hr⟩ := ih reply h
      exact ⟨r', rfl, .askAtRate reply hr⟩

theorem asks_bind {x : Exchange α} {f : α → Exchange β} (h : (x.bind f).Asks) :
    x.Asks ∨ ∃ a, x = .done (.ok a) ∧ (f a).Asks := by
  cases x with
  | done res =>
    cases res with
    | ok a => exact .inr ⟨a, rfl, h⟩
    | error e => exact absurd h id
  | ask => exact .inl trivial
  | askAtRate => exact .inl trivial

theorem map_eq_bind (f : α → β) (x : Exchange α) :
    f <$> x = x.bind fun a => .done (.ok (f a)) := rfl

end Exchange

end LcdPanel.Display

namespace LcdPanel.Remote

open LcdPanel.Wire LcdPanel.Display LcdPanel.Frame LcdPanel.Link

/-! ## Schemas -/

theorem MessageType.schema (t : MessageType) : Schema t.fields where
  at_number j hj := by
    cases t <;> simp only [MessageType.fields, List.length_cons, List.length_nil] at hj <;>
      interval_cases j <;> rfl
  number_pos f hf := by
    cases t <;> simp [MessageType.fields] at hf <;> rcases hf with rfl | rfl | rfl <;> decide
  number_lt f hf := by
    cases t <;> simp [MessageType.fields] at hf <;> rcases hf with rfl | rfl | rfl <;> decide

theorem envelope_schema : Schema envelopeFields where
  at_number j hj := by
    simp only [envelopeFields, List.length_cons, List.length_nil] at hj
    interval_cases j <;> rfl
  number_pos f hf := by simp [envelopeFields] at hf; rcases hf with rfl | rfl <;> decide
  number_lt f hf := by simp [envelopeFields] at hf; rcases hf with rfl | rfl <;> decide

theorem length_le_encodeRecord {fields : List Field} {values : List Value} {f : Field}
    {v : Value} (hp : (f, v) ∈ fields.zip values) {bs : List UInt8}
    (hv : v = .text bs ∨ v = .raw bs) : bs.length ≤ (encodeRecord fields values).length := by
  have hin : encodeField f v <:+: encodeRecord fields values :=
    List.infix_of_mem_flatten (List.mem_map_of_mem hp)
  have hbs : bs.length ≤ (encodeField f v).length := by
    by_cases hz : bs = []
    · simp [hz]
    · rcases hv with rfl | rfl <;> simp [encodeField, Value.isZero, hz] <;> omega
  exact hbs.trans hin.length_le

theorem Message.length_values (m : Message) : m.values.length = m.type.fields.length := by
  cases m <;> rfl

theorem Message.kinds_values (m : Message) :
    ∀ p ∈ m.type.fields.zip m.values, p.2.kind = p.1.kind := by
  cases m <;> simp [Message.type, MessageType.fields, Message.values, Value.kind]

/-- The values of a message fit its type's fields once its strings are valid UTF-8 and its
encoding is shorter than `2^64` bytes. -/
theorem Message.fits (m : Message)
    (hvalid : ∀ p ∈ m.type.fields.zip m.values, ∀ t, p.2 = .text t → Utf8.valid t = true)
    (hlen : (encodeRecord m.type.fields m.values).length < 2 ^ 64) :
    Fits m.type.fields m.values := by
  refine ⟨m.length_values, fun p hp => ⟨m.kinds_values p hp, ?_⟩⟩
  obtain ⟨f, v⟩ := p
  cases v with
  | text t =>
    exact ⟨hvalid _ hp t rfl, (length_le_encodeRecord hp (.inl rfl)).trans_lt hlen⟩
  | raw t => exact (length_le_encodeRecord hp (.inr rfl)).trans_lt hlen
  | _ => trivial

theorem MessageType.build_values (m : Message) : m.type.build m.values = m := by
  cases m <;> rfl

theorem MessageType.ofId?_id (t : MessageType) : MessageType.ofId? t.id = some t := by
  cases t <;> rfl

/-! ## Round trip -/

/-- An envelope whose message is shorter than `2^64` bytes reads back from its bytes. -/
theorem Envelope.parse_encode (e : Envelope) (h : e.message.length < 2 ^ 64) :
    Envelope.parse e.encode = .ok e := by
  have hfit : Fits envelopeFields e.values := by
    refine ⟨rfl, fun p hp => ?_⟩
    simp only [envelopeFields, Envelope.values, List.zip_cons_cons, List.zip_nil_right,
      List.mem_cons, List.not_mem_nil, or_false] at hp
    rcases hp with rfl | rfl
    · exact ⟨rfl, trivial⟩
    · exact ⟨rfl, h⟩
  rw [Envelope.parse, Envelope.encode, decodeRecord_encodeRecord envelope_schema hfit]
  rfl

theorem Envelope.decode_of_body {m : Message} {body : List UInt8} (hb : m.body = .ok body)
    (hlen : body.length < 2 ^ 64) : Envelope.decode ⟨m.type.id, body⟩ = .ok m := by
  obtain ⟨rfl, hvalid⟩ := marshalRecord_eq_ok hb
  simp [Envelope.decode, MessageType.ofId?_id,
    decodeRecord_encodeRecord m.type.schema (m.fits hvalid hlen), MessageType.build_values]

/-- The reply to a message read from its envelope is the reply to the message itself: the kind
and reply bits of its type identifier refuse exactly the messages that are no display command. -/
theorem answerEnvelope_of_body {m : Message} {body : List UInt8} (hb : m.body = .ok body)
    (hlen : body.length < 2 ^ 64) : answerEnvelope ⟨m.type.id, body⟩ = execute m := by
  have hdec := Envelope.decode_of_body hb hlen
  cases m <;> simp_all +decide [answerEnvelope, Envelope.isCommand, Envelope.isReply, Envelope.kind,
    Envelope.eventBit, Envelope.replyBit, Message.type, MessageType.id, execute, Message.operation]


theorem Message.marshal_eq_ok {m : Message} {bytes : List UInt8} (h : m.marshal = .ok bytes) :
    ∃ body, m.body = .ok body ∧ bytes = Envelope.encode ⟨m.type.id, body⟩ := by
  unfold Message.marshal Message.envelope at h
  cases hb : m.body with
  | error e => simp [hb, Except.map] at h
  | ok body =>
    simp only [hb, Except.map, Except.ok.injEq] at h
    exact ⟨body, rfl, h.symm⟩

/-- A message encoded in its envelope runs exactly as the message itself, with the same display
calls and the same reply. -/
theorem executeEncoded_marshal {m : Message} {bytes : List UInt8} (h : m.marshal = .ok bytes)
    (hlen : bytes.length < 2 ^ 64) : executeEncoded bytes = .ok (Message.marshal <$> execute m) := by
  obtain ⟨body, hb, rfl⟩ := Message.marshal_eq_ok h
  have hbody : body.length < 2 ^ 64 := by
    refine lt_of_le_of_lt (length_le_encodeRecord (f := envelopeFields[1]) (v := .raw body) ?_
      (.inr rfl)) hlen
    simp [envelopeFields, Envelope.values]
  rw [executeEncoded, Envelope.parse_encode _ hbody]
  simp only [answerEnvelope_of_body hb hbody]


/-! ## Replies -/

/-- Whether a message is a reply to a command: `CommandOK`, or `CommandErr` with any text. -/
def Message.IsReply (m : Message) : Prop :=
  m = .commandOk ∨ ∃ t, m = .commandErr t

/-- Running a message ends, whatever the display answers, with a reply to a command. -/
theorem execute_yields {m : Message} {r : Except DeviceError Message} (h : (execute m).Yields r) :
    ∃ reply, r = .ok reply ∧ reply.IsReply := by
  unfold execute at h
  split at h
  · exact ⟨_, Exchange.yields_done h, .inr ⟨_, rfl⟩⟩
  · rcases Exchange.Yields.of_bind h with ⟨res, -, hres⟩ | ⟨e, he, -⟩
    · cases res with
      | ok u => exact ⟨_, Exchange.yields_done hres, .inl rfl⟩
      | error e => exact ⟨_, Exchange.yields_done hres, .inr ⟨_, rfl⟩⟩
    · obtain ⟨r', hr', -⟩ := Exchange.Yields.of_attempt he
      cases hr'

theorem answerEnvelope_yields {env : Envelope} {r : Except DeviceError Message}
    (h : (answerEnvelope env).Yields r) : ∃ reply, r = .ok reply ∧ reply.IsReply := by
  unfold answerEnvelope at h
  split at h
  · exact ⟨_, Exchange.yields_done h, .inr ⟨_, rfl⟩⟩
  · split at h
    · exact ⟨_, Exchange.yields_done h, .inr ⟨_, rfl⟩⟩
    · exact execute_yields h

/-- A reply to a command fails to encode only as a `CommandErr` whose text is not valid UTF-8. -/
theorem Message.marshal_reply_eq_error {m : Message} (hm : m.IsReply) {e : WireError}
    (h : m.marshal = .error e) : ∃ t, m = .commandErr t ∧ Utf8.valid t = false := by
  have hbody : m.body = .error e := by
    unfold Message.marshal Message.envelope at h
    cases hb : m.body <;> simp_all [Except.map]
  obtain ⟨f, t, hp, hv, -⟩ := marshalRecord_eq_error hbody
  rcases hm with rfl | ⟨t', rfl⟩
  · simp [Message.type, MessageType.fields] at hp
  · simp [Message.type, MessageType.fields, Message.values] at hp
    exact ⟨t, by rw [hp.2], hv⟩

/-- An encoded command ends, whatever the display answers, with an encoded reply. -/
theorem executeEncoded_yields {payload : List UInt8} {prog : Exchange (Except WireError (List UInt8))}
    (hp : executeEncoded payload = .ok prog) {r : Except DeviceError (Except WireError (List UInt8))}
    (h : prog.Yields r) : ∃ reply : Message, r = .ok reply.marshal ∧ reply.IsReply := by
  unfold executeEncoded at hp
  split at hp
  · cases hp
  · rename_i env _
    cases hp
    rw [Exchange.map_eq_bind] at h
    rcases Exchange.Yields.of_bind h with ⟨reply, hreply, hr⟩ | ⟨e, he, -⟩
    · obtain ⟨reply', hrep, hr'⟩ := answerEnvelope_yields hreply
      cases hrep
      exact ⟨reply, Exchange.yields_done hr, hr'⟩
    · obtain ⟨_, h', -⟩ := answerEnvelope_yields he
      cases h'

/-! ## The display is touched -/

theorem execute_asks {m : Message} (h : (execute m).Asks) : ∃ op, m.operation = some op := by
  unfold execute at h
  split at h
  · exact absurd h id
  · exact ⟨_, by assumption⟩

/-- Only an envelope that carries a command, not a reply, whose message decodes to a display
command, touches the display. -/
theorem executeEncoded_asks {payload : List UInt8} {prog : Exchange (Except WireError (List UInt8))}
    (hp : executeEncoded payload = .ok prog) (h : prog.Asks) :
    ∃ env m op, Envelope.parse payload = .ok env ∧ env.isCommand = true ∧ env.isReply = false ∧
      env.decode = .ok m ∧ m.operation = some op := by
  unfold executeEncoded at hp
  split at hp
  · cases hp
  · rename_i env henv
    cases hp
    rw [Exchange.map_eq_bind] at h
    rcases Exchange.asks_bind h with h | ⟨a, ha, h⟩
    · unfold answerEnvelope at h
      split at h
      · exact absurd h id
      · rename_i hkind
        split at h
        · exact absurd h id
        · rename_i m hm
          obtain ⟨op, hop⟩ := execute_asks h
          simp only [Bool.not_eq_true', Bool.or_eq_true, not_or, Bool.not_eq_false] at hkind
          exact ⟨env, m, op, henv, by simpa using hkind.1, by simpa using hkind.2, hm, hop⟩
    · exact absurd h id


/-! ## The claim -/

/-- What running an encoded command does. -/
structure ExecutesEncoded : Prop where
  /-- It fails before anything runs exactly when the bytes are no envelope, with that error. -/
  unreadable : ∀ payload e, executeEncoded payload = .error e ↔ Envelope.parse payload = .error e
  /-- Otherwise it ends, whatever the display answers, with an encoded reply to a command, and the
  reply fails to encode only as a `CommandErr` whose text is not valid UTF-8. -/
  replies : ∀ payload prog r, executeEncoded payload = .ok prog → prog.Yields r →
    ∃ reply : Message, r = .ok reply.marshal ∧ reply.IsReply ∧
      ∀ e, reply.marshal = .error e → ∃ t, reply = .commandErr t ∧ Utf8.valid t = false
  /-- Only an envelope that carries a command, not a reply, whose message decodes to a display
  command, touches the display. -/
  touches : ∀ payload prog, executeEncoded payload = .ok prog → prog.Asks →
    ∃ env m op, Envelope.parse payload = .ok env ∧ env.isCommand = true ∧ env.isReply = false ∧
      env.decode = .ok m ∧ m.operation = some op
  /-- A message of any of the eight kinds, encoded, runs exactly as the message itself. -/
  agrees : ∀ m bytes, m.marshal = .ok bytes → bytes.length < 2 ^ 64 →
    executeEncoded bytes = .ok (Message.marshal <$> execute m)

theorem executeEncoded_spec : ExecutesEncoded where
  unreadable payload e := by
    unfold executeEncoded
    split <;> simp_all
  replies payload prog r hp h := by
    obtain ⟨reply, rfl, hreply⟩ := executeEncoded_yields hp h
    exact ⟨reply, rfl, hreply, fun e he => Message.marshal_reply_eq_error hreply he⟩
  touches payload prog hp h := executeEncoded_asks hp h
  agrees m bytes h hlen := executeEncoded_marshal h hlen

/-- The envelope of a clear command. -/
theorem encode_clear_envelope : Envelope.encode ⟨0x10000, []⟩ = [0x08, 0x80, 0x80, 0x04] := by
  have hkey : varint 8 = [8] := by rw [varint]; rfl
  have hid : varint 65536 = [0x80, 0x80, 0x04] := by
    rw [varint, if_neg (by decide), varint, if_neg (by decide), varint, if_pos (by decide)]
    rfl
  have hfield : encodeField ⟨1, "type_id", "TypeId", .uint32⟩ (.num 0x10000) =
      [0x08, 0x80, 0x80, 0x04] := by
    rw [encodeField, if_neg (by decide)]
    simp only [key, wireVarint, show (1 : Nat) * 8 + 0 = 8 from rfl, hkey]
    show [8] ++ varint 65536 = _
    rw [hid]
    rfl
  simp only [Envelope.encode, Envelope.values, encodeRecord, envelopeFields, List.zip_cons_cons,
    List.zip_nil_left, List.flatMap_cons, List.flatMap_nil, hfield]
  rfl

/-- A clear command whose write the display fails with words ending in the byte `0xFF`: the
envelope reads, yet the run ends in an error, since the `CommandErr` that carries those words does
not encode. -/
theorem clear_reply_unencodable :
    Envelope.parse [0x08, 0x80, 0x80, 0x04] = .ok ⟨0x10000, []⟩ ∧
      ∃ prog, executeEncoded [0x08, 0x80, 0x80, 0x04] = .ok prog ∧
        prog.Yields (.ok (.error (.invalidUtf8 ".Message"))) := by
  have hm : Message.clear.marshal = .ok (Envelope.encode ⟨0x10000, []⟩) := rfl
  rw [← encode_clear_envelope]
  have hlen : (Envelope.encode ⟨0x10000, []⟩).length < 2 ^ 64 := by
    rw [encode_clear_envelope]
    decide
  refine ⟨Envelope.parse_encode _ (by decide), _, executeEncoded_marshal hm hlen, ?_⟩
  let e : LinkError := .connection "write" "ttyTEST" (.other [0xff])
  have hbad : Message.marshal (.commandErr e.text) = .error (.invalidUtf8 ".Message") := by
    simp [e, Message.marshal, Message.envelope, Message.body, marshalRecord, badText, Message.type,
      MessageType.fields, Message.values, LinkError.text, Cause.text, Utf8.valid_append_ff,
      Except.map]
  rw [← hbad]
  exact .ask (.error e) (.done _)

end LcdPanel.Remote
