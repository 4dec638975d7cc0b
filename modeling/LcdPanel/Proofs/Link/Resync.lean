import LcdPanel.Link.Conn
import LcdPanel.Proofs.Frame.Decode

/-!
`Codec.drain` is the reference parse of a byte string; the receive path, fed a stream in any
chunks, dispatches exactly its packets and keeps its remainder.
-/

namespace LcdPanel.Frame

namespace Codec

variable (c : Codec)

@[simp] theorem drain_nil : c.drain [] = ([], []) := by
  rw [drain]; rfl

theorem drain_of_incomplete {buf : List UInt8} (h : c.decode buf = .incomplete) :
    c.drain buf = ([], buf) := by
  rw [drain]
  split
  · next hb => simp [hb]
  · split
    · rfl
    · next m hm => rw [h] at hm; cases hm
    · next p n hp => rw [h] at hp; cases hp

theorem drain_of_malformed {buf : List UInt8} {m : Malformed} (h : c.decode buf = .malformed m) :
    c.drain buf = c.drain (buf.drop m.skip) := by
  have hb : buf ≠ [] := by rintro rfl; simp [decode] at h
  rw [drain, dif_neg hb]
  split
  · next hi => rw [h] at hi; cases hi
  · next m' hm => rw [h] at hm; cases hm; rfl
  · next p n hp => rw [h] at hp; cases hp

theorem drain_of_packet {buf : List UInt8} {p : Packet} {n : Nat} (h : c.decode buf = .packet p n) :
    c.drain buf = (p :: (c.drain (buf.drop n)).1, (c.drain (buf.drop n)).2) := by
  have hb : buf ≠ [] := by rintro rfl; simp [decode] at h
  rw [drain, dif_neg hb]
  split
  · next hi => rw [h] at hi; cases hi
  · next m hm => rw [h] at hm; cases hm
  · next p' n' hp => rw [h] at hp; cases hp; rfl

/-- Parsing in two pieces: the packets of the first piece, then those of its remainder followed
by the second piece. -/
theorem drain_append (buf t : List UInt8) :
    c.drain (buf ++ t) =
      ((c.drain buf).1 ++ (c.drain ((c.drain buf).2 ++ t)).1, (c.drain ((c.drain buf).2 ++ t)).2) := by
  induction h : buf.length using Nat.strongRecOn generalizing buf with
  | _ n ih =>
    cases hd : c.decode buf with
    | incomplete => simp [drain_of_incomplete c hd]
    | malformed m =>
      have hle := c.skip_le_length hd
      have hlt : (buf.drop m.skip).length < n := by
        have := m.skip_pos
        simp only [List.length_drop]
        omega
      rw [drain_of_malformed c (by rw [c.decode_append (by simp [hd]), hd]),
        List.drop_append_of_le_length hle, drain_of_malformed c hd, ih _ hlt _ rfl]
    | packet p k =>
      have hle := c.consumed_le_length hd
      have hlt : (buf.drop k).length < n := by
        have := c.decode_consumed hd
        simp only [List.length_drop]
        omega
      rw [drain_of_packet c (by rw [c.decode_append (by simp [hd]), hd]),
        List.drop_append_of_le_length hle, drain_of_packet c hd, ih _ hlt _ rfl]
      simp

/-- What parsing leaves is settled: parsing it again takes nothing and keeps it. -/
theorem drain_drain (buf : List UInt8) : c.drain (c.drain buf).2 = ([], (c.drain buf).2) := by
  induction h : buf.length using Nat.strongRecOn generalizing buf with
  | _ n ih =>
    cases hd : c.decode buf with
    | incomplete => rw [drain_of_incomplete c hd, drain_of_incomplete c hd]
    | malformed m =>
      have hlt : (buf.drop m.skip).length < n := by
        have := m.skip_pos
        have := c.skip_le_length hd
        simp only [List.length_drop]
        omega
      rw [drain_of_malformed c hd]
      exact ih _ hlt _ rfl
    | packet p k =>
      have hlt : (buf.drop k).length < n := by
        have := c.decode_consumed hd
        have := c.consumed_le_length hd
        simp only [List.length_drop]
        omega
      rw [drain_of_packet c hd]
      exact ih _ hlt _ rfl

/-- A run of frames of packets whose data fits parses back as those packets, in order, followed
by what parsing the rest gives. -/
theorem drain_encoded (ps : List Packet) (h : ∀ p ∈ ps, p.data.length ≤ maxDataLen)
    (t : List UInt8) :
    c.drain (ps.flatMap c.encode ++ t) = (ps ++ (c.drain t).1, (c.drain t).2) := by
  induction ps with
  | nil => rfl
  | cons p ps ih =>
    have hp := h p (List.mem_cons_self ..)
    have hlen : (c.encode p).length = p.data.length + 4 := by simp [encode, wordBytes]
    rw [List.flatMap_cons, List.append_assoc, drain_of_packet c (c.decode_encode_append hp _),
      ← hlen, List.drop_left' rfl, ih (fun q hq => h q (List.mem_cons_of_mem _ hq))]
    rfl

end Codec

end LcdPanel.Frame

namespace LcdPanel.Link

open LcdPanel.Frame

namespace Conn

def receiveAll (c : Conn) : List (List UInt8) → Conn × List Delivery
  | [] => (c, [])
  | chunk :: rest =>
    let (c, ds) := c.receive chunk
    let (c, ds') := c.receiveAll rest
    (c, ds ++ ds')

theorem claim_of_accepts {c : Conn} {accepts : Pending → Bool} {p : Pending}
    (h : c.pending = some p) (ha : accepts p = true) :
    c.claim accepts = ({ c with pending := none }, some p) := by
  simp [claim, h, ha]

theorem claim_of_rejects {c : Conn} {accepts : Pending → Bool}
    (h : ∀ p, c.pending = some p → accepts p = false) : c.claim accepts = (c, none) := by
  unfold claim
  split
  · next p hp => simp [h p hp]
  · rfl

/-- Dispatching a packet neither reads nor changes the buffer. -/
theorem dispatch_buffer (c : Conn) (b : List UInt8) (p : Packet) :
    ({ c with buffer := b }).dispatch p = ({ (c.dispatch p).1 with buffer := b }, (c.dispatch p).2) := by
  cases hr : replyOf p with
  | none => simp only [dispatch, hr]; rfl
  | some ar =>
    obtain ⟨accepts, r⟩ := ar
    simp only [dispatch, hr, resolve]
    by_cases hp : ∃ q, c.pending = some q ∧ accepts q = true
    · obtain ⟨q, hq, ha⟩ := hp
      rw [claim_of_accepts hq ha, claim_of_accepts (c := { c with buffer := b }) hq ha]
    · have hn : ∀ q, c.pending = some q → accepts q = false := by
        intro q hq
        simpa using fun ha => hp ⟨q, hq, ha⟩
      rw [claim_of_rejects hn, claim_of_rejects (c := { c with buffer := b }) hn]

theorem dispatchAll_buffer (c : Conn) (b : List UInt8) (ps : List Packet) :
    ({ c with buffer := b }).dispatchAll ps =
      ({ (c.dispatchAll ps).1 with buffer := b }, (c.dispatchAll ps).2) := by
  induction ps generalizing c with
  | nil => rfl
  | cons p ps ih =>
    simp only [dispatchAll, dispatch_buffer]
    rw [ih]

/-- Dispatching a packet keeps the codec. -/
theorem dispatch_codec (c : Conn) (p : Packet) : (c.dispatch p).1.codec = c.codec := by
  cases hr : replyOf p with
  | none => simp only [dispatch, hr]
  | some ar =>
    obtain ⟨accepts, r⟩ := ar
    simp only [dispatch, hr, resolve]
    by_cases hp : ∃ q, c.pending = some q ∧ accepts q = true
    · obtain ⟨q, hq, ha⟩ := hp
      rw [claim_of_accepts hq ha]
    · have hn : ∀ q, c.pending = some q → accepts q = false := by
        intro q hq
        simpa using fun ha => hp ⟨q, hq, ha⟩
      rw [claim_of_rejects hn]

theorem dispatchAll_codec (c : Conn) (ps : List Packet) : (c.dispatchAll ps).1.codec = c.codec := by
  induction ps generalizing c with
  | nil => rfl
  | cons p ps ih =>
    simp only [dispatchAll]
    rw [ih, dispatch_codec]

/-- Dispatching two runs of packets in turn. -/
theorem dispatchAll_append (c : Conn) (ps qs : List Packet) :
    c.dispatchAll (ps ++ qs) =
      (((c.dispatchAll ps).1.dispatchAll qs).1,
        (c.dispatchAll ps).2 ++ ((c.dispatchAll ps).1.dispatchAll qs).2) := by
  induction ps generalizing c with
  | nil => rfl
  | cons p ps ih => simp [dispatchAll, ih]

/-- One receive call dispatches the packets of the buffer and the chunk, and keeps the parse's
remainder as the buffer. -/
theorem receive_eq (c : Conn) (chunk : List UInt8) :
    c.receive chunk =
      ({ (c.dispatchAll (c.codec.drain (c.buffer ++ chunk)).1).1 with
          buffer := (c.codec.drain (c.buffer ++ chunk)).2 },
        (c.dispatchAll (c.codec.drain (c.buffer ++ chunk)).1).2) :=
  dispatchAll_buffer c _ _

/-- From a settled buffer, successive receive calls dispatch exactly the packets of the parse of
the buffer and all the chunks, in order, and end with its remainder as the buffer. -/
theorem receiveAll_settled (c : Conn) (chunks : List (List UInt8))
    (h : c.codec.drain c.buffer = ([], c.buffer)) :
    c.receiveAll chunks =
      ({ c with buffer := (c.codec.drain (c.buffer ++ chunks.flatten)).2 }).dispatchAll
        (c.codec.drain (c.buffer ++ chunks.flatten)).1 := by
  induction chunks generalizing c with
  | nil => simp only [receiveAll, List.flatten_nil, List.append_nil, h]; rfl
  | cons chunk rest ih =>
    rcases hf : c.codec.drain (c.buffer ++ chunk) with ⟨ps, r⟩
    rcases hd : c.dispatchAll ps with ⟨c', ds⟩
    rcases hg : c.codec.drain (r ++ rest.flatten) with ⟨ps', r'⟩
    have hcodec : c'.codec = c.codec := by rw [← dispatchAll_codec c ps, hd]
    have hset : c'.codec.drain r = ([], r) := by
      have := c.codec.drain_drain (c.buffer ++ chunk)
      rwa [hf, ← hcodec] at this
    have hrest : ({ c' with buffer := r }).receiveAll rest =
        ({ (c'.dispatchAll ps').1 with buffer := r' }, (c'.dispatchAll ps').2) := by
      rw [ih { c' with buffer := r } hset]
      show ({ c' with buffer := (c'.codec.drain (r ++ rest.flatten)).2 }).dispatchAll
        (c'.codec.drain (r ++ rest.flatten)).1 = _
      rw [show c'.codec.drain (r ++ rest.flatten) = (ps', r') by rw [hcodec, hg]]
      exact dispatchAll_buffer c' r' ps'
    have hall : c.codec.drain (c.buffer ++ (chunk :: rest).flatten) = (ps ++ ps', r') := by
      rw [List.flatten_cons, ← List.append_assoc, Codec.drain_append, hf, hg]
    simp only [receiveAll, receive_eq, hf, hd, hrest, hall]
    rw [dispatchAll_buffer c, dispatchAll_append, hd]

theorem dispatchAll_with_buffer (c : Conn) (b : List UInt8) (ps : List Packet) :
    (({ c with buffer := b }).dispatchAll ps).1.buffer = b := by
  rw [dispatchAll_buffer]

/-- After the port opened, successive receive calls over any chunking of a stream dispatch exactly
the packets of its parse, in order, and leave the parse's remainder as the buffer, whatever bytes
were buffered before the port opened. A stream of frames of packets whose data fits dispatches
exactly those packets, in order, and leaves the buffer empty, however it is chunked. -/
theorem receiveAll_opened_dispatches_parse (c : Conn) (chunks : List (List UInt8)) :
    c.opened.receiveAll chunks =
        ({ c with buffer := (c.codec.drain chunks.flatten).2 }).dispatchAll
          (c.codec.drain chunks.flatten).1 ∧
      (c.opened.receiveAll chunks).1.buffer = (c.codec.drain chunks.flatten).2 ∧
      ∀ ps : List Packet, (∀ p ∈ ps, p.data.length ≤ maxDataLen) →
        chunks.flatten = ps.flatMap c.codec.encode →
          c.opened.receiveAll chunks = ({ c with buffer := [] }).dispatchAll ps ∧
            (c.opened.receiveAll chunks).1.buffer = [] := by
  have hrun : c.opened.receiveAll chunks =
      ({ c with buffer := (c.codec.drain chunks.flatten).2 }).dispatchAll
        (c.codec.drain chunks.flatten).1 :=
    receiveAll_settled c.opened chunks (Codec.drain_nil _)
  refine ⟨hrun, by rw [hrun, dispatchAll_with_buffer], ?_⟩
  intro ps hps hflat
  have hparse : c.codec.drain chunks.flatten = (ps, []) := by
    simpa [hflat] using c.codec.drain_encoded ps hps []
  rw [hrun, hparse]
  exact ⟨rfl, dispatchAll_with_buffer c [] ps⟩

/-- A one-byte-per-call delivery of a ping response and a report: both are dispatched in order and
the buffer ends empty. -/
theorem receiveAll_opened_bytewise :
    let ps : List Packet := [⟨0x40, [7]⟩, ⟨0x80, [1]⟩]
    let chunks := (ps.flatMap Codec.standard.encode).map ([·])
    ({} : Conn).opened.receiveAll chunks = ({ ({} : Conn) with buffer := [] }).dispatchAll ps ∧
      (({} : Conn).opened.receiveAll chunks).1.buffer = [] :=
  (receiveAll_opened_dispatches_parse {} _).2.2 _ (by decide) (by simp [← List.flatMap_def])

end Conn

end LcdPanel.Link
