import LcdPanel.Link.Stream
import LcdPanel.Link.Error

/-!
Decoding reads the first frame of a buffer and nothing after it, and accepts exactly the buffers
that begin with a frame of its own codec.
-/

namespace LcdPanel.Frame

namespace Codec

variable (c : Codec)

/-- The check word reads back from its two bytes, low byte first. -/
theorem word_of_wordBytes (w : UInt16) :
    w.toUInt8.toUInt16 ||| ((w >>> 8).toUInt8.toUInt16 <<< 8) = w := by
  apply UInt16.toNat.inj
  have hw := w.toNat_lt
  have hhi : w.toNat >>> 8 < 2 ^ 8 := by rw [Nat.shiftRight_eq_div_pow]; omega
  have hword : (w.toNat >>> 8) <<< 8 < 2 ^ 16 := by rw [Nat.shiftLeft_eq]; omega
  have hsplit : (w.toNat >>> 8) <<< 8 + w.toNat % 2 ^ 8 = w.toNat := by
    rw [Nat.shiftLeft_eq, Nat.shiftRight_eq_div_pow]
    omega
  simp only [UInt16.toNat_or, UInt16.toNat_shiftLeft, UInt8.toNat_toUInt16, UInt16.toNat_toUInt8,
    UInt16.toNat_shiftRight, show UInt16.toNat 8 % 16 = 8 from rfl, Nat.mod_eq_of_lt hhi,
    Nat.mod_eq_of_lt hword]
  rw [Nat.or_comm, ← Nat.shiftLeft_add_eq_or_of_lt (Nat.mod_lt _ (by decide)), hsplit]

theorem decode_short {buf : List UInt8} (h : buf.length < 2) : c.decode buf = .incomplete := by
  match buf, h with
  | [], _ => rfl
  | [_], _ => rfl

/-- A verdict other than "incomplete" stands whatever bytes are appended. -/
theorem decode_append {buf : List UInt8} (h : c.decode buf ≠ .incomplete) (t : List UInt8) :
    c.decode (buf ++ t) = c.decode buf := by
  match buf with
  | [] | [_] => exact absurd rfl h
  | code :: len :: rest =>
    simp only [List.cons_append, decode] at h ⊢
    by_cases hl : len.toNat > maxDataLen
    · simp only [hl, if_true]
    · by_cases hr : rest.length < len.toNat + 2
      · simp [hl, hr] at h
      · have hr' : len.toNat + 1 < rest.length := by omega
        have hd : rest.drop len.toNat ≠ [] := by simp; omega
        have hd' : rest.drop (len.toNat + 1) ≠ [] := by simp; omega
        obtain ⟨lo, los, hlo⟩ := List.exists_cons_of_ne_nil hd
        obtain ⟨hi, his, hhi⟩ := List.exists_cons_of_ne_nil hd'
        simp only [hl, hr, if_false, List.length_append,
          show ¬ rest.length + t.length < len.toNat + 2 by omega,
          List.take_append_of_le_length (show len.toNat ≤ rest.length by omega),
          List.drop_append_of_le_length (show len.toNat ≤ rest.length by omega),
          List.drop_append_of_le_length (show len.toNat + 1 ≤ rest.length by omega),
          hlo, hhi, List.cons_append, List.headD_cons]

/-- A refused frame asks to drop no more bytes than the buffer holds. -/
theorem skip_le_length {buf : List UInt8} {m : Malformed} (h : c.decode buf = .malformed m) :
    m.skip ≤ buf.length := by
  match buf with
  | [] | [_] => simp [decode] at h
  | code :: len :: rest =>
    simp only [decode] at h
    split at h
    · cases h; simp [Malformed.skip]
    · split at h
      · cases h
      · split at h
        · cases h
        · cases h; simp only [Malformed.skip, List.length_cons]; omega

/-- A decoded packet takes no more bytes than the buffer holds. -/
theorem consumed_le_length {buf : List UInt8} {p : Packet} {n : Nat}
    (h : c.decode buf = .packet p n) : n ≤ buf.length := by
  match buf with
  | [] | [_] => simp [decode] at h
  | code :: len :: rest =>
    simp only [decode] at h
    split at h
    · cases h
    · split at h
      · cases h
      · split at h
        · cases h; simp only [List.length_cons]; omega
        · cases h

theorem length_toUInt8_toNat {data : List UInt8} (h : data.length ≤ maxDataLen) :
    data.length.toUInt8.toNat = data.length := by
  simp only [Nat.toUInt8_eq]
  exact Nat.mod_eq_of_lt (by unfold maxDataLen at h; omega)

/-- A whole frame whose data fits is judged by its check word alone: a packet when the word is
the codec's, a mismatch otherwise. -/
theorem decode_frame {data : List UInt8} (h : data.length ≤ maxDataLen) (code : UInt8)
    (w : UInt16) (t : List UInt8) :
    c.decode (code :: data.length.toUInt8 :: (data ++ wordBytes w ++ t)) =
      if c.checksum (code :: data.length.toUInt8 :: data) = w then
        .packet ⟨code, data⟩ (data.length + 4)
      else .malformed (.mismatch code data.length (c.checksum (code :: data.length.toUInt8 :: data)) w) := by
  have hlo : (data ++ w.toUInt8 :: (w >>> 8).toUInt8 :: t).drop data.length =
      w.toUInt8 :: (w >>> 8).toUInt8 :: t := List.drop_left' rfl
  have hhi : (data ++ w.toUInt8 :: (w >>> 8).toUInt8 :: t).drop (data.length + 1) =
      (w >>> 8).toUInt8 :: t := by simp [List.drop_append]
  simp only [decode, wordBytes, List.append_assoc, List.cons_append, List.nil_append,
    length_toUInt8_toNat h, show ¬ data.length > maxDataLen by omega, if_false,
    List.length_append, List.length_cons, List.take_left',
    show ¬ data.length + (t.length + 1 + 1) < data.length + 2 by omega, hlo, hhi,
    List.headD_cons, word_of_wordBytes]

/-- The frame of a packet whose data fits reads back as that packet, taking exactly the frame's
bytes, whatever follows it. -/
theorem decode_encode_append {p : Packet} (h : p.data.length ≤ maxDataLen) (t : List UInt8) :
    c.decode (c.encode p ++ t) = .packet p (p.data.length + 4) := by
  have hframe := c.decode_frame h p.code (c.checksum (p.code :: p.data.length.toUInt8 :: p.data)) t
  simp only [if_true] at hframe
  simpa [encode] using hframe

@[simp] theorem length_encode (p : Packet) : (c.encode p).length = p.data.length + 4 := by
  simp [encode, wordBytes]

/-- Two bytes read as a check word, low byte first, are the bytes that word is written as. -/
theorem wordBytes_of_bytes (lo hi : UInt8) :
    wordBytes (lo.toUInt16 ||| (hi.toUInt16 <<< 8)) = [lo, hi] := by
  have hlo := lo.toNat_lt
  have hhi := hi.toNat_lt
  have hword : (lo.toUInt16 ||| (hi.toUInt16 <<< 8)).toNat = lo.toNat + hi.toNat * 2 ^ 8 := by
    have hshift : hi.toNat <<< 8 < 2 ^ 16 := by rw [Nat.shiftLeft_eq]; omega
    simp only [UInt16.toNat_or, UInt16.toNat_shiftLeft, UInt8.toNat_toUInt16,
      show UInt16.toNat 8 % 16 = 8 from rfl, Nat.mod_eq_of_lt hshift]
    rw [Nat.or_comm, ← Nat.shiftLeft_add_eq_or_of_lt hlo, Nat.shiftLeft_eq]
    omega
  simp only [wordBytes, List.cons.injEq, and_true]
  constructor
  · apply UInt8.toNat.inj
    simp only [UInt16.toNat_toUInt8, hword]
    omega
  · apply UInt8.toNat.inj
    simp only [UInt16.toNat_toUInt8, UInt16.toNat_shiftRight, hword,
      show UInt16.toNat 8 % 16 = 8 from rfl, Nat.shiftRight_eq_div_pow]
    omega

/-- A packet reads back only from a buffer that starts with its frame: its data fits, and the
bytes taken are exactly the frame. -/
theorem eq_encode_of_decode {buf : List UInt8} {q : Packet} {n : Nat}
    (h : c.decode buf = .packet q n) :
    q.data.length ≤ maxDataLen ∧ n = q.data.length + 4 ∧ ∃ t, buf = c.encode q ++ t := by
  match buf with
  | [] | [_] => simp [decode] at h
  | code :: len :: rest =>
    simp only [decode] at h
    split at h
    · cases h
    · rename_i hl
      split at h
      · cases h
      · rename_i hr
        split at h
        · rename_i hsum
          cases h
          have hdata : (rest.take len.toNat).length = len.toNat := by simp; omega
          -- the two bytes after the data are the check word read
          obtain ⟨lo, hi, t, hrest⟩ : ∃ lo hi t, rest.drop len.toNat = lo :: hi :: t := by
            match hd : rest.drop len.toNat with
            | lo :: hi :: t => exact ⟨lo, hi, t, rfl⟩
            | [] | [_] =>
              have := congrArg List.length hd
              simp at this; omega
          have hrest' : rest.drop (len.toNat + 1) = hi :: t := by
            rw [← List.drop_drop, hrest]; rfl
          have hlen : (rest.take len.toNat).length.toUInt8 = len := by
            rw [hdata]; exact UInt8.ofNat_toNat
          have hword : c.checksum (code :: len :: rest.take len.toNat) =
              lo.toUInt16 ||| (hi.toUInt16 <<< 8) := by
            simpa only [hrest, hrest', List.headD_cons] using hsum
          dsimp only
          refine ⟨by omega, by rw [hdata], t, ?_⟩
          simp only [encode, hlen, hword, wordBytes_of_bytes, List.cons_append, List.append_assoc,
            List.nil_append]
          rw [← hrest, List.take_append_drop]
        · cases h

/-- Decoding accepts exactly the buffers that begin with a frame of the codec: a buffer reads as a
packet taking `n` bytes iff its data fits, `n` is the frame's length, and the buffer starts with
the packet's frame. -/
theorem decode_eq_packet_iff {buf : List UInt8} {q : Packet} {n : Nat} :
    c.decode buf = .packet q n ↔
      q.data.length ≤ maxDataLen ∧ n = q.data.length + 4 ∧ ∃ t, buf = c.encode q ++ t := by
  constructor
  · exact c.eq_encode_of_decode
  · rintro ⟨hl, rfl, t, rfl⟩
    exact c.decode_encode_append hl t

end Codec

/-- The frame `writeTo` writes for a packet whose data fits reads back as the packet with the
device's codec; longer data is refused before anything is written. -/
theorem Packet.decode_writeTo (p : Packet) :
    p.writeTo.map Codec.standard.decode =
      if p.data.length ≤ maxDataLen then .ok (.packet p (p.data.length + 4))
      else .error (.dataTooLong "packet" p.code) := by
  unfold Packet.writeTo
  split
  · rename_i h
    simpa [Except.map] using Codec.standard.decode_encode_append h []
  · rfl

/-- Decoding with any check word reads exactly the buffers that begin with a frame of its own
codec, and the frame `writeTo` writes decodes back to its packet. -/
theorem Codec.reads_exactly_its_frames (c : Codec) (buf : List UInt8) (q : Packet) (n : Nat)
    (p : Packet) :
    (c.decode buf = .packet q n ↔
      q.data.length ≤ maxDataLen ∧ n = q.data.length + 4 ∧ buf.take n = c.encode q) ∧
    p.writeTo.map Codec.standard.decode =
      if p.data.length ≤ maxDataLen then .ok (.packet p (p.data.length + 4))
      else .error (.dataTooLong "packet" p.code) := by
  refine ⟨⟨fun h => ?_, fun ⟨hl, hn, ht⟩ => ?_⟩, Packet.decode_writeTo p⟩
  · obtain ⟨hl, hn, t, rfl⟩ := c.eq_encode_of_decode h
    exact ⟨hl, hn, List.take_left' (by simp [hn])⟩
  · have hbuf : buf = c.encode q ++ buf.drop n := by rw [← ht, List.take_append_drop]
    exact c.decode_eq_packet_iff.2 ⟨hl, hn, _, hbuf⟩

end LcdPanel.Frame
