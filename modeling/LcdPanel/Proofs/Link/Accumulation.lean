import LcdPanel.Proofs.Link.Resync
import LcdPanel.Proofs.Frame.Verdict

/-!
Each pass of the receive loop drops at least one byte, and it stops at an incomplete frame, so the
buffer kept between two receive calls never holds more than `maxDataLen + 3` bytes.
-/

namespace LcdPanel.Frame

namespace Codec

variable (c : Codec)

/-- One pass of the receive loop over the buffer: `none` when the loop stops, on an empty buffer or
an incomplete frame; otherwise the packet the pass dispatches, if any, and the buffer it leaves. -/
def pass (buf : List UInt8) : Option (Option Packet × List UInt8) :=
  if buf = [] then none
  else
    match c.decode buf with
    | .incomplete => none
    | .malformed m => some (none, buf.drop m.skip)
    | .packet p n => some (some p, buf.drop n)

/-- `k` passes of the receive loop from `buf` dispatch `ps` and leave `rest`. -/
inductive Passes : List UInt8 → Nat → List Packet → List UInt8 → Prop
  | stop (buf : List UInt8) : Passes buf 0 [] buf
  | next {buf mid rest : List UInt8} {o : Option Packet} {k : Nat} {ps : List Packet} :
      c.pass buf = some (o, mid) → Passes mid k ps rest → Passes buf (k + 1) (o.toList ++ ps) rest

theorem pass_eq_none_iff (buf : List UInt8) :
    c.pass buf = none ↔ buf = [] ∨ c.decode buf = .incomplete := by
  unfold pass
  by_cases hb : buf = []
  · simp [hb]
  · rw [if_neg hb]
    split <;> simp_all

theorem pass_of_malformed {buf : List UInt8} {m : Malformed} (h : c.decode buf = .malformed m) :
    c.pass buf = some (none, buf.drop m.skip) := by
  have hb : buf ≠ [] := by rintro rfl; simp [decode] at h
  simp [pass, hb, h]

theorem pass_of_packet {buf : List UInt8} {p : Packet} {n : Nat} (h : c.decode buf = .packet p n) :
    c.pass buf = some (some p, buf.drop n) := by
  have hb : buf ≠ [] := by rintro rfl; simp [decode] at h
  simp [pass, hb, h]

/-- A pass that goes on drops at least one byte from the front, and never more than the buffer
holds. -/
theorem pass_drops {buf mid : List UInt8} {o : Option Packet} (h : c.pass buf = some (o, mid)) :
    ∃ k, 1 ≤ k ∧ k ≤ buf.length ∧ mid = buf.drop k := by
  cases hd : c.decode buf with
  | incomplete => simp [(c.pass_eq_none_iff buf).2 (.inr hd)] at h
  | malformed m =>
    rw [c.pass_of_malformed hd] at h
    cases h
    exact ⟨m.skip, m.skip_pos, c.skip_le_length hd, rfl⟩
  | packet p n =>
    rw [c.pass_of_packet hd] at h
    cases h
    exact ⟨n, by have := c.decode_consumed hd; omega, c.consumed_le_length hd, rfl⟩

/-- Each pass drops a byte at least, so a sequence of passes is no longer than the buffer it
started from, less what it leaves; what it leaves is a tail of that buffer. -/
theorem Passes.length_le {buf rest : List UInt8} {k : Nat} {ps : List Packet}
    (h : c.Passes buf k ps rest) : k + rest.length ≤ buf.length ∧ rest <:+ buf := by
  induction h with
  | stop => exact ⟨by simp, List.suffix_refl _⟩
  | @next b mid rest o k ps hpass _ ih =>
    obtain ⟨j, hj, hjle, rfl⟩ := c.pass_drops hpass
    have hlen : (b.drop j).length = b.length - j := List.length_drop
    exact ⟨by omega, ih.2.trans (List.drop_suffix _ _)⟩

/-- The receive loop stops: passes from any buffer dispatch the packets of `drain` and leave its
remainder, where no pass goes on. -/
theorem passes_drain (buf : List UInt8) :
    ∃ k, c.Passes buf k (c.drain buf).1 (c.drain buf).2 ∧ c.pass (c.drain buf).2 = none := by
  -- induction on the length of the buffer, which every pass shortens
  induction h : buf.length using Nat.strongRecOn generalizing buf with
  | _ n ih =>
    cases hd : c.decode buf with
    | incomplete =>
      rw [drain_of_incomplete c hd]
      exact ⟨0, .stop buf, (c.pass_eq_none_iff buf).2 (.inr hd)⟩
    | malformed m =>
      have hlt : (buf.drop m.skip).length < n := by
        have := m.skip_pos
        have := c.skip_le_length hd
        rw [List.length_drop]
        omega
      obtain ⟨k, hk, hstop⟩ := ih _ hlt _ rfl
      rw [drain_of_malformed c hd]
      exact ⟨k + 1, .next (c.pass_of_malformed hd) hk, hstop⟩
    | packet p j =>
      have hlt : (buf.drop j).length < n := by
        have := c.decode_consumed hd
        have := c.consumed_le_length hd
        rw [List.length_drop]
        omega
      obtain ⟨k, hk, hstop⟩ := ih _ hlt _ rfl
      rw [drain_of_packet c hd]
      exact ⟨k + 1, .next (c.pass_of_packet hd) hk, hstop⟩

/-- An incomplete frame is at most `maxDataLen + 3` bytes long: its declared length is no larger
than `maxDataLen`, and it lacks at least one of the four bytes around the data. -/
theorem length_of_incomplete {buf : List UInt8} (h : c.decode buf = .incomplete) :
    buf.length ≤ maxDataLen + 3 := by
  rw [c.decode_eq_positions] at h
  by_cases hshort : buf.length < 2
  · unfold maxDataLen
    omega
  · rw [if_neg hshort] at h
    by_cases hlong : lengthByte buf > maxDataLen
    · rw [if_pos hlong] at h
      cases h
    · rw [if_neg hlong] at h
      by_cases hwhole : buf.length < lengthByte buf + 4
      · omega
      · rw [if_neg hwhole] at h
        split at h <;> cases h

/-- What the receive loop guarantees over a buffer, for a codec: a refused frame drops at least
one byte and a packet takes at least four, neither more than the buffer holds; no sequence of
passes is longer than the buffer; the loop stops, after such a sequence, at what `drain` leaves;
and that is a tail of the buffer, empty or an incomplete frame, of at most `maxDataLen + 3`
bytes. -/
structure LoopBounded (buf : List UInt8) : Prop where
  skip_bounds : ∀ {b : List UInt8} {m : Malformed}, c.decode b = .malformed m →
    1 ≤ m.skip ∧ m.skip ≤ b.length
  consumed_bounds : ∀ {b : List UInt8} {p : Packet} {n : Nat}, c.decode b = .packet p n →
    4 ≤ n ∧ n ≤ b.length
  passes_le : ∀ {k : Nat} {ps : List Packet} {rest : List UInt8}, c.Passes buf k ps rest →
    k ≤ buf.length
  stops : ∃ k, c.Passes buf k (c.drain buf).1 (c.drain buf).2 ∧ c.pass (c.drain buf).2 = none
  rest_suffix : (c.drain buf).2 <:+ buf
  rest_incomplete : (c.drain buf).2 = [] ∨ c.decode (c.drain buf).2 = .incomplete
  rest_short : (c.drain buf).2.length ≤ maxDataLen + 3

theorem loopBounded (buf : List UInt8) : c.LoopBounded buf := by
  obtain ⟨k, hk, hstop⟩ := c.passes_drain buf
  have hrest := (c.pass_eq_none_iff _).1 hstop
  refine ⟨fun h => ⟨Malformed.skip_pos _, c.skip_le_length h⟩,
    fun h => ⟨c.decode_consumed h, c.consumed_le_length h⟩,
    fun h => by have := (Passes.length_le c h).1; omega, ⟨k, hk, hstop⟩,
    (Passes.length_le c hk).2, hrest, ?_⟩
  rcases hrest with hnil | hinc
  · rw [hnil]
    exact Nat.zero_le _
  · exact c.length_of_incomplete hinc

end Codec

end LcdPanel.Frame

namespace LcdPanel.Link

open LcdPanel.Frame

namespace Conn

/-- Every receive call, whatever the codec, the bytes left in the buffer by earlier calls and the
chunk: its loop over the buffer and the chunk makes no more passes than they have bytes, drops
at least one byte per pass and never slices past the end, and stops on an empty buffer or an
incomplete frame; the buffer it keeps is that remainder, so it never holds more than
`maxDataLen + 3` = 125 bytes, whatever bytes the device sends. -/
theorem receive_loop_bounded (conn : Conn) (chunk : List UInt8) :
    conn.codec.LoopBounded (conn.buffer ++ chunk) ∧
      (conn.receive chunk).1.buffer = (conn.codec.drain (conn.buffer ++ chunk)).2 ∧
      (conn.receive chunk).1.buffer.length ≤ maxDataLen + 3 := by
  have hloop := conn.codec.loopBounded (conn.buffer ++ chunk)
  have hbuf : (conn.receive chunk).1.buffer = (conn.codec.drain (conn.buffer ++ chunk)).2 := by
    rw [receive_eq]
  exact ⟨hloop, hbuf, hbuf ▸ hloop.rest_short⟩

end Conn

end LcdPanel.Link
