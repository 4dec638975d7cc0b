import LcdPanel.Proofs.Frame.Decode
import LcdPanel.Link.Stream
import Mathlib.Tactic.SplitIfs

/-!
The verdicts of a decode, read off the positions of the buffer's bytes, with `l` the length
byte: incomplete, refused for its length or its check word, or a packet.
-/

namespace LcdPanel.Frame

namespace Codec

def lengthByte (buf : List UInt8) : Nat := (buf.getD 1 0).toNat

def wordAt (buf : List UInt8) (i : Nat) : UInt16 :=
  (buf.getD i 0).toUInt16 ||| ((buf.getD (i + 1) 0).toUInt16 <<< 8)

@[simp] theorem lengthByte_cons_cons (code len : UInt8) (rest : List UInt8) :
    lengthByte (code :: len :: rest) = len.toNat := rfl

@[simp] theorem wordAt_cons_cons (code len : UInt8) (rest : List UInt8) (i : Nat) :
    wordAt (code :: len :: rest) (i + 2) = wordAt rest i := rfl

/-- What decoding a buffer gives, by the positions of its bytes: incomplete, refused for its
length, refused for its check word, or a packet, and nothing else; a refusal names the length
byte, asks to drop one byte for a bad length and the whole frame for a bad word, and never more
than the buffer holds; only the first `l + 4` bytes are looked at, so a verdict other than
"incomplete" stands whatever bytes follow. -/
structure DecodesByPosition (c : Codec) (buf : List UInt8) : Prop where
  cases : c.decode buf = .incomplete ∨
    c.decode buf = .malformed (.tooLong (buf.getD 0 0) (lengthByte buf)) ∨
    c.decode buf = .malformed (.mismatch (buf.getD 0 0) (lengthByte buf)
      (c.checksum (buf.take (lengthByte buf + 2))) (wordAt buf (lengthByte buf + 2))) ∨
    c.decode buf = .packet ⟨buf.getD 0 0, (buf.drop 2).take (lengthByte buf)⟩ (lengthByte buf + 4)
  incomplete_iff : c.decode buf = .incomplete ↔
    buf.length < 2 ∨ lengthByte buf ≤ maxDataLen ∧ buf.length < lengthByte buf + 4
  tooLong_iff : c.decode buf = .malformed (.tooLong (buf.getD 0 0) (lengthByte buf)) ↔
    2 ≤ buf.length ∧ maxDataLen < lengthByte buf
  mismatch_iff : c.decode buf = .malformed (.mismatch (buf.getD 0 0) (lengthByte buf)
      (c.checksum (buf.take (lengthByte buf + 2))) (wordAt buf (lengthByte buf + 2))) ↔
    2 ≤ buf.length ∧ lengthByte buf ≤ maxDataLen ∧ lengthByte buf + 4 ≤ buf.length ∧
      c.checksum (buf.take (lengthByte buf + 2)) ≠ wordAt buf (lengthByte buf + 2)
  packet_iff :
    c.decode buf = .packet ⟨buf.getD 0 0, (buf.drop 2).take (lengthByte buf)⟩ (lengthByte buf + 4) ↔
    2 ≤ buf.length ∧ lengthByte buf ≤ maxDataLen ∧ lengthByte buf + 4 ≤ buf.length ∧
      c.checksum (buf.take (lengthByte buf + 2)) = wordAt buf (lengthByte buf + 2)
  refusal : ∀ m, c.decode buf = .malformed m → m.length = lengthByte buf ∧
    m.skip = if maxDataLen < lengthByte buf then 1 else lengthByte buf + 4
  skip_bounds : ∀ m, c.decode buf = .malformed m → 1 ≤ m.skip ∧ m.skip ≤ buf.length
  reads_frame : c.decode (buf.take (lengthByte buf + 4)) = c.decode buf
  append_stable : c.decode buf ≠ .incomplete → ∀ t, c.decode (buf ++ t) = c.decode buf

variable (c : Codec)

/-- Decoding a buffer that holds a code and a length byte: a length beyond `maxDataLen` is refused,
a frame not yet whole is incomplete, and a whole frame is a packet or a mismatch as its check word
reads. -/
theorem decode_cons_cons (code len : UInt8) (rest : List UInt8) :
    c.decode (code :: len :: rest) =
      if len.toNat > maxDataLen then .malformed (.tooLong code len.toNat)
      else if rest.length < len.toNat + 2 then .incomplete
      else if c.checksum (code :: len :: rest.take len.toNat) = wordAt rest len.toNat then
        .packet ⟨code, rest.take len.toNat⟩ (len.toNat + 4)
      else .malformed (.mismatch code len.toNat (c.checksum (code :: len :: rest.take len.toNat))
        (wordAt rest len.toNat)) := by
  simp [decode, wordAt, List.getD_eq_getElem?_getD]

/-- Decoding by positions, for every buffer: fewer than two bytes are incomplete, a length beyond
`maxDataLen` is refused before the frame is whole, a frame not yet whole is incomplete, and a
whole frame is a packet or a mismatch as its check word reads. -/
theorem decode_eq_positions (buf : List UInt8) :
    c.decode buf =
      if buf.length < 2 then .incomplete
      else if lengthByte buf > maxDataLen then .malformed (.tooLong (buf.getD 0 0) (lengthByte buf))
      else if buf.length < lengthByte buf + 4 then .incomplete
      else if c.checksum (buf.take (lengthByte buf + 2)) = wordAt buf (lengthByte buf + 2) then
        .packet ⟨buf.getD 0 0, (buf.drop 2).take (lengthByte buf)⟩ (lengthByte buf + 4)
      else .malformed (.mismatch (buf.getD 0 0) (lengthByte buf)
        (c.checksum (buf.take (lengthByte buf + 2))) (wordAt buf (lengthByte buf + 2))) := by
  match buf with
  | [] | [_] => rfl
  | code :: len :: rest =>
    have hlen : rest.length + 1 + 1 < len.toNat + 4 ↔ rest.length < len.toNat + 2 := by omega
    have htake : (code :: len :: rest).take (len.toNat + 2) = code :: len :: rest.take len.toNat :=
      rfl
    simp only [c.decode_cons_cons, List.length_cons, show ¬ rest.length + 1 + 1 < 2 by omega,
      if_false, lengthByte_cons_cons, hlen, wordAt_cons_cons, List.getD_cons_zero, htake,
      List.drop_succ_cons, List.drop_zero]

/-- Only the first `l + 4` bytes of a buffer are looked at, `l` its length byte. -/
theorem decode_take_lengthByte (buf : List UInt8) :
    c.decode (buf.take (lengthByte buf + 4)) = c.decode buf := by
  match buf with
  | [] | [_] => rfl
  | code :: len :: rest =>
    have hdata : (rest.take (len.toNat + 2)).take len.toNat = rest.take len.toNat := by
      simp [List.take_take]
    have hword : wordAt (rest.take (len.toNat + 2)) len.toNat = wordAt rest len.toNat := by
      simp [wordAt, List.getD_eq_getElem?_getD]
    have hshort : (rest.take (len.toNat + 2)).length < len.toNat + 2 ↔
        rest.length < len.toNat + 2 := by
      simp only [List.length_take]
      omega
    rw [lengthByte_cons_cons, show (code :: len :: rest).take (len.toNat + 4) =
      code :: len :: rest.take (len.toNat + 2) from rfl, c.decode_cons_cons, c.decode_cons_cons,
      hdata, hword]
    simp only [hshort]

/-- Every buffer decodes by the positions of its bytes: the four verdicts, the conditions that
give each, the bytes a refusal drops, and the bytes that are looked at. -/
theorem decode_by_position (buf : List UInt8) : c.DecodesByPosition buf where
  -- each verdict is read off the if-chain of `decode_eq_positions`
  cases := by
    rw [c.decode_eq_positions]
    split_ifs <;> simp
  incomplete_iff := by
    rw [c.decode_eq_positions]
    split_ifs <;> grind
  tooLong_iff := by
    rw [c.decode_eq_positions]
    split_ifs <;> grind
  mismatch_iff := by
    rw [c.decode_eq_positions]
    split_ifs <;> grind
  packet_iff := by
    rw [c.decode_eq_positions]
    split_ifs <;> grind
  refusal m h := by
    rw [c.decode_eq_positions] at h
    split_ifs at h <;> cases h <;> simp_all [Malformed.skip, Malformed.length]
  skip_bounds m h := ⟨m.skip_pos, c.skip_le_length h⟩
  reads_frame := c.decode_take_lengthByte buf
  append_stable h t := c.decode_append h t

end Codec

end LcdPanel.Frame
