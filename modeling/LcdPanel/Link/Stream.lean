import LcdPanel.Frame.Codec

namespace LcdPanel.Frame

theorem Malformed.skip_pos (m : Malformed) : 0 < m.skip := by
  cases m <;> simp [Malformed.skip]

theorem Codec.decode_consumed (c : Codec) {buf : List UInt8} {p : Packet} {n : Nat}
    (h : c.decode buf = .packet p n) : 4 ≤ n := by
  unfold Codec.decode at h
  split at h
  · simp only at h
    split at h
    · cases h
    · split at h
      · cases h
      · split at h
        · cases h; omega
        · cases h
  · cases h

/-- The packets decoded from the front of a buffer, in order, and the bytes left: empty, or an
incomplete frame. -/
def Codec.drain (c : Codec) (buf : List UInt8) : List Packet × List UInt8 :=
  if _hb : buf = [] then ([], [])
  else
    match _h : c.decode buf with
    | .incomplete => ([], buf)
    | .malformed m => c.drain (buf.drop m.skip)
    | .packet p n =>
      let rest := c.drain (buf.drop n)
      (p :: rest.1, rest.2)
termination_by buf.length
decreasing_by
  · have := m.skip_pos
    have : buf.length ≠ 0 := by simpa using _hb
    simp only [List.length_drop]; omega
  · have := c.decode_consumed _h
    have : buf.length ≠ 0 := by simpa using _hb
    simp only [List.length_drop]; omega

end LcdPanel.Frame
