import LcdPanel.Proofs.Display.Runs
import LcdPanel.Proofs.Text.Encoding

/-!
Text on the screen: the screen bytes of a text for a width, and what writing text at a position
or setting the two lines sends.
-/

namespace LcdPanel.Utf8

theorem encodeRune_ne_nil (r : Nat) : encodeRune r ≠ [] := by
  intro h
  simp only [encodeRune] at h
  split_ifs at h

theorem runes_encodeRune_append {r : Nat} (hr : r.isValidChar) (more : List UInt8) :
    runes (encodeRune r ++ more) = r :: runes more := by
  obtain ⟨b, t, he⟩ := List.exists_cons_of_ne_nil (encodeRune_ne_nil r)
  rw [he, List.cons_append, runes_cons, front_encodeRune hr he more, List.drop_left]

/-- The characters read from the bytes of a string are the string's characters. -/
theorem runes_ofString (s : String) : runes (ofString s) = s.toList.map Char.toNat := by
  rw [ofString_eq]
  induction s.toList with
  | nil => simp [runes]
  | cons c cs ih =>
    have hv : c.toNat.isValidChar := c.valid
    have hc : String.utf8EncodeChar c = encodeRune c.toNat := by
      rw [← utf8EncodeChar_ofNat hv, Char.ofNat_toNat]
    rw [List.flatMap_cons, hc, runes_encodeRune_append hv, ih, List.map_cons]

theorem runes_eq_nil_iff {bs : List UInt8} : runes bs = [] ↔ bs = [] := by
  cases bs with
  | nil => simp [runes]
  | cons b rest => simp [runes_cons]

end LcdPanel.Utf8

namespace LcdPanel.Display

open LcdPanel.Frame LcdPanel.Link Utf8 Exchange

/-! ## Screen bytes -/

theorem screenByte_toNat (r : Nat) : (screenByte r).toNat = if r ≤ 0xFF then r else 0x3F := by
  unfold screenByte
  by_cases h : r ≤ 0xFF
  · rw [if_neg (by omega), if_pos h]
    exact toNat_toUInt8_of_lt (by omega)
  · rw [if_pos (by omega), if_neg h]
    rfl

/-- The screen bytes of a text, as numbers, are its first `width` characters with every one beyond
Latin-1 shown as `?`. -/
theorem textBytes_toNat (s : List UInt8) (width : Nat) :
    (textBytes s width).map UInt8.toNat =
      ((runes s).take width).map fun r => if r ≤ 0xFF then r else 0x3F := by
  simp only [textBytes, List.map_map]
  exact List.map_congr_left fun r _ => screenByte_toNat r

theorem length_textBytes (s : List UInt8) (width : Nat) :
    (textBytes s width).length = min width (runes s).length := by
  simp [textBytes]

theorem textBytes_eq_nil_iff {s : List UInt8} {width : Nat} (hw : 0 < width) :
    textBytes s width = [] ↔ s = [] := by
  rw [← List.length_eq_zero_iff, length_textBytes, ← @runes_eq_nil_iff s,
    ← List.length_eq_zero_iff]
  omega

theorem text_of_le {width : Int} (h0 : 0 ≤ width) (h1 : width ≤ 281474976710656)
    (s : List UInt8) :
    text s width = .ok (textBytes s width.toNat) := by
  unfold text
  rw [if_neg (by simp only [Bool.or_eq_true, decide_eq_true_eq]; omega)]

theorem text_of_gt {width : Int} (h : 281474976710656 < width) (s : List UInt8) :
    text s width = .error .capacity := by
  unfold text
  rw [if_pos (by simp only [Bool.or_eq_true, decide_eq_true_eq]; omega)]

/-- The screen bytes `t` of a text for a width: as many as the width and the text's characters
allow, each the character itself when it is Latin-1 and `?` otherwise. -/
def ScreenBytes (s : List UInt8) (width : Nat) (t : List UInt8) : Prop :=
  t.length = min width (runes s).length ∧
    t.map UInt8.toNat = ((runes s).take width).map fun r => if r ≤ 0xFF then r else 0x3F

theorem text_screenBytes {width : Int} (h0 : 0 ≤ width) (h1 : width ≤ 281474976710656)
    (s : List UInt8) :
    ∃ t, text s width = .ok t ∧ ScreenBytes s width.toNat t :=
  ⟨_, text_of_le h0 h1 s, length_textBytes s _, textBytes_toNat s _⟩

theorem length_line (s : List UInt8) : (line s).length = columns := by
  simp only [line, List.length_append, List.length_replicate, length_textBytes]
  omega

/-! ## What writing text sends -/

/-- Writing bytes at a position sends nothing for no bytes, and otherwise one command with the
position in front of the bytes. -/
theorem runs_placeBytes_iff {col row : Nat} {data : List UInt8} {steps : List Step}
    {r : Except DeviceError Unit} :
    (placeBytes col row data).Runs steps r ↔
      (data = [] ∧ steps = [] ∧ r = .ok ()) ∨
      (data ≠ [] ∧ ∃ reply, steps = [⟨.command cmdSendData (col.toUInt8 :: row.toUInt8 :: data),
        none, reply⟩] ∧ r = (reply.mapError .link).map fun _ => ()) := by
  unfold placeBytes
  by_cases hd : data = []
  · rw [if_pos hd]
    simp only [hd, true_and, ne_eq, not_true_eq_false, false_and, or_false]
    exact runs_done_iff
  · rw [if_neg hd]
    show ((send _ _).bind fun _ => Exchange.done (.ok ())).Runs steps r ↔ _
    rw [runs_send_discard_iff]
    simp [hd]

theorem checkRange_ok {name : String} {value lo hi : Int} (h : lo ≤ value ∧ value ≤ hi) :
    checkRange name value lo hi = .ok () := by
  unfold checkRange
  rw [if_neg (by omega)]

theorem checkPosition_ok {col row : Int} (hcol : 0 ≤ col ∧ col ≤ 15) (hrow : 0 ≤ row ∧ row ≤ 1) :
    checkPosition col row = .ok () := by
  have hc : checkRange "column" col 0 (columns - 1) = .ok () :=
    checkRange_ok ⟨hcol.1, by simp only [columns]; omega⟩
  have hr : checkRange "row" row 0 (rows - 1) = .ok () :=
    checkRange_ok ⟨hrow.1, by simp only [rows]; omega⟩
  simp only [checkPosition, hc, hr]
  rfl

theorem sendData_of_position {col row : Int} (hcol : 0 ≤ col ∧ col ≤ 15) (hrow : 0 ≤ row ∧ row ≤ 1)
    (s : List UInt8) :
    sendData col row s = placeBytes col.toNat row.toNat (textBytes s (columns - col.toNat)) := by
  unfold sendData
  rw [checkPosition_ok hcol hrow]
  rfl

/-- What writing a text at a position sends: the column and the row, then the screen bytes `t` of
the text for the rest of the row, as one command; nothing when there are no such bytes, which is
exactly when the text is empty. The column and the bytes together never pass the right edge. -/
def WritesText (col row : Int) (s : List UInt8) : Prop :=
  ∃ t, text s (16 - col) = .ok t ∧ col + t.length ≤ 16 ∧ (t = [] ↔ s = []) ∧
    ∀ steps r, (sendData col row s).Runs steps r ↔
      (t = [] ∧ steps = [] ∧ r = .ok ()) ∨
      (t ≠ [] ∧ ∃ reply,
        steps = [⟨.command cmdSendData (col.toNat.toUInt8 :: row.toNat.toUInt8 :: t), none, reply⟩] ∧
        r = (reply.mapError .link).map fun _ => ())

theorem sendData_writesText {col row : Int} (hcol : 0 ≤ col ∧ col ≤ 15) (hrow : 0 ≤ row ∧ row ≤ 1)
    (s : List UInt8) : WritesText col row s := by
  have hwidth : (16 - col).toNat = columns - col.toNat := by simp only [columns]; omega
  refine ⟨textBytes s (columns - col.toNat), ?_, ?_, textBytes_eq_nil_iff ?_, fun steps r => ?_⟩
  · rw [text_of_le (by omega) (by omega), hwidth]
  · have hlen := length_textBytes s (columns - col.toNat)
    simp only [columns] at hlen ⊢
    omega
  · simp only [columns]
    omega
  · rw [sendData_of_position hcol hrow, runs_placeBytes_iff]

theorem line_ne_nil (s : List UInt8) : line s ≠ [] := by
  intro h
  have := length_line s
  rw [h] at this
  simp [columns] at this

/-- Setting both lines writes the first line at the start of the first row and, only if that was
answered, the second line at the start of the second row. -/
theorem runs_setContents_iff {lineOne lineTwo : List UInt8} {steps : List Step}
    {r : Except DeviceError Unit} :
    (setContents lineOne lineTwo).Runs steps r ↔
      (∃ e, steps = [⟨.command cmdSendData (0 :: 0 :: line lineOne), none, .error e⟩] ∧
        r = .error (.link e)) ∨
      (∃ p reply, steps = [⟨.command cmdSendData (0 :: 0 :: line lineOne), none, .ok p⟩,
          ⟨.command cmdSendData (0 :: 1 :: line lineTwo), none, reply⟩] ∧
        r = (reply.mapError .link).map fun _ => ()) := by
  show ((placeBytes 0 0 (line lineOne)).bind fun _ => placeBytes 0 1 (line lineTwo)).Runs steps r ↔ _
  simp only [runs_bind_iff, runs_placeBytes_iff, line_ne_nil, false_and, false_or, ne_eq,
    not_false_eq_true, true_and]
  constructor
  · rintro (⟨a, pre, post, rfl, ⟨reply, rfl, hreply⟩, reply', rfl, rfl⟩ |
      ⟨e, ⟨reply, rfl, hreply⟩, rfl⟩)
    · cases reply with
      | ok p => exact .inr ⟨p, reply', rfl, rfl⟩
      | error e => cases hreply
    · cases reply with
      | ok p => cases hreply
      | error e' =>
        cases hreply
        exact .inl ⟨e', rfl, rfl⟩
  · rintro (⟨e, rfl, rfl⟩ | ⟨p, reply, rfl, rfl⟩)
    · exact .inr ⟨.link e, ⟨.error e, rfl, rfl⟩, rfl⟩
    · exact .inl ⟨(), _, _, rfl, ⟨.ok p, rfl, rfl⟩, ⟨reply, rfl, rfl⟩⟩

/-- Text on the screen. For a width from zero up to the largest allocation, the screen bytes of a
text are its first characters, as many as the width allows, each Latin-1 character as itself and
any other as `?`; a wider width is a fault. The characters of a string are its own. A line is the
text for the screen's width padded with spaces to sixteen bytes. Text at a position on the screen
is sent as the column and row followed by its screen bytes for the rest of the row, never past the
right edge and not at all when empty; either line is sent as one full line; and both lines are
written from the start of their rows, the second only once the first was answered. -/
theorem screen_text_sends :
    (∀ (s : List UInt8) (width : Int), 0 ≤ width → width ≤ 281474976710656 →
      ∃ t, text s width = .ok t ∧ ScreenBytes s width.toNat t) ∧
    (∀ (s : List UInt8) (width : Int), 281474976710656 < width →
      text s width = .error .capacity) ∧
    (∀ s : String, runes (ofString s) = s.toList.map Char.toNat) ∧
    (∀ s : List UInt8, ∃ t, text s 16 = .ok t ∧ line s = t ++ List.replicate (16 - t.length) 0x20 ∧
      (line s).length = 16) ∧
    (∀ (col row : Int) (s : List UInt8), 0 ≤ col → col ≤ 15 → 0 ≤ row → row ≤ 1 →
      WritesText col row s) ∧
    (∀ (s : List UInt8) steps (r : Except DeviceError Unit), (setLineOne s).Runs steps r ↔
      ∃ reply, steps = [⟨.command cmdLineOne (line s), none, reply⟩] ∧
        r = (reply.mapError .link).map fun _ => ()) ∧
    (∀ (s : List UInt8) steps (r : Except DeviceError Unit), (setLineTwo s).Runs steps r ↔
      ∃ reply, steps = [⟨.command cmdLineTwo (line s), none, reply⟩] ∧
        r = (reply.mapError .link).map fun _ => ()) ∧
    (∀ (lineOne lineTwo : List UInt8) steps (r : Except DeviceError Unit),
      (setContents lineOne lineTwo).Runs steps r ↔
        (∃ e, steps = [⟨.command cmdSendData (0 :: 0 :: line lineOne), none, .error e⟩] ∧
          r = .error (.link e)) ∨
        (∃ p reply, steps = [⟨.command cmdSendData (0 :: 0 :: line lineOne), none, .ok p⟩,
            ⟨.command cmdSendData (0 :: 1 :: line lineTwo), none, reply⟩] ∧
          r = (reply.mapError .link).map fun _ => ())) :=
  ⟨fun s _ h0 h1 => text_screenBytes h0 h1 s,
   fun s _ h => text_of_gt h s,
   runes_ofString,
   fun s => ⟨_, text_of_le (by decide) (by decide) s, rfl, length_line s⟩,
   fun _ _ s h0 h1 h2 h3 => sendData_writesText ⟨h0, h1⟩ ⟨h2, h3⟩ s,
   fun _ _ _ => runs_send_discard_iff,
   fun _ _ _ => runs_send_discard_iff,
   fun _ _ _ _ => runs_setContents_iff⟩

/-- Text written at column 12 of the second row, read for a width of 3. -/
theorem hello_on_second_row :
    (0 ≤ (3 : Int) ∧ (3 : Int) ≤ 281474976710656 ∧
      ∃ t, text (ofString "héllo") 3 = .ok t ∧ ScreenBytes (ofString "héllo") (3 : Int).toNat t) ∧
    (0 ≤ (12 : Int) ∧ (12 : Int) ≤ 15 ∧ 0 ≤ (1 : Int) ∧ (1 : Int) ≤ 1 ∧
      WritesText 12 1 (ofString "héllo")) :=
  ⟨⟨by decide, by decide, screen_text_sends.1 _ 3 (by decide) (by decide)⟩,
   ⟨by decide, by decide, by decide, by decide,
    screen_text_sends.2.2.2.2.1 12 1 _ (by decide) (by decide) (by decide) (by decide)⟩⟩

/-- A width one past the largest allocation is a fault, not the text's screen bytes. -/
theorem text_past_allocation_faults : text (ofString "a") 281474976710657 = .error .capacity :=
  text_of_gt (by decide) _

end LcdPanel.Display
