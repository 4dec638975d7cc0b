import LcdPanel.Proofs.Display.Screen
import LcdPanel.Link.Conn

/-!
Every display operation refuses its out-of-range arguments before sending anything, and otherwise
sends command packets with its own identifier that carry each argument as one byte.
-/

namespace LcdPanel.Frame

/-- A command as the display's operations send it: a command packet with identifier `id`, whose
payload starts with the numeric arguments `args`, each one byte of the same value, and holds at
most 18 bytes. -/
structure Packet.Carries (cmd : Packet) (id : UInt8) (args : List Int) : Prop where
  kind : cmd.kind = .command
  ident : cmd.id = id
  bytes : (cmd.data.take args.length).map (fun b => (b.toNat : Int)) = args
  short : cmd.data.length ≤ 18

theorem Packet.id_command {i : UInt8} (h : i.toNat < 64) (data : List UInt8) :
    (Packet.command i data).id = i := by
  have hlow (n : Nat) : n &&& 63 = n % 64 := Nat.and_two_pow_sub_one_eq_mod n 6
  apply UInt8.toNat_inj.mp
  simp only [Packet.id, Packet.command, Packet.make, Packet.codeOf, UInt8.toNat_and]
  simp [hlow]
  omega

theorem Packet.kind_command (i : UInt8) (data : List UInt8) :
    (Packet.command i data).kind = .command := by
  have hlow (n : Nat) : n &&& 63 = n % 64 := Nat.and_two_pow_sub_one_eq_mod n 6
  have hlt : (Packet.command i data).code.toNat < 64 := by
    simp [Packet.command, Packet.make, Packet.codeOf, hlow]
    omega
  simp [Packet.kind, Packet.kindBits, Nat.div_eq_of_lt hlt, PacketKind.ofBits]

theorem Packet.carries_command {id : UInt8} (hid : id.toNat < 64) {data : List UInt8}
    {args : List Int} (hargs : (data.take args.length).map (fun b => (b.toNat : Int)) = args)
    (hlen : data.length ≤ 18) : (Packet.command id data).Carries id args :=
  ⟨kind_command id data, id_command hid data, hargs, hlen⟩

end LcdPanel.Frame

namespace LcdPanel.Link

open LcdPanel.Frame

/-- A command the display sends always fits a packet: the connection never refuses it as too
long, only for a link that is down. -/
theorem Conn.checkSend_of_carries {cmd : Packet} {id : UInt8} {args : List Int}
    (h : cmd.Carries id args) (c : Conn) : c.checkSend cmd = c.checkUp := by
  unfold Conn.checkSend
  rw [if_neg (by have := h.short; simp only [maxDataLen]; omega)]

end LcdPanel.Link

namespace LcdPanel.Display

open LcdPanel.Frame LcdPanel.Link Exchange

variable {α : Type}

/-- An exchange at rate `rate` (none for a plain one) whose command has identifier `id` and
carries `args`. -/
def Exchange.Step.Sends (rate : Option Int) (id : UInt8) (args : List Int) (s : Step) : Prop :=
  s.rate = rate ∧ s.cmd.Carries id args

/-- How an operation treats its arguments: when `bad` holds of them it fails at once with an
argument error, sending nothing; otherwise every run of it keeps `P` and ends without an argument
error. -/
structure ChecksArguments (x : Exchange α) (bad : Prop) (P : Step → Prop) : Prop where
  refuses : bad → ∃ name value reason, x = .done (.error (.argument name value reason))
  keeps : ¬bad → x.Keeps P

/-- An operation fails with an argument error on some answers of the device exactly when its
arguments are bad. -/
theorem ChecksArguments.argument_iff {x : Exchange α} {bad : Prop} {P : Step → Prop}
    (h : ChecksArguments x bad P) :
    (∃ steps e, x.Runs steps (.error e) ∧ e.IsArgument) ↔ bad := by
  constructor
  · rintro ⟨steps, e, hrun, he⟩
    exact Classical.byContradiction fun hbad => (h.keeps hbad steps _ hrun).2 e rfl he
  · intro hbad
    obtain ⟨name, value, reason, hx⟩ := h.refuses hbad
    refine ⟨[], .argument name value reason, ?_, trivial⟩
    rw [hx]
    exact .done _

theorem ChecksArguments.quiet {x : Exchange α} {bad : Prop} {P : Step → Prop}
    (h : ChecksArguments x bad P) {steps : List Step} {e : DeviceError}
    (hrun : x.Runs steps (.error e)) (he : e.IsArgument) : steps = [] := by
  have hbad := h.argument_iff.1 ⟨steps, e, hrun, he⟩
  obtain ⟨name, value, reason, hx⟩ := h.refuses hbad
  rw [hx] at hrun
  exact (runs_done_iff.1 hrun).1

/-! ## The checks -/

theorem checkRange_error {name : String} {value lo hi : Int} (h : value < lo ∨ hi < value) :
    ∃ reason, checkRange name value lo hi = .error (.argument name value reason) := by
  unfold checkRange
  rw [if_pos (by omega)]
  exact ⟨_, rfl⟩

theorem checkPosition_error {col row : Int} (h : col < 0 ∨ 15 < col ∨ row < 0 ∨ 1 < row) :
    ∃ name value reason, checkPosition col row = .error (.argument name value reason) := by
  by_cases hcol : 0 ≤ col ∧ col ≤ 15
  · have hc : checkRange "column" col 0 (columns - 1) = .ok () :=
      checkRange_ok ⟨hcol.1, by simp only [columns]; omega⟩
    obtain ⟨reason, hr⟩ : ∃ reason, checkRange "row" row 0 (rows - 1) =
        .error (.argument "row" row reason) :=
      checkRange_error (by simp only [rows]; omega)
    exact ⟨_, _, reason, by simp only [checkPosition, hc, hr]; rfl⟩
  · obtain ⟨reason, hc⟩ : ∃ reason, checkRange "column" col 0 (columns - 1) =
        .error (.argument "column" col reason) :=
      checkRange_error (by simp only [columns]; omega)
    exact ⟨_, _, reason, by simp only [checkPosition, hc]; rfl⟩

theorem checkKeys_ok_iff (name : String) (flags : UInt8) :
    checkKeys name flags = .ok () ↔ flags.toNat < 64 := by
  have hbits : ∀ n < 256, (n &&& 192 = 0 ↔ n < 64) := by decide +kernel
  have hmask : flags &&& ~~~allKeys = 0 ↔ flags.toNat < 64 := by
    rw [← UInt8.toNat_inj]
    simpa [UInt8.toNat_and, allKeys] using hbits flags.toNat flags.toNat_lt
  unfold checkKeys
  by_cases h : flags &&& ~~~allKeys = 0
  · simp [h, hmask.1 h]
  · rw [if_neg h]
    simp only [reduceCtorEq, false_iff]
    exact (not_congr hmask).1 h

theorem checkKeys_error {name : String} {flags : UInt8} (h : 64 ≤ flags.toNat) :
    checkKeys name flags = .error (.argument name flags.toNat "unknown keys") := by
  unfold checkKeys
  rw [if_neg (fun hz => by have := (checkKeys_ok_iff name flags).1 (by simp [checkKeys, hz]); omega)]

theorem argByte_toNat {n : Int} (h0 : 0 ≤ n) (h1 : n < 256) : ((argByte n).toNat : Int) = n := by
  have hmod : (argByte n).toNat = n.toNat % 256 := by simp [argByte, Nat.toUInt8_eq]
  omega

theorem check_error_bind {e : DeviceError} {f : Unit → Exchange α} :
    (check (.error e) >>= f) = .done (.error e) := rfl

theorem check_ok_bind {f : Unit → Exchange α} : (check (.ok ()) >>= f) = f () := rfl

/-! ## What the operations send -/

theorem keeps_sendExpect {id : UInt8} {size : Nat} {data : List UInt8} {P : Step → Prop}
    (h : ∀ reply, P ⟨Packet.command id data, none, reply⟩) :
    (Exchange.sendExpect id size data).Keeps P := by
  refine Keeps.bind (Keeps.send h) fun reply => ?_
  dsimp only
  split
  · exact Keeps.pure _ P
  · exact Keeps.link P

theorem keeps_placeBytes {col row : Nat} {data : List UInt8} {P : Step → Prop}
    (h : data ≠ [] → ∀ reply,
      P ⟨Packet.command cmdSendData (col.toUInt8 :: row.toUInt8 :: data), none, reply⟩) :
    (placeBytes col row data).Keeps P := by
  unfold placeBytes
  by_cases hd : data = []
  · rw [if_pos hd]
    exact Keeps.pure () P
  · rw [if_neg hd]
    exact Keeps.bind (Keeps.send (h hd)) fun _ => Keeps.pure () P

theorem sends_plain {id : UInt8} (hid : id.toNat < 64) {data : List UInt8} (hlen : data.length ≤ 18)
    (reply : Except LinkError Packet) :
    Step.Sends none id [] ⟨Packet.command id data, none, reply⟩ :=
  ⟨rfl, Packet.carries_command hid (by simp) hlen⟩

theorem checks_ping (data : List UInt8) :
    ChecksArguments (ping data) (16 < data.length) (Step.Sends none cmdPing []) where
  refuses h := ⟨_, _, _, by simp only [ping]; rw [if_pos (show data.length > maxPingLen from h)]; rfl⟩
  keeps h := by
    simp only [ping]
    rw [if_neg (show ¬data.length > maxPingLen from h)]
    refine Keeps.bind (Keeps.send (sends_plain (by decide) (by omega))) fun reply => ?_
    split
    · exact Keeps.pure () _
    · exact Keeps.link _

theorem checks_version : ChecksArguments version False (Step.Sends none cmdVersion []) where
  refuses h := h.elim
  keeps _ := Keeps.bind (Keeps.send (sends_plain (by decide) (by simp))) fun _ => Keeps.pure _ _

theorem checks_writeFlash (data : List UInt8) :
    ChecksArguments (writeFlash data) False (Step.Sends none cmdWriteFlash []) where
  refuses h := h.elim
  keeps _ := Keeps.bind (Keeps.send (sends_plain (by decide) (by simp [flashLen]))) fun _ =>
    Keeps.pure () _

theorem checks_readFlash : ChecksArguments readFlash False (Step.Sends none cmdReadFlash []) where
  refuses h := h.elim
  keeps _ := keeps_sendExpect (sends_plain (by decide) (by simp))

theorem checks_storeBoot : ChecksArguments storeBoot False (Step.Sends none cmdStoreBoot []) where
  refuses h := h.elim
  keeps _ := Keeps.bind (Keeps.send (sends_plain (by decide) (by simp))) fun _ => Keeps.pure () _

theorem powerCode_eq_none_iff (op : Int) : powerCode op = none ↔ op ≠ 0 ∧ op ≠ 1 ∧ op ≠ 2 := by
  unfold powerCode
  split <;> simp_all

theorem length_of_powerCode {op : Int} {code : List UInt8} (h : powerCode op = some code) :
    code.length = 3 := by
  unfold powerCode at h
  split at h <;> cases h <;> rfl

theorem checks_power (op : Int) :
    ChecksArguments (power op) (op ≠ 0 ∧ op ≠ 1 ∧ op ≠ 2) (Step.Sends none cmdPower []) where
  refuses h := by
    rw [← powerCode_eq_none_iff] at h
    exact ⟨_, _, _, by simp only [power, h]; rfl⟩
  keeps h := by
    rw [← powerCode_eq_none_iff] at h
    obtain ⟨code, hcode⟩ := Option.ne_none_iff_exists'.1 h
    simp only [power, hcode]
    have hlen := length_of_powerCode hcode
    exact Keeps.bind (Keeps.send (sends_plain (by decide) (by omega))) fun _ => Keeps.pure () _

theorem checks_reboot : ChecksArguments reboot False (Step.Sends none cmdPower []) where
  refuses h := h.elim
  keeps _ := (checks_power 0).keeps (by simp)

theorem checks_clear : ChecksArguments clear False (Step.Sends none cmdClear []) where
  refuses h := h.elim
  keeps _ := Keeps.bind (Keeps.send (sends_plain (by decide) (by simp))) fun _ => Keeps.pure () _

theorem checks_setLineOne (s : List UInt8) :
    ChecksArguments (setLineOne s) False (Step.Sends none cmdLineOne []) where
  refuses h := h.elim
  keeps _ := Keeps.bind (Keeps.send (sends_plain (by decide) (by simp [length_line, columns])))
    fun _ => Keeps.pure () _

theorem checks_setLineTwo (s : List UInt8) :
    ChecksArguments (setLineTwo s) False (Step.Sends none cmdLineTwo []) where
  refuses h := h.elim
  keeps _ := Keeps.bind (Keeps.send (sends_plain (by decide) (by simp [length_line, columns])))
    fun _ => Keeps.pure () _

theorem checks_setContents (lineOne lineTwo : List UInt8) :
    ChecksArguments (setContents lineOne lineTwo) False (Step.Sends none cmdSendData []) where
  refuses h := h.elim
  keeps _ := by
    have hlen (l : List UInt8) (c r : Nat) :
        (c.toUInt8 :: r.toUInt8 :: line l).length ≤ 18 := by
      simp [length_line, columns]
    exact Keeps.bind (keeps_placeBytes fun _ => sends_plain (by decide) (hlen _ _ _)) fun _ =>
      keeps_placeBytes fun _ => sends_plain (by decide) (hlen _ _ _)

theorem position_bytes {col row : Int} (hcol : 0 ≤ col ∧ col ≤ 15) (hrow : 0 ≤ row ∧ row ≤ 1)
    (rest : List UInt8) :
    ((argByte col :: argByte row :: rest).take 2).map (fun b => (b.toNat : Int)) = [col, row] := by
  simp [argByte_toNat hcol.1 (by omega), argByte_toNat hrow.1 (by omega)]

theorem checks_sendData (col row : Int) (s : List UInt8) :
    ChecksArguments (sendData col row s) (col < 0 ∨ 15 < col ∨ row < 0 ∨ 1 < row)
      (Step.Sends none cmdSendData [col, row]) where
  refuses h := by
    obtain ⟨name, value, reason, hpos⟩ := checkPosition_error h
    exact ⟨name, value, reason, by rw [sendData, hpos]; rfl⟩
  keeps h := by
    have hcol : 0 ≤ col ∧ col ≤ 15 := by omega
    have hrow : 0 ≤ row ∧ row ≤ 1 := by omega
    rw [sendData_of_position hcol hrow]
    refine keeps_placeBytes fun _ _ => ⟨rfl, Packet.carries_command (by decide)
      (position_bytes hcol hrow _) ?_⟩
    have := length_textBytes s (columns - col.toNat)
    simp only [List.length_cons, columns] at this ⊢
    omega

theorem checks_setSpecialChar (index : Int) (bitmap : List UInt8) :
    ChecksArguments (setSpecialChar index bitmap) (index < 0 ∨ 7 < index ∨ bitmap.length ≠ 8)
      (Step.Sends none cmdSpecialChar [index]) where
  refuses h := by
    by_cases hi : index < 0 ∨ 7 < index
    · obtain ⟨reason, hc⟩ : ∃ reason, checkRange "character index" index 0 (specialChars - 1) =
          .error (.argument "character index" index reason) :=
        checkRange_error (by simp only [specialChars]; omega)
      exact ⟨_, _, reason, by rw [setSpecialChar, hc]; rfl⟩
    · have hc : checkRange "character index" index 0 (specialChars - 1) = .ok () :=
        checkRange_ok ⟨by omega, by simp only [specialChars]; omega⟩
      have hb : bitmap.length ≠ bitmapLen := by simp only [bitmapLen]; omega
      exact ⟨_, _, _, by simp only [setSpecialChar, hc, check_ok_bind, if_pos hb]; rfl⟩
  keeps h := by
    have hc : checkRange "character index" index 0 (specialChars - 1) = .ok () :=
      checkRange_ok ⟨by omega, by simp only [specialChars]; omega⟩
    have hb : ¬bitmap.length ≠ bitmapLen := by simp only [bitmapLen]; omega
    simp only [setSpecialChar, hc, check_ok_bind, if_neg hb]
    refine Keeps.bind (Keeps.send fun _ => ⟨rfl, Packet.carries_command (by decide) ?_ ?_⟩) fun _ =>
      Keeps.pure () _
    · simp [argByte_toNat (show 0 ≤ index by omega) (by omega)]
    · simp only [List.length_cons]
      omega

theorem checks_readMemory (addr : UInt8) :
    ChecksArguments (readMemory addr) False (Step.Sends none cmdReadMemory [addr.toNat]) where
  refuses h := h.elim
  keeps _ := by
    refine Keeps.bind (keeps_sendExpect fun _ => ⟨rfl, Packet.carries_command (by decide)
      (by simp) (by simp)⟩) fun data => ?_
    rcases data with _ | ⟨a, rest⟩
    · exact Keeps.pure _ _
    · dsimp only
      split
      · exact Keeps.pure _ _
      · exact Keeps.link _

theorem checks_setCursorPosition (col row : Int) :
    ChecksArguments (setCursorPosition col row) (col < 0 ∨ 15 < col ∨ row < 0 ∨ 1 < row)
      (Step.Sends none cmdCursorPosition [col, row]) where
  refuses h := by
    obtain ⟨name, value, reason, hpos⟩ := checkPosition_error h
    exact ⟨name, value, reason, by rw [setCursorPosition, hpos]; rfl⟩
  keeps h := by
    have hcol : 0 ≤ col ∧ col ≤ 15 := by omega
    have hrow : 0 ≤ row ∧ row ≤ 1 := by omega
    rw [setCursorPosition, checkPosition_ok hcol hrow]
    exact Keeps.bind (Keeps.pure () _) fun _ => Keeps.bind (Keeps.send fun _ =>
      ⟨rfl, Packet.carries_command (by decide) (position_bytes hcol hrow []) (by simp)⟩) fun _ =>
      Keeps.pure () _

theorem checks_setCursorStyle (style : UInt8) :
    ChecksArguments (setCursorStyle style) (3 < style.toNat)
      (Step.Sends none cmdCursorStyle [style.toNat]) where
  refuses h := by
    obtain ⟨reason, hc⟩ : ∃ reason, checkRange "cursor style" style.toNat 0 3 =
        .error (.argument "cursor style" style.toNat reason) :=
      checkRange_error (by omega)
    exact ⟨_, _, reason, by rw [setCursorStyle, hc]; rfl⟩
  keeps h := by
    rw [setCursorStyle, checkRange_ok ⟨by omega, by omega⟩]
    exact Keeps.bind (Keeps.pure () _) fun _ => Keeps.bind (Keeps.send fun _ =>
      ⟨rfl, Packet.carries_command (by decide) (by simp) (by simp)⟩) fun _ => Keeps.pure () _

theorem checks_setContrast (value : Int) :
    ChecksArguments (setContrast value) (value < 0 ∨ 200 < value)
      (Step.Sends none cmdContrast [value]) where
  refuses h := by
    obtain ⟨reason, hc⟩ : ∃ reason, checkRange "contrast" value 0 maxContrast =
        .error (.argument "contrast" value reason) :=
      checkRange_error (by simp only [maxContrast]; omega)
    exact ⟨_, _, reason, by rw [setContrast, hc]; rfl⟩
  keeps h := by
    rw [setContrast, checkRange_ok ⟨by omega, by simp only [maxContrast]; omega⟩]
    exact Keeps.bind (Keeps.pure () _) fun _ => Keeps.bind (Keeps.send fun _ =>
      ⟨rfl, Packet.carries_command (by decide)
        (by simp [argByte_toNat (show 0 ≤ value by omega) (by omega)]) (by simp)⟩) fun _ =>
      Keeps.pure () _

theorem checks_setBacklight (lcd keypad : Int) :
    ChecksArguments (setBacklight lcd keypad) (lcd < 0 ∨ 100 < lcd ∨ keypad < 0 ∨ 100 < keypad)
      (Step.Sends none cmdBacklight [lcd, keypad]) where
  refuses h := by
    by_cases hl : lcd < 0 ∨ 100 < lcd
    · obtain ⟨reason, hc⟩ : ∃ reason, checkRange "lcd brightness" lcd 0 maxBrightness =
          .error (.argument "lcd brightness" lcd reason) :=
        checkRange_error (by simp only [maxBrightness]; omega)
      exact ⟨_, _, reason, by rw [setBacklight, hc]; rfl⟩
    · obtain ⟨reason, hk⟩ : ∃ reason, checkRange "keypad brightness" keypad 0 maxBrightness =
          .error (.argument "keypad brightness" keypad reason) :=
        checkRange_error (by simp only [maxBrightness]; omega)
      rw [setBacklight, checkRange_ok ⟨by omega, by simp only [maxBrightness]; omega⟩, hk]
      exact ⟨_, _, reason, rfl⟩
  keeps h := by
    rw [setBacklight, checkRange_ok ⟨by omega, by simp only [maxBrightness]; omega⟩,
      checkRange_ok ⟨by omega, by simp only [maxBrightness]; omega⟩]
    exact Keeps.bind (Keeps.pure () _) fun _ => Keeps.bind (Keeps.pure () _) fun _ =>
      Keeps.bind (Keeps.send fun _ => ⟨rfl, Packet.carries_command (by decide)
        (by simp [argByte_toNat (show 0 ≤ lcd by omega) (by omega),
          argByte_toNat (show 0 ≤ keypad by omega) (by omega)]) (by simp)⟩) fun _ =>
      Keeps.pure () _

theorem checks_setKeyReporting (press release : UInt8) :
    ChecksArguments (setKeyReporting press release) (64 ≤ press.toNat ∨ 64 ≤ release.toNat)
      (Step.Sends none cmdKeyReporting [press.toNat, release.toNat]) where
  refuses h := by
    by_cases hp : 64 ≤ press.toNat
    · exact ⟨_, _, _, by rw [setKeyReporting, checkKeys_error hp]; rfl⟩
    · rw [setKeyReporting, (checkKeys_ok_iff _ press).2 (by omega),
        checkKeys_error (by omega : 64 ≤ release.toNat)]
      exact ⟨_, _, _, rfl⟩
  keeps h := by
    rw [setKeyReporting, (checkKeys_ok_iff _ press).2 (by omega),
      (checkKeys_ok_iff _ release).2 (by omega)]
    exact Keeps.bind (Keeps.pure () _) fun _ => Keeps.bind (Keeps.pure () _) fun _ =>
      Keeps.bind (Keeps.send fun _ => ⟨rfl, Packet.carries_command (by decide) (by simp)
        (by simp)⟩) fun _ => Keeps.pure () _

theorem checks_readKeypad : ChecksArguments readKeypad False (Step.Sends none cmdKeypad []) where
  refuses h := h.elim
  keeps _ := by
    refine Keeps.bind (keeps_sendExpect (sends_plain (by decide) (by simp))) fun data => ?_
    split <;> exact Keeps.pure _ _

theorem checks_setBaud (baud : Int) :
    ChecksArguments (setBaud baud) (baud ≠ 19200 ∧ baud ≠ 115200)
      (Step.Sends (some baud) cmdSetBaud [if baud = 19200 then 0 else 1]) where
  refuses h := by
    unfold setBaud
    split
    · exact absurd rfl h.1
    · exact absurd rfl h.2
    · exact ⟨_, _, _, rfl⟩
  keeps h := by
    unfold setBaud
    split
    · exact Keeps.bind (Keeps.askAtRate (fun _ => ⟨rfl, Packet.carries_command (by decide)
        (by simp) (by simp)⟩) (Keeps.outcome _)) fun _ => Keeps.pure () _
    · exact Keeps.bind (Keeps.askAtRate (fun _ => ⟨rfl, Packet.carries_command (by decide)
        (by simp) (by simp)⟩) (Keeps.outcome _)) fun _ => Keeps.pure () _
    · rename_i h1 h2
      exact absurd ⟨h1, h2⟩ h

theorem checks_unsupported (id : UInt8) : ChecksArguments (unsupported id) False fun _ => False where
  refuses h := h.elim
  keeps _ := Keeps.done _ (by rintro e ⟨⟩; simp)

/-- The argument checks of the display's command set. What an accepted call sends always fits a
packet, so no connection refuses it as too long. Each operation refuses, before sending anything,
exactly the arguments outside its limits: ping data longer than 16 bytes, a power operation other
than the three, a special character index outside 0 to 7 or a bitmap of other than 8 bytes, a
position off the screen, a cursor style above 3, a contrast outside 0 to 200, a brightness outside
0 to 100, a key set with a bit beyond the six keys, a rate other than 19200 and 115200; the other
operations refuse nothing. An accepted call sends command packets with the operation's own
identifier that carry its numeric arguments byte for byte; the rate change goes through the
exchange that reopens the line, with code 0 for 19200 and 1 for 115200, and an unsupported
command sends nothing. -/
theorem device_checks_arguments :
    (∀ (s : Step) rate id args, Step.Sends rate id args s → ∀ c : Conn,
      c.checkSend s.cmd = c.checkUp) ∧
    (∀ data, ChecksArguments (ping data) (16 < data.length) (Step.Sends none cmdPing [])) ∧
    ChecksArguments version False (Step.Sends none cmdVersion []) ∧
    (∀ data, ChecksArguments (writeFlash data) False (Step.Sends none cmdWriteFlash [])) ∧
    ChecksArguments readFlash False (Step.Sends none cmdReadFlash []) ∧
    ChecksArguments storeBoot False (Step.Sends none cmdStoreBoot []) ∧
    (∀ op, ChecksArguments (power op) (op ≠ 0 ∧ op ≠ 1 ∧ op ≠ 2) (Step.Sends none cmdPower [])) ∧
    ChecksArguments reboot False (Step.Sends none cmdPower []) ∧
    ChecksArguments clear False (Step.Sends none cmdClear []) ∧
    (∀ s, ChecksArguments (setLineOne s) False (Step.Sends none cmdLineOne [])) ∧
    (∀ s, ChecksArguments (setLineTwo s) False (Step.Sends none cmdLineTwo [])) ∧
    (∀ lineOne lineTwo, ChecksArguments (setContents lineOne lineTwo) False
      (Step.Sends none cmdSendData [])) ∧
    (∀ col row s, ChecksArguments (sendData col row s) (col < 0 ∨ 15 < col ∨ row < 0 ∨ 1 < row)
      (Step.Sends none cmdSendData [col, row])) ∧
    (∀ index bitmap, ChecksArguments (setSpecialChar index bitmap)
      (index < 0 ∨ 7 < index ∨ bitmap.length ≠ 8) (Step.Sends none cmdSpecialChar [index])) ∧
    (∀ addr, ChecksArguments (readMemory addr) False
      (Step.Sends none cmdReadMemory [addr.toNat])) ∧
    (∀ col row, ChecksArguments (setCursorPosition col row)
      (col < 0 ∨ 15 < col ∨ row < 0 ∨ 1 < row) (Step.Sends none cmdCursorPosition [col, row])) ∧
    (∀ style, ChecksArguments (setCursorStyle style) (3 < style.toNat)
      (Step.Sends none cmdCursorStyle [style.toNat])) ∧
    (∀ value, ChecksArguments (setContrast value) (value < 0 ∨ 200 < value)
      (Step.Sends none cmdContrast [value])) ∧
    (∀ lcd keypad, ChecksArguments (setBacklight lcd keypad)
      (lcd < 0 ∨ 100 < lcd ∨ keypad < 0 ∨ 100 < keypad)
      (Step.Sends none cmdBacklight [lcd, keypad])) ∧
    (∀ press release, ChecksArguments (setKeyReporting press release)
      (64 ≤ press.toNat ∨ 64 ≤ release.toNat)
      (Step.Sends none cmdKeyReporting [press.toNat, release.toNat])) ∧
    ChecksArguments readKeypad False (Step.Sends none cmdKeypad []) ∧
    (∀ baud, ChecksArguments (setBaud baud) (baud ≠ 19200 ∧ baud ≠ 115200)
      (Step.Sends (some baud) cmdSetBaud [if baud = 19200 then 0 else 1])) ∧
    (∀ id, ChecksArguments (unsupported id) False fun _ => False) :=
  ⟨fun _ _ _ _ hs c => Conn.checkSend_of_carries hs.2 c, checks_ping, checks_version,
   checks_writeFlash, checks_readFlash, checks_storeBoot, checks_power, checks_reboot, checks_clear,
   checks_setLineOne, checks_setLineTwo, checks_setContents, checks_sendData,
   checks_setSpecialChar, checks_readMemory, checks_setCursorPosition, checks_setCursorStyle,
   checks_setContrast, checks_setBacklight, checks_setKeyReporting, checks_readKeypad,
   checks_setBaud, checks_unsupported⟩

/-- The clear command, however it is answered, passes a fresh connection's length check. -/
theorem clear_command_fits :
    Step.Sends none cmdClear [] ⟨Packet.command cmdClear [], none, .error .canceled⟩ ∧
      ({} : Conn).checkSend (Packet.command cmdClear []) = ({} : Conn).checkUp :=
  have hs : Step.Sends none cmdClear [] ⟨Packet.command cmdClear [], none, .error .canceled⟩ :=
    sends_plain (by decide) (by simp) _
  ⟨hs, device_checks_arguments.1 _ none cmdClear [] hs {}⟩

end LcdPanel.Display
