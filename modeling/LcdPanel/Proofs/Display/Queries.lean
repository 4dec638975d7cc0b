import Mathlib.Data.List.Basic
import LcdPanel.Proofs.Display.Runs

/-!
A query reads its answer out of a reply of the shapes it takes and fails on any other, after
checking the reply's length, so every reply of any size ends it.
-/

namespace LcdPanel.Display

open LcdPanel.Frame LcdPanel.Link

namespace Exchange

variable {α : Type}

def Answered (accept : Packet → Option α) : Except LinkError Packet → Except DeviceError α → Prop
  | .error e, r => r = .error (.link e)
  | .ok p, r =>
    match accept p with
    | some a => r = .ok a
    | none => ∃ code reason, r = .error (.link (.badResponse code reason))

/-- `x` sends the command `cmd` alone, ends on every reply, and ends as `accept` says. -/
structure Queries (x : Exchange α) (cmd : Packet) (accept : Packet → Option α) : Prop where
  total : ∀ reply, ∃ r, x.Runs [⟨cmd, none, reply⟩] r
  sound : ∀ steps r, x.Runs steps r →
    ∃ reply, steps = [⟨cmd, none, reply⟩] ∧ Answered accept reply r

theorem Queries.ask {cmd : Packet} {next : Except LinkError Packet → Exchange α}
    {accept : Packet → Option α}
    (h : ∀ reply, ∃ r, next reply = .done r ∧ Answered accept reply r) :
    (Exchange.ask cmd next).Queries cmd accept where
  total reply := by
    obtain ⟨r, hnext, -⟩ := h reply
    exact ⟨r, .ask reply (hnext ▸ .done r)⟩
  sound steps r hrun := by
    obtain ⟨reply, rest, rfl, hrest⟩ := runs_ask_iff.1 hrun
    obtain ⟨r', hnext, hans⟩ := h reply
    rw [hnext, runs_done_iff] at hrest
    obtain ⟨rfl, rfl⟩ := hrest
    exact ⟨reply, rfl, hans⟩

/-- A command whose reply is read without a second exchange is a query; a link failure needs no
reading, since sending hands it on. -/
theorem Queries.send_bind {id : UInt8} {data : List UInt8} {f : Packet → Exchange α}
    {accept : Packet → Option α} (h : ∀ p, ∃ r, f p = .done r ∧ Answered accept (.ok p) r) :
    ((send id data).bind f).Queries (Packet.command id data) accept := by
  apply Queries.ask
  intro reply
  cases reply with
  | error e => exact ⟨_, rfl, rfl⟩
  | ok p => exact h p

end Exchange

open Exchange

variable {α : Type}

def sized (size : Nat) (p : Packet) : Option (List UInt8) :=
  if p.data.length = size then some p.data else none

theorem queries_sendExpect (id : UInt8) (size : Nat) (data : List UInt8) :
    (sendExpect id size data).Queries (Packet.command id data) (sized size) := by
  unfold sendExpect
  apply Queries.send_bind
  intro p
  by_cases hs : p.data.length = size
  · exact ⟨.ok p.data, by simp [hs]; rfl, by simp [Answered, sized, hs]⟩
  · exact ⟨_, by simp [hs]; rfl, by simp [Answered, sized, hs]⟩

/-- Reading a reply of the right size without a second exchange is a query whose other replies are
refused by the size check. -/
theorem queries_sendExpect_bind {id : UInt8} {size : Nat} {data : List UInt8}
    {f : List UInt8 → Exchange α} {accept : Packet → Option α}
    (hread : ∀ p, p.data.length = size → ∃ r, f p.data = .done r ∧ Answered accept (.ok p) r)
    (hsize : ∀ p, p.data.length ≠ size → accept p = none) :
    ((sendExpect id size data).bind f).Queries (Packet.command id data) accept := by
  apply Queries.ask
  intro reply
  cases reply with
  | error e => exact ⟨_, rfl, rfl⟩
  | ok p =>
    by_cases hs : p.data.length = size
    · obtain ⟨r, hf, hans⟩ := hread p hs
      refine ⟨r, ?_, hans⟩
      show Exchange.bind (if p.data.length = size then _ else _) f = _
      rw [if_pos hs]
      exact hf
    · refine ⟨.error (.link (.badResponse p.code s!"expect {size} bytes, got {p.data.length}")), ?_,
        by simp [Answered, hsize p hs]⟩
      show Exchange.bind (if p.data.length = size then _ else _) f = _
      rw [if_neg hs]
      rfl

/-- The keypad state in a reply of three bytes: the keys down, pressed since and released since. -/
def keypadReply (p : Packet) : Option KeypadState :=
  if h : p.data.length = 3 then some ⟨p.data[0], p.data[1], p.data[2]⟩ else none

/-- A block of display memory in a reply of nine bytes that starts with the address asked. -/
def memoryReply (addr : UInt8) (p : Packet) : Option (List UInt8) :=
  if p.data.length = memoryBlock + 1 ∧ p.data.head? = some addr then some p.data.tail else none

def echoes (data : List UInt8) (p : Packet) : Option Unit :=
  if p.data = data then some () else none

theorem queries_readFlash : readFlash.Queries (Packet.command cmdReadFlash []) (sized flashLen) :=
  queries_sendExpect _ _ _

theorem queries_readKeypad : readKeypad.Queries (Packet.command cmdKeypad []) keypadReply := by
  refine queries_sendExpect_bind (fun p hs => ?_) fun p hs => by simp [keypadReply, hs]
  obtain ⟨a, b, c, habc⟩ := List.length_eq_three.1 hs
  exact ⟨.ok ⟨a, b, c⟩, by rw [habc]; rfl, by simp [Answered, keypadReply, habc]⟩

theorem queries_readMemory (addr : UInt8) :
    (readMemory addr).Queries (Packet.command cmdReadMemory [addr]) (memoryReply addr) := by
  refine queries_sendExpect_bind (fun p hs => ?_) fun p hs => by simp [memoryReply, hs]
  -- nine bytes have a first one, the address the device says it read
  obtain ⟨a, rest, hp⟩ := List.exists_cons_of_length_eq_add_one hs
  by_cases ha : a = addr
  · have hrest : rest.length = memoryBlock := by simpa [hp] using hs
    exact ⟨.ok rest, by rw [hp]; simp [ha]; rfl, by simp [Answered, memoryReply, hp, ha, hrest]⟩
  · refine ⟨_, by rw [hp]; simp only [if_neg ha]; rfl, ?_⟩
    simp [Answered, memoryReply, hp, ha]

theorem queries_ping {data : List UInt8} (h : data.length ≤ maxPingLen) :
    (ping data).Queries (Packet.command cmdPing data) (echoes data) := by
  unfold ping
  rw [if_neg (Nat.not_lt.2 h)]
  refine Queries.send_bind fun p => ?_
  by_cases he : p.data = data
  · exact ⟨.ok (), by simp [he]; rfl, by simp [Answered, echoes, he]⟩
  · exact ⟨_, by simp only [if_neg he]; rfl, by simp [Answered, echoes, he]⟩

theorem queries_version : version.Queries (Packet.command cmdVersion []) fun p => some (trimNul p.data) :=
  Queries.send_bind fun _ => ⟨_, rfl, rfl⟩

/-- Removing the trailing zero bytes of a reply leaves a text that does not end in zero and that
the reply continues with zeros only. -/
theorem trimNul_spec (bs : List UInt8) :
    ∃ k, bs = trimNul bs ++ List.replicate k 0 ∧ (trimNul bs).getLast? ≠ some 0 := by
  -- read from the end, the zeros are the longest run of them in front
  let zeros := bs.reverse.takeWhile (· = 0)
  have hzeros : zeros = List.replicate zeros.length 0 :=
    List.eq_replicate_iff.2 ⟨rfl, fun b hb => by simpa using List.all_eq_true.1 List.all_takeWhile b hb⟩
  refine ⟨zeros.length, ?_, ?_⟩
  · calc bs = (zeros ++ bs.reverse.dropWhile (· = 0)).reverse := by
          rw [List.takeWhile_append_dropWhile, List.reverse_reverse]
      _ = trimNul bs ++ zeros.reverse := by simp [trimNul]
      _ = trimNul bs ++ List.replicate zeros.length 0 := by
          rw [hzeros, List.reverse_replicate, List.length_replicate]
  · have hhead := List.head?_dropWhile_not (· = 0) bs.reverse
    rw [trimNul, List.getLast?_reverse]
    intro hlast
    simp [hlast] at hhead

/-- Every query of the display answers every reply the link gives, whatever its kind and size:
the user flash is read from a reply of exactly sixteen bytes, the keypad state from one of exactly
three, a memory block from one of nine that starts with the address asked, a ping succeeds on its
own echo, and the version is the reply without its trailing zero bytes; any other reply fails as a
response of the wrong shape, and a link failure comes back unchanged. A ping of more than sixteen
bytes is refused before anything is sent. -/
theorem queries_answer_every_reply :
    readFlash.Queries (Packet.command cmdReadFlash []) (sized flashLen) ∧
    readKeypad.Queries (Packet.command cmdKeypad []) keypadReply ∧
    (∀ addr, (readMemory addr).Queries (Packet.command cmdReadMemory [addr]) (memoryReply addr)) ∧
    (∀ data, if data.length ≤ maxPingLen then
        (ping data).Queries (Packet.command cmdPing data) (echoes data)
      else ∃ reason, ping data = .done (.error (.argument "ping data" data.length reason))) ∧
    version.Queries (Packet.command cmdVersion []) (fun p => some (trimNul p.data)) ∧
    ∀ bs, ∃ k, bs = trimNul bs ++ List.replicate k 0 ∧ (trimNul bs).getLast? ≠ some 0 := by
  refine ⟨queries_readFlash, queries_readKeypad, queries_readMemory, fun data => ?_,
    queries_version, trimNul_spec⟩
  by_cases h : data.length ≤ maxPingLen
  · rw [if_pos h]
    exact queries_ping h
  · rw [if_neg h]
    exact ⟨_, by rw [ping, if_pos (Nat.lt_of_not_le h)]; rfl⟩

end LcdPanel.Display
