import LcdPanel.Proofs.Link.Exchange
import LcdPanel.Proofs.Link.Program

/-!
A call returns a reply, a rejection or a bad response only for a packet of the matching kind that
claimed its command while it awaited its reply; when the packet's bytes arrived plays no part.
-/

namespace LcdPanel.Frame

open LcdPanel.Link

/-- What packet `p` answers a command with identifier `id` with: a response with that identifier
with itself, an error packet with that identifier with a rejection, and a command packet with a
bad-response error. -/
def Packet.Answers (p : Packet) (id : UInt8) : Except LinkError Packet → Prop
  | .ok r => p.kind = .response ∧ p.id = id ∧ r = p
  | .error e => (p.kind = .error ∧ p.id = id ∧ e = .rejected id) ∨
      (p.kind = .command ∧ e = .badResponse p.code "command packet from device")

end LcdPanel.Frame

namespace LcdPanel.Link

open LcdPanel.Frame

/-- Whether an error is the device's answer to a command: a rejection, or a reply of the wrong
kind. -/
def LinkError.fromDevice : LinkError → Bool
  | .rejected _ | .badResponse .. => true
  | _ => false

@[simp] theorem LinkError.connection_fromDevice (op port : String) (c : Cause) :
    (LinkError.connection op port c).fromDevice = false := rfl

@[simp] theorem PortError.during_fromDevice (e : PortError) (op port : String) :
    (e.during op port).fromDevice = false := by
  unfold PortError.during
  split <;> rfl

@[simp] theorem CtxEnd.error_fromDevice (x : CtxEnd) : x.error.fromDevice = false := by
  cases x <;> rfl

@[simp] theorem Expiry.error_fromDevice (x : Expiry) (id : UInt8) :
    (x.error id).fromDevice = false := by
  cases x <;> rfl

theorem Conn.answers_iff {p : Packet} {q : Pending} {r : Except LinkError Packet} :
    Conn.Answers p q r ↔ p.Answers q.id r := by
  unfold Conn.Answers Conn.replyOf
  cases hk : p.kind <;> cases r <;> simp [Packet.Answers, hk] <;> grind

/-- The device's answers an outcome returns: its reply, and its error when the device caused
it. -/
def Outcome.Answer (o : Outcome) : Except LinkError Packet → Prop
  | .ok p => o.reply = some p
  | .error e => o.error = some e ∧ e.fromDevice = true

@[simp] theorem Outcome.answer_failed {e : LinkError} {v : Except LinkError Packet} :
    (Outcome.failed e).Answer v ↔ v = .error e ∧ e.fromDevice = true := by
  cases v with
  | ok p => simp [Outcome.Answer, Outcome.failed]
  | error e' =>
    simp only [Outcome.Answer, Outcome.failed, Option.some.injEq, Except.error.injEq]
    constructor <;> rintro ⟨rfl, h⟩ <;> exact ⟨rfl, h⟩

def Phase.Answer : Phase → Except LinkError Packet → Prop
  | .exchanged _ r => (Outcome.ofReply r).Answer
  | .reconnecting reply _ | .reopening reply _ _ => (⟨reply, none⟩ : Outcome).Answer
  | .unlocking o | .sending _ _ o | .returning o => o.Answer
  | _ => fun _ => False

@[simp] theorem Outcome.not_answer_none (v : Except LinkError Packet) :
    ¬ (⟨none, none⟩ : Outcome).Answer v := by
  cases v <;> simp [Outcome.Answer]

theorem Outcome.eq_of_answer_ofReply {r v : Except LinkError Packet}
    (h : (Outcome.ofReply r).Answer v) : v = r := by
  cases r with
  | ok p =>
    cases v with
    | ok q => exact congrArg Except.ok (Option.some.inj h).symm
    | error e => cases h.1
  | error e => exact (Outcome.answer_failed.1 h).1

theorem Outcome.not_answer_closeOutcome (port : String) (closed : Except PortError Unit)
    (v : Except LinkError Packet) : ¬ (Outcome.ofResult (Conn.closeOutcome port closed)).Answer v := by
  cases closed with
  | ok u => cases v <;> simp [Outcome.ofResult, Conn.closeOutcome, Outcome.Answer]
  | error pe => simp [Outcome.ofResult, Conn.closeOutcome]

namespace Conn

variable {c : Conn} {e : LinkError}

theorem checkSend_fromDevice {cmd : Packet} (h : c.checkSend cmd = .error e) :
    e.fromDevice = false := by
  unfold checkSend at h
  split at h
  · cases h; rfl
  · rw [checkUp_error h]; rfl

theorem checkReconnectRate_fromDevice {baud : Int} (h : c.checkReconnectRate baud = .error e) :
    e.fromDevice = false := by
  unfold checkReconnectRate at h
  split at h
  · cases h
  · cases h; rfl

theorem beginConnect_fromDevice {port : String} {baud : Int}
    (h : c.beginConnect port baud = .error e) : e.fromDevice = false := by
  unfold beginConnect at h
  split at h
  · cases h; rfl
  · split at h
    · cases h; rfl
    · cases h

end Conn

/-- A call begins carrying no answer of the device. -/
theorem Machine.begin_no_answer (conn : Conn) (c : Call) (v : Except LinkError Packet) :
    ¬ (Machine.begin conn c).2.Answer v := by
  have hfail : ∀ e : LinkError, e.fromDevice = false → ¬ (Phase.returning (.failed e)).Answer v := by
    intro e he hv
    simp [Phase.Answer, he] at hv
  cases c with
  | send cmd timeout =>
    simp only [Machine.begin]
    split
    · rename_i e he; exact hfail e (Conn.checkSend_fromDevice he)
    · simp [Phase.Answer]
  | sendAtRate cmd baud =>
    simp only [Machine.begin]
    split
    · rename_i e he; exact hfail e (Conn.checkReconnectRate_fromDevice he)
    · rename_i e _ he; exact hfail e (Conn.checkSend_fromDevice he)
    · simp [Phase.Answer]
  | reconnect baud =>
    simp only [Machine.begin]
    split
    · rename_i e he; exact hfail e (Conn.checkReconnectRate_fromDevice he)
    · simp [Phase.Answer]
  | disconnect => simp [Machine.begin, Phase.Answer]
  | connect port baud =>
    simp only [Machine.begin]
    split
    · rename_i e he; exact hfail e (Conn.beginConnect_fromDevice he)
    · simp [Phase.Answer]

namespace Machine.Flow

variable {i : Nat} {p p' : Phase} {e : Event}

/-- A caller's move other than a start carries on the device's answers it had, and comes to carry
a new one only by taking its exchange's result. -/
theorem answer_of (h : Flow i p p' e) (he : ∀ c, e ≠ .start i c) {v : Except LinkError Packet}
    (hv : p'.Answer v) : p.Answer v ∨ ∃ t, e = .take i t v ∧ (Outcome.ofReply v).Answer v := by
  cases h with
  | start c _ _ => exact absurd rfl (he c)
  | takeAwaited req t r | takeReceived req t r =>
    obtain rfl := Outcome.eq_of_answer_ofReply hv
    exact .inr ⟨t, rfl, hv⟩
  | answer _ _ _ | acked _ _ _ _ | unacked _ _ _ _ | reconnect _ _ _ | reopened _ _ _
  | unlock _ | send _ _ _ => exact .inl hv
  | refused reply baud port | reopenFailed reply port baud _ =>
    cases v with
    | ok q => exact .inl hv
    | error err =>
      obtain ⟨h, hd⟩ := hv
      obtain rfl := Option.some.inj h
      simp at hd
  | fail closed q port | failNone closed port =>
    exact absurd hv (Outcome.not_answer_closeOutcome port closed v)
  | _ => simp [Phase.Answer, Outcome.ofReply, Conn.closedDuringConnect] at hv

theorem to_sending (h : Flow i p p' e) {t : Nat} {r : Except LinkError Packet} {o : Outcome}
    (hp' : p' = .sending t r o) : ∃ err, r = .error err ∧ err.fromDevice = false := by
  cases h with
  | start c q hq => subst hp'; simp [Phase.role] at hq
  | fail closed q port =>
    obtain ⟨-, rfl, -⟩ := Phase.sending.inj hp'
    exact ⟨_, rfl, rfl⟩
  | _ => cases hp'

end Machine.Flow

namespace Machine.ReaderFlow

variable {x y : Reader} {e : Event}

/-- The reader comes to hold a result by a dispatch that claims a command it answers, or by
failing the awaited command. -/
theorem to_sending (h : ReaderFlow x y e) {t : Nat} {r : Except LinkError Packet}
    {ps : List Packet} (hy : y = .sending t r ps) :
    (∃ p q, e = .dispatch p (some q) [] ∧ q.ticket = t ∧ Conn.Answers p q r) ∨
      ∃ err, r = .error err ∧ x = .failing err := by
  cases h with
  | claim p ps' q r' hr =>
    obtain ⟨rfl, rfl, -⟩ := Reader.sending.inj hy
    exact .inl ⟨p, q, rfl, rfl, hr⟩
  | fail err q =>
    obtain ⟨-, rfl, -⟩ := Reader.sending.inj hy
    exact .inr ⟨err, rfl, rfl⟩
  | receive _ ps' | pass _ ps' _ | send _ _ ps' => cases ps' <;> cases hy
  | readFail _ _ | failNone _ => cases hy

theorem to_failing (h : ReaderFlow x y e) {err : LinkError} (hy : y = .failing err) :
    err.fromDevice = false := by
  cases h with
  | readFail port text => cases hy; exact PortError.during_fromDevice ..
  | receive _ ps' | pass _ ps' _ | send _ _ ps' => cases ps' <;> cases hy
  | claim _ _ _ _ _ | fail _ _ | failNone _ => cases hy

end Machine.ReaderFlow

/-- In events `tr`, caller `j` registered the command `q`, and packet `p` was dispatched after,
claiming it. -/
def Claimed (tr : List Event) (j : Nat) (q : Pending) (p : Packet) : Prop :=
  ∃ a b, tr = a ++ .register j q.ticket q.id :: b ∧ .dispatch p (some q) [] ∈ b

/-- In events `tr`, the call caller `i` runs registered a command with identifier `id`, and packet
`p` was dispatched after, claiming that command. -/
def DispatchedTo (tr : List Event) (i : Nat) (id : UInt8) (p : Packet) : Prop :=
  ∃ t a b, tr = a ++ .register i t id :: b ∧ (∀ c, .start i c ∉ b) ∧
    .dispatch p (some ⟨id, t⟩) [] ∈ b

theorem Claimed.snoc {tr : List Event} {j : Nat} {q : Pending} {p : Packet}
    (h : Claimed tr j q p) (e : Event) : Claimed (tr ++ [e]) j q p := by
  obtain ⟨a, b, rfl, hd⟩ := h
  exact ⟨a, b ++ [e], by simp, by simp [hd]⟩

theorem DispatchedTo.snoc {tr : List Event} {i : Nat} {id : UInt8} {p : Packet}
    (h : DispatchedTo tr i id p) {e : Event} (he : ∀ c, e ≠ .start i c) :
    DispatchedTo (tr ++ [e]) i id p := by
  obtain ⟨t, a, b, rfl, hns, hd⟩ := h
  refine ⟨t, a, b ++ [e], by simp, fun c hc => ?_, by simp [hd]⟩
  rcases List.mem_append.1 hc with hc | hc
  · exact hns c hc
  · exact he c (List.mem_singleton.1 hc).symm

theorem Event.lastCall_append_of_forall {i : Nat} (a : List Event) {b : List Event}
    (hb : ∀ e ∈ b, ∀ c, e ≠ .start i c) : Event.lastCall i (a ++ b) = Event.lastCall i a := by
  unfold Event.lastCall
  rw [List.foldl_append]
  generalize List.foldl (Event.callAfter i) none a = c
  induction b generalizing c with
  | nil => rfl
  | cons x b ih =>
    rw [List.foldl_cons, Event.callAfter_of_ne (hb x (by simp)), ih fun y hy => hb y (by simp [hy])]

namespace Run

variable {m₀ : Machine}

theorem registers_issued {tr : List Event} {m : Machine} (h : Run m₀ tr m) {i t : Nat}
    {id : UInt8} (hr : .register i t id ∈ tr) : t ≤ m.conn.tickets := by
  induction h with
  | nil => simp at hr
  | step a _ hstep ih =>
    have spec := Machine.step_spec hstep
    rcases List.mem_append.1 hr with hr | hr
    · exact Nat.le_trans (ih hr) spec.handoff.tickets_le
    · obtain rfl := List.mem_singleton.1 hr
      obtain ⟨req, -, -, rfl, hc, -⟩ := spec.shows
      simp [hc, Conn.enroll]

/-- A registration's ticket is new: no earlier registration has it. -/
theorem register_fresh {a b : List Event} {i t : Nat} {id : UInt8} {m : Machine}
    (h : Run m₀ (a ++ .register i t id :: b) m) (j : Nat) (id' : UInt8) :
    .register j t id' ∉ a := by
  intro hj
  obtain ⟨m₁, m₂, h₁, spec, -⟩ := h.split_event
  obtain ⟨req, -, -, ht, -⟩ := spec.shows
  have := registers_issued h₁ hj
  omega

/-- A ticket is registered once in a run. -/
theorem register_unique {tr : List Event} {m : Machine} (h : Run m₀ tr m) {a b a' b' : List Event}
    {i i' t : Nat} {id id' : UInt8} (h₁ : tr = a ++ .register i t id :: b)
    (h₂ : tr = a' ++ .register i' t id' :: b') : a = a' ∧ i = i' ∧ id = id' ∧ b = b' := by
  have hn₁ := register_fresh (h₁ ▸ h) i' id'
  have hn₂ := register_fresh (h₂ ▸ h) i id
  rcases List.append_eq_append_iff.1 (h₁.symm.trans h₂) with ⟨c, rfl, hc⟩ | ⟨c, rfl, hc⟩
  · cases c with
    | nil =>
      simp only [List.nil_append, List.cons.injEq, Event.register.injEq] at hc
      obtain ⟨⟨rfl, -, rfl⟩, rfl⟩ := hc
      exact ⟨by simp, rfl, rfl, rfl⟩
    | cons x c =>
      obtain ⟨rfl, -⟩ := List.cons.inj hc
      exact absurd (by simp) hn₂
  · cases c with
    | nil =>
      simp only [List.nil_append, List.cons.injEq, Event.register.injEq] at hc
      obtain ⟨⟨rfl, -, rfl⟩, rfl⟩ := hc
      exact ⟨by simp, rfl, rfl, rfl⟩
    | cons x c =>
      obtain ⟨rfl, -⟩ := List.cons.inj hc
      exact absurd (by simp) hn₁

end Run

namespace Machine.Flow

variable {i : Nat} {p p' : Phase} {e : Event} {req : Query} {t : Nat}

/-- Only a registration gives a caller a ticket; the caller keeps it, starting no call, until it
takes its result or gives it up. -/
theorem keeps_ticket (h : Flow i p p' e)
    (hp' : p'.role = .registered req t ∨ p'.role = .receiving req t) :
    ((p.role = .registered req t ∨ p.role = .receiving req t) ∧ ∀ c, e ≠ .start i c) ∨
      e = .register i t req.cmd.id := by
  cases h with
  | start c q hq => rcases hp' with hp' | hp' <;> simp [hq] at hp'
  | register req' t' frame =>
    simp only [Phase.role, Role.registered.injEq, reduceCtorEq, or_false] at hp'
    obtain ⟨rfl, rfl⟩ := hp'
    exact .inr rfl
  | _ => simp_all [Phase.role]

end Machine.Flow

namespace Run

variable {c : Conn} {tr : List Event} {m : Machine}

/-- A caller holding a ticket registered it in the call it runs. -/
theorem registered_in_call (h : Run (Machine.init c) tr m) {i : Nat} {req : Query} {t : Nat}
    (hi : (m.callers i).phase.role = .registered req t ∨ (m.callers i).phase.role = .receiving req t) :
    ∃ a b, tr = a ++ .register i t req.cmd.id :: b ∧ ∀ c, .start i c ∉ b := by
  obtain ⟨a, b, htr, hb⟩ := Run.since (i := i)
    (S := fun p => p.role = .registered req t ∨ p.role = .receiving req t)
    (Q := fun e => ∀ c, e ≠ .start i c)
    (by simp [Machine.init, Phase.role])
    (fun {_ _ _ e} _ spec hs => by
      by_cases ha : e.actor = some i
      · exact (spec.flow i ha).keeps_ticket hs
      · rw [spec.frame i ha] at hs
        exact .inl ⟨hs, fun c hc => ha (by rw [hc]; rfl)⟩)
    h hi
  exact ⟨a, b, htr, fun c hc => hb _ hc c rfl⟩

theorem slot_registered (hc : c.pending = none) (h : Run (Machine.init c) tr m) {q : Pending}
    (hq : m.conn.pending = some q) : ∃ j a b, tr = a ++ .register j q.ticket q.id :: b := by
  obtain ⟨-, j, req, hj, hid⟩ := (h.inv hc).pending q hq
  obtain ⟨a, b, htr, -⟩ := registered_in_call h (i := j) (.inl hj)
  exact ⟨j, a, b, hid ▸ htr⟩

theorem register_command (h : Run (Machine.init c) tr m) {a b : List Event} {i t : Nat}
    {id : UInt8} (htr : tr = a ++ .register i t id :: b) :
    ∃ call cmd, Event.lastCall i a = some call ∧ call.command = some cmd ∧ id = cmd.id := by
  subst htr
  obtain ⟨m₁, m₂, h₁, spec, -⟩ := h.split_event
  obtain ⟨req, hreg, rfl, -⟩ := spec.shows
  obtain ⟨call, hcall, hruns⟩ := h₁.callsKept.runs (i := i) (by simp [hreg])
  rw [hreg] at hruns
  exact ⟨call, req.cmd, hcall, Call.Makes.command hruns, rfl⟩

end Run

/-- Where the results a machine holds come from, given the events that led to it. -/
structure Sourced (tr : List Event) (m : Machine) : Prop where
  readFailure : ∀ e, m.reader = .failing e → e.fromDevice = false
  carried : ∀ k t r, m.handoff.carries k t r → (∃ e, r = .error e ∧ e.fromDevice = false) ∨
    ∃ j q p, q.ticket = t ∧ Claimed tr j q p ∧ p.Answers q.id r
  answers : ∀ i v, (m.callers i).phase.Answer v → ∃ id p, DispatchedTo tr i id p ∧ p.Answers id v

namespace Sourced

variable {c : Conn} {tr : List Event} {m m' : Machine} {e : Event}

theorem carried_step (hc : c.pending = none) (hrun : Run (Machine.init c) tr m) (hs : Sourced tr m)
    (spec : Machine.StepSpec m m' e) {k : Holder} {t : Nat} {r : Except LinkError Packet}
    (hk : m'.handoff.carries k t r) : (∃ err, r = .error err ∧ err.fromDevice = false) ∨
      ∃ j q p, q.ticket = t ∧ Claimed (tr ++ [e]) j q p ∧ p.Answers q.id r := by
  have old : ∀ k, m.handoff.carries k t r → (∃ err, r = .error err ∧ err.fromDevice = false) ∨
      ∃ j q p, q.ticket = t ∧ Claimed (tr ++ [e]) j q p ∧ p.Answers q.id r := fun k hk =>
    (hs.carried k t r hk).imp_right fun ⟨j, q, p, hq, hcl, ha⟩ => ⟨j, q, p, hq, hcl.snoc e, ha⟩
  rcases spec.handoff.carries_of hk with hold | ⟨hk', -⟩ | ⟨-, k', -, hold⟩
  · exact old k hold
  · -- a result taken from the slot in this step
    cases k with
    | mailbox => exact absurd rfl hk'
    | reader =>
      obtain ⟨ps, hy⟩ := Machine.carries_iff.1 hk
      rcases spec.reads with ⟨-, hf⟩ | ⟨-, hx⟩
      · rcases hf.to_sending hy with ⟨p, q, rfl, rfl, ha⟩ | ⟨err, rfl, hx⟩
        · obtain ⟨_, _, hq⟩ := spec.shows
          obtain ⟨j, a, b, htr⟩ := Run.slot_registered hc hrun (hq q rfl).1
          exact .inr ⟨j, q, p, rfl, ⟨a, b ++ [.dispatch p (some q) []], by simp [htr], by simp⟩,
            Conn.answers_iff.1 ha⟩
        · exact .inl ⟨err, rfl, hs.readFailure err hx⟩
      · exact old .reader (Machine.carries_iff.2 ⟨ps, hx ▸ hy⟩)
    | caller j =>
      obtain ⟨o, hj⟩ := Machine.carries_iff.1 hk
      by_cases ha : e.actor = some j
      · exact .inl ((spec.flow j ha).to_sending hj)
      · exact old (.caller j) (Machine.carries_iff.2 ⟨o, spec.frame j ha ▸ hj⟩)
  · exact old k' hold

/-- The result an exchange takes from its channel, when it is an answer of the device, was given
by a packet dispatched to the command the exchange's call registered. -/
theorem take_dispatched (hrun : Run (Machine.init c) tr m) (hs : Sourced tr m) {i t : Nat}
    {req : Query} (hph : (m.callers i).phase = .awaiting req t ∨ (m.callers i).phase = .receiving req t)
    {v : Except LinkError Packet} (hmail : m.mailbox t = some v) (hans : (Outcome.ofReply v).Answer v) :
    ∃ id p, DispatchedTo tr i id p ∧ p.Answers id v := by
  have hrole : (m.callers i).phase.role = .registered req t ∨
      (m.callers i).phase.role = .receiving req t := by
    rcases hph with hph | hph <;> simp [hph, Phase.role]
  obtain ⟨a, b, htr, hns⟩ := Run.registered_in_call hrun hrole
  rcases hs.carried .mailbox t v (Machine.carries_iff.2 hmail) with
    ⟨err, rfl, herr⟩ | ⟨j, ⟨qid, qt⟩, p, rfl, ⟨a', b', htr', hdisp⟩, hp⟩
  · simp [Outcome.Answer, Outcome.ofReply, Outcome.failed, herr] at hans
  · -- the ticket was registered once: by this caller, in its call
    obtain ⟨rfl, rfl, rfl, rfl⟩ := Run.register_unique hrun htr' htr
    exact ⟨_, p, ⟨qt, a', b', htr', hns, hdisp⟩, hp⟩

theorem answers_step (hrun : Run (Machine.init c) tr m) (hs : Sourced tr m)
    (spec : Machine.StepSpec m m' e) {i : Nat} {v : Except LinkError Packet}
    (hv : (m'.callers i).phase.Answer v) : ∃ id p, DispatchedTo (tr ++ [e]) i id p ∧ p.Answers id v := by
  by_cases hst : ∃ c, e = .start i c
  · obtain ⟨c', rfl⟩ := hst
    obtain ⟨-, hc', -⟩ := spec.shows
    rw [hc'] at hv
    exact absurd hv (Machine.begin_no_answer _ _ _)
  simp only [not_exists] at hst
  by_cases ha : e.actor = some i
  · rcases (spec.flow i ha).answer_of hst hv with hold | ⟨t, rfl, hans⟩
    · obtain ⟨id, p, hd, hp⟩ := hs.answers i v hold
      exact ⟨id, p, hd.snoc hst, hp⟩
    · obtain ⟨req, hph, hmail, -⟩ := spec.shows
      obtain ⟨id, p, hd, hp⟩ := hs.take_dispatched hrun hph hmail hans
      exact ⟨id, p, hd.snoc hst, hp⟩
  · rw [spec.frame i ha] at hv
    obtain ⟨id, p, hd, hp⟩ := hs.answers i v hv
    exact ⟨id, p, hd.snoc fun c hc => ha (by rw [hc]; rfl), hp⟩

theorem step (hc : c.pending = none) (hrun : Run (Machine.init c) tr m) (hs : Sourced tr m)
    (spec : Machine.StepSpec m m' e) : Sourced (tr ++ [e]) m' where
  readFailure err herr := by
    rcases spec.reads with ⟨-, hf⟩ | ⟨-, hx⟩
    · exact hf.to_failing herr
    · exact hs.readFailure err (hx ▸ herr)
  carried _ _ _ hk := carried_step hc hrun hs spec hk
  answers _ _ hv := answers_step hrun hs spec hv

end Sourced

theorem Run.sourced {c : Conn} (hc : c.pending = none) {tr : List Event} {m : Machine}
    (h : Run (Machine.init c) tr m) : Sourced tr m := by
  induction h with
  | nil =>
    refine ⟨fun e he => (by cases he), fun k t r hk => ?_, fun i v hv => (by cases hv)⟩
    cases k <;> simp [Machine.init, Machine.handoff, Handoff.carries, Reader.gives, Phase.role] at hk
  | step a hrun hstep ih => exact ih.step hc hrun (Machine.step_spec hstep)

namespace Run

variable {c : Conn} {tr : List Event} {m : Machine}

/-- An answer of the device that a call returns comes from a packet that answers the call's command
with it, dispatched after the call registered that command. -/
theorem finish_answer (hc : c.pending = none) (h : Run (Machine.init c) tr m)
    {pre post : List Event} {i : Nat} {o : Outcome} (htr : tr = pre ++ .finish i o :: post)
    {v : Except LinkError Packet} (hv : o.Answer v) :
    ∃ call cmd p, Event.lastCall i pre = some call ∧ call.command = some cmd ∧
      DispatchedTo pre i cmd.id p ∧ p.Answers cmd.id v := by
  subst htr
  obtain ⟨m₁, m₂, h₁, spec, -⟩ := h.split_event
  obtain ⟨hret, -⟩ := spec.shows
  obtain ⟨id, p, ⟨t, a', b, rfl, hns, hd⟩, hp⟩ :=
    (Run.sourced hc h₁).answers i v (by rw [hret]; exact hv)
  obtain ⟨call, cmd, hcall, hcmd, rfl⟩ := Run.register_command h₁ rfl
  refine ⟨call, cmd, p, ?_, hcmd, ⟨t, a', b, rfl, hns, hd⟩, hp⟩
  -- the call the caller runs is the one that registered: it started none since
  rw [Event.lastCall_append_of_forall a' fun x hx c' => ?_, hcall]
  rcases List.mem_cons.1 hx with rfl | hx
  · exact fun h => by cases h
  · exact fun h => hns c' (h ▸ hx)

/-- A packet is dispatched to a command only while that command awaits its reply. -/
theorem dispatch_claims_awaited (h : Run (Machine.init c) tr m) {pre post : List Event}
    {p : Packet} {q : Pending} {ds : List Delivery}
    (htr : tr = pre ++ .dispatch p (some q) ds :: post) :
    ∃ m₁, Run (Machine.init c) pre m₁ ∧ m₁.conn.pending = some q := by
  subst htr
  obtain ⟨m₁, m₂, h₁, spec, -⟩ := h.split_event
  obtain ⟨ps, -, hq⟩ := spec.shows
  exact ⟨m₁, h₁, (hq q rfl).1⟩

end Run

/-- A packet that answers no awaited command claims nothing: the reader passes it on and leaves the
slot and the result channels as they are. -/
theorem Machine.read_drops {m : Machine} {p : Packet} {ps : List Packet}
    (hr : m.reader = .dispatching p ps)
    (hq : ∀ q, m.conn.pending = some q → p.kind ≠ .command ∧ p.id ≠ q.id) :
    ∃ m' ds, m.step .read = some (m', .dispatch p none ds) ∧
      m'.conn.pending = m.conn.pending ∧ m'.mailbox = m.mailbox := by
  have hclaim : ∀ accepts r, Conn.replyOf p = some (accepts, r) →
      m.conn.claim accepts = (m.conn, none) := by
    intro accepts r hp
    unfold Conn.claim
    cases hpend : m.conn.pending with
    | none => rfl
    | some q =>
      obtain ⟨hk, hid⟩ := hq q hpend
      have hrej : accepts q = false := by
        unfold Conn.replyOf at hp
        cases hkind : p.kind with
        | command => exact absurd hkind hk
        | report => simp [hkind] at hp
        | response | error =>
          simp only [hkind, Option.some.injEq, Prod.mk.injEq] at hp
          obtain ⟨rfl, -⟩ := hp
          simpa using Ne.symm hid
      simp [hrej]
  simp only [Machine.step, Machine.read, hr]
  split
  · rename_i accepts r hp
    rw [hclaim accepts r hp]
    exact ⟨_, [], rfl, rfl, rfl⟩
  · exact ⟨_, _, rfl, rfl, rfl⟩

/-- What the calls on a shared connection return from the device, along a run from `c` that shows
events `tr` and ends in `m`. -/
structure RepliesCorrelated (c : Conn) (tr : List Event) (m : Machine) : Prop where
  /-- A call returns a reply only if it is a response with the identifier of the call's command,
  dispatched to that command after the call registered it. -/
  reply : ∀ pre post i o p, tr = pre ++ .finish i o :: post → o.reply = some p →
    ∃ call cmd, Event.lastCall i pre = some call ∧ call.command = some cmd ∧
      p.kind = .response ∧ p.id = cmd.id ∧ DispatchedTo pre i cmd.id p
  /-- A call fails with a rejection only for an error packet with the identifier of its command,
  dispatched to that command after the call registered it. -/
  rejected : ∀ pre post i o id, tr = pre ++ .finish i o :: post → o.error = some (.rejected id) →
    ∃ call cmd p, Event.lastCall i pre = some call ∧ call.command = some cmd ∧ id = cmd.id ∧
      p.kind = .error ∧ p.id = cmd.id ∧ DispatchedTo pre i cmd.id p
  /-- A call fails with a bad response only for a command packet, dispatched to its command after
  the call registered it. -/
  badResponse : ∀ pre post i o code reason, tr = pre ++ .finish i o :: post →
    o.error = some (.badResponse code reason) →
    ∃ call cmd p, Event.lastCall i pre = some call ∧ call.command = some cmd ∧
      p.kind = .command ∧ code = p.code ∧ reason = "command packet from device" ∧
      DispatchedTo pre i cmd.id p
  /-- A packet is dispatched to a command only while that command awaits its reply. -/
  claimsAwaited : ∀ pre post p q ds, tr = pre ++ .dispatch p (some q) ds :: post →
    ∃ m₁, Run (Machine.init c) pre m₁ ∧ m₁.conn.pending = some q
  /-- A response or an error packet whose identifier is not the awaited command's, and any packet
  while no command is awaited, claims nothing. -/
  dropped : ∀ p ps, m.reader = .dispatching p ps →
    (∀ q, m.conn.pending = some q → p.kind ≠ .command ∧ p.id ≠ q.id) →
    ∃ m' ds, m.step .read = some (m', .dispatch p none ds) ∧
      m'.conn.pending = m.conn.pending ∧ m'.mailbox = m.mailbox

/-- Along every run of a connection with no command in flight, whatever the callers, the reader,
the timers and the contexts do, a call gets from the device only what a packet dispatched to its
own command answered. -/
theorem Run.replies_correlated {c : Conn} (hc : c.pending = none) {tr : List Event} {m : Machine}
    (h : Run (Machine.init c) tr m) : RepliesCorrelated c tr m where
  reply pre post i o p htr hp := by
    obtain ⟨call, cmd, p', hcall, hcmd, hd, hkind, hid, rfl⟩ :=
      h.finish_answer hc htr (v := .ok p) hp
    exact ⟨call, cmd, hcall, hcmd, hkind, hid, hd⟩
  rejected pre post i o id htr he := by
    obtain ⟨call, cmd, p, hcall, hcmd, hd, ⟨hkind, hid, hrej⟩ | ⟨-, hbad⟩⟩ :=
      h.finish_answer hc htr (v := .error (.rejected id)) ⟨he, rfl⟩
    · exact ⟨call, cmd, p, hcall, hcmd, LinkError.rejected.inj hrej, hkind, hid, hd⟩
    · cases hbad
  badResponse pre post i o code reason htr he := by
    obtain ⟨call, cmd, p, hcall, hcmd, hd, ⟨-, -, hrej⟩ | ⟨hkind, hbad⟩⟩ :=
      h.finish_answer hc htr (v := .error (.badResponse code reason)) ⟨he, rfl⟩
    · cases hrej
    · obtain ⟨rfl, rfl⟩ := LinkError.badResponse.inj hbad
      exact ⟨call, cmd, p, hcall, hcmd, hkind, rfl, rfl, hd⟩
  claimsAwaited pre post p q ds htr := h.dispatch_claims_awaited htr
  dropped p ps hr hq := Machine.read_drops hr hq

/-- A command times out and its reply comes late, whole in one chunk; the caller sends the next
command with the same identifier, and the reader dispatches the reply after that command
registered. -/
def staleReply : List Act :=
  [.start 0 (.send ⟨0x05, []⟩ none), .step 0, .step 0, .step 0, .answer 0 (.ok ()), .timer 0,
    .step 0, .step 0, .step 0, .step 0, .receive (Codec.standard.encode ⟨0x45, []⟩),
    .start 0 (.send ⟨0x05, []⟩ none), .step 0, .step 0, .step 0, .answer 0 (.ok ()), .read, .read,
    .step 0, .step 0, .step 0, .step 0]

theorem stale_reply_correlated : ({ state := .connected } : Conn).pending = none ∧
    ∃ tr m, (Machine.init { state := .connected }).replay staleReply = some (m, tr) ∧
      RepliesCorrelated { state := .connected } tr m := by
  obtain ⟨⟨m, tr⟩, hr⟩ := Option.isSome_iff_exists.1
    (show ((Machine.init { state := .connected }).replay staleReply).isSome = true by
      decide +kernel)
  exact ⟨rfl, tr, m, hr, Run.replies_correlated rfl (Machine.replay_run hr)⟩

/-- The late reply to a command that timed out, received whole before the next command with the
same identifier registers, is returned as that command's reply: the only chunk that carried it was
read before the registration. -/
theorem stale_reply_answers_next_command :
    ∃ tr m, (Machine.init { state := .connected }).replay staleReply = some (m, tr) ∧
      ∃ a b d, tr = a ++ .receive (Codec.standard.encode ⟨0x45, []⟩) [⟨0x45, []⟩] :: b ++
          .register 0 2 0x05 :: d ∧
        (∀ chunk ps, .receive chunk ps ∉ b ++ d) ∧ .finish 0 ⟨some ⟨0x45, []⟩, none⟩ ∈ d := by
  have hev : ((Machine.init { state := .connected }).replay staleReply).map Prod.snd = some
      ([.start 0 (.send ⟨0x05, []⟩ none), .lock 0, .other (some 0), .register 0 1 0x05,
          .port 0 (.write (Codec.standard.encode ⟨0x05, []⟩)) (.ok ()), .other (some 0),
          .unregister 0 1 true, .exchanged 0 (.error (.timeout 0x05 defaultTimeout)), .unlock 0,
          .finish 0 (.failed (.timeout 0x05 defaultTimeout))] ++
        .receive (Codec.standard.encode ⟨0x45, []⟩) [⟨0x45, []⟩] ::
        [.start 0 (.send ⟨0x05, []⟩ none), .lock 0, .other (some 0)] ++
        .register 0 2 0x05 ::
        [.port 0 (.write (Codec.standard.encode ⟨0x05, []⟩)) (.ok ()),
          .dispatch ⟨0x45, []⟩ (some ⟨0x05, 2⟩) [], .send none 2 (.ok ⟨0x45, []⟩),
          .take 0 2 (.ok ⟨0x45, []⟩), .exchanged 0 (.ok ⟨0x45, []⟩), .unlock 0,
          .finish 0 ⟨some ⟨0x45, []⟩, none⟩]) := by
    decide +kernel
  obtain ⟨⟨m, tr⟩, hr, htr⟩ := Option.map_eq_some_iff.1 hev
  exact ⟨tr, m, hr, _, _, _, htr, by simp, by simp⟩

end LcdPanel.Link
