import LcdPanel.Proofs.Link.Handoff

namespace LcdPanel.Link

open LcdPanel.Frame

def Conn.Keeps (c c' : Conn) : Prop :=
  c'.pending = c.pending ∧ c'.tickets = c.tickets ∧ c'.codec = c.codec

namespace Conn

theorem settleConnect_keeps (c : Conn) (g : Nat) : c.Keeps (c.settleConnect g).1 := by
  unfold settleConnect
  split
  · exact ⟨rfl, rfl, rfl⟩
  · split <;> exact ⟨rfl, rfl, rfl⟩

theorem openFailed_keeps (c : Conn) (g : Nat) (port : String) (e : PortError) :
    c.Keeps (c.openFailed g port e).1 := by
  unfold openFailed
  split <;> exact ⟨rfl, rfl, rfl⟩

theorem beginConnect_keeps {c c' : Conn} {port : String} {baud : Int} {g : Nat}
    (h : c.beginConnect port baud = .ok (c', g)) : c.Keeps c' := by
  unfold beginConnect at h
  split at h
  · cases h
  · split at h
    · cases h
    · cases h; exact ⟨rfl, rfl, rfl⟩

theorem beginReconnect_keeps {c c' : Conn} (h : c.beginReconnect = .ok c') : c.Keeps c' := by
  unfold beginReconnect at h
  split at h
  · cases h
  · cases h; exact ⟨rfl, rfl, rfl⟩

theorem checkUp_error {c : Conn} {e : LinkError} (h : c.checkUp = .error e) :
    e = .connection "send" c.port .notConnected := by
  unfold checkUp at h
  split at h
  · cases h; rfl
  · cases h

theorem beginReconnect_error {c : Conn} {e : LinkError} (h : c.beginReconnect = .error e) :
    e = .connection "reconnect" c.port .notConnected := by
  unfold beginReconnect at h
  split at h
  · cases h; rfl
  · cases h

def Answers (p : Packet) (q : Pending) (r : Except LinkError Packet) : Prop :=
  ∃ accepts, replyOf p = some (accepts, r) ∧ accepts q = true

end Conn

def Event.byReader : Event → Bool
  | .receive .. | .dispatch .. | .claim none _ | .send none .. | .other none => true
  | _ => false

theorem Event.byReader_of_actor {e : Event} {i : Nat} (he : e.actor = some i) :
    e.byReader = false := by
  cases e <;> simp_all [Event.actor, Event.byReader]

namespace Machine

/-- What an event tells about the step that showed it. -/
def Shows (m m' : Machine) : Event → Prop
  | .start i c => (m.callers i).phase = .idle ∧
      m'.callers i = { call := some c, phase := (begin m.conn c).2 } ∧ m'.conn = (begin m.conn c).1
  | .lock i => m.turn = none ∧ m'.turn = some i ∧
      ∃ turn, (m.callers i).phase = .locking turn ∧ (m'.callers i).phase = turn.held
  | .register i t id => ∃ req, (m.callers i).phase = .registering req ∧ id = req.cmd.id ∧
      t = m.conn.tickets + 1 ∧ m'.conn = (m.conn.enroll req.cmd).1 ∧
      (m'.callers i).phase = .writing req t (m.conn.codec.encode req.cmd)
  | .port i (.write frame) r => ∃ req t, (m.callers i).phase = .writing req t frame ∧
      (m'.callers i).phase = match r with
        | .ok () => .awaiting req t
        | .error e => .unregistering req t (.writeFailed e)
  | .port i (.reopen baud) _ => ∃ reply port, (m.callers i).phase = .reopening reply port baud ∧
      ∃ o, (m'.callers i).phase = .unlocking o
  | .port i (.openPort port baud) _ => ∃ g, (m.callers i).phase = .opening g port baud
  | .port i .close _ =>
      (m.callers i).phase = .closing ∨ ∃ port, (m.callers i).phase = .abandoning port
  | .unregister i t removed => ∃ req why, (m.callers i).phase = .unregistering req t why ∧
      (removed = true ↔ m.handoff.Awaits t) ∧ (removed = true → m'.conn.pending = none) ∧
      m'.mailbox = m.mailbox ∧ m'.reader = m.reader ∧
      (m'.callers i).phase = afterUnregister req t why m.conn.port removed
  | .take i t r => ∃ req,
      ((m.callers i).phase = .awaiting req t ∨ (m.callers i).phase = .receiving req t) ∧
      m.mailbox t = some r ∧ (m'.callers i).phase = .exchanged req r
  | .exchanged i r => ∃ req, (m.callers i).phase = .exchanged req r ∧
      (m'.callers i).phase = afterExchange req r
  | .unlock i => m'.turn = none ∧
      ∃ o, (m.callers i).phase = .unlocking o ∧ (m'.callers i).phase = .returning o
  | .finish i o => (m.callers i).phase = .returning o ∧ (m'.callers i).phase = .idle
  | .dispatch p claimed _ => ∃ ps, m.reader = .dispatching p ps ∧
      ∀ q, claimed = some q → m.conn.pending = some q ∧
        ∃ accepts r, Conn.replyOf p = some (accepts, r) ∧ accepts q = true ∧
          m'.reader = .sending q.ticket r ps
  | .send who t r => m.mailbox t = none ∧ m'.mailbox t = some r ∧
      match who with
      | none => ∃ ps, m.reader = .sending t r ps
      | some i => ∃ o, (m.callers i).phase = .sending t r o
  | .claim .. | .receive .. | .cancel .. | .other _ => True

/-- The program of caller `i`: it moves from phase `p` to phase `p'` showing event `e`. -/
inductive Flow (i : Nat) : Phase → Phase → Event → Prop where
  | start (c : Call) (p : Phase) (hp : p.role = .free) : Flow i .idle p (.start i c)
  | lockExchange (req : Query) : Flow i (.locking (.exchange req)) (.checking req) (.lock i)
  | lockReconnect (baud : Int) :
      Flow i (.locking (.reconnect baud)) (.reconnecting none baud) (.lock i)
  | quit (turn : Turn) (x : CtxEnd) :
      Flow i (.locking turn) (.returning (.failed x.error)) (.other (some i))
  | up (req : Query) : Flow i (.checking req) (.registering req) (.other (some i))
  | down (req : Query) (port : String) :
      Flow i (.checking req) (.exchanged req (.error (.connection "send" port .notConnected)))
        (.other (some i))
  | register (req : Query) (t : Nat) (frame : List UInt8) :
      Flow i (.registering req) (.writing req t frame) (.register i t req.cmd.id)
  | written (req : Query) (t : Nat) (frame : List UInt8) :
      Flow i (.writing req t frame) (.awaiting req t) (.port i (.write frame) (.ok ()))
  | writeFailed (req : Query) (t : Nat) (frame : List UInt8) (e : PortError) :
      Flow i (.writing req t frame) (.unregistering req t (.writeFailed e))
        (.port i (.write frame) (.error e))
  | expire (req : Query) (t : Nat) (x : Expiry) :
      Flow i (.awaiting req t) (.unregistering req t (.expired x)) (.other (some i))
  | takeAwaited (req : Query) (t : Nat) (r : Except LinkError Packet) :
      Flow i (.awaiting req t) (.exchanged req r) (.take i t r)
  | takeReceived (req : Query) (t : Nat) (r : Except LinkError Packet) :
      Flow i (.receiving req t) (.exchanged req r) (.take i t r)
  | unregisterFailed (req : Query) (t : Nat) (e : PortError) (port : String) (removed : Bool) :
      Flow i (.unregistering req t (.writeFailed e)) (.exchanged req (.error (e.during "write" port)))
        (.unregister i t removed)
  | unregisterExpired (req : Query) (t : Nat) (x : Expiry) :
      Flow i (.unregistering req t (.expired x)) (.exchanged req (.error (x.error req.cmd.id)))
        (.unregister i t true)
  | unregisterMissed (req : Query) (t : Nat) (x : Expiry) :
      Flow i (.unregistering req t (.expired x)) (.receiving req t) (.unregister i t false)
  | answer (req : Query) (r : Except LinkError Packet) (hf : req.follow = .answer) :
      Flow i (.exchanged req r) (.unlocking (.ofReply r)) (.exchanged i r)
  | acked (req : Query) (baud : Int) (p : Packet) (hf : req.follow = .reopen baud) :
      Flow i (.exchanged req (.ok p)) (.reconnecting (some p) baud) (.exchanged i (.ok p))
  | unacked (req : Query) (baud : Int) (e : LinkError) (hf : req.follow = .reopen baud) :
      Flow i (.exchanged req (.error e)) (.unlocking (.failed e)) (.exchanged i (.error e))
  | refused (reply : Option Packet) (baud : Int) (port : String) :
      Flow i (.reconnecting reply baud)
        (.unlocking ⟨reply, some (.connection "reconnect" port .notConnected)⟩) (.other (some i))
  | reconnect (reply : Option Packet) (baud : Int) (port : String) :
      Flow i (.reconnecting reply baud) (.reopening reply port baud) (.other (some i))
  | reopened (reply : Option Packet) (port : String) (baud : Int) :
      Flow i (.reopening reply port baud) (.unlocking ⟨reply, none⟩) (.port i (.reopen baud) (.ok ()))
  | reopenFailed (reply : Option Packet) (port : String) (baud : Int) (e : PortError) :
      Flow i (.reopening reply port baud) (.unlocking ⟨reply, some (e.during "reconnect" port)⟩)
        (.port i (.reopen baud) (.error e))
  | unlock (o : Outcome) : Flow i (.unlocking o) (.returning o) (.unlock i)
  | close (r : Except PortError Unit) : Flow i .closing (.failing r) (.port i .close r)
  | fail (closed : Except PortError Unit) (q : Pending) (port : String) :
      Flow i (.failing closed)
        (.sending q.ticket (.error (.connection "disconnect" port .closed))
          (.ofResult (Conn.closeOutcome port closed)))
        (.claim (some i) (some q))
  | failNone (closed : Except PortError Unit) (port : String) :
      Flow i (.failing closed) (.returning (.ofResult (Conn.closeOutcome port closed)))
        (.claim (some i) none)
  | send (t : Nat) (r : Except LinkError Packet) (o : Outcome) :
      Flow i (.sending t r o) (.returning o) (.send (some i) t r)
  | opened (g : Nat) (port : String) (baud : Int) :
      Flow i (.opening g port baud) (.settling g port) (.port i (.openPort port baud) (.ok ()))
  | openFailed (g : Nat) (port : String) (baud : Int) (e : PortError) :
      Flow i (.opening g port baud) (.returning (.failed (e.during "open" port)))
        (.port i (.openPort port baud) (.error e))
  | settleUp (g : Nat) (port : String) : Flow i (.settling g port) (.returning {}) (.other (some i))
  | superseded (g : Nat) (port : String) :
      Flow i (.settling g port) (.returning (.failed (Conn.closedDuringConnect port)))
        (.other (some i))
  | abandon (g : Nat) (port : String) :
      Flow i (.settling g port) (.abandoning port) (.other (some i))
  | closeAgain (port : String) (r : Except PortError Unit) :
      Flow i (.abandoning port) (.returning (.failed (Conn.closedDuringConnect port)))
        (.port i .close r)
  | finish (o : Outcome) : Flow i (.returning o) .idle (.finish i o)

namespace Flow

variable {i : Nat}

theorem ofLock (turn : Turn) : Flow i (.locking turn) turn.held (.lock i) := by
  cases turn with
  | exchange req => exact .lockExchange req
  | reconnect baud => exact .lockReconnect baud

theorem ofUnregister (req : Query) (t : Nat) (why : Abandon) (port : String) (removed : Bool) :
    Flow i (.unregistering req t why) (afterUnregister req t why port removed)
      (.unregister i t removed) := by
  cases why with
  | writeFailed e => exact .unregisterFailed req t e port removed
  | expired x =>
    cases removed
    · exact .unregisterMissed req t x
    · exact .unregisterExpired req t x

theorem ofExchanged (req : Query) (r : Except LinkError Packet) :
    Flow i (.exchanged req r) (afterExchange req r) (.exchanged i r) := by
  cases hf : req.follow with
  | answer => simpa [afterExchange, hf] using Flow.answer (i := i) req r hf
  | reopen baud =>
    cases r with
    | ok p => simpa [afterExchange, hf] using Flow.acked (i := i) req baud p hf
    | error e => simpa [afterExchange, hf] using Flow.unacked (i := i) req baud e hf

end Flow

/-- The program of the reader: it moves from `x` to `y` showing event `e`. A dispatch hands the
result of the command it claims on, and a failed read fails the awaited command with a connection
error. -/
inductive ReaderFlow : Reader → Reader → Event → Prop where
  | receive (chunk : List UInt8) (ps : List Packet) :
      ReaderFlow .idle (Reader.resume ps) (.receive chunk ps)
  | readFail (port : String) (text : List UInt8) :
      ReaderFlow .idle (.failing ((PortError.plain text).during "read" port)) (.other none)
  | claim (p : Packet) (ps : List Packet) (q : Pending) (r : Except LinkError Packet)
      (hr : Conn.Answers p q r) :
      ReaderFlow (.dispatching p ps) (.sending q.ticket r ps) (.dispatch p (some q) [])
  | pass (p : Packet) (ps : List Packet) (ds : List Delivery) :
      ReaderFlow (.dispatching p ps) (Reader.resume ps) (.dispatch p none ds)
  | send (t : Nat) (r : Except LinkError Packet) (ps : List Packet) :
      ReaderFlow (.sending t r ps) (Reader.resume ps) (.send none t r)
  | fail (e : LinkError) (q : Pending) :
      ReaderFlow (.failing e) (.sending q.ticket (.error e) []) (.claim none (some q))
  | failNone (e : LinkError) : ReaderFlow (.failing e) .idle (.claim none none)

/-- What a step does, seen from its event, from the program of the caller that took it, from the
callers that did not act, and from the command protocol. Only a start changes a caller's call. -/
structure StepSpec (m m' : Machine) (e : Event) : Prop where
  shows : Shows m m' e
  flow : ∀ i, e.actor = some i → Flow i (m.callers i).phase (m'.callers i).phase e
  frame : ∀ j, e.actor ≠ some j → (m'.callers j).phase = (m.callers j).phase
  call : ∀ j, (∀ c, e ≠ .start j c) → (m'.callers j).call = (m.callers j).call
  codec : m'.conn.codec = m.conn.codec
  handoff : Handoff.Step m.handoff m'.handoff
  reads : (e.byReader = true ∧ ReaderFlow m.reader m'.reader e) ∨
    (e.byReader = false ∧ m'.reader = m.reader)

/-- What a call does before the turn keeps the slot, the tickets and the codec, and leaves the
caller holding nothing. -/
theorem begin_keeps (c : Conn) (call : Call) :
    c.Keeps (begin c call).1 ∧ (begin c call).2.role = .free := by
  cases call with
  | connect port baud =>
    simp only [begin]
    split
    · exact ⟨⟨rfl, rfl, rfl⟩, rfl⟩
    · rename_i c' g hc
      exact ⟨Conn.beginConnect_keeps hc, rfl⟩
  | disconnect => exact ⟨⟨rfl, rfl, rfl⟩, rfl⟩
  | _ => simp only [begin]; split <;> exact ⟨⟨rfl, rfl, rfl⟩, rfl⟩

theorem afterExchange_role (req : Query) (r : Except LinkError Packet) :
    (afterExchange req r).role = .turn := by
  unfold afterExchange
  split <;> rfl

theorem handoff_setCaller (m : Machine) (i : Nat) (c : Caller) :
    (m.setCaller i c).handoff =
      { m.handoff with roles := Function.update m.handoff.roles i c.phase.role } := by
  simp only [handoff, setCaller, Handoff.mk.injEq, true_and]
  funext j
  exact Function.apply_update (fun _ (c : Caller) => c.phase.role) m.callers i c j

theorem handoff_setPhase (m : Machine) (i : Nat) (p : Phase) :
    (m.setPhase i p).handoff =
      { m.handoff with roles := Function.update m.handoff.roles i p.role } :=
  handoff_setCaller m i _

theorem handoff_setCaller_of_role {m : Machine} {i : Nat} {c : Caller}
    (h : c.phase.role = (m.callers i).phase.role) : (m.setCaller i c).handoff = m.handoff := by
  rw [handoff_setCaller, h]
  simp [handoff]

theorem handoff_setPhase_of_role {m : Machine} {i : Nat} {p : Phase}
    (h : p.role = (m.callers i).phase.role) : (m.setPhase i p).handoff = m.handoff := by
  rw [handoff_setPhase, h]
  simp [handoff]

theorem handoff_conn {m : Machine} {c : Conn} (h : m.conn.Keeps c) :
    { m with conn := c }.handoff = m.handoff := by
  simp [handoff, h.1, h.2.1]

@[simp] theorem setPhase_conn (m : Machine) (i : Nat) (p : Phase) :
    (m.setPhase i p).conn = m.conn := rfl

@[simp] theorem setPhase_turn (m : Machine) (i : Nat) (p : Phase) :
    (m.setPhase i p).turn = m.turn := rfl

@[simp] theorem setPhase_mailbox (m : Machine) (i : Nat) (p : Phase) :
    (m.setPhase i p).mailbox = m.mailbox := rfl

@[simp] theorem setPhase_reader (m : Machine) (i : Nat) (p : Phase) :
    (m.setPhase i p).reader = m.reader := rfl

@[simp] theorem setPhase_self (m : Machine) (i : Nat) (p : Phase) :
    (m.setPhase i p).callers i = { m.callers i with phase := p } := by
  simp [setPhase, setCaller]

theorem frame_setPhase {m M : Machine} (hM : M.callers = m.callers) {i : Nat} {p : Phase}
    {e : Event} (he : e.actor = some i) (j : Nat) (hj : e.actor ≠ some j) :
    ((M.setPhase i p).callers j).phase = (m.callers j).phase := by
  have hji : j ≠ i := fun h => hj (h ▸ he)
  simp [setPhase, setCaller, Function.update_of_ne hji, hM]

theorem call_setPhase {m M : Machine} (hM : M.callers = m.callers) (i : Nat) (p : Phase)
    (j : Nat) : ((M.setPhase i p).callers j).call = (m.callers j).call := by
  by_cases hji : j = i
  · subst hji; simp [setPhase, setCaller, hM]
  · simp [setPhase, setCaller, Function.update_of_ne hji, hM]

/-- The move of caller `i` that sets its phase is the move its program makes. -/
theorem flow_setPhase {m M : Machine} (hM : M.callers = m.callers) {i : Nat} {q p : Phase}
    {e : Event} (he : e.actor = some i) (hq : (m.callers i).phase = q) (hf : Flow i q p e)
    (j : Nat) (hj : e.actor = some j) :
    Flow j (m.callers j).phase ((M.setPhase i p).callers j).phase e := by
  obtain rfl : j = i := Option.some.inj (hj.symm.trans he)
  simpa [setPhase, setCaller, hM, hq] using hf

/-- A step of caller `i` that moves its phase as its program does, over changes of the connection,
the turn or the channels that leave the other callers, the reader and the codec as they are. -/
theorem StepSpec.move {m : Machine} (M : Machine) {i : Nat} {q p : Phase} {e : Event}
    (hq : (m.callers i).phase = q) (hf : Flow i q p e) (he : e.actor = some i)
    (hM : M.callers = m.callers) (hr : M.reader = m.reader) (hc : M.conn.codec = m.conn.codec)
    (hs : Shows m (M.setPhase i p) e) (hh : Handoff.Step m.handoff (M.setPhase i p).handoff) :
    StepSpec m (M.setPhase i p) e where
  shows := hs
  flow := flow_setPhase hM he hq hf
  frame := frame_setPhase hM he
  call j _ := call_setPhase hM i p j
  codec := hc
  handoff := hh
  reads := .inr ⟨Event.byReader_of_actor he, hr⟩

/-- A quiet step of caller `i`: a new phase of the same role, and a connection that keeps the slot,
the tickets and the codec. -/
theorem StepSpec.quiet {m : Machine} {c : Conn} (hc : m.conn.Keeps c) {i : Nat} {q p : Phase}
    (hp : p.role = (m.callers i).phase.role) {e : Event} (he : e.actor = some i)
    (hq : (m.callers i).phase = q) (hf : Flow i q p e)
    (hs : Shows m ({ m with conn := c }.setPhase i p) e) :
    StepSpec m ({ m with conn := c }.setPhase i p) e := by
  refine StepSpec.move { m with conn := c } hq hf he rfl rfl hc.2.2 hs ?_
  rw [handoff_setPhase_of_role (m := { m with conn := c }) hp, handoff_conn hc]
  exact .quiet _

theorem advance_spec {m m' : Machine} {i : Nat} {e : Event} (h : m.advance i = some (m', e)) :
    StepSpec m m' e := by
  have hkeep : m.conn.Keeps m.conn := ⟨rfl, rfl, rfl⟩
  unfold advance at h
  cases hp : (m.callers i).phase <;> simp only [hp, reduceCtorEq] at h
  case locking turn =>
    split at h
    · rename_i ht
      simp only [Option.some.injEq, Prod.mk.injEq] at h
      obtain ⟨rfl, rfl⟩ := h
      refine StepSpec.move { m with turn := some i } hp (.ofLock turn) rfl rfl rfl rfl
        ⟨ht, rfl, turn, hp, by simp⟩ ?_
      rw [handoff_setPhase, show turn.held.role = .turn by cases turn <;> rfl]
      exact .lock _ i ht (by simp [handoff, hp, Phase.role])
    · cases h
  case checking req =>
    split at h
    · rename_i e he
      obtain rfl := Conn.checkUp_error he
      simp only [Option.some.injEq, Prod.mk.injEq] at h
      obtain ⟨rfl, rfl⟩ := h
      exact StepSpec.quiet hkeep (by simp [hp, Phase.role]) rfl hp (.down req m.conn.port) trivial
    · simp only [Option.some.injEq, Prod.mk.injEq] at h
      obtain ⟨rfl, rfl⟩ := h
      exact StepSpec.quiet hkeep (by simp [hp, Phase.role]) rfl hp (.up req) trivial
  case registering req =>
    simp only [Conn.enroll, Option.some.injEq, Prod.mk.injEq] at h
    obtain ⟨rfl, rfl⟩ := h
    refine StepSpec.move { m with conn := (m.conn.enroll req.cmd).1 } hp
      (.register req _ _) rfl rfl rfl rfl ⟨req, hp, rfl, rfl, rfl, by simp⟩ ?_
    rw [handoff_setPhase]
    exact .register _ i req (by simp [handoff, hp, Phase.role])
  case awaiting req t =>
    split at h
    · rename_i r hm
      simp only [Option.some.injEq, Prod.mk.injEq] at h
      obtain ⟨rfl, rfl⟩ := h
      refine StepSpec.move { m with mailbox := Function.update m.mailbox t none } hp
        (.takeAwaited req t r) rfl rfl rfl rfl ⟨req, .inl hp, hm, by simp⟩ ?_
      rw [handoff_setPhase]
      exact .take _ i req t r (.inl (by simp [handoff, hp, Phase.role])) hm
    · cases h
  case receiving req t =>
    split at h
    · rename_i r hm
      simp only [Option.some.injEq, Prod.mk.injEq] at h
      obtain ⟨rfl, rfl⟩ := h
      refine StepSpec.move { m with mailbox := Function.update m.mailbox t none } hp
        (.takeReceived req t r) rfl rfl rfl rfl ⟨req, .inr hp, hm, by simp⟩ ?_
      rw [handoff_setPhase]
      exact .take _ i req t r (.inr (by simp [handoff, hp, Phase.role])) hm
    · cases h
  case unregistering req t why =>
    have hi : m.handoff.roles i = .registered req t := by simp [handoff, hp, Phase.role]
    have hflow := Flow.ofUnregister (i := i) req t why (m.conn.unregister t).1.port
      (m.conn.unregister t).2
    cases hq : m.conn.pending with
    | none =>
      simp only [Conn.unregister, hq, Option.some.injEq, Prod.mk.injEq] at h hflow
      obtain ⟨rfl, rfl⟩ := h
      have hna : ¬ m.handoff.Awaits t := fun ⟨q, hq', _⟩ => by simp [handoff, hq] at hq'
      refine StepSpec.move { m with conn := m.conn } hp hflow rfl rfl rfl rfl
        ⟨req, why, hp, by simpa using hna, by simp, rfl, rfl, by simp⟩ ?_
      rw [handoff_setPhase]
      cases why with
      | writeFailed e => exact .abandon _ i req t hi hna
      | expired x => exact .miss _ i req t hi hna
    | some q =>
      by_cases hqt : q.ticket = t
      · simp only [Conn.unregister, hq, hqt, if_true, Option.some.injEq, Prod.mk.injEq] at h hflow
        obtain ⟨rfl, rfl⟩ := h
        have ha : m.handoff.Awaits t := ⟨q, hq, hqt⟩
        refine StepSpec.move { m with conn := { m.conn with pending := none } } hp hflow
          rfl rfl rfl rfl ⟨req, why, hp, by simpa using ha, fun _ => rfl, rfl, rfl, by simp⟩ ?_
        rw [handoff_setPhase, show (afterUnregister req t why m.conn.port true).role = .turn by
          cases why <;> rfl]
        exact .remove _ i req t hi ha
      · simp only [Conn.unregister, hq, hqt, if_false, Option.some.injEq, Prod.mk.injEq] at h hflow
        obtain ⟨rfl, rfl⟩ := h
        have hna : ¬ m.handoff.Awaits t := fun ⟨q', hq', hq't⟩ => by
          simp only [handoff, hq, Option.some.injEq] at hq'
          exact hqt (hq' ▸ hq't)
        refine StepSpec.move { m with conn := m.conn } hp hflow rfl rfl rfl rfl
          ⟨req, why, hp, by simpa using hna, by simp, rfl, rfl, by simp⟩ ?_
        rw [handoff_setPhase]
        cases why with
        | writeFailed e => exact .abandon _ i req t hi hna
        | expired x => exact .miss _ i req t hi hna
  case exchanged req r =>
    simp only [Option.some.injEq, Prod.mk.injEq] at h
    obtain ⟨rfl, rfl⟩ := h
    exact StepSpec.quiet hkeep (by rw [afterExchange_role, hp]; rfl) rfl hp (.ofExchanged req r)
      ⟨req, hp, by simp⟩
  case reconnecting reply baud =>
    split at h
    · rename_i e he
      obtain rfl := Conn.beginReconnect_error he
      simp only [Option.some.injEq, Prod.mk.injEq] at h
      obtain ⟨rfl, rfl⟩ := h
      exact StepSpec.quiet hkeep (by simp [hp, Phase.role]) rfl hp
        (.refused reply baud m.conn.port) trivial
    · rename_i c hc
      simp only [Option.some.injEq, Prod.mk.injEq] at h
      obtain ⟨rfl, rfl⟩ := h
      exact StepSpec.quiet (Conn.beginReconnect_keeps hc) (by simp [hp, Phase.role]) rfl hp
        (.reconnect reply baud c.port) trivial
  case unlocking o =>
    split at h
    · rename_i ht
      simp only [Option.some.injEq, Prod.mk.injEq] at h
      obtain ⟨rfl, rfl⟩ := h
      refine StepSpec.move { m with turn := none } hp (.unlock o) rfl rfl rfl rfl
        ⟨rfl, o, hp, by simp⟩ ?_
      rw [handoff_setPhase]
      exact .unlock _ i ht (by simp [handoff, hp, Phase.role])
    · cases h
  case failing closed =>
    have hi : m.handoff.roles i = .free := by simp [handoff, hp, Phase.role]
    cases hq : m.conn.pending with
    | none =>
      simp only [Conn.claim, hq, Option.some.injEq, Prod.mk.injEq] at h
      obtain ⟨rfl, rfl⟩ := h
      exact StepSpec.quiet hkeep (by simp [hp, Phase.role]) rfl hp (.failNone closed _) trivial
    | some q =>
      simp only [Conn.claim, hq, if_true, Option.some.injEq, Prod.mk.injEq] at h
      obtain ⟨rfl, rfl⟩ := h
      refine StepSpec.move { m with conn := { m.conn with pending := none } } hp
        (.fail closed q m.conn.port) rfl rfl rfl rfl trivial ?_
      rw [handoff_setPhase]
      exact .claimByCaller _ i q _ hi (by simp [handoff, hq])
  case sending t r o =>
    split at h
    · rename_i hm
      simp only [Option.some.injEq, Prod.mk.injEq] at h
      obtain ⟨rfl, rfl⟩ := h
      refine StepSpec.move { m with mailbox := Function.update m.mailbox t (some r) } hp
        (.send t r o) rfl rfl rfl rfl ⟨hm, by simp, o, hp⟩ ?_
      rw [handoff_setPhase]
      exact .giveByCaller _ i t r (by simp [handoff, hp, Phase.role]) hm
    · cases h
  case settling g port =>
    have hkeep := Conn.settleConnect_keeps m.conn g
    split at h
    all_goals
      rename_i c hc
      rw [hc] at hkeep
      simp only [Option.some.injEq, Prod.mk.injEq] at h
      obtain ⟨rfl, rfl⟩ := h
    · exact StepSpec.quiet hkeep (by simp [hp, Phase.role]) rfl hp (.settleUp g port) trivial
    · exact StepSpec.quiet hkeep (by simp [hp, Phase.role]) rfl hp (.abandon g port) trivial
    · exact StepSpec.quiet hkeep (by simp [hp, Phase.role]) rfl hp (.superseded g port) trivial
  case returning o =>
    simp only [Option.some.injEq, Prod.mk.injEq] at h
    obtain ⟨rfl, rfl⟩ := h
    exact StepSpec.quiet hkeep (by simp [hp, Phase.role]) rfl hp (.finish o) ⟨hp, by simp⟩

theorem answer_spec {m m' : Machine} {i : Nat} {r : Except PortError Unit} {e : Event}
    (h : m.answer i r = some (m', e)) : StepSpec m m' e := by
  have hkeep : m.conn.Keeps m.conn := ⟨rfl, rfl, rfl⟩
  unfold answer at h
  cases hp : (m.callers i).phase <;> simp only [hp, reduceCtorEq] at h
  case writing req t frame =>
    cases r with
    | ok u =>
      simp only [Option.some.injEq, Prod.mk.injEq] at h
      obtain ⟨rfl, rfl⟩ := h
      exact StepSpec.quiet hkeep (by simp [hp, Phase.role]) rfl hp (.written req t frame)
        ⟨req, t, hp, by simp⟩
    | error e =>
      simp only [Option.some.injEq, Prod.mk.injEq] at h
      obtain ⟨rfl, rfl⟩ := h
      exact StepSpec.quiet hkeep (by simp [hp, Phase.role]) rfl hp (.writeFailed req t frame e)
        ⟨req, t, hp, by simp⟩
  case reopening reply port baud =>
    cases r with
    | ok u =>
      simp only [Conn.finishReconnect, Option.some.injEq, Prod.mk.injEq] at h
      obtain ⟨rfl, rfl⟩ := h
      refine StepSpec.quiet ?_ ?_ rfl hp (.reopened reply port baud) ?_
      · exact ⟨rfl, rfl, rfl⟩
      · simp [hp, Phase.role]
      · exact ⟨reply, port, hp, by simp⟩
    | error e =>
      simp only [Conn.finishReconnect, Option.some.injEq, Prod.mk.injEq] at h
      obtain ⟨rfl, rfl⟩ := h
      refine StepSpec.quiet ?_ ?_ rfl hp (.reopenFailed reply port baud e) ?_
      · exact ⟨rfl, rfl, rfl⟩
      · simp [hp, Phase.role]
      · exact ⟨reply, port, hp, by simp⟩
  case closing =>
    simp only [Option.some.injEq, Prod.mk.injEq] at h
    obtain ⟨rfl, rfl⟩ := h
    exact StepSpec.quiet hkeep (by simp [hp, Phase.role]) rfl hp (.close r) (.inl hp)
  case opening g port baud =>
    cases r with
    | ok u =>
      simp only [Option.some.injEq, Prod.mk.injEq] at h
      obtain ⟨rfl, rfl⟩ := h
      refine StepSpec.quiet ?_ ?_ rfl hp (.opened g port baud) ?_
      · exact ⟨rfl, rfl, rfl⟩
      · simp [hp, Phase.role]
      · exact ⟨g, hp⟩
    | error err =>
      have hkeep := Conn.openFailed_keeps m.conn g port err
      rcases hof : m.conn.openFailed g port err with ⟨c, lerr⟩
      obtain rfl : lerr = err.during "open" port := (congrArg Prod.snd hof).symm
      rw [hof] at hkeep
      simp only [hof, Option.some.injEq, Prod.mk.injEq] at h
      obtain ⟨rfl, rfl⟩ := h
      exact StepSpec.quiet hkeep (by simp [hp, Phase.role]) rfl hp
        (.openFailed g port baud err) ⟨g, hp⟩
  case abandoning port =>
    simp only [Option.some.injEq, Prod.mk.injEq] at h
    obtain ⟨rfl, rfl⟩ := h
    exact StepSpec.quiet hkeep (by simp [hp, Phase.role]) rfl hp (.closeAgain port r)
      (.inr ⟨port, hp⟩)

/-- A step of the reader that holds no result before or after, and touches nothing else. -/
theorem StepSpec.reader {conn : Conn} {turn : Option Nat} {mailbox : Nat → Option _}
    {callers : Nat → Caller} {x y : Reader} (hx : x.gives = none) (hy : y.gives = none)
    {e : Event} (he : e.actor = none) (hf : ReaderFlow x y e) (hb : e.byReader = true)
    (hs : Shows ⟨conn, turn, mailbox, callers, x⟩ ⟨conn, turn, mailbox, callers, y⟩ e) :
    StepSpec ⟨conn, turn, mailbox, callers, x⟩ ⟨conn, turn, mailbox, callers, y⟩ e where
  shows := hs
  flow _ hi := by rw [he] at hi; cases hi
  frame _ _ := rfl
  call _ _ := rfl
  codec := rfl
  handoff := by
    have hv : (⟨conn, turn, mailbox, callers, y⟩ : Machine).handoff =
        (⟨conn, turn, mailbox, callers, x⟩ : Machine).handoff := by
      simp [Machine.handoff, hx, hy]
    rw [hv]
    exact .quiet _
  reads := .inl ⟨hb, hf⟩

theorem read_spec {m m' : Machine} {e : Event} (h : m.read = some (m', e)) : StepSpec m m' e := by
  obtain ⟨conn, turn, mailbox, callers, reader⟩ := m
  cases reader <;> simp only [read, reduceCtorEq] at h
  case dispatching p ps =>
    split at h
    · rename_i accepts r hr
      cases hq : conn.pending with
      | none =>
        simp only [Conn.claim, hq, Option.some.injEq, Prod.mk.injEq] at h
        obtain ⟨rfl, rfl⟩ := h
        refine StepSpec.reader rfl (Reader.gives_resume ps) rfl (.pass p ps []) rfl ?_
        exact ⟨ps, rfl, fun q hq => by cases hq⟩
      | some q =>
        by_cases ha : accepts q = true
        · simp only [Conn.claim, hq, ha, if_true, Option.some.injEq, Prod.mk.injEq] at h
          obtain ⟨rfl, rfl⟩ := h
          refine ⟨⟨ps, rfl, fun q' hq' => ?_⟩, (fun _ hi => by cases hi), fun _ _ => rfl,
            fun _ _ => rfl, rfl, .claimByReader _ q r rfl hq,
            .inl ⟨rfl, .claim p ps q r ⟨accepts, hr, ha⟩⟩⟩
          cases hq'
          exact ⟨hq, accepts, r, hr, ha, rfl⟩
        · simp only [Conn.claim, hq, ha, Bool.false_eq_true, if_false, Option.some.injEq,
            Prod.mk.injEq] at h
          obtain ⟨rfl, rfl⟩ := h
          refine StepSpec.reader rfl (Reader.gives_resume ps) rfl (.pass p ps []) rfl ?_
          exact ⟨ps, rfl, fun q hq => by cases hq⟩
    · simp only [Option.some.injEq, Prod.mk.injEq] at h
      obtain ⟨rfl, rfl⟩ := h
      refine StepSpec.reader rfl (Reader.gives_resume ps) rfl (.pass p ps _) rfl ?_
      exact ⟨ps, rfl, fun q hq => by cases hq⟩
  case sending t r ps =>
    split at h
    · rename_i hm
      simp only [Option.some.injEq, Prod.mk.injEq] at h
      obtain ⟨rfl, rfl⟩ := h
      refine ⟨⟨hm, by simp, ps, rfl⟩, (fun _ hi => by cases hi), fun _ _ => rfl, fun _ _ => rfl,
        rfl, ?_, .inl ⟨rfl, .send t r ps⟩⟩
      cases ps <;> exact .giveByReader _ t r rfl hm
    · cases h
  case failing err =>
    cases hq : conn.pending with
    | none =>
      simp only [Conn.claim, hq, Option.some.injEq, Prod.mk.injEq] at h
      obtain ⟨rfl, rfl⟩ := h
      exact ⟨trivial, (fun _ hi => by cases hi), fun _ _ => rfl, fun _ _ => rfl, rfl, .quiet _,
        .inl ⟨rfl, .failNone err⟩⟩
    | some q =>
      simp only [Conn.claim, hq, if_true, Option.some.injEq, Prod.mk.injEq] at h
      obtain ⟨rfl, rfl⟩ := h
      exact ⟨trivial, (fun _ hi => by cases hi), fun _ _ => rfl, fun _ _ => rfl, rfl,
        .claimByReader _ q _ rfl hq, .inl ⟨rfl, .fail err q⟩⟩

/-- The one inversion of the step function. -/
theorem step_spec {m m' : Machine} {a : Act} {e : Event} (h : m.step a = some (m', e)) :
    StepSpec m m' e := by
  cases a with
  | start i c =>
    simp only [step] at h
    split at h
    · rename_i hidle
      obtain ⟨hkeep, hrole⟩ := begin_keeps m.conn c
      rcases hb : begin m.conn c with ⟨conn, p⟩
      rw [hb] at hkeep hrole
      simp only [hb, Option.some.injEq, Prod.mk.injEq] at h
      obtain ⟨rfl, rfl⟩ := h
      refine ⟨⟨hidle, by simp [setCaller, hb], by simp [setCaller, hb]⟩, fun j hj => ?_,
        fun j hj => ?_, fun j hj => ?_, hkeep.2.2, ?_, .inr ⟨rfl, rfl⟩⟩
      · obtain rfl : j = i := Option.some.inj hj.symm
        simpa [setCaller, hidle] using Flow.start c p hrole
      · have hji : j ≠ i := fun h => hj (h ▸ rfl)
        simp [setCaller, Function.update_of_ne hji]
      · have hji : j ≠ i := fun h => hj c (h ▸ rfl)
        simp [setCaller, Function.update_of_ne hji]
      · rw [handoff_setCaller_of_role, handoff_conn hkeep]
        · exact .quiet _
        · rw [hidle]; exact hrole
    · cases h
  | step i => exact advance_spec h
  | answer i r => exact answer_spec h
  | timer i =>
    simp only [step] at h
    split at h
    · rename_i req t hp
      simp only [Option.some.injEq, Prod.mk.injEq] at h
      obtain ⟨rfl, rfl⟩ := h
      exact StepSpec.quiet (c := m.conn) ⟨rfl, rfl, rfl⟩ (by simp [hp, Phase.role]) rfl hp
        (.expire req t _) trivial
    · cases h
  | done i =>
    simp only [step] at h
    split at h
    · rename_i x turn _ hp
      simp only [Option.some.injEq, Prod.mk.injEq] at h
      obtain ⟨rfl, rfl⟩ := h
      exact StepSpec.quiet (c := m.conn) ⟨rfl, rfl, rfl⟩ (by simp [hp, Phase.role]) rfl hp
        (.quit turn _) trivial
    · rename_i x req t _ hp
      simp only [Option.some.injEq, Prod.mk.injEq] at h
      obtain ⟨rfl, rfl⟩ := h
      exact StepSpec.quiet (c := m.conn) ⟨rfl, rfl, rfl⟩ (by simp [hp, Phase.role]) rfl hp
        (.expire req t _) trivial
    · cases h
  | cancel i x =>
    simp only [step] at h
    split at h
    · simp only [Option.some.injEq, Prod.mk.injEq] at h
      obtain ⟨rfl, rfl⟩ := h
      refine ⟨trivial, (fun _ hj => by cases hj), fun j _ => ?_, fun j _ => ?_, rfl, ?_,
        .inr ⟨rfl, rfl⟩⟩
      · by_cases hji : j = i
        · subst hji; simp [setCaller]
        · simp [setCaller, Function.update_of_ne hji]
      · by_cases hji : j = i
        · subst hji; simp [setCaller]
        · simp [setCaller, Function.update_of_ne hji]
      · rw [handoff_setCaller_of_role]
        · exact .quiet _
        · rfl
    · cases h
  | receive chunk =>
    obtain ⟨conn, turn, mailbox, callers, reader⟩ := m
    cases reader <;> simp only [step, reduceCtorEq] at h
    rcases hd : conn.codec.drain (conn.buffer ++ chunk) with ⟨ps, rest⟩
    simp only [Conn.frames, hd, Option.some.injEq, Prod.mk.injEq] at h
    obtain ⟨rfl, rfl⟩ := h
    refine ⟨trivial, (fun _ hj => by cases hj), fun _ _ => rfl, fun _ _ => rfl, rfl, ?_,
      .inl ⟨rfl, .receive chunk ps⟩⟩
    cases ps <;> exact .quiet _
  | readFail text =>
    obtain ⟨conn, turn, mailbox, callers, reader⟩ := m
    cases reader <;> simp only [step, reduceCtorEq] at h
    simp only [Option.some.injEq, Prod.mk.injEq] at h
    obtain ⟨rfl, rfl⟩ := h
    exact ⟨trivial, (fun _ hj => by cases hj), fun _ _ => rfl, fun _ _ => rfl, rfl, .quiet _,
      .inl ⟨rfl, .readFail conn.port text⟩⟩
  | read => exact read_spec h

end Machine

namespace Run

variable {m₀ : Machine}

theorem snoc_inv {tr : List Event} {e : Event} {m : Machine} (h : Run m₀ (tr ++ [e]) m) :
    ∃ m' a, Run m₀ tr m' ∧ m'.step a = some (m, e) := by
  generalize hl : tr ++ [e] = l at h
  cases h with
  | nil => simp at hl
  | step a hrun hstep =>
    obtain ⟨rfl, he⟩ := List.append_inj' hl rfl
    cases he
    exact ⟨_, a, hrun, hstep⟩

theorem append {tr₁ tr₂ : List Event} {m₁ m : Machine} (h₁ : Run m₀ tr₁ m₁) (h₂ : Run m₁ tr₂ m) :
    Run m₀ (tr₁ ++ tr₂) m := by
  induction h₂ with
  | nil => simpa using h₁
  | step a _ hstep ih => rw [← List.append_assoc]; exact .step a ih hstep

theorem split {tr₁ tr₂ : List Event} {m : Machine} (h : Run m₀ (tr₁ ++ tr₂) m) :
    ∃ m₁, Run m₀ tr₁ m₁ ∧ Run m₁ tr₂ m := by
  induction tr₂ generalizing tr₁ with
  | nil => exact ⟨m, by simpa using h, .nil⟩
  | cons e tr₂ ih =>
    obtain ⟨m₂, h₂, hrest⟩ := ih (show Run m₀ ((tr₁ ++ [e]) ++ tr₂) m by simpa using h)
    obtain ⟨m₁, a, h₁, hstep⟩ := snoc_inv h₂
    exact ⟨m₁, h₁, by simpa using append (Run.step a .nil hstep) hrest⟩

theorem split_event {pre post : List Event} {e : Event} {m : Machine}
    (h : Run m₀ (pre ++ e :: post) m) :
    ∃ m₁ m₂, Run m₀ pre m₁ ∧ Machine.StepSpec m₁ m₂ e ∧ Run m₂ post m := by
  obtain ⟨m₂, h₂, hpost⟩ := split (show Run m₀ ((pre ++ [e]) ++ post) m by simpa using h)
  obtain ⟨m₁, a, h₁, hstep⟩ := snoc_inv h₂
  exact ⟨m₁, m₂, h₁, Machine.step_spec hstep, hpost⟩

end Run

/-- Replays acts from `m`: the machine they lead to and the events they show, or none if one of
them cannot happen. -/
def Machine.replay (m : Machine) : List Act → Option (Machine × List Event)
  | [] => some (m, [])
  | a :: as => (m.step a).bind fun (m', e) =>
      (m'.replay as).map fun (m'', tr) => (m'', e :: tr)

/-- A replay that goes through is a run. -/
theorem Machine.replay_run {m m' : Machine} {as : List Act} {tr : List Event}
    (h : m.replay as = some (m', tr)) : Run m tr m' := by
  induction as generalizing m tr with
  | nil =>
    simp only [replay, Option.some.injEq, Prod.mk.injEq] at h
    obtain ⟨rfl, rfl⟩ := h
    exact .nil
  | cons a as ih =>
    simp only [replay, Option.bind_eq_some_iff, Option.map_eq_some_iff] at h
    obtain ⟨⟨m₁, e⟩, hstep, ⟨m₂, tr'⟩, hrest, heq⟩ := h
    simp only [Prod.mk.injEq] at heq
    obtain ⟨rfl, rfl⟩ := heq
    simpa using Run.append (Run.step a .nil hstep) (ih hrest)

theorem Machine.init_inv {c : Conn} (hc : c.pending = none) : (Machine.init c).handoff.Inv where
  turn i := by simp [Machine.init, Machine.handoff, Phase.role, Role.holds]
  pending q hq := by simp [Machine.init, Machine.handoff, hc] at hq
  carried h t r hct := by
    cases h <;> simp [Machine.init, Machine.handoff, Handoff.carries, Reader.gives, Phase.role] at hct
  single h h' t r r' hct := by
    cases h <;> simp [Machine.init, Machine.handoff, Handoff.carries, Reader.gives, Phase.role] at hct
  registered i req t hi := by simp [Machine.init, Machine.handoff, Phase.role] at hi
  receiving i req t hi := by simp [Machine.init, Machine.handoff, Phase.role] at hi

theorem Run.inv {c : Conn} (hc : c.pending = none) {tr : List Event} {m : Machine}
    (h : Run (Machine.init c) tr m) : m.handoff.Inv := by
  induction h with
  | nil => exact Machine.init_inv hc
  | step a _ hstep ih => exact (Machine.step_spec hstep).handoff.inv ih

end LcdPanel.Link
