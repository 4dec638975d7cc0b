import LcdPanel.Proofs.Link.Steps

/-!
The link state, report queue and queue generations of a shared connection. `Machine.step_lifecycle`
says once what a step can do to them, and `Run.lifecycle_sound` what every run keeps.
-/

namespace LcdPanel.Link

open LcdPanel.Frame

/-- The part of a connection that its lifecycle moves: the link state, the open report queue, and
how many queues were opened. -/
structure Lifecycle where
  state : LinkState
  queue : Option Nat
  generations : Nat
  deriving DecidableEq, Repr

namespace Lifecycle

def down (l : Lifecycle) : Lifecycle := { l with state := .disconnected, queue := none }

structure Sound (l : Lifecycle) : Prop where
  queue_of_down : l.state = .disconnected → l.queue = none
  queue_last : ∀ g, l.queue = some g → g = l.generations

theorem sound_down (l : Lifecycle) : l.down.Sound where
  queue_of_down _ := rfl
  queue_last _ h := by cases h

theorem Sound.setState {l : Lifecycle} (hl : l.Sound) {s : LinkState}
    (hs : s ≠ .disconnected) : { l with state := s }.Sound where
  queue_of_down h := absurd h hs
  queue_last := hl.queue_last

end Lifecycle

def Conn.lifecycle (c : Conn) : Lifecycle := ⟨c.state, c.queue, c.generations⟩

namespace Conn

@[simp] theorem lifecycle_state (c : Conn) : c.lifecycle.state = c.state := rfl

@[simp] theorem lifecycle_queue (c : Conn) : c.lifecycle.queue = c.queue := rfl

@[simp] theorem lifecycle_generations (c : Conn) : c.lifecycle.generations = c.generations := rfl

theorem lifecycle_eq_iff {c : Conn} {l : Lifecycle} :
    c.lifecycle = l ↔ c.state = l.state ∧ c.queue = l.queue ∧ c.generations = l.generations := by
  cases l
  simp [lifecycle]

theorem lifecycle_of_claim {c c' : Conn} {accepts : Pending → Bool} {q : Option Pending}
    (h : c.claim accepts = (c', q)) : c'.lifecycle = c.lifecycle := by
  unfold claim at h
  split at h
  · split at h <;> cases h <;> rfl
  · cases h; rfl

@[simp] theorem lifecycle_unregister (c : Conn) (t : Nat) :
    (c.unregister t).1.lifecycle = c.lifecycle := by
  unfold unregister
  split
  · split <;> rfl
  · rfl

/-- A connect's first phase goes through only at a down link with a supported rate, and opens the
queue of the next generation. -/
theorem beginConnect_eq_ok {c c' : Conn} {port : String} {baud : Int} {g : Nat}
    (h : c.beginConnect port baud = .ok (c', g)) :
    c.state = .disconnected ∧ g = c.generations + 1 ∧
      c'.lifecycle = ⟨.connecting, some (c.generations + 1), c.generations + 1⟩ := by
  unfold beginConnect at h
  split at h
  · cases h
  · split at h
    · cases h
    · rename_i hs
      cases h
      exact ⟨not_not.1 hs, rfl, rfl⟩

end Conn

def Phase.connectQueue : Phase → Option Nat
  | .opening g _ _ | .settling g _ => some g
  | _ => none

namespace Machine

/-- What a step does to the lifecycle of the connection. -/
inductive LifecycleStep (m m' : Machine) : Event → Prop where
  | keep (e : Event) (h : m'.conn.lifecycle = m.conn.lifecycle) : LifecycleStep m m' e
  | connect (i : Nat) (port : String) (baud : Int) (hs : m.conn.state = .disconnected)
      (h : m'.conn.lifecycle =
        ⟨.connecting, some (m.conn.generations + 1), m.conn.generations + 1⟩) :
      LifecycleStep m m' (.start i (.connect port baud))
  | disconnect (i : Nat) (h : m'.conn.lifecycle = m.conn.lifecycle.down) :
      LifecycleStep m m' (.start i .disconnect)
  | readFail (h : m'.conn.lifecycle = m.conn.lifecycle.down) : LifecycleStep m m' (.other none)
  | openFailed (i g : Nat) (port : String) (baud : Int) (err : PortError)
      (hp : (m.callers i).phase = .opening g port baud) (hq : m.conn.queue = some g)
      (h : m'.conn.lifecycle = m.conn.lifecycle.down) :
      LifecycleStep m m' (.port i (.openPort port baud) (.error err))
  | reopenFailed (i : Nat) (reply : Option Packet) (port : String) (baud : Int) (err : PortError)
      (hp : (m.callers i).phase = .reopening reply port baud)
      (h : m'.conn.lifecycle = m.conn.lifecycle.down) :
      LifecycleStep m m' (.port i (.reopen baud) (.error err))
  | up (i g : Nat) (port : String) (hp : (m.callers i).phase = .settling g port)
      (hs : m.conn.state = .connecting) (hq : m.conn.queue = some g)
      (h : m'.conn.lifecycle = { m.conn.lifecycle with state := .connected }) :
      LifecycleStep m m' (.other (some i))
  | reconnect (i : Nat) (reply : Option Packet) (baud : Int)
      (hp : (m.callers i).phase = .reconnecting reply baud) (hs : m.conn.state = .connected)
      (h : m'.conn.lifecycle = { m.conn.lifecycle with state := .connecting }) :
      LifecycleStep m m' (.other (some i))
  | reopened (i : Nat) (reply : Option Packet) (port : String) (baud : Int)
      (hp : (m.callers i).phase = .reopening reply port baud)
      (h : m'.conn.lifecycle = { m.conn.lifecycle with state := .connected }) :
      LifecycleStep m m' (.port i (.reopen baud) (.ok ()))

variable {m m' : Machine} {e : Event}

theorem LifecycleStep.of_conn (h : m'.conn = m.conn) : LifecycleStep m m' e :=
  .keep e (by rw [h])

theorem begin_lifecycle {i : Nat} {call : Call} (h : m'.conn = (begin m.conn call).1) :
    LifecycleStep m m' (.start i call) := by
  cases call with
  | disconnect => exact .disconnect i (by rw [h]; rfl)
  | connect port baud =>
    simp only [begin] at h
    split at h
    · exact .of_conn h
    · rename_i c' g hc
      obtain ⟨hs, -, hl⟩ := Conn.beginConnect_eq_ok hc
      exact .connect i port baud hs (by rw [h, hl])
  | _ => simp only [begin] at h; split at h <;> exact .of_conn h

theorem advance_lifecycle {i : Nat} (h : m.advance i = some (m', e)) : LifecycleStep m m' e := by
  unfold advance at h
  cases hp : (m.callers i).phase <;> simp only [hp, reduceCtorEq] at h
  case reconnecting reply baud =>
    split at h
    · simp only [Option.some.injEq, Prod.mk.injEq] at h
      obtain ⟨rfl, rfl⟩ := h
      exact .of_conn rfl
    · rename_i c hc
      simp only [Option.some.injEq, Prod.mk.injEq] at h
      obtain ⟨rfl, rfl⟩ := h
      unfold Conn.beginReconnect at hc
      split at hc
      · cases hc
      · rename_i hs
        cases hc
        exact .reconnect i reply baud hp (not_not.1 hs) rfl
  case settling g port =>
    split at h
    all_goals
      rename_i c hc
      simp only [Option.some.injEq, Prod.mk.injEq] at h
      obtain ⟨rfl, rfl⟩ := h
      unfold Conn.settleConnect at hc
    · split at hc
      · rename_i hup
        cases hc
        exact .up i g port hp hup.1 hup.2 rfl
      · split at hc <;> cases hc
    all_goals
      split at hc
      · cases hc
      · split at hc <;> cases hc
        all_goals exact .of_conn rfl
  case failing closed =>
    split at h
    all_goals
      rename_i c q hc
      simp only [Option.some.injEq, Prod.mk.injEq] at h
      obtain ⟨rfl, rfl⟩ := h
      exact .keep _ (Conn.lifecycle_of_claim hc)
  case unregistering req t why =>
    simp only [Option.some.injEq, Prod.mk.injEq] at h
    obtain ⟨rfl, rfl⟩ := h
    exact .keep _ (by simp)
  all_goals
    repeat' split at h
    all_goals cases h <;> exact .keep _ rfl

theorem answer_lifecycle {i : Nat} {r : Except PortError Unit} (h : m.answer i r = some (m', e)) :
    LifecycleStep m m' e := by
  unfold answer at h
  cases hp : (m.callers i).phase <;> simp only [hp, reduceCtorEq] at h
  case reopening reply port baud =>
    cases r with
    | ok u =>
      simp only [Conn.finishReconnect, Option.some.injEq, Prod.mk.injEq] at h
      obtain ⟨rfl, rfl⟩ := h
      exact .reopened i reply port baud hp rfl
    | error err =>
      simp only [Conn.finishReconnect, Option.some.injEq, Prod.mk.injEq] at h
      obtain ⟨rfl, rfl⟩ := h
      exact .reopenFailed i reply port baud err hp rfl
  case opening g port baud =>
    cases r with
    | ok u =>
      simp only [Option.some.injEq, Prod.mk.injEq] at h
      obtain ⟨rfl, rfl⟩ := h
      exact .keep _ rfl
    | error err =>
      simp only [Conn.openFailed, Option.some.injEq, Prod.mk.injEq] at h
      obtain ⟨rfl, rfl⟩ := h
      by_cases hq : m.conn.queue = some g
      · exact .openFailed i g port baud err hp hq (by simp only [setPhase_conn, hq, if_true]; rfl)
      · exact .keep _ (by simp only [setPhase_conn, hq, if_false])
  all_goals
    simp only [Option.some.injEq, Prod.mk.injEq] at h
    obtain ⟨rfl, rfl⟩ := h
    exact .keep _ rfl

theorem read_lifecycle (h : m.read = some (m', e)) : LifecycleStep m m' e := by
  unfold read at h
  repeat' split at h
  all_goals
    cases h <;> first
      | exact .keep _ rfl
      | exact .keep _ (Conn.lifecycle_of_claim (by assumption))

/-- What a step does to the lifecycle: the one inversion of the step function for it. -/
theorem step_lifecycle {a : Act} (h : m.step a = some (m', e)) : LifecycleStep m m' e := by
  cases a with
  | start i c =>
    simp only [step] at h
    split at h
    · simp only [Option.some.injEq, Prod.mk.injEq] at h
      obtain ⟨rfl, rfl⟩ := h
      exact begin_lifecycle rfl
    · cases h
  | step i => exact advance_lifecycle h
  | answer i r => exact answer_lifecycle h
  | readFail text =>
    simp only [step] at h
    split at h
    · simp only [Option.some.injEq, Prod.mk.injEq] at h
      obtain ⟨rfl, rfl⟩ := h
      exact .readFail rfl
    all_goals cases h
  | read => exact read_lifecycle h
  | _ =>
    simp only [step] at h
    repeat' split at h
    all_goals cases h <;> exact .keep _ rfl

/-- The steps that close the report queue of generation `g`: a disconnect's first phase, a failed
read, the failed open of the connect that opened the queue, and a failed reopen. -/
def ClosesQueue (m : Machine) (g : Nat) : Event → Prop
  | .start _ .disconnect | .other none => True
  | .port i (.openPort port baud) (.error _) => (m.callers i).phase = .opening g port baud
  | .port i (.reopen baud) (.error _) => ∃ reply port, (m.callers i).phase = .reopening reply port baud
  | _ => False

namespace LifecycleStep

theorem generations_le (h : LifecycleStep m m' e) : m.conn.generations ≤ m'.conn.generations := by
  cases h
  all_goals
    rename_i hl
    have hg := (Conn.lifecycle_eq_iff.1 hl).2.2
    simp only [Lifecycle.down, Conn.lifecycle_generations] at hg
    omega

theorem sound (h : LifecycleStep m m' e) (hl : m.conn.lifecycle.Sound) :
    m'.conn.lifecycle.Sound := by
  cases h with
  | keep _ h => rw [h]; exact hl
  | connect _ _ _ _ h => rw [h]; exact ⟨fun h => (by cases h), fun _ h => (Option.some.inj h).symm⟩
  | disconnect _ h => rw [h]; exact Lifecycle.sound_down _
  | readFail h => rw [h]; exact Lifecycle.sound_down _
  | openFailed _ _ _ _ _ _ _ h => rw [h]; exact Lifecycle.sound_down _
  | reopenFailed _ _ _ _ _ _ h => rw [h]; exact Lifecycle.sound_down _
  | up _ _ _ _ _ _ h => rw [h]; exact hl.setState (by decide)
  | reconnect _ _ _ _ _ h => rw [h]; exact hl.setState (by decide)
  | reopened _ _ _ _ _ h => rw [h]; exact hl.setState (by decide)

/-- A step that takes the link out of down is a connect's first phase or the answer of a port that
was being reopened. -/
theorem leaves_down (h : LifecycleStep m m' e) (hs : m.conn.state = .disconnected)
    (hs' : m'.conn.state ≠ .disconnected) :
    (∃ i port baud, e = .start i (.connect port baud)) ∨
      ∃ i reply port baud, (m.callers i).phase = .reopening reply port baud ∧
        e = .port i (.reopen baud) (.ok ()) := by
  cases h with
  | keep _ h => exact absurd ((Conn.lifecycle_eq_iff.1 h).1.trans hs) hs'
  | connect i port baud => exact .inl ⟨i, port, baud, rfl⟩
  | reopened i reply port baud hp => exact .inr ⟨i, reply, port, baud, hp, rfl⟩
  | up _ _ _ _ hc => rw [hs] at hc; cases hc
  | reconnect _ _ _ _ hc => rw [hs] at hc; cases hc
  | disconnect _ h | readFail h | openFailed _ _ _ _ _ _ _ h | reopenFailed _ _ _ _ _ _ h =>
    exact absurd (Conn.lifecycle_eq_iff.1 h).1 hs'

/-- A queue that closes is not replaced: the link goes down, in one of the ways that close it. -/
theorem queue_closes (h : LifecycleStep m m' e) (hl : m.conn.lifecycle.Sound) {g : Nat}
    (hq : m.conn.queue = some g) (hq' : m'.conn.queue ≠ some g) :
    m'.conn.state = .disconnected ∧ m'.conn.queue = none ∧ m.ClosesQueue g e := by
  cases h with
  | keep _ h => exact absurd ((Conn.lifecycle_eq_iff.1 h).2.1.trans hq) hq'
  | connect _ _ _ hs => rw [show m.conn.queue = none from hl.queue_of_down hs] at hq; cases hq
  | disconnect _ h => exact ⟨(Conn.lifecycle_eq_iff.1 h).1, (Conn.lifecycle_eq_iff.1 h).2.1, trivial⟩
  | readFail h => exact ⟨(Conn.lifecycle_eq_iff.1 h).1, (Conn.lifecycle_eq_iff.1 h).2.1, trivial⟩
  | openFailed i g' port baud err hp hg h =>
    obtain rfl : g' = g := Option.some.inj (hg.symm.trans hq)
    exact ⟨(Conn.lifecycle_eq_iff.1 h).1, (Conn.lifecycle_eq_iff.1 h).2.1, hp⟩
  | reopenFailed i reply port baud err hp h =>
    exact ⟨(Conn.lifecycle_eq_iff.1 h).1, (Conn.lifecycle_eq_iff.1 h).2.1, reply, port, hp⟩
  | up _ _ _ _ _ _ h | reconnect _ _ _ _ _ h | reopened _ _ _ _ _ h =>
    exact absurd ((Conn.lifecycle_eq_iff.1 h).2.1.trans hq) hq'

/-- A queue opens only at a connect's first phase, at a down link, under the next generation. -/
theorem queue_opens (h : LifecycleStep m m' e) {g : Nat} (hq : m.conn.queue ≠ some g)
    (hq' : m'.conn.queue = some g) :
    m.conn.state = .disconnected ∧ g = m.conn.generations + 1 ∧
      ∃ i port baud, e = .start i (.connect port baud) := by
  cases h with
  | connect i port baud hs h =>
    have hg := (Conn.lifecycle_eq_iff.1 h).2.1
    rw [hq'] at hg
    exact ⟨hs, Option.some.inj hg, i, port, baud, rfl⟩
  | keep _ h | up _ _ _ _ _ _ h | reconnect _ _ _ _ _ h | reopened _ _ _ _ _ h =>
    exact absurd ((Conn.lifecycle_eq_iff.1 h).2.1.symm.trans hq') hq
  | disconnect _ h | readFail h | openFailed _ _ _ _ _ _ _ h | reopenFailed _ _ _ _ _ _ h =>
    rw [(Conn.lifecycle_eq_iff.1 h).2.1] at hq'
    cases hq'

end LifecycleStep

/-- A connect's first phase hands its new phase the generation of the queue it opened. -/
theorem begin_connectQueue {c : Conn} {call : Call} {g : Nat}
    (h : (begin c call).2.connectQueue = some g) : g = (begin c call).1.generations := by
  cases call with
  | connect port baud =>
    simp only [begin] at h ⊢
    split at h
    · simp [Phase.connectQueue] at h
    · rename_i c' g' hc
      obtain ⟨-, rfl, hl⟩ := Conn.beginConnect_eq_ok hc
      simp only [Phase.connectQueue, Option.some.injEq] at h
      rw [← h, (Conn.lifecycle_eq_iff.1 hl).2.2]
  | disconnect => simp [begin, Phase.connectQueue] at h
  | _ =>
    simp only [begin] at h
    repeat' split at h
    all_goals simp [Phase.connectQueue] at h

theorem Flow.connectQueue {i : Nat} {p p' : Phase} (hf : Flow i p p' e) {g : Nat}
    (hg : p'.connectQueue = some g) : (∃ c, e = .start i c) ∨ p.connectQueue = some g := by
  cases hf <;> simp_all [Phase.connectQueue]

/-- What every machine reachable from a connection with a sound lifecycle keeps: the lifecycle
stays sound, and a connect that is opening its port or settling holds a generation already handed
out. -/
structure LifecycleInv (m : Machine) : Prop where
  sound : m.conn.lifecycle.Sound
  connect_le : ∀ i g, (m.callers i).phase.connectQueue = some g → g ≤ m.conn.generations

theorem LifecycleInv.step (hinv : m.LifecycleInv) {a : Act} (h : m.step a = some (m', e)) :
    m'.LifecycleInv := by
  have hl := step_lifecycle h
  have hs := step_spec h
  refine ⟨hl.sound hinv.sound, fun j g hg => ?_⟩
  have hle := hl.generations_le
  by_cases hj : e.actor = some j
  · rcases Flow.connectQueue (hs.flow j hj) hg with ⟨c, rfl⟩ | hg₀
    · -- the caller's start: its phase and the connection are the first phase's
      obtain ⟨-, hcaller, hconn⟩ := hs.shows
      rw [hcaller] at hg
      rw [hconn]
      exact Nat.le_of_eq (begin_connectQueue hg)
    · exact Nat.le_trans (hinv.connect_le j g hg₀) hle
  · rw [hs.frame j hj] at hg
    exact Nat.le_trans (hinv.connect_le j g hg) hle

/-- A connect whose queue is no longer open settles without touching the connection: it goes on to
close the port again if the link is down, and else returns that the connection closed. -/
theorem settle_lost {i g : Nat} {port : String} (hp : (m.callers i).phase = .settling g port)
    (hq : m.conn.queue ≠ some g) :
    m.step (.step i) = some (m.setPhase i (if m.conn.state = .disconnected then .abandoning port
      else .returning (.failed (Conn.closedDuringConnect port))), .other (some i)) := by
  have hset : m.conn.settleConnect g =
      (m.conn, if m.conn.state = .disconnected then .abandoned else .superseded) := by
    unfold Conn.settleConnect
    rw [if_neg fun h => hq h.2]
    split <;> rfl
  by_cases hs : m.conn.state = .disconnected
  · simp only [step, advance, hp, hset, hs, if_true]
  · simp only [step, advance, hp, hset, hs, if_false]

/-- A connect refused for its rate, or because the link is not down, leaves the connection as it is:
the caller returns the refusal. -/
theorem connect_refused {i : Nat} {port : String} {baud : Int} (hi : (m.callers i).phase = .idle)
    (h : ¬ supportedBaud baud ∨ m.conn.state ≠ .disconnected) :
    m.step (.start i (.connect port baud)) = some (m.setCaller i
      ⟨some (.connect port baud), .returning (.failed (.connection "connect" port
        (if supportedBaud baud then .alreadyConnected else .unsupportedBaud baud))), none⟩,
      .start i (.connect port baud)) := by
  have hb : m.conn.beginConnect port baud = .error (.connection "connect" port
      (if supportedBaud baud then .alreadyConnected else .unsupportedBaud baud)) := by
    unfold Conn.beginConnect
    by_cases hr : supportedBaud baud
    · have hs : m.conn.state ≠ .disconnected := h.resolve_left (not_not.2 hr)
      simp [hr, hs]
    · simp [hr]
  simp only [step, hi, if_true, begin, hb]

end Machine

namespace Run

variable {c : Conn} {tr : List Event} {m : Machine}

theorem lifecycleInv (hc : c.lifecycle.Sound) (h : Run (Machine.init c) tr m) :
    m.LifecycleInv := by
  induction h with
  | nil => exact ⟨hc, fun i g hg => by simp [Machine.init, Phase.connectQueue] at hg⟩
  | step a _ hstep ih => exact ih.step hstep

/-- From a down connection, a link that is not down has no queue only after a reconnect's port,
being reopened when the link went down, answered. -/
theorem revived (hs : c.state = .disconnected) (h : Run (Machine.init c) tr m)
    (hq : m.conn.queue = none) (hs' : m.conn.state ≠ .disconnected) :
    ∃ pre post m₁ i reply port baud, tr = pre ++ .port i (.reopen baud) (.ok ()) :: post ∧
      Run (Machine.init c) pre m₁ ∧ (m₁.callers i).phase = .reopening reply port baud ∧
      m₁.conn.state = .disconnected := by
  induction h with
  | nil => exact absurd hs hs'
  | @step tr m₁ m₂ e a hrun hstep ih =>
    by_cases hprev : m₁.conn.queue = none ∧ m₁.conn.state ≠ .disconnected
    · obtain ⟨pre, post, m₀, i, reply, port, baud, rfl, hpre, hp, hd⟩ := ih hprev.1 hprev.2
      exact ⟨pre, post ++ [e], m₀, i, reply, port, baud, by simp, hpre, hp, hd⟩
    · -- before the step the link was down whenever it had no queue; only a reopen breaks that
      have hdown : m₁.conn.queue = none → m₁.conn.state = .disconnected := fun hn =>
        Classical.byContradiction fun hn' => hprev ⟨hn, hn'⟩
      cases Machine.step_lifecycle hstep with
      | reopened i reply port baud hp hl =>
        have hq₁ : m₁.conn.queue = none := (Conn.lifecycle_eq_iff.1 hl).2.1.symm.trans hq
        exact ⟨tr, [], m₁, i, reply, port, baud, rfl, hrun, hp, hdown hq₁⟩
      | keep _ hl =>
        have ⟨hs₂, hq₂, _⟩ := Conn.lifecycle_eq_iff.1 hl
        exact absurd (hs₂.trans (hdown (hq₂.symm.trans hq))) hs'
      | connect _ _ _ _ hl => rw [(Conn.lifecycle_eq_iff.1 hl).2.1] at hq; cases hq
      | up _ _ _ _ _ hq₁ hl =>
        rw [(Conn.lifecycle_eq_iff.1 hl).2.1, Conn.lifecycle_queue, hq₁] at hq
        cases hq
      | reconnect _ _ _ _ hs₁ hl =>
        have hq₁ : m₁.conn.queue = none := (Conn.lifecycle_eq_iff.1 hl).2.1.symm.trans hq
        rw [hdown hq₁] at hs₁
        cases hs₁
      | disconnect _ hl | readFail hl | openFailed _ _ _ _ _ _ _ hl | reopenFailed _ _ _ _ _ _ hl =>
        exact absurd (Conn.lifecycle_eq_iff.1 hl).1 hs'

end Run

/-- The lifecycle of a shared connection along a run from `c` that shows events `tr` and ends in
`m`: what holds of `m`, and of every step from it. -/
structure LifecycleSound (c : Conn) (tr : List Event) (m : Machine) : Prop where
  /-- A down link has no report queue. -/
  queue_of_down : m.conn.state = .disconnected → m.conn.queue = none
  /-- A link that is not down has no queue only after a reconnect's port, being reopened when the
  link went down, answered. -/
  revived : m.conn.queue = none → m.conn.state ≠ .disconnected →
    ∃ pre post m₁ i reply port baud, tr = pre ++ .port i (.reopen baud) (.ok ()) :: post ∧
      Run (Machine.init c) pre m₁ ∧ (m₁.callers i).phase = .reopening reply port baud ∧
      m₁.conn.state = .disconnected
  /-- Only a connect's first phase, or the answer of a port being reopened, takes the link out of
  down. -/
  leaves_down : ∀ a m' e, m.step a = some (m', e) → m.conn.state = .disconnected →
    m'.conn.state ≠ .disconnected →
    (∃ i port baud, e = .start i (.connect port baud)) ∨
      ∃ i reply port baud, (m.callers i).phase = .reopening reply port baud ∧
        e = .port i (.reopen baud) (.ok ())
  /-- A queue is never replaced: it closes as the link goes down, by a disconnect, a failed read,
  the failed open of the connect that opened it, or a failed reopen. -/
  queue_closes : ∀ a m' e g, m.step a = some (m', e) → m.conn.queue = some g →
    m'.conn.queue ≠ some g →
    m'.conn.state = .disconnected ∧ m'.conn.queue = none ∧ m.ClosesQueue g e
  /-- A queue opens only at a connect's first phase, at a down link, under a generation above all
  those handed out before. -/
  queue_opens : ∀ a m' e g, m.step a = some (m', e) → m.conn.queue ≠ some g →
    m'.conn.queue = some g →
    m.conn.state = .disconnected ∧ g = m.conn.generations + 1 ∧
      ∃ i port baud, e = .start i (.connect port baud)
  /-- A connect whose queue was closed while its port opened never sees it open again... -/
  lost_stays : ∀ i g, (m.callers i).phase.connectQueue = some g → m.conn.queue ≠ some g →
    ∀ a m' e, m.step a = some (m', e) → m'.conn.queue ≠ some g
  /-- ... and settles without bringing the link up. -/
  lost_settles : ∀ i g port, (m.callers i).phase = .settling g port → m.conn.queue ≠ some g →
    m.step (.step i) = some (m.setPhase i (if m.conn.state = .disconnected then .abandoning port
      else .returning (.failed (Conn.closedDuringConnect port))), .other (some i))
  /-- A connect refused for its rate, or because the link is not down, changes nothing but its
  caller. -/
  refused : ∀ i port baud, (m.callers i).phase = .idle →
    ¬ supportedBaud baud ∨ m.conn.state ≠ .disconnected →
    m.step (.start i (.connect port baud)) = some (m.setCaller i
      ⟨some (.connect port baud), .returning (.failed (.connection "connect" port
        (if supportedBaud baud then .alreadyConnected else .unsupportedBaud baud))), none⟩,
      .start i (.connect port baud))

/-- Along every run from a down connection with no report queue, whatever the callers, the
reader, the port and the contexts do, the connection's lifecycle is sound. -/
theorem Run.lifecycle_sound {c : Conn} (hs : c.state = .disconnected) (hq : c.queue = none)
    {tr : List Event} {m : Machine} (h : Run (Machine.init c) tr m) : LifecycleSound c tr m := by
  have hinv := h.lifecycleInv ⟨fun _ => hq, fun g hg => by rw [Conn.lifecycle_queue, hq] at hg; cases hg⟩
  refine ⟨hinv.sound.queue_of_down, h.revived hs, fun a m' e hstep => ?_, fun a m' e g hstep => ?_,
    fun a m' e g hstep => ?_, fun i g hg hq a m' e hstep hq' => ?_, fun i g port hp hq => ?_,
    fun i port baud hi hr => ?_⟩
  · exact (Machine.step_lifecycle hstep).leaves_down
  · exact (Machine.step_lifecycle hstep).queue_closes hinv.sound
  · exact (Machine.step_lifecycle hstep).queue_opens
  · -- a reopened queue would be of a generation above the connect's own
    have hle := hinv.connect_le i g hg
    have hnext := ((Machine.step_lifecycle hstep).queue_opens hq hq').2.1
    omega
  · exact Machine.settle_lost hp hq
  · exact Machine.connect_refused hi hr

/-- A fresh connection connects; a reconnect to 9600 baud begins reopening the port; a disconnect
runs meanwhile, and only then the port answers that it reopened. Both calls return. -/
def revival : List Act :=
  [.start 0 (.connect "ttyTEST" 19200), .answer 0 (.ok ()), .step 0, .step 0,
    .start 0 (.reconnect 9600), .step 0, .step 0, .start 1 .disconnect, .answer 0 (.ok ()),
    .answer 1 (.ok ()), .step 1, .step 1, .step 0, .step 0]

theorem revival_lifecycle_sound : ({} : Conn).state = .disconnected ∧ ({} : Conn).queue = none ∧
    ∃ tr m, (Machine.init {}).replay revival = some (m, tr) ∧ LifecycleSound {} tr m := by
  obtain ⟨⟨m, tr⟩, hr⟩ := Option.isSome_iff_exists.1
    (show ((Machine.init {}).replay revival).isSome = true by decide +kernel)
  exact ⟨rfl, rfl, tr, m, hr, Run.lifecycle_sound rfl rfl (Machine.replay_run hr)⟩

/-- A reconnect whose port was being reopened when the link was disconnected brings the link back
up, with no report queue: the disconnect and the reconnect both succeed, and the connection ends
connected. -/
theorem reopen_revives_link :
    ∃ tr m, (Machine.init {}).replay revival = some (m, tr) ∧ m.conn.state = .connected ∧
      m.conn.queue = none ∧
      ∃ a b, tr = a ++ .start 1 .disconnect :: b ∧ .port 0 (.reopen 9600) (.ok ()) ∈ b ∧
        .finish 1 {} ∈ b ∧ .finish 0 {} ∈ b := by
  have hev : ((Machine.init {}).replay revival).map (fun r => (r.1.conn.state, r.1.conn.queue, r.2)) =
      some (.connected, none,
        [.start 0 (.connect "ttyTEST" 19200), .port 0 (.openPort "ttyTEST" 19200) (.ok ()),
          .other (some 0), .finish 0 {}, .start 0 (.reconnect 9600), .lock 0, .other (some 0)] ++
        .start 1 .disconnect ::
        [.port 0 (.reopen 9600) (.ok ()), .port 1 .close (.ok ()), .claim (some 1) none,
          .finish 1 {}, .unlock 0, .finish 0 {}]) := by
    decide +kernel
  obtain ⟨⟨m, tr⟩, hr, htr⟩ := Option.map_eq_some_iff.1 hev
  simp only [Prod.mk.injEq] at htr
  obtain ⟨hs, hq, rfl⟩ := htr
  exact ⟨_, m, hr, hs, hq, _, _, rfl, by simp, by simp, by simp⟩

end LcdPanel.Link
