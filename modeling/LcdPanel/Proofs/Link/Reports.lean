import LcdPanel.Link.Conn

/-!
Reports reach the subscribers through a queue under a lock with a condition, drained by a
delivery loop of its own; every interleaving of pushes, closes, signals and subscriber changes is a
run.
-/

namespace LcdPanel.Link

open LcdPanel.Frame

/-! ## What the receive path pushes -/

theorem Report.action_ofPacket (p : Packet) :
    (Report.ofPacket p).action = if p.id = 0 then ⟨p.data.headD 0⟩ else ⟨0⟩ := by
  unfold Report.ofPacket Report.action
  by_cases h : p.id = 0
  · cases p.data <;> simp [h]
  · simp [h]

namespace Conn

theorem replyOf_eq_none {p : Packet} : replyOf p = none ↔ p.kind = .report := by
  unfold replyOf
  cases p.kind <;> simp

theorem claim_queue (c : Conn) (accepts : Pending → Bool) :
    (c.claim accepts).1.queue = c.queue := by
  unfold claim
  split
  · split <;> rfl
  · rfl

theorem resolve_queue (c : Conn) (accepts : Pending → Bool) (r : Except LinkError Packet) :
    (c.resolve accepts r).queue = c.queue := by
  have hq := claim_queue c accepts
  unfold resolve
  split <;> rename_i heq <;> simpa [heq] using hq

/-- A packet keeps the queue, and pushes its report when it is a report packet and the queue is
open. -/
theorem dispatch_reports (c : Conn) (p : Packet) :
    (c.dispatch p).1.queue = c.queue ∧
      (c.dispatch p).2.map Delivery.report =
        if c.queue.isSome ∧ p.kind = .report then [Report.ofPacket p] else [] := by
  unfold dispatch
  cases hr : replyOf p with
  | none =>
    have hk : p.kind = .report := replyOf_eq_none.1 hr
    unfold deliveries
    cases c.queue <;> simp [hk]
  | some ar =>
    have hk : p.kind ≠ .report := fun hk => by simp [replyOf_eq_none.2 hk] at hr
    simp [resolve_queue, hk]

/-- The reports pushed by a run of decoded packets are those of its report packets, in decode
order, while the queue is open, and none otherwise; the awaited command plays no part. -/
theorem dispatchAll_reports (c : Conn) (ps : List Packet) :
    (c.dispatchAll ps).2.map Delivery.report =
      if c.queue.isSome then (ps.filter fun p => p.kind = .report).map Report.ofPacket else [] := by
  induction ps generalizing c with
  | nil => simp [dispatchAll]
  | cons p ps ih =>
    obtain ⟨hq, hd⟩ := dispatch_reports c p
    simp only [dispatchAll, List.map_append, hd, ih, hq]
    by_cases hk : p.kind = .report <;> cases c.queue.isSome <;> simp [hk]

/-! ## Subscribers -/

structure Ordered (c : Conn) : Prop where
  sorted : (c.subscribers.map Subscriber.handle).Pairwise (· < ·)
  below : ∀ s ∈ c.subscribers, s.handle < c.handles

theorem Ordered.subscribe {c : Conn} (hc : c.Ordered) (keysOnly : Bool) :
    (c.subscribe keysOnly).1.Ordered where
  sorted := by
    simp only [Conn.subscribe, List.map_append, List.map_cons, List.map_nil]
    exact List.pairwise_append.2 ⟨hc.sorted, List.pairwise_singleton _ _, by simpa using hc.below⟩
  below s hs := by
    simp only [Conn.subscribe, List.mem_append, List.mem_singleton] at hs ⊢
    rcases hs with hs | rfl
    · exact Nat.lt_succ_of_lt (hc.below s hs)
    · exact Nat.lt_succ_self _

theorem Ordered.unsubscribe {c : Conn} (hc : c.Ordered) (h : Nat) : (c.unsubscribe h).1.Ordered := by
  unfold Conn.unsubscribe
  split
  · exact ⟨hc.sorted.sublist (List.filter_sublist.map _),
      fun s hs => hc.below s (List.mem_filter.1 hs).1⟩
  · exact hc

/-- Removing a subscriber takes out exactly that one, keeps the others in their order, and returns
true. -/
theorem unsubscribe_of_eq_append {c : Conn} (hc : c.Ordered) {l₁ l₂ : List Subscriber}
    {s : Subscriber} (hs : c.subscribers = l₁ ++ s :: l₂) :
    c.unsubscribe s.handle = ({ c with subscribers := l₁ ++ l₂ }, true) := by
  have hsorted := hc.sorted
  rw [hs] at hsorted
  simp only [List.map_append, List.map_cons, List.pairwise_append, List.pairwise_cons,
    List.mem_map, List.mem_cons] at hsorted
  obtain ⟨_, ⟨hafter, _⟩, hbefore⟩ := hsorted
  have h₁ : ∀ x ∈ l₁, x.handle ≠ s.handle := fun x hx =>
    Nat.ne_of_lt (hbefore _ ⟨x, hx, rfl⟩ _ (.inl rfl))
  have h₂ : ∀ x ∈ l₂, x.handle ≠ s.handle := fun x hx =>
    Nat.ne_of_gt (hafter _ ⟨x, hx, rfl⟩)
  have hany : c.subscribers.any (·.handle = s.handle) = true := by simp [hs]
  rw [unsubscribe, if_pos hany]
  simp only [hs, List.filter_append, List.filter_cons, ne_eq, not_true_eq_false, decide_false,
    Bool.false_eq_true, if_false]
  rw [List.filter_eq_self.2 (by simpa using h₁), List.filter_eq_self.2 (by simpa using h₂)]

@[simp] theorem unsubscribe_handles (c : Conn) (h : Nat) : (c.unsubscribe h).1.handles = c.handles := by
  unfold unsubscribe
  split <;> rfl

theorem unsubscribe_of_forall_ne {c : Conn} {h : Nat} (hn : ∀ s ∈ c.subscribers, s.handle ≠ h) :
    c.unsubscribe h = (c, false) := by
  have hany : c.subscribers.any (·.handle = h) = false := by simpa using hn
  simp [unsubscribe, hany]

end Conn

/-! ## The queue and its delivery loop -/

/-- Where the delivery loop of a report queue is: handing out a batch it took off the queue (with none
left, at the top of its loop), waiting on the condition with the lock given back, or returned. -/
inductive Runner where
  | running (batch : List Report)
  | waiting
  | returned
  deriving DecidableEq, Repr

namespace Runner

def batch : Runner → List Report
  | .running b => b
  | _ => []

/-- A signal wakes a waiting loop, which then looks at the queue again; a loop that is not
waiting does not notice it. -/
def wake : Runner → Runner
  | .waiting => .running []
  | r => r

@[simp] theorem batch_wake (r : Runner) : r.wake.batch = r.batch := by
  cases r <;> rfl

@[simp] theorem wake_eq_returned (r : Runner) : r.wake = .returned ↔ r = .returned := by
  cases r <;> simp [wake]

@[simp] theorem wake_ne_waiting (r : Runner) : r.wake ≠ .waiting := by
  cases r <;> simp [wake]

end Runner

/-- A report queue with its delivery loop, and the connection whose subscribers take the reports.
`signals` counts the pushes and closes that gave the lock back and have yet to signal. -/
structure ReportQueue where
  events : List Report := []
  closed : Bool := false
  runner : Runner := .running []
  signals : Nat := 0
  conn : Conn

namespace ReportQueue

inductive Act where
  | push (r : Report)
  | close
  | signal
  | run
  | subscribe (keysOnly : Bool)
  | unsubscribe (handle : Nat)
  deriving DecidableEq, Repr

inductive Event where
  | pushed (r : Report) (kept : Bool)
  | closed
  | signalled
  | took (batch : List Report)
  | waited
  | delivered (d : Delivery)
  | returned
  | subscribed (s : Subscriber)
  | unsubscribed (handle : Nat) (removed : Bool)
  deriving DecidableEq, Repr

def start (c : Conn) : ReportQueue := { conn := c }

def push (q : ReportQueue) (r : Report) : ReportQueue :=
  { q with events := if q.closed then q.events else q.events ++ [r], signals := q.signals + 1 }

/-- One step of the delivery loop. With reports of its batch left it hands out the first to the
subscribers registered at that moment; with none left it looks at the queue under the lock and
takes all of it, or returns if the queue is closed and empty, or else waits. A waiting loop and
one that returned take no step. -/
def runStep (q : ReportQueue) : Option (ReportQueue × Event) :=
  match q.runner with
  | .running (r :: rest) =>
    some ({ q with runner := .running rest }, .delivered ⟨r, q.conn.takers r⟩)
  | .running [] =>
    match q.events with
    | [] =>
      if q.closed then some ({ q with runner := .returned }, .returned)
      else some ({ q with runner := .waiting }, .waited)
    | r :: rs => some ({ q with events := [], runner := .running (r :: rs) }, .took (r :: rs))
  | .waiting | .returned => none

/-- One step, if the act can happen now. -/
def step (q : ReportQueue) : Act → Option (ReportQueue × Event)
  | .push r => some (q.push r, .pushed r !q.closed)
  | .close => some ({ q with closed := true, signals := q.signals + 1 }, .closed)
  | .signal =>
    if q.signals = 0 then none
    else some ({ q with signals := q.signals - 1, runner := q.runner.wake }, .signalled)
  | .run => q.runStep
  | .subscribe keysOnly =>
    let (c, h) := q.conn.subscribe keysOnly
    some ({ q with conn := c }, .subscribed ⟨h, keysOnly⟩)
  | .unsubscribe h =>
    let (c, removed) := q.conn.unsubscribe h
    some ({ q with conn := c }, .unsubscribed h removed)

inductive Moves (q : ReportQueue) : ReportQueue → Event → Prop
  | push (r : Report) : Moves q (q.push r) (.pushed r !q.closed)
  | close : Moves q { q with closed := true, signals := q.signals + 1 } .closed
  | signal : 0 < q.signals →
      Moves q { q with signals := q.signals - 1, runner := q.runner.wake } .signalled
  | deliver {r : Report} {rest : List Report} : q.runner = .running (r :: rest) →
      Moves q { q with runner := .running rest } (.delivered ⟨r, q.conn.takers r⟩)
  | take {r : Report} {rs : List Report} : q.runner = .running [] → q.events = r :: rs →
      Moves q { q with events := [], runner := .running (r :: rs) } (.took (r :: rs))
  | wait : q.runner = .running [] → q.events = [] → q.closed = false →
      Moves q { q with runner := .waiting } .waited
  | finish : q.runner = .running [] → q.events = [] → q.closed = true →
      Moves q { q with runner := .returned } .returned
  | subscribe (keysOnly : Bool) :
      Moves q { q with conn := (q.conn.subscribe keysOnly).1 } (.subscribed ⟨q.conn.handles, keysOnly⟩)
  | unsubscribe (h : Nat) :
      Moves q { q with conn := (q.conn.unsubscribe h).1 } (.unsubscribed h (q.conn.unsubscribe h).2)

variable {q q' : ReportQueue} {e : Event}

theorem runStep_moves (h : q.runStep = some (q', e)) : Moves q q' e := by
  unfold runStep at h
  split at h
  · next r rest hr =>
    cases h
    exact .deliver hr
  · next hr =>
    split at h
    · next he =>
      by_cases hc : q.closed = true
      · rw [if_pos hc] at h
        cases h
        exact .finish hr he hc
      · rw [if_neg hc] at h
        cases h
        exact .wait hr he (by simpa using hc)
    · next r rs he =>
      cases h
      exact .take hr he
  · cases h
  · cases h

/-- Every step is one of the moves. -/
theorem step_moves {a : Act} (h : q.step a = some (q', e)) : Moves q q' e := by
  cases a with
  | push r => cases h; exact .push r
  | close => cases h; exact .close
  | signal =>
    simp only [step] at h
    split at h
    · cases h
    · next hs =>
      cases h
      exact .signal (Nat.pos_of_ne_zero hs)
  | run => exact runStep_moves h
  | subscribe keysOnly => cases h; exact .subscribe keysOnly
  | unsubscribe handle => cases h; exact .unsubscribe handle

/-! ## Runs -/

/-- The queue goes from `q₀` to `q` showing the events `t`, in order. -/
inductive Run (q₀ : ReportQueue) : List Event → ReportQueue → Prop
  | nil : Run q₀ [] q₀
  | step {t : List Event} {q q' : ReportQueue} {e : Event} (a : Act) :
      Run q₀ t q → q.step a = some (q', e) → Run q₀ (t ++ [e]) q'

namespace Run

variable {q₀ : ReportQueue}

theorem snoc_inv {t : List Event} (h : Run q₀ (t ++ [e]) q) :
    ∃ p a, Run q₀ t p ∧ p.step a = some (q, e) := by
  generalize hl : t ++ [e] = l at h
  cases h with
  | nil => simp at hl
  | step a hrun hstep =>
    obtain ⟨rfl, he⟩ := List.append_inj' hl rfl
    cases he
    exact ⟨_, a, hrun, hstep⟩

theorem append {t₁ t₂ : List Event} {q₁ : ReportQueue} (h₁ : Run q₀ t₁ q₁) (h₂ : Run q₁ t₂ q) :
    Run q₀ (t₁ ++ t₂) q := by
  induction h₂ with
  | nil => simpa using h₁
  | step a _ hstep ih => rw [← List.append_assoc]; exact .step a ih hstep

theorem single {a : Act} (h : q.step a = some (q', e)) : Run q [e] q' := .step a .nil h

theorem split {t₁ t₂ : List Event} (h : Run q₀ (t₁ ++ t₂) q) :
    ∃ q₁, Run q₀ t₁ q₁ ∧ Run q₁ t₂ q := by
  induction t₂ generalizing t₁ with
  | nil => exact ⟨q, by simpa using h, .nil⟩
  | cons e t₂ ih =>
    obtain ⟨q₂, h₂, hrest⟩ := ih (show Run q₀ ((t₁ ++ [e]) ++ t₂) q by simpa using h)
    obtain ⟨q₁, a, h₁, hstep⟩ := snoc_inv h₂
    exact ⟨q₁, h₁, by simpa using append (single hstep) hrest⟩

theorem split_event {pre post : List Event} (h : Run q₀ (pre ++ e :: post) q) :
    ∃ p p', Run q₀ pre p ∧ Moves p p' e ∧ Run p' post q := by
  obtain ⟨p', h', hpost⟩ := split (show Run q₀ ((pre ++ [e]) ++ post) q by simpa using h)
  obtain ⟨p, a, hp, hstep⟩ := snoc_inv h'
  exact ⟨p, p', hp, step_moves hstep, hpost⟩

end Run

/-! ## What the events say -/

namespace Event

def kept : Event → Option Report
  | .pushed r true => some r
  | _ => none

def handed : Event → Option Report
  | .delivered d => some d.report
  | _ => none

def added : Event → Option Subscriber
  | .subscribed s => some s
  | _ => none

end Event

def accepted (t : List Event) : List Report := t.filterMap Event.kept

def handedOut (t : List Event) : List Report := t.filterMap Event.handed

/-- The subscribers after the events `t` from subscribers `subs`: those there and those added, in
order, less those whose removal returned true. -/
def registered (subs : List Subscriber) (t : List Event) : List Subscriber :=
  (subs ++ t.filterMap Event.added).filter fun s => Event.unsubscribed s.handle true ∉ t

def pending (q : ReportQueue) : List Report := q.runner.batch ++ q.events

theorem accepted_snoc (t : List Event) (e : Event) :
    accepted (t ++ [e]) = accepted t ++ e.kept.toList := by
  cases h : e.kept <;> simp [accepted, h]

theorem handedOut_snoc (t : List Event) (e : Event) :
    handedOut (t ++ [e]) = handedOut t ++ e.handed.toList := by
  cases h : e.handed <;> simp [handedOut, h]

/-! ## What one step does -/

namespace Moves

theorem pending (hm : Moves q q' e) : e.handed.toList ++ q'.pending = q.pending ++ e.kept.toList := by
  cases hm with
  | push r => cases hc : q.closed <;> simp [ReportQueue.push, ReportQueue.pending, Event.handed,
      Event.kept, hc]
  | deliver hr => simp [ReportQueue.pending, Event.handed, Event.kept, Runner.batch, hr]
  | take hr he => simp [ReportQueue.pending, Event.handed, Event.kept, Runner.batch, hr, he]
  | wait hr he _ | finish hr he _ =>
    simp [ReportQueue.pending, Event.handed, Event.kept, Runner.batch, hr, he]
  | close | signal _ | subscribe _ | unsubscribe _ =>
    simp [ReportQueue.pending, Event.handed, Event.kept]

theorem closed_iff (hm : Moves q q' e) : q'.closed = true ↔ q.closed = true ∨ e = .closed := by
  cases hm <;> simp [ReportQueue.push]

theorem returned_iff (hm : Moves q q' e) :
    q'.runner = .returned ↔ q.runner = .returned ∨ e = .returned := by
  cases hm with
  | deliver hr | take hr _ | wait hr _ _ => simp [hr]
  | _ => simp [ReportQueue.push]

theorem finished (hm : Moves q q' e) (hf : q.runner = .returned → q.closed = true ∧ q.events = []) :
    q'.runner = .returned → q'.closed = true ∧ q'.events = [] := by
  cases hm with
  | push r =>
    intro hr
    obtain ⟨hc, he⟩ := hf hr
    simp [ReportQueue.push, hc, he]
  | close => intro hr; exact ⟨rfl, (hf hr).2⟩
  | signal _ => intro hr; exact hf ((Runner.wake_eq_returned _).1 hr)
  | deliver _ | take _ _ | wait _ _ _ => simp
  | finish _ he hc => intro _; exact ⟨hc, he⟩
  | subscribe _ | unsubscribe _ => exact hf

/-- No signal is lost that a waiting loop with work to do needs. -/
theorem awake (hm : Moves q q' e)
    (ha : q.runner = .waiting → (q.events = [] ∧ q.closed = false) ∨ 0 < q.signals) :
    q'.runner = .waiting → (q'.events = [] ∧ q'.closed = false) ∨ 0 < q'.signals := by
  cases hm with
  | push _ | close => intro _; exact .inr (Nat.succ_pos _)
  | signal _ => simp
  | deliver _ | take _ _ | finish _ _ _ => simp
  | wait _ he hc => intro _; exact .inl ⟨he, hc⟩
  | subscribe _ | unsubscribe _ => exact ha

/-- What a step does to the subscribers: nothing, an addition under the next handle, or a
removal. -/
theorem conn (hm : Moves q q' e) :
    (q'.conn = q.conn ∧ e.added = none ∧ ∀ h b, e ≠ .unsubscribed h b) ∨
    (∃ k, e = .subscribed ⟨q.conn.handles, k⟩ ∧ q'.conn = (q.conn.subscribe k).1) ∨
    (∃ h, e = .unsubscribed h (q.conn.unsubscribe h).2 ∧ q'.conn = (q.conn.unsubscribe h).1) := by
  cases hm with
  | subscribe k => exact .inr (.inl ⟨k, rfl, rfl⟩)
  | unsubscribe h => exact .inr (.inr ⟨h, rfl, rfl⟩)
  | _ => exact .inl ⟨rfl, rfl, by simp⟩

end Moves

/-! ## The subscribers along a run -/

section Registry

variable {subs : List Subscriber} {t : List Event}

theorem registered_snoc_quiet (he : e.added = none) (hu : ∀ h, e ≠ .unsubscribed h true) :
    registered subs (t ++ [e]) = registered subs t := by
  have hu' : ∀ h, Event.unsubscribed h true ≠ e := fun h heq => hu h heq.symm
  simp [registered, he, hu']

theorem registered_snoc_subscribed {s : Subscriber} (hs : Event.unsubscribed s.handle true ∉ t) :
    registered subs (t ++ [.subscribed s]) = registered subs t ++ [s] := by
  simp [registered, Event.added, hs]

theorem registered_snoc_unsubscribed (h : Nat) (b : Bool) :
    registered subs (t ++ [.unsubscribed h b]) =
      (registered subs t).filter fun s => !b || s.handle ≠ h := by
  simp only [registered, List.filterMap_append, List.filterMap_cons, List.filterMap_nil,
    Event.added, List.append_nil, List.filter_filter]
  congr 1
  funext s
  cases b <;> by_cases hs : s.handle = h <;> simp [hs, and_comm]

/-- The subscribers after the events `t` from subscribers `subs`, and what the handles say of
them: in the order of their handles, all below the next handle, every handle whose removal
returned true below it too, and no removal of a handle returned true twice. -/
structure Registry (subs : List Subscriber) (t : List Event) (c : Conn) : Prop where
  subscribers : c.subscribers = registered subs t
  ordered : c.Ordered
  removed_below : ∀ h, Event.unsubscribed h true ∈ t → h < c.handles
  once : ∀ h, t.count (.unsubscribed h true) ≤ 1

namespace Registry

variable {c : Conn}

theorem quiet (hr : Registry subs t c) (he : e.added = none) (hu : ∀ h, e ≠ .unsubscribed h true) :
    Registry subs (t ++ [e]) c where
  subscribers := by rw [registered_snoc_quiet he hu, hr.subscribers]
  ordered := hr.ordered
  removed_below h hh := by
    rcases List.mem_append.1 hh with hh | hh
    · exact hr.removed_below h hh
    · exact absurd (List.mem_singleton.1 hh).symm (hu h)
  once h := by
    have hne : ¬(e == Event.unsubscribed h true) := by simpa using hu h
    simpa [List.count_singleton, hne] using hr.once h

theorem subscribe (hr : Registry subs t c) (k : Bool) :
    Registry subs (t ++ [.subscribed ⟨c.handles, k⟩]) (c.subscribe k).1 where
  subscribers := by
    have hfresh : Event.unsubscribed c.handles true ∉ t := fun hh =>
      Nat.lt_irrefl _ (hr.removed_below _ hh)
    rw [registered_snoc_subscribed hfresh, ← hr.subscribers]
    rfl
  ordered := hr.ordered.subscribe k
  removed_below h hh := by
    rcases List.mem_append.1 hh with hh | hh
    · exact Nat.lt_succ_of_lt (hr.removed_below h hh)
    · simp at hh
  once h := by simpa [List.count_singleton] using hr.once h

theorem unsubscribe (hr : Registry subs t c) (h : Nat) :
    Registry subs (t ++ [.unsubscribed h (c.unsubscribe h).2]) (c.unsubscribe h).1 := by
  by_cases hmem : ∃ s ∈ c.subscribers, s.handle = h
  · -- a registered handle: the removal returns true, and it never did before
    have hany : c.subscribers.any (·.handle = h) = true := by simpa using hmem
    have hsnd : (c.unsubscribe h).2 = true := by simp [Conn.unsubscribe, hany]
    obtain ⟨s, hs, rfl⟩ := hmem
    have hfresh : Event.unsubscribed s.handle true ∉ t := by
      rw [hr.subscribers] at hs
      exact (by simpa using (List.mem_filter.1 hs).2)
    rw [hsnd]
    refine ⟨?_, hr.ordered.unsubscribe _, ?_, ?_⟩
    · rw [registered_snoc_unsubscribed, ← hr.subscribers]
      simp [Conn.unsubscribe, hany]
    · intro h' hh
      rcases List.mem_append.1 hh with hh | hh
      · simpa using hr.removed_below h' hh
      · obtain rfl : h' = s.handle := by simpa using hh
        simpa using hr.ordered.below s hs
    · intro h'
      by_cases hh : h' = s.handle
      · subst hh
        simp [List.count_eq_zero.2 hfresh]
      · simpa [List.count_singleton, Ne.symm hh] using hr.once h'
  · -- no subscriber has the handle: nothing changes and the removal returns false
    have hn : ∀ s ∈ c.subscribers, s.handle ≠ h := fun s hs hh => hmem ⟨s, hs, hh⟩
    rw [Conn.unsubscribe_of_forall_ne hn]
    exact hr.quiet rfl (by simp)

theorem step (hr : Registry subs t q.conn) (hm : Moves q q' e) : Registry subs (t ++ [e]) q'.conn := by
  rcases hm.conn with ⟨hc, he, hu⟩ | ⟨k, rfl, hc⟩ | ⟨h, rfl, hc⟩
  · exact hc ▸ hr.quiet he fun h => hu h true
  · exact hc ▸ hr.subscribe k
  · exact hc ▸ hr.unsubscribe h

end Registry

end Registry

/-! ## The invariant -/

/-- What holds after the events `t` of every run from a fresh queue over a connection with
subscribers `subs`. -/
structure Inv (subs : List Subscriber) (t : List Event) (q : ReportQueue) : Prop where
  conserved : handedOut t ++ q.pending = accepted t
  closed_iff : q.closed = true ↔ Event.closed ∈ t
  returned_iff : q.runner = .returned ↔ Event.returned ∈ t
  finished : q.runner = .returned → q.closed = true ∧ q.events = []
  awake : q.runner = .waiting → (q.events = [] ∧ q.closed = false) ∨ 0 < q.signals
  registry : Registry subs t q.conn

theorem inv_start {c : Conn} (hc : c.Ordered) : Inv c.subscribers [] (start c) where
  conserved := rfl
  closed_iff := by simp [start]
  returned_iff := by simp [start]
  finished := by simp [start]
  awake := by simp [start]
  registry := by
    refine ⟨?_, hc, by simp, by simp⟩
    simp only [registered, start, List.filterMap_nil, List.append_nil, List.not_mem_nil,
      not_false_eq_true, decide_true]
    exact (List.filter_eq_self.2 fun _ _ => rfl).symm

theorem Inv.step {subs : List Subscriber} {t : List Event} (hi : Inv subs t q) (hm : Moves q q' e) :
    Inv subs (t ++ [e]) q' where
  conserved := by
    rw [handedOut_snoc, accepted_snoc, List.append_assoc, hm.pending, ← List.append_assoc,
      hi.conserved]
  closed_iff := by
    rw [hm.closed_iff, hi.closed_iff]
    simp [eq_comm]
  returned_iff := by
    rw [hm.returned_iff, hi.returned_iff]
    simp [eq_comm]
  finished := hm.finished hi.finished
  awake := hm.awake hi.awake
  registry := hi.registry.step hm

theorem Run.inv {c : Conn} (hc : c.Ordered) {t : List Event} (h : Run (start c) t q) :
    Inv c.subscribers t q := by
  induction h with
  | nil => exact inv_start hc
  | step a _ hstep ih => exact ih.step (step_moves hstep)

/-! ## The loop alone empties the queue -/

/-- The loop hands out the rest of its batch, one step per report, to the subscribers of the
moment; the steps keep no report. -/
theorem run_batch (b : List Report) (hr : q.runner = .running b) :
    Run q (b.map fun r => .delivered ⟨r, q.conn.takers r⟩) { q with runner := .running [] } := by
  induction b generalizing q with
  | nil =>
    rw [← hr]
    exact .nil
  | cons r rest ih =>
    have hstep : q.step .run =
        some ({ q with runner := .running rest }, .delivered ⟨r, q.conn.takers r⟩) := by
      simp [step, runStep, hr]
    simpa using (Run.single hstep).append (ih (q := { q with runner := .running rest }) rfl)

/-- At the top of its loop with the queue empty, the loop returns if the queue is closed and
waits otherwise. -/
theorem run_top_empty (hr : q.runner = .running []) (he : q.events = []) :
    ∃ t q', Run q t q' ∧ accepted t = [] ∧ q'.pending = [] ∧ (q.closed = true → q'.runner = .returned) := by
  cases hc : q.closed
  · have hstep : q.step .run = some ({ q with runner := .waiting }, .waited) := by
      simp [step, runStep, hr, he, hc]
    exact ⟨_, _, Run.single hstep, rfl, by simp [pending, Runner.batch, he], nofun⟩
  · have hstep : q.step .run = some ({ q with runner := .returned }, .returned) := by
      simp [step, runStep, hr, he, hc]
    exact ⟨_, _, Run.single hstep, rfl, by simp [pending, Runner.batch, he], fun _ => rfl⟩

/-- At the top of its loop, the loop alone hands out all that is queued, then returns if the queue
is closed and waits otherwise. -/
theorem run_top (hr : q.runner = .running []) :
    ∃ t q', Run q t q' ∧ accepted t = [] ∧ q'.pending = [] ∧ (q.closed = true → q'.runner = .returned) := by
  cases he : q.events with
  | nil => exact run_top_empty hr he
  | cons r rs =>
    -- take the whole queue, hand it out, and come back to the top with the queue empty
    have htake : q.step .run =
        some ({ q with events := [], runner := .running (r :: rs) }, .took (r :: rs)) := by
      simp [step, runStep, hr, he]
    have hbatch := run_batch (q := { q with events := [], runner := .running (r :: rs) }) (r :: rs) rfl
    obtain ⟨t, q', hrun, hacc, hpend, hret⟩ :=
      run_top_empty (q := { q with events := [], runner := .running [] }) rfl rfl
    refine ⟨_, q', ((Run.single htake).append hbatch).append hrun, ?_, hpend, hret⟩
    simp only [accepted, List.filterMap_append] at hacc ⊢
    simp [hacc, Event.kept]

/-- From any state of a run, the loop alone, with the signals on their way, hands out every report
still to go, and returns if the queue is closed: no signal it needs is lost. -/
theorem Inv.drain {subs : List Subscriber} {t : List Event} (hi : Inv subs t q) :
    ∃ t' q', Run q t' q' ∧ accepted t' = [] ∧ q'.pending = [] ∧
      (q.closed = true → q'.runner = .returned) := by
  cases hr : q.runner with
  | running b =>
    obtain ⟨t', q', hrun, hacc, hpend, hret⟩ :=
      run_top (q := { q with runner := .running [] }) rfl
    refine ⟨_, q', (run_batch b hr).append hrun, ?_, hpend, hret⟩
    simp only [accepted, List.filterMap_append] at hacc ⊢
    simp [hacc, Event.kept]
  | waiting =>
    by_cases hidle : q.events = [] ∧ q.closed = false
    · exact ⟨[], q, .nil, rfl, by simp [pending, hr, Runner.batch, hidle.1], by simp [hidle.2]⟩
    · -- work to do: a signal is on its way and wakes the loop
      have hs : 0 < q.signals := (hi.awake hr).resolve_left hidle
      have hstep : q.step .signal =
          some ({ q with signals := q.signals - 1, runner := .running [] }, .signalled) := by
        simp [ReportQueue.step, Nat.pos_iff_ne_zero.1 hs, hr, Runner.wake]
      obtain ⟨t', q', hrun, hacc, hpend, hret⟩ :=
        run_top (q := { q with signals := q.signals - 1, runner := .running [] }) rfl
      exact ⟨_, q', (Run.single hstep).append hrun, by simpa [accepted, Event.kept] using hacc,
        hpend, hret⟩
  | returned =>
    have he := (hi.finished hr).2
    exact ⟨[], q, .nil, rfl, by simp [pending, hr, Runner.batch, he], fun _ => hr⟩

/-! ## Along every run from a fresh queue -/

section Runs

variable {c : Conn} {pre post t : List Event}

theorem Run.event_inv (hc : c.Ordered) (h : Run (start c) (pre ++ e :: post) q) :
    ∃ p p', Inv c.subscribers pre p ∧ Moves p p' e := by
  obtain ⟨p, p', hp, hm, -⟩ := h.split_event
  exact ⟨p, p', hp.inv hc, hm⟩

theorem Run.kept_iff (hc : c.Ordered) {r : Report} {k : Bool}
    (h : Run (start c) (pre ++ .pushed r k :: post) q) : k = true ↔ Event.closed ∉ pre := by
  obtain ⟨p, p', hi, hm⟩ := h.event_inv hc
  -- only a push shows this event, and it keeps its report exactly when the queue is open
  cases hm
  simpa using not_congr hi.closed_iff

/-- No push after a close is kept. -/
theorem Run.accepted_after_close (hc : c.Ordered) (h : Run (start c) (pre ++ post) q)
    (hcl : Event.closed ∈ pre) : accepted post = [] := by
  rw [accepted, List.filterMap_eq_nil_iff]
  intro e he
  obtain ⟨u, v, rfl⟩ := List.append_of_mem he
  cases e with
  | pushed r k =>
    cases k with
    | false => rfl
    | true =>
      have hrun : Run (start c) ((pre ++ u) ++ .pushed r true :: v) q := by simpa using h
      exact absurd (List.mem_append_left u hcl) ((kept_iff hc hrun).1 rfl)
  | _ => rfl

/-- The loop returns only after a close, and only once it handed out every report ever kept. -/
theorem Run.returned_after (hc : c.Ordered) (h : Run (start c) (pre ++ .returned :: post) q) :
    Event.closed ∈ pre ∧ handedOut pre = accepted (pre ++ .returned :: post) := by
  obtain ⟨p, p', hi, hm⟩ := h.event_inv hc
  -- the loop returns only from the top of its loop, with the queue closed and empty
  cases hm with
  | finish hr he hcl =>
    have hclosed : Event.closed ∈ pre := hi.closed_iff.1 hcl
    have hafter : accepted (.returned :: post) = [] := accepted_after_close hc h hclosed
    have hpend : p.pending = [] := by simp [pending, hr, he, Runner.batch]
    refine ⟨hclosed, ?_⟩
    rw [accepted, List.filterMap_append, ← accepted, ← accepted, hafter, List.append_nil,
      ← hi.conserved, hpend, List.append_nil]

/-- Each report handed out goes to the subscribers registered at that moment that take it, in the
order they were added. -/
theorem Run.delivered_to (hc : c.Ordered) {d : Delivery}
    (h : Run (start c) (pre ++ .delivered d :: post) q) :
    d.handles = ((registered c.subscribers pre).filter
      fun s => !s.keysOnly || d.report.isKeyActivity).map Subscriber.handle := by
  obtain ⟨p, p', hi, hm⟩ := h.event_inv hc
  cases hm with
  | deliver _ =>
    rw [← hi.registry.subscribers]
    rfl

/-- From any state of a run the loop alone hands out every report kept so far, and returns if the
queue is closed. -/
theorem Run.drains (hc : c.Ordered) (h : Run (start c) t q) :
    ∃ t' q', Run q t' q' ∧ handedOut (t ++ t') = accepted t ∧
      (q.closed = true → q'.runner = .returned) := by
  obtain ⟨t', q', hrun, hacc, hpend, hret⟩ := (h.inv hc).drain
  -- the balance along the longer run, with nothing left to go and nothing more kept
  have hcons := ((h.append hrun).inv hc).conserved
  rw [hpend, List.append_nil, accepted, List.filterMap_append, ← accepted, ← accepted, hacc,
    List.append_nil] at hcons
  exact ⟨t', q', hrun, hcons, hret⟩

end Runs

/-- Replays acts from `q`: the queue they lead to and the events they show, or none if one of them
cannot happen. -/
def replay (q : ReportQueue) : List Act → Option (ReportQueue × List Event)
  | [] => some (q, [])
  | a :: as => (q.step a).bind fun p => (p.1.replay as).map fun r => (r.1, p.2 :: r.2)

/-- A replay that goes through is a run. -/
theorem replay_run {as : List Act} {t : List Event} (h : q.replay as = some (q', t)) :
    Run q t q' := by
  induction as generalizing q t with
  | nil =>
    simp only [replay, Option.some.injEq, Prod.mk.injEq] at h
    obtain ⟨rfl, rfl⟩ := h
    exact .nil
  | cons a as ih =>
    simp only [replay, Option.bind_eq_some_iff, Option.map_eq_some_iff] at h
    obtain ⟨⟨q₁, e⟩, hstep, ⟨q₂, t'⟩, hrest, heq⟩ := h
    simp only [Prod.mk.injEq] at heq
    obtain ⟨rfl, rfl⟩ := heq
    simpa using (Run.single hstep).append (ih hrest)

/-- Reports reach the subscribers in the order they arrive.

The receive path pushes the reports of the report packets it decodes, in decode order, while the
queue is open, whether or not a command awaits its reply; a report's key action is its first data
byte when its identifier is 0. Along every interleaving of pushes, closes, signals, steps of the
delivery loop and changes of the subscribers, from a fresh queue: a push can always happen and
leaves the loop as it is; the reports handed out, then those still to go, are the reports kept,
in push order; from any state the loop alone can hand out every report kept and, once the queue
is closed, return; the subscribers are those added, in order, less those whose removal returned
true, and that happens at most once for each; a push is kept exactly when no close came before
it; the loop returns only after a close, once every report ever kept went out; each report goes
to the subscribers of that moment that take it, in the order they were added; and a removal takes
out exactly its subscriber and keeps the others in order, or changes nothing and returns false. -/
theorem reports_reach_subscribers :
    (∀ (c : Conn) (ps : List Packet), (c.dispatchAll ps).2.map Delivery.report =
      if c.queue.isSome then (ps.filter fun p => p.kind = .report).map Report.ofPacket else []) ∧
    (∀ p : Packet, (Report.ofPacket p).action = if p.id = 0 then ⟨p.data.headD 0⟩ else ⟨0⟩) ∧
    (∀ (q : ReportQueue) (r : Report),
      ∃ q', q.step (.push r) = some (q', .pushed r !q.closed) ∧ q'.runner = q.runner) ∧
    (∀ (c : Conn) (t : List Event) (q : ReportQueue), c.Ordered → Run (start c) t q →
      handedOut t ++ q.pending = accepted t ∧
      (∃ t' q', Run q t' q' ∧ handedOut (t ++ t') = accepted t ∧
        (q.closed = true → q'.runner = .returned)) ∧
      q.conn.subscribers = registered c.subscribers t ∧
      ∀ h, t.count (.unsubscribed h true) ≤ 1) ∧
    (∀ (c : Conn) (pre post : List Event) (r : Report) (k : Bool) (q : ReportQueue), c.Ordered →
      Run (start c) (pre ++ .pushed r k :: post) q → (k = true ↔ Event.closed ∉ pre)) ∧
    (∀ (c : Conn) (pre post : List Event) (q : ReportQueue), c.Ordered →
      Run (start c) (pre ++ .returned :: post) q →
      Event.closed ∈ pre ∧ handedOut pre = accepted (pre ++ .returned :: post)) ∧
    (∀ (c : Conn) (pre post : List Event) (d : Delivery) (q : ReportQueue), c.Ordered →
      Run (start c) (pre ++ .delivered d :: post) q →
      d.handles = ((registered c.subscribers pre).filter
        fun s => !s.keysOnly || d.report.isKeyActivity).map Subscriber.handle) ∧
    (∀ (c : Conn) (l₁ l₂ : List Subscriber) (s : Subscriber), c.Ordered →
      c.subscribers = l₁ ++ s :: l₂ →
      c.unsubscribe s.handle = ({ c with subscribers := l₁ ++ l₂ }, true)) ∧
    (∀ (c : Conn) (h : Nat), (∀ s ∈ c.subscribers, s.handle ≠ h) → c.unsubscribe h = (c, false)) :=
  ⟨Conn.dispatchAll_reports, Report.action_ofPacket, fun q r => ⟨q.push r, rfl, rfl⟩,
   fun _ _ _ hc h => ⟨(h.inv hc).conserved, h.drains hc, (h.inv hc).registry.subscribers,
     (h.inv hc).registry.once⟩,
   fun _ _ _ _ _ _ hc h => h.kept_iff hc, fun _ _ _ _ hc h => h.returned_after hc,
   fun _ _ _ _ _ hc h => h.delivered_to hc, fun _ _ _ _ hc hs => Conn.unsubscribe_of_eq_append hc hs,
   fun _ _ hn => Conn.unsubscribe_of_forall_ne hn⟩

/-- A subscriber added to a fresh queue gets the key report pushed after it. -/
theorem pushed_report_reaches_subscriber :
    ({} : Conn).Ordered ∧
      Run (start {}) ([.subscribed ⟨0, false⟩, .pushed ⟨0, [1]⟩ true, .took [⟨0, [1]⟩]] ++
        .delivered ⟨⟨0, [1]⟩, [0]⟩ :: []) { signals := 1, conn := (({} : Conn).subscribe false).1 } ∧
      [0] = ((registered ({} : Conn).subscribers
        [.subscribed ⟨0, false⟩, .pushed ⟨0, [1]⟩ true, .took [⟨0, [1]⟩]]).filter
          fun s => !s.keysOnly || Report.isKeyActivity ⟨0, [1]⟩).map Subscriber.handle := by
  have hc : ({} : Conn).Ordered := ⟨List.Pairwise.nil, fun _ hs => nomatch hs⟩
  have hrun := replay_run (q := start {})
    (show (start {}).replay [.subscribe false, .push ⟨0, [1]⟩, .run, .run] = some (_, _) from rfl)
  exact ⟨hc, hrun, reports_reach_subscribers.2.2.2.2.2.2.1 {}
    [.subscribed ⟨0, false⟩, .pushed ⟨0, [1]⟩ true, .took [⟨0, [1]⟩]] [] ⟨⟨0, [1]⟩, [0]⟩ _ hc hrun⟩

end ReportQueue

end LcdPanel.Link
