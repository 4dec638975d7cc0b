import LcdPanel.Task.Loop

/-! The control loop among the goroutines that post messages to it and request wake-ups. -/

namespace LcdPanel.Task

variable {α : Type}

/-- Where the loop's goroutine is: in its select, out of it with the clock read, or running an
iteration with its first controllers called. -/
inductive Phase (α : Type) where
  | waiting
  | woken (time : Option Int)
  | running (it : Iteration α) (called : Nat)
  deriving DecidableEq, Repr

/-- The calls of one iteration with `n` controllers: each controller, in registration order, is
handed the iteration. -/
def round (n : Nat) (it : Iteration α) : List (Nat × Iteration α) :=
  (List.range n).map (·, it)

def Phase.owed (n : Nat) : Phase α → List (Nat × Iteration α)
  | .running it called => (round n it).drop called
  | _ => []

/-- A loop that runs among other goroutines. -/
structure Live (α : Type) where
  loop : Loop α
  phase : Phase α := .waiting
  deriving DecidableEq, Repr

namespace Live

inductive Act (α : Type) where
  | postMessage (m : α)
  | trigger
  | tick
  | selectWake
  | selectTick
  | take
  | control
  deriving DecidableEq, Repr

inductive Event (α : Type) where
  | posted (m : α)
  | triggered (filled : Bool)
  | ticked
  | selected (wake : Bool)
  | took (it : Iteration α)
  | called (k : Nat) (it : Iteration α)
  | ended
  deriving DecidableEq, Repr

def start (l : Loop α) : Live α := { loop := l }

/-- One step with `n` controllers registered, if the act can happen now. A request for a wake-up
fills the one-place wake-up channel, or does nothing when it is full; it never waits. -/
def step (n : Nat) (s : Live α) : Act α → Option (Live α × Event α)
  | .postMessage m => some ({ s with loop := s.loop.accept (.postMessage m) }, .posted m)
  | .trigger => some ({ s with loop := s.loop.accept .trigger }, .triggered !s.loop.wake)
  | .tick => some ({ s with loop := s.loop.accept .tick }, .ticked)
  | .selectWake =>
    match s.phase, s.loop.wake with
    | .waiting, true =>
      some (⟨{ s.loop with wake := false }, .woken s.loop.now⟩, .selected true)
    | _, _ => none
  | .selectTick =>
    match s.phase, s.loop.ticked with
    | .waiting, true =>
      some (⟨{ s.loop with ticked := false }, .woken s.loop.now⟩, .selected false)
    | _, _ => none
  | .take =>
    match s.phase with
    | .woken time =>
      some (⟨s.loop.iterate.1, .running ⟨time, s.loop.pending⟩ 0⟩, .took ⟨time, s.loop.pending⟩)
    | _ => none
  | .control =>
    match s.phase with
    | .running it k =>
      if k < n then some ({ s with phase := .running it (k + 1) }, .called k it)
      else some ({ s with phase := .waiting }, .ended)
    | _ => none

inductive Moves (n : Nat) (s : Live α) : Live α → Event α → Prop
  | postMessage (m : α) : Moves n s { s with loop := s.loop.accept (.postMessage m) } (.posted m)
  | trigger : Moves n s { s with loop := s.loop.accept .trigger } (.triggered !s.loop.wake)
  | tick : Moves n s { s with loop := s.loop.accept .tick } .ticked
  | selectWake : s.phase = .waiting → s.loop.wake = true →
      Moves n s ⟨{ s.loop with wake := false }, .woken s.loop.now⟩ (.selected true)
  | selectTick : s.phase = .waiting → s.loop.ticked = true →
      Moves n s ⟨{ s.loop with ticked := false }, .woken s.loop.now⟩ (.selected false)
  | take {time : Option Int} : s.phase = .woken time →
      Moves n s ⟨s.loop.iterate.1, .running ⟨time, s.loop.pending⟩ 0⟩ (.took ⟨time, s.loop.pending⟩)
  | call {it : Iteration α} {k : Nat} : s.phase = .running it k → k < n →
      Moves n s { s with phase := .running it (k + 1) } (.called k it)
  | finish {it : Iteration α} {k : Nat} : s.phase = .running it k → n ≤ k →
      Moves n s { s with phase := .waiting } .ended

variable {n : Nat} {s s' : Live α} {e : Event α}

/-- Every step is one of the moves. -/
theorem step_moves {a : Act α} (h : s.step n a = some (s', e)) : Moves n s s' e := by
  cases a with
  | postMessage m => cases h; exact .postMessage m
  | trigger => cases h; exact .trigger
  | tick => cases h; exact .tick
  | selectWake =>
    simp only [step] at h
    split at h
    · next hp hw => cases h; exact .selectWake hp hw
    · cases h
  | selectTick =>
    simp only [step] at h
    split at h
    · next hp ht => cases h; exact .selectTick hp ht
    · cases h
  | take =>
    simp only [step] at h
    split at h
    · next time hp => cases h; exact .take hp
    · cases h
  | control =>
    simp only [step] at h
    split at h
    · next it k hp =>
      split at h
      · next hk => cases h; exact .call hp hk
      · next hk => cases h; exact .finish hp (Nat.le_of_not_lt hk)
    · cases h

/-! ## Runs -/

/-- With `n` controllers, the loop goes from `s₀` to `s` showing the events `t`, in order. -/
inductive Run (n : Nat) (s₀ : Live α) : List (Event α) → Live α → Prop
  | nil : Run n s₀ [] s₀
  | step {t : List (Event α)} {s s' : Live α} {e : Event α} (a : Act α) :
      Run n s₀ t s → s.step n a = some (s', e) → Run n s₀ (t ++ [e]) s'

theorem Run.append {s₀ s₁ : Live α} {t₁ t₂ : List (Event α)} (h₁ : Run n s₀ t₁ s₁)
    (h₂ : Run n s₁ t₂ s) : Run n s₀ (t₁ ++ t₂) s := by
  induction h₂ with
  | nil => simpa using h₁
  | step a _ hstep ih => rw [← List.append_assoc]; exact .step a ih hstep

theorem Run.cons {s₀ s₁ : Live α} {t : List (Event α)} (a : Act α)
    (hstep : s₀.step n a = some (s₁, e)) (h : Run n s₁ t s) : Run n s₀ (e :: t) s :=
  (Run.step a .nil hstep).append h

/-! ## What the events say -/

namespace Event

def post : Event α → Option α
  | .posted m => some m
  | _ => none

def taken : Event α → Option (Iteration α)
  | .took it => some it
  | _ => none

def call : Event α → Option (Nat × Iteration α)
  | .called k it => some (k, it)
  | _ => none

def fills : Event α → Bool
  | .triggered filled => filled
  | _ => false

def wakes : Event α → Bool
  | .selected wake => wake
  | _ => false

end Event

def posted (t : List (Event α)) : List α := t.filterMap Event.post

def taken (t : List (Event α)) : List (Iteration α) := t.filterMap Event.taken

def calls (t : List (Event α)) : List (Nat × Iteration α) := t.filterMap Event.call

def requests (t : List (Event α)) : Nat := t.countP Event.fills

def wakeups (t : List (Event α)) : Nat := t.countP Event.wakes

@[simp] theorem posted_snoc (t : List (Event α)) (e : Event α) :
    posted (t ++ [e]) = posted t ++ e.post.toList := by
  cases h : e.post <;> simp [posted, h]

@[simp] theorem taken_snoc (t : List (Event α)) (e : Event α) :
    taken (t ++ [e]) = taken t ++ e.taken.toList := by
  cases h : e.taken <;> simp [taken, h]

@[simp] theorem calls_snoc (t : List (Event α)) (e : Event α) :
    calls (t ++ [e]) = calls t ++ e.call.toList := by
  cases h : e.call <;> simp [calls, h]

@[simp] theorem requests_snoc (t : List (Event α)) (e : Event α) :
    requests (t ++ [e]) = requests t + e.fills.toNat := by
  cases h : e.fills <;> simp [requests, h]

@[simp] theorem wakeups_snoc (t : List (Event α)) (e : Event α) :
    wakeups (t ++ [e]) = wakeups t + e.wakes.toNat := by
  cases h : e.wakes <;> simp [wakeups, h]

/-! ## What one step does -/

theorem drop_round {it : Iteration α} {k : Nat} (hk : k < n) :
    (round n it).drop k = (k, it) :: (round n it).drop (k + 1) := by
  rw [List.drop_eq_getElem_cons (by simpa [round] using hk)]
  simp [round]

namespace Moves

theorem pending (hm : Moves n s s' e) :
    e.taken.toList.flatMap Iteration.messages ++ s'.loop.pending =
      s.loop.pending ++ e.post.toList := by
  cases hm <;> simp [Event.taken, Event.post, Loop.accept, Loop.iterate]

/-- A step calls the next controller the iteration owes, or starts a new round with the
iteration it takes, or leaves the calls alone. -/
theorem owed (hm : Moves n s s' e) :
    e.call.toList ++ s'.phase.owed n = s.phase.owed n ++ e.taken.toList.flatMap (round n) := by
  cases hm with
  -- the iteration taken owes its whole round, none called yet
  | take hp => simp [Event.call, Event.taken, Phase.owed, hp]
  | call hp hk => simp [Event.call, Event.taken, Phase.owed, hp, drop_round hk]
  -- past the last controller the round is done and nothing is owed
  | finish hp hk => simp [Event.call, Event.taken, Phase.owed, hp, round, hk]
  | selectWake hp _ | selectTick hp _ => simp [Event.call, Event.taken, Phase.owed, hp]
  | postMessage _ | trigger | tick => simp [Event.call, Event.taken]

theorem wake (hm : Moves n s s' e) :
    e.wakes.toNat + s'.loop.wake.toNat = s.loop.wake.toNat + e.fills.toNat := by
  cases hm with
  | trigger => cases s.loop.wake <;> rfl
  | selectWake _ hw => simp [Event.wakes, Event.fills, hw]
  | _ => simp [Event.wakes, Event.fills, Loop.accept, Loop.iterate]

end Moves

/-! ## The invariant -/

/-- What holds after the events `t` of every run with `n` controllers from the loop state `l`. -/
structure Inv (n : Nat) (l : Loop α) (t : List (Event α)) (s : Live α) : Prop where
  conserved : (taken t).flatMap Iteration.messages ++ s.loop.pending = l.pending ++ posted t
  rounds : calls t ++ s.phase.owed n = (taken t).flatMap (round n)
  wakes : wakeups t + s.loop.wake.toNat = l.wake.toNat + requests t

theorem inv_start (l : Loop α) : Inv n l [] (start l) where
  conserved := by simp [taken, posted, start]
  rounds := by simp [calls, taken, start, Phase.owed]
  wakes := by simp [wakeups, requests, start]

theorem Inv.step {l : Loop α} {t : List (Event α)} (hi : Inv n l t s) (hm : Moves n s s' e) :
    Inv n l (t ++ [e]) s' where
  conserved := by
    rw [taken_snoc, posted_snoc, List.flatMap_append, List.append_assoc, hm.pending,
      ← List.append_assoc, hi.conserved, List.append_assoc]
  rounds := by
    rw [calls_snoc, taken_snoc, List.flatMap_append, List.append_assoc, hm.owed,
      ← List.append_assoc, hi.rounds]
  wakes := by
    have hstep := hm.wake
    have hrun := hi.wakes
    rw [wakeups_snoc, requests_snoc]
    omega

theorem Run.inv {l : Loop α} {t : List (Event α)} (h : Run n (start l) t s) : Inv n l t s := by
  induction h with
  | nil => exact inv_start l
  | step a _ hstep ih => exact ih.step (step_moves hstep)

/-! ## Wake-up requests -/

theorem step_trigger_of_wake (hw : s.loop.wake = true) : s.step n .trigger = some (s, .triggered false) := by
  obtain ⟨l, p⟩ := s
  cases l
  simp_all [step, Loop.accept]

/-- Requests in a row never wait: the first fills the wake-up channel if it is empty, the others
merge into the pending one, and only the pending wake-up changes. -/
theorem run_triggers (s : Live α) (k : Nat) :
    Run n s (Event.triggered (!s.loop.wake) :: List.replicate k (.triggered false))
      { s with loop := { s.loop with wake := true } } := by
  -- after the first request a wake-up is pending, and each further request keeps the state
  let s₁ : Live α := { s with loop := { s.loop with wake := true } }
  have hmerge : s₁.step n .trigger = some (s₁, .triggered false) := step_trigger_of_wake rfl
  have hrest : ∀ k, Run n s₁ (List.replicate k (.triggered false)) s₁ := by
    intro k
    induction k with
    | zero => exact .nil
    | succ k ih =>
      rw [List.replicate_succ']
      exact .step .trigger ih hmerge
  exact Run.cons .trigger rfl (hrest k)

/-! ## What the loop guarantees -/

/-- What holds after the events `t` of every run with `n` controllers from the loop state `l`:
the invariant, and wake-up requests from the state reached never wait. -/
structure Serves (n : Nat) (l : Loop α) (t : List (Event α)) (s : Live α) : Prop
    extends Inv n l t s where
  /-- Any number of requests in a row never wait and leave one wake-up pending. -/
  triggers : ∀ k, Run n s (Event.triggered (!s.loop.wake) :: List.replicate k (.triggered false))
    { s with loop := { s.loop with wake := true } }

/-- Along every interleaving of posts and wake-up requests with the loop's iterations, the lists of
messages the iterations took, joined, are the messages posted, in the order they took the lock,
less those still pending: each is taken once, in order. Every iteration is handed to each of the
`n` controllers in registration order before the next one is taken, whatever was posted
meanwhile. The wake-ups taken are the requests that found none pending, and requests never wait:
those made while one is pending merge into it. -/
theorem iterations_hand_posts_in_order {l : Loop α} {t : List (Event α)} (h : Run n (start l) t s) :
    Serves n l t s :=
  { h.inv with triggers := run_triggers s }

/-- Two posts and a wake-up for each, then an iteration with two controllers, and a third post
while the first controller runs: the iteration takes the first two posts, and the third waits. -/
theorem iteration_with_post_during_controllers :
    Run 2 (start ({} : Loop Nat))
      [.posted 1, .triggered true, .posted 2, .triggered false, .selected true,
        .took ⟨some 0, [1, 2]⟩, .called 0 ⟨some 0, [1, 2]⟩, .posted 3, .called 1 ⟨some 0, [1, 2]⟩,
        .ended]
      ⟨{ pending := [3] }, .waiting⟩ ∧
    Serves 2 {}
      [.posted 1, .triggered true, .posted 2, .triggered false, .selected true,
        .took ⟨some 0, [1, 2]⟩, .called 0 ⟨some 0, [1, 2]⟩, .posted 3, .called 1 ⟨some 0, [1, 2]⟩,
        .ended]
      ⟨{ pending := [3] }, .waiting⟩ := by
  have hrun : Run 2 (start ({} : Loop Nat))
      [.posted 1, .triggered true, .posted 2, .triggered false, .selected true,
        .took ⟨some 0, [1, 2]⟩, .called 0 ⟨some 0, [1, 2]⟩, .posted 3, .called 1 ⟨some 0, [1, 2]⟩,
        .ended]
      ⟨{ pending := [3] }, .waiting⟩ :=
    .cons (.postMessage 1) rfl <| .cons .trigger rfl <| .cons (.postMessage 2) rfl <|
      .cons .trigger rfl <| .cons .selectWake rfl <| .cons .take rfl <| .cons .control rfl <|
      .cons (.postMessage 3) rfl <| .cons .control rfl <| .cons .control rfl .nil
  exact ⟨hrun, iterations_hand_posts_in_order hrun⟩

/-! ## The sequential loop is one schedule

The model's sequential loop (`Loop.feed`, `Loop.busy`) runs each input and then the iterations it
makes due, with nothing in between. Each of these is one way the loop among goroutines can go, so
what holds along every run holds of it. -/

theorem taken_append (t₁ t₂ : List (Event α)) : taken (t₁ ++ t₂) = taken t₁ ++ taken t₂ :=
  List.filterMap_append

theorem exists_run_accept (l : Loop α) (p : Phase α) (i : Input α) :
    ∃ t, Run n ⟨l, p⟩ t ⟨l.accept i, p⟩ ∧ taken t = [] := by
  cases i with
  | tick => exact ⟨_, Run.cons .tick rfl .nil, rfl⟩
  | post m =>
    -- a post with a wake-up is the post, then the request
    exact ⟨_, Run.cons (.postMessage m) rfl (Run.cons .trigger rfl .nil), rfl⟩
  | postMessage m => exact ⟨_, Run.cons (.postMessage m) rfl .nil, rfl⟩
  | trigger => exact ⟨_, Run.cons .trigger rfl .nil, rfl⟩

theorem exists_run_accepts (l : Loop α) (p : Phase α) (inputs : List (Input α)) :
    ∃ t, Run n ⟨l, p⟩ t ⟨inputs.foldl Loop.accept l, p⟩ ∧ taken t = [] := by
  induction inputs generalizing l with
  | nil => exact ⟨[], .nil, rfl⟩
  | cons i rest ih =>
    obtain ⟨t₁, h₁, ht₁⟩ := exists_run_accept (n := n) l p i
    obtain ⟨t₂, h₂, ht₂⟩ := ih (l.accept i)
    exact ⟨t₁ ++ t₂, h₁.append h₂, by rw [taken_append, ht₁, ht₂]; rfl⟩

/-- The loop calls the controllers its iteration still owes, in order, and ends the iteration. -/
theorem run_round (l : Loop α) (it : Iteration α) {k : Nat} (hk : k ≤ n) :
    Run n ⟨l, .running it k⟩ (((round n it).drop k).map (fun c => Event.called c.1 c.2) ++ [.ended])
      ⟨l, .waiting⟩ := by
  -- induction on the number of controllers still to call
  induction hj : n - k generalizing k with
  | zero =>
    have hkn : ¬k < n := by omega
    have hnil : (round n it).drop k = [] := by simp [round]; omega
    rw [hnil]
    exact Run.cons .control (by simp [step, hkn]) .nil
  | succ j ih =>
    have hlt : k < n := by omega
    rw [drop_round hlt, List.map_cons, List.cons_append]
    exact Run.cons .control (by simp [step, hlt]) (ih (by omega) (by omega))

theorem taken_calls (cs : List (Nat × Iteration α)) :
    taken (cs.map (fun c => Event.called c.1 c.2) ++ [.ended]) = [] := by
  induction cs with
  | nil => rfl
  | cons c cs ih => exact ih

/-- Woken, the loop takes one iteration of all the pending messages, hands it to every controller,
and waits again. -/
theorem exists_run_woken (l : Loop α) (time : Option Int) :
    ∃ t, Run n ⟨l, .woken time⟩ t (start l.iterate.1) ∧ taken t = [⟨time, l.pending⟩] := by
  have hround := run_round (n := n) l.iterate.1 ⟨time, l.pending⟩ (Nat.zero_le n)
  refine ⟨_, Run.cons .take rfl hround, ?_⟩
  show ⟨time, l.pending⟩ :: taken _ = _
  rw [taken_calls]

/-- Settling is one schedule of the loop's goroutine: an iteration for a pending wake-up, then
one for a pending tick. -/
theorem exists_run_settle (l : Loop α) :
    ∃ t, Run n (start l) t (start l.settle.1) ∧ taken t = l.settle.2 := by
  -- the iteration a pending tick starts, from a loop with no wake-up pending
  have htick : ∀ l' : Loop α, l'.ticked = true → ∃ t, Run n (start l') t
      (start (Loop.iterate { l' with ticked := false }).1) ∧
      taken t = [(Loop.iterate { l' with ticked := false }).2] := by
    intro l' ht
    obtain ⟨t, hrun, htaken⟩ := exists_run_woken (n := n) { l' with ticked := false } l'.now
    exact ⟨.selected false :: t, Run.cons .selectTick (by simp [step, start, ht]) hrun, htaken⟩
  cases hw : l.wake <;> cases ht : l.ticked
  · have hs : l.settle = (l, []) := by simp [Loop.settle, hw, ht]
    rw [hs]
    exact ⟨[], .nil, rfl⟩
  · have hs : l.settle = ((Loop.iterate { l with ticked := false }).1,
        [(Loop.iterate { l with ticked := false }).2]) := by
      simp [Loop.settle, hw, ht]
    rw [hs]
    exact htick l ht
  · have hs : l.settle = ((Loop.iterate { l with wake := false }).1,
        [(Loop.iterate { l with wake := false }).2]) := by
      simp [Loop.settle, Loop.iterate, hw, ht]
    rw [hs]
    obtain ⟨t, hrun, htaken⟩ := exists_run_woken (n := n) { l with wake := false } l.now
    exact ⟨.selected true :: t, Run.cons .selectWake (by simp [step, start, hw]) hrun, htaken⟩
  · -- a wake-up first, then the tick, still pending after the first iteration
    let l₁ := (Loop.iterate { l with wake := false }).1
    have hs : l.settle = ((Loop.iterate { l₁ with ticked := false }).1,
        [(Loop.iterate { l with wake := false }).2, (Loop.iterate { l₁ with ticked := false }).2]) := by
      simp [l₁, Loop.settle, Loop.iterate, hw, ht]
    rw [hs]
    obtain ⟨t₁, h₁, ht₁⟩ := exists_run_woken (n := n) { l with wake := false } l.now
    obtain ⟨t₂, h₂, ht₂⟩ := htick l₁ ht
    refine ⟨.selected true :: (t₁ ++ t₂),
      Run.cons .selectWake (by simp [step, start, hw]) (h₁.append h₂), ?_⟩
    show taken (t₁ ++ t₂) = _
    rw [taken_append, ht₁, ht₂]
    rfl

/-- Feeding an input is one schedule: the input's own steps, then the iterations it makes due. -/
theorem exists_run_feed (l : Loop α) (i : Input α) :
    ∃ t, Run n (start l) t (start (l.feed i).1) ∧ taken t = (l.feed i).2 := by
  obtain ⟨t₁, h₁, ht₁⟩ := exists_run_accept (n := n) l .waiting i
  obtain ⟨t₂, h₂, ht₂⟩ := exists_run_settle (n := n) (l.accept i)
  exact ⟨t₁ ++ t₂, h₁.append h₂, by rw [taken_append, ht₁, ht₂]; rfl⟩

/-- A busy iteration is one schedule from a woken loop: the iteration is taken, the inputs arrive
while its controllers run, and the iterations they made due follow. -/
theorem exists_run_busy (l : Loop α) (inputs : List (Input α)) :
    ∃ t, Run n ⟨l, .woken l.now⟩ t (start (l.busy inputs).1) ∧ taken t = (l.busy inputs).2 := by
  obtain ⟨t₁, h₁, ht₁⟩ := exists_run_accepts (n := n) l.iterate.1 (.running l.iterate.2 0) inputs
  have hround := run_round (n := n) (inputs.foldl Loop.accept l.iterate.1) l.iterate.2 (Nat.zero_le n)
  obtain ⟨t₂, h₂, ht₂⟩ := exists_run_settle (n := n) (inputs.foldl Loop.accept l.iterate.1)
  refine ⟨_, Run.cons .take rfl (h₁.append (hround.append h₂)), ?_⟩
  show l.iterate.2 :: taken (t₁ ++ (_ ++ t₂)) = _
  rw [taken_append, taken_append, ht₁, taken_calls, ht₂]
  rfl

end Live

end LcdPanel.Task
