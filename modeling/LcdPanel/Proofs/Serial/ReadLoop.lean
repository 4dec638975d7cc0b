import LcdPanel.Proofs.Serial.Driver

/-!
What every run of the serial driver keeps: `Driver.Inv`, `Traced` and `Driver.Tenure` are kept by
one lemma per kind of move, and `Run.read_discipline` collects what they give.
-/

namespace LcdPanel.Serial

open LcdPanel.Link LcdPanel.Session LcdPanel.Session.Host

def LoopPhase.live : LoopPhase → Bool
  | .gone => false
  | _ => true

namespace LoopPhase

theorem live_iff {p : LoopPhase} : p.live = true ↔ p ≠ .gone := by
  cases p <;> simp [live]

theorem afterCheck_ne_gone (s : Bool) (res : ReadResult) : afterCheck s res ≠ .gone := by
  unfold afterCheck
  split
  · simp
  · split <;> simp

theorem afterCheck_ne_returned (s : Bool) (res res' : ReadResult) :
    afterCheck s res ≠ .returned res' := by
  unfold afterCheck
  split
  · simp
  · split <;> simp

theorem eq_of_afterCheck_eq_failing {s : Bool} {res : ReadResult} {t : List UInt8}
    (h : afterCheck s res = .failing t) : s = false ∧ res = .failed t := by
  unfold afterCheck at h
  split at h
  · cases h
  · split at h <;> simp_all

end LoopPhase

def Call.opens : Call → Bool
  | .openPort .. | .reconnect _ => true
  | _ => false

def Phase.locked : Phase → Bool
  | .checking _ | .closing _ | .closingPort _ _ | .joining _ _ _ | .making _ | .timing _ _
  | .resetting _ _ | .unlocking _ | .peeking _ => true
  | _ => false

namespace Driver

def Running (d : Driver) (k : Nat) : Prop := ∃ l, d.loops k = some l ∧ l.phase.live = true

/-- The port of `o` is the one call `c` asks for: an open of it, or a reconnect at its rate that
reopens the port opened last, for the same receiver. -/
def Asks (d : Driver) (c : Option Call) (o : Opening) : Prop :=
  c = some (.openPort o.name o.baud o.receiver) ∨
    (c = some (.reconnect o.baud) ∧ o.name = d.name ∧ d.receiver = some o.receiver)

def AsksNext (d : Driver) (c : Option Call) : AfterClose → Prop
  | .finish => c = some .close
  | .reopen o => d.Asks c o

def CallerOk (d : Driver) (c : Caller) : Prop :=
  match c.phase with
  | .checking baud => c.call = some (.reconnect baud)
  | .closing next => d.AsksNext c.call next
  | .closingPort k next | .joining k _ next => d.port = some k ∧ d.AsksNext c.call next
  | .making o => d.port = none ∧ d.Asks c.call o
  | .timing k o | .resetting k o => d.port = none ∧ k = d.made ∧ d.loops k = none ∧ d.Asks c.call o
  | .unlocking r => d.port = none ∨ (r = .ok () ∧ d.port = some d.made ∧ c.call.any Call.opens)
  | _ => True

/-- What every reachable driver keeps. -/
structure Inv (d : Driver) : Prop where
  holder : ∀ i, (d.callers i).phase.locked = true → d.lock = some i
  callers : ∀ i, d.CallerOk (d.callers i)
  running : ∀ k, d.Running k → d.port = some k
  port_loop : ∀ k, d.port = some k → d.loops k ≠ none
  fresh : ∀ k, d.loops k ≠ none → k ≤ d.made
  receiver : d.receiver = none ↔ ∀ k, d.loops k = none

variable {d : Driver}

theorem callerOk_of_unlocked {c : Caller} (h : c.phase.locked = false) : d.CallerOk c := by
  unfold CallerOk
  split <;> simp_all [Phase.locked]

theorem Inv.unlocked_of_ne (hinv : d.Inv) {i j : Nat} (hi : (d.callers i).phase.locked = true)
    (hj : j ≠ i) : (d.callers j).phase.locked = false := by
  by_contra h
  have := (hinv.holder j (by simpa using h)).symm.trans (hinv.holder i hi)
  exact hj (Option.some.inj this)

theorem Inv.unlocked_of_free (hinv : d.Inv) (hl : d.lock = none) (j : Nat) :
    (d.callers j).phase.locked = false := by
  by_contra h
  rw [hinv.holder j (by simpa using h)] at hl
  cases hl

theorem Inv.running_unique (hinv : d.Inv) {k k' : Nat} (hk : d.Running k) (hk' : d.Running k') :
    k = k' :=
  Option.some.inj ((hinv.running k hk).symm.trans (hinv.running k' hk'))

theorem forall_update {P : Nat → Caller → Prop} {i : Nat} {c : Caller} (hi : P i c)
    (hj : ∀ j, j ≠ i → P j (d.callers j)) : ∀ j, P j (Function.update d.callers i c j) := by
  intro j
  by_cases h : j = i
  · subst h
    simpa using hi
  · rw [Function.update_of_ne h]
    exact hj j h

theorem forall_setLoop {P : Nat → Option Loop → Prop} {k : Nat} {l : Loop} (hk : P k (some l))
    (hj : ∀ j, j ≠ k → P j (d.loops j)) : ∀ j, P j ((d.setLoop k l).loops j) := by
  intro j
  by_cases h : j = k
  · subst h
    simpa using hk
  · rw [setLoop_loops, Function.update_of_ne h]
    exact hj j h

theorem Inv.holder_keep (hinv : d.Inv) {i : Nat} (hi : (d.callers i).phase.locked = true)
    (c : Caller) :
    ∀ j, (Function.update d.callers i c j).phase.locked = true → d.lock = some j :=
  forall_update (P := fun j c => c.phase.locked = true → d.lock = some j)
    (fun _ => hinv.holder i hi) fun j _ => hinv.holder j

theorem Inv.callers_keep (hinv : d.Inv) {i : Nat} (hi : (d.callers i).phase.locked = true)
    {d' : Driver} {c : Caller} (hc : d'.CallerOk c) :
    ∀ j, d'.CallerOk (Function.update d.callers i c j) :=
  forall_update (P := fun _ c => d'.CallerOk c) hc
    fun _ hj => callerOk_of_unlocked (hinv.unlocked_of_ne hi hj)

/-- A step that changes only the lock and the callers keeps what the invariant says of the open
port and the read loops. -/
theorem Inv.withCallers (hinv : d.Inv) (lock : Option Nat) (callers : Nat → Caller)
    (hholder : ∀ i, (callers i).phase.locked = true → lock = some i)
    (hcallers : ∀ i, d.CallerOk (callers i)) :
    ({ d with lock := lock, callers := callers }).Inv where
  holder := hholder
  callers := hcallers
  running := hinv.running
  port_loop := hinv.port_loop
  fresh := hinv.fresh
  receiver := hinv.receiver

theorem Inv.start (hinv : d.Inv) (i : Nat) (c : Call) :
    (d.setCaller i ⟨some c, .locking⟩).Inv :=
  hinv.withCallers _ _
    (forall_update (P := fun j c => c.phase.locked = true → d.lock = some j)
      (by simp [Phase.locked]) fun j _ => hinv.holder j)
    (forall_update (P := fun _ c => d.CallerOk c) (by simp [CallerOk]) fun j _ => hinv.callers j)

theorem PhaseMove.locked_of {i : Nat} {p p' : Phase} {e : Event} (hm : PhaseMove d i p p' e)
    (h : p'.locked = true) : p.locked = true := by
  cases hm <;> first | rfl | simp [Phase.locked] at h

/-- A caller's move that changes its phase only keeps it in agreement with the driver. -/
theorem PhaseMove.callerOk (hinv : d.Inv) {i : Nat} {p p' : Phase} {e : Event}
    (hp : (d.callers i).phase = p) (hm : PhaseMove d i p p' e) :
    d.CallerOk { d.callers i with phase := p' } := by
  have hok := hinv.callers i
  unfold CallerOk at hok ⊢
  rw [hp] at hok
  cases hm with
  | refuse baud hr =>
    -- no read loop ever started, so no port is open
    refine .inl ?_
    cases hport : d.port with
    | none => rfl
    | some k => exact absurd (hinv.receiver.1 hr k) (hinv.port_loop k hport)
  | again baud r hr => exact .inr ⟨hok, rfl, hr⟩
  | noPort next hn =>
    cases next with
    | finish => exact .inl hn
    | reopen o => exact ⟨hn, hok⟩
  | closed k next => exact hok
  | closeFailed k next text => exact hok
  | makeFailed o text => exact .inl hok.1
  | timed k o => exact hok
  | timeFailed k o text => exact .inl hok.1
  | _ => trivial

theorem Inv.move (hinv : d.Inv) {i : Nat} {p p' : Phase} {e : Event}
    (hp : (d.callers i).phase = p) (hm : PhaseMove d i p p' e) : (d.setPhase i p').Inv :=
  hinv.withCallers _ _
    (forall_update (P := fun j c => c.phase.locked = true → d.lock = some j)
      (fun h => hinv.holder i (hp ▸ hm.locked_of h)) fun j _ => hinv.holder j)
    (forall_update (P := fun _ c => d.CallerOk c) (hm.callerOk hinv hp) fun j _ => hinv.callers j)

theorem Inv.lock (hinv : d.Inv) {i : Nat} (c : Call) (hc : (d.callers i).call = some c)
    (hl : d.lock = none) : ({ d with lock := some i }.setPhase i c.held).Inv := by
  -- the phase a call takes the lock in asks for what the call asks
  have hc' : d.CallerOk { d.callers i with phase := c.held } := by
    unfold CallerOk
    cases c <;> simp [Call.held, hc, AsksNext, Asks]
  exact hinv.withCallers _ _
    (forall_update (P := fun j c => c.phase.locked = true → some i = some j)
      (fun _ => rfl) fun j _ h => absurd h (by simp [hinv.unlocked_of_free hl j]))
    (forall_update (P := fun _ c => d.CallerOk c) hc' fun j _ => hinv.callers j)

/-- Changing a read loop keeps every caller in agreement: a caller that counts on a port with no
read loop counts on another port than this one. -/
theorem callerOk_setLoop {c : Caller} {k : Nat} {l : Loop} (hk : d.loops k ≠ none)
    (h : d.CallerOk c) : (d.setLoop k l).CallerOk c := by
  obtain ⟨call, phase⟩ := c
  unfold CallerOk at h ⊢
  cases phase with
  | timing k' o | resetting k' o =>
    obtain ⟨h1, h2, h3, h4⟩ := h
    have hne : k' ≠ k := fun e => hk (e ▸ h3)
    exact ⟨h1, h2, by simp [Function.update_of_ne hne, h3], h4⟩
  | _ => exact h

/-- Changing the read loop of the open port keeps the invariant. -/
theorem Inv.setLoop (hinv : d.Inv) {k : Nat} {l : Loop} (hk : d.port = some k)
    (hl : d.loops k = some l) (l' : Loop) : (d.setLoop k l').Inv := by
  have hk' : d.loops k ≠ none := by simp [hl]
  refine ⟨hinv.holder, fun j => callerOk_setLoop hk' (hinv.callers j),
    forall_setLoop
      (P := fun k lp => (∃ l, lp = some l ∧ l.phase.live = true) → d.port = some k)
      (fun _ => hk) fun k' _ => hinv.running k',
    fun k' hp => ?_,
    forall_setLoop (P := fun k lp => lp ≠ none → k ≤ d.made) (fun _ => hinv.fresh k hk')
      fun k' _ => hinv.fresh k', ?_⟩
  · obtain rfl : k' = k := Option.some.inj (hp.symm.trans hk)
    simp
  · -- a receiver is known, and a read loop there still is
    have hr : d.receiver ≠ none := fun h => hk' (hinv.receiver.1 h k)
    simp only [setLoop_receiver, setLoop_loops]
    exact ⟨fun h => absurd h hr, fun h => by simpa using h k⟩

theorem Inv.stop (hinv : d.Inv) {i k : Nat} {l : Loop} (next : AfterClose)
    (hp : (d.callers i).phase = .closing next) (hk : d.port = some k) (hl : d.loops k = some l) :
    ((d.setLoop k { l with stopped := true }).setPhase i (.closingPort k next)).Inv := by
  have hi : (d.callers i).phase.locked = true := by rw [hp]; rfl
  have hok := hinv.callers i
  unfold CallerOk at hok
  rw [hp] at hok
  have h₁ := hinv.setLoop hk hl { l with stopped := true }
  exact { h₁ with
    holder := h₁.holder_keep hi _
    callers := h₁.callers_keep hi (c := { d.callers i with phase := _ }) ⟨hk, hok⟩ }

theorem Inv.not_running_of_gone (hinv : d.Inv) {k : Nat} (hk : d.port = some k)
    (hg : d.loopGone k = true) (k' : Nat) : ¬ d.Running k' := by
  rintro ⟨l, hl, hlive⟩
  obtain rfl : k' = k := Option.some.inj ((hinv.running k' ⟨l, hl, hlive⟩).symm.trans hk)
  simp only [loopGone, hl, decide_eq_true_eq] at hg
  simp [hg, LoopPhase.live] at hlive

/-- A caller that finds the read loop of the port it closed gone forgets the port. -/
theorem Inv.join (hinv : d.Inv) {i k : Nat} (r : Except PortError Unit) (next : AfterClose)
    (hp : (d.callers i).phase = .joining k r next) (hg : d.loopGone k = true) :
    ({ d with port := none }.setPhase i (next.next r)).Inv := by
  have hi : (d.callers i).phase.locked = true := by rw [hp]; rfl
  have hok := hinv.callers i
  unfold CallerOk at hok
  rw [hp] at hok
  have hc : ({ d with port := none }).CallerOk { d.callers i with phase := next.next r } := by
    unfold CallerOk
    cases next with
    | finish => exact .inl rfl
    | reopen o => exact ⟨rfl, hok.2⟩
  exact ⟨hinv.holder_keep hi _, hinv.callers_keep hi hc,
    fun k' hr => absurd hr (hinv.not_running_of_gone hok.1 hg k'), fun _ h => (by cases h),
    hinv.fresh, hinv.receiver⟩

theorem Inv.unlock (hinv : d.Inv) {i : Nat} (r : Except PortError Unit)
    (hp : (d.callers i).phase = .unlocking r) : ({ d with lock := none }.setCaller i {}).Inv := by
  have hi : (d.callers i).phase.locked = true := by rw [hp]; rfl
  exact hinv.withCallers _ _
    (forall_update (P := fun j c => c.phase.locked = true → none = some j)
      (fun h => by simp [Phase.locked] at h)
      fun j hj h => by simp [hinv.unlocked_of_ne hi hj] at h)
    (forall_update (P := fun _ c => d.CallerOk c) (callerOk_of_unlocked rfl)
      fun j _ => hinv.callers j)

theorem Inv.peek (hinv : d.Inv) {i : Nat} (bytes : List UInt8)
    (hp : (d.callers i).phase = .peeking bytes) {p : Phase} (hlp : p.locked = false) :
    ({ d with lock := none }.setPhase i p).Inv := by
  have hi : (d.callers i).phase.locked = true := by rw [hp]; rfl
  exact hinv.withCallers _ _
    (forall_update (P := fun j c => c.phase.locked = true → none = some j)
      (fun h => by simp [hlp] at h)
      fun j hj h => by simp [hinv.unlocked_of_ne hi hj] at h)
    (forall_update (P := fun _ c => d.CallerOk c) (callerOk_of_unlocked hlp)
      fun j _ => hinv.callers j)

/-- Making a port numbers it after every port made before. -/
theorem Inv.made (hinv : d.Inv) {i : Nat} (o : Opening) (hp : (d.callers i).phase = .making o) :
    ({ d with made := d.made + 1 }.setPhase i (.timing (d.made + 1) o)).Inv := by
  have hi : (d.callers i).phase.locked = true := by rw [hp]; rfl
  have hok := hinv.callers i
  unfold CallerOk at hok
  rw [hp] at hok
  -- the new number is past every port that has a read loop
  have hnew : d.loops (d.made + 1) = none := by
    by_contra hne
    have := hinv.fresh (d.made + 1) hne
    omega
  have hc : ({ d with made := d.made + 1 }).CallerOk
      { d.callers i with phase := .timing (d.made + 1) o } := by
    unfold CallerOk
    exact ⟨hok.1, rfl, hnew, hok.2⟩
  exact ⟨hinv.holder_keep hi _, hinv.callers_keep hi hc, hinv.running, hinv.port_loop,
    fun k hk => Nat.le_succ_of_le (hinv.fresh k hk), hinv.receiver⟩

/-- Opening a port records it, with its name and receiver, and starts its read loop. -/
theorem Inv.spawn (hinv : d.Inv) {i k : Nat} (o : Opening)
    (hp : (d.callers i).phase = .resetting k o) :
    (({ d with port := some k, name := o.name, receiver := some o.receiver }.setLoop k
      o.loop).setPhase i (.unlocking (.ok ()))).Inv := by
  have hi : (d.callers i).phase.locked = true := by rw [hp]; rfl
  have hok := hinv.callers i
  unfold CallerOk at hok
  rw [hp] at hok
  obtain ⟨hport, rfl, hnone, hasks⟩ := hok
  have hopens : (d.callers i).call.any Call.opens = true := by
    rcases hasks with h | ⟨h, -⟩ <;> simp [h, Call.opens]
  -- no loop ran while no port was open, so the only running loop is the new one
  have hrun : ∀ k', d.Running k' → False := fun k' hr => by
    rw [hinv.running k' hr] at hport
    cases hport
  refine ⟨hinv.holder_keep hi _, hinv.callers_keep hi (c := { d.callers i with phase := _ })
    (.inr ⟨rfl, rfl, hopens⟩),
    forall_setLoop
      (P := fun k lp => (∃ l, lp = some l ∧ l.phase.live = true) → some d.made = some k)
      (fun _ => rfl) fun k' _ hr => (hrun k' hr).elim,
    fun k' hk' => ?_,
    forall_setLoop (P := fun k lp => lp ≠ none → k ≤ d.made) (fun _ => Nat.le_refl _)
      fun k' _ => hinv.fresh k', ?_⟩
  · simp only [setPhase_port, setLoop_port, Option.some.injEq] at hk'
    subst hk'
    simp
  · simp only [setPhase_receiver, setLoop_receiver, setPhase_loops, setLoop_loops]
    exact ⟨fun h => (by cases h), fun h => by simpa using h d.made⟩

theorem Inv.finish (hinv : d.Inv) (i : Nat) : (d.setCaller i {}).Inv :=
  hinv.withCallers _ _
    (forall_update (P := fun j c => c.phase.locked = true → d.lock = some j)
      (fun h => by simp [Phase.locked] at h) fun j _ => hinv.holder j)
    (forall_update (P := fun _ c => d.CallerOk c) (callerOk_of_unlocked rfl)
      fun j _ => hinv.callers j)

theorem LoopMove.live {k : Nat} {l : Loop} {p : LoopPhase} {e : Event} (hm : LoopMove k l p e) :
    l.phase.live = true := by
  cases hm <;> simp_all [LoopPhase.live]

theorem Inv.loop (hinv : d.Inv) {k : Nat} {l : Loop} {p : LoopPhase} {e : Event}
    (hl : d.loops k = some l) (hm : LoopMove k l p e) : (d.setLoop k { l with phase := p }).Inv :=
  hinv.setLoop (hinv.running k ⟨l, hl, hm.live⟩) hl _

theorem Inv.moves (hinv : d.Inv) {d' : Driver} {e : Event} (hm : Moves d d' e) : d'.Inv := by
  cases hm with
  | start c _ => exact hinv.start _ c
  | move hp hm => exact hinv.move hp hm
  | lock c _ hc hl => exact hinv.lock c hc hl
  | stop next hp hk hl => exact hinv.stop next hp hk hl
  | join r next hp hg => exact hinv.join r next hp hg
  | unlock r hp => exact hinv.unlock r hp
  | peekNone bytes hp _ => exact hinv.peek bytes hp rfl
  | peek bytes hp _ => exact hinv.peek bytes hp rfl
  | made o hp => exact hinv.made o hp
  | spawn o hp => exact hinv.spawn o hp
  | finish _ _ => exact hinv.finish _
  | loop hl hm => exact hinv.loop hl hm

theorem inv_init : Driver.Inv {} where
  holder _ h := by simp [Phase.locked] at h
  callers _ := callerOk_of_unlocked rfl
  running _ h := by obtain ⟨l, hl, -⟩ := h; cases hl
  port_loop _ h := by cases h
  fresh _ h := absurd rfl h
  receiver := ⟨fun _ _ => rfl, fun _ => rfl⟩

end Driver

/-! ### What the events of a run record -/

namespace Event

def about : Event → Option Nat
  | .stop _ k | .spawn _ k _ | .opened k _ | .returned k _ | .checked k | .received k _ _
  | .readFailed k _ _ | .left k => some k
  | _ => none

/-- The port open after `e`, `p` being open before: a recorded port opens, and a caller that saw
the read loop of the open port gone forgets it. -/
def portAfter (p : Option Nat) : Event → Option Nat
  | .spawn _ k _ => some k
  | .joined _ _ => none
  | _ => p

def openedAfter (p : Option Nat) : Event → Option Nat
  | .opened k _ => some k
  | _ => p

theorem openedAfter_of_about {e : Event} (he : e.about = none) (p : Option Nat) :
    e.openedAfter p = p := by
  cases e <;> simp_all [about, openedAfter]

end Event

def openAfter (tr : List Event) : Option Nat := tr.foldl Event.portAfter none

def lastOpened (tr : List Event) : Option Nat := tr.foldl Event.openedAfter none

@[simp] theorem openAfter_append_singleton (tr : List Event) (e : Event) :
    openAfter (tr ++ [e]) = e.portAfter (openAfter tr) := by
  simp [openAfter]

@[simp] theorem lastOpened_append_singleton (tr : List Event) (e : Event) :
    lastOpened (tr ++ [e]) = e.openedAfter (lastOpened tr) := by
  simp [lastOpened]

def Started (k : Nat) (tr : List Event) : Prop := ∃ i r, Event.spawn i k r ∈ tr

def Stopped (k : Nat) (tr : List Event) : Prop := ∃ i, Event.stop i k ∈ tr

def Exited (k : Nat) (tr : List Event) : Prop := Event.left k ∈ tr

def Failed (k : Nat) (tr : List Event) : Prop := ∃ r t, Event.readFailed k r t ∈ tr

section Other

variable {tr : List Event} {e : Event} {k : Nat} (he : e.about ≠ some k)
include he

theorem started_other : Started k (tr ++ [e]) ↔ Started k tr := by
  cases e <;> simp [Event.about, Started] at he ⊢
  simp [Ne.symm he]

theorem stopped_other : Stopped k (tr ++ [e]) ↔ Stopped k tr := by
  cases e <;> simp [Event.about, Stopped] at he ⊢
  simp [Ne.symm he]

theorem exited_other : Exited k (tr ++ [e]) ↔ Exited k tr := by
  cases e <;> simp [Event.about, Exited] at he ⊢
  simp [Ne.symm he]

theorem failed_other : Failed k (tr ++ [e]) ↔ Failed k tr := by
  cases e <;> simp [Event.about, Failed] at he ⊢
  simp [Ne.symm he]

end Other

/-- What the read loop of port `k`, if any, owes to the events that led to it. -/
structure LoopTraced (tr : List Event) (k : Nat) (lp : Option Loop) : Prop where
  started : lp ≠ none ↔ Started k tr
  stopped : (∃ l, lp = some l ∧ l.stopped = true) ↔ Stopped k tr
  exited : (∃ l, lp = some l ∧ l.phase = .gone) ↔ Exited k tr
  failed : Failed k tr → ∃ l, lp = some l ∧ (l.phase = .leaving ∨ l.phase = .gone)
  returned : ∀ l res, lp = some l → l.phase = .returned res → Event.returned k res ∈ tr
  failing : ∀ l t, lp = some l → l.phase = .failing t →
    ∃ a b, tr = a ++ Event.returned k (.failed t) :: b ∧ ¬ Stopped k a

namespace LoopTraced

variable {tr : List Event} {k : Nat} {lp : Option Loop} {e : Event}

theorem none_of_fresh (k : Nat) : LoopTraced [] k none where
  started := by simp [Started]
  stopped := by simp [Stopped]
  exited := by simp [Exited]
  failed h := by simp [Failed] at h
  returned _ _ h := by cases h
  failing _ _ h := by cases h

theorem other (h : LoopTraced tr k lp) (he : e.about ≠ some k) : LoopTraced (tr ++ [e]) k lp where
  started := by rw [started_other he]; exact h.started
  stopped := by rw [stopped_other he]; exact h.stopped
  exited := by rw [exited_other he]; exact h.exited
  failed hf := h.failed ((failed_other he).1 hf)
  returned l res hl hp := List.mem_append_left _ (h.returned l res hl hp)
  failing l t hl hp := by
    obtain ⟨a, b, rfl, hs⟩ := h.failing l t hl hp
    exact ⟨a, b ++ [e], by simp, hs⟩

/-- Closing the stop channel of port `k` marks its read loop stopped. -/
theorem stop {l : Loop} (h : LoopTraced tr k (some l)) (i : Nat) :
    LoopTraced (tr ++ [.stop i k]) k (some { l with stopped := true }) where
  started := by simpa [Started] using h.started
  stopped := by simp [Stopped]
  exited := by simpa [Exited] using h.exited
  failed hf := by
    obtain ⟨l', hl', hp⟩ := h.failed (by simpa [Failed] using hf)
    cases hl'
    exact ⟨_, rfl, hp⟩
  returned l' res hl hp := by
    cases hl
    exact List.mem_append_left _ (h.returned l res rfl hp)
  failing l' t hl hp := by
    cases hl
    obtain ⟨a, b, rfl, hs⟩ := h.failing l t rfl hp
    exact ⟨a, b ++ [.stop i k], by simp, hs⟩

theorem spawn (h : LoopTraced tr k none) (i : Nat) (o : Opening) :
    LoopTraced (tr ++ [.spawn i k o.receiver]) k (some o.loop) where
  started := ⟨fun _ => ⟨i, o.receiver, by simp⟩, fun _ => by simp⟩
  stopped := by simpa [Stopped, Opening.loop] using h.stopped
  exited := by simpa [Exited, Opening.loop] using h.exited
  failed hf := by simpa using h.failed (by simpa [Failed] using hf)
  returned _ _ hl hp := by cases hl; cases hp
  failing _ _ hl hp := by cases hl; cases hp

/-- A step of the read loop of port `k` keeps what it owes to the run. -/
theorem move {l : Loop} {p : LoopPhase} (h : LoopTraced tr k (some l))
    (hm : Driver.LoopMove k l p e) : LoopTraced (tr ++ [e]) k (some { l with phase := p }) := by
  -- a running loop has not exited
  have hx : Event.left k ∉ tr := fun hx => by
    obtain ⟨l', hl', hg⟩ := h.exited.2 hx
    cases hl'
    exact absurd hm.live (by simp [hg, LoopPhase.live])
  have hs : Started k (tr ++ [e]) ↔ Started k tr := by cases hm <;> simp [Started]
  have hst : Stopped k (tr ++ [e]) ↔ Stopped k tr := by cases hm <;> simp [Stopped]
  refine ⟨by rw [hs]; simpa using h.started, by rw [hst]; simpa using h.stopped, ?_, fun hf => ?_,
    fun l' res hl hp => ?_, fun l' t hl hp => ?_⟩
  · -- the loop exits exactly in its step that closes the done channel
    cases hm <;> simp [Exited, hx, LoopPhase.afterCheck_ne_gone]
  · -- a loop that told a failure is leaving, and it only leaves
    have hf' : Failed k tr ∨ ∃ r t, e = .readFailed k r t := by
      cases hm <;> simp_all [Failed]
    rcases hf' with hf' | ⟨r, t, rfl⟩
    · obtain ⟨l', hl', hp⟩ := h.failed hf'
      cases hl'
      cases hm <;> simp_all
    · cases hm
      simp
  · cases hl
    cases hm <;> simp_all [LoopPhase.afterCheck_ne_returned]
  · cases hl
    cases hm with
    | checked res hp' =>
      obtain ⟨hs', rfl⟩ := LoopPhase.eq_of_afterCheck_eq_failing hp
      obtain ⟨a, b, rfl⟩ := List.append_of_mem (h.returned l _ rfl hp')
      refine ⟨a, b ++ [.checked k], by simp, fun ha => ?_⟩
      obtain ⟨i, hi⟩ := ha
      obtain ⟨l', hl', hs''⟩ := h.stopped.2 ⟨i, by simp [hi]⟩
      cases hl'
      simp [hs'] at hs''
    | _ => cases hp

end LoopTraced

/-- What the open port and the read loops of a driver owe to the events that led to it. -/
structure Traced (tr : List Event) (d : Driver) : Prop where
  port : d.port = openAfter tr
  loops : ∀ k, LoopTraced tr k (d.loops k)
  opened : ∀ k l, d.loops k = some l → l.phase ≠ .starting → l.phase ≠ .gone →
    lastOpened tr = some k

theorem traced_init : Traced [] ({} : Driver) where
  port := rfl
  loops := LoopTraced.none_of_fresh
  opened _ _ h := by cases h

namespace Traced

variable {tr : List Event} {d d' : Driver} {e : Event}

theorem keep (ht : Traced tr d) (he : e.about = none) (hport : d'.port = e.portAfter d.port)
    (hloops : d'.loops = d.loops) : Traced (tr ++ [e]) d' where
  port := by rw [hport, ht.port, openAfter_append_singleton]
  loops k := hloops ▸ (ht.loops k).other (by simp [he])
  opened k l hl hs hg := by
    rw [lastOpened_append_singleton, Event.openedAfter_of_about he]
    exact ht.opened k l (hloops ▸ hl) hs hg

theorem stop (ht : Traced tr d) {i k : Nat} {l : Loop} (next : AfterClose)
    (hl : d.loops k = some l) : Traced (tr ++ [.stop i k])
      ((d.setLoop k { l with stopped := true }).setPhase i (.closingPort k next)) where
  port := by simpa [Event.portAfter] using ht.port
  loops := Driver.forall_setLoop (P := LoopTraced _) ((hl ▸ ht.loops k).stop i)
    fun k' hkk => (ht.loops k').other (by simp [Event.about, Ne.symm hkk])
  opened k' l' hl' hs hg := by
    simp only [Driver.setPhase_loops, Driver.setLoop_loops, Function.update_apply] at hl'
    simp only [lastOpened_append_singleton, Event.openedAfter]
    by_cases hkk : k' = k
    · subst hkk
      rw [if_pos rfl] at hl'
      cases hl'
      exact ht.opened k' l hl hs hg
    · rw [if_neg hkk] at hl'
      exact ht.opened k' l' hl' hs hg

/-- Recording a port opens it and starts its read loop, on a port that had none. -/
theorem spawn (hinv : d.Inv) (ht : Traced tr d) {i k : Nat} (o : Opening)
    (hp : (d.callers i).phase = .resetting k o) : Traced (tr ++ [.spawn i k o.receiver])
      (({ d with port := some k, name := o.name, receiver := some o.receiver }.setLoop k
        o.loop).setPhase i (.unlocking (.ok ()))) where
  port := by simp [Event.portAfter]
  loops := by
    -- the port recorded had no read loop yet
    have hnone : d.loops k = none := by
      have hok := hinv.callers i
      unfold Driver.CallerOk at hok
      rw [hp] at hok
      exact hok.2.2.1
    exact Driver.forall_setLoop (P := LoopTraced _) ((hnone ▸ ht.loops k).spawn i o)
      fun k' hkk => (ht.loops k').other (by simp [Event.about, Ne.symm hkk])
  opened k' l' hl' hs hg := by
    simp only [Driver.setPhase_loops, Driver.setLoop_loops, Function.update_apply] at hl'
    simp only [lastOpened_append_singleton, Event.openedAfter]
    by_cases hkk : k' = k
    · subst hkk
      rw [if_pos rfl] at hl'
      cases hl'
      exact absurd rfl hs
    · rw [if_neg hkk] at hl'
      exact ht.opened k' l' hl' hs hg

/-- A step of a read loop keeps what the loops owe to the run: a loop tells its opening only while
no other loop runs, so none past its start is overtaken. -/
theorem loop (hinv : d.Inv) (ht : Traced tr d) {k : Nat} {l : Loop} {p : LoopPhase}
    (hl : d.loops k = some l) (hm : Driver.LoopMove k l p e) :
    Traced (tr ++ [e]) (d.setLoop k { l with phase := p }) where
  port := by cases hm <;> simpa [Event.portAfter] using ht.port
  loops := Driver.forall_setLoop (P := LoopTraced _) ((hl ▸ ht.loops k).move hm)
    fun k' hkk => (ht.loops k').other (by cases hm <;> simp [Event.about, Ne.symm hkk])
  opened k' l' hl' hs hg := by
    simp only [Driver.setLoop_loops, Function.update_apply] at hl'
    rw [lastOpened_append_singleton]
    by_cases hkk : k' = k
    · subst hkk
      rw [if_pos rfl] at hl'
      cases hl'
      have hprev : l.phase ≠ .starting → lastOpened tr = some k' :=
        fun hs' => ht.opened k' l hl hs' (LoopPhase.live_iff.1 hm.live)
      cases hm <;> simp_all [Event.openedAfter]
    · rw [if_neg hkk] at hl'
      have hrun' : d.Running k' := ⟨l', hl', LoopPhase.live_iff.2 hg⟩
      have hrun : d.Running k := ⟨l, hl, hm.live⟩
      have hprev := ht.opened k' l' hl' hs hg
      cases hm with
      | opened _ =>
        exact absurd (hinv.running_unique hrun' hrun) hkk
      | _ => simpa [Event.openedAfter] using hprev

theorem moves (hinv : d.Inv) (ht : Traced tr d) (hm : Driver.Moves d d' e) :
    Traced (tr ++ [e]) d' := by
  cases hm with
  | move _ hm => exact ht.keep (by cases hm <;> rfl) (by cases hm <;> rfl) rfl
  | stop next _ _ hl => exact ht.stop next hl
  | spawn o hp => exact ht.spawn hinv o hp
  | loop hl hm => exact ht.loop hinv hl hm
  | _ => exact ht.keep rfl rfl rfl

end Traced

/-! ### The lock holder's tenure -/

/-- The phases of a caller holding the lock once the port it had to close is closed and its read
loop gone, or it found none open. -/
def Phase.joined : Phase → Bool
  | .making _ | .timing _ _ | .resetting _ _ | .unlocking _ => true
  | _ => false

theorem Traced.started_exited_or_open {tr : List Event} {d : Driver} (hinv : d.Inv)
    (ht : Traced tr d) {k : Nat}
    (hk : Started k tr) : Exited k tr ∨ d.port = some k := by
  obtain ⟨l, hl⟩ := Option.ne_none_iff_exists'.1 ((ht.loops k).started.2 hk)
  by_cases hg : l.phase = .gone
  · exact .inl ((ht.loops k).exited.1 ⟨l, hl, hg⟩)
  · exact .inr (hinv.running k ⟨l, hl, LoopPhase.live_iff.2 hg⟩)

namespace Driver

variable {tr : List Event} {d d' : Driver} {e : Event}

/-- Caller `i` took the lock in an event `lock i` and no one took it since; every read loop started
before then has exited, but that of the open port while the caller has not seen it gone. -/
def HeldSince (tr : List Event) (d : Driver) (i : Nat) : Prop :=
  ∃ a b, tr = a ++ .lock i :: b ∧ (∀ x ∈ b, ∀ j, x ≠ .lock j) ∧
    ∀ k, Started k a → Exited k tr ∨ ((d.callers i).phase.joined = false ∧ d.port = some k)

def Tenure (tr : List Event) (d : Driver) : Prop :=
  ∀ i, (d.callers i).phase.locked = true → d.HeldSince tr i

theorem HeldSince.step {i : Nat} (h : d.HeldSince tr i) (he : ∀ j, e ≠ .lock j)
    (hk : ∀ k, (d.callers i).phase.joined = false → d.port = some k →
      Exited k (tr ++ [e]) ∨ ((d'.callers i).phase.joined = false ∧ d'.port = some k)) :
    d'.HeldSince (tr ++ [e]) i := by
  obtain ⟨a, b, rfl, hb, hst⟩ := h
  refine ⟨a, b ++ [e], by simp, fun x hx j => ?_, fun k hk' => ?_⟩
  · rcases List.mem_append.1 hx with hx | hx
    · exact hb x hx j
    · rw [List.mem_singleton.1 hx]
      exact he j
  · rcases hst k hk' with hx | ⟨hj, hp⟩
    · exact .inl (List.mem_append_left _ hx)
    · exact hk k hj hp

theorem Tenure.frame (hten : d.Tenure tr) {i : Nat} (hi : (d'.callers i).phase.locked = true)
    (hc : d'.callers i = d.callers i) (hport : d'.port = d.port) (he : ∀ j, e ≠ .lock j) :
    d'.HeldSince (tr ++ [e]) i :=
  (hten i (hc ▸ hi)).step he fun _ hj hp => .inr ⟨hc ▸ hj, hport ▸ hp⟩

theorem Inv.unlocked_of_update (hinv : d.Inv) {i i' : Nat} (hi : (d.callers i).phase.locked = true)
    (hii : i' ≠ i) (c : Caller) : (Function.update d.callers i c i').phase.locked = false := by
  rw [Function.update_of_ne hii]
  exact hinv.unlocked_of_ne hi hii

theorem Inv.eq_of_locked_update (hinv : d.Inv) {i i' : Nat} (hi : (d.callers i).phase.locked = true)
    {c : Caller} (hi' : (Function.update d.callers i c i').phase.locked = true) : i' = i := by
  by_contra hii
  rw [hinv.unlocked_of_update hi hii c] at hi'
  cases hi'

theorem Tenure.moves (hinv : d.Inv) (ht : Traced tr d) (hten : d.Tenure tr) (hm : Moves d d' e) :
    d'.Tenure (tr ++ [e]) := by
  intro i' hi'
  -- the moves of a caller that may not hold the lock leave every other caller's tenure as it was
  cases hm with
  | @start i c _ =>
    by_cases hii : i' = i
    · subst hii
      simp [Phase.locked] at hi'
    · exact hten.frame hi' (by simp [Function.update_of_ne hii]) rfl (by simp)
  | @move i p p' _ hp hm =>
    by_cases hii : i' = i
    · subst hii
      have hi : (d.callers i').phase.locked = true := hp ▸ hm.locked_of (by simpa using hi')
      refine (hten i' hi).step (by cases hm <;> simp) fun k hj hport => ?_
      simp only [setPhase_callers, Function.update_self, setPhase_port]
      -- a caller that goes past the close without joining found no loop running
      cases hm with
      | refuse baud hr => exact absurd (hinv.receiver.1 hr k) (hinv.port_loop k hport)
      | noPort next hn => simp [hn] at hport
      | makeFailed o t => simp [hp, Phase.joined] at hj
      | timed k' o => simp [hp, Phase.joined] at hj
      | timeFailed k' o t => simp [hp, Phase.joined] at hj
      | _ => exact .inr ⟨rfl, hport⟩
    · exact hten.frame hi' (by simp [Function.update_of_ne hii]) rfl (by cases hm <;> simp)
  | @lock i c _ _ hl =>
    by_cases hii : i' = i
    · subst hii
      -- a new tenure: the loops started so far have exited, but the open port's
      refine ⟨tr, [], rfl, by simp, fun k hk => ?_⟩
      rcases ht.started_exited_or_open hinv hk with hx | hport
      · exact .inl (List.mem_append_left _ hx)
      · exact .inr ⟨by cases c <;> simp [Call.held, Phase.joined], hport⟩
    · have := hinv.unlocked_of_free hl i'
      simp [Function.update_of_ne hii, this] at hi'
  | loop _ hm => exact hten.frame hi' rfl rfl (by cases hm <;> simp)
  | @finish i r _ =>
    by_cases hii : i' = i
    · subst hii
      simp [Phase.locked] at hi'
    · exact hten.frame hi' (by simp [Function.update_of_ne hii]) rfl (by simp)
  -- the other moves are the lock holder's own, and no other caller holds the lock
  | @stop i k l next hp hk hl =>
    obtain rfl := hinv.eq_of_locked_update (by simp [hp, Phase.locked]) hi'
    refine (hten i' (by simp [hp, Phase.locked])).step (by simp) fun k' _ hport => ?_
    exact .inr ⟨by simp [Phase.joined], by simpa using hport⟩
  | @join i k r next hp hg =>
    obtain rfl := hinv.eq_of_locked_update (by simp [hp, Phase.locked]) hi'
    refine (hten i' (by simp [hp, Phase.locked])).step (by simp) fun k' _ hport => .inl ?_
    -- the open port is the one the caller closed, whose read loop it saw gone
    have hok := hinv.callers i'
    unfold CallerOk at hok
    rw [hp] at hok
    obtain rfl : k' = k := Option.some.inj (hport.symm.trans hok.1)
    obtain ⟨l, hl⟩ := Option.ne_none_iff_exists'.1 (hinv.port_loop k' hport)
    simp only [loopGone, hl, decide_eq_true_eq] at hg
    exact List.mem_append_left _ ((ht.loops k').exited.1 ⟨l, hl, hg⟩)
  | @unlock i r hp =>
    obtain rfl := hinv.eq_of_locked_update (by simp [hp, Phase.locked]) hi'
    simp [Phase.locked] at hi'
  | @peekNone i bytes hp _ =>
    obtain rfl := hinv.eq_of_locked_update (by simp [hp, Phase.locked]) hi'
    simp [Phase.locked] at hi'
  | @peek i k bytes hp _ =>
    obtain rfl := hinv.eq_of_locked_update (by simp [hp, Phase.locked]) hi'
    simp [Phase.locked] at hi'
  | @made i o hp =>
    obtain rfl := hinv.eq_of_locked_update (by simp [hp, Phase.locked]) hi'
    exact (hten i' (by simp [hp, Phase.locked])).step (by simp)
      fun _ hj _ => by simp [hp, Phase.joined] at hj
  | @spawn i k o hp =>
    obtain rfl := hinv.eq_of_locked_update (by simp [hp, Phase.locked]) hi'
    exact (hten i' (by simp [hp, Phase.locked])).step (by simp)
      fun _ hj _ => by simp [hp, Phase.joined] at hj

theorem tenure_init : Driver.Tenure [] {} := fun _ h => by simp [Phase.locked] at h

end Driver

/-! ### What each event says of the run before it -/

def Each (P : List Event → Event → Prop) (tr : List Event) : Prop :=
  ∀ pre e post, tr = pre ++ e :: post → P pre e

namespace Each

variable {P Q : List Event → Event → Prop} {tr : List Event}

theorem nil (P : List Event → Event → Prop) : Each P [] := fun _ _ _ h => by simp at h

theorem snoc {e : Event} (h : Each P tr) (he : P tr e) : Each P (tr ++ [e]) := by
  intro pre x post htr
  rcases List.eq_nil_or_concat post with rfl | ⟨post', y, rfl⟩
  · obtain ⟨rfl, hx⟩ := List.append_inj' htr rfl
    obtain rfl : e = x := by simpa using hx
    exact he
  · rw [List.concat_eq_append, ← List.cons_append, ← List.append_assoc] at htr
    obtain ⟨htr', -⟩ := List.append_inj' htr rfl
    exact h pre x post' htr'

theorem imp (h : Each P tr) (hpq : ∀ pre e, P pre e → Q pre e) : Each Q tr :=
  fun pre e post htr => hpq pre e (h pre e post htr)

end Each

/-- What an event says of the events before it. -/
structure EventOk (pre : List Event) (e : Event) : Prop where
  /-- A read loop calls its receiver only while its port is open, before it exited and before it
  told a failure. -/
  callback : ∀ k, e.callback = some k →
    openAfter pre = some k ∧ ¬ Exited k pre ∧ ¬ Failed k pre
  /-- Bytes go to the receiver of the port whose read loop told last that it opened. -/
  received : ∀ k r c, e = .received k r c → lastOpened pre = some k
  /-- A failure is told for a Read that returned before the port's stop channel closed. -/
  readFailed : ∀ k r t, e = .readFailed k r t →
    ∃ a b, pre = a ++ .returned k (.failed t) :: b ∧ ¬ Stopped k a
  /-- Open, Reconnect and Close return once every read loop started before they took the lock has
  exited, the lock held all along. -/
  unlock : ∀ i r, e = .unlock i r → ∃ a b, pre = a ++ .lock i :: b ∧
    (∀ x ∈ b, ∀ j, x ≠ .lock j) ∧ ∀ k, Started k a → Exited k pre

namespace Driver

variable {tr : List Event} {d d' : Driver} {e : Event}

theorem Moves.loop_of_callback (hm : Moves d d' e) {k : Nat} (he : e.callback = some k) :
    ∃ l p, d.loops k = some l ∧ LoopMove k l p e := by
  cases hm with
  | move _ hm => cases hm <;> simp [Event.callback] at he
  | @loop k' l p e hl hm =>
    cases hm <;> simp only [Event.callback, Option.some.injEq, reduceCtorEq] at he
    all_goals subst he; exact ⟨_, _, hl, by constructor; assumption⟩
  | _ => simp [Event.callback] at he

theorem Moves.phase_of_unlock (hm : Moves d d' e) {i : Nat} {r : Except PortError Unit}
    (he : e = .unlock i r) : (d.callers i).phase = .unlocking r := by
  cases hm with
  | move _ hm => cases hm <;> simp at he
  | unlock r hp => simp only [Event.unlock.injEq] at he; obtain ⟨rfl, rfl⟩ := he; exact hp
  | loop _ hm => cases hm <;> simp at he
  | _ => simp at he

theorem Moves.eventOk (hinv : d.Inv) (ht : Traced tr d) (hten : d.Tenure tr) (hm : Moves d d' e) :
    EventOk tr e where
  callback k he := by
    obtain ⟨l, p, hl, hlm⟩ := hm.loop_of_callback he
    have hlive := hlm.live
    -- a loop that calls back neither left nor is leaving
    have hleave : l.phase ≠ .leaving := fun h => by cases hlm <;> simp_all [Event.callback]
    refine ⟨ht.port ▸ hinv.running k ⟨l, hl, hlive⟩, fun hx => ?_, fun hf => ?_⟩
    · obtain ⟨l', hl', hg⟩ := (ht.loops k).exited.2 hx
      rw [hl] at hl'
      cases hl'
      simp [hg, LoopPhase.live] at hlive
    · obtain ⟨l', hl', hg⟩ := (ht.loops k).failed hf
      rw [hl] at hl'
      cases hl'
      rcases hg with hg | hg
      · exact hleave hg
      · simp [hg, LoopPhase.live] at hlive
  received k r c he := by
    obtain ⟨l, p, hl, hlm⟩ := hm.loop_of_callback (k := k) (by simp [he, Event.callback])
    subst he
    cases hlm with
    | received _ hp => exact ht.opened k l hl (by simp [hp]) (by simp [hp])
  readFailed k r t he := by
    obtain ⟨l, p, hl, hlm⟩ := hm.loop_of_callback (k := k) (by simp [he, Event.callback])
    subst he
    cases hlm with
    | readFailed _ hp => exact (ht.loops k).failing l t hl hp
  unlock i r he := by
    have hp := hm.phase_of_unlock he
    obtain ⟨a, b, htr, hb, hst⟩ := hten i (by simp [hp, Phase.locked])
    refine ⟨a, b, htr, hb, fun k hk => ?_⟩
    rcases hst k hk with hx | ⟨hj, -⟩
    · exact hx
    · simp [hp, Phase.joined] at hj

end Driver

theorem Run.inv {tr : List Event} {d : Driver} (h : Run {} tr d) : d.Inv := by
  induction h with
  | nil => exact Driver.inv_init
  | step a _ hs ih => exact ih.moves (Driver.step_moves hs)

theorem Run.traced {tr : List Event} {d : Driver} (h : Run {} tr d) : Traced tr d := by
  induction h with
  | nil => exact traced_init
  | step a hr hs ih => exact ih.moves hr.inv (Driver.step_moves hs)

theorem Run.tenure {tr : List Event} {d : Driver} (h : Run {} tr d) : d.Tenure tr := by
  induction h with
  | nil => exact Driver.tenure_init
  | step a hr hs ih => exact ih.moves hr.inv hr.traced (Driver.step_moves hs)

theorem Run.each_eventOk {tr : List Event} {d : Driver} (h : Run {} tr d) : Each EventOk tr := by
  induction h with
  | nil => exact Each.nil _
  | step a hr hs ih => exact ih.snoc ((Driver.step_moves hs).eventOk hr.inv hr.traced hr.tenure)

/-! ### The discipline of the read loops -/

def Phase.opening : Phase → Option Opening
  | .closing (.reopen o) | .closingPort _ (.reopen o) | .joining _ _ (.reopen o) | .making o
  | .timing _ o | .resetting _ o => some o
  | _ => none

namespace Driver

variable {d : Driver}

/-- Close with no port open and the lock free returns success in its three steps, calls no port,
and leaves the driver as it was. -/
theorem replay_close_of_idle {i : Nat} (hl : d.lock = none) (hp : d.port = none)
    (hc : d.callers i = {}) : d.replay [.start i .close, .step i, .step i, .step i] =
      some (d, [.call i .close, .lock i, .other i, .unlock i (.ok ())]) := by
  have hu : Function.update d.callers i {} = d.callers := by
    rw [← hc]
    exact Function.update_eq_self i d.callers
  simp [replay, step, advance, setCaller, setPhase, hc, hl, hp, Call.held, AfterClose.next, hu]
  cases d
  simp_all

/-- A caller about to return from Open, Reconnect or Close leaves a read loop running only after
opening a port, and none after Close. -/
theorem Inv.returning (hinv : d.Inv) {i : Nat} {r : Except PortError Unit}
    (hp : (d.callers i).phase = .unlocking r) :
    (∀ k, d.Running k → r = .ok () ∧ (d.callers i).call.any Call.opens = true) ∧
      ((d.callers i).call = some .close → d.port = none) := by
  have hok := hinv.callers i
  unfold CallerOk at hok
  rw [hp] at hok
  refine ⟨fun k hk => ?_, fun hc => ?_⟩
  · rcases hok with hn | ⟨hr, -, ho⟩
    · rw [hinv.running k hk] at hn
      cases hn
    · exact ⟨hr, ho⟩
  · rcases hok with hn | ⟨-, -, ho⟩
    · exact hn
    · simp [hc, Call.opens] at ho

/-- Reconnect opens its port under the name, and for the receiver, of the port opened last. -/
theorem Inv.reconnect_opening (hinv : d.Inv) {i : Nat} {baud : Int} {o : Opening}
    (hc : (d.callers i).call = some (.reconnect baud)) (ho : (d.callers i).phase.opening = some o) :
    o.name = d.name ∧ o.baud = baud ∧ d.receiver = some o.receiver := by
  have hok := hinv.callers i
  -- each phase that is to open a port asks for the port of the call
  have hasks : d.Asks (d.callers i).call o := by
    unfold CallerOk at hok
    revert hok ho
    cases (d.callers i).phase with
    | closing next | closingPort _ next | joining _ _ next =>
      cases next <;> simp_all [Phase.opening, AsksNext]
    | making o' | timing _ o' | resetting _ o' => simp_all [Phase.opening]
    | _ => simp [Phase.opening]
  rcases hasks with h | ⟨h, hn, hr⟩
  · simp [hc] at h
  · simp only [hc, Option.some.injEq, Call.reconnect.injEq] at h
    exact ⟨hn, h.symm, hr⟩

end Driver

/-- A reconnect's check refuses with notConnected exactly when no port was ever recorded. -/
theorem Traced.reconnect_refused {tr : List Event} {d : Driver} (hinv : d.Inv) (ht : Traced tr d)
    {i : Nat} {baud : Int} (hp : (d.callers i).phase = .checking baud) :
    d.advance i = some (d.setPhase i (.unlocking (.error
      (serialFailure "reconnect" "" .notConnected))), .other i) ↔
      ∀ j k r, Event.spawn j k r ∉ tr := by
  have hnone : d.receiver = none ↔ ∀ j k r, Event.spawn j k r ∉ tr := by
    rw [hinv.receiver, forall_comm]
    refine forall_congr' fun k => ?_
    rw [← not_ne_iff, (ht.loops k).started]
    simp [Started]
  rw [← hnone]
  unfold Driver.advance
  rw [hp]
  cases hr : d.receiver with
  | none => simp
  | some r =>
    simp only [Option.some.injEq, Prod.mk.injEq, and_true, reduceCtorEq, iff_false]
    intro h
    have := congrArg (fun d : Driver => (d.callers i).phase) h
    simp at this

/-- What the serial driver keeps along every run: how its read loops run and call their receivers,
and what Open, Reconnect and Close leave behind. -/
structure ReadDiscipline (tr : List Event) (d : Driver) : Prop where
  /-- At most one read loop runs, that of the open port. -/
  one_loop : ∀ k k', d.Running k → d.Running k' → k = k' ∧ d.port = some k
  /-- Callbacks come from the read loop of the open port before it exited or told a failure, bytes
  after that loop's opening, failures from Reads returned before the port's stop channel closed;
  Open, Reconnect and Close return after every read loop started before they took the lock
  exited. -/
  events : Each EventOk tr
  /-- A read loop running while Open, Reconnect or Close returns was started by an Open or a
  Reconnect that succeeds; after Close no port is open. -/
  returning : ∀ i r, (d.callers i).phase = .unlocking r →
    (∀ k, d.Running k → r = .ok () ∧ (d.callers i).call.any Call.opens = true) ∧
      ((d.callers i).call = some .close → d.port = none)
  /-- Close with no port open and the lock free returns success at once, calls no port, and
  leaves the driver as it was. -/
  close_idle : ∀ i, d.lock = none → d.port = none → d.callers i = {} →
    d.replay [.start i .close, .step i, .step i, .step i] =
      some (d, [.call i .close, .lock i, .other i, .unlock i (.ok ())])
  /-- Reconnect reopens under the name, and for the receiver, of the port opened last. -/
  reconnect_same : ∀ i baud o, (d.callers i).call = some (.reconnect baud) →
    (d.callers i).phase.opening = some o →
      o.name = d.name ∧ o.baud = baud ∧ d.receiver = some o.receiver
  /-- Reconnect refuses with notConnected exactly when no port was ever opened. -/
  reconnect_refused : ∀ i baud, (d.callers i).phase = .checking baud →
    (d.advance i = some (d.setPhase i (.unlocking (.error
      (serialFailure "reconnect" "" .notConnected))), .other i) ↔
      ∀ j k r, Event.spawn j k r ∉ tr)

theorem Run.read_discipline {tr : List Event} {d : Driver} (h : Run {} tr d) :
    ReadDiscipline tr d := by
  have hinv := h.inv
  have ht := h.traced
  exact {
    one_loop := fun k k' hk hk' =>
      ⟨hinv.running_unique hk hk', hinv.running k hk⟩
    events := h.each_eventOk
    returning := fun _ _ hp => hinv.returning hp
    close_idle := fun _ hl hp hc => Driver.replay_close_of_idle hl hp hc
    reconnect_same := fun _ _ _ hc ho => hinv.reconnect_opening hc ho
    reconnect_refused := fun _ _ hp => ht.reconnect_refused hinv hp }

/-- A session of two callers: caller 0 opens a port, whose read loop hands over bytes and then
tells a failure; caller 0 reconnects at another rate; caller 1 closes while the new loop reads, and
closes again. -/
def session : List Act :=
  [.start 0 (.openPort "ttyUSB0" 115200 7), .step 0, .step 0, .answer 0 .ok, .answer 0 .ok,
    .answer 0 .ok, .step 0, .run 1, .read 1 (.data [1, 2, 3]), .run 1, .run 1,
    .read 1 (.failed [5]), .run 1, .run 1, .run 1, .start 0 (.reconnect 9600), .step 0, .step 0,
    .step 0, .answer 0 .ok, .step 0, .answer 0 .ok, .answer 0 .ok, .answer 0 .ok, .step 0, .run 2,
    .start 1 .close, .step 1, .step 1, .answer 1 .ok, .read 2 (.data []), .run 2, .run 2, .step 1,
    .step 1, .start 1 .close, .step 1, .step 1, .step 1]

theorem session_read_discipline :
    ∃ tr d, ({} : Driver).replay session = some (d, tr) ∧ ReadDiscipline tr d := by
  obtain ⟨⟨d, tr⟩, hr⟩ := Option.isSome_iff_exists.1
    (show (({} : Driver).replay session).isSome = true by decide +kernel)
  exact ⟨tr, d, hr, Run.read_discipline (Driver.replay_run hr)⟩

end LcdPanel.Serial
