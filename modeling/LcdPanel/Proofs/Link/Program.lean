import LcdPanel.Proofs.Link.Steps

namespace LcdPanel.Link

open LcdPanel.Frame

namespace Event

def callAfter (i : Nat) (c : Option Call) : Event → Option Call
  | .start j call => if j = i then some call else c
  | _ => c

def lastCall (i : Nat) (tr : List Event) : Option Call :=
  tr.foldl (callAfter i) none

@[simp] theorem lastCall_nil (i : Nat) : lastCall i [] = none := rfl

@[simp] theorem lastCall_append_singleton (i : Nat) (tr : List Event) (e : Event) :
    lastCall i (tr ++ [e]) = callAfter i (lastCall i tr) e := by
  simp [lastCall]

@[simp] theorem callAfter_start (i : Nat) (c : Option Call) (call : Call) :
    callAfter i c (.start i call) = some call := by
  simp [callAfter]

theorem callAfter_of_ne {i : Nat} {e : Event} (he : ∀ c, e ≠ .start i c) (c : Option Call) :
    callAfter i c e = c := by
  cases e with
  | start j call =>
    have hji : j ≠ i := fun h => he call (h ▸ rfl)
    simp [callAfter, hji]
  | _ => rfl

end Event

def After (e₀ : Event) (Q : Event → Prop) (tr : List Event) : Prop :=
  ∃ a mid, tr = a ++ e₀ :: mid ∧ ∀ e ∈ mid, Q e

namespace After

theorem last (e₀ : Event) (Q : Event → Prop) (tr : List Event) : After e₀ Q (tr ++ [e₀]) :=
  ⟨tr, [], rfl, by simp⟩

theorem snoc {e₀ e : Event} {Q : Event → Prop} {tr : List Event} (h : After e₀ Q tr)
    (he : Q e) : After e₀ Q (tr ++ [e]) := by
  obtain ⟨a, mid, rfl, hmid⟩ := h
  refine ⟨a, mid ++ [e], by simp, fun x hx => ?_⟩
  rcases List.mem_append.1 hx with hx | hx
  · exact hmid x hx
  · rw [List.mem_singleton.1 hx]; exact he

end After

def Call.command : Call → Option Packet
  | .send cmd _ | .sendAtRate cmd _ => some cmd
  | _ => none

/-- Call `c` made request `req`: it sends `req`'s command, whose data fits in a frame, and the
request follows the reply as the call asks. -/
def Call.Makes (c : Call) (req : Query) : Prop :=
  req.cmd.data.length ≤ maxDataLen ∧
    ((∃ x, c = .send req.cmd x ∧ req.follow = .answer) ∨
      ∃ baud, c = .sendAtRate req.cmd baud ∧ req.follow = .reopen baud)

def Call.Runs (c : Call) : Phase → Prop
  | .locking (.exchange req) | .checking req | .registering req | .writing req _ _
  | .awaiting req _ | .unregistering req _ _ | .receiving req _ | .exchanged req _ => c.Makes req
  | .locking (.reconnect baud) | .reconnecting none baud | .reopening none _ baud =>
    c = .reconnect baud
  | .reconnecting (some _) baud | .reopening (some _) _ baud => ∃ cmd, c = .sendAtRate cmd baud
  | _ => True

def Caller.Fits (x : Caller) : Prop :=
  match x.call with
  | some c => c.Runs x.phase
  | none => x.phase = .idle

theorem Conn.checkSend_fits {c : Conn} {cmd : Packet} (h : c.checkSend cmd = .ok ()) :
    cmd.data.length ≤ maxDataLen := by
  unfold Conn.checkSend at h
  split at h
  · cases h
  · omega

/-- A call begins in a phase that fits it. -/
theorem Call.runs_begin (conn : Conn) (c : Call) : c.Runs (Machine.begin conn c).2 := by
  cases c with
  | send cmd timeout =>
    simp only [Machine.begin]
    split
    · trivial
    · rename_i h
      exact ⟨Conn.checkSend_fits h, .inl ⟨timeout, rfl, rfl⟩⟩
  | sendAtRate cmd baud =>
    simp only [Machine.begin]
    split
    · trivial
    · trivial
    · rename_i h
      exact ⟨Conn.checkSend_fits h, .inr ⟨baud, rfl, rfl⟩⟩
  | reconnect baud =>
    simp only [Machine.begin]
    split
    · trivial
    · rfl
  | disconnect => trivial
  | connect port baud =>
    simp only [Machine.begin]
    split <;> trivial

namespace Machine.Flow

variable {i : Nat} {p p' : Phase} {e : Event}

theorem runs (h : Flow i p p' e) (he : ∀ c, e ≠ .start i c) {c : Call} (hc : c.Runs p) :
    c.Runs p' := by
  cases h with
  | start c' _ _ => exact absurd rfl (he c')
  | acked req baud q hf =>
    obtain ⟨-, ⟨x, -, hx⟩ | ⟨b, rfl, hb⟩⟩ := hc
    · rw [hf] at hx; cases hx
    · rw [hf] at hb
      cases hb
      exact ⟨req.cmd, rfl⟩
  | reconnect reply baud port => cases reply <;> exact hc
  | _ => first | exact hc | trivial

theorem start_of_idle (h : Flow i .idle p' e) : ∃ c, e = .start i c := by
  cases h with
  | start c _ _ => exact ⟨c, rfl⟩

theorem register_of_writing {req : Query} {t : Nat} {f : List UInt8}
    (h : Flow i p (.writing req t f) e) : ∃ id, e = .register i t id := by
  cases h with
  | start c _ hp => simp [Phase.role] at hp
  | register => exact ⟨_, rfl⟩

end Machine.Flow

/-- What a reachable machine keeps of its callers' calls, with the events that led to it. -/
structure CallsKept (c : Conn) (tr : List Event) (m : Machine) : Prop where
  last : ∀ i, (m.callers i).call = Event.lastCall i tr
  fits : ∀ i, (m.callers i).Fits
  frame : ∀ i req t f, (m.callers i).phase = .writing req t f → f = c.codec.encode req.cmd
  codec : m.conn.codec = c.codec

theorem Call.Makes.command {c : Call} {req : Query} (h : c.Makes req) :
    c.command = some req.cmd := by
  obtain ⟨-, ⟨x, rfl, -⟩ | ⟨baud, rfl, -⟩⟩ := h <;> rfl

theorem CallsKept.runs {c : Conn} {tr : List Event} {m : Machine} (h : CallsKept c tr m) {i : Nat}
    (hi : (m.callers i).phase ≠ .idle) :
    ∃ call, Event.lastCall i tr = some call ∧ call.Runs (m.callers i).phase := by
  have hfits := h.fits i
  rw [← h.last i]
  unfold Caller.Fits at hfits
  cases hcall : (m.callers i).call with
  | none => simp only [hcall] at hfits; exact absurd hfits hi
  | some call => simp only [hcall] at hfits; exact ⟨call, rfl, hfits⟩

namespace Machine.StepSpec

variable {m m' : Machine} {e : Event}

theorem call_after (h : StepSpec m m' e) (i : Nat) :
    (m'.callers i).call = Event.callAfter i (m.callers i).call e := by
  by_cases hs : ∃ c, e = .start i c
  · obtain ⟨c, rfl⟩ := hs
    obtain ⟨-, hc, -⟩ := h.shows
    simp [hc]
  · simp only [not_exists] at hs
    rw [h.call i hs, Event.callAfter_of_ne hs]

theorem fits (h : StepSpec m m' e) (i : Nat) (hi : (m.callers i).Fits) : (m'.callers i).Fits := by
  by_cases hs : ∃ c, e = .start i c
  · obtain ⟨c, rfl⟩ := hs
    obtain ⟨-, hc, -⟩ := h.shows
    simp only [Caller.Fits, hc]
    exact Call.runs_begin m.conn c
  · simp only [not_exists] at hs
    unfold Caller.Fits at hi ⊢
    rw [h.call i hs]
    by_cases ha : e.actor = some i
    · have hf := h.flow i ha
      cases hcall : (m.callers i).call with
      | none =>
        simp only [hcall] at hi
        rw [hi] at hf
        obtain ⟨c, rfl⟩ := hf.start_of_idle
        exact absurd rfl (hs c)
      | some c =>
        simp only [hcall] at hi ⊢
        exact hf.runs hs hi
    · rw [h.frame i ha]; exact hi

/-- A phase about to write was about to write before, or the step registered it with the frame
of its command. -/
theorem writing (h : StepSpec m m' e) {i : Nat} {req : Query} {t : Nat} {f : List UInt8}
    (hw : (m'.callers i).phase = .writing req t f) :
    (m.callers i).phase = .writing req t f ∨ f = m.conn.codec.encode req.cmd := by
  by_cases ha : e.actor = some i
  · have hf := h.flow i ha
    rw [hw] at hf
    obtain ⟨id, rfl⟩ := hf.register_of_writing
    obtain ⟨req', -, -, -, -, hpost⟩ := h.shows
    rw [hw] at hpost
    cases hpost
    exact .inr rfl
  · exact .inl (h.frame i ha ▸ hw)

end Machine.StepSpec

/-- Along every run of a machine that starts with no call, each caller runs the call it started
last, in a phase that fits it, and writes the frame of its command. -/
theorem Run.callsKept {c : Conn} {tr : List Event} {m : Machine} (h : Run (Machine.init c) tr m) :
    CallsKept c tr m := by
  induction h with
  | nil =>
    refine ⟨fun _ => rfl, fun _ => rfl, fun i req t f hw => ?_, rfl⟩
    cases hw
  | step a _ hstep ih =>
    have spec := Machine.step_spec hstep
    refine ⟨fun i => ?_, fun i => spec.fits i (ih.fits i), fun i req t f hw => ?_, ?_⟩
    · rw [spec.call_after i, ih.last i, Event.lastCall_append_singleton]
    · rcases spec.writing hw with hw' | rfl
      · exact ih.frame i req t f hw'
      · rw [ih.codec]
    · rw [spec.codec, ih.codec]

namespace Run

variable {m₀ : Machine}

/-- A window of caller `i`: once the step of event `e₀` leaves it in a phase of `W`, it stays in
`W` until it shows an event of `X`, whatever the others do. -/
theorem window {i : Nat} {W : Phase → Prop} {e₀ : Event} {X : Event → Prop}
    (hopen : ∀ {m m'}, Machine.StepSpec m m' e₀ → W (m'.callers i).phase)
    (hkeep : ∀ {p p' e}, Machine.Flow i p p' e → W p → ¬ X e → W p')
    {tr : List Event} {m : Machine} (h : Run m₀ tr m) {pre mid : List Event}
    (htr : tr = pre ++ e₀ :: mid) (hx : ∀ e ∈ mid, ¬ X e) : W (m.callers i).phase := by
  induction h generalizing mid with
  | nil => simp at htr
  | @step tr m m' e a _ hstep ih =>
    have spec := Machine.step_spec hstep
    rcases List.eq_nil_or_concat mid with rfl | ⟨mid', x, rfl⟩
    · obtain ⟨-, he⟩ := List.append_inj' htr rfl
      obtain rfl : e = e₀ := by simpa using he
      exact hopen spec
    · rw [List.concat_eq_append, ← List.cons_append, ← List.append_assoc] at htr
      obtain ⟨htr', he⟩ := List.append_inj' htr rfl
      obtain rfl : e = x := by simpa using he
      have hw := ih htr' (fun y hy => hx y (by simp [hy]))
      by_cases ha : e.actor = some i
      · exact hkeep (spec.flow i ha) hw (hx e (by simp))
      · rw [spec.frame i ha]; exact hw

/-- A phase set `S` of caller `i` that only the step of an `e₀` enters, and that every other step
keeps only with an event of `Q`: while caller `i` is in `S`, the events hold an `e₀` followed only
by events of `Q`. -/
theorem since {i : Nat} {S : Phase → Prop} {e₀ : Event} {Q : Event → Prop}
    (hinit : ¬ S (m₀.callers i).phase)
    (hstep : ∀ {tr m m' e}, Run m₀ tr m → Machine.StepSpec m m' e → S (m'.callers i).phase →
      (S (m.callers i).phase ∧ Q e) ∨ e = e₀)
    {tr : List Event} {m : Machine} (h : Run m₀ tr m) (hs : S (m.callers i).phase) :
    After e₀ Q tr := by
  induction h with
  | nil => exact absurd hs hinit
  | step a hrun hstep' ih =>
    rcases hstep hrun (Machine.step_spec hstep') hs with ⟨hs', hq⟩ | rfl
    · exact (ih hs').snoc hq
    · exact After.last _ _ _

end Run

end LcdPanel.Link
