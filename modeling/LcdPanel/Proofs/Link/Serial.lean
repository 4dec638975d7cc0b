import LcdPanel.Proofs.Link.Program

/-!
Writes and reopens of a shared connection are made only by the caller that holds the command
turn, so they never overlap.
-/

namespace LcdPanel.Link

open LcdPanel.Frame

def Event.serialized : Event → Bool
  | .port _ (.write _) _ | .port _ (.reopen _) _ => true
  | _ => false

theorem Event.port_of_serialized {e : Event} (he : e.serialized = true) :
    ∃ j pc r, e = .port j pc r := by
  cases e with
  | port j pc r => exact ⟨j, pc, r, rfl⟩
  | _ => simp [Event.serialized] at he

namespace Phase

def issues : Phase → Bool
  | .writing .. | .reopening .. => true
  | _ => false

def Written : Phase → Prop
  | .awaiting .. | .unregistering .. | .receiving .. | .exchanged .. => True
  | _ => False

def Winding (o : Outcome) : Phase → Prop
  | .unlocking o' | .returning o' => o' = o
  | .idle => True
  | _ => False

def reply : Phase → Option Packet
  | .reconnecting reply _ | .reopening reply _ _ => reply
  | _ => none

theorem holds_of_issues {p : Phase} (h : p.issues = true) : p.role.holds = true := by
  cases p <;> simp_all [issues, role, Role.holds]

theorem holds_of_written {p : Phase} (h : p.Written) : p.role.holds = true := by
  cases p <;> simp_all [Written, role, Role.holds]

theorem holds_of_reply {p : Phase} {q : Packet} (h : p.reply = some q) : p.role.holds = true := by
  cases p <;> simp_all [reply, role, Role.holds]

theorem not_issues_of_written {p : Phase} (h : p.Written) : p.issues = false := by
  cases p <;> simp_all [Written, issues]

end Phase

namespace Machine.Flow

variable {i : Nat} {p p' : Phase} {e : Event}

theorem issues (h : Flow i p p' e) (he : e.serialized = true) : p.issues = true := by
  cases h <;> simp_all [Event.serialized, Phase.issues]

theorem of_write {f : List UInt8} {r : Except PortError Unit} (h : Flow i p p' (.port i (.write f) r)) :
    (∃ req t, p = .writing req t f) ∧ p'.Written := by
  cases h with
  | written req t _ => exact ⟨⟨req, t, rfl⟩, trivial⟩
  | writeFailed req t _ _ => exact ⟨⟨req, t, rfl⟩, trivial⟩

theorem of_reopen {baud : Int} {r : Except PortError Unit}
    (h : Flow i p p' (.port i (.reopen baud) r)) : ∃ reply port, p = .reopening reply port baud := by
  cases h with
  | reopened reply port _ => exact ⟨reply, port, rfl⟩
  | reopenFailed reply port _ _ => exact ⟨reply, port, rfl⟩

theorem keeps_written (h : Flow i p p' e) (hp : p.Written) (he : ∀ r, e ≠ .exchanged i r) :
    p'.Written := by
  cases h with
  | answer _ r _ | unacked _ _ r _ => exact absurd rfl (he _)
  | acked _ _ q _ => exact absurd rfl (he (.ok q))
  | _ => simp_all [Phase.Written]

theorem keeps_winding (h : Flow i p p' e) {o : Outcome} (hp : p.Winding o) (he : ∀ c, e ≠ .start i c) :
    p'.Winding o := by
  cases h with
  | start c _ _ => exact absurd rfl (he c)
  | _ => simp_all [Phase.Winding]

theorem winding_event (h : Flow i p p' e) {o : Outcome} (hp : p.Winding o) :
    (∀ pc r, e ≠ .port i pc r) ∧ ∀ o', e = .finish i o' → o' = o := by
  cases h <;> simp_all [Phase.Winding]

theorem of_failed {err : LinkError} (h : Flow i p p' (.exchanged i (.error err))) :
    p'.Winding (.failed err) := by
  cases h <;> rfl

theorem holds (h : Flow i p p' e) (hp' : p'.role.holds = true) :
    (p.role.holds = true ∧ e ≠ .unlock i) ∨ e = .lock i := by
  cases h <;> simp_all [Phase.role, Role.holds]

/-- A reconnect phase acknowledged by `q` is entered only by the exchange that returned `q`, and
kept only by steps that make no serialized port call and start no call. -/
theorem reply (h : Flow i p p' e) {q : Packet} (hq : p'.reply = some q) :
    (p.reply = some q ∧ e.serialized = false ∧ ∀ c, e ≠ .start i c) ∨ e = .exchanged i (.ok q) := by
  cases h with
  | start c p hp =>
    have := Phase.holds_of_reply hq
    simp [hp, Role.holds] at this
  | acked req baud q' _ =>
    simp only [Phase.reply, Option.some.injEq] at hq
    exact .inr (hq ▸ rfl)
  | reconnect reply baud port => exact .inl ⟨hq, rfl, fun c h => by cases h⟩
  | _ => simp_all [Phase.reply]

end Machine.Flow

namespace Machine

/-- A call whose command's data is too long begins by returning that error, when its rate, if it
has one, is supported. -/
theorem begin_tooLong (conn : Conn) {call : Call} {cmd : Packet} (hcmd : call.command = some cmd)
    (hlen : maxDataLen < cmd.data.length)
    (hrate : ∀ baud, call = .sendAtRate cmd baud → supportedBaud baud) :
    (begin conn call).2 = .returning (.failed (.dataTooLong "command" cmd.id)) := by
  have hsend : conn.checkSend cmd = .error (.dataTooLong "command" cmd.id) := by
    simp [Conn.checkSend, hlen]
  cases call with
  | send cmd' timeout =>
    obtain rfl : cmd' = cmd := by simpa [Call.command] using hcmd
    simp [begin, hsend]
  | sendAtRate cmd' baud =>
    obtain rfl : cmd' = cmd := by simpa [Call.command] using hcmd
    have hr : conn.checkReconnectRate baud = .ok () := by
      simp [Conn.checkReconnectRate, hrate baud rfl]
    simp [begin, hr, hsend]
  | _ => simp [Call.command] at hcmd

theorem begin_badRate (conn : Conn) (cmd : Packet) {baud : Int} (hb : ¬ supportedBaud baud) :
    (begin conn (.sendAtRate cmd baud)).2 =
      .returning (.failed (.connection "reconnect" conn.port (.unsupportedBaud baud))) := by
  simp [begin, Conn.checkReconnectRate, hb]

end Machine

theorem Handoff.Inv.holds_unique {s : Handoff} (h : s.Inv) {i j : Nat}
    (hi : (s.roles i).holds = true) (hj : (s.roles j).holds = true) : i = j :=
  Option.some.inj (((h.turn i).2 hi).symm.trans ((h.turn j).2 hj))

/-- A serialized port call is made by the one caller that holds the turn, from a phase about to
make it. -/
theorem Machine.StepSpec.serialized_by {m m' : Machine} {e : Event} (hinv : m.handoff.Inv)
    (h : StepSpec m m' e) (he : e.serialized = true) {i : Nat}
    (hi : (m.callers i).phase.role.holds = true) :
    e.actor = some i ∧ (m.callers i).phase.issues = true := by
  obtain ⟨j, pc, r, rfl⟩ := Event.port_of_serialized he
  have hj := (h.flow j rfl).issues he
  obtain rfl : j = i := hinv.holds_unique (Phase.holds_of_issues hj) hi
  exact ⟨rfl, hj⟩

namespace Run

variable {m₀ : Machine}

/-- Each event inside a window of caller `i` is shown by a step of a machine the run reached, in
which `i` is in the window. -/
theorem window_at {i : Nat} {W : Phase → Prop} {e₀ : Event} {X : Event → Prop}
    (hopen : ∀ {m m'}, Machine.StepSpec m m' e₀ → W (m'.callers i).phase)
    (hkeep : ∀ {p p' e}, Machine.Flow i p p' e → W p → ¬ X e → W p')
    {tr pre mid post : List Event} {m : Machine} (h : Run m₀ tr m)
    (htr : tr = pre ++ e₀ :: mid ++ post) (hx : ∀ e ∈ mid, ¬ X e) {e : Event} (he : e ∈ mid) :
    ∃ tr₁ m₁ m₂, Run m₀ tr₁ m₁ ∧ Machine.StepSpec m₁ m₂ e ∧ W (m₁.callers i).phase := by
  obtain ⟨mid₁, mid₂, rfl⟩ := List.append_of_mem he
  subst htr
  have h' : Run m₀ ((pre ++ e₀ :: mid₁) ++ e :: (mid₂ ++ post)) m := by simpa using h
  obtain ⟨m₁, m₂, h₁, spec, -⟩ := h'.split_event
  refine ⟨_, m₁, m₂, h₁, spec, window hopen hkeep h₁ rfl fun y hy => ?_⟩
  exact hx y (by simp [hy])

/-- Once the step of `e₀` leaves caller `i` done with the port, with an outcome of `O`, the caller
calls the port no more until it starts another call, and returns an outcome of `O`. -/
theorem winding {i : Nat} {e₀ : Event} {O : Outcome → Prop}
    (hopen : ∀ {m m'}, Machine.StepSpec m m' e₀ → ∃ o, O o ∧ (m'.callers i).phase.Winding o)
    {tr pre mid post : List Event} {m : Machine} (h : Run m₀ tr m)
    (htr : tr = pre ++ e₀ :: mid ++ post) (hx : ∀ c, .start i c ∉ mid) :
    (∀ pc r, .port i pc r ∉ mid) ∧ ∀ o, .finish i o ∈ mid → O o := by
  have hkeep : ∀ {p p' e}, Machine.Flow i p p' e → (∃ o, O o ∧ p.Winding o) →
      ¬ (∃ c, e = .start i c) → ∃ o, O o ∧ p'.Winding o := by
    intro p p' e hf ⟨o, ho, hp⟩ he
    exact ⟨o, ho, hf.keeps_winding hp fun c hc => he ⟨c, hc⟩⟩
  have hat := fun {e} (he : e ∈ mid) =>
    window_at (X := fun e => ∃ c, e = .start i c) hopen hkeep h htr
      (fun e he ⟨c, hc⟩ => hx c (hc ▸ he)) he
  refine ⟨fun pc r he => ?_, fun o' he => ?_⟩
  · obtain ⟨_, m₁, m₂, -, spec, o, -, hw⟩ := hat he
    exact ((spec.flow i rfl).winding_event hw).1 pc r rfl
  · obtain ⟨_, m₁, m₂, -, spec, o, ho, hw⟩ := hat he
    rw [((spec.flow i rfl).winding_event hw).2 o' rfl]
    exact ho

variable {c : Conn}

/-- While a caller holds the turn, the events hold its taking of the turn, not followed by its
giving back. -/
theorem locked {tr : List Event} {m : Machine} (h : Run (Machine.init c) tr m) {i : Nat}
    (hi : (m.callers i).phase.role.holds = true) : After (.lock i) (· ≠ .unlock i) tr := by
  refine since (S := fun p => p.role.holds = true) (by simp [Machine.init, Phase.role, Role.holds])
    (fun {tr m m' e} _ spec hs => ?_) h hi
  by_cases ha : e.actor = some i
  · rcases (spec.flow i ha).holds hs with hh | rfl
    · exact .inl hh
    · exact .inr rfl
  · refine .inl ⟨spec.frame i ha ▸ hs, fun he => ?_⟩
    exact ha (he ▸ rfl)

/-- While a caller's reconnect carries acknowledgement `q`, the events hold the exchange that
returned `q`, followed by no serialized port call and no new call of the caller. -/
theorem acked (hc : c.pending = none) {tr : List Event} {m : Machine}
    (h : Run (Machine.init c) tr m) {i : Nat} {q : Packet} (hq : (m.callers i).phase.reply = some q) :
    After (.exchanged i (.ok q)) (fun e => e.serialized = false ∧ ∀ c, e ≠ .start i c) tr := by
  refine since (S := fun p => p.reply = some q) (by simp [Machine.init, Phase.reply])
    (fun {tr m m' e} hrun spec hs => ?_) h hq
  by_cases ha : e.actor = some i
  · exact (spec.flow i ha).reply hs
  · have hs' : (m.callers i).phase.reply = some q := spec.frame i ha ▸ hs
    refine .inl ⟨hs', ?_, fun c he => ha (he ▸ rfl)⟩
    cases hse : e.serialized
    · rfl
    · exact absurd (spec.serialized_by (hrun.inv hc) hse (Phase.holds_of_reply hs')).1 ha

/-- Every write and every reopen is made by a caller that took the turn and has not given it
back. -/
theorem serialized_locked {tr : List Event} {m : Machine} (h : Run (Machine.init c) tr m)
    {pre post : List Event} {e : Event} (htr : tr = pre ++ e :: post) (he : e.serialized = true) :
    ∃ i, e.actor = some i ∧ After (.lock i) (· ≠ .unlock i) pre := by
  subst htr
  obtain ⟨m₁, m₂, h₁, spec, -⟩ := h.split_event
  obtain ⟨j, pc, r, rfl⟩ := Event.port_of_serialized he
  have hj := (spec.flow j rfl).issues he
  exact ⟨j, rfl, locked h₁ (Phase.holds_of_issues hj)⟩

/-- A write carries the frame of the command its caller's call sends, whose data fits. -/
theorem write_frame {tr : List Event} {m : Machine} (h : Run (Machine.init c) tr m)
    {pre post : List Event} {i : Nat} {f : List UInt8} {r : Except PortError Unit}
    (htr : tr = pre ++ .port i (.write f) r :: post) :
    ∃ call cmd, Event.lastCall i pre = some call ∧ call.command = some cmd ∧
      f = c.codec.encode cmd ∧ cmd.data.length ≤ maxDataLen := by
  subst htr
  obtain ⟨m₁, m₂, h₁, spec, -⟩ := h.split_event
  obtain ⟨⟨req, t, hw⟩, -⟩ := (spec.flow i rfl).of_write
  have kept := h₁.callsKept
  obtain ⟨call, hlast, hruns⟩ := kept.runs (i := i) (by rw [hw]; simp)
  rw [hw] at hruns
  exact ⟨call, req.cmd, hlast, hruns.command, kept.frame i req t f hw, hruns.1⟩

/-- Between an exchange's write and its return no write and no reopen is made. -/
theorem write_alone (hc : c.pending = none) {tr : List Event} {m : Machine}
    (h : Run (Machine.init c) tr m) {pre mid post : List Event} {i : Nat} {f : List UInt8}
    {r : Except PortError Unit} (htr : tr = pre ++ .port i (.write f) r :: mid ++ post)
    (hx : ∀ r', .exchanged i r' ∉ mid) : ∀ e ∈ mid, e.serialized = false := by
  intro e he
  obtain ⟨tr₁, m₁, m₂, h₁, spec, hw⟩ :=
    window_at (W := Phase.Written) (X := fun e => ∃ r', e = .exchanged i r')
      (fun spec => (spec.flow i rfl).of_write.2)
      (fun hf hw hx' => hf.keeps_written hw fun r' he' => hx' ⟨r', he'⟩) h htr
      (fun e he ⟨r', hr⟩ => hx r' (hr ▸ he)) he
  cases hse : e.serialized
  · rfl
  · have hi := (spec.serialized_by (h₁.inv hc) hse (Phase.holds_of_written hw)).2
    rw [Phase.not_issues_of_written hw] at hi
    cases hi

/-- A rate change reopens the port at its own rate, after its exchange was acknowledged, with no
write, no reopen and no new call of its caller in between. -/
theorem reopen_acked (hc : c.pending = none) {tr : List Event} {m : Machine}
    (h : Run (Machine.init c) tr m) {pre post : List Event} {i : Nat} {baud : Int}
    {r : Except PortError Unit} (htr : tr = pre ++ .port i (.reopen baud) r :: post)
    {cmd : Packet} {rate : Int} (hcall : Event.lastCall i pre = some (.sendAtRate cmd rate)) :
    baud = rate ∧
      ∃ q, After (.exchanged i (.ok q)) (fun e => e.serialized = false ∧ ∀ c, e ≠ .start i c) pre := by
  subst htr
  obtain ⟨m₁, m₂, h₁, spec, -⟩ := h.split_event
  obtain ⟨reply, port, hp⟩ := (spec.flow i rfl).of_reopen
  obtain ⟨call, hlast, hruns⟩ := h₁.callsKept.runs (i := i) (by rw [hp]; simp)
  rw [hcall, Option.some.injEq] at hlast
  subst hlast
  rw [hp] at hruns
  cases reply with
  | none => cases hruns
  | some q =>
    obtain ⟨cmd', hcmd⟩ := hruns
    cases hcmd
    exact ⟨rfl, q, acked hc h₁ (by rw [hp]; rfl)⟩

/-- After an exchange failed, its caller calls the port no more and returns the failure. -/
theorem failed_quiet {tr : List Event} {m : Machine} (h : Run (Machine.init c) tr m)
    {pre mid post : List Event} {i : Nat} {err : LinkError}
    (htr : tr = pre ++ .exchanged i (.error err) :: mid ++ post) (hx : ∀ c, .start i c ∉ mid) :
    (∀ pc r, .port i pc r ∉ mid) ∧ ∀ o, .finish i o ∈ mid → o = .failed err :=
  winding (O := (· = .failed err)) (fun spec => ⟨_, rfl, (spec.flow i rfl).of_failed⟩) h htr hx

/-- A command whose data is too long is refused with that error before the port is called. -/
theorem too_long {tr : List Event} {m : Machine} (h : Run (Machine.init c) tr m)
    {pre mid post : List Event} {i : Nat} {call : Call} {cmd : Packet}
    (htr : tr = pre ++ .start i call :: mid ++ post) (hcmd : call.command = some cmd)
    (hlen : maxDataLen < cmd.data.length)
    (hrate : ∀ baud, call = .sendAtRate cmd baud → supportedBaud baud)
    (hx : ∀ c, .start i c ∉ mid) :
    (∀ pc r, .port i pc r ∉ mid) ∧
      ∀ o, .finish i o ∈ mid → o = .failed (.dataTooLong "command" cmd.id) := by
  refine winding (O := (· = .failed (.dataTooLong "command" cmd.id))) (fun {m m'} spec => ?_) h
    htr hx
  obtain ⟨-, hcaller, -⟩ := spec.shows
  exact ⟨_, rfl, by simp [hcaller, Machine.begin_tooLong m.conn hcmd hlen hrate, Phase.Winding]⟩

/-- A rate change to a rate the device does not have calls the port not at all, and returns
that error. -/
theorem bad_rate {tr : List Event} {m : Machine} (h : Run (Machine.init c) tr m)
    {pre mid post : List Event} {i : Nat} {cmd : Packet} {baud : Int}
    (htr : tr = pre ++ .start i (.sendAtRate cmd baud) :: mid ++ post)
    (hb : ¬ supportedBaud baud) (hx : ∀ c, .start i c ∉ mid) :
    (∀ pc r, .port i pc r ∉ mid) ∧
      ∀ o, .finish i o ∈ mid → ∃ port, o = .failed (.connection "reconnect" port (.unsupportedBaud baud)) := by
  refine winding (fun {m m'} spec => ?_) h htr hx
  obtain ⟨-, hcaller, -⟩ := spec.shows
  exact ⟨_, ⟨m.conn.port, rfl⟩, by simp [hcaller, Machine.begin_badRate m.conn cmd hb, Phase.Winding]⟩

end Run

/-- The port calls of a run, in the order the command turn gives them. -/
structure PortCallsSerialized (c : Conn) (tr : List Event) : Prop where
  /-- Every write and every reopen is made by a caller that took the turn and has not given it
  back. -/
  locked : ∀ pre e post, tr = pre ++ e :: post → e.serialized = true →
    ∃ i, e.actor = some i ∧ After (.lock i) (· ≠ .unlock i) pre
  /-- A write carries the frame of the command its caller's call sends, whose data fits. -/
  frame : ∀ pre i f r post, tr = pre ++ .port i (.write f) r :: post →
    ∃ call cmd, Event.lastCall i pre = some call ∧ call.command = some cmd ∧
      f = c.codec.encode cmd ∧ cmd.data.length ≤ maxDataLen
  /-- A command whose data is too long is refused with that error before the port is called. -/
  tooLong : ∀ pre i call cmd mid post, tr = pre ++ .start i call :: mid ++ post →
    call.command = some cmd → maxDataLen < cmd.data.length →
    (∀ baud, call = .sendAtRate cmd baud → supportedBaud baud) → (∀ c, .start i c ∉ mid) →
    (∀ pc r, .port i pc r ∉ mid) ∧
      ∀ o, .finish i o ∈ mid → o = .failed (.dataTooLong "command" cmd.id)
  /-- Between an exchange's write and its return no write and no reopen is made. -/
  alone : ∀ pre i f r mid post, tr = pre ++ .port i (.write f) r :: mid ++ post →
    (∀ r', .exchanged i r' ∉ mid) → ∀ e ∈ mid, e.serialized = false
  /-- A rate change reopens the port at its own rate, after its exchange was acknowledged, with
  no write, no reopen and no new call of its caller in between. -/
  reopenAcked : ∀ pre i baud r post cmd rate, tr = pre ++ .port i (.reopen baud) r :: post →
    Event.lastCall i pre = some (.sendAtRate cmd rate) →
    baud = rate ∧
      ∃ q, After (.exchanged i (.ok q)) (fun e => e.serialized = false ∧ ∀ c, e ≠ .start i c) pre
  /-- After an exchange failed, its caller calls the port no more and returns the failure. -/
  failedQuiet : ∀ pre i err mid post, tr = pre ++ .exchanged i (.error err) :: mid ++ post →
    (∀ c, .start i c ∉ mid) → (∀ pc r, .port i pc r ∉ mid) ∧ ∀ o, .finish i o ∈ mid → o = .failed err
  /-- A rate change to a rate the device does not have calls the port not at all. -/
  badRate : ∀ pre i cmd baud mid post, tr = pre ++ .start i (.sendAtRate cmd baud) :: mid ++ post →
    ¬ supportedBaud baud → (∀ c, .start i c ∉ mid) →
    (∀ pc r, .port i pc r ∉ mid) ∧
      ∀ o, .finish i o ∈ mid → ∃ port, o = .failed (.connection "reconnect" port (.unsupportedBaud baud))

/-- On a connection with no command in flight, whatever its callers, the reader, the reply timers
and the callers' contexts do, the command turn orders the port calls. -/
theorem Run.port_calls_serialized {c : Conn} (hc : c.pending = none) {tr : List Event}
    {m : Machine} (h : Run (Machine.init c) tr m) : PortCallsSerialized c tr where
  locked _ _ _ htr he := h.serialized_locked htr he
  frame _ _ _ _ _ htr := h.write_frame htr
  tooLong _ _ _ _ _ _ htr hcmd hlen hrate hx := h.too_long htr hcmd hlen hrate hx
  alone _ _ _ _ _ _ htr hx := h.write_alone hc htr hx
  reopenAcked _ _ _ _ _ _ _ htr hcall := h.reopen_acked hc htr hcall
  failedQuiet _ _ _ _ _ htr hx := h.failed_quiet htr hx
  badRate _ _ _ _ _ _ htr hb hx := h.bad_rate htr hb hx

/-- A rate change to 115200 baud on a connected link: the command is written, acknowledged, and
the port reopened. -/
def rateChange : List Act :=
  [.start 0 (.sendAtRate ⟨0x21, [1]⟩ 115200), .step 0, .step 0, .step 0, .answer 0 (.ok ()),
    .receive (Codec.standard.encode ⟨0x61, []⟩), .read, .read, .step 0, .step 0, .step 0,
    .answer 0 (.ok ()), .step 0, .step 0]

theorem rate_change_serialized : ({ state := .connected } : Conn).pending = none ∧
    ∃ tr m, (Machine.init { state := .connected }).replay rateChange = some (m, tr) ∧
      PortCallsSerialized { state := .connected } tr := by
  obtain ⟨⟨m, tr⟩, hr⟩ := Option.isSome_iff_exists.1
    (show ((Machine.init { state := .connected }).replay rateChange).isSome = true by decide +kernel)
  exact ⟨rfl, tr, m, hr, Run.port_calls_serialized rfl (Machine.replay_run hr)⟩

end LcdPanel.Link
