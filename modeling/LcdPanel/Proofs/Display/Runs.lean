import LcdPanel.Display.Device

namespace LcdPanel.Display

open LcdPanel.Frame LcdPanel.Link

namespace Exchange

variable {α β : Type}

/-- One exchange of a run: the command sent, the rate the line reopens at once it is acknowledged
(none for a plain exchange), and the answer it got. -/
structure Step where
  cmd : Packet
  rate : Option Int
  reply : Except LinkError Packet

/-- The runs of a program: answered with the replies recorded in `steps`, it sends exactly their
commands, in order, and ends with `r`. -/
inductive Runs : Exchange α → List Step → Except DeviceError α → Prop
  | done (r : Except DeviceError α) : Runs (.done r) [] r
  | ask {cmd : Packet} {next : Except LinkError Packet → Exchange α} {steps : List Step}
      {r : Except DeviceError α} (reply : Except LinkError Packet) :
      Runs (next reply) steps r → Runs (.ask cmd next) (⟨cmd, none, reply⟩ :: steps) r
  | askAtRate {cmd : Packet} {baud : Int} {next : Except LinkError Packet → Exchange α}
      {steps : List Step} {r : Except DeviceError α} (reply : Except LinkError Packet) :
      Runs (next reply) steps r → Runs (.askAtRate cmd baud next) (⟨cmd, some baud, reply⟩ :: steps) r

theorem runs_done_iff {r₀ r : Except DeviceError α} {steps : List Step} :
    (Exchange.done r₀).Runs steps r ↔ steps = [] ∧ r = r₀ := by
  constructor
  · rintro ⟨⟩
    exact ⟨rfl, rfl⟩
  · rintro ⟨rfl, rfl⟩
    exact .done _

theorem runs_ask_iff {cmd : Packet} {next : Except LinkError Packet → Exchange α}
    {steps : List Step} {r : Except DeviceError α} :
    (Exchange.ask cmd next).Runs steps r ↔
      ∃ reply rest, steps = ⟨cmd, none, reply⟩ :: rest ∧ (next reply).Runs rest r := by
  constructor
  · rintro ⟨⟩
    rename_i rest reply h
    exact ⟨reply, rest, rfl, h⟩
  · rintro ⟨reply, rest, rfl, h⟩
    exact .ask reply h

theorem runs_askAtRate_iff {cmd : Packet} {baud : Int} {next : Except LinkError Packet → Exchange α}
    {steps : List Step} {r : Except DeviceError α} :
    (Exchange.askAtRate cmd baud next).Runs steps r ↔
      ∃ reply rest, steps = ⟨cmd, some baud, reply⟩ :: rest ∧ (next reply).Runs rest r := by
  constructor
  · rintro ⟨⟩
    rename_i rest reply h
    exact ⟨reply, rest, rfl, h⟩
  · rintro ⟨reply, rest, rfl, h⟩
    exact .askAtRate reply h

/-- Sequencing past one exchange: when the rest of a program, however its command is answered,
runs in sequence with `f` as the sequencing law says, so does the program. -/
theorem runs_bind_step_iff {mk : Except LinkError Packet → Step}
    {next : Except LinkError Packet → Exchange α} {f : α → Exchange β} {steps : List Step}
    {r : Except DeviceError β}
    (ih : ∀ reply steps, ((next reply).bind f).Runs steps r ↔
      (∃ a pre post, steps = pre ++ post ∧ (next reply).Runs pre (.ok a) ∧ (f a).Runs post r) ∨
      (∃ e, (next reply).Runs steps (.error e) ∧ r = .error e)) :
    (∃ reply rest, steps = mk reply :: rest ∧ ((next reply).bind f).Runs rest r) ↔
      (∃ a pre post, steps = pre ++ post ∧
        (∃ reply rest, pre = mk reply :: rest ∧ (next reply).Runs rest (.ok a)) ∧
          (f a).Runs post r) ∨
      (∃ e, (∃ reply rest, steps = mk reply :: rest ∧ (next reply).Runs rest (.error e)) ∧
        r = .error e) := by
  simp only [ih]
  constructor
  · rintro ⟨reply, rest, rfl, ⟨a, pre, post, rfl, hx, hf⟩ | ⟨e, hx, rfl⟩⟩
    · exact .inl ⟨a, _ :: pre, post, rfl, ⟨reply, pre, rfl, hx⟩, hf⟩
    · exact .inr ⟨e, ⟨reply, rest, rfl, hx⟩, rfl⟩
  · rintro (⟨a, _, post, rfl, ⟨reply, pre, rfl, hx⟩, hf⟩ | ⟨e, ⟨reply, rest, rfl, hx⟩, rfl⟩)
    · exact ⟨reply, pre ++ post, rfl, .inl ⟨a, pre, post, rfl, hx, hf⟩⟩
    · exact ⟨reply, rest, rfl, .inr ⟨e, hx, rfl⟩⟩

/-- A run of a sequence is a run of the first program ending well, then a run of what follows on
its value; or a run of the first program ending with the failure the sequence ends with. -/
theorem runs_bind_iff {x : Exchange α} {f : α → Exchange β} {steps : List Step}
    {r : Except DeviceError β} :
    (x.bind f).Runs steps r ↔
      (∃ a pre post, steps = pre ++ post ∧ x.Runs pre (.ok a) ∧ (f a).Runs post r) ∨
      (∃ e, x.Runs steps (.error e) ∧ r = .error e) := by
  induction x generalizing steps with
  | done res =>
    cases res with
    | ok a =>
      simp only [bind, runs_done_iff, reduceCtorEq, and_false, false_and, exists_false, or_false,
        Except.ok.injEq]
      constructor
      · intro h
        exact ⟨a, [], steps, rfl, ⟨rfl, rfl⟩, h⟩
      · rintro ⟨a', pre, post, rfl, ⟨rfl, rfl⟩, h⟩
        exact h
    | error e =>
      simp only [bind, runs_done_iff, reduceCtorEq, and_false, false_and, exists_false,
        false_or, Except.error.injEq]
      constructor
      · rintro ⟨rfl, rfl⟩
        exact ⟨e, ⟨rfl, rfl⟩, rfl⟩
      · rintro ⟨e', ⟨rfl, rfl⟩, rfl⟩
        exact ⟨rfl, rfl⟩
  | ask cmd next ih =>
    simp only [bind, runs_ask_iff]
    exact runs_bind_step_iff fun reply _ => ih reply
  | askAtRate cmd baud next ih =>
    simp only [bind, runs_askAtRate_iff]
    exact runs_bind_step_iff fun reply _ => ih reply

theorem outcome_eq (reply : Except LinkError Packet) :
    outcome reply = .done (reply.mapError .link) := by
  cases reply <;> rfl

/-- Sending one command runs as one exchange, ending with its reply or its error. -/
theorem runs_send_iff {id : UInt8} {data : List UInt8} {steps : List Step}
    {r : Except DeviceError Packet} :
    (send id data).Runs steps r ↔
      ∃ reply, steps = [⟨Packet.command id data, none, reply⟩] ∧ r = reply.mapError .link := by
  simp only [send, runs_ask_iff, outcome_eq, runs_done_iff]
  constructor
  · rintro ⟨reply, _, rfl, rfl, rfl⟩
    exact ⟨reply, rfl, rfl⟩
  · rintro ⟨reply, rfl, rfl⟩
    exact ⟨reply, [], rfl, rfl, rfl⟩

/-- Sending a command and keeping none of its reply runs as that one exchange, and ends well exactly
when the command was answered. -/
theorem runs_send_discard_iff {id : UInt8} {data : List UInt8} {steps : List Step}
    {r : Except DeviceError Unit} :
    ((send id data).bind fun _ => Exchange.done (.ok ())).Runs steps r ↔
      ∃ reply, steps = [⟨Packet.command id data, none, reply⟩] ∧
        r = (reply.mapError .link).map fun _ => () := by
  show (Exchange.ask _ fun reply => (outcome reply).bind _).Runs steps r ↔ _
  rw [runs_ask_iff]
  constructor
  · rintro ⟨reply, rest, rfl, h⟩
    cases reply <;> obtain ⟨rfl, rfl⟩ := runs_done_iff.1 h <;> exact ⟨_, rfl, rfl⟩
  · rintro ⟨reply, rfl, rfl⟩
    refine ⟨reply, [], rfl, ?_⟩
    cases reply <;> exact .done _

end Exchange

/-! ## What every run keeps -/

def DeviceError.IsArgument : DeviceError → Prop
  | .argument .. => True
  | _ => False

@[simp] theorem DeviceError.isArgument_argument (name : String) (value : Int) (reason : String) :
    (DeviceError.argument name value reason).IsArgument := trivial

@[simp] theorem DeviceError.not_isArgument_link (e : LinkError) : ¬(DeviceError.link e).IsArgument :=
  id

@[simp] theorem DeviceError.not_isArgument_unsupported (id : UInt8) :
    ¬(DeviceError.unsupported id).IsArgument := fun h => h

namespace Exchange

variable {α β : Type}

/-- Every run of `x` sends only commands whose exchange satisfies `P`, and does not end with an
argument error. -/
def Keeps (x : Exchange α) (P : Step → Prop) : Prop :=
  ∀ steps r, x.Runs steps r → (∀ s ∈ steps, P s) ∧ ∀ e, r = .error e → ¬e.IsArgument

theorem Keeps.done {r : Except DeviceError α} (P : Step → Prop)
    (h : ∀ e, r = .error e → ¬e.IsArgument) : (Exchange.done r).Keeps P := by
  intro steps r' hr
  obtain ⟨rfl, rfl⟩ := runs_done_iff.1 hr
  exact ⟨by simp, h⟩

theorem Keeps.pure (a : α) (P : Step → Prop) : (Exchange.done (.ok a)).Keeps P :=
  Keeps.done P (by simp)

theorem Keeps.link {e : LinkError} (P : Step → Prop) :
    (Exchange.done (.error (.link e)) : Exchange α).Keeps P :=
  Keeps.done P (by simp)

theorem Keeps.bind {x : Exchange α} {f : α → Exchange β} {P : Step → Prop} (hx : x.Keeps P)
    (hf : ∀ a, (f a).Keeps P) : (x.bind f).Keeps P := by
  intro steps r hr
  rcases runs_bind_iff.1 hr with ⟨a, pre, post, rfl, hpre, hpost⟩ | ⟨e, hrun, rfl⟩
  · have hs := (hx pre _ hpre).1
    have ht := hf a post r hpost
    refine ⟨fun s hs' => ?_, ht.2⟩
    rcases List.mem_append.1 hs' with h | h
    · exact hs s h
    · exact ht.1 s h
  · obtain ⟨hs, he⟩ := hx steps _ hrun
    exact ⟨hs, fun e' h => he e' (by cases h; rfl)⟩

theorem Keeps.send {id : UInt8} {data : List UInt8} {P : Step → Prop}
    (h : ∀ reply, P ⟨Packet.command id data, none, reply⟩) : (send id data).Keeps P := by
  intro steps r hr
  obtain ⟨reply, rfl, rfl⟩ := runs_send_iff.1 hr
  refine ⟨by simpa using h reply, ?_⟩
  rintro e he
  cases reply <;> cases he
  exact DeviceError.not_isArgument_link _

theorem Keeps.ask {cmd : Packet} {next : Except LinkError Packet → Exchange α} {P : Step → Prop}
    (h : ∀ reply, P ⟨cmd, none, reply⟩) (hnext : ∀ reply, (next reply).Keeps P) :
    (Exchange.ask cmd next).Keeps P := by
  intro steps r hr
  obtain ⟨reply, rest, rfl, hrest⟩ := runs_ask_iff.1 hr
  obtain ⟨hs, he⟩ := hnext reply rest r hrest
  exact ⟨by simpa [h reply] using hs, he⟩

theorem Keeps.askAtRate {cmd : Packet} {baud : Int} {next : Except LinkError Packet → Exchange α}
    {P : Step → Prop} (h : ∀ reply, P ⟨cmd, some baud, reply⟩)
    (hnext : ∀ reply, (next reply).Keeps P) : (Exchange.askAtRate cmd baud next).Keeps P := by
  intro steps r hr
  obtain ⟨reply, rest, rfl, hrest⟩ := runs_askAtRate_iff.1 hr
  obtain ⟨hs, he⟩ := hnext reply rest r hrest
  exact ⟨by simpa [h reply] using hs, he⟩

theorem Keeps.outcome (P : Step → Prop) (reply : Except LinkError Packet) :
    (outcome reply).Keeps P := by
  cases reply with
  | ok p => exact Keeps.pure p P
  | error e => exact Keeps.link P

end Exchange

end LcdPanel.Display
