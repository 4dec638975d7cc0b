import LcdPanel.Proofs.Link.Steps

/-!
Safety of exchanges on a shared connection along every run (`ExchangeDiscipline`), carried by
two facts of the command protocol: `Handoff.Step.retired` and `Handoff.Step.retired_of_fill`.
-/

namespace LcdPanel.Link

open LcdPanel.Frame

namespace Handoff

variable {s s' : Handoff}

/-- A change to a role that gives nothing adds no result on its way. -/
theorem carries_of_update {k : Holder} {t : Nat} {r : Except LinkError Packet}
    (hc : s'.carries k t r) (hm : s'.mailbox = s.mailbox) (hr : s'.reader = s.reader) {i : Nat}
    {ρ : Role} (hroles : s'.roles = Function.update s.roles i ρ) (hρ : ∀ t r, ρ ≠ .giving t r) :
    s.carries k t r := by
  cases k with
  | mailbox => simpa only [carries, hm] using hc
  | reader => simpa only [carries, hr] using hc
  | caller j =>
    simp only [carries, hroles] at hc ⊢
    by_cases hj : j = i
    · subst hj; simp only [Function.update_self] at hc; exact absurd hc (hρ t r)
    · rwa [Function.update_of_ne hj] at hc

theorem Step.tickets_le (h : Step s s') : s.tickets ≤ s'.tickets := by
  cases h <;> simp

theorem Step.awaits_of (h : Step s s') {t : Nat} (ha : s'.Awaits t) : s.Awaits t ∨ s.tickets < t := by
  obtain ⟨q, hq, rfl⟩ := ha
  cases h with
  | register i req _ =>
    cases hq
    exact .inr (by simp)
  | remove | claimByCaller | claimByReader => cases hq
  | _ => exact .inl ⟨q, hq, rfl⟩

/-- A result on its way after a step was on its way before; or it was claimed in the step from
the slot; or it went into the channel from another holder. -/
theorem Step.carries_of (h : Step s s') {k : Holder} {t : Nat} {r : Except LinkError Packet}
    (hc : s'.carries k t r) :
    s.carries k t r ∨ (k ≠ .mailbox ∧ s.Awaits t) ∨
      (k = .mailbox ∧ ∃ k', k' ≠ .mailbox ∧ s.carries k' t r) := by
  cases h with
  | quiet => exact .inl hc
  | lock i _ hi => exact .inl (carries_of_update hc rfl rfl rfl (by simp))
  | unlock i _ hi => exact .inl (carries_of_update hc rfl rfl rfl (by simp))
  | register i req hi => exact .inl (carries_of_update hc rfl rfl rfl (by simp))
  | remove i req t' hi _ => exact .inl (carries_of_update hc rfl rfl rfl (by simp))
  | abandon i req t' hi _ => exact .inl (carries_of_update hc rfl rfl rfl (by simp))
  | miss i req t' hi _ => exact .inl (carries_of_update hc rfl rfl rfl (by simp))
  | take i req t' r' hi hm =>
    left
    cases k with
    | mailbox =>
      by_cases ht : t = t'
      · subst ht; simp [carries] at hc
      · simpa [carries, Function.update_of_ne ht] using hc
    | reader => exact hc
    | caller j =>
      simp only [carries] at hc ⊢
      by_cases hj : j = i
      · subst hj; simp at hc
      · rwa [Function.update_of_ne hj] at hc
  | claimByCaller i q r' hi hq =>
    cases k with
    | mailbox => exact .inl hc
    | reader => exact .inl hc
    | caller j =>
      by_cases hj : j = i
      · subst hj
        simp only [carries, Function.update_self, Role.giving.injEq] at hc
        exact .inr (.inl ⟨by simp, q, hq, hc.1⟩)
      · simp only [carries, Function.update_of_ne hj] at hc
        exact .inl hc
  | claimByReader q r' hr hq =>
    cases k with
    | mailbox => exact .inl hc
    | reader =>
      simp only [carries, Option.some.injEq, Prod.mk.injEq] at hc
      exact .inr (.inl ⟨by simp, q, hq, hc.1⟩)
    | caller j => exact .inl hc
  | giveByCaller i t' r' hi hm =>
    cases k with
    | mailbox =>
      by_cases ht : t = t'
      · subst ht
        simp only [carries, Function.update_self, Option.some.injEq] at hc
        subst hc
        exact .inr (.inr ⟨rfl, .caller i, by simp, hi⟩)
      · simp only [carries, Function.update_of_ne ht] at hc
        exact .inl hc
    | reader => exact .inl hc
    | caller j =>
      by_cases hj : j = i
      · subst hj; simp [carries] at hc
      · simp only [carries, Function.update_of_ne hj] at hc
        exact .inl hc
  | giveByReader t' r' hr hm =>
    cases k with
    | mailbox =>
      by_cases ht : t = t'
      · subst ht
        simp only [carries, Function.update_self, Option.some.injEq] at hc
        subst hc
        exact .inr (.inr ⟨rfl, .reader, by simp, hr⟩)
      · simp only [carries, Function.update_of_ne ht] at hc
        exact .inl hc
    | reader => simp [carries] at hc
    | caller j => exact .inl hc

/-- Ticket `t` was issued, is no longer awaited, and no result for it is on its way but in its
channel: nothing can ever be sent to it. -/
def Retired (s : Handoff) (t : Nat) : Prop :=
  t ≤ s.tickets ∧ ¬ s.Awaits t ∧ ∀ k r, s.carries k t r → k = .mailbox

theorem Step.retired (h : Step s s') {t : Nat} (ht : s.Retired t) : s'.Retired t := by
  obtain ⟨hle, hna, hmail⟩ := ht
  refine ⟨Nat.le_trans hle h.tickets_le, fun ha => ?_, fun k r hc => ?_⟩
  · rcases h.awaits_of ha with ha | hlt
    · exact hna ha
    · omega
  · rcases h.carries_of hc with hc | ⟨hk, ha⟩ | ⟨rfl, -⟩
    · exact hmail k r hc
    · exact absurd ha hna
    · rfl

/-- A step that fills the channel of ticket `t` hands over its one result on its way, which leaves
the ticket retired. -/
theorem Step.retired_of_fill (h : Step s s') (hs : s.Inv) {t : Nat} {r : Except LinkError Packet}
    (h0 : s.mailbox t = none) (h1 : s'.mailbox t = some r) : s'.Retired t := by
  cases h with
  | take i req t' r' hi hm =>
    by_cases ht : t = t'
    · subst ht; simp at h1
    · simp [Function.update_of_ne ht, h0] at h1
  | giveByCaller i t' r' hi hm =>
    by_cases ht : t = t'
    · subst ht
      obtain ⟨hle, hna⟩ := hs.carried (.caller i) t r' hi
      refine ⟨hle, hna, fun k r'' hk => ?_⟩
      cases k with
      | mailbox => rfl
      | reader => exact absurd (hs.single .reader (.caller i) t r'' r' hk hi) (by simp)
      | caller j =>
        by_cases hj : j = i
        · subst hj; simp [carries] at hk
        · simp only [carries, Function.update_of_ne hj] at hk
          exact absurd (hs.single (.caller j) (.caller i) t r'' r' hk hi) (by simp [hj])
    · simp [Function.update_of_ne ht, h0] at h1
  | giveByReader t' r' hr hm =>
    by_cases ht : t = t'
    · subst ht
      obtain ⟨hle, hna⟩ := hs.carried .reader t r' hr
      refine ⟨hle, hna, fun k r'' hk => ?_⟩
      cases k with
      | mailbox => rfl
      | reader => simp [carries] at hk
      | caller j => exact absurd (hs.single (.caller j) .reader t r'' r' hk hr) (by simp)
    · simp [Function.update_of_ne ht, h0] at h1
  | _ => simp [h0] at h1

end Handoff

theorem Reader.gives_eq_some {x : Reader} {t : Nat} {r : Except LinkError Packet} :
    x.gives = some (t, r) ↔ ∃ ps, x = .sending t r ps := by
  cases x <;> simp [Reader.gives]

theorem Phase.role_eq_giving {p : Phase} {t : Nat} {r : Except LinkError Packet} :
    p.role = .giving t r ↔ ∃ o, p = .sending t r o := by
  cases p <;> simp [Phase.role]

namespace Machine

variable {m m' : Machine}

/-- A result on its way, in the machine's terms. -/
theorem carries_iff {k : Holder} {t : Nat} {r : Except LinkError Packet} :
    m.handoff.carries k t r ↔ match k with
      | .mailbox => m.mailbox t = some r
      | .reader => ∃ ps, m.reader = .sending t r ps
      | .caller j => ∃ o, (m.callers j).phase = .sending t r o := by
  cases k <;> simp [Handoff.carries, handoff, Reader.gives_eq_some, Phase.role_eq_giving]

theorem Shows.send_carrier {who : Option Nat} {t : Nat} {r : Except LinkError Packet}
    (h : Shows m m' (.send who t r)) : ∃ k, k ≠ .mailbox ∧ m.handoff.carries k t r := by
  obtain ⟨-, -, hk⟩ := h
  cases who with
  | none => exact ⟨.reader, by simp, carries_iff.2 hk⟩
  | some i => exact ⟨.caller i, by simp, carries_iff.2 hk⟩

end Machine

/-- Once a ticket is retired, no later step sends it a result. -/
theorem Run.retired_never_sent {post : List Event} {m₁ m : Machine} {t : Nat}
    (hret : m₁.handoff.Retired t) (h : Run m₁ post m) :
    m.handoff.Retired t ∧ ∀ who r, Event.send who t r ∉ post := by
  induction h with
  | nil => exact ⟨hret, by simp⟩
  | step a hrun hstep ih =>
    obtain ⟨hret', hnone⟩ := ih
    have spec := Machine.step_spec hstep
    refine ⟨spec.handoff.retired hret', fun who r hmem => ?_⟩
    rcases List.mem_append.1 hmem with hmem | hmem
    · exact hnone who r hmem
    · simp only [List.mem_singleton] at hmem
      subst hmem
      obtain ⟨k, hk, hcar⟩ := Machine.Shows.send_carrier spec.shows
      exact hk (hret'.2.2 k r hcar)

namespace Run

variable {c : Conn} (hc : c.pending = none) {tr : List Event} {m : Machine}
include hc

/-- The awaited command belongs to the caller holding the turn, which has it registered and has
not returned; it carries that caller's identifier and the latest ticket. -/
theorem slot_owner (h : Run (Machine.init c) tr m) {q : Pending} (hq : m.conn.pending = some q) :
    q.ticket = m.conn.tickets ∧ ∃ i req, m.turn = some i ∧
      (m.callers i).phase.role = .registered req q.ticket ∧ req.cmd.id = q.id := by
  obtain ⟨hlast, i, req, hi, hid⟩ := (h.inv hc).pending q hq
  exact ⟨hlast, i, req, ((h.inv hc).turn i).2 (by simp [hi, Role.holds]), hi, hid⟩

theorem slot_empty_of_registering (h : Run (Machine.init c) tr m) {i : Nat} {req : Query}
    (hi : (m.callers i).phase = .registering req) : m.conn.pending = none := by
  cases hq : m.conn.pending with
  | none => rfl
  | some q =>
    obtain ⟨-, j, req', -, hj, -⟩ := slot_owner hc h hq
    have hji : j = i := (h.inv hc).holder_unique (i := j) (j := i)
      (by simp [Machine.handoff, hj, Role.holds]) (by simp [Machine.handoff, hi, Phase.role, Role.holds])
    subst hji
    simp [hi, Phase.role] at hj

theorem channel_empty_of_carrier (h : Run (Machine.init c) tr m) {k : Holder} (hk : k ≠ .mailbox)
    {t : Nat} {r : Except LinkError Packet} (hc' : m.handoff.carries k t r) : m.mailbox t = none := by
  cases hm : m.mailbox t with
  | none => rfl
  | some r' =>
    exact absurd ((h.inv hc).single .mailbox k t r' r (Machine.carries_iff.2 hm) hc').symm hk

/-- The final receive of an exchange that lost its command to a claim is answered: the result is
in its channel, or with the one who claimed it. -/
theorem receiving_answered (h : Run (Machine.init c) tr m) {i : Nat} {req : Query} {t : Nat}
    (hi : (m.callers i).phase = .receiving req t) :
    (∃ r, m.mailbox t = some r) ∨ (∃ r ps, m.reader = .sending t r ps) ∨
      ∃ j r o, (m.callers j).phase = .sending t r o := by
  obtain ⟨k, r, hk⟩ := (h.inv hc).receiving i req t (by simp [Machine.handoff, hi, Phase.role])
  cases k with
  | mailbox => exact .inl ⟨r, Machine.carries_iff.1 hk⟩
  | reader => exact .inr (.inl ⟨r, Machine.carries_iff.1 hk⟩)
  | caller j => exact .inr (.inr ⟨j, r, Machine.carries_iff.1 hk⟩)

theorem sent_once {pre post : List Event} {who : Option Nat} {t : Nat}
    {r : Except LinkError Packet} (h : Run (Machine.init c) (pre ++ .send who t r :: post) m) :
    ∀ who' r', Event.send who' t r' ∉ post := by
  obtain ⟨m₁, m₂, h₁, spec, h₂⟩ := h.split_event
  obtain ⟨h0, h1, -⟩ := spec.shows
  exact (Run.retired_never_sent (spec.handoff.retired_of_fill (h₁.inv hc) h0 h1) h₂).2

/-- Once an exchange took its command out of the slot, no result is ever sent to it. -/
theorem unregistered_never_sent {pre post : List Event} {i t : Nat}
    (h : Run (Machine.init c) (pre ++ .unregister i t true :: post) m) :
    ∀ who r, Event.send who t r ∉ post := by
  obtain ⟨m₁, m₂, h₁, spec, h₂⟩ := h.split_event
  obtain ⟨req, why, -, hawait, hempty, hmail, hreader, hafter⟩ := spec.shows
  have ha : m₁.handoff.Awaits t := hawait.1 rfl
  have hinv := h₁.inv hc
  -- before the step nothing was on its way to the awaited ticket, and the step adds nothing
  have hnone : ∀ k r, ¬ m₁.handoff.carries k t r := fun k r hk => (hinv.carried k t r hk).2 ha
  have hret : m₂.handoff.Retired t := by
    obtain ⟨q, hq, rfl⟩ := ha
    refine ⟨Nat.le_trans (Nat.le_of_eq (hinv.pending q hq).1) spec.handoff.tickets_le,
      fun ⟨q', hq', _⟩ => by simp [Machine.handoff, hempty rfl] at hq', fun k r hk => ?_⟩
    cases k with
    | mailbox => rfl
    | reader =>
      exact absurd (Machine.carries_iff.2 (hreader ▸ Machine.carries_iff.1 hk)) (hnone .reader r)
    | caller j =>
      obtain ⟨o, ho⟩ := Machine.carries_iff.1 hk
      by_cases hji : j = i
      · subst hji
        rw [hafter] at ho
        cases why <;> simp [Machine.afterUnregister] at ho
      · rw [spec.frame j (by simp [Event.actor, Ne.symm hji])] at ho
        exact absurd (Machine.carries_iff (k := .caller j) |>.2 ⟨o, ho⟩) (hnone (.caller j) r)
  exact (Run.retired_never_sent hret h₂).2

end Run

/-- What holds of the slot, the turn and the result channels at every point of a run. -/
structure ExchangeDiscipline (tr : List Event) (m : Machine) : Prop where
  /-- The awaited command is registered by the caller that holds the turn. -/
  slot_owned : ∀ q, m.conn.pending = some q → ∃ i req, m.turn = some i ∧
    (m.callers i).phase.role = .registered req q.ticket ∧ req.cmd.id = q.id
  /-- A caller about to register finds the slot empty. -/
  register_finds_empty : ∀ i req, (m.callers i).phase = .registering req → m.conn.pending = none
  /-- The reader about to hand a result over finds its channel empty. -/
  reader_send_ready : ∀ t r ps, m.reader = .sending t r ps → m.mailbox t = none
  /-- A disconnecting caller about to hand a result over finds its channel empty. -/
  caller_send_ready : ∀ i t r o, (m.callers i).phase = .sending t r o → m.mailbox t = none
  /-- No ticket is sent a second result. -/
  sent_once : ∀ pre post who t r, tr = pre ++ .send who t r :: post →
    ∀ who' r', Event.send who' t r' ∉ post
  /-- The final receive of an exchange whose command was claimed is answered. -/
  receive_answered : ∀ i req t, (m.callers i).phase = .receiving req t →
    (∃ r, m.mailbox t = some r) ∨ (∃ r ps, m.reader = .sending t r ps) ∨
      ∃ j r o, (m.callers j).phase = .sending t r o
  /-- An exchange that took its command out of the slot is never sent a result. -/
  removed_never_sent : ∀ pre post i t, tr = pre ++ .unregister i t true :: post →
    ∀ who r, Event.send who t r ∉ post
  /-- The turn is held by exactly the caller inside its locked section. -/
  turn_held : ∀ i, m.turn = some i ↔ (m.callers i).phase.role.holds = true

/-- Every run of a connection with no command in flight keeps the exchange discipline. -/
theorem Run.exchange_discipline {c : Conn} (hc : c.pending = none) {tr : List Event} {m : Machine}
    (h : Run (Machine.init c) tr m) : ExchangeDiscipline tr m where
  slot_owned q hq := (Run.slot_owner hc h hq).2
  register_finds_empty _ _ hi := Run.slot_empty_of_registering hc h hi
  reader_send_ready t r ps hr :=
    Run.channel_empty_of_carrier hc h (k := .reader) (by simp) (Machine.carries_iff.2 ⟨ps, hr⟩)
  caller_send_ready i t r o hi :=
    Run.channel_empty_of_carrier hc h (k := .caller i) (by simp) (Machine.carries_iff.2 ⟨o, hi⟩)
  sent_once pre post who t r htr := Run.sent_once hc (htr ▸ h)
  receive_answered _ _ _ hi := Run.receiving_answered hc h hi
  removed_never_sent pre post i t htr := Run.unregistered_never_sent hc (htr ▸ h)
  turn_held i := (h.inv hc).turn i

def answeredExchange : List Act :=
  [.start 0 (.send ⟨0x05, []⟩ none), .step 0, .step 0, .step 0, .answer 0 (.ok ()),
    .receive (Codec.standard.encode ⟨0x45, []⟩), .read, .read, .step 0, .step 0, .step 0, .step 0]

theorem answered_exchange_discipline :
    ({ state := .connected } : Conn).pending = none ∧ ∃ tr m,
      (Machine.init { state := .connected }).replay answeredExchange = some (m, tr) ∧
      ExchangeDiscipline tr m := by
  obtain ⟨⟨m, tr⟩, hr⟩ := Option.isSome_iff_exists.1
    (show ((Machine.init { state := .connected }).replay answeredExchange).isSome = true by
      decide +kernel)
  exact ⟨rfl, tr, m, hr, Run.exchange_discipline rfl (Machine.replay_run hr)⟩

end LcdPanel.Link
