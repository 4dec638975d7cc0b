import LcdPanel.Proofs.Link.Machine

namespace LcdPanel.Link

open LcdPanel.Frame

/-- The part a caller's phase plays in the command protocol. -/
inductive Role where
  | free
  | turn
  | registered (req : Query) (t : Nat)
  | receiving (req : Query) (t : Nat)
  | giving (t : Nat) (r : Except LinkError Packet)
  deriving DecidableEq

def Role.holds : Role → Bool
  | .turn | .registered .. | .receiving .. => true
  | .free | .giving .. => false

def Phase.role : Phase → Role
  | .checking _ | .registering _ | .exchanged .. | .reconnecting .. | .reopening ..
  | .unlocking _ => .turn
  | .writing req t _ | .awaiting req t | .unregistering req t _ => .registered req t
  | .receiving req t => .receiving req t
  | .sending t r _ => .giving t r
  | .idle | .locking _ | .closing | .failing _ | .opening .. | .settling .. | .abandoning _
  | .returning _ => .free

def Reader.gives : Reader → Option (Nat × Except LinkError Packet)
  | .sending t r _ => some (t, r)
  | _ => none

@[simp] theorem Reader.gives_resume (ps : List Packet) : (Reader.resume ps).gives = none := by
  cases ps <;> rfl

/-- What the command protocol reads of a machine. -/
structure Handoff where
  pending : Option Pending
  tickets : Nat
  turn : Option Nat
  mailbox : Nat → Option (Except LinkError Packet)
  reader : Option (Nat × Except LinkError Packet)
  roles : Nat → Role

def Machine.handoff (m : Machine) : Handoff :=
  ⟨m.conn.pending, m.conn.tickets, m.turn, m.mailbox, m.reader.gives,
    fun i => (m.callers i).phase.role⟩

/-- Who holds a result on its way to an exchange: the channel, the reader, or a caller. -/
inductive Holder where
  | mailbox
  | reader
  | caller (i : Nat)
  deriving DecidableEq

namespace Handoff

def carries (s : Handoff) : Holder → Nat → Except LinkError Packet → Prop
  | .mailbox, t, r => s.mailbox t = some r
  | .reader, t, r => s.reader = some (t, r)
  | .caller i, t, r => s.roles i = .giving t r

def Awaits (s : Handoff) (t : Nat) : Prop := ∃ q, s.pending = some q ∧ q.ticket = t

/-- What one step can do to the view. -/
inductive Step : Handoff → Handoff → Prop where
  | quiet (s : Handoff) : Step s s
  | lock (s : Handoff) (i : Nat) : s.turn = none → s.roles i = .free →
      Step s { s with turn := some i, roles := Function.update s.roles i .turn }
  | unlock (s : Handoff) (i : Nat) : s.turn.isSome → s.roles i = .turn →
      Step s { s with turn := none, roles := Function.update s.roles i .free }
  | register (s : Handoff) (i : Nat) (req : Query) : s.roles i = .turn →
      Step s { s with
        pending := some ⟨req.cmd.id, s.tickets + 1⟩, tickets := s.tickets + 1,
        roles := Function.update s.roles i (.registered req (s.tickets + 1)) }
  | take (s : Handoff) (i : Nat) (req : Query) (t : Nat) (r : Except LinkError Packet) :
      s.roles i = .registered req t ∨ s.roles i = .receiving req t → s.mailbox t = some r →
      Step s { s with
        mailbox := Function.update s.mailbox t none, roles := Function.update s.roles i .turn }
  | remove (s : Handoff) (i : Nat) (req : Query) (t : Nat) : s.roles i = .registered req t →
      s.Awaits t → Step s { s with pending := none, roles := Function.update s.roles i .turn }
  | abandon (s : Handoff) (i : Nat) (req : Query) (t : Nat) : s.roles i = .registered req t →
      ¬ s.Awaits t → Step s { s with roles := Function.update s.roles i .turn }
  | miss (s : Handoff) (i : Nat) (req : Query) (t : Nat) : s.roles i = .registered req t →
      ¬ s.Awaits t → Step s { s with roles := Function.update s.roles i (.receiving req t) }
  | claimByCaller (s : Handoff) (i : Nat) (q : Pending) (r : Except LinkError Packet) :
      s.roles i = .free → s.pending = some q →
      Step s { s with pending := none, roles := Function.update s.roles i (.giving q.ticket r) }
  | claimByReader (s : Handoff) (q : Pending) (r : Except LinkError Packet) :
      s.reader = none → s.pending = some q →
      Step s { s with pending := none, reader := some (q.ticket, r) }
  | giveByCaller (s : Handoff) (i t : Nat) (r : Except LinkError Packet) :
      s.roles i = .giving t r → s.mailbox t = none →
      Step s { s with
        mailbox := Function.update s.mailbox t (some r), roles := Function.update s.roles i .free }
  | giveByReader (s : Handoff) (t : Nat) (r : Except LinkError Packet) :
      s.reader = some (t, r) → s.mailbox t = none →
      Step s { s with mailbox := Function.update s.mailbox t (some r), reader := none }

/-- The invariant of the command protocol. -/
structure Inv (s : Handoff) : Prop where
  turn : ∀ i, s.turn = some i ↔ (s.roles i).holds = true
  pending : ∀ q, s.pending = some q →
    q.ticket = s.tickets ∧ ∃ i req, s.roles i = .registered req q.ticket ∧ req.cmd.id = q.id
  carried : ∀ h t r, s.carries h t r → t ≤ s.tickets ∧ ¬ s.Awaits t
  single : ∀ h h' t r r', s.carries h t r → s.carries h' t r' → h = h'
  registered : ∀ i req t, s.roles i = .registered req t → s.Awaits t ∨ ∃ h r, s.carries h t r
  receiving : ∀ i req t, s.roles i = .receiving req t → ∃ h r, s.carries h t r

variable {s : Handoff}

theorem carries_iff_of_eq {u : Handoff} (hm : u.mailbox = s.mailbox) (hr : u.reader = s.reader)
    (hg : ∀ j t r, u.roles j = .giving t r ↔ s.roles j = .giving t r) (h : Holder) (t : Nat)
    (r : Except LinkError Packet) : u.carries h t r ↔ s.carries h t r := by
  cases h <;> simp only [carries, hm, hr, hg]

theorem update_role_iff {f : Nat → Role} {i : Nat} {ρ : Role} {P : Role → Prop} (hρ : ¬ P ρ)
    (hi : ¬ P (f i)) (j : Nat) : P (Function.update f i ρ j) ↔ P (f j) := by
  by_cases hj : j = i
  · subst hj
    simp only [Function.update_self]
    exact ⟨fun h => absurd h hρ, fun h => absurd h hi⟩
  · rw [Function.update_of_ne hj]

theorem update_giving_iff {f : Nat → Role} {i : Nat} {ρ : Role} (hρ : ∀ t r, ρ ≠ .giving t r)
    (hi : ∀ t r, f i ≠ .giving t r) (j t : Nat) (r : Except LinkError Packet) :
    Function.update f i ρ j = .giving t r ↔ f j = .giving t r :=
  update_role_iff (P := (· = .giving t r)) (hρ t r) (hi t r) j

theorem update_holds {f : Nat → Role} {i : Nat} {ρ : Role} (hρ : ρ.holds = (f i).holds) (j : Nat) :
    (Function.update f i ρ j).holds = (f j).holds := by
  by_cases hj : j = i
  · subst hj; rw [Function.update_self, hρ]
  · rw [Function.update_of_ne hj]

namespace Inv

theorem holder_unique (hs : s.Inv) {i j : Nat} (hi : (s.roles i).holds = true)
    (hj : (s.roles j).holds = true) : i = j :=
  Option.some.inj (((hs.turn i).2 hi).symm.trans ((hs.turn j).2 hj))

theorem turn_update (hs : s.Inv) {i : Nat} {ρ : Role} (hi : (s.roles i).holds = true)
    (hρ : ρ.holds = true) (j : Nat) :
    s.turn = some j ↔ (Function.update s.roles i ρ j).holds = true := by
  by_cases hj : j = i
  · subst hj; simp only [Function.update_self, hρ, iff_true]; exact (hs.turn j).2 hi
  · rw [Function.update_of_ne hj]; exact hs.turn j

theorem lock (hs : s.Inv) {i : Nat} (ht : s.turn = none) (hi : s.roles i = .free) :
    Inv { s with turn := some i, roles := Function.update s.roles i .turn } := by
  have hc := carries_iff_of_eq (s := s)
    (u := { s with turn := some i, roles := Function.update s.roles i .turn })
    rfl rfl (update_giving_iff (by simp) (by simp [hi]))
  refine ⟨fun j => ?_, fun q hq => ?_, fun h t r hct => ?_, fun h h' t r r' hct hct' => ?_,
    fun j req t hj => ?_, fun j req t hj => ?_⟩
  · by_cases hj : j = i
    · subst hj; simp [Role.holds]
    · have hfree := hs.turn j
      rw [ht] at hfree
      simp only [Function.update_of_ne hj, Option.some.injEq]
      exact ⟨fun h => absurd h.symm hj, fun h => absurd (hfree.2 h) (by simp)⟩
  · obtain ⟨hlast, j, req, hj, hid⟩ := hs.pending q hq
    have hji : j ≠ i := by rintro rfl; rw [hi] at hj; cases hj
    exact ⟨hlast, j, req, by simp [Function.update_of_ne hji, hj], hid⟩
  · exact hs.carried h t r ((hc h t r).1 hct)
  · exact hs.single h h' t r r' ((hc h t r).1 hct) ((hc h' t r').1 hct')
  · have hji : j ≠ i := by rintro rfl; simp at hj
    simp only [Function.update_of_ne hji] at hj
    simpa only [hc, Awaits] using hs.registered j req t hj
  · have hji : j ≠ i := by rintro rfl; simp at hj
    simp only [Function.update_of_ne hji] at hj
    simpa only [hc] using hs.receiving j req t hj

theorem unlock (hs : s.Inv) {i : Nat} (hi : s.roles i = .turn) :
    Inv { s with turn := none, roles := Function.update s.roles i .free } := by
  have hc := carries_iff_of_eq (s := s)
    (u := { s with turn := none, roles := Function.update s.roles i .free })
    rfl rfl (update_giving_iff (by simp) (by simp [hi]))
  have hti : s.turn = some i := (hs.turn i).2 (by simp [hi, Role.holds])
  have hother : ∀ j, j ≠ i → (s.roles j).holds = false := fun j hj => by
    have := hs.turn j
    rw [hti, Option.some.injEq] at this
    simpa [Ne.symm hj] using this
  refine ⟨fun j => ?_, fun q hq => ?_, fun h t r hct => ?_, fun h h' t r r' hct hct' => ?_,
    fun j req t hj => ?_, fun j req t hj => ?_⟩
  · by_cases hj : j = i
    · subst hj; simp [Role.holds]
    · simp [Function.update_of_ne hj, hother j hj]
  · obtain ⟨hlast, j, req, hj, hid⟩ := hs.pending q hq
    have hji : j ≠ i := by rintro rfl; rw [hi] at hj; cases hj
    exact ⟨hlast, j, req, by simp [Function.update_of_ne hji, hj], hid⟩
  · exact hs.carried h t r ((hc h t r).1 hct)
  · exact hs.single h h' t r r' ((hc h t r).1 hct) ((hc h' t r').1 hct')
  · have hji : j ≠ i := by rintro rfl; simp at hj
    simp only [Function.update_of_ne hji] at hj
    simpa only [hc, Awaits] using hs.registered j req t hj
  · have hji : j ≠ i := by rintro rfl; simp at hj
    simp only [Function.update_of_ne hji] at hj
    simpa only [hc] using hs.receiving j req t hj

theorem holds_false_of_ne (hs : s.Inv) {i j : Nat} (hi : (s.roles i).holds = true) (hj : j ≠ i) :
    (s.roles j).holds = false := by
  cases h : (s.roles j).holds
  · rfl
  · exact absurd (hs.holder_unique h hi) hj

theorem register (hs : s.Inv) {i : Nat} (req : Query) (hi : s.roles i = .turn) :
    Inv { s with
      pending := some ⟨req.cmd.id, s.tickets + 1⟩, tickets := s.tickets + 1,
      roles := Function.update s.roles i (.registered req (s.tickets + 1)) } := by
  have hc := carries_iff_of_eq (s := s)
    (u := { s with
      pending := some ⟨req.cmd.id, s.tickets + 1⟩, tickets := s.tickets + 1,
      roles := Function.update s.roles i (.registered req (s.tickets + 1)) })
    rfl rfl (update_giving_iff (by simp) (by simp [hi]))
  have hholds : (s.roles i).holds = true := by simp [hi, Role.holds]
  refine ⟨hs.turn_update hholds (by simp [Role.holds]), fun q hq => ?_, fun h t r hct => ?_,
    fun h h' t r r' hct hct' => ?_, fun j req' t hj => ?_, fun j req' t hj => ?_⟩
  · cases hq
    exact ⟨rfl, i, req, by simp, rfl⟩
  · obtain ⟨hle, -⟩ := hs.carried h t r ((hc h t r).1 hct)
    refine ⟨by simp only; omega, ?_⟩
    rintro ⟨q, hq, hqt⟩
    cases hq
    simp only at hqt
    omega
  · exact hs.single h h' t r r' ((hc h t r).1 hct) ((hc h' t r').1 hct')
  · by_cases hji : j = i
    · subst hji
      simp only [Function.update_self, Role.registered.injEq] at hj
      exact Or.inl ⟨_, rfl, by simp only [hj.2]⟩
    · simp only [Function.update_of_ne hji] at hj
      have := hs.holds_false_of_ne hholds hji
      simp [hj, Role.holds] at this
  · by_cases hji : j = i
    · subst hji; simp at hj
    · simp only [Function.update_of_ne hji] at hj
      have := hs.holds_false_of_ne hholds hji
      simp [hj, Role.holds] at this

theorem eq_of_exchanging (hs : s.Inv) {i j : Nat} (hi : (s.roles i).holds = true)
    {req : Query} {t : Nat} (hj : s.roles j = .registered req t ∨ s.roles j = .receiving req t) :
    j = i :=
  hs.holder_unique (by rcases hj with hj | hj <;> simp [hj, Role.holds]) hi

theorem take (hs : s.Inv) {i : Nat} {req : Query} {t : Nat} {r : Except LinkError Packet}
    (hi : s.roles i = .registered req t ∨ s.roles i = .receiving req t) (hm : s.mailbox t = some r) :
    Inv { s with
      mailbox := Function.update s.mailbox t none, roles := Function.update s.roles i .turn } := by
  have hholds : (s.roles i).holds = true := by rcases hi with hi | hi <;> simp [hi, Role.holds]
  have hc : ∀ h t' r', { s with
      mailbox := Function.update s.mailbox t none,
      roles := Function.update s.roles i .turn }.carries h t' r' → s.carries h t' r' := by
    intro h t' r' hct
    cases h with
    | mailbox =>
      by_cases ht : t' = t
      · subst ht; simp [carries] at hct
      · simpa [carries, Function.update_of_ne ht] using hct
    | reader => exact hct
    | caller j =>
      have hg := update_giving_iff (f := s.roles) (i := i) (ρ := .turn) (by simp)
        (by rcases hi with hi | hi <;> simp [hi]) j t' r'
      exact hg.1 hct
  refine ⟨hs.turn_update hholds (by simp [Role.holds]), fun q hq => ?_, fun h t' r' hct => ?_,
    fun h h' t' r r' hct hct' => ?_, fun j req' t' hj => ?_, fun j req' t' hj => ?_⟩
  · obtain ⟨hlast, j, req', hj, hid⟩ := hs.pending q hq
    have hji : j ≠ i := by
      rintro rfl
      rcases hi with hi | hi <;> rw [hi] at hj <;> simp only [Role.registered.injEq, reduceCtorEq] at hj
      exact (hs.carried .mailbox t r hm).2 ⟨q, hq, hj.2.symm⟩
    exact ⟨hlast, j, req', by simp [Function.update_of_ne hji, hj], hid⟩
  · exact hs.carried h t' r' (hc h t' r' hct)
  · exact hs.single h h' t' r r' (hc h t' r hct) (hc h' t' r' hct')
  · by_cases hji : j = i
    · subst hji; simp at hj
    · simp only [Function.update_of_ne hji] at hj
      exact absurd (hs.eq_of_exchanging hholds (.inl hj)) hji
  · by_cases hji : j = i
    · subst hji; simp at hj
    · simp only [Function.update_of_ne hji] at hj
      exact absurd (hs.eq_of_exchanging hholds (.inr hj)) hji

theorem remove (hs : s.Inv) {i : Nat} {req : Query} {t : Nat} (hi : s.roles i = .registered req t) :
    Inv { s with pending := none, roles := Function.update s.roles i .turn } := by
  have hc := carries_iff_of_eq (s := s)
    (u := { s with pending := none, roles := Function.update s.roles i .turn })
    rfl rfl (update_giving_iff (by simp) (by simp [hi]))
  have hholds : (s.roles i).holds = true := by simp [hi, Role.holds]
  refine ⟨hs.turn_update hholds (by simp [Role.holds]), (fun q hq => by cases hq),
    fun h t r hct => ?_, fun h h' t r r' hct hct' => ?_, fun j req' t' hj => ?_,
    fun j req' t' hj => ?_⟩
  · exact ⟨(hs.carried h t r ((hc h t r).1 hct)).1, fun ⟨q, hq, _⟩ => by cases hq⟩
  · exact hs.single h h' t r r' ((hc h t r).1 hct) ((hc h' t r').1 hct')
  · by_cases hji : j = i
    · subst hji; simp at hj
    · simp only [Function.update_of_ne hji] at hj
      exact absurd (hs.eq_of_exchanging hholds (.inl hj)) hji
  · by_cases hji : j = i
    · subst hji; simp at hj
    · simp only [Function.update_of_ne hji] at hj
      exact absurd (hs.eq_of_exchanging hholds (.inr hj)) hji

/-- Caller `i` leaves its registered role for another that holds the turn, its command no longer
awaited. -/
theorem leave (hs : s.Inv) {i : Nat} {req : Query} {t : Nat} (hi : s.roles i = .registered req t)
    (hna : ¬ s.Awaits t) {ρ : Role} (hρ : ρ = .turn ∨ ρ = .receiving req t) :
    Inv { s with roles := Function.update s.roles i ρ } := by
  have hc := carries_iff_of_eq (s := s) (u := { s with roles := Function.update s.roles i ρ })
    rfl rfl (update_giving_iff (by rcases hρ with rfl | rfl <;> simp) (by simp [hi]))
  have hholds : (s.roles i).holds = true := by simp [hi, Role.holds]
  refine ⟨hs.turn_update hholds (by rcases hρ with rfl | rfl <;> simp [Role.holds]),
    fun q hq => ?_, fun h t r hct => ?_, fun h h' t r r' hct hct' => ?_, fun j req' t' hj => ?_,
    fun j req' t' hj => ?_⟩
  · obtain ⟨hlast, j, req', hj, hid⟩ := hs.pending q hq
    have hji : j ≠ i := by
      rintro rfl
      rw [hi, Role.registered.injEq] at hj
      exact hna ⟨q, hq, hj.2.symm⟩
    exact ⟨hlast, j, req', by simp [Function.update_of_ne hji, hj], hid⟩
  · exact hs.carried h t r ((hc h t r).1 hct)
  · exact hs.single h h' t r r' ((hc h t r).1 hct) ((hc h' t r').1 hct')
  · by_cases hji : j = i
    · subst hji; rcases hρ with rfl | rfl <;> simp at hj
    · simp only [Function.update_of_ne hji] at hj
      exact absurd (hs.eq_of_exchanging hholds (.inl hj)) hji
  · by_cases hji : j = i
    · subst hji
      rcases hρ with rfl | rfl
      · simp at hj
      · simp only [Function.update_self, Role.receiving.injEq] at hj
        obtain ⟨rfl, rfl⟩ := hj
        obtain ⟨h, r, hct⟩ := (hs.registered j req t hi).resolve_left hna
        exact ⟨h, r, (hc h t r).2 hct⟩
    · simp only [Function.update_of_ne hji] at hj
      exact absurd (hs.eq_of_exchanging hholds (.inr hj)) hji

/-- A claim: the awaited command leaves the slot and its result is on its way, with holder `k`. -/
theorem claim (hs : s.Inv) {q : Pending} (hq : s.pending = some q) {s' : Handoff} {k : Holder}
    {v : Except LinkError Packet} (hp : s'.pending = none) (hT : s'.tickets = s.tickets)
    (hturn : s'.turn = s.turn) (hholds : ∀ j, (s'.roles j).holds = (s.roles j).holds)
    (hreg : ∀ j req t, s'.roles j = .registered req t ↔ s.roles j = .registered req t)
    (hrec : ∀ j req t, s'.roles j = .receiving req t ↔ s.roles j = .receiving req t)
    (hc : ∀ h t r, s'.carries h t r ↔ (h = k ∧ t = q.ticket ∧ r = v) ∨ s.carries h t r) :
    s'.Inv := by
  have hawaits : s.Awaits q.ticket := ⟨q, hq, rfl⟩
  have hnone : ∀ t, ¬ s'.Awaits t := fun t ⟨q', hq', _⟩ => by rw [hp] at hq'; cases hq'
  refine ⟨fun j => by rw [hturn, hholds]; exact hs.turn j, (fun q' hq' => by rw [hp] at hq'; cases hq'),
    fun h t r hct => ?_, fun h h' t r r' hct hct' => ?_, fun j req t hj => ?_, fun j req t hj => ?_⟩
  · rcases (hc h t r).1 hct with ⟨-, rfl, -⟩ | hold
    · exact ⟨Nat.le_of_eq (by rw [hT, (hs.pending q hq).1]), hnone _⟩
    · exact ⟨by rw [hT]; exact (hs.carried h t r hold).1, hnone t⟩
  · rcases (hc h t r).1 hct with ⟨rfl, rfl, -⟩ | hold <;>
      rcases (hc h' _ r').1 hct' with ⟨rfl, ht, -⟩ | hold'
    · rfl
    · exact absurd hawaits (hs.carried h' _ r' hold').2
    · exact absurd (ht ▸ hawaits) (hs.carried h t r hold).2
    · exact hs.single h h' t r r' hold hold'
  · rcases hs.registered j req t ((hreg j req t).1 hj) with ⟨q', hq', rfl⟩ | ⟨h, r, hold⟩
    · rw [hq] at hq'; cases hq'
      exact .inr ⟨k, v, (hc k _ v).2 (.inl ⟨rfl, rfl, rfl⟩)⟩
    · exact .inr ⟨h, r, (hc h t r).2 (.inr hold)⟩
  · obtain ⟨h, r, hold⟩ := hs.receiving j req t ((hrec j req t).1 hj)
    exact ⟨h, r, (hc h t r).2 (.inr hold)⟩

theorem carries_unique {h : Holder} (hh : h ≠ .mailbox) {t t' : Nat} {r r' : Except LinkError Packet}
    (hct : s.carries h t r) (hct' : s.carries h t' r') : t = t' ∧ r = r' := by
  cases h with
  | mailbox => exact absurd rfl hh
  | reader =>
    simp only [carries] at hct hct'
    rw [hct] at hct'
    simpa using hct'
  | caller i =>
    simp only [carries] at hct hct'
    rw [hct] at hct'
    simpa using hct'

/-- A hand-over: the result held by `k` for ticket `t₀` goes into the empty channel. -/
theorem give (hs : s.Inv) {s' : Handoff} {k : Holder} {t₀ : Nat} {r₀ : Except LinkError Packet}
    (hk : s.carries k t₀ r₀) (hkm : k ≠ .mailbox) (hp : s'.pending = s.pending)
    (hT : s'.tickets = s.tickets) (hturn : s'.turn = s.turn)
    (hholds : ∀ j, (s'.roles j).holds = (s.roles j).holds)
    (hreg : ∀ j req t, s'.roles j = .registered req t ↔ s.roles j = .registered req t)
    (hrec : ∀ j req t, s'.roles j = .receiving req t ↔ s.roles j = .receiving req t)
    (hc : ∀ h t r, s'.carries h t r ↔ (h = .mailbox ∧ t = t₀ ∧ r = r₀) ∨ (h ≠ k ∧ s.carries h t r)) :
    s'.Inv := by
  have hawaits : ∀ t, s'.Awaits t ↔ s.Awaits t := fun t => by simp only [Awaits, hp]
  have hkept : ∀ h t r, s.carries h t r → ∃ h' r', s'.carries h' t r' := by
    intro h t r hold
    by_cases hhk : h = k
    · subst hhk
      obtain ⟨rfl, rfl⟩ := carries_unique hkm hold hk
      exact ⟨.mailbox, r, (hc _ _ _).2 (.inl ⟨rfl, rfl, rfl⟩)⟩
    · exact ⟨h, r, (hc h t r).2 (.inr ⟨hhk, hold⟩)⟩
  refine ⟨fun j => by rw [hturn, hholds]; exact hs.turn j, fun q hq => ?_, fun h t r hct => ?_,
    fun h h' t r r' hct hct' => ?_, fun j req t hj => ?_, fun j req t hj => ?_⟩
  · obtain ⟨hlast, j, req, hj, hid⟩ := hs.pending q (hp ▸ hq)
    exact ⟨hT ▸ hlast, j, req, (hreg j req _).2 hj, hid⟩
  · rw [hT, hawaits]
    rcases (hc h t r).1 hct with ⟨-, rfl, -⟩ | ⟨-, hold⟩
    · exact hs.carried k _ r₀ hk
    · exact hs.carried h t r hold
  · rcases (hc h t r).1 hct with ⟨rfl, rfl, -⟩ | ⟨hhk, hold⟩ <;>
      rcases (hc h' _ r').1 hct' with ⟨rfl, ht, -⟩ | ⟨hhk', hold'⟩
    · rfl
    · exact absurd (hs.single k h' _ r₀ r' hk hold') (Ne.symm hhk')
    · exact absurd (hs.single k h _ r₀ r (ht ▸ hk) hold) (Ne.symm hhk)
    · exact hs.single h h' t r r' hold hold'
  · rw [hawaits]
    rcases hs.registered j req t ((hreg j req t).1 hj) with ha | ⟨h, r, hold⟩
    · exact .inl ha
    · exact .inr (hkept h t r hold)
  · obtain ⟨h, r, hold⟩ := hs.receiving j req t ((hrec j req t).1 hj)
    exact hkept h t r hold

end Inv

/-- Every step keeps the invariant. -/
theorem Step.inv {s s' : Handoff} (h : Step s s') (hs : s.Inv) : s'.Inv := by
  cases h with
  | quiet => exact hs
  | lock i ht hi => exact hs.lock ht hi
  | unlock i _ hi => exact hs.unlock hi
  | register i req hi => exact hs.register req hi
  | take i req t r hi hm => exact hs.take hi hm
  | remove i req t hi _ => exact hs.remove hi
  | abandon i req t hi hna => exact hs.leave hi hna (.inl rfl)
  | miss i req t hi hna => exact hs.leave hi hna (.inr rfl)
  | claimByCaller i q r hi hq =>
    refine hs.claim hq (k := .caller i) (v := r) rfl rfl rfl
      (update_holds (by simp [hi, Role.holds]))
      (fun j req t => update_role_iff (P := (· = .registered req t)) (by simp) (by simp [hi]) j)
      (fun j req t => update_role_iff (P := (· = .receiving req t)) (by simp) (by simp [hi]) j) (fun h t r' => ?_)
    cases h with
    | mailbox => simp [carries]
    | reader => simp [carries]
    | caller j =>
      by_cases hj : j = i
      · subst hj; simp [carries, hi, eq_comm]
      · simp [carries, hj]
  | claimByReader q r hr hq =>
    refine hs.claim hq (k := .reader) (v := r) rfl rfl rfl (fun _ => rfl) (fun _ _ _ => Iff.rfl)
      (fun _ _ _ => Iff.rfl) (fun h t r' => ?_)
    cases h <;> simp [carries, hr, eq_comm]
  | giveByCaller i t r hi hm =>
    refine hs.give (k := .caller i) hi (by simp) rfl rfl rfl (update_holds (by simp [hi, Role.holds]))
      (fun j req t => update_role_iff (P := (· = .registered req t)) (by simp) (by simp [hi]) j)
      (fun j req t => update_role_iff (P := (· = .receiving req t)) (by simp) (by simp [hi]) j) (fun h t' r' => ?_)
    cases h with
    | mailbox =>
      by_cases ht : t' = t
      · subst ht; simp [carries, hm, eq_comm]
      · simp [carries, ht]
    | reader => simp [carries]
    | caller j =>
      by_cases hj : j = i
      · subst hj; simp [carries]
      · simp [carries, hj]
  | giveByReader t r hr hm =>
    refine hs.give (k := .reader) hr (by simp) rfl rfl rfl (fun _ => rfl) (fun _ _ _ => Iff.rfl)
      (fun _ _ _ => Iff.rfl) (fun h t' r' => ?_)
    cases h with
    | mailbox =>
      by_cases ht : t' = t
      · subst ht; simp [carries, hm, eq_comm]
      · simp [carries, ht]
    | reader => simp [carries]
    | caller j => simp [carries]

end Handoff

end LcdPanel.Link
