import LcdPanel.Task.Runner

/-!
Waiting for tasks that run side by side, each handing its result over an unbuffered channel, so
that results arrive in whatever order the tasks finish.
-/

namespace LcdPanel.Task

/-! ## Error values -/

/-- An error value: a plain error with its identity and text, an error wrapped under a prefix,
or a list of errors gathered into one. -/
inductive Failure where
  | plain (id : Nat) (text : String)
  | wrapped (pre : String) (inner : Failure)
  | gathered (errs : List Failure)

namespace Failure

def text : Failure → String
  | plain _ t => t
  | wrapped pre inner => pre ++ inner.text
  | gathered errs => (ErrorList.mk (errs.map text)).message

mutual

/-- Whether an error reaches the plain error with identity `id`: it is that error, or it unwraps
to an error that reaches it. -/
def reaches (id : Nat) : Failure → Bool
  | plain i _ => i == id
  | wrapped _ inner => reaches id inner
  | gathered errs => reachesAny id errs

def reachesAny (id : Nat) : List Failure → Bool
  | [] => false
  | e :: es => reaches id e || reachesAny id es

end

theorem reachesAny_eq (id : Nat) (errs : List Failure) :
    reachesAny id errs = errs.any (reaches id) := by
  induction errs with
  | nil => rfl
  | cons e es ih => rw [reachesAny, ih, List.any_cons]

end Failure

def canceledId : Nat := 0

def forcedExit : Failure := .plain 1 "forced exit"

def fails : Option Failure → Bool
  | none => false
  | some e => !Failure.reaches canceledId e

/-- What a result adds to the gathered errors: a failure, wrapped under the name of its task. -/
def entry (name : String) : Option Failure → List Failure
  | none => []
  | some e => if Failure.reaches canceledId e then [] else [.wrapped (name ++ ": ") e]

def gatheredError (errs : List Failure) : Option Failure :=
  if errs.isEmpty then none else some (.gathered errs)

/-! ## The runner among goroutines -/

/-- Where a started task is. -/
inductive Stage where
  | running
  | sending (err : Option Failure)
  | handed

def Stage.isRunning : Stage → Bool
  | .running => true
  | _ => false

def Stage.isHanded : Stage → Bool
  | .handed => true
  | _ => false

@[simp] theorem Stage.isRunning_running : Stage.running.isRunning = true := rfl
@[simp] theorem Stage.isRunning_sending (err : Option Failure) : (Stage.sending err).isRunning = false :=
  rfl
@[simp] theorem Stage.isRunning_handed : Stage.handed.isRunning = false := rfl
@[simp] theorem Stage.isHanded_running : Stage.running.isHanded = false := rfl
@[simp] theorem Stage.isHanded_sending (err : Option Failure) : (Stage.sending err).isHanded = false :=
  rfl
@[simp] theorem Stage.isHanded_handed : Stage.handed.isHanded = true := rfl

structure Spawned where
  name : String
  stage : Stage

/-- Where the waiting goroutine is. -/
inductive Waiter where
  | idle
  | looping
  | holding (name : String) (err : Option Failure)
  | returned (result : Option Failure)

namespace Waiter

def held : Waiter → Nat
  | .holding .. => 1
  | _ => 0

def owed : Waiter → List Failure
  | .holding n err => entry n err
  | _ => []

@[simp] theorem held_idle : idle.held = 0 := rfl
@[simp] theorem held_looping : looping.held = 0 := rfl
@[simp] theorem held_holding (n : String) (err : Option Failure) : (holding n err).held = 1 := rfl
@[simp] theorem held_returned (r : Option Failure) : (returned r).held = 0 := rfl
@[simp] theorem owed_idle : idle.owed = [] := rfl
@[simp] theorem owed_looping : looping.owed = [] := rfl
@[simp] theorem owed_holding (n : String) (err : Option Failure) :
    (holding n err).owed = entry n err := rfl
@[simp] theorem owed_returned (r : Option Failure) : (returned r).owed = [] := rfl

end Waiter

/-- The runner: the started tasks in the order they were started, the count of results still to
take, whether the shared context is done, the errors gathered, the waiting goroutine, and the
stop signals received. -/
structure Runner where
  spawned : List Spawned := []
  count : Nat := 0
  done : Bool := false
  errs : List Failure := []
  waiter : Waiter := .idle
  signals : Nat := 0

namespace Runner

def unhanded (s : Runner) : Nat := s.spawned.countP fun x => !x.stage.isHanded

theorem unhanded_pos {s : Runner} {i : Nat} {x : Spawned} (hs : s.spawned[i]? = some x)
    (hx : x.stage.isHanded = false) : 0 < s.unhanded :=
  List.countP_pos_iff.2 ⟨x, List.mem_of_getElem? hs, by simp [hx]⟩

/-- What the scheduler lets happen next. The first stop signal cancels the context and the second
closes the exit channel, which `force` takes. -/
inductive Act where
  | spawn (name : Option String)
  | finish (i : Nat) (err : Option Failure)
  | wait
  | take (i : Nat)
  | handle
  | exit
  | force
  | stop
  | signal

inductive Event where
  | spawned (name : Option String)
  | finished (i : Nat) (err : Option Failure)
  | waiting
  | took (i : Nat) (name : String) (err : Option Failure)
  | handled (failed : Bool)
  | returned (result : Option Failure)
  | stopped
  | signaled

/-- One step, if the act can happen now. Tasks are started before the wait begins; a result is
taken only while some are still to come, and the exit is taken only then too. -/
def step (s : Runner) : Act → Option (Runner × Event)
  | .spawn name =>
    match s.waiter with
    | .idle =>
      some ({ s with
          spawned := s.spawned ++ [⟨name.getD (toString s.count), .running⟩]
          count := s.count + 1 }, .spawned name)
    | _ => none
  | .finish i err =>
    match s.spawned[i]? with
    | some ⟨n, .running⟩ =>
      some ({ s with spawned := s.spawned.set i ⟨n, .sending err⟩ }, .finished i err)
    | _ => none
  | .wait =>
    match s.waiter with
    | .idle => some ({ s with waiter := .looping }, .waiting)
    | _ => none
  | .take i =>
    match s.waiter, s.spawned[i]? with
    | .looping, some ⟨n, .sending err⟩ =>
      if 0 < s.count then
        some ({ s with spawned := s.spawned.set i ⟨n, .handed⟩, waiter := .holding n err },
          .took i n err)
      else none
    | _, _ => none
  | .handle =>
    match s.waiter with
    | .holding n err =>
      some ({ s with
          errs := s.errs ++ entry n err
          done := s.done || fails err
          count := s.count - 1
          waiter := .looping }, .handled (fails err))
    | _ => none
  | .exit =>
    match s.waiter with
    | .looping =>
      if s.count = 0 then
        some ({ s with done := true, waiter := .returned (gatheredError s.errs) },
          .returned (gatheredError s.errs))
      else none
    | _ => none
  | .force =>
    match s.waiter with
    | .looping =>
      if 0 < s.count ∧ 2 ≤ s.signals then
        some ({ s with waiter := .returned (some forcedExit) }, .returned (some forcedExit))
      else none
    | _ => none
  | .stop => some ({ s with done := true }, .stopped)
  | .signal => some ({ s with signals := s.signals + 1, done := true }, .signaled)

inductive Moves (s : Runner) : Runner → Event → Prop
  | spawn (name : Option String) : s.waiter = .idle →
      Moves s { s with
          spawned := s.spawned ++ [⟨name.getD (toString s.count), .running⟩]
          count := s.count + 1 } (.spawned name)
  | finish {i : Nat} {n : String} (err : Option Failure) : s.spawned[i]? = some ⟨n, .running⟩ →
      Moves s { s with spawned := s.spawned.set i ⟨n, .sending err⟩ } (.finished i err)
  | wait : s.waiter = .idle → Moves s { s with waiter := .looping } .waiting
  | take {i : Nat} {n : String} {err : Option Failure} : s.waiter = .looping → 0 < s.count →
      s.spawned[i]? = some ⟨n, .sending err⟩ →
      Moves s { s with spawned := s.spawned.set i ⟨n, .handed⟩, waiter := .holding n err }
        (.took i n err)
  | handle {n : String} {err : Option Failure} : s.waiter = .holding n err →
      Moves s { s with
          errs := s.errs ++ entry n err
          done := s.done || fails err
          count := s.count - 1
          waiter := .looping } (.handled (fails err))
  | exit : s.waiter = .looping → s.count = 0 →
      Moves s { s with done := true, waiter := .returned (gatheredError s.errs) }
        (.returned (gatheredError s.errs))
  | force : s.waiter = .looping → 0 < s.count → 2 ≤ s.signals →
      Moves s { s with waiter := .returned (some forcedExit) } (.returned (some forcedExit))
  | stop : Moves s { s with done := true } .stopped
  | signal : Moves s { s with signals := s.signals + 1, done := true } .signaled

variable {s s' : Runner} {e : Event}

/-- Every step is one of the moves. -/
theorem step_moves {a : Act} (h : s.step a = some (s', e)) : Moves s s' e := by
  cases a with
  | spawn name =>
    simp only [step] at h
    split at h
    · next hw => cases h; exact .spawn name hw
    · cases h
  | finish i err =>
    simp only [step] at h
    split at h
    · next n hi => cases h; exact .finish err hi
    · cases h
  | wait =>
    simp only [step] at h
    split at h
    · next hw => cases h; exact .wait hw
    · cases h
  | take i =>
    simp only [step] at h
    split at h
    · next n err hw hi =>
      split at h
      · next hc => cases h; exact .take hw hc hi
      · cases h
    · cases h
  | handle =>
    simp only [step] at h
    split at h
    · next n err hw => cases h; exact .handle hw
    · cases h
  | exit =>
    simp only [step] at h
    split at h
    · next hw =>
      split at h
      · next hc => cases h; exact .exit hw hc
      · cases h
    · cases h
  | force =>
    simp only [step] at h
    split at h
    · next hw =>
      split at h
      · next hc => cases h; exact .force hw hc.1 hc.2
      · cases h
    · cases h
  | stop => cases h; exact .stop
  | signal => cases h; exact .signal

/-- The runner goes from `s₀` to `s` showing the events `t`, in order. -/
inductive Run (s₀ : Runner) : List Event → Runner → Prop
  | nil : Run s₀ [] s₀
  | step {t : List Event} {s s' : Runner} {e : Event} (a : Act) :
      Run s₀ t s → s.step a = some (s', e) → Run s₀ (t ++ [e]) s'

theorem Run.append {s₀ s₁ : Runner} {t₁ t₂ : List Event} (h₁ : Run s₀ t₁ s₁)
    (h₂ : Run s₁ t₂ s) : Run s₀ (t₁ ++ t₂) s := by
  induction h₂ with
  | nil => simpa using h₁
  | step a _ hstep ih => rw [← List.append_assoc]; exact .step a ih hstep

theorem Run.cons {s₀ s₁ : Runner} {t : List Event} (a : Act)
    (hstep : s₀.step a = some (s₁, e)) (h : Run s₁ t s) : Run s₀ (e :: t) s :=
  (Run.step a .nil hstep).append h

/-! ## What the events say -/

namespace Event

@[simp] def spawnName : Event → Option (Option String)
  | .spawned name => some name
  | _ => none

@[simp] def finish : Event → Option (Nat × Option Failure)
  | .finished i err => some (i, err)
  | _ => none

@[simp] def take : Event → Option (Nat × String × Option Failure)
  | .took i n err => some (i, n, err)
  | _ => none

end Event

def spawns (t : List Event) : List (Option String) := t.filterMap Event.spawnName

/-- The names of the tasks started in `t`: a task's own, else its place in the start order. -/
def spawnNames (t : List Event) : List String := (spawns t).mapIdx fun i n => n.getD (toString i)

def finishes (t : List Event) : List (Nat × Option Failure) := t.filterMap Event.finish

def took (t : List Event) : List (Nat × String × Option Failure) := t.filterMap Event.take

@[simp] theorem spawns_snoc (t : List Event) (e : Event) :
    spawns (t ++ [e]) = spawns t ++ e.spawnName.toList := by
  simp only [spawns, List.filterMap_append, List.filterMap_cons, List.filterMap_nil]
  cases e.spawnName <;> rfl

@[simp] theorem finishes_snoc (t : List Event) (e : Event) :
    finishes (t ++ [e]) = finishes t ++ e.finish.toList := by
  simp only [finishes, List.filterMap_append, List.filterMap_cons, List.filterMap_nil]
  cases e.finish <;> rfl

@[simp] theorem took_snoc (t : List Event) (e : Event) :
    took (t ++ [e]) = took t ++ e.take.toList := by
  simp only [took, List.filterMap_append, List.filterMap_cons, List.filterMap_nil]
  cases e.take <;> rfl

theorem length_spawnNames (t : List Event) : (spawnNames t).length = (spawns t).length := by
  simp [spawnNames]

/-! ## The invariant -/

/-- The started tasks against the events `t`: their names, which runs returned and with what, and
which results were taken. -/
structure Ledger (t : List Event) (tasks : List Spawned) : Prop where
  names : tasks.map (·.name) = spawnNames t
  finish_nodup : ((finishes t).map (·.1)).Nodup
  finish_iff : ∀ i, i ∈ (finishes t).map (·.1) ↔ ∃ x ∈ tasks[i]?, x.stage.isRunning = false
  sending : ∀ i n err, tasks[i]? = some ⟨n, .sending err⟩ → (i, err) ∈ finishes t
  took_nodup : ((took t).map (·.1)).Nodup
  took_iff : ∀ i, i ∈ (took t).map (·.1) ↔ ∃ x ∈ tasks[i]?, x.stage.isHanded = true
  took_spec : ∀ x ∈ took t, (spawnNames t)[x.1]? = some x.2.1 ∧ (x.1, x.2.2) ∈ finishes t

/-- What holds after the events `t` of every run from a new runner. -/
structure Inv (t : List Event) (s : Runner) : Prop where
  ledger : Ledger t s.spawned
  count_eq : s.count = s.unhanded + s.waiter.held
  idle_quiet : s.waiter = .idle → took t = []
  gathered : s.errs ++ s.waiter.owed = (took t).flatMap fun x => entry x.2.1 x.2.2
  canceled : s.errs ≠ [] → s.done = true
  returned : ∀ r, s.waiter = .returned r →
    (r = some forcedExit ∧ 2 ≤ s.signals) ∨ (r = gatheredError s.errs ∧ s.count = 0 ∧ s.done = true)

theorem inv_start : Inv [] ({} : Runner) where
  ledger :=
    { names := rfl
      finish_nodup := List.nodup_nil
      finish_iff := fun i => by simp [finishes]
      sending := fun i n err h => by simp at h
      took_nodup := List.nodup_nil
      took_iff := fun i => by simp [took]
      took_spec := fun x hx => by simp [took] at hx }
  count_eq := rfl
  idle_quiet _ := rfl
  gathered := rfl
  canceled h := absurd rfl h
  returned r h := by cases h

/-! ## What one step keeps -/

section Keeps

variable {t : List Event} {tasks : List Spawned}

theorem Ledger.congr {t' : List Event} (h : Ledger t tasks) (hs : spawns t' = spawns t)
    (hf : finishes t' = finishes t) (ht : took t' = took t) : Ledger t' tasks := by
  have hn : spawnNames t' = spawnNames t := by rw [spawnNames, hs]; rfl
  exact ⟨hn ▸ h.names, hf ▸ h.finish_nodup, hf ▸ h.finish_iff, hf ▸ h.sending, ht ▸ h.took_nodup,
    ht ▸ h.took_iff, by rw [ht, hn, hf]; exact h.took_spec⟩

theorem Ledger.quiet (h : Ledger t tasks) (hs : e.spawnName = none) (hf : e.finish = none)
    (ht : e.take = none) : Ledger (t ++ [e]) tasks :=
  h.congr (by rw [spawns_snoc, hs, Option.toList_none, List.append_nil])
    (by rw [finishes_snoc, hf, Option.toList_none, List.append_nil])
    (by rw [took_snoc, ht, Option.toList_none, List.append_nil])

theorem nodup_snoc {l : List Nat} {a : Nat} (h : l.Nodup) (ha : a ∉ l) : (l ++ [a]).Nodup :=
  List.nodup_append.2 ⟨h, List.nodup_cons.2 ⟨List.not_mem_nil, List.nodup_nil⟩,
    fun x hx y hy => by
      rw [List.mem_singleton] at hy
      subst hy
      exact fun hxy => ha (hxy ▸ hx)⟩

theorem spawnNames_snoc_quiet (hs : e.spawnName = none) : spawnNames (t ++ [e]) = spawnNames t := by
  rw [spawnNames, spawns_snoc, hs, Option.toList_none, List.append_nil]
  rfl

theorem exists_getElem?_append {p : Spawned → Prop} {x : Spawned} (hx : ¬p x) (i : Nat) :
    (∃ y ∈ (tasks ++ [x])[i]?, p y) ↔ ∃ y ∈ tasks[i]?, p y := by
  rw [List.getElem?_append]
  split
  · rfl
  · next hi =>
    have hnone : tasks[i]? = none := List.getElem?_eq_none (by omega)
    rw [hnone]
    rcases Nat.eq_zero_or_pos (i - tasks.length) with h0 | hpos
    · simp [h0, hx]
    · simp [List.getElem?_eq_none (show [x].length ≤ i - tasks.length by simp; omega)]

theorem exists_getElem?_set {p : Spawned → Prop} {i j : Nat} {x y : Spawned}
    (hi : tasks[i]? = some x) :
    (∃ z ∈ (tasks.set i y)[j]?, p z) ↔ if j = i then p y else ∃ z ∈ tasks[j]?, p z := by
  have hlt : i < tasks.length := (List.getElem?_eq_some_iff.1 hi).1
  rw [List.getElem?_set]
  by_cases hj : j = i
  · subst hj
    simp [hlt]
  · simp [hj, Ne.symm hj]

theorem map_name_set {i : Nat} {x y : Spawned} (hi : tasks[i]? = some x) (hn : y.name = x.name) :
    (tasks.set i y).map (·.name) = tasks.map (·.name) := by
  apply List.ext_getElem?
  intro j
  rw [List.getElem?_map, List.getElem?_map, List.getElem?_set]
  by_cases hj : i = j
  · subst hj
    obtain ⟨hlt, heq⟩ := List.getElem?_eq_some_iff.1 hi
    simp [hlt, hn, heq]
  · simp [hj]

/-- Starting a task, before any result is taken, appends it to the ledger under its own name or
its place in the start order. -/
theorem Ledger.spawn (h : Ledger t tasks) (hq : took t = []) (name : Option String) :
    Ledger (t ++ [.spawned name]) (tasks ++ [⟨name.getD (toString tasks.length), .running⟩]) := by
  have hlen : (spawns t).length = tasks.length := by
    rw [← length_spawnNames, ← h.names, List.length_map]
  have hrun : ¬(Spawned.stage ⟨name.getD (toString tasks.length), .running⟩).isRunning = false := by
    simp [Stage.isRunning]
  have hhand : ¬(Spawned.stage ⟨name.getD (toString tasks.length), .running⟩).isHanded = true := by
    simp [Stage.isHanded]
  refine ⟨?_, by simpa using h.finish_nodup, ?_, ?_, by simp [hq], ?_, by simp [hq]⟩
  · simpa [spawnNames, List.mapIdx_concat, hlen] using h.names
  · intro i
    have hf : finishes (t ++ [.spawned name]) = finishes t := by simp
    rw [hf, exists_getElem?_append (p := fun y => y.stage.isRunning = false) hrun]
    exact h.finish_iff i
  · intro i n err hi
    rw [List.getElem?_append] at hi
    split at hi
    · simpa using h.sending i n err hi
    · rcases Nat.eq_zero_or_pos (i - tasks.length) with h0 | hpos
      · simp [h0] at hi
      · rw [show i - tasks.length = i - tasks.length - 1 + 1 by omega] at hi
        simp at hi
  · intro i
    have ht : took (t ++ [.spawned name]) = took t := by simp
    rw [ht, exists_getElem?_append (p := fun y => y.stage.isHanded = true) hhand]
    exact h.took_iff i

/-- The run of a running task returns: its result now waits to be taken. -/
theorem Ledger.finish (h : Ledger t tasks) {i : Nat} {n : String} (hi : tasks[i]? = some ⟨n, .running⟩)
    (err : Option Failure) :
    Ledger (t ++ [.finished i err]) (tasks.set i ⟨n, .sending err⟩) := by
  have hnot : i ∉ (finishes t).map (·.1) := by
    rw [h.finish_iff]
    simp [hi, Stage.isRunning]
  have hn : spawnNames (t ++ [.finished i err]) = spawnNames t := spawnNames_snoc_quiet rfl
  refine ⟨?_, ?_, ?_, ?_, by simpa using h.took_nodup, ?_, ?_⟩
  · rw [hn]
    exact (map_name_set (y := ⟨n, .sending err⟩) hi rfl).trans h.names
  · simpa using nodup_snoc h.finish_nodup hnot
  · intro j
    rw [exists_getElem?_set hi]
    by_cases hj : j = i
    · subst hj
      simp [Stage.isRunning]
    · simpa [hj] using h.finish_iff j
  · intro j n' err' hj'
    rw [List.getElem?_set] at hj'
    by_cases hj : i = j
    · subst hj
      simp [(List.getElem?_eq_some_iff.1 hi).1] at hj'
      simp [hj'.2]
    · simp only [hj, if_false] at hj'
      simp [h.sending j n' err' hj']
  · intro j
    rw [exists_getElem?_set hi]
    by_cases hj : j = i
    · subst hj
      simpa [Stage.isHanded, hi] using h.took_iff j
    · simpa [hj] using h.took_iff j
  · intro x hx
    have hx' := h.took_spec x (by simpa using hx)
    rw [hn, finishes_snoc]
    exact ⟨hx'.1, List.mem_append_left _ hx'.2⟩

/-- The wait takes a result waiting to be taken: the task is handed over, and the result taken is
the one its run returned, under the task's name. -/
theorem Ledger.take (h : Ledger t tasks) {i : Nat} {n : String} {err : Option Failure}
    (hi : tasks[i]? = some ⟨n, .sending err⟩) :
    Ledger (t ++ [.took i n err]) (tasks.set i ⟨n, .handed⟩) := by
  have hnot : i ∉ (took t).map (·.1) := by
    rw [h.took_iff]
    simp [hi, Stage.isHanded]
  have hn : spawnNames (t ++ [.took i n err]) = spawnNames t := spawnNames_snoc_quiet rfl
  refine ⟨?_, by simpa using h.finish_nodup, ?_, ?_, ?_, ?_, ?_⟩
  · rw [hn]
    exact (map_name_set (y := ⟨n, .handed⟩) hi rfl).trans h.names
  · intro j
    rw [exists_getElem?_set hi]
    by_cases hj : j = i
    · subst hj
      simpa [Stage.isRunning, hi] using h.finish_iff j
    · simpa [hj] using h.finish_iff j
  · intro j n' err' hj'
    rw [List.getElem?_set] at hj'
    by_cases hj : i = j
    · subst hj
      simp [(List.getElem?_eq_some_iff.1 hi).1] at hj'
    · simp only [hj, if_false] at hj'
      simpa using h.sending j n' err' hj'
  · simpa using nodup_snoc h.took_nodup hnot
  · intro j
    rw [exists_getElem?_set hi]
    by_cases hj : j = i
    · subst hj
      simp [Stage.isHanded]
    · simpa [hj] using h.took_iff j
  · intro x hx
    rw [took_snoc] at hx
    have hname : (spawnNames t)[i]? = some n := by
      rw [← h.names, List.getElem?_map, hi]
      rfl
    have hf : finishes (t ++ [.took i n err]) = finishes t := by simp
    rw [hn, hf]
    rcases List.mem_append.1 hx with hx | hx
    · exact h.took_spec x hx
    · simp only [Event.take, Option.toList_some, List.mem_singleton] at hx
      subst hx
      exact ⟨hname, h.sending i n err hi⟩

theorem entry_ne_nil_iff (n : String) (err : Option Failure) : entry n err ≠ [] ↔ fails err = true := by
  cases err with
  | none => simp [entry, fails]
  | some e => by_cases h : Failure.reaches canceledId e <;> simp [entry, fails, h]

theorem Inv.wait (hi : Inv t s) (hw : s.waiter = .idle) :
    Inv (t ++ [.waiting]) { s with waiter := .looping } where
  ledger := hi.ledger.quiet rfl rfl rfl
  count_eq := by simpa [unhanded, hw] using hi.count_eq
  idle_quiet h := by cases h
  gathered := by simpa [hw] using hi.gathered
  canceled := hi.canceled
  returned r h := by cases h

theorem Inv.stop (hi : Inv t s) : Inv (t ++ [.stopped]) { s with done := true } where
  ledger := hi.ledger.quiet rfl rfl rfl
  count_eq := hi.count_eq
  idle_quiet h := by simpa using hi.idle_quiet h
  gathered := by simpa using hi.gathered
  canceled _ := rfl
  returned r h := by
    rcases hi.returned r h with hf | ⟨hr, hc, -⟩
    · exact .inl hf
    · exact .inr ⟨hr, hc, rfl⟩

theorem Inv.signal (hi : Inv t s) :
    Inv (t ++ [.signaled]) { s with signals := s.signals + 1, done := true } where
  ledger := hi.ledger.quiet rfl rfl rfl
  count_eq := hi.count_eq
  idle_quiet h := by simpa using hi.idle_quiet h
  gathered := by simpa using hi.gathered
  canceled _ := rfl
  returned r h := by
    rcases hi.returned r h with ⟨hf, hs⟩ | ⟨hr, hc, -⟩
    · exact .inl ⟨hf, Nat.le_succ_of_le hs⟩
    · exact .inr ⟨hr, hc, rfl⟩

theorem Inv.force (hi : Inv t s) (hw : s.waiter = .looping) (hs : 2 ≤ s.signals) :
    Inv (t ++ [.returned (some forcedExit)]) { s with waiter := .returned (some forcedExit) } where
  ledger := hi.ledger.quiet rfl rfl rfl
  count_eq := by simpa [unhanded, hw] using hi.count_eq
  idle_quiet h := by cases h
  gathered := by simpa [hw] using hi.gathered
  canceled := hi.canceled
  returned r h := by
    cases h
    exact .inl ⟨rfl, hs⟩

theorem Inv.exit (hi : Inv t s) (hw : s.waiter = .looping) (hc : s.count = 0) :
    Inv (t ++ [.returned (gatheredError s.errs)])
      { s with done := true, waiter := .returned (gatheredError s.errs) } where
  ledger := hi.ledger.quiet rfl rfl rfl
  count_eq := by simpa [unhanded, hw] using hi.count_eq
  idle_quiet h := by cases h
  gathered := by simpa [hw] using hi.gathered
  canceled _ := rfl
  returned r h := by
    cases h
    exact .inr ⟨rfl, hc, rfl⟩

/-- Looking at the result held counts it, gathers its entry, and cancels the context when it is a
failure. -/
theorem Inv.handle {n : String} {err : Option Failure} (hi : Inv t s)
    (hw : s.waiter = .holding n err) :
    Inv (t ++ [.handled (fails err)])
      { s with
        errs := s.errs ++ entry n err
        done := s.done || fails err
        count := s.count - 1
        waiter := .looping } where
  ledger := hi.ledger.quiet rfl rfl rfl
  count_eq := by
    have h := hi.count_eq
    simp only [unhanded, hw, Waiter.held_holding, Waiter.held_looping] at h ⊢
    omega
  idle_quiet h := by cases h
  gathered := by simpa [hw] using hi.gathered
  canceled h := by
    by_cases he : s.errs = []
    · have hf : fails err = true := (entry_ne_nil_iff n err).1 (by simpa [he] using h)
      simp [hf]
    · simp [hi.canceled he]
  returned r h := by cases h

theorem Inv.count_of_idle (hi : Inv t s) (hw : s.waiter = .idle) : s.count = s.spawned.length := by
  have hnone : ∀ x ∈ s.spawned, !x.stage.isHanded := by
    intro x hx
    obtain ⟨i, hix⟩ := List.mem_iff_getElem?.1 hx
    have h := hi.ledger.took_iff i
    rw [hi.idle_quiet hw] at h
    simpa [hix] using h
  rw [hi.count_eq, hw, Waiter.held_idle, Nat.add_zero, unhanded, List.countP_eq_length.2 hnone]

theorem Inv.spawn (hi : Inv t s) (hw : s.waiter = .idle) (name : Option String) :
    Inv (t ++ [.spawned name])
      { s with
        spawned := s.spawned ++ [⟨name.getD (toString s.count), .running⟩]
        count := s.count + 1 } where
  ledger := by
    rw [hi.count_of_idle hw]
    exact hi.ledger.spawn (hi.idle_quiet hw) name
  count_eq := by
    have h := hi.count_eq
    simp only [unhanded, List.countP_append] at h ⊢
    simp
    omega
  idle_quiet h := by simpa using hi.idle_quiet hw
  gathered := by simpa using hi.gathered
  canceled := hi.canceled
  returned r h := by rw [hw] at h; cases h

theorem Inv.finish (hi : Inv t s) {i : Nat} {n : String} (hs : s.spawned[i]? = some ⟨n, .running⟩)
    (err : Option Failure) :
    Inv (t ++ [.finished i err]) { s with spawned := s.spawned.set i ⟨n, .sending err⟩ } where
  ledger := hi.ledger.finish hs err
  count_eq := by
    obtain ⟨hlt, heq⟩ := List.getElem?_eq_some_iff.1 hs
    have h := hi.count_eq
    have hpos := unhanded_pos hs rfl
    simp only [unhanded] at h hpos ⊢
    rw [List.countP_set hlt, heq]
    simp
    omega
  idle_quiet h := by simpa using hi.idle_quiet h
  gathered := by simpa using hi.gathered
  canceled := hi.canceled
  returned := hi.returned

theorem Inv.take (hi : Inv t s) (hw : s.waiter = .looping) {i : Nat} {n : String}
    {err : Option Failure} (hs : s.spawned[i]? = some ⟨n, .sending err⟩) :
    Inv (t ++ [.took i n err])
      { s with spawned := s.spawned.set i ⟨n, .handed⟩, waiter := .holding n err } where
  ledger := hi.ledger.take hs
  count_eq := by
    obtain ⟨hlt, heq⟩ := List.getElem?_eq_some_iff.1 hs
    have h := hi.count_eq
    have hpos := unhanded_pos hs rfl
    simp only [unhanded, hw, Waiter.held_looping, Waiter.held_holding] at h hpos ⊢
    rw [List.countP_set hlt, heq]
    simp
    omega
  idle_quiet h := by cases h
  gathered := by
    have h := hi.gathered
    rw [hw, Waiter.owed_looping, List.append_nil] at h
    simp [h]
  canceled := hi.canceled
  returned r h := by cases h

theorem Inv.step (hi : Inv t s) (hm : Moves s s' e) : Inv (t ++ [e]) s' := by
  cases hm with
  | spawn name hw => exact hi.spawn hw name
  | finish err hs => exact hi.finish hs err
  | wait hw => exact hi.wait hw
  | take hw _ hs => exact hi.take hw hs
  | handle hw => exact hi.handle hw
  | exit hw hc => exact hi.exit hw hc
  | force hw _ hs => exact hi.force hw hs
  | stop => exact hi.stop
  | signal => exact hi.signal

end Keeps

theorem Run.inv {t : List Event} (h : Run {} t s) : Inv t s := by
  induction h with
  | nil => exact inv_start
  | step a _ hstep ih => exact ih.step (step_moves hstep)

/-! ## What the wait returns -/

/-- The text a result adds to the gathered errors: `name: error` for a failure, none otherwise. -/
def failureText (name : String) (err : Option Failure) : Option String :=
  if fails err then err.map fun e => name ++ ": " ++ e.text else none

theorem any_entry (id : Nat) (n : String) (err : Option Failure) :
    (entry n err).any (Failure.reaches id) = (fails err && err.any (Failure.reaches id)) := by
  cases err with
  | none => rfl
  | some e => by_cases h : Failure.reaches canceledId e <;> simp [entry, fails, h, Failure.reaches]

theorem map_text_entry (n : String) (err : Option Failure) :
    (entry n err).map Failure.text = (failureText n err).toList := by
  cases err with
  | none => rfl
  | some e =>
    by_cases h : Failure.reaches canceledId e <;> simp [entry, failureText, fails, h, Failure.text]

theorem map_text_flatMap_entry (l : List (Nat × String × Option Failure)) :
    (l.flatMap fun x => entry x.2.1 x.2.2).map Failure.text =
      l.filterMap fun x => failureText x.2.1 x.2.2 := by
  induction l with
  | nil => rfl
  | cons x l ih =>
    rw [List.flatMap_cons, List.map_append, ih, List.filterMap_cons, map_text_entry]
    cases failureText x.2.1 x.2.2 <;> rfl

theorem gatheredError_eq_none_iff (errs : List Failure) : gatheredError errs = none ↔ errs = [] := by
  unfold gatheredError
  cases errs <;> simp

theorem any_gatheredError (id : Nat) (errs : List Failure) :
    (gatheredError errs).any (Failure.reaches id) = errs.any (Failure.reaches id) := by
  unfold gatheredError
  cases errs with
  | nil => rfl
  | cons e es => simp [Failure.reaches, Failure.reachesAny_eq]

/-- The gathered error reads, through the error list, as the texts of the failures added to an
empty list, the other results adding nothing. -/
theorem map_text_gatheredError (l : List (Nat × String × Option Failure)) :
    (gatheredError (l.flatMap fun x => entry x.2.1 x.2.2)).map Failure.text =
      ((ErrorList.addAll {} (l.map fun x => failureText x.2.1 x.2.2)).aggregate).map
        ErrorList.message := by
  have herrs : (ErrorList.addAll {} (l.map fun x => failureText x.2.1 x.2.2)).errors =
      (l.flatMap fun x => entry x.2.1 x.2.2).map Failure.text := by
    rw [ErrorList.addAll_errors, List.filterMap_map, map_text_flatMap_entry]
    rfl
  unfold gatheredError ErrorList.aggregate
  rw [herrs, List.isEmpty_map]
  split
  · rfl
  · simp only [Option.map_some, Failure.text, ErrorList.message, herrs]

section Returns

variable {t : List Event}

theorem Waiter.owed_of_held {w : Waiter} (h : w.held = 0) : w.owed = [] := by
  cases w <;> simp_all

theorem Inv.errs_eq (hi : Inv t s) (h0 : s.waiter.held = 0) :
    s.errs = (took t).flatMap fun x => entry x.2.1 x.2.2 := by
  have h := hi.gathered
  rwa [Waiter.owed_of_held h0, List.append_nil] at h

theorem Inv.done_of_fails (hi : Inv t s) (h0 : s.waiter.held = 0) {x : Nat × String × Option Failure}
    (hx : x ∈ took t) (hf : fails x.2.2 = true) : s.done = true := by
  apply hi.canceled
  rw [hi.errs_eq h0, Ne, List.flatMap_eq_nil_iff]
  exact fun hall => (entry_ne_nil_iff x.2.1 x.2.2).2 hf (hall x hx)

/-- With nothing left to take and nothing held, every started task was handed over, and the
results taken are one per started task. -/
theorem Inv.took_perm (hi : Inv t s) (hc : s.count = 0) (h0 : s.waiter.held = 0) :
    ((took t).map (·.1)).Perm (List.range (spawns t).length) := by
  have hlen : s.spawned.length = (spawns t).length := by
    rw [← length_spawnNames, ← hi.ledger.names, List.length_map]
  have hall : ∀ x ∈ s.spawned, x.stage.isHanded = true := by
    have h := hi.count_eq
    rw [hc, h0, Nat.add_zero, unhanded, eq_comm, List.countP_eq_zero] at h
    intro x hx
    simpa using h x hx
  apply (List.perm_ext_iff_of_nodup hi.ledger.took_nodup List.nodup_range).2
  intro i
  rw [hi.ledger.took_iff, List.mem_range, ← hlen]
  constructor
  · rintro ⟨x, hx, -⟩
    exact (List.getElem?_eq_some_iff.1 hx).1
  · intro hlt
    exact ⟨_, List.getElem?_eq_getElem hlt, hall _ (List.getElem_mem hlt)⟩

end Returns

/-- What a wait that returned `r` guarantees after the events `t`. -/
structure Returned (t : List Event) (s : Runner) (r : Option Failure) : Prop where
  /-- One result was taken from each started task, and none twice. -/
  took_once : ((took t).map (·.1)).Perm (List.range (spawns t).length)
  /-- Each run returned once. -/
  finish_once : ((finishes t).map (·.1)).Nodup
  /-- Each result taken is the one its task's run returned, under the task's name: its own, or
  its place in the start order. -/
  took_spec : ∀ x ∈ took t, (spawnNames t)[x.1]? = some x.2.1 ∧ (x.1, x.2.2) ∈ finishes t
  /-- The wait returns the failures among the results, in the order they were taken, each wrapped
  under its task's name, gathered into one error. -/
  result : r = gatheredError ((took t).flatMap fun x => entry x.2.1 x.2.2)
  /-- It returns no error exactly when no result is a failure. -/
  none_iff : r = none ↔ ∀ x ∈ took t, fails x.2.2 = false
  /-- What it returns reaches exactly what the failures reach. -/
  reaches_iff : ∀ id, r.any (Failure.reaches id) = true ↔
    ∃ x ∈ took t, fails x.2.2 = true ∧ x.2.2.any (Failure.reaches id) = true
  /-- Its text is that of the error list the failures' texts are added to. -/
  text : r.map Failure.text =
    ((ErrorList.addAll {} ((took t).map fun x => failureText x.2.1 x.2.2)).aggregate).map
      ErrorList.message
  /-- The context is done. -/
  done : s.done = true

/-- What holds after the events `t` of every run from a new runner. -/
structure Gathers (t : List Event) (s : Runner) : Prop where
  /-- A failure taken has cancelled the context once the wait has looked at it. -/
  canceled : ∀ x ∈ took t, fails x.2.2 = true → s.waiter.held = 0 → s.done = true
  /-- A wait that returned without a second stop signal returned what the results say. -/
  returned : ∀ r, s.waiter = .returned r → s.signals ≤ 1 → Returned t s r

/-- Along every interleaving of the tasks' returns with the wait, stop requests and stop signals:
the wait cancels the context as soon as it has looked at a failure; and a wait that returned, with
one stop signal at most, took exactly one result per started task, the one its run returned,
under the task's own name or its place in the start order, and cancelled the context. It returns
no error exactly when every result is none or reaches the cancellation, and otherwise one error
gathering `name: error` for exactly the other results, in the order they were taken, which reaches
exactly what they reach and prints as their error list. -/
theorem wait_gathers_every_result {t : List Event} (h : Run {} t s) : Gathers t s := by
  have hi := h.inv
  refine ⟨fun x hx hf h0 => hi.done_of_fails h0 hx hf, fun r hr hsig => ?_⟩
  have h0 : s.waiter.held = 0 := by rw [hr]; rfl
  obtain ⟨hres, hc, hdone⟩ : r = gatheredError s.errs ∧ s.count = 0 ∧ s.done = true := by
    rcases hi.returned r hr with ⟨-, hs⟩ | hret
    · omega
    · exact hret
  rw [hi.errs_eq h0] at hres
  refine ⟨hi.took_perm hc h0, hi.ledger.finish_nodup, hi.ledger.took_spec, hres, ?_, ?_, ?_, hdone⟩
  · rw [hres, gatheredError_eq_none_iff, List.flatMap_eq_nil_iff]
    refine forall₂_congr fun x _ => ?_
    rw [← Bool.not_eq_true, ← entry_ne_nil_iff, Classical.not_not]
  · intro id
    rw [hres, any_gatheredError, List.any_flatMap, List.any_eq_true]
    simp only [any_entry, Bool.and_eq_true]
  · rw [hres, map_text_gatheredError]

/-- A task named `device` that fails, and an unnamed one that returns the cancellation the
failure caused: the wait takes both results and returns the one failure, under the name. -/
theorem wait_keeps_failure_drops_cancellation :
    Run {}
      [.spawned (some "device"), .spawned none, .waiting,
        .finished 0 (some (.plain 7 "lost")), .took 0 "device" (some (.plain 7 "lost")),
        .handled true, .finished 1 (some (.plain canceledId "context canceled")),
        .took 1 "1" (some (.plain canceledId "context canceled")), .handled false,
        .returned (some (.gathered [.wrapped "device: " (.plain 7 "lost")]))]
      { spawned := [⟨"device", .handed⟩, ⟨"1", .handed⟩]
        done := true
        errs := [.wrapped "device: " (.plain 7 "lost")]
        waiter := .returned (some (.gathered [.wrapped "device: " (.plain 7 "lost")])) } ∧
    Gathers
      [.spawned (some "device"), .spawned none, .waiting,
        .finished 0 (some (.plain 7 "lost")), .took 0 "device" (some (.plain 7 "lost")),
        .handled true, .finished 1 (some (.plain canceledId "context canceled")),
        .took 1 "1" (some (.plain canceledId "context canceled")), .handled false,
        .returned (some (.gathered [.wrapped "device: " (.plain 7 "lost")]))]
      { spawned := [⟨"device", .handed⟩, ⟨"1", .handed⟩]
        done := true
        errs := [.wrapped "device: " (.plain 7 "lost")]
        waiter := .returned (some (.gathered [.wrapped "device: " (.plain 7 "lost")])) } := by
  have hrun : Run {}
      [.spawned (some "device"), .spawned none, .waiting,
        .finished 0 (some (.plain 7 "lost")), .took 0 "device" (some (.plain 7 "lost")),
        .handled true, .finished 1 (some (.plain canceledId "context canceled")),
        .took 1 "1" (some (.plain canceledId "context canceled")), .handled false,
        .returned (some (.gathered [.wrapped "device: " (.plain 7 "lost")]))]
      { spawned := [⟨"device", .handed⟩, ⟨"1", .handed⟩]
        done := true
        errs := [.wrapped "device: " (.plain 7 "lost")]
        waiter := .returned (some (.gathered [.wrapped "device: " (.plain 7 "lost")])) } :=
    .cons (.spawn (some "device")) rfl <| .cons (.spawn none) rfl <| .cons .wait rfl <|
      .cons (.finish 0 (some (.plain 7 "lost"))) rfl <| .cons (.take 0) rfl <| .cons .handle rfl <|
      .cons (.finish 1 (some (.plain canceledId "context canceled"))) rfl <| .cons (.take 1) rfl <|
      .cons .handle rfl <| .cons .exit rfl .nil
  exact ⟨hrun, wait_gathers_every_result hrun⟩

end Runner

end LcdPanel.Task
