import LcdPanel.Proofs.Task.Gathering
import Mathlib.Data.List.Induction

/-! The sequential `run` is one schedule of the runner among goroutines. -/

namespace LcdPanel.Task

/-- The result a task's run returns to the runner, the task's own errors having identity `id`. -/
def Act.result (id : Nat) (a : Act) : Option Failure :=
  match a.ending with
  | some (.failed text) => some (.plain id text)
  | some .canceled => some (.plain canceledId canceledText)
  | _ => none

/-- What a task of kind `a` may return to the runner: nothing on success, the cancellation after
waiting, its own error on failure; a task that hangs never returns. -/
def Act.Returns (a : Act) (err : Option Failure) : Prop :=
  match a.ending with
  | none => False
  | some .success => err = none
  | some .canceled => err = some (.plain canceledId canceledText)
  | some (.failed text) => ∃ id, id ≠ canceledId ∧ err = some (.plain id text)

theorem returns_result (a : Act) (id : Nat) (ha : a ≠ .hang) (hid : id ≠ canceledId) :
    a.Returns (a.result id) := by
  cases a with
  | ok => rfl
  | fail text => exact ⟨id, hid, rfl⟩
  | wait => rfl
  | waitError text =>
    by_cases ht : text.isEmpty
    · simp [Act.Returns, Act.result, Act.ending, ht]
    · simp only [Act.Returns, Act.result, Act.ending, ht]
      exact ⟨id, hid, rfl⟩
  | hang => exact absurd rfl ha

def endingTexts (name : String) : Option Ending → List String
  | some (.failed text) => [name ++ ": " ++ text]
  | _ => []

/-- A wait of the runner that ended as `w` says, with the context done exactly when `w`'s is. -/
def Ends (w : Waited) (s : Runner) : Prop :=
  (w.context = some canceledText ↔ s.done = true) ∧
    match w.result with
    | .forcedExit => s.waiter = .returned (some forcedExit)
    | .finished none => s.waiter = .returned none
    | .finished (some e) =>
      ∃ errs, s.waiter = .returned (some (.gathered errs)) ∧ errs.map Failure.text = e.errors

theorem entry_result_texts (name : String) (id : Nat) (a : Act) (hid : id ≠ canceledId) :
    (entry name (a.result id)).map Failure.text = endingTexts name a.ending := by
  cases a with
  | ok => rfl
  | fail text =>
    simp [Act.result, Act.ending, entry, Failure.reaches, hid, Failure.text, endingTexts]
  | wait => simp [Act.result, Act.ending, entry, Failure.reaches, endingTexts]
  | waitError text =>
    by_cases ht : text.isEmpty
    · simp [Act.result, Act.ending, ht, entry, endingTexts]
    · simp [Act.result, Act.ending, ht, entry, Failure.reaches, hid, Failure.text, endingTexts]
  | hang => rfl

theorem named_append_singleton (jobs : List Job) (j : Job) :
    named (jobs ++ [j]) = named jobs ++ [(j.name.getD (toString jobs.length), j.act)] := by
  simp only [named, List.length_append, List.length_singleton, List.range_succ]
  rw [List.zip_append (by simp)]
  simp

theorem length_named (jobs : List Job) : (named jobs).length = jobs.length := by
  simp [named]

theorem getElem?_named (jobs : List Job) (i : Nat) :
    (named jobs)[i]? = jobs[i]?.map fun j => (j.name.getD (toString i), j.act) := by
  by_cases hi : i < jobs.length
  · simp [named, List.zip_eq_zipWith, hi]
  · have hi' : jobs.length ≤ i := Nat.le_of_not_lt hi
    have hn : (named jobs).length ≤ i := by rw [length_named]; exact hi'
    rw [List.getElem?_eq_none hn, List.getElem?_eq_none hi', Option.map_none]

theorem gather_errors (finished : List (String × Ending)) :
    (gather finished).errors = finished.flatMap fun p => endingTexts p.1 (some p.2) := by
  -- `gather` is a left fold: each failure's text goes after those of the tasks before it
  induction finished using List.reverseRecOn with
  | nil => rfl
  | append_singleton rest p ih =>
    unfold gather at ih ⊢
    rw [List.foldl_append, List.foldl_cons, List.foldl_nil, List.flatMap_append]
    obtain ⟨name, ending⟩ := p
    cases ending <;> simp [ih, endingTexts]

theorem flatMap_endingTexts (tasks : List (String × Act)) :
    ((tasks.filterMap fun p => p.2.ending.map (p.1, ·)).flatMap
      fun p => endingTexts p.1 (some p.2)) = tasks.flatMap fun p => endingTexts p.1 p.2.ending := by
  induction tasks with
  | nil => rfl
  | cons p tasks ih =>
    obtain ⟨name, act⟩ := p
    have hnone : endingTexts name none = [] := rfl
    cases h : act.ending with
    | none => simp [h, ih, hnone]
    | some ending => simp [h, ih]

/-- A wait that returned the gathered failures, with the context done, ends as a finished run
whose errors are their texts. -/
theorem ends_gathered {s : Runner} {errs : List Failure} (e : ErrorList) (hs : s.done = true)
    (hret : s.waiter = .returned (gatheredError errs)) (he : errs.map Failure.text = e.errors) :
    Ends ⟨.finished e.aggregate, some canceledText⟩ s := by
  refine ⟨by simp [hs], ?_⟩
  cases errs with
  | nil => simp [ErrorList.aggregate, ← he, hret, gatheredError]
  | cons f fs => simp [ErrorList.aggregate, ← he, hret, gatheredError]

/-! ### The phases of the schedule -/

def startedAs (p : String × Act) : Spawned := ⟨p.1, .running⟩

/-- Starting the jobs one after another, before the wait, names them as `named` does. -/
theorem run_spawns (jobs : List Job) :
    Runner.Run {} (jobs.map fun j => .spawned j.name)
      ({ spawned := (named jobs).map startedAs, count := jobs.length } : Runner) := by
  induction jobs using List.reverseRecOn with
  | nil => exact .nil
  | append_singleton jobs j ih =>
    let s' : Runner :=
      { spawned := (named (jobs ++ [j])).map startedAs, count := (jobs ++ [j]).length }
    have hstep : Runner.step
        ({ spawned := (named jobs).map startedAs, count := jobs.length } : Runner) (.spawn j.name) =
          some (s', .spawned j.name) := by
      simp [Runner.step, named_append_singleton, startedAs, s']
    rw [List.map_append]
    exact ih.step (.spawn j.name) hstep

/-- Stop signals: the first cancels the context; the count is kept for a forced exit. -/
theorem run_signals (s : Runner) (k : Nat) :
    Runner.Run s (List.replicate k .signaled)
      { s with signals := s.signals + k, done := s.done || decide (0 < k) } := by
  induction k with
  | zero => simpa using Runner.Run.nil
  | succ k ih =>
    have hstep : Runner.step { s with signals := s.signals + k, done := s.done || decide (0 < k) }
        .signal = some
          ({ s with signals := s.signals + (k + 1), done := s.done || decide (0 < k + 1) },
            .signaled) := by
      simp [Runner.step, Nat.add_assoc]
    rw [List.replicate_succ']
    exact ih.step .signal hstep

/-- Task `k`, still running, returns `r`; the wait takes it and looks at it. -/
theorem run_return_take {s : Runner} {k : Nat} {name : String} (r : Option Failure)
    (hk : s.spawned[k]? = some ⟨name, .running⟩) (hw : s.waiter = .looping) (hc : 0 < s.count) :
    Runner.Run s [.finished k r, .took k name r, .handled (fails r)] { s with
      spawned := s.spawned.set k ⟨name, .handed⟩
      errs := s.errs ++ entry name r
      done := s.done || fails r
      count := s.count - 1 } := by
  let s₁ : Runner := { s with spawned := s.spawned.set k ⟨name, .sending r⟩ }
  have h₁ : s.step (.finish k r) = some (s₁, .finished k r) := by
    simp [Runner.step, hk, s₁]
  have hk₁ : s₁.spawned[k]? = some ⟨name, .sending r⟩ :=
    List.getElem?_set_self (List.getElem?_eq_some_iff.1 hk).1
  let s₂ : Runner :=
    { s₁ with spawned := s₁.spawned.set k ⟨name, .handed⟩, waiter := .holding name r }
  have h₂ : s₁.step (.take k) = some (s₂, .took k name r) := by
    simp [Runner.step, s₁, hw, hc, hk₁, s₂]
  have h₃ : s₂.step .handle = some ({ s with
      spawned := s.spawned.set k ⟨name, .handed⟩
      errs := s.errs ++ entry name r
      done := s.done || fails r
      count := s.count - 1 }, .handled (fails r)) := by
    simp [Runner.step, s₂, s₁, hw]
  exact .cons _ h₁ (.cons _ h₂ (.cons _ h₃ .nil))

/-- With the tasks before them handed over and the rest running, the wait lets each remaining
task return its result and takes it, in start order: the results still to come are drained and
each failure's text is gathered. -/
theorem exists_run_drain (rest : List (String × Act)) (handed : List Spawned) (s : Runner)
    (hs : s.spawned = handed ++ rest.map startedAs) (hw : s.waiter = .looping)
    (hc : s.count = rest.length) :
    ∃ t s', Runner.Run s t s' ∧
      (∀ i err, (i, err) ∈ Runner.finishes t →
        handed.length ≤ i ∧ ∃ p, rest[i - handed.length]? = some p ∧ err = p.2.result (i + 2)) ∧
      s'.waiter = .looping ∧ s'.count = 0 ∧
      s'.errs.map Failure.text =
        s.errs.map Failure.text ++ rest.flatMap fun p => endingTexts p.1 p.2.ending := by
  induction rest generalizing handed s with
  | nil => exact ⟨[], s, .nil, by simp [Runner.finishes], hw, hc, by simp⟩
  | cons p rest ih =>
    obtain ⟨name, act⟩ := p
    -- task `k`, the first still running, returns the result its kind gives
    let k := handed.length
    let r := act.result (k + 2)
    have hk : s.spawned[k]? = some ⟨name, .running⟩ := by
      rw [hs, List.getElem?_append_right (Nat.le_refl _)]
      simp [startedAs]
    let s₃ : Runner := { s with
      spawned := s.spawned.set k ⟨name, .handed⟩
      errs := s.errs ++ entry name r
      done := s.done || fails r
      count := s.count - 1 }
    have hfirst : Runner.Run s _ s₃ := run_return_take r hk hw (by simp [hc])
    obtain ⟨t, s', hrun, hfin, hw', hc', herrs⟩ := ih (handed ++ [⟨name, .handed⟩]) s₃
      (by simp [s₃, hs, k, startedAs, List.set_append_right]) hw (by simp [s₃, hc])
    refine ⟨_, s', hfirst.append hrun, ?_, hw', hc', ?_⟩
    · -- the run of task `k` returns first, the later ones as the rest of the drain says
      intro i err hi
      simp only [Runner.finishes, List.filterMap_cons, Runner.Event.finish, List.cons_append,
        List.nil_append, List.mem_cons] at hi
      rcases hi with hi | hi
      · cases hi
        exact ⟨Nat.le_refl _, (name, act), by simp [k], rfl⟩
      · obtain ⟨hle, p, hp, herr⟩ := hfin i err hi
        simp only [List.length_append, List.length_singleton] at hle hp
        refine ⟨by omega, p, ?_, herr⟩
        rw [show i - handed.length = i - (handed.length + 1) + 1 by omega]
        exact hp
    have hentry := entry_result_texts name (k + 2) act (by simp [canceledId])
    rw [herrs]
    simp [s₃, r, hentry]

/-- Every job starts and the stop signals arrive before the wait begins; no run returns
meanwhile. -/
theorem run_until_wait (jobs : List Job) (stops : Nat) :
    ∃ t, Runner.Run {} t
      { spawned := (named jobs).map startedAs, count := jobs.length, signals := stops,
        done := decide (0 < stops), waiter := .looping } ∧
      Runner.finishes t = [] := by
  let s₁ : Runner := { spawned := (named jobs).map startedAs, count := jobs.length }
  have hsig := run_signals s₁ stops
  have hwait : Runner.step { s₁ with signals := stops, done := decide (0 < stops) } .wait =
      some ({ s₁ with signals := stops, done := decide (0 < stops), waiter := .looping },
        .waiting) := rfl
  refine ⟨_, ((run_spawns jobs).append (by simpa [s₁] using hsig)).step .wait hwait, ?_⟩
  simp [Runner.finishes, List.filterMap_map, Function.comp_def]

/-- The sequential run is one schedule of the runner. Every task starts and the stop requests
arrive; with two of them and a task started, the wait takes the forced exit; otherwise, when no
task hangs, each task returns as its kind says, the wait takes the results in start order, and it
returns the failures' texts that `run` gathers. Either way the context is done once it returns. -/
theorem exists_run_of_run (jobs : List Job) (stops : Nat)
    (hhang : (2 ≤ stops ∧ jobs ≠ []) ∨ ∀ j ∈ jobs, j.act ≠ .hang) :
    ∃ t s, Runner.Run {} t s ∧
      (∀ i err, (i, err) ∈ Runner.finishes t → ∃ j, jobs[i]? = some j ∧ j.act.Returns err) ∧
      Ends (run jobs stops) s := by
  let s₀ : Runner :=
    { spawned := (named jobs).map startedAs, count := jobs.length, signals := stops,
      done := decide (0 < stops), waiter := .looping }
  obtain ⟨t₀, hto₀, hfin₀⟩ : ∃ t, Runner.Run {} t s₀ ∧ Runner.finishes t = [] :=
    run_until_wait jobs stops
  by_cases hforce : 2 ≤ stops ∧ jobs ≠ []
  · -- the second signal closes the exit channel while results are still to come
    have hpos : 0 < s₀.count := List.length_pos_iff.2 hforce.2
    have hstep : s₀.step .force = some ({ s₀ with waiter := .returned (some forcedExit) },
        .returned (some forcedExit)) := by
      simp [Runner.step, s₀, hpos, hforce.1]
    refine ⟨_, _, hto₀.step .force hstep, fun i err hi => ?_, ?_, ?_⟩
    · -- no run returned before the forced exit
      rw [Runner.finishes_snoc, hfin₀] at hi
      simp at hi
    · simp [run, s₀, show 0 < stops by omega]
    · simp [run, hforce]
  · have hhang' : ∀ j ∈ jobs, j.act ≠ .hang := hhang.resolve_left hforce
    obtain ⟨t, s', hrun, hfin, hw', hc', herrs⟩ :=
      exists_run_drain (named jobs) [] s₀ rfl rfl (by simp [s₀, length_named])
    have hexit : s'.step .exit = some
        ({ s' with done := true, waiter := .returned (gatheredError s'.errs) },
          .returned (gatheredError s'.errs)) := by
      simp [Runner.step, hw', hc']
    refine ⟨_, _, (hto₀.append hrun).step .exit hexit, ?_, ?_⟩
    · -- every run that returned is task `i`'s, with the result its kind gives
      intro i err hi
      simp only [Runner.finishes_snoc, Runner.Event.finish, Option.toList_none,
        List.append_nil] at hi
      simp only [Runner.finishes, List.filterMap_append] at hi hfin₀
      rw [hfin₀, List.nil_append] at hi
      obtain ⟨-, p, hp, rfl⟩ := hfin i err hi
      rw [List.length_nil, Nat.sub_zero, getElem?_named, Option.map_eq_some_iff] at hp
      obtain ⟨j, hj, rfl⟩ := hp
      exact ⟨j, hj, returns_result j.act (i + 2) (hhang' j (List.mem_of_getElem? hj))
        (by simp [canceledId])⟩
    · -- the texts taken are those of the failures, in start order, which `gather` collects
      let ended := (named jobs).filterMap fun p => p.2.ending.map (p.1, ·)
      have he : s'.errs.map Failure.text = (gather ended).errors := by
        rw [herrs, gather_errors, flatMap_endingTexts]
        rfl
      have hrun : run jobs stops = ⟨.finished (gather ended).aggregate, some canceledText⟩ := by
        simp [run, hforce, ended]
      rw [hrun]
      exact ends_gathered _ rfl rfl he

end LcdPanel.Task
