import LcdPanel.Session.State

/-!
Writing through partial Writes: the driver gives its port what is left of the bytes until nothing
is, and the port may take any part of what it is given each time.
-/

namespace LcdPanel.Session

open LcdPanel.Link Host

variable {σ : Type}

/-! ### The bytes taken -/

def taken (calls : List (List UInt8 × WriteAnswer)) : List UInt8 :=
  (piecesTaken calls).flatten

@[simp] theorem taken_nil : taken [] = [] := rfl

@[simp] theorem taken_took (a : List UInt8) (n : Nat) (calls : List (List UInt8 × WriteAnswer)) :
    taken ((a, .took n) :: calls) = a.take n ++ taken calls := rfl

@[simp] theorem taken_failed (a text : List UInt8) (calls : List (List UInt8 × WriteAnswer)) :
    taken ((a, .failed text) :: calls) = taken calls := rfl

theorem taken_of_stop {a : List UInt8} {ans : WriteAnswer} {c : Cause} (hc : ans.stop = some c)
    (calls : List (List UInt8 × WriteAnswer)) : taken ((a, ans) :: calls) = taken calls := by
  cases ans with
  | failed text => rfl
  | took n =>
    cases n with
    | zero => simp
    | succ n => cases hc

/-! ### What a write did -/

/-- What a write of `p` to the port named `name` did, read off its Writes and its outcome. -/
structure WritesOut (name : String) (p : List UInt8) (run : WriteRun σ) : Prop where
  /-- Each Write is given what the Writes before it left of `p`, and that is never empty. -/
  given : ∀ before a ans after, run.calls = before ++ (a, ans) :: after →
    taken before ++ a = p ∧ a ≠ []
  /-- The bytes taken start `p`. -/
  starts : taken run.calls <+: p
  /-- The write succeeds exactly when the port took all of `p`. -/
  ok_iff : run.outcome = .ok () ↔ taken run.calls = p
  /-- At most one Write per byte. -/
  calls_le : run.calls.length ≤ p.length
  /-- A Write that failed or took nothing is the last, and the write fails with its cause. -/
  stops : ∀ before a ans after c, run.calls = before ++ (a, ans) :: after → ans.stop = some c →
    after = [] ∧ run.outcome = .error (serialFailure "write" name c)

namespace WritesOut

variable {name : String}

theorem nil (s : σ) : WritesOut name [] (⟨[], .ok (), s⟩ : WriteRun σ) where
  given _ _ _ _ h := by simp at h
  starts := List.nil_prefix
  ok_iff := by simp
  calls_le := Nat.le_refl 0
  stops _ _ _ _ _ h := by simp at h

/-- One Write that failed or took nothing, and the write fails with its cause. -/
theorem stop {p : List UInt8} {ans : WriteAnswer} {c : Cause} (s' : σ) (hp : p ≠ [])
    (hc : ans.stop = some c) :
    WritesOut name p (⟨[(p, ans)], .error (serialFailure "write" name c), s'⟩ : WriteRun σ) where
  given before a ans' after h := by
    -- a single Write has none before it
    rcases List.cons_eq_append_iff.1 h with ⟨rfl, hx⟩ | ⟨before', -, hnil⟩
    · obtain ⟨hx, -⟩ := List.cons_eq_cons.1 hx
      cases hx
      exact ⟨rfl, hp⟩
    · simp at hnil
  starts := by simp [taken_of_stop hc]
  ok_iff := by
    simp only [taken_of_stop hc, taken_nil, reduceCtorEq, false_iff]
    exact hp.symm
  calls_le := List.length_pos_iff.2 hp
  stops before a ans' after c' h hc' := by
    rcases List.cons_eq_append_iff.1 h with ⟨rfl, hx⟩ | ⟨before', -, hnil⟩
    · obtain ⟨hx, rfl⟩ := List.cons_eq_cons.1 hx
      cases hx
      rw [hc] at hc'
      cases hc'
      exact ⟨rfl, rfl⟩
    · simp at hnil

/-- A Write that took `n + 1` bytes of `p`, then a write of the rest. -/
theorem took {p : List UInt8} {n : Nat} {run : WriteRun σ} (hp : p ≠ [])
    (h : WritesOut name (p.drop (n + 1)) run) :
    WritesOut name p { run with calls := (p, .took (n + 1)) :: run.calls } where
  given before a ans after hs := by
    rcases List.cons_eq_append_iff.1 hs with ⟨rfl, hx⟩ | ⟨before', rfl, hs'⟩
    · obtain ⟨hx, -⟩ := List.cons_eq_cons.1 hx
      cases hx
      exact ⟨rfl, hp⟩
    · obtain ⟨hg, hne⟩ := h.given before' a ans after hs'
      refine ⟨?_, hne⟩
      rw [taken_took, List.append_assoc, hg, List.take_append_drop]
  starts := by
    have hpre := (List.prefix_append_right_inj (p.take (n + 1))).2 h.starts
    rwa [List.take_append_drop, ← taken_took] at hpre
  ok_iff := by
    show run.outcome = .ok () ↔ p.take (n + 1) ++ taken run.calls = p
    rw [h.ok_iff]
    constructor
    · intro he
      rw [he, List.take_append_drop]
    · intro he
      exact List.append_cancel_left (he.trans (List.take_append_drop (n + 1) p).symm)
  calls_le := by
    have hle := h.calls_le
    have hpos := List.length_pos_iff.2 hp
    simp only [List.length_drop] at hle
    simp only [List.length_cons]
    omega
  stops before a ans after c hs hc := by
    rcases List.cons_eq_append_iff.1 hs with ⟨rfl, hx⟩ | ⟨before', rfl, hs'⟩
    · -- the first Write took bytes, so it did not end the write
      obtain ⟨hx, -⟩ := List.cons_eq_cons.1 hx
      cases hx
      cases hc
    · exact h.stops before' a ans after c hs' hc

end WritesOut

/-- Whatever the port answers, writing `p` through it does what `WritesOut` says. -/
theorem writesOut_writeAll (w : WritePort σ) (name : String) (s : σ) (p : List UInt8) :
    WritesOut name p (w.writeAll name s p) := by
  fun_induction WritePort.writeAll w name s p with
  | case1 s => exact .nil s
  | case2 s b bs text s' => exact .stop s' (List.cons_ne_nil b bs) rfl
  | case3 s b bs s' => exact .stop s' (List.cons_ne_nil b bs) rfl
  | case4 s b bs n s' _ rest ih => exact .took (List.cons_ne_nil b bs) ih

/-- The driver's Write of `p`, whatever its port does. With an open port every Write is given the
bytes the Writes before it left, never none, and at most one Write is made per byte; the write
succeeds exactly when the pieces taken make up `p`; and a Write that fails or takes nothing is the
last, after which the write fails with the port's error or a short write, only a prefix of `p`
taken. With no open port it fails as not connected, and nothing is written. -/
theorem write_covers_bytes_or_stops (w : WritePort σ) (name : String) (s : σ) (p : List UInt8) :
    WritesOut name p (driverWrite (some w) name s p) ∧
      driverWrite (none : Option (WritePort σ)) name s p =
        ⟨[], .error (serialFailure "write" name .notConnected), s⟩ :=
  ⟨writesOut_writeAll w name s p, rfl⟩

-- the simulated port, taking at most three bytes a Write, writes a frame of four in two pieces
example : piecesTaken (driverWrite (some (simulatedPort { writeLimit := some 3 })) "ttyS9" ()
    [0x00, 0x00, 0x47, 0x0f]).calls = [[0x00, 0x00, 0x47], [0x0f]] := by
  decide +kernel

end LcdPanel.Session
