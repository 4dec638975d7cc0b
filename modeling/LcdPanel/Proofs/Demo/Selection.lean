import LcdPanel.Demo.Fields
import LcdPanel.Proofs.Text.Encoding

/-!
The field viewer keeps a field of its list selected, scrolled within that field's reach, whatever
keys it is given, and draws each line as the window of its text at the column.
-/

namespace LcdPanel.Link

def KeyAction.press (k : Key) : KeyAction :=
  ⟨match k with
    | .up => 1
    | .down => 2
    | .left => 3
    | .right => 4
    | .enter => 5
    | .cancel => 6⟩

theorem KeyAction.press_key (k : Key) : (press k).key? = some k ∧ (press k).pressed = true := by
  cases k <;> decide

end LcdPanel.Link

namespace LcdPanel.Utf8

theorem length_runes_le (bs : List UInt8) : (runes bs).length ≤ bs.length := by
  induction hn : bs.length using Nat.strongRecOn generalizing bs with
  | _ n ih =>
    rcases bs with _ | ⟨b0, rest⟩
    · simp [runes]
    · have hrest := ih _ (by simp at hn; simp; omega) (rest.drop (front b0 rest).2) rfl
      rw [runes_cons, List.length_cons, ← hn, List.length_cons]
      simp only [List.length_drop] at hrest
      omega

end LcdPanel.Utf8

namespace LcdPanel.Demo

open LcdPanel LcdPanel.Display LcdPanel.Link

/-! ## Lines that scroll -/

/-- What a line shows of a text scrolled to `col`: all of a text that fits; otherwise sixteen
characters from `c = min col (n - 16)`, the last replaced by the more mark unless the text ends
there. -/
def window (text : List Nat) (col : Nat) : List Nat :=
  if text.length ≤ columns then text
  else
    let c := min col (text.length - columns)
    if c = text.length - columns then (text.drop c).take columns
    else (text.drop c).take (columns - 1) ++ [moreMark]

/-- A window holds the whole text or sixteen characters, the width of the screen. -/
theorem length_window (text : List Nat) (col : Nat) :
    (window text col).length = min text.length columns := by
  unfold window
  by_cases hshort : text.length ≤ columns
  · simp [hshort]
  · rw [if_neg hshort]
    have hlong : columns < text.length := Nat.lt_of_not_le hshort
    dsimp only
    split
    · simp [columns] at hlong ⊢
      omega
    · simp [columns] at hlong ⊢
      omega

theorem wrapInt64_of_le {n : Int} (hlo : Text.int64Min ≤ n) (hhi : n ≤ Text.int64Max) :
    Text.wrapInt64 n = n := by
  have hmin : Text.int64Min = -9223372036854775808 := rfl
  have hmax : Text.int64Max = 9223372036854775807 := rfl
  unfold Text.wrapInt64
  by_cases hn : 0 ≤ n
  · have hm : n % 18446744073709551616 = n := Int.emod_eq_of_lt hn (by omega)
    simp only [hm]
    exact if_neg (Int.not_lt.2 hhi)
  · -- a negative count is held as itself plus 2^64, which lies above the largest one
    have hm : n % 18446744073709551616 = n + 18446744073709551616 := by omega
    simp only [hm]
    rw [if_pos (by omega)]
    omega

/-- Scrolling a text no longer than a signed 64-bit count to a column from 0 up to that count
shows its window. -/
theorem lineRunes_eq_window {text : List Nat} {col : Int} (h0 : 0 ≤ col)
    (hcol : col ≤ Text.int64Max) (hn : (text.length : Int) ≤ Text.int64Max) :
    lineRunes text col = .ok (window text col.toNat) := by
  unfold lineRunes window
  by_cases hshort : text.length ≤ columns
  · simp [hshort]
  · rw [if_neg hshort, if_neg hshort]
    have hlong : columns < text.length := Nat.lt_of_not_le hshort
    have hwrap : Text.wrapInt64 ((text.length : Int) - col) = text.length - col :=
      wrapInt64_of_le (by simp only [Text.int64Min, Text.int64Max] at hcol ⊢; omega) (by omega)
    simp only [hwrap]
    by_cases hend : (text.length : Int) - col < columns
    · -- past the last window the text's last sixteen characters show
      have hc : min col.toNat (text.length - columns) = text.length - columns := by omega
      have hlen : (text.drop (text.length - columns)).length = columns := by simp; omega
      have hstart : ((text.length : Int) - columns).toNat = text.length - columns := by omega
      simp only [if_pos hend, hc]
      rw [if_neg (by omega), hstart, if_neg (by omega), if_pos trivial,
        List.take_of_length_le (Nat.le_of_eq hlen)]
    · have hc : min col.toNat (text.length - columns) = col.toNat := by omega
      simp only [if_neg hend, hc, if_neg (Int.not_lt.2 h0)]
      by_cases hlast : col.toNat = text.length - columns
      · have hlen : (text.drop col.toNat).length = columns := by simp; omega
        rw [if_pos hlast, if_neg (by omega), List.take_of_length_le (Nat.le_of_eq hlen)]
      · rw [if_neg hlast, if_pos (by simp; omega)]

/-! ## The selection -/

/-- A field as text can hold it: each of its two texts has at most as many bytes as a signed
64-bit count can say. -/
def Field.Fits (f : Field) : Prop :=
  (f.name.length : Int) ≤ Text.int64Max ∧ (f.value.length : Int) ≤ Text.int64Max

instance (f : Field) : Decidable f.Fits := inferInstanceAs (Decidable (_ ∧ _))

namespace MultiField

def selected (m : MultiField) : Option Field := m.fields[m.index.toNat]?

/-- How far a field scrolls: the columns by which its longer text passes the screen, or none. -/
def reach (f : Field) : Int := max 0 (max (width f.name : Int) (width f.value) - columns)

def scrollTo (limit c : Int) : Int := if 0 ≤ c ∧ c ≤ limit then c else 0

/-- A selection the viewer can hold: a field of its list, scrolled to a column within the
field's reach. -/
structure Selects (m : MultiField) : Prop where
  index_nonneg : 0 ≤ m.index
  index_lt : m.index < m.fields.length
  col_nonneg : 0 ≤ m.col
  col_le : ∀ f, m.selected = some f → m.col ≤ reach f

/-- What a key does to a selection of the field `f`, as the keypad's arrows are meant to work:
down and up step the index around the list and go back to column 0, right and left step the
column within the field's reach, and any other key is not taken. -/
def keyed (m : MultiField) (f : Field) (a : KeyAction) : (MultiField × Option Fault) × Bool :=
  if a = .press .down then
    (({ m with index := (m.index + 1) % m.fields.length, col := 0, dirty := true }, none), true)
  else if a = .press .up then
    (({ m with index := (m.index - 1) % m.fields.length, col := 0, dirty := true }, none), true)
  else if a = .press .right then
    (({ m with col := scrollTo (reach f) (m.col + 1), dirty := true }, none), true)
  else if a = .press .left then
    (({ m with col := scrollTo (reach f) (m.col - 1), dirty := true }, none), true)
  else ((m, none), false)

theorem reach_nonneg (f : Field) : 0 ≤ reach f := Int.le_max_left _ _

theorem scrollTo_nonneg (limit c : Int) : 0 ≤ scrollTo limit c := by
  unfold scrollTo
  split <;> omega

theorem scrollTo_le {limit : Int} (h : 0 ≤ limit) (c : Int) : scrollTo limit c ≤ limit := by
  unfold scrollTo
  split <;> omega

/-- An index from one below the list to one past its end, brought back in range, wraps around the
list; the column is then stepped within the reach of the field selected. -/
theorem normalize_eq {m : MultiField} (hne : m.fields ≠ [])
    (hi : -1 ≤ m.index ∧ m.index ≤ m.fields.length) :
    ∃ f, m.fields[(m.index % m.fields.length).toNat]? = some f ∧
      m.normalize = ({ m with index := m.index % m.fields.length, col := scrollTo (reach f) m.col },
        none) := by
  have hpos : 0 < m.fields.length := List.length_pos_iff.2 hne
  -- the two wrapping tests of `normalize` give the remainder of the index
  have hwrap : (if (if m.index ≥ m.fields.length then 0 else m.index) < 0 then
      (m.fields.length : Int) - 1 else if m.index ≥ m.fields.length then 0 else m.index) =
      m.index % m.fields.length := by
    by_cases hend : m.index = m.fields.length
    · rw [hend, Int.emod_self]
      simp
    · have hlt : ¬m.index ≥ m.fields.length := by omega
      simp only [hlt, if_false]
      by_cases hbelow : m.index = -1
      · have hmod : (-1 : Int) % m.fields.length = m.fields.length - 1 := by
          rw [show (-1 : Int) = (m.fields.length - 1) + (-1) * m.fields.length by omega,
            Int.add_mul_emod_self_right, Int.emod_eq_of_lt (by omega) (by omega)]
        rw [if_pos (by omega), hbelow, hmod]
      · rw [if_neg (by omega), Int.emod_eq_of_lt (by omega) (by omega)]
  have hin : (m.index % m.fields.length).toNat < m.fields.length := by omega
  refine ⟨m.fields[(m.index % m.fields.length).toNat], List.getElem?_eq_getElem hin, ?_⟩
  have hnn : ¬m.index % m.fields.length < 0 := Int.not_lt.2 (Int.emod_nonneg _ (by omega))
  unfold normalize
  simp only [hwrap, if_neg hnn, List.getElem?_eq_getElem hin]
  generalize m.fields[(m.index % m.fields.length).toNat] = f
  -- the column test of `normalize` keeps exactly the columns that `scrollTo` keeps
  unfold scrollTo reach
  by_cases hkeep : 0 ≤ m.col ∧ m.col ≤ max 0 (max (width f.name : Int) (width f.value) - columns)
  · rw [if_pos hkeep]
    split
    · -- a field that fits the screen scrolls nowhere, and the column kept is 0
      have hzero : m.col = 0 := by omega
      rw [hzero]
    · rfl
  · rw [if_pos (by omega), if_neg hkeep]

theorem scrollTo_zero {limit : Int} (h : 0 ≤ limit) : scrollTo limit 0 = 0 := by
  simp [scrollTo, h]

theorem normalize_of_selected {m : MultiField} (hi : 0 ≤ m.index ∧ m.index < m.fields.length)
    {f : Field} (hf : m.selected = some f) :
    m.normalize = ({ m with col := scrollTo (reach f) m.col }, none) := by
  have hne : m.fields ≠ [] := List.ne_nil_of_length_pos (by omega)
  have hmod : m.index % m.fields.length = m.index := Int.emod_eq_of_lt hi.1 hi.2
  obtain ⟨g, hg, hnorm⟩ := normalize_eq (m := m) hne ⟨by omega, by omega⟩
  rw [hmod] at hg hnorm
  have hfg : f = g := Option.some.inj (hf.symm.trans hg)
  rw [hnorm, hfg]

/-- After a step of the index by one, with the column at 0, bringing the selection back in range
wraps the index around the list. -/
theorem normalize_of_step {m : MultiField} (hne : m.fields ≠ [])
    (hi : -1 ≤ m.index ∧ m.index ≤ m.fields.length) (hcol : m.col = 0) :
    m.normalize = ({ m with index := m.index % m.fields.length }, none) := by
  obtain ⟨g, -, hnorm⟩ := normalize_eq hne hi
  rw [hnorm, hcol, scrollTo_zero (reach_nonneg g)]

theorem Selects.fields_ne_nil {m : MultiField} (hm : m.Selects) : m.fields ≠ [] := by
  have hlt := hm.index_lt
  have h0 := hm.index_nonneg
  exact List.ne_nil_of_length_pos (by omega)

variable {m : MultiField}

theorem Selects.normalize_index (hm : m.Selects) (i : Int) (hi : m.index - 1 ≤ i ∧ i ≤ m.index + 1) :
    normalize { m with index := i, col := 0 } =
      ({ m with index := i % m.fields.length, col := 0 }, none) := by
  have h0 := hm.index_nonneg
  have hlt := hm.index_lt
  exact normalize_of_step (m := { m with index := i, col := 0 }) hm.fields_ne_nil
    ⟨by simp only; omega, by simp only; omega⟩ rfl

theorem Selects.normalize_col (hm : m.Selects) {f : Field} (hf : m.selected = some f) (c : Int) :
    normalize { m with col := c } = ({ m with col := scrollTo (reach f) c }, none) :=
  normalize_of_selected (m := { m with col := c }) ⟨hm.index_nonneg, hm.index_lt⟩ hf

theorem handleKey_down (hm : m.Selects) :
    m.handleKey (.press .down) =
      (({ m with index := (m.index + 1) % m.fields.length, col := 0, dirty := true }, none), true) := by
  show (({ (normalize _).1 with dirty := true }, (normalize _).2), true) = _
  rw [hm.normalize_index (m.index + 1) ⟨by omega, by omega⟩]

theorem handleKey_up (hm : m.Selects) :
    m.handleKey (.press .up) =
      (({ m with index := (m.index - 1) % m.fields.length, col := 0, dirty := true }, none), true) := by
  show (({ (normalize _).1 with dirty := true }, (normalize _).2), true) = _
  rw [hm.normalize_index (m.index - 1) ⟨by omega, by omega⟩]

theorem handleKey_right (hm : m.Selects) {f : Field} (hf : m.selected = some f) :
    m.handleKey (.press .right) =
      (({ m with col := scrollTo (reach f) (m.col + 1), dirty := true }, none), true) := by
  show (({ (normalize _).1 with dirty := true }, (normalize _).2), true) = _
  rw [hm.normalize_col hf]

theorem handleKey_left (hm : m.Selects) {f : Field} (hf : m.selected = some f) :
    m.handleKey (.press .left) =
      (({ m with col := scrollTo (reach f) (m.col - 1), dirty := true }, none), true) := by
  show (({ (normalize _).1 with dirty := true }, (normalize _).2), true) = _
  rw [hm.normalize_col hf]

theorem handleKey_other {a : KeyAction}
    (ha : a ≠ .press .down ∧ a ≠ .press .up ∧ a ≠ .press .right ∧ a ≠ .press .left) :
    m.handleKey a = ((m, none), false) := by
  obtain ⟨c⟩ := a
  simp only [ne_eq, KeyAction.press, KeyAction.mk.injEq] at ha
  obtain ⟨h2, h1, h4, h3⟩ := ha
  unfold handleKey
  split <;> simp_all

/-- Keys handled one at a time do what the arrows are meant to. -/
theorem handleKey_eq_keyed (hm : m.Selects) {f : Field} (hf : m.selected = some f)
    (a : KeyAction) : m.handleKey a = m.keyed f a := by
  unfold keyed
  by_cases hdown : a = .press .down
  · rw [if_pos hdown, hdown, handleKey_down hm]
  by_cases hup : a = .press .up
  · rw [if_neg hdown, if_pos hup, hup, handleKey_up hm]
  by_cases hright : a = .press .right
  · rw [if_neg hdown, if_neg hup, if_pos hright, hright, handleKey_right hm hf]
  by_cases hleft : a = .press .left
  · rw [if_neg hdown, if_neg hup, if_neg hright, if_pos hleft, hleft, handleKey_left hm hf]
  rw [if_neg hdown, if_neg hup, if_neg hright, if_neg hleft,
    handleKey_other ⟨hdown, hup, hright, hleft⟩]

theorem Selects.selected_some (hm : m.Selects) : ∃ f, m.selected = some f :=
  ⟨_, List.getElem?_eq_getElem (by have := hm.index_lt; have := hm.index_nonneg; omega)⟩

theorem mem_of_selected {f : Field} (hf : m.selected = some f) : f ∈ m.fields :=
  List.mem_of_getElem? hf

/-- A key keeps a selection the viewer can hold, on the same fields, and never faults. -/
theorem Selects.keyed (hm : m.Selects) {f : Field} (hf : m.selected = some f) (a : KeyAction) :
    (m.keyed f a).1.1.Selects ∧ (m.keyed f a).1.1.fields = m.fields ∧ (m.keyed f a).1.2 = none := by
  have hpos : (0 : Int) < m.fields.length := by
    have := hm.index_lt
    have := hm.index_nonneg
    omega
  -- a step of the index lands in range and scrolls to column 0
  have hindex (i : Int) : { m with index := i % m.fields.length, col := 0, dirty := true }.Selects :=
    ⟨Int.emod_nonneg _ (by omega), Int.emod_lt_of_pos _ hpos, Int.le_refl 0,
      fun g _ => reach_nonneg g⟩
  -- a step of the column stays within the reach of the same field
  have hcol (c : Int) : { m with col := scrollTo (reach f) c, dirty := true }.Selects :=
    ⟨hm.index_nonneg, hm.index_lt, scrollTo_nonneg _ _, fun g hg => by
      have hfg : f = g := Option.some.inj (hf.symm.trans hg)
      exact hfg ▸ scrollTo_le (reach_nonneg f) c⟩
  unfold MultiField.keyed
  by_cases hdown : a = .press .down
  · rw [if_pos hdown]
    exact ⟨hindex _, rfl, rfl⟩
  by_cases hup : a = .press .up
  · rw [if_neg hdown, if_pos hup]
    exact ⟨hindex _, rfl, rfl⟩
  by_cases hright : a = .press .right
  · rw [if_neg hdown, if_neg hup, if_pos hright]
    exact ⟨hcol _, rfl, rfl⟩
  by_cases hleft : a = .press .left
  · rw [if_neg hdown, if_neg hup, if_neg hright, if_pos hleft]
    exact ⟨hcol _, rfl, rfl⟩
  rw [if_neg hdown, if_neg hup, if_neg hright, if_neg hleft]
  exact ⟨hm, rfl, rfl⟩

/-- Keys handled in turn never fault and keep a selection the viewer can hold. -/
theorem Selects.handleKeys (hm : m.Selects) (keys : List KeyAction) :
    (m.handleKeys keys).2 = none ∧ (m.handleKeys keys).1.Selects ∧
      (m.handleKeys keys).1.fields = m.fields := by
  induction keys generalizing m with
  | nil => exact ⟨rfl, hm, rfl⟩
  | cons a rest ih =>
    obtain ⟨f, hf⟩ := hm.selected_some
    obtain ⟨hsel, hfields, hfault⟩ := hm.keyed hf a
    have hkey : (m.handleKey a).1 = ((m.keyed f a).1.1, none) := by
      rw [handleKey_eq_keyed hm hf, ← hfault]
    obtain ⟨hnone, hsel', hfields'⟩ := ih hsel
    simp only [MultiField.handleKeys, hkey]
    exact ⟨hnone, hsel', hfields'.trans hfields⟩

end MultiField

/-! ## The control step -/

namespace Drawing

variable {α : Type}

/-- The runs of a drawing: the calls it makes, each with the display's answer, and the value it
ends with. -/
inductive Runs : Drawing α → List (DrawCall × Option String) → α → Prop
  | done (a : α) : Runs (.done a) [] a
  | draw {c : DrawCall} {next : Option String → Drawing α} {steps : List (DrawCall × Option String)}
      {a : α} (r : Option String) : Runs (next r) steps a → Runs (.draw c next) ((c, r) :: steps) a

theorem runs_done_iff {a₀ a : α} {steps : List (DrawCall × Option String)} :
    (Drawing.done a₀).Runs steps a ↔ steps = [] ∧ a = a₀ := by
  constructor
  · rintro ⟨⟩
    exact ⟨rfl, rfl⟩
  · rintro ⟨rfl, rfl⟩
    exact .done _

theorem runs_draw_iff {c : DrawCall} {next : Option String → Drawing α}
    {steps : List (DrawCall × Option String)} {a : α} :
    (Drawing.draw c next).Runs steps a ↔ ∃ r rest, steps = (c, r) :: rest ∧ (next r).Runs rest a := by
  constructor
  · rintro ⟨⟩
    rename_i rest r h
    exact ⟨r, rest, rfl, h⟩
  · rintro ⟨r, rest, rfl, h⟩
    exact .draw r h

end Drawing

def shown (text : List UInt8) (col : Int) : String :=
  Utf8.stringOfRunes (window (Utf8.runes text) col.toNat)

theorem lineText_eq_shown {text : List UInt8} {col : Int} (h0 : 0 ≤ col)
    (hcol : col ≤ Text.int64Max) (hn : (text.length : Int) ≤ Text.int64Max) :
    lineText text col = .ok (shown text col) := by
  have hrunes : ((Utf8.runes text).length : Int) ≤ Text.int64Max := by
    have := Utf8.length_runes_le text
    omega
  rw [lineText, lineRunes_eq_window h0 hcol hrunes]
  rfl

namespace MultiField

variable {m : MultiField}

theorem reach_le {f : Field} (hf : f.Fits) : reach f ≤ Text.int64Max := by
  have hname := Utf8.length_runes_le f.name
  have hvalue := Utf8.length_runes_le f.value
  have hmax : (0 : Int) ≤ Text.int64Max := by decide
  unfold reach width
  obtain ⟨h₁, h₂⟩ := hf
  omega

/-- From a selection the viewer can hold, the control step never faults: it handles the keys,
and, when anything changed, draws the selected field as the two lines its column shows. -/
theorem Selects.control (hm : m.Selects) (hfit : ∀ f ∈ m.fields, f.Fits) (keys : List KeyAction)
    {steps : List (DrawCall × Option String)} {m' : MultiField} {h : Option Halt}
    (hrun : (m.control keys).Runs steps (m', h)) :
    m'.Selects ∧ m'.fields = m.fields ∧ (∀ e, h ≠ some (.fault e)) ∧
      ∀ s ∈ steps, ∃ f, m'.selected = some f ∧
        s.1 = .contents (shown f.name m'.col) (shown f.value m'.col) := by
  obtain ⟨hnone, hsel, hfields⟩ := hm.handleKeys keys
  generalize hkeys : (m.handleKeys keys).1 = m₁ at hsel hfields
  obtain ⟨f, hf⟩ := hsel.selected_some
  have hfit₁ : f.Fits := hfit f (hfields ▸ mem_of_selected hf)
  have hcol : m₁.col ≤ Text.int64Max :=
    Int.le_trans (hsel.col_le f hf) (reach_le hfit₁)
  have hname := lineText_eq_shown hsel.col_nonneg hcol hfit₁.1
  have hvalue := lineText_eq_shown hsel.col_nonneg hcol hfit₁.2
  have hhandled : m.handleKeys keys = (m₁, none) := by
    rw [← hkeys, ← hnone]
  unfold MultiField.control at hrun
  rw [if_neg hm.fields_ne_nil, hhandled] at hrun
  have hf' : m₁.fields[m₁.index.toNat]? = some f := hf
  dsimp only at hrun
  rw [hf'] at hrun
  dsimp only at hrun
  rw [hname, hvalue] at hrun
  dsimp only at hrun
  by_cases hd : m₁.dirty = true
  · -- the selection changed: one call draws it, whatever the display answers
    rw [if_neg (by simp [hd])] at hrun
    obtain ⟨r, rest, rfl, hnext⟩ := Drawing.runs_draw_iff.1 hrun
    have hdrawn : ∀ s ∈ [(DrawCall.contents (shown f.name m₁.col) (shown f.value m₁.col), r)],
        s.1 = .contents (shown f.name m₁.col) (shown f.value m₁.col) := by
      simp
    -- whatever the display answers, the selection stays, and a failure is the display's own
    cases r with
    | some e =>
      obtain ⟨rfl, hend⟩ := Drawing.runs_done_iff.1 hnext
      cases hend
      exact ⟨hsel, hfields, by simp, fun s hs => ⟨f, hf, hdrawn s hs⟩⟩
    | none =>
      obtain ⟨rfl, hend⟩ := Drawing.runs_done_iff.1 hnext
      cases hend
      exact ⟨⟨hsel.1, hsel.2, hsel.3, hsel.4⟩, hfields, by simp, fun s hs => ⟨f, hf, hdrawn s hs⟩⟩
  · rw [if_pos (by simp [hd])] at hrun
    obtain ⟨rfl, hend⟩ := Drawing.runs_done_iff.1 hrun
    cases hend
    exact ⟨hsel, hfields, by simp, by simp⟩

/-- The states of the viewer of `fields` from its start, whatever keys it is given, one at a time
or through its control step, and whatever the display answers. -/
inductive Reaches (fields : List Field) : MultiField → Prop
  | start : Reaches fields { fields := fields }
  | key {m : MultiField} (a : KeyAction) : Reaches fields m → Reaches fields (m.handleKey a).1.1
  | control {m m' : MultiField} {keys : List KeyAction} {steps : List (DrawCall × Option String)}
      {h : Option Halt} : Reaches fields m → (m.control keys).Runs steps (m', h) → Reaches fields m'

/-- Every state the viewer reaches holds a selection on its own fields. -/
theorem Reaches.selects {fields : List Field} (hne : fields ≠ []) (hfit : ∀ f ∈ fields, f.Fits)
    (hm : Reaches fields m) : m.fields = fields ∧ m.Selects := by
  induction hm with
  | start =>
    have hpos : 0 < fields.length := List.length_pos_iff.2 hne
    exact ⟨rfl, ⟨Int.le_refl 0, by simp only; omega, Int.le_refl 0, fun f _ => reach_nonneg f⟩⟩
  | key a _ ih =>
    obtain ⟨hfields, hsel⟩ := ih
    obtain ⟨f, hf⟩ := hsel.selected_some
    obtain ⟨hsel', hfields', -⟩ := hsel.keyed hf a
    rw [handleKey_eq_keyed hsel hf]
    exact ⟨hfields'.trans hfields, hsel'⟩
  | control _ hrun ih =>
    obtain ⟨hfields, hsel⟩ := ih
    obtain ⟨hsel', hfields', -⟩ := hsel.control (hfields ▸ hfit) _ hrun
    exact ⟨hfields'.trans hfields, hsel'⟩

end MultiField

open MultiField in
/-- Whatever keys the field viewer is given, one at a time or through its control step, it selects
a field of its list and a column from 0 to the reach of that field's longer text; down and up step
the index around the list and go back to column 0, right and left step the column, back to 0 when it
would leave that range, and any other key changes nothing and is not taken. So the control step
never goes out of bounds, and each call it makes draws the selected field as the windows of its
two texts at the column, each the whole text or exactly sixteen characters. -/
theorem viewer_selection_in_bounds {fields : List Field} (hne : fields ≠ [])
    (hfit : ∀ f ∈ fields, f.Fits) {m : MultiField} (hm : Reaches fields m) :
    m.fields = fields ∧ m.Selects ∧
    (∀ f, m.selected = some f → ∀ a, m.handleKey a = m.keyed f a) ∧
    (∀ keys steps m' h, (m.control keys).Runs steps (m', h) →
      (∀ e, h ≠ some (.fault e)) ∧
      ∀ s ∈ steps, ∃ f, m'.selected = some f ∧
        s.1 = .contents (shown f.name m'.col) (shown f.value m'.col)) ∧
    ∀ text col, (window text col).length = min text.length columns := by
  obtain ⟨hfields, hsel⟩ := hm.selects hne hfit
  refine ⟨hfields, hsel, fun f hf => handleKey_eq_keyed hsel hf, fun keys steps m' h hrun => ?_,
    length_window⟩
  obtain ⟨-, -, hfault, hdrawn⟩ := hsel.control (hfields ▸ hfit) keys hrun
  exact ⟨hfault, hdrawn⟩

/-- The default fields after the up arrow, which wraps around to the last field, and two right
arrows, which scroll that field's value of twenty-six characters by two columns: the viewer holds
that selection. -/
theorem scrolling_field_selects :
    defaultFields ≠ [] ∧ (∀ f ∈ defaultFields, f.Fits) ∧
      let m := (((({ fields := defaultFields } : MultiField).handleKey (.press .up)).1.1.handleKey
        (.press .right)).1.1.handleKey (.press .right)).1.1
      m.Selects ∧ m.index = 6 ∧ m.col = 2 := by
  have hne : defaultFields ≠ [] := by simp [defaultFields]
  have hfit : ∀ f ∈ defaultFields, f.Fits := by decide +kernel
  have hstart : MultiField.Reaches defaultFields { fields := defaultFields } := .start
  have hreach := ((hstart.key (.press .up)).key (.press .right)).key (.press .right)
  exact ⟨hne, hfit, (viewer_selection_in_bounds hne hfit hreach).2.1, by decide +kernel,
    by decide +kernel⟩

end LcdPanel.Demo
