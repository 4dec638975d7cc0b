import LcdPanel.Remote.Queue
import Mathlib.Data.List.Forall2

/-! Topic filters said level by level (`Selects`), and the matcher that agrees with them. -/

namespace LcdPanel.Remote

open LcdPanel

theorem levels_eq_splitOn (t : Topic) : levels t = t.splitOn 0x2F := by
  induction t with
  | nil => rfl
  | cons b bs ih =>
    obtain ⟨l, ls, hsplit⟩ : ∃ l ls, bs.splitOn 0x2F = l :: ls :=
      List.exists_cons_of_ne_nil (List.splitOnP_ne_nil _ bs)
    rw [levels, ih, hsplit]
    simp only [List.splitOn] at hsplit ⊢
    rw [List.splitOnP_cons_eq_if_modifyHead, hsplit]
    by_cases hb : b = 0x2F <;> simp [hb]

def LevelSelects (f t : List UInt8) : Prop := f = anyLevel ∨ f = t

/-- The filter levels `F` select the topic levels `T`. When the last filter level is `#`, the
levels before it select the first levels of the topic one by one and the `#` takes the rest, even
none; otherwise the filter levels select the topic levels one by one, as many as there are. -/
def Selects (T F : List (List UInt8)) : Prop :=
  (F.getLast? = some restLevels ∧
    ∃ pre rest, T = pre ++ rest ∧ List.Forall₂ LevelSelects F.dropLast pre) ∨
  (F.getLast? ≠ some restLevels ∧ List.Forall₂ LevelSelects F T)

theorem levelSelects_refl (l : List UInt8) : LevelSelects l l := .inr rfl

/-- Levels selected one by one from the front of `t :: T`: the first selects `t`, the others the
front of `T`. -/
theorem exists_prefix_cons {R : List UInt8 → List UInt8 → Prop} {f t : List UInt8}
    {D T : List (List UInt8)} :
    (∃ pre rest, t :: T = pre ++ rest ∧ List.Forall₂ R (f :: D) pre) ↔
      R f t ∧ ∃ pre rest, T = pre ++ rest ∧ List.Forall₂ R D pre := by
  constructor
  · rintro ⟨pre, rest, hT, hR⟩
    obtain ⟨p, pre', hfp, hD, rfl⟩ := List.forall₂_cons_left_iff.1 hR
    obtain ⟨rfl, rfl⟩ := List.cons.inj hT
    exact ⟨hfp, pre', rest, rfl, hD⟩
  · rintro ⟨hft, pre, rest, rfl, hD⟩
    exact ⟨t :: pre, rest, rfl, .cons hft hD⟩

/-- A filter of two levels or more selects `t :: T` when its first level selects `t` and the
filter's other levels select `T`. -/
theorem selects_cons_cons (t f g : List UInt8) (T rest : List (List UInt8)) :
    Selects (t :: T) (f :: g :: rest) ↔ LevelSelects f t ∧ Selects T (g :: rest) := by
  have hlast : (f :: g :: rest).getLast? = (g :: rest).getLast? := List.getLast?_cons_cons
  have hdrop : (f :: g :: rest).dropLast = f :: (g :: rest).dropLast := List.dropLast_cons_cons
  unfold Selects
  rw [hlast, hdrop, exists_prefix_cons, List.forall₂_cons]
  constructor
  · rintro (⟨hl, hf, hp⟩ | ⟨hl, hf, hp⟩)
    · exact ⟨hf, .inl ⟨hl, hp⟩⟩
    · exact ⟨hf, .inr ⟨hl, hp⟩⟩
  · rintro ⟨hf, ⟨hl, hp⟩ | ⟨hl, hp⟩⟩
    · exact .inl ⟨hl, hf, hp⟩
    · exact .inr ⟨hl, hf, hp⟩

/-- A filter of one level selects any topic when it is `#`, and otherwise a topic of one level that
it selects. -/
theorem selects_single (T : List (List UInt8)) (f : List UInt8) :
    Selects T [f] ↔ f = restLevels ∨ (f ≠ restLevels ∧ ∃ t, T = [t] ∧ LevelSelects f t) := by
  have hpre : (∃ pre rest, T = pre ++ rest ∧ List.Forall₂ LevelSelects [] pre) := ⟨[], T, rfl, .nil⟩
  have hone : List.Forall₂ LevelSelects [f] T ↔ ∃ t, T = [t] ∧ LevelSelects f t := by
    rw [List.forall₂_cons_left_iff]
    constructor
    · rintro ⟨t, T', hft, hnil, rfl⟩
      rw [List.forall₂_nil_left_iff.1 hnil]
      exact ⟨t, rfl, hft⟩
    · rintro ⟨t, rfl, hft⟩
      exact ⟨t, [], hft, .nil, rfl⟩
  simp only [Selects, List.getLast?_singleton, ne_eq, Option.some.injEq, List.dropLast_singleton,
    hone, and_iff_left hpre]

theorem selects_nil_cons (g : List UInt8) (rest : List (List UInt8)) :
    Selects [] (g :: rest) ↔ g = restLevels ∧ rest = [] := by
  cases rest with
  | nil => simp [selects_single]
  | cons h rest =>
    have hdrop : (g :: h :: rest).dropLast = g :: (h :: rest).dropLast := List.dropLast_cons_cons
    simp only [Selects, hdrop, List.forall₂_cons_left_iff, List.nil_eq_append_iff,
      reduceCtorEq, and_false, exists_false, or_false, iff_false]
    rintro ⟨_, pre, rest', ⟨rfl, _⟩, p, pre', _, _, hp⟩
    exact List.cons_ne_nil p pre' hp.symm

/-- The matcher agrees with the rule on every pair of level lists with a filter level. -/
theorem matchLevels_iff {T F : List (List UInt8)} (hF : F ≠ []) :
    matchLevels T F = true ↔ Selects T F := by
  fun_induction matchLevels T F with
  | case1 => exact absurd rfl hF
  | case2 T =>
    simp [selects_single]
  | case3 f hf t =>
    simp [selects_single, hf, LevelSelects]
  | case4 T f hf hsingle =>
    rw [selects_single]
    simp only [hf, Bool.false_eq_true, false_iff, false_or, not_and, not_exists]
    intro _ t hT
    exact (hsingle t hT).elim
  | case5 f g rest =>
    simp only [Bool.false_eq_true, false_iff]
    rw [selects_nil_cons]
    rintro ⟨_, h, rfl⟩
  | case6 t f g rest =>
    rw [selects_cons_cons, selects_nil_cons]
    simp [LevelSelects, and_assoc]
  | case7 t t2 ts f g rest ih =>
    rw [selects_cons_cons, ← ih (List.cons_ne_nil g rest)]
    simp [LevelSelects]

/-- A topic is selected by a filter exactly when the filter's levels select the topic's levels,
each split at `/`. -/
theorem matchTopic_iff_selects (topic filter : Topic) :
    matchTopic topic filter = true ↔ Selects (topic.splitOn 0x2F) (filter.splitOn 0x2F) := by
  rw [matchTopic, levels_eq_splitOn, levels_eq_splitOn]
  exact matchLevels_iff (List.splitOnP_ne_nil _ filter)

theorem selects_self {T : List (List UInt8)} (hT : T ≠ []) : Selects T T := by
  have hrefl (D : List (List UInt8)) : List.Forall₂ LevelSelects D D :=
    List.forall₂_same.2 fun l _ => levelSelects_refl l
  by_cases hlast : T.getLast? = some restLevels
  · exact .inl ⟨hlast, T.dropLast, [T.getLast hT], (List.dropLast_append_getLast hT).symm,
      hrefl _⟩
  · exact .inr ⟨hlast, hrefl T⟩

theorem matchTopic_self (s : Topic) : matchTopic s s = true :=
  (matchTopic_iff_selects s s).2 (selects_self (List.splitOnP_ne_nil _ s))

/-- A route takes a topic exactly when its filter selects the topic: the equality test it makes
first only repeats a case of the matcher. -/
theorem Route.takes_eq_matchTopic (r : Route) (topic : Topic) :
    r.takes topic = matchTopic topic r.filter := by
  unfold Route.takes
  by_cases h : r.filter = topic
  · rw [h, matchTopic_self]
    simp
  · simp [h]

/-- Topic filters by levels: the matcher is the level rule on every pair of byte strings, every
topic selects itself, and a route takes exactly the topics its filter selects. -/
theorem topic_filter_rule :
    (∀ topic filter : Topic,
      matchTopic topic filter = true ↔ Selects (topic.splitOn 0x2F) (filter.splitOn 0x2F)) ∧
    (∀ s : Topic, matchTopic s s = true) ∧
    ∀ (r : Route) (topic : Topic), r.takes topic = matchTopic topic r.filter :=
  ⟨matchTopic_iff_selects, matchTopic_self, Route.takes_eq_matchTopic⟩

end LcdPanel.Remote
