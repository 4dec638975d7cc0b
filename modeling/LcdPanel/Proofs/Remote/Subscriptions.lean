import LcdPanel.Remote.Queue
import Mathlib.Data.List.Nodup

/-!
The subscriptions of a queue follow a ledger of the calls made (`Tracked.Inv`), along any sequence
of attachments and closings.
-/

namespace LcdPanel.Remote

open LcdPanel

/-- A call on a queue: attaching a handler to a filter, or closing a subscription. -/
inductive Change
  | sub (filter : Topic)
  | close (sub : Nat)
  deriving DecidableEq, Repr

/-- What the calls on a queue ask for: the number of subscriptions made, those not closed with
their filters in the order they were made, and for each filter the subscription that made its
route. -/
structure Ledger where
  made : Nat := 0
  attached : List (Nat × Topic) := []
  born : Topic → Nat := fun _ => 0

namespace Ledger

def handlers (L : Ledger) (f : Topic) : Nat := L.attached.countP (·.2 = f)

/-- A call recorded: attaching makes the next subscription, and makes a route for its filter when
the filter had no handler; closing drops the subscription it names. -/
def record (L : Ledger) : Change → Ledger
  | .sub f =>
    { made := L.made + 1, attached := L.attached ++ [(L.made, f)],
      born := if L.handlers f = 0 then fun g => if g = f then L.made else L.born g else L.born }
  | .close i => { L with attached := L.attached.filter (·.1 ≠ i) }

/-- Among the handlers of a message, `p` comes before `p'`: its route was made first, or it is in
the same route and attached first. -/
def Before (L : Ledger) (p p' : Nat × Topic) : Prop :=
  L.born p.2 < L.born p'.2 ∨ (p.2 = p'.2 ∧ p.1 < p'.1)

/-- The subscriptions, with their filters, that a message on the topic `rel` under the root
reaches, in order: every attached one whose filter is `rel` or selects it, and no other, route by
route in the order they were made and then in the order they attached. -/
def Reaches (L : Ledger) (rel : Topic) (ps : List (Nat × Topic)) : Prop :=
  (∀ p, p ∈ ps ↔ p ∈ L.attached ∧ (p.2 = rel ∨ matchTopic rel p.2 = true)) ∧ ps.Pairwise L.Before

end Ledger

/-- The topics the broker holds subscriptions for after a call: a subscription adds its topics
and an unsubscription removes its own. -/
def BrokerCall.holds : BrokerCall → (Topic → Prop) → Topic → Prop
  | .subscribe t _, held, u => u = t ∨ held u
  | .subscribeAll ts, held, u => u ∈ ts ∨ held u
  | .unsubscribe ts, held, u => u ∉ ts ∧ held u
  | _, held, u => held u

namespace Queue

def change (q : Queue) : Change → Queue × List BrokerCall
  | .sub f => ((q.sub f).1.1, (q.sub f).2)
  | .close i => q.close i

/-- A queue with the ledger of the calls made on it and the broker's subscriptions. -/
structure Tracked where
  queue : Queue
  ledger : Ledger
  broker : Topic → Prop

def Tracked.step (s : Tracked) (c : Change) : Tracked :=
  ⟨(s.queue.change c).1, s.ledger.record c,
    (s.queue.change c).2.foldl (fun held b => b.holds held) s.broker⟩

def Tracked.start (root : Topic) : Tracked := ⟨ofRoot root, {}, fun _ => False⟩

def Tracked.replay (s : Tracked) (calls : List Change) : Tracked := calls.foldl Tracked.step s

end Queue

namespace Queue

variable {q : Queue} {f : Topic} {i : Nat} {r : Route}

/-! ## What one call does to the queue -/

theorem sub_of_routed (h : q.routes.any (·.filter = f) = true) :
    q.sub f = (({ q with
      routes := q.routes.map fun r => if r.filter = f then { r with subs := r.subs ++ [q.made] } else r
      made := q.made + 1 }, q.made), []) := by
  simp only [sub, h, if_true]

theorem sub_of_unrouted (h : q.routes.any (·.filter = f) = false) :
    q.sub f = (({ q with routes := q.routes ++ [⟨f, [q.made]⟩], made := q.made + 1, listening := true },
      q.made), [.subscribe (q.brokerTopic f) 0]) := by
  simp only [sub, h, Bool.false_eq_true, if_false]

theorem close_of_unheld (h : q.routes.find? (·.subs.contains i) = none) : q.close i = (q, []) := by
  simp only [close, h]

theorem close_of_last (h : q.routes.find? (·.subs.contains i) = some r) (hr : r.subs = [i]) :
    q.close i = ({ q with routes := q.routes.filter (·.filter ≠ r.filter) },
      [.unsubscribe [q.brokerTopic r.filter]]) := by
  simp only [close, h, hr, if_true]

theorem close_of_more (h : q.routes.find? (·.subs.contains i) = some r) (hr : r.subs ≠ [i]) :
    q.close i = ({ q with routes := q.routes.map fun s =>
      if s.filter = r.filter then { s with subs := s.subs.erase i } else s }, []) := by
  simp only [close, h, hr, if_false]

/-! ## The queue follows the ledger -/

namespace Tracked

/-- How a queue agrees with its ledger and its broker: subscriptions are made in increasing order,
each route holds the handlers of its filter in the order they attached and at least one, every
handler has a route, the routes stand in the order they were made, and the broker holds the
root followed by each route's filter. -/
structure Inv (s : Tracked) : Prop where
  made : s.queue.made = s.ledger.made
  below : ∀ p ∈ s.ledger.attached, p.1 < s.ledger.made
  ascending : (s.ledger.attached.map Prod.fst).Pairwise (· < ·)
  subs : ∀ r ∈ s.queue.routes, r.subs = (s.ledger.attached.filter (·.2 = r.filter)).map Prod.fst
  nonempty : ∀ r ∈ s.queue.routes, r.subs ≠ []
  routed : ∀ p ∈ s.ledger.attached, ∃ r ∈ s.queue.routes, r.filter = p.2
  ordered : (s.queue.routes.map fun r => s.ledger.born r.filter).Pairwise (· < ·)
  born_lt : ∀ r ∈ s.queue.routes, s.ledger.born r.filter < s.ledger.made
  broker : ∀ t, s.broker t ↔ ∃ r ∈ s.queue.routes, t = s.queue.brokerTopic r.filter

variable {s : Tracked}

section Relabel

/-! Attaching to a route or leaving one changes the handlers of routes and never a filter, so
what the invariant says of the routes' filters carries over. -/

variable {rs : List Route} {g : Route → Route}

theorem exists_route_map (hg : ∀ r, (g r).filter = r.filter) (P : Topic → Prop) :
    (∃ r ∈ rs.map g, P r.filter) ↔ ∃ r ∈ rs, P r.filter := by
  simp [hg]

theorem forall_route_map (hg : ∀ r, (g r).filter = r.filter) (P : Topic → Prop) :
    (∀ r ∈ rs.map g, P r.filter) ↔ ∀ r ∈ rs, P r.filter := by
  simp [hg]

theorem map_route_map {β : Type} (hg : ∀ r, (g r).filter = r.filter) (h : Topic → β) :
    (rs.map g).map (fun r => h r.filter) = rs.map fun r => h r.filter := by
  simp [Function.comp_def, hg]

end Relabel

namespace Inv

theorem mem_attached (hs : s.Inv) {r : Route} (hr : r ∈ s.queue.routes) {i : Nat}
    (hi : i ∈ r.subs) : (i, r.filter) ∈ s.ledger.attached := by
  rw [hs.subs r hr] at hi
  obtain ⟨p, hp, rfl⟩ := List.mem_map.1 hi
  obtain ⟨hp, hpf⟩ := List.mem_filter.1 hp
  have hpf : p.2 = r.filter := by simpa using hpf
  rw [← hpf]
  exact hp

theorem handlers_pos_iff (hs : s.Inv) (f : Topic) :
    0 < s.ledger.handlers f ↔ ∃ r ∈ s.queue.routes, r.filter = f := by
  unfold Ledger.handlers
  rw [List.countP_pos_iff]
  constructor
  · rintro ⟨p, hp, hpf⟩
    obtain ⟨r, hr, hrf⟩ := hs.routed p hp
    exact ⟨r, hr, hrf.trans (by simpa using hpf)⟩
  · rintro ⟨r, hr, rfl⟩
    -- the route holds a handler, attached with its filter
    obtain ⟨i, hi⟩ := List.exists_mem_of_ne_nil _ (hs.nonempty r hr)
    exact ⟨(i, r.filter), hs.mem_attached hr hi, by simp⟩

theorem any_filter (hs : s.Inv) (f : Topic) :
    s.queue.routes.any (·.filter = f) = decide (0 < s.ledger.handlers f) := by
  rw [Bool.eq_iff_iff, List.any_eq_true, decide_eq_true_iff, hs.handlers_pos_iff]
  simp

theorem any_filter_of_pos (hs : s.Inv) {f : Topic} (hf : 0 < s.ledger.handlers f) :
    s.queue.routes.any (·.filter = f) = true := by
  rw [hs.any_filter]
  simpa using hf

theorem any_filter_of_zero (hs : s.Inv) {f : Topic} (hf : s.ledger.handlers f = 0) :
    s.queue.routes.any (·.filter = f) = false := by
  rw [hs.any_filter, hf]
  rfl

theorem below_attach (hs : s.Inv) (f : Topic) :
    ∀ p ∈ s.ledger.attached ++ [(s.ledger.made, f)], p.1 < s.ledger.made + 1 := by
  intro p hp
  rcases List.mem_append.1 hp with hp | hp
  · exact Nat.lt_succ_of_lt (hs.below p hp)
  · rw [List.mem_singleton.1 hp]
    exact Nat.lt_succ_self _

theorem ascending_attach (hs : s.Inv) (f : Topic) :
    ((s.ledger.attached ++ [(s.ledger.made, f)]).map Prod.fst).Pairwise (· < ·) := by
  rw [List.map_append, List.pairwise_append]
  refine ⟨hs.ascending, List.pairwise_singleton _ _, ?_⟩
  intro a ha b hb
  rw [List.map_singleton, List.mem_singleton] at hb
  obtain ⟨p, hp, rfl⟩ := List.mem_map.1 ha
  exact hb ▸ hs.below p hp

theorem filters_nodup (hs : s.Inv) : (s.queue.routes.map Route.filter).Nodup := by
  have hne : (s.queue.routes.map Route.filter).Pairwise
      fun f g => s.ledger.born f ≠ s.ledger.born g := by
    rw [List.pairwise_map]
    exact (List.pairwise_map.1 hs.ordered).imp Nat.ne_of_lt
  exact hne.imp fun h hfg => h (congrArg s.ledger.born hfg)

theorem start (root : Topic) : (Tracked.start root).Inv where
  made := rfl
  below := by simp [Tracked.start]
  ascending := by simp [Tracked.start]
  subs := by simp [Tracked.start, ofRoot]
  nonempty := by simp [Tracked.start, ofRoot]
  routed := by simp [Tracked.start]
  ordered := by simp [Tracked.start, ofRoot]
  born_lt := by simp [Tracked.start, ofRoot]
  broker := by simp [Tracked.start, ofRoot]

/-- Attaching to a filter with handlers joins its route. -/
theorem sub_routed (hs : s.Inv) {f : Topic} (hf : 0 < s.ledger.handlers f) :
    (s.step (.sub f)).Inv := by
  have hL : s.ledger.record (.sub f) =
      { made := s.ledger.made + 1, attached := s.ledger.attached ++ [(s.ledger.made, f)],
        born := s.ledger.born } := by
    simp [Ledger.record, Nat.pos_iff_ne_zero.1 hf]
  -- joining a route keeps every route's filter
  let join : Route → Route := fun r => if r.filter = f then { r with subs := r.subs ++ [s.queue.made] } else r
  have hjoin (r : Route) : (join r).filter = r.filter := by
    by_cases h : r.filter = f <;> simp [join, h]
  simp only [Tracked.step, change, sub_of_routed (hs.any_filter_of_pos hf), hL]
  refine ⟨?made, hs.below_attach f, hs.ascending_attach f, ?subs, ?nonempty, ?routed, ?ordered,
    ?born_lt, ?broker⟩
  case made => simp only [hs.made]
  case subs =>
    intro r' hr'
    obtain ⟨r, hr, rfl⟩ := List.mem_map.1 hr'
    by_cases hrf : r.filter = f
    · simp [hrf, hs.subs r hr, List.filter_append, hs.made]
    · simp [hrf, hs.subs r hr, List.filter_append, Ne.symm hrf]
  case nonempty =>
    intro r' hr'
    obtain ⟨r, hr, rfl⟩ := List.mem_map.1 hr'
    by_cases hrf : r.filter = f
    · simp [hrf]
    · simpa [hrf] using hs.nonempty r hr
  case routed =>
    intro p hp
    -- the new subscription joins the route its filter already has
    have hrouted : ∃ r ∈ s.queue.routes, r.filter = p.2 := by
      rcases List.mem_append.1 hp with hp | hp
      · exact hs.routed p hp
      · rw [List.mem_singleton.1 hp]
        exact (hs.handlers_pos_iff f).1 hf
    exact (exists_route_map hjoin (· = p.2)).2 hrouted
  case ordered =>
    rw [map_route_map hjoin]
    exact hs.ordered
  case born_lt =>
    exact (forall_route_map hjoin fun g => s.ledger.born g < s.ledger.made + 1).2
      fun r hr => Nat.lt_succ_of_lt (hs.born_lt r hr)
  case broker =>
    intro t
    rw [List.foldl_nil, hs.broker t]
    exact (exists_route_map hjoin fun g => t = s.queue.brokerTopic g).symm

/-- Attaching to a filter without handlers makes its route, after all the others, and asks the
broker to subscribe to it. -/
theorem sub_unrouted (hs : s.Inv) {f : Topic} (hf : s.ledger.handlers f = 0) :
    (s.step (.sub f)).Inv := by
  have hL : s.ledger.record (.sub f) =
      { made := s.ledger.made + 1, attached := s.ledger.attached ++ [(s.ledger.made, f)],
        born := fun g => if g = f then s.ledger.made else s.ledger.born g } := by
    simp [Ledger.record, hf]
  -- no route and no handler has the filter yet
  have hroutes : ∀ r ∈ s.queue.routes, r.filter ≠ f := fun r hr hrf =>
    Nat.lt_irrefl 0 (hf ▸ (hs.handlers_pos_iff f).2 ⟨r, hr, hrf⟩)
  have hunheld : ∀ p ∈ s.ledger.attached, p.2 ≠ f := by
    intro p hp hpf
    obtain ⟨r, hr, hrf⟩ := hs.routed p hp
    exact hroutes r hr (hrf.trans hpf)
  simp only [Tracked.step, change, sub_of_unrouted (hs.any_filter_of_zero hf), hL]
  refine ⟨?made, hs.below_attach f, hs.ascending_attach f, ?subs, ?nonempty, ?routed, ?ordered,
    ?born_lt, ?broker⟩
  case made => simp only [hs.made]
  case subs =>
    intro r hr
    rcases List.mem_append.1 hr with hr | hr
    · simp [hs.subs r hr, List.filter_append, Ne.symm (hroutes r hr)]
    · simp only [List.mem_singleton] at hr
      subst hr
      have hnone : s.ledger.attached.filter (·.2 = f) = [] :=
        List.filter_eq_nil_iff.2 fun p hp => by simpa using hunheld p hp
      simp [List.filter_append, hnone, hs.made]
  case nonempty =>
    intro r hr
    rcases List.mem_append.1 hr with hr | hr
    · exact hs.nonempty r hr
    · simp only [List.mem_singleton] at hr
      subst hr
      simp
  case routed =>
    intro p hp
    rcases List.mem_append.1 hp with hp | hp
    · obtain ⟨r, hr, hrf⟩ := hs.routed p hp
      exact ⟨r, List.mem_append_left _ hr, hrf⟩
    · simp only [List.mem_singleton] at hp
      subst hp
      exact ⟨⟨f, [s.queue.made]⟩, List.mem_append_right _ (List.mem_singleton_self _), rfl⟩
  case ordered =>
    -- the routes there keep their order, and the new one was made after all of them
    have hmap : (s.queue.routes ++ [(⟨f, [s.queue.made]⟩ : Route)]).map
        (fun r => if r.filter = f then s.ledger.made else s.ledger.born r.filter) =
        s.queue.routes.map (fun r => s.ledger.born r.filter) ++ [s.ledger.made] := by
      rw [List.map_append, List.map_congr_left fun r hr => if_neg (hroutes r hr)]
      simp
    simp only [hmap, List.pairwise_append]
    refine ⟨hs.ordered, List.pairwise_singleton _ _, ?_⟩
    intro a ha b hb
    rw [List.mem_singleton] at hb
    obtain ⟨r, hr, rfl⟩ := List.mem_map.1 ha
    exact hb ▸ hs.born_lt r hr
  case born_lt =>
    intro r hr
    dsimp only
    rcases List.mem_append.1 hr with hr | hr
    · rw [if_neg (hroutes r hr)]
      have := hs.born_lt r hr
      omega
    · simp only [List.mem_singleton] at hr
      subst hr
      simp
  case broker =>
    intro t
    simp only [List.foldl_cons, List.foldl_nil, BrokerCall.holds, hs.broker t]
    constructor
    · rintro (rfl | ⟨r, hr, rfl⟩)
      · exact ⟨⟨f, [s.queue.made]⟩, List.mem_append_right _ (List.mem_singleton_self _), rfl⟩
      · exact ⟨r, List.mem_append_left _ hr, rfl⟩
    · rintro ⟨r, hr, rfl⟩
      rcases List.mem_append.1 hr with hr | hr
      · exact .inr ⟨r, hr, rfl⟩
      · simp only [List.mem_singleton] at hr
        subst hr
        exact .inl rfl

theorem ids_nodup (hs : s.Inv) : (s.ledger.attached.map Prod.fst).Nodup :=
  List.nodup_iff_pairwise_ne.2 (hs.ascending.imp Nat.ne_of_lt)

theorem filter_unique (hs : s.Inv) {i : Nat} {f g : Topic} (hf : (i, f) ∈ s.ledger.attached)
    (hg : (i, g) ∈ s.ledger.attached) : f = g :=
  (Prod.ext_iff.1 (List.inj_on_of_nodup_map hs.ids_nodup hf hg rfl)).2

theorem filter_other (hs : s.Inv) {i : Nat} {f g : Topic} (hi : (i, f) ∈ s.ledger.attached)
    (hg : g ≠ f) :
    (s.ledger.attached.filter (·.1 ≠ i)).filter (·.2 = g) = s.ledger.attached.filter (·.2 = g) := by
  rw [List.filter_filter]
  apply List.filter_congr
  intro p hp
  by_cases hpg : p.2 = g
  · -- a handler of `g` is not the one dropped, which is attached with `f`
    have hpi : p.1 ≠ i := fun hpi => hg (hpg ▸ hs.filter_unique (hpi ▸ hp) hi)
    simp [hpg, hpi]
  · simp [hpg]

theorem unattached_of_find (hs : s.Inv) {i : Nat}
    (h : s.queue.routes.find? (·.subs.contains i) = none) (f : Topic) :
    (i, f) ∉ s.ledger.attached := by
  intro hi
  obtain ⟨r, hr, hrf⟩ := hs.routed _ hi
  have hin : i ∈ r.subs := by
    rw [hs.subs r hr, hrf]
    exact List.mem_map.2 ⟨(i, f), List.mem_filter.2 ⟨hi, by simp⟩, rfl⟩
  exact List.find?_eq_none.1 h r hr (by simpa using hin)

theorem close_unheld (hs : s.Inv) {i : Nat}
    (h : s.queue.routes.find? (·.subs.contains i) = none) : (s.step (.close i)).Inv := by
  have hkeep : s.ledger.attached.filter (·.1 ≠ i) = s.ledger.attached :=
    List.filter_eq_self.2 fun p hp => by
      have := hs.unattached_of_find h p.2
      simp only [decide_eq_true_eq]
      rintro rfl
      exact this hp
  have hstep : s.step (.close i) = { s with ledger := { s.ledger with attached := s.ledger.attached } } := by
    simp only [Tracked.step, change, close_of_unheld h, Ledger.record, hkeep, List.foldl_nil]
  rw [hstep]
  exact hs

/-- Closing the last handler of a filter drops its route and asks the broker to unsubscribe. -/
theorem close_last (hs : s.Inv) {i : Nat} {r : Route}
    (h : s.queue.routes.find? (·.subs.contains i) = some r) (hlast : r.subs = [i]) :
    (s.step (.close i)).Inv := by
  have hr : r ∈ s.queue.routes := List.mem_of_find?_eq_some h
  have hi : (i, r.filter) ∈ s.ledger.attached := hs.mem_attached hr (by simp [hlast])
  -- every handler of the route's filter is the one closed
  have honly : ∀ p ∈ s.ledger.attached, p.2 = r.filter → p.1 = i := by
    intro p hp hpf
    have hmem : p.1 ∈ r.subs := by
      rw [hs.subs r hr]
      exact List.mem_map.2 ⟨p, List.mem_filter.2 ⟨hp, by simpa using hpf⟩, rfl⟩
    simpa [hlast] using hmem
  simp only [Tracked.step, change, close_of_last h hlast, Ledger.record]
  refine ⟨?made, ?below, ?ascending, ?subs, ?nonempty, ?routed, ?ordered, ?born_lt, ?broker⟩
  case made => exact hs.made
  case below => exact fun p hp => hs.below p (List.mem_filter.1 hp).1
  case ascending => exact hs.ascending.sublist (List.filter_sublist.map _)
  case subs =>
    intro r' hr'
    obtain ⟨hr', hrf⟩ := List.mem_filter.1 hr'
    rw [hs.subs r' hr', hs.filter_other hi (by simpa using hrf)]
  case nonempty => exact fun r' hr' => hs.nonempty r' (List.mem_filter.1 hr').1
  case routed =>
    intro p hp
    obtain ⟨hp, hpi⟩ := List.mem_filter.1 hp
    obtain ⟨r', hr', hrf⟩ := hs.routed p hp
    refine ⟨r', List.mem_filter.2 ⟨hr', ?_⟩, hrf⟩
    have hne : r'.filter ≠ r.filter := fun he => by simp [honly p hp (hrf ▸ he)] at hpi
    simpa using hne
  case ordered => exact hs.ordered.sublist (List.filter_sublist.map _)
  case born_lt => exact fun r' hr' => hs.born_lt r' (List.mem_filter.1 hr').1
  case broker =>
    intro t
    simp only [List.foldl_cons, List.foldl_nil, BrokerCall.holds, List.mem_singleton, hs.broker t]
    constructor
    · rintro ⟨hne, r', hr', rfl⟩
      have hrf : r'.filter ≠ r.filter := fun he => hne (by rw [he])
      exact ⟨r', List.mem_filter.2 ⟨hr', by simpa using hrf⟩, rfl⟩
    · rintro ⟨r', hr', rfl⟩
      obtain ⟨hr', hrf⟩ := List.mem_filter.1 hr'
      -- the broker's name of a filter is the filter after the root, so other filters keep theirs
      have hne : s.queue.brokerTopic r'.filter ≠ s.queue.brokerTopic r.filter := fun he =>
        by simp [List.append_cancel_left he] at hrf
      exact ⟨hne, r', hr', rfl⟩

/-- Closing one of several handlers of a filter takes it out of the route. -/
theorem close_more (hs : s.Inv) {i : Nat} {r : Route}
    (h : s.queue.routes.find? (·.subs.contains i) = some r) (hmore : r.subs ≠ [i]) :
    (s.step (.close i)).Inv := by
  have hr : r ∈ s.queue.routes := List.mem_of_find?_eq_some h
  have hir : i ∈ r.subs := by simpa using List.find?_some h
  have hi : (i, r.filter) ∈ s.ledger.attached := hs.mem_attached hr hir
  let leave : Route → Route := fun t =>
    if t.filter = r.filter then { t with subs := t.subs.erase i } else t
  have hleave (t : Route) : (leave t).filter = t.filter := by
    by_cases ht : t.filter = r.filter <;> simp [leave, ht]
  -- the numbers of the handlers of one filter, in attaching order, have no repeats
  have hnodup (g : Topic) : ((s.ledger.attached.filter (·.2 = g)).map Prod.fst).Nodup :=
    hs.ids_nodup.sublist (List.filter_sublist.map _)
  simp only [Tracked.step, change, close_of_more h hmore, Ledger.record]
  refine ⟨?made, ?below, ?ascending, ?subs, ?nonempty, ?routed, ?ordered, ?born_lt, ?broker⟩
  case made => exact hs.made
  case below => exact fun p hp => hs.below p (List.mem_filter.1 hp).1
  case ascending => exact hs.ascending.sublist (List.filter_sublist.map _)
  case subs =>
    intro t' ht'
    obtain ⟨t, ht, rfl⟩ := List.mem_map.1 ht'
    by_cases htf : t.filter = r.filter
    · -- the route closed from loses exactly the subscription closed
      have hswap : (s.ledger.attached.filter (·.1 ≠ i)).filter (·.2 = t.filter) =
          (s.ledger.attached.filter (·.2 = t.filter)).filter (·.1 ≠ i) := by
        rw [List.filter_filter, List.filter_filter]
        exact List.filter_congr fun p _ => Bool.and_comm _ _
      simp only [htf, if_true]
      rw [hs.subs t ht, ← htf, hswap, (hnodup t.filter).erase_eq_filter, List.filter_map]
      congr 2
      funext p
      show (p.1 != i) = decide (p.1 ≠ i)
      simp only [bne, decide_not]
      rfl
    · simp only [htf, if_false]
      rw [hs.subs t ht, hs.filter_other hi htf]
  case nonempty =>
    intro t' ht'
    obtain ⟨t, ht, rfl⟩ := List.mem_map.1 ht'
    by_cases htf : t.filter = r.filter
    · -- the route of the filter is `r`, which keeps another handler
      have hsame : t.subs = r.subs := by rw [hs.subs t ht, hs.subs r hr, htf]
      simp only [htf, if_true, hsame]
      rw [Ne, List.erase_eq_nil_iff]
      rintro (hnil | hone)
      · exact hs.nonempty r hr hnil
      · exact hmore hone
    · simp only [htf, if_false]
      exact hs.nonempty t ht
  case routed =>
    intro p hp
    exact (exists_route_map hleave (· = p.2)).2 (hs.routed p (List.mem_filter.1 hp).1)
  case ordered =>
    rw [map_route_map hleave]
    exact hs.ordered
  case born_lt => exact (forall_route_map hleave fun g => s.ledger.born g < s.ledger.made).2 hs.born_lt
  case broker =>
    intro t
    rw [List.foldl_nil, hs.broker t]
    exact (exists_route_map hleave fun g => t = s.queue.brokerTopic g).symm

/-- Every call keeps the queue following its ledger. -/
theorem step (hs : s.Inv) (c : Change) : (s.step c).Inv := by
  cases c with
  | sub f =>
    by_cases hf : s.ledger.handlers f = 0
    · exact hs.sub_unrouted hf
    · exact hs.sub_routed (Nat.pos_of_ne_zero hf)
  | close i =>
    cases h : s.queue.routes.find? (·.subs.contains i) with
    | none => exact hs.close_unheld h
    | some r =>
      by_cases hlast : r.subs = [i]
      · exact hs.close_last h hlast
      · exact hs.close_more h hlast

theorem replay (hs : s.Inv) (calls : List Change) : (s.replay calls).Inv := by
  induction calls generalizing s with
  | nil => exact hs
  | cons c rest ih => exact ih (hs.step c)

/-! ## What follows for the calls the queue makes -/

/-- Attaching asks the broker to subscribe exactly when the filter has no handler. -/
theorem sub_calls (hs : s.Inv) (f : Topic) :
    (s.queue.sub f).2 =
      if s.ledger.handlers f = 0 then [.subscribe (s.queue.brokerTopic f) 0] else [] := by
  by_cases hf : s.ledger.handlers f = 0
  · rw [sub_of_unrouted (hs.any_filter_of_zero hf), if_pos hf]
  · rw [sub_of_routed (hs.any_filter_of_pos (Nat.pos_of_ne_zero hf)), if_neg hf]

/-- An attached subscription is found in the route of its filter, which holds every handler of
the filter. -/
theorem find_route (hs : s.Inv) {i : Nat} {f : Topic} (hi : (i, f) ∈ s.ledger.attached) :
    ∃ r, s.queue.routes.find? (·.subs.contains i) = some r ∧ i ∈ r.subs ∧ r.filter = f ∧
      r.subs.length = s.ledger.handlers f := by
  cases h : s.queue.routes.find? (·.subs.contains i) with
  | none => exact absurd hi (hs.unattached_of_find h f)
  | some r =>
    have hr : r ∈ s.queue.routes := List.mem_of_find?_eq_some h
    have hir : i ∈ r.subs := by simpa using List.find?_some h
    have hrf : r.filter = f := hs.filter_unique (hs.mem_attached hr hir) hi
    refine ⟨r, rfl, hir, hrf, ?_⟩
    rw [hs.subs r hr, List.length_map, Ledger.handlers, List.countP_eq_length_filter, hrf]

/-- Closing a subscription asks the broker to unsubscribe exactly when it is the last handler of
its filter. -/
theorem close_calls (hs : s.Inv) {i : Nat} {f : Topic} (hi : (i, f) ∈ s.ledger.attached) :
    (s.queue.close i).2 =
      if s.ledger.handlers f = 1 then [.unsubscribe [s.queue.brokerTopic f]] else [] := by
  obtain ⟨r, h, hir, hrf, hlen⟩ := hs.find_route hi
  by_cases hlast : r.subs = [i]
  · have hone : s.ledger.handlers f = 1 := by rw [← hlen, hlast]; rfl
    rw [close_of_last h hlast, if_pos hone, hrf]
  · -- a route of one handler that holds `i` holds `i` alone
    have hone : s.ledger.handlers f ≠ 1 := by
      intro hone
      obtain ⟨a, ha⟩ := List.length_eq_one_iff.1 (hlen.trans hone)
      rw [ha, List.mem_singleton] at hir
      exact hlast (hir ▸ ha)
    rw [close_of_more h hlast, if_neg hone]

theorem close_unattached (hs : s.Inv) {i : Nat} (hi : ∀ f, (i, f) ∉ s.ledger.attached) :
    s.queue.close i = (s.queue, []) := by
  cases h : s.queue.routes.find? (·.subs.contains i) with
  | none => exact close_of_unheld h
  | some r =>
    have hr : r ∈ s.queue.routes := List.mem_of_find?_eq_some h
    have hir : i ∈ r.subs := by simpa using List.find?_some h
    exact absurd (hs.mem_attached hr hir) (hi r.filter)

/-- The broker holds the root followed by each filter with a handler, and nothing else. -/
theorem broker_iff (hs : s.Inv) (t : Topic) :
    s.broker t ↔ ∃ f, 0 < s.ledger.handlers f ∧ t = s.queue.brokerTopic f := by
  rw [hs.broker t]
  constructor
  · rintro ⟨r, hr, rfl⟩
    exact ⟨r.filter, (hs.handlers_pos_iff _).2 ⟨r, hr, rfl⟩, rfl⟩
  · rintro ⟨f, hf, rfl⟩
    obtain ⟨r, hr, rfl⟩ := (hs.handlers_pos_iff f).1 hf
    exact ⟨r, hr, rfl⟩

/-- Subscribing again asks, in one request and each once, for exactly what the broker holds, or
asks nothing when it holds nothing. -/
theorem resubscribe_calls (hs : s.Inv) :
    (s.queue.resubscribe.2 = [] ∧ ∀ t, ¬s.broker t) ∨
    ∃ ts, s.queue.resubscribe.2 = [.subscribeAll ts] ∧ ts.Nodup ∧ ∀ t, t ∈ ts ↔ s.broker t := by
  by_cases hnil : s.queue.routes = []
  · refine .inl ⟨by simp [resubscribe, hnil], fun t ht => ?_⟩
    obtain ⟨r, hr, -⟩ := (hs.broker t).1 ht
    simp [hnil] at hr
  · let topics := s.queue.routes.map fun r => s.queue.brokerTopic r.filter
    have hperm := List.mergeSort_perm topics byteLe
    -- distinct filters have distinct names at the broker
    have hinj : Function.Injective s.queue.brokerTopic := fun f g h => List.append_cancel_left h
    have hnodup : topics.Nodup := by
      have := hs.filters_nodup.map hinj
      rwa [List.map_map] at this
    refine .inr ⟨topics.mergeSort byteLe, by simp [resubscribe, hnil, topics], ?_, fun t => ?_⟩
    · exact hperm.nodup_iff.2 hnodup
    · rw [hperm.mem_iff, hs.broker t]
      simp [topics, eq_comm]

/-- The handlers of the routes a message reaches, with their filters, are the ones the ledger says
it reaches, in its order. -/
theorem reaches_routes (hs : s.Inv) (rel : Topic) :
    s.ledger.Reaches rel
      ((s.queue.routes.filter (·.takes rel)).flatMap fun r =>
        s.ledger.attached.filter (·.2 = r.filter)) := by
  refine ⟨fun p => ?_, ?_⟩
  · simp only [List.mem_flatMap, List.mem_filter, decide_eq_true_eq]
    constructor
    · rintro ⟨r, ⟨-, htakes⟩, hp, hpf⟩
      refine ⟨hp, ?_⟩
      rw [hpf]
      simpa [Route.takes] using htakes
    · rintro ⟨hp, hsel⟩
      obtain ⟨r, hr, hrf⟩ := hs.routed p hp
      refine ⟨r, ⟨hr, ?_⟩, hp, hrf.symm⟩
      simpa [Route.takes, hrf] using hsel
  · rw [List.pairwise_flatMap]
    refine ⟨fun r _ => ?_, ?_⟩
    · -- within a route, handlers stand in the order they attached
      have hasc : (s.ledger.attached.filter (·.2 = r.filter)).Pairwise (·.1 < ·.1) :=
        (List.pairwise_map.1 hs.ascending).sublist List.filter_sublist
      refine List.Pairwise.imp_of_mem (fun {p p'} hp hp' hlt => .inr ⟨?_, hlt⟩) hasc
      have h₁ := (List.mem_filter.1 hp).2
      have h₂ := (List.mem_filter.1 hp').2
      simp only [decide_eq_true_eq] at h₁ h₂
      exact h₁.trans h₂.symm
    · -- across routes, in the order the routes were made
      have hord : (s.queue.routes.filter (·.takes rel)).Pairwise
          fun r r' => s.ledger.born r.filter < s.ledger.born r'.filter :=
        (List.pairwise_map.1 hs.ordered).sublist List.filter_sublist
      refine hord.imp fun hlt p hp p' hp' => .inl ?_
      have h₁ := (List.mem_filter.1 hp).2
      have h₂ := (List.mem_filter.1 hp').2
      simp only [decide_eq_true_eq] at h₁ h₂
      rw [h₁, h₂]
      exact hlt

/-- A message on a topic outside the root reaches nobody; under it, it reaches, with the root cut
off, the subscriptions the ledger says. -/
theorem receivers_reach (hs : s.Inv) (topic : Topic) :
    (s.queue.receivers topic = none ↔ s.queue.topicRoot.isPrefixOf topic = false) ∧
    ∀ rel ids, s.queue.receivers topic = some (rel, ids) →
      rel = topic.drop s.queue.topicRoot.length ∧
        ∃ ps, ids = ps.map Prod.fst ∧ s.ledger.Reaches rel ps := by
  refine ⟨?_, fun rel ids h => ?_⟩
  · by_cases hp : s.queue.topicRoot.isPrefixOf topic = true
    · simp [receivers, relative?, hp]
    · simp [receivers, relative?, hp]
  · by_cases hp : s.queue.topicRoot.isPrefixOf topic = true
    · simp only [receivers, relative?, hp, if_true, Option.map_some, Option.some.injEq,
        Prod.mk.injEq] at h
      obtain ⟨rfl, rfl⟩ := h
      refine ⟨rfl, _, ?_, hs.reaches_routes _⟩
      rw [List.map_flatMap]
      exact List.flatMap_congr fun r hr => hs.subs r (List.mem_filter.1 hr).1
    · simp [receivers, relative?, hp] at h

end Inv

theorem topicRoot_step (s : Tracked) (c : Change) :
    (s.step c).queue.topicRoot = s.queue.topicRoot := by
  cases c with
  | sub f =>
    show (s.queue.sub f).1.1.topicRoot = _
    unfold Queue.sub
    split <;> rfl
  | close i =>
    show (s.queue.close i).1.topicRoot = _
    unfold Queue.close
    split
    · rfl
    · split <;> rfl

theorem topicRoot_replay (s : Tracked) (calls : List Change) :
    (s.replay calls).queue.topicRoot = s.queue.topicRoot := by
  induction calls generalizing s with
  | nil => rfl
  | cons c rest ih => exact (ih (s.step c)).trans (topicRoot_step s c)

/-- What a queue under `root` does for its handlers, as the calls made so far leave it: its
routes have distinct filters and none is empty; attaching asks the broker to subscribe to the root
followed by the filter exactly when the filter has no handler, and closing asks it to unsubscribe
exactly when the last handler of the filter goes; the broker holds the root followed by each filter
with a handler, which is what subscribing again asks for; closing a subscription not attached does
nothing; and a message reaches nobody outside the root and, under it, the subscriptions the ledger
says, each once and in its order. -/
structure FollowsHandlers (root : Topic) (s : Tracked) : Prop where
  distinct : (s.queue.routes.map Route.filter).Nodup
  nonempty : ∀ r ∈ s.queue.routes, r.subs ≠ []
  subscribes : ∀ f, (s.queue.sub f).2 =
    if s.ledger.handlers f = 0 then [.subscribe (root ++ f) 0] else []
  unsubscribes : ∀ i f, (i, f) ∈ s.ledger.attached →
    (s.queue.close i).2 = if s.ledger.handlers f = 1 then [.unsubscribe [root ++ f]] else []
  broker : ∀ t, s.broker t ↔ ∃ f, 0 < s.ledger.handlers f ∧ t = root ++ f
  resubscribes : (s.queue.resubscribe.2 = [] ∧ ∀ t, ¬s.broker t) ∨
    ∃ ts, s.queue.resubscribe.2 = [.subscribeAll ts] ∧ ts.Nodup ∧ ∀ t, t ∈ ts ↔ s.broker t
  closed : ∀ i, (∀ f, (i, f) ∉ s.ledger.attached) → s.queue.close i = (s.queue, [])
  delivers : ∀ topic, (s.queue.receivers topic = none ↔ root.isPrefixOf topic = false) ∧
    ∀ rel ids, s.queue.receivers topic = some (rel, ids) →
      rel = topic.drop root.length ∧ ∃ ps, ids = ps.map Prod.fst ∧ s.ledger.Reaches rel ps

end Tracked

/-- For any sequence of attachments and closings on a queue under any root, each done before the
next starts, the queue's routes have distinct filters and none is empty; the broker is asked to
subscribe to the root followed by a filter exactly when the filter goes from no handler to one, and
to unsubscribe exactly when a closing takes the last handler of a filter, so the broker holds the
root followed by each filter with a handler, the set that subscribing again asks for; closing a
subscription that is closed does nothing; and a message on a topic outside the root reaches
nobody, while one under the root reaches, with the root cut off, every attached subscription whose
filter is the rest of the topic or selects it, once each and no other, route by route in the order
the routes were made and then in the order the handlers attached. -/
theorem subscriptions_follow_handlers (root : Topic) (calls : List Change) :
    ((Tracked.start root).replay calls).FollowsHandlers root := by
  have hs := (Tracked.Inv.start root).replay calls
  have hroot : ((Tracked.start root).replay calls).queue.topicRoot = root :=
    Tracked.topicRoot_replay _ calls
  have hname (f : Topic) : ((Tracked.start root).replay calls).queue.brokerTopic f = root ++ f := by
    rw [brokerTopic, hroot]
  refine ⟨hs.filters_nodup, hs.nonempty, fun f => ?_, fun i f hi => ?_, fun t => ?_,
    hs.resubscribe_calls, fun i hi => hs.close_unattached hi, fun topic => ?_⟩
  · rw [hs.sub_calls f, hname]
  · rw [hs.close_calls hi, hname]
  · simp only [hs.broker_iff t, hname]
  · have hreach := hs.receivers_reach topic
    rwa [hroot] at hreach

end Queue

end LcdPanel.Remote
