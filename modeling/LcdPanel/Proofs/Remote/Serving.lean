import LcdPanel.Proofs.Remote.Bridge
import LcdPanel.Proofs.Remote.Frames

/-!
Serving the display to one websocket client: the reader, the key subscription and the writer
share one bounded queue of frames.
-/

namespace LcdPanel.Remote

open LcdPanel LcdPanel.Display LcdPanel.Frame LcdPanel.Link Utf8

/-! ## Replies to frames -/

/-- The reply sent when a display program ends: its message, or a failure with the error's
text. -/
def replyOf : Except DeviceError Message → Message
  | .ok m => m
  | .error e => Message.failure e.message

/-- The frame `f` answers the client's text `text`: it is the frame of the reply to what the
text's display program ends with, for some answers of the device. -/
def Answers (text : List UInt8) (f : String) : Prop :=
  ∃ prog r, replyToFrame text = some prog ∧ prog.Yields r ∧ f = (replyOf r).frameText

theorem Message.IsReply.frameName {m : Message} (h : m.IsReply) :
    m.type.frameName = "ok" ∨ m.type.frameName = "error" := by
  rcases h with rfl | ⟨t, rfl⟩
  · exact .inl rfl
  · exact .inr rfl

theorem replyToFrame_frameText (m : Message) (hvalid : ∀ t ∈ m.texts, valid t = true) :
    replyToFrame (ofString m.frameText) = some (execute m) := by
  simp only [replyToFrame, Message.read_frameText hvalid, Message.decode_frame]

/-- Whatever the device answers, the program of a frame ends with a reply to a command. -/
theorem isReply_of_replyToFrame {text : List UInt8} {prog : Exchange Message}
    {r : Except DeviceError Message} (hp : replyToFrame text = some prog) (hr : prog.Yields r) :
    (replyOf r).IsReply := by
  unfold replyToFrame at hp
  split at hp
  · cases hp
  · split at hp
    · cases hp
      rw [Exchange.yields_done hr]
      exact .inr ⟨_, rfl⟩
    · cases hp
      obtain ⟨reply, rfl, hreply⟩ := execute_yields hr
      exact hreply

/-- A reply frame is an `ok` or an `error` frame; a frame whose message cannot be had is answered
with the error that says why. -/
theorem Answers.spec {text : List UInt8} {f : String} (h : Answers text f) :
    (∃ m : Message, (m.type.frameName = "ok" ∨ m.type.frameName = "error") ∧ f = m.frameText) ∧
      ∀ fr e, Frame.read text = .ok fr → fr.decode = .error e →
        f = (Message.failure e.message).frameText := by
  obtain ⟨prog, r, hp, hr, rfl⟩ := h
  refine ⟨⟨_, (isReply_of_replyToFrame hp hr).frameName, rfl⟩, fun fr e hread hdecode => ?_⟩
  simp only [replyToFrame, hread, hdecode, Option.some.injEq] at hp
  subst hp
  rw [Exchange.yields_done hr]
  rfl

/-! ## The connection among goroutines -/

/-- Where the connection's reader is. -/
inductive Reader where
  | receiving
  | running (text : List UInt8) (prog : Exchange Message)
  | replying (text : List UInt8) (frame : String)
  | ended

def Reader.owes : Reader → Nat
  | .running .. | .replying .. => 1
  | _ => 0

@[simp] theorem Reader.owes_receiving : Reader.receiving.owes = 0 := rfl
@[simp] theorem Reader.owes_running (text : List UInt8) (prog : Exchange Message) :
    (Reader.running text prog).owes = 1 := rfl
@[simp] theorem Reader.owes_replying (text : List UInt8) (f : String) :
    (Reader.replying text f).owes = 1 := rfl
@[simp] theorem Reader.owes_ended : Reader.ended.owes = 0 := rfl

/-- What the reader does answers `next`, the first frame received and not yet answered: the rest
of a program of that frame's, whose results are results of the whole, or a reply that answers
it. -/
def Reader.Handles (next : Option (List UInt8)) : Reader → Prop
  | .running text prog => next = some text ∧
      ∃ prog₀, replyToFrame text = some prog₀ ∧ ∀ r, prog.Yields r → prog₀.Yields r
  | .replying text f => next = some text ∧ Answers text f
  | _ => True

/-- One connection being served: the room of its queue, the frames queued, the one the writer is
sending, those the client got, whether the writer returned, the reader, and whether the request's
context is done. -/
structure Serving where
  size : Nat
  queue : List String := []
  writing : Option String := none
  sent : List String := []
  writerDone : Bool := false
  reader : Reader := .receiving
  canceled : Bool := false

namespace Serving

/-- A new connection with the queue room asked for: a room not above zero means the default. -/
def start (size : Int) : Serving := { size := (Outbox.ofSize size).size }

def keyFrame (a : KeyAction) : String := (Message.ofKeyAction a).frameText

/-- Offers a frame to the queue: it goes in when there is room and is dropped otherwise. -/
def offer (s : Serving) (f : String) : Serving :=
  if s.queue.length < s.size then { s with queue := s.queue ++ [f] } else s

inductive Act where
  | key (a : KeyAction)
  | receive (text : List UInt8)
  | hangUp
  | device (reply : Except LinkError Packet)
  | settle
  | enqueue
  | abandon
  | pull
  | deliver
  | fail
  | quit
  | cancel

inductive Event where
  | keyed (frame : String) (kept : Bool)
  | received (text : List UInt8)
  | refused (text : List UInt8)
  | hungUp
  | asked (reply : Except LinkError Packet)
  | settled (reply : Message)
  | queued (frame : String)
  | abandoned
  | pulled (frame : String)
  | delivered (frame : String)
  | failed (frame : String)
  | quit
  | canceled

/-- One step, if the act can happen now. -/
def step (s : Serving) : Act → Option (Serving × Event)
  | .key a =>
    match s.reader with
    | .ended => none
    | _ => some (s.offer (keyFrame a), .keyed (keyFrame a) (decide (s.queue.length < s.size)))
  | .receive text =>
    match s.reader with
    | .receiving =>
      match replyToFrame text with
      | none => some ({ s with reader := .ended }, .refused text)
      | some prog => some ({ s with reader := .running text prog }, .received text)
    | _ => none
  | .hangUp =>
    match s.reader with
    | .receiving => some ({ s with reader := .ended }, .hungUp)
    | _ => none
  | .device reply =>
    match s.reader with
    | .running text (.ask _ next) => some ({ s with reader := .running text (next reply) }, .asked reply)
    | .running text (.askAtRate _ _ next) =>
      some ({ s with reader := .running text (next reply) }, .asked reply)
    | _ => none
  | .settle =>
    match s.reader with
    | .running text (.done r) =>
      some ({ s with reader := .replying text (replyOf r).frameText }, .settled (replyOf r))
    | _ => none
  | .enqueue =>
    match s.reader with
    | .replying _ f =>
      if s.queue.length < s.size then
        some ({ s with queue := s.queue ++ [f], reader := .receiving }, .queued f)
      else none
    | _ => none
  | .abandon =>
    match s.reader with
    | .replying _ _ => if s.canceled then some ({ s with reader := .ended }, .abandoned) else none
    | _ => none
  | .pull =>
    match s.writerDone, s.writing, s.queue with
    | false, none, f :: rest => some ({ s with writing := some f, queue := rest }, .pulled f)
    | _, _, _ => none
  | .deliver =>
    match s.writerDone, s.writing with
    | false, some f => some ({ s with writing := none, sent := s.sent ++ [f] }, .delivered f)
    | _, _ => none
  | .fail =>
    match s.writerDone, s.writing with
    | false, some f => some ({ s with writerDone := true }, .failed f)
    | _, _ => none
  | .quit =>
    match s.writerDone, s.writing, s.reader with
    | false, none, .ended => some ({ s with writerDone := true }, .quit)
    | _, _, _ => none
  | .cancel => some ({ s with canceled := true }, .canceled)

/-- A key event never waits while the connection is open: its frame joins the queue when there is
room and is dropped otherwise, whatever the writer and the client do. -/
theorem step_key {s : Serving} (hr : s.reader ≠ .ended) (a : KeyAction) :
    s.step (.key a) =
      some (s.offer (keyFrame a), .keyed (keyFrame a) (decide (s.queue.length < s.size))) := by
  cases h : s.reader with
  | ended => exact absurd h hr
  | receiving | running | replying => simp only [step, h]

theorem step_receive_frame {s : Serving} {text : List UInt8} {prog : Exchange Message}
    (hr : s.reader = .receiving) (hp : replyToFrame text = some prog) :
    s.step (.receive text) = some ({ s with reader := .running text prog }, .received text) := by
  simp only [step, hr, hp]

inductive Moves (s : Serving) : Serving → Event → Prop
  | key (a : KeyAction) : s.reader ≠ .ended →
      Moves s (s.offer (keyFrame a)) (.keyed (keyFrame a) (decide (s.queue.length < s.size)))
  | receive {text : List UInt8} {prog : Exchange Message} : s.reader = .receiving →
      replyToFrame text = some prog → Moves s { s with reader := .running text prog } (.received text)
  | refuse {text : List UInt8} : s.reader = .receiving → replyToFrame text = none →
      Moves s { s with reader := .ended } (.refused text)
  | hangUp : s.reader = .receiving → Moves s { s with reader := .ended } .hungUp
  | ask {text : List UInt8} {cmd : Packet} {next : Except LinkError Packet → Exchange Message}
      (reply : Except LinkError Packet) : s.reader = .running text (.ask cmd next) →
      Moves s { s with reader := .running text (next reply) } (.asked reply)
  | askAtRate {text : List UInt8} {cmd : Packet} {baud : Int}
      {next : Except LinkError Packet → Exchange Message} (reply : Except LinkError Packet) :
      s.reader = .running text (.askAtRate cmd baud next) →
      Moves s { s with reader := .running text (next reply) } (.asked reply)
  | settle {text : List UInt8} {r : Except DeviceError Message} : s.reader = .running text (.done r) →
      Moves s { s with reader := .replying text (replyOf r).frameText } (.settled (replyOf r))
  | enqueue {text : List UInt8} {f : String} : s.reader = .replying text f →
      s.queue.length < s.size →
      Moves s { s with queue := s.queue ++ [f], reader := .receiving } (.queued f)
  | abandon {text : List UInt8} {f : String} : s.reader = .replying text f → s.canceled = true →
      Moves s { s with reader := .ended } .abandoned
  | pull {f : String} {rest : List String} : s.writerDone = false → s.writing = none →
      s.queue = f :: rest → Moves s { s with writing := some f, queue := rest } (.pulled f)
  | deliver {f : String} : s.writerDone = false → s.writing = some f →
      Moves s { s with writing := none, sent := s.sent ++ [f] } (.delivered f)
  | fail {f : String} : s.writerDone = false → s.writing = some f →
      Moves s { s with writerDone := true } (.failed f)
  | quit : s.writerDone = false → s.writing = none → s.reader = .ended →
      Moves s { s with writerDone := true } .quit
  | cancel : Moves s { s with canceled := true } .canceled

variable {s s' : Serving} {e : Event}

theorem offer_size (s : Serving) (f : String) : (s.offer f).size = s.size := by
  unfold offer
  split <;> rfl

theorem offer_reader (s : Serving) (f : String) : (s.offer f).reader = s.reader := by
  unfold offer
  split <;> rfl

theorem offer_canceled (s : Serving) (f : String) : (s.offer f).canceled = s.canceled := by
  unfold offer
  split <;> rfl

/-- Every step is one of the moves. -/
theorem step_moves {a : Act} (h : s.step a = some (s', e)) : Moves s s' e := by
  cases a with
  | key a =>
    by_cases hr : s.reader = .ended
    · simp [step, hr] at h
    · rw [step_key hr] at h
      cases h
      exact .key a hr
  | receive text =>
    simp only [step] at h
    split at h
    · next hr =>
      split at h
      · next hp => cases h; exact .refuse hr hp
      · next prog hp => cases h; exact .receive hr hp
    · cases h
  | hangUp =>
    simp only [step] at h
    split at h
    · next hr => cases h; exact .hangUp hr
    · cases h
  | device reply =>
    simp only [step] at h
    split at h
    · next text cmd next hr => cases h; exact .ask reply hr
    · next text cmd baud next hr => cases h; exact .askAtRate reply hr
    · cases h
  | settle =>
    simp only [step] at h
    split at h
    · next text r hr => cases h; exact .settle hr
    · cases h
  | enqueue =>
    simp only [step] at h
    split at h
    · next text f hr =>
      split at h
      · next hlt => cases h; exact .enqueue hr hlt
      · cases h
    · cases h
  | abandon =>
    simp only [step] at h
    split at h
    · next text f hr =>
      split at h
      · next hc => cases h; exact .abandon hr hc
      · cases h
    · cases h
  | pull =>
    simp only [step] at h
    split at h
    · next f rest hd hw hq => cases h; exact .pull hd hw hq
    · cases h
  | deliver =>
    simp only [step] at h
    split at h
    · next f hd hw => cases h; exact .deliver hd hw
    · cases h
  | fail =>
    simp only [step] at h
    split at h
    · next f hd hw => cases h; exact .fail hd hw
    · cases h
  | quit =>
    simp only [step] at h
    split at h
    · next hd hw hr => cases h; exact .quit hd hw hr
    · cases h
  | cancel => cases h; exact .cancel

theorem Moves.size_eq (h : Moves s s' e) : s'.size = s.size := by
  cases h with
  | key a => exact offer_size s _
  | _ => rfl

/-- The connection goes from `s₀` to `s` showing the events `t`, in order. -/
inductive Run (s₀ : Serving) : List Event → Serving → Prop
  | nil : Run s₀ [] s₀
  | step {t : List Event} {s s' : Serving} {e : Event} (a : Act) :
      Run s₀ t s → s.step a = some (s', e) → Run s₀ (t ++ [e]) s'

theorem Run.append {s₀ s₁ : Serving} {t₁ t₂ : List Event} (h₁ : Run s₀ t₁ s₁)
    (h₂ : Run s₁ t₂ s) : Run s₀ (t₁ ++ t₂) s := by
  induction h₂ with
  | nil => simpa using h₁
  | step a _ hstep ih => rw [← List.append_assoc]; exact .step a ih hstep

theorem Run.cons {s₀ s₁ : Serving} {t : List Event} (a : Act)
    (hstep : s₀.step a = some (s₁, e)) (h : Run s₁ t s) : Run s₀ (e :: t) s :=
  (Run.step a .nil hstep).append h

theorem Run.size_eq {s₀ : Serving} {t : List Event} (h : Run s₀ t s) : s.size = s₀.size := by
  induction h with
  | nil => rfl
  | step a _ hstep ih => rw [(step_moves hstep).size_eq, ih]

/-! ## What the events say -/

namespace Event

@[simp] def enqueued : Event → Option String
  | .keyed f true => some f
  | .queued f => some f
  | _ => none

@[simp] def frame : Event → Option (List UInt8)
  | .received text => some text
  | _ => none

@[simp] def reply : Event → Option String
  | .queued f => some f
  | _ => none

@[simp] def isAbandoned : Event → Bool
  | .abandoned => true
  | _ => false

/-- An event that queues nothing, receives no frame and gives no reply up. -/
structure Quiet (e : Event) : Prop where
  enqueued : e.enqueued = none
  frame : e.frame = none
  reply : e.reply = none
  abandoned : e.isAbandoned = false

end Event

def enqueued (t : List Event) : List String := t.filterMap Event.enqueued

def frames (t : List Event) : List (List UInt8) := t.filterMap Event.frame

def replies (t : List Event) : List String := t.filterMap Event.reply

def abandons (t : List Event) : Nat := t.countP Event.isAbandoned

@[simp] theorem enqueued_snoc (t : List Event) (e : Event) :
    enqueued (t ++ [e]) = enqueued t ++ e.enqueued.toList := by
  simp only [enqueued, List.filterMap_append, List.filterMap_cons, List.filterMap_nil]
  cases e.enqueued <;> rfl

@[simp] theorem frames_snoc (t : List Event) (e : Event) :
    frames (t ++ [e]) = frames t ++ e.frame.toList := by
  simp only [frames, List.filterMap_append, List.filterMap_cons, List.filterMap_nil]
  cases e.frame <;> rfl

@[simp] theorem replies_snoc (t : List Event) (e : Event) :
    replies (t ++ [e]) = replies t ++ e.reply.toList := by
  simp only [replies, List.filterMap_append, List.filterMap_cons, List.filterMap_nil]
  cases e.reply <;> rfl

@[simp] theorem abandons_snoc (t : List Event) (e : Event) :
    abandons (t ++ [e]) = abandons t + e.isAbandoned.toNat := by
  simp only [abandons, List.countP_append, List.countP_singleton]
  cases e.isAbandoned <;> rfl

/-! ## The invariant -/

/-- What holds after the events `t` of every run from a new connection. -/
structure Inv (t : List Event) (s : Serving) : Prop where
  bounded : s.queue.length ≤ s.size
  in_order : s.sent ++ s.writing.toList ++ s.queue = enqueued t
  replied : List.Forall₂ Answers ((frames t).take (replies t).length) (replies t)
  count : (frames t).length = (replies t).length + s.reader.owes + abandons t
  handles : s.reader.Handles (frames t)[(replies t).length]?
  abandoned : abandons t ≤ 1
  abandoned_ended : 0 < abandons t → s.canceled = true ∧ s.reader = .ended

theorem inv_start (size : Int) : Inv [] (start size) where
  bounded := Nat.zero_le _
  in_order := rfl
  replied := .nil
  count := rfl
  handles := trivial
  abandoned := Nat.zero_le _
  abandoned_ended h := absurd h (Nat.lt_irrefl 0)

/-! ## What one step keeps -/

section Keeps

variable {t : List Event}

theorem Inv.abandons_eq_zero (hi : Inv t s) (hr : s.reader ≠ .ended) : abandons t = 0 :=
  Nat.eq_zero_of_not_pos fun h => hr (hi.abandoned_ended h).2

/-- A quiet event that leaves the reader, the frames in flight and a done context as they were,
and the queue no longer, keeps the invariant: the writer's moves and the context's. -/
theorem Inv.writer (hi : Inv t s) (he : e.Quiet) (hr : s'.reader = s.reader)
    (hsize : s'.size = s.size) (hq : s'.queue.length ≤ s.queue.length)
    (hflight : s'.sent ++ s'.writing.toList ++ s'.queue = s.sent ++ s.writing.toList ++ s.queue)
    (hc : s.canceled = true → s'.canceled = true) : Inv (t ++ [e]) s' where
  bounded := by have := hi.bounded; omega
  in_order := by rw [hflight, hi.in_order, enqueued_snoc, he.enqueued, Option.toList_none,
    List.append_nil]
  replied := by
    rw [frames_snoc, replies_snoc, he.frame, he.reply]
    simpa using hi.replied
  count := by
    rw [frames_snoc, replies_snoc, abandons_snoc, he.frame, he.reply, he.abandoned, hr]
    simpa using hi.count
  handles := by
    rw [frames_snoc, replies_snoc, he.frame, he.reply, hr]
    simpa using hi.handles
  abandoned := by
    rw [abandons_snoc, he.abandoned]
    simpa using hi.abandoned
  abandoned_ended h := by
    rw [abandons_snoc, he.abandoned, Bool.toNat_false, Nat.add_zero] at h
    exact ⟨hc (hi.abandoned_ended h).1, hr ▸ (hi.abandoned_ended h).2⟩

/-- A quiet event that moves an open reader to a place owing as much, which answers what the old
one answered, keeps the invariant. -/
theorem Inv.reader (hi : Inv t s) (he : e.Quiet) (hne : s.reader ≠ .ended) {r : Reader}
    (howes : r.owes = s.reader.owes)
    (hh : ∀ next, s.reader.Handles next → r.Handles next) :
    Inv (t ++ [e]) { s with reader := r } where
  bounded := hi.bounded
  in_order := by rw [hi.in_order, enqueued_snoc, he.enqueued, Option.toList_none, List.append_nil]
  replied := by
    rw [frames_snoc, replies_snoc, he.frame, he.reply]
    simpa using hi.replied
  count := by
    rw [frames_snoc, replies_snoc, abandons_snoc, he.frame, he.reply, he.abandoned]
    simpa [howes] using hi.count
  handles := by
    rw [frames_snoc, replies_snoc, he.frame, he.reply]
    simpa using hh _ hi.handles
  abandoned := by
    rw [abandons_snoc, he.abandoned]
    simpa using hi.abandoned
  abandoned_ended h := by
    rw [abandons_snoc, he.abandoned, Bool.toNat_false, Nat.add_zero] at h
    exact absurd (hi.abandoned_ended h).2 hne

theorem Inv.key (hi : Inv t s) (a : KeyAction) :
    Inv (t ++ [.keyed (keyFrame a) (decide (s.queue.length < s.size))]) (s.offer (keyFrame a)) where
  bounded := by
    unfold offer
    split
    · next hlt => simp only [List.length_append, List.length_singleton]; omega
    · exact hi.bounded
  in_order := by
    rw [enqueued_snoc, ← hi.in_order]
    unfold offer
    split
    · next hlt => simp [hlt]
    · next hlt => simp [hlt]
  replied := by simpa using hi.replied
  count := by simpa [offer_reader] using hi.count
  handles := by simpa [offer_reader] using hi.handles
  abandoned := by simpa using hi.abandoned
  abandoned_ended h := by
    rw [offer_canceled, offer_reader]
    exact hi.abandoned_ended (by simpa using h)

theorem Inv.receive (hi : Inv t s) (hr : s.reader = .receiving) {text : List UInt8}
    {prog : Exchange Message} (hp : replyToFrame text = some prog) :
    Inv (t ++ [.received text]) { s with reader := .running text prog } := by
  -- the reader waits for a frame, so every frame received so far is answered
  have h0 := hi.abandons_eq_zero (by rw [hr]; nofun)
  have hlen : (frames t).length = (replies t).length := by
    have h := hi.count
    rwa [hr, h0, Reader.owes_receiving, Nat.add_zero] at h
  exact
    { bounded := hi.bounded
      in_order := by simpa using hi.in_order
      replied := by simpa [List.take_append_of_le_length (Nat.le_of_eq hlen.symm)] using hi.replied
      count := by simp [h0, hlen]
      handles := ⟨by simp [hlen], prog, hp, fun _ hy => hy⟩
      abandoned := by simpa using hi.abandoned
      abandoned_ended := fun h => absurd h0 (by simpa using h.ne') }

theorem Inv.enqueue (hi : Inv t s) {text : List UInt8} {f : String}
    (hr : s.reader = .replying text f) (hlt : s.queue.length < s.size) :
    Inv (t ++ [.queued f]) { s with queue := s.queue ++ [f], reader := .receiving } := by
  have h0 := hi.abandons_eq_zero (by rw [hr]; nofun)
  have hlen : (frames t).length = (replies t).length + 1 := by
    have h := hi.count
    rwa [hr, h0, Reader.owes_replying, Nat.add_zero] at h
  -- the reply answers the first frame not yet answered
  obtain ⟨hnext, hans⟩ : (frames t)[(replies t).length]? = some text ∧ Answers text f := by
    have h := hi.handles
    rwa [hr] at h
  exact
    { bounded := by simp only [List.length_append, List.length_singleton]; omega
      in_order := by simp [← hi.in_order]
      replied := by
        simp only [frames_snoc, Event.frame, Option.toList_none, List.append_nil, replies_snoc,
          Event.reply, Option.toList_some, List.length_append, List.length_singleton]
        rw [List.take_add_one, hnext, Option.toList_some]
        exact List.rel_append hi.replied (.cons hans .nil)
      count := by simp [h0, hlen]
      handles := trivial
      abandoned := by simpa using hi.abandoned
      abandoned_ended := fun h => absurd h0 (by simpa using h.ne') }

theorem Inv.abandon (hi : Inv t s) {text : List UInt8} {f : String}
    (hr : s.reader = .replying text f) (hc : s.canceled = true) :
    Inv (t ++ [.abandoned]) { s with reader := .ended } := by
  have h0 := hi.abandons_eq_zero (by rw [hr]; nofun)
  have hlen : (frames t).length = (replies t).length + 1 := by
    have h := hi.count
    rwa [hr, h0, Reader.owes_replying, Nat.add_zero] at h
  exact
    { bounded := hi.bounded
      in_order := by simpa using hi.in_order
      replied := by simpa using hi.replied
      count := by simp [h0, hlen]
      handles := trivial
      abandoned := by simp [h0]
      abandoned_ended := fun _ => ⟨hc, rfl⟩ }

/-- Every step keeps the invariant. -/
theorem Inv.step (hi : Inv t s) (hm : Moves s s' e) : Inv (t ++ [e]) s' := by
  cases hm with
  | key a => exact hi.key a
  | receive hr hp => exact hi.receive hr hp
  | refuse hr hp =>
    exact hi.reader ⟨rfl, rfl, rfl, rfl⟩ (by rw [hr]; nofun) (by simp [hr])
      fun _ _ => trivial
  | hangUp hr =>
    exact hi.reader ⟨rfl, rfl, rfl, rfl⟩ (by rw [hr]; nofun) (by simp [hr])
      fun _ _ => trivial
  | ask reply hr =>
    refine hi.reader ⟨rfl, rfl, rfl, rfl⟩ (by rw [hr]; nofun) (by simp [hr]) ?_
    rw [hr]
    rintro next ⟨hnext, prog₀, hp, hy⟩
    exact ⟨hnext, prog₀, hp, fun r h => hy r (.ask reply h)⟩
  | askAtRate reply hr =>
    refine hi.reader ⟨rfl, rfl, rfl, rfl⟩ (by rw [hr]; nofun) (by simp [hr]) ?_
    rw [hr]
    rintro next ⟨hnext, prog₀, hp, hy⟩
    exact ⟨hnext, prog₀, hp, fun r h => hy r (.askAtRate reply h)⟩
  | settle hr =>
    refine hi.reader ⟨rfl, rfl, rfl, rfl⟩ (by rw [hr]; nofun) (by simp [hr]) ?_
    rw [hr]
    rintro next ⟨hnext, prog₀, hp, hy⟩
    exact ⟨hnext, prog₀, _, hp, hy _ (.done _), rfl⟩
  | enqueue hr hlt => exact hi.enqueue hr hlt
  | abandon hr hc => exact hi.abandon hr hc
  | pull hd hw hq =>
    exact hi.writer ⟨rfl, rfl, rfl, rfl⟩ rfl rfl (by simp [hq]) (by simp [hw, hq]) id
  | deliver hd hw => exact hi.writer ⟨rfl, rfl, rfl, rfl⟩ rfl rfl le_rfl (by simp [hw]) id
  | fail hd hw => exact hi.writer ⟨rfl, rfl, rfl, rfl⟩ rfl rfl le_rfl rfl id
  | quit hd hw hr => exact hi.writer ⟨rfl, rfl, rfl, rfl⟩ rfl rfl le_rfl rfl id
  | cancel => exact hi.writer ⟨rfl, rfl, rfl, rfl⟩ rfl rfl le_rfl rfl fun _ => rfl

end Keeps

theorem Run.inv {size : Int} {t : List Event} (h : Run (start size) t s) : Inv t s := by
  induction h with
  | nil => exact inv_start size
  | step a _ hstep ih => exact ih.step (step_moves hstep)

/-! ## What the connection guarantees -/

/-- What holds after the events `t` of every run from a new connection asking for a queue of room
`size`. -/
structure Serves (size : Int) (t : List Event) (s : Serving) : Prop where
  /-- The queue has the room asked for, or the default room when that is not above zero. -/
  room : s.size = if size ≤ 0 then defaultOutboxSize else size.toNat
  /-- A key event never waits while the connection is open: its frame joins the queue when there
  is room and is dropped otherwise. -/
  keys : s.reader ≠ .ended → ∀ a, s.step (.key a) =
    some (s.offer (keyFrame a), .keyed (keyFrame a) (decide (s.queue.length < s.size)))
  /-- The queue holds no more than its room. -/
  bounded : s.queue.length ≤ s.size
  /-- The frames leave in the order they were queued. -/
  in_order : s.sent ++ s.writing.toList ++ s.queue = enqueued t
  /-- The replies queued answer the first frames received, one for one and in order. -/
  replied : List.Forall₂ Answers ((frames t).take (replies t).length) (replies t)
  /-- Each reply is an `ok` or an `error` frame, and the `error` frame with the reason for a frame
  whose message cannot be had. -/
  replies_spec : ∀ p ∈ ((frames t).take (replies t).length).zip (replies t),
    (∃ m : Message, (m.type.frameName = "ok" ∨ m.type.frameName = "error") ∧ p.2 = m.frameText) ∧
      ∀ fr e, Frame.read p.1 = .ok fr → fr.decode = .error e →
        p.2 = (Message.failure e.message).frameText
  /-- Each frame received has its reply queued, is being answered, or had its reply given up. -/
  one_each : (frames t).length = (replies t).length + s.reader.owes + abandons t
  /-- A reply is given up once at most, and only once the context is done. -/
  given_up : abandons t ≤ 1 ∧ (0 < abandons t → s.canceled = true)

/-- Along every interleaving of key events, client frames, device answers, the writer's sends and
the end of the request's context: key events never wait, and are dropped exactly when the queue,
of the room asked for or the default room, is full; the queue never holds more; the frames leave in
the order they were queued; the replies queued answer the frames received one for one and in
order, each an `ok` or `error` frame, `error` for a frame whose message cannot be had; and every
frame received has its reply queued or being made, unless the context was done. -/
theorem serve_answers_each_frame_in_order {size : Int} {t : List Event}
    (h : Run (start size) t s) : Serves size t s := by
  have hi := h.inv
  have hroom : s.size = (start size).size := h.size_eq
  exact ⟨hroom, fun hr a => step_key hr a, hi.bounded, hi.in_order, hi.replied,
    fun p hp => (List.forall₂_zip hi.replied hp).spec, hi.count, hi.abandoned,
    fun h => (hi.abandoned_ended h).1⟩

/-- A queue of room one: a key event is kept and the next dropped while the queue is full; a
`clear` frame then runs on the display and its `ok` reply follows the key event to the client. -/
theorem serve_drops_key_then_answers_clear :
    Run (start 1)
      [.keyed (keyFrame ⟨1⟩) true, .keyed (keyFrame ⟨1⟩) false, .pulled (keyFrame ⟨1⟩),
        .received (ofString Message.clear.frameText), .asked (.ok ⟨0x46, []⟩),
        .settled .commandOk, .queued Message.commandOk.frameText, .delivered (keyFrame ⟨1⟩),
        .pulled Message.commandOk.frameText, .delivered Message.commandOk.frameText, .hungUp,
        .quit]
      { size := 1, sent := [keyFrame ⟨1⟩, Message.commandOk.frameText], writerDone := true,
        reader := .ended } ∧
    Serves 1
      [.keyed (keyFrame ⟨1⟩) true, .keyed (keyFrame ⟨1⟩) false, .pulled (keyFrame ⟨1⟩),
        .received (ofString Message.clear.frameText), .asked (.ok ⟨0x46, []⟩),
        .settled .commandOk, .queued Message.commandOk.frameText, .delivered (keyFrame ⟨1⟩),
        .pulled Message.commandOk.frameText, .delivered Message.commandOk.frameText, .hungUp,
        .quit]
      { size := 1, sent := [keyFrame ⟨1⟩, Message.commandOk.frameText], writerDone := true,
        reader := .ended } := by
  have hframe : replyToFrame (ofString Message.clear.frameText) = some (execute .clear) :=
    replyToFrame_frameText .clear fun _ ht => by cases ht
  have hrun : Run (start 1)
      [.keyed (keyFrame ⟨1⟩) true, .keyed (keyFrame ⟨1⟩) false, .pulled (keyFrame ⟨1⟩),
        .received (ofString Message.clear.frameText), .asked (.ok ⟨0x46, []⟩),
        .settled .commandOk, .queued Message.commandOk.frameText, .delivered (keyFrame ⟨1⟩),
        .pulled Message.commandOk.frameText, .delivered Message.commandOk.frameText, .hungUp,
        .quit]
      { size := 1, sent := [keyFrame ⟨1⟩, Message.commandOk.frameText], writerDone := true,
        reader := .ended } :=
    .cons (.key ⟨1⟩) rfl <| .cons (.key ⟨1⟩) rfl <| .cons .pull rfl <|
      .cons (.receive _) (step_receive_frame rfl hframe) <| .cons (.device (.ok ⟨0x46, []⟩)) rfl <|
      .cons .settle rfl <| .cons .enqueue rfl <| .cons .deliver rfl <| .cons .pull rfl <|
      .cons .deliver rfl <| .cons .hangUp rfl <| .cons .quit rfl .nil
  exact ⟨hrun, serve_answers_each_frame_in_order hrun⟩

end Serving

end LcdPanel.Remote
