import LcdPanel.Remote.Topic

namespace LcdPanel.Remote

open LcdPanel

/-- A call the queue makes on its broker connection. -/
inductive BrokerCall
  | subscribe (topic : Topic) (qos : Nat)
  | subscribeAll (topics : List Topic)
  | unsubscribe (topics : List Topic)
  | publish (topic : Topic) (qos : Nat) (retained : Bool) (payload : List UInt8)
  | connect
  | disconnect (quiesce : Nat)
  deriving DecidableEq, Repr

/-- The handlers attached to one filter, in the order they attached. -/
structure Route where
  filter : Topic
  subs : List Nat
  deriving DecidableEq, Repr

/-- A queue: its topic root, its routes in the order they were made, the number of
subscriptions made so far, and whether the broker has been given the queue's message callback. -/
structure Queue where
  topicRoot : Topic
  routes : List Route := []
  made : Nat := 0
  listening : Bool := false
  deriving DecidableEq, Repr

def Route.takes (r : Route) (topic : Topic) : Bool :=
  r.filter = topic || matchTopic topic r.filter

namespace Queue

def ofRoot (root : Topic) : Queue := { topicRoot := root }

def brokerTopic (q : Queue) (topic : Topic) : Topic := q.topicRoot ++ topic

/-- Attaches a new subscription to a filter: it joins the filter's route, or makes one, in which
case the broker is asked to subscribe. -/
def sub (q : Queue) (filter : Topic) : (Queue × Nat) × List BrokerCall :=
  let id := q.made
  if q.routes.any (·.filter = filter) then
    (({ q with
      routes := q.routes.map fun r => if r.filter = filter then { r with subs := r.subs ++ [id] } else r
      made := id + 1 }, id), [])
  else
    (({ q with routes := q.routes ++ [⟨filter, [id]⟩], made := id + 1, listening := true }, id),
      [.subscribe (q.brokerTopic filter) 0])

/-- Closes a subscription: it leaves its route, and a route left empty is dropped and the
broker asked to unsubscribe. A subscription already closed changes nothing. -/
def close (q : Queue) (id : Nat) : Queue × List BrokerCall :=
  match q.routes.find? (·.subs.contains id) with
  | none => (q, [])
  | some r =>
    if r.subs = [id] then
      ({ q with routes := q.routes.filter (·.filter ≠ r.filter) },
        [.unsubscribe [q.brokerTopic r.filter]])
    else
      ({ q with routes := q.routes.map fun s =>
          if s.filter = r.filter then { s with subs := s.subs.erase id } else s }, [])

def relative? (q : Queue) (topic : Topic) : Option Topic :=
  if q.topicRoot.isPrefixOf topic then some (topic.drop q.topicRoot.length) else none

/-- The subscriptions a message on a broker topic goes to, in order, with the relative topic. -/
def receivers (q : Queue) (topic : Topic) : Option (Topic × List Nat) :=
  (q.relative? topic).map fun rel =>
    (rel, (q.routes.filter (·.takes rel)).flatMap (·.subs))

def byteLe : List UInt8 → List UInt8 → Bool
  | [], _ => true
  | _ :: _, [] => false
  | a :: as, b :: bs => a < b || (a = b && byteLe as bs)

/-- Asks the broker again for every route's subscription, in increasing order of topic; with no
routes nothing is asked. -/
def resubscribe (q : Queue) : Queue × List BrokerCall :=
  if q.routes.isEmpty then (q, [])
  else
    ({ q with listening := true },
      [.subscribeAll ((q.routes.map fun r => q.brokerTopic r.filter).mergeSort byteLe)])

def publish (q : Queue) (topic : Topic) (payload : List UInt8) (qos : Nat) (retain : Bool) :
    BrokerCall :=
  .publish (q.brokerTopic topic) qos retain payload

/-- What a handler of a queue was called with. -/
inductive Handled
  | message (sub : Nat) (topic : Topic) (payload : List UInt8)
  | disconnected
  deriving DecidableEq, Repr

/-- One thing done to a queue. -/
inductive Action
  | sub (filter : Topic)
  | close (sub : Nat)
  | deliver (topic : Topic) (payload : List UInt8)
  | resubscribe
  | connected
  | publish (topic : Topic) (payload : List UInt8) (qos : Nat) (retain : Bool)
  | lost
  deriving DecidableEq, Repr

/-- What an action did: the subscription it made, the handler calls and the broker calls. -/
structure Effect where
  sub : Option Nat := none
  handled : List Handled := []
  calls : List BrokerCall := []
  deriving DecidableEq, Repr

/-- Performs an action on a queue whose handlers record their calls; `onLost` says whether a
handler for a lost connection is set. A message can only be delivered once the broker has the
queue's callback, so a delivery before that is refused. -/
def perform (onLost : Bool) (q : Queue) : Action → Option (Queue × Effect)
  | .sub filter =>
    let ((q, id), calls) := q.sub filter
    some (q, { sub := some id, calls })
  | .close id =>
    let (q, calls) := q.close id
    some (q, { calls })
  | .deliver topic payload =>
    if !q.listening then none
    else
      let handled := match q.receivers topic with
        | none => []
        | some (rel, subs) => subs.map fun id => .message id rel payload
      some (q, { handled })
  | .resubscribe | .connected =>
    let (q, calls) := q.resubscribe
    some (q, { calls })
  | .publish topic payload qos retain => some (q, { calls := [q.publish topic payload qos retain] })
  | .lost => some (q, { handled := if onLost then [.disconnected] else [] })

end Queue

end LcdPanel.Remote
