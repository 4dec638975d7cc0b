import LcdPanel.Text.Utf8

namespace LcdPanel.Remote

open LcdPanel

/-- A topic or a topic filter. -/
abbrev Topic := List UInt8

/-- The levels of a topic: the runs of bytes between slashes, so there is always at least one. -/
def levels : Topic → List (List UInt8)
  | [] => [[]]
  | b :: bs =>
    match levels bs with
    | [] => [[b]]
    | l :: ls => if b = 0x2F then [] :: l :: ls else (b :: l) :: ls

def anyLevel : List UInt8 := [0x2B]

def restLevels : List UInt8 := [0x23]

/-- Whether the topic levels are selected by the filter levels, walking both from the front. -/
def matchLevels : (topic filter : List (List UInt8)) → Bool
  | _, [] => false
  | topic, [f] =>
    if f = restLevels then true
    else match topic with
      | [t] => f = anyLevel || f = t
      | _ => false
  | [], _ :: _ :: _ => false
  | [t], f :: g :: rest => (f = anyLevel || f = t) && g = restLevels && rest.isEmpty
  | t :: t2 :: ts, f :: g :: rest =>
    (f = anyLevel || f = t) && matchLevels (t2 :: ts) (g :: rest)

def matchTopic (topic filter : Topic) : Bool :=
  matchLevels (levels topic) (levels filter)

example : matchTopic (Utf8.ofString "a/b") (Utf8.ofString "a/+") ∧
    matchTopic (Utf8.ofString "a") (Utf8.ofString "a/#") ∧
    matchTopic (Utf8.ofString "a/b/c") (Utf8.ofString "#") ∧
    ¬matchTopic (Utf8.ofString "a/b") (Utf8.ofString "a") ∧ matchTopic [] [] ∧
    ¬matchTopic (Utf8.ofString "a/b") (Utf8.ofString "#/b") := by
  decide +kernel

end LcdPanel.Remote
