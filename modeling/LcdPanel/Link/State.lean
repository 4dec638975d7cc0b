namespace LcdPanel.Link

/-- Whether a connection is down, being opened, or up. -/
inductive LinkState where
  | disconnected
  | connecting
  | connected
  deriving DecidableEq, Repr

def LinkState.number : LinkState → Nat
  | .disconnected => 0
  | .connecting => 1
  | .connected => 2

def stateName (n : Int) : String :=
  match n with
  | 0 => "disconnected"
  | 1 => "connecting"
  | 2 => "connected"
  | _ => s!"state({n})"

def LinkState.name (s : LinkState) : String :=
  stateName s.number

end LcdPanel.Link
