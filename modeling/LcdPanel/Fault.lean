namespace LcdPanel

/-- A bounds violation that stops an operation: a capacity below zero or above the largest
allocation, `2^48` bytes; a slice start outside its sequence; or an index out of range. -/
inductive Fault where
  | capacity
  | sliceStart (lo : Int)
  | index (i : Int) (len : Nat)
  deriving DecidableEq, Repr

def Fault.message : Fault → String
  | .capacity => "runtime error: makeslice: cap out of range"
  | .sliceStart lo => s!"runtime error: slice bounds out of range [{lo}:]"
  | .index i len =>
    if i < 0 then s!"runtime error: index out of range [{i}]"
    else s!"runtime error: index out of range [{i}] with length {len}"

end LcdPanel
