import LcdPanel.Text.Utf8

namespace LcdPanel.Text

/-- One piece of a pattern; `star` and `any` match no `/`, and a class lists closed ranges of code
points, possibly negated. -/
inductive GlobPiece
  | star
  | any
  | oneOf (negated : Bool) (ranges : List (Nat × Nat))
  | byte (b : UInt8)
  deriving DecidableEq, Repr

/-- A character of a class at the front of the pattern text: its code point and the text after
it. It may not be `-` or `]` unescaped, must be valid UTF-8, and must be followed by more. -/
def classChar (p : List UInt8) : Option (Nat × List UInt8) :=
  let p := match p with
    | 0x5C :: r => r
    | c :: r => if c = 0x2D || c = 0x5D then [] else c :: r
    | [] => []
  match p with
  | [] => none
  | c :: r =>
    let rest := r.drop (Utf8.front c r).2
    if !Utf8.frontValid c r || rest.isEmpty then none else some ((Utf8.front c r).1, rest)

/-- The ranges of a class after its opening bracket (and caret): the ranges and the text after
the closing bracket. `fuel` bounds the number of ranges. -/
def classRanges : Nat → List (Nat × Nat) → List UInt8 → Option (List (Nat × Nat) × List UInt8)
  | 0, _, _ => none
  | fuel + 1, acc, p =>
    match p with
    | 0x5D :: rest => if acc.isEmpty then none else some (acc, rest)
    | _ => do
      let (lo, p) ← classChar p
      match p with
      | 0x2D :: q =>
        let (hi, p) ← classChar q
        classRanges fuel (acc ++ [(lo, hi)]) p
      | _ => classRanges fuel (acc ++ [(lo, lo)]) p

/-- The pieces of a pattern, or nothing when it is not well formed. -/
def globPieces (p : List UInt8) : Option (List GlobPiece) :=
  go (p.length + 1) p
where
  go : Nat → List UInt8 → Option (List GlobPiece)
    | 0, _ => none
    | _ + 1, [] => some []
    | fuel + 1, 0x2A :: rest => (.star :: ·) <$> go fuel rest
    | fuel + 1, 0x3F :: rest => (.any :: ·) <$> go fuel rest
    | fuel + 1, 0x5C :: c :: rest => (.byte c :: ·) <$> go fuel rest
    | _ + 1, [0x5C] => none
    | fuel + 1, 0x5B :: rest => do
      let (negated, body) := match rest with
        | 0x5E :: r => (true, r)
        | r => (false, r)
      let (ranges, after) ← classRanges (body.length + 1) [] body
      (.oneOf negated ranges :: ·) <$> go fuel after
    | fuel + 1, c :: rest => (.byte c :: ·) <$> go fuel rest

/-- Whether the pieces match the whole name. A character is read as UTF-8; an invalid byte
reads as U+FFFD. -/
def piecesMatch : List GlobPiece → List UInt8 → Bool
  | [], name => name.isEmpty
  | .star :: ps, name =>
    piecesMatch ps name ||
      match name with
      | [] => false
      | c :: rest => c ≠ 0x2F && piecesMatch (.star :: ps) rest
  | .byte b :: ps, name =>
    match name with
    | c :: rest => c = b && piecesMatch ps rest
    | [] => false
  | .any :: ps, name =>
    match name with
    | [] => false
    | c :: rest => c ≠ 0x2F && piecesMatch ps (rest.drop (Utf8.front c rest).2)
  | .oneOf negated ranges :: ps, name =>
    match name with
    | [] => false
    | c :: rest =>
      let r := (Utf8.front c rest).1
      (ranges.any (fun (lo, hi) => lo ≤ r && r ≤ hi) != negated) &&
        piecesMatch ps (rest.drop (Utf8.front c rest).2)
termination_by ps name => ps.length + name.length
decreasing_by all_goals simp only [List.length_cons, List.length_drop]; omega

/-- Whether a pattern matches a whole name; a pattern that is not well formed matches
nothing. -/
def globMatch (pattern name : List UInt8) : Bool :=
  match globPieces pattern with
  | some ps => piecesMatch ps name
  | none => false

end LcdPanel.Text
