import LcdPanel.Proofs.Json.Quoted

namespace LcdPanel.Json

open LcdPanel Utf8

mutual

def JValue.write : JValue → List UInt8
  | .null => [0x6E, 0x75, 0x6C, 0x6C]
  | .bool b => if b then [0x74, 0x72, 0x75, 0x65] else [0x66, 0x61, 0x6C, 0x73, 0x65]
  | .num t => t
  | .str bs => ofString (quote bs)
  | .arr items => 0x5B :: JValue.writeItems items ++ [0x5D]
  | .obj ms => 0x7B :: JValue.writeMembers ms ++ [0x7D]

def JValue.writeItems : List JValue → List UInt8
  | [] => []
  | v :: vs => v.write ++ JValue.writeMore vs

def JValue.writeMore : List JValue → List UInt8
  | [] => []
  | v :: vs => 0x2C :: v.write ++ JValue.writeMore vs

def JValue.writeMembers : List (List UInt8 × JValue) → List UInt8
  | [] => []
  | (k, v) :: ms => ofString (quote k) ++ 0x3A :: v.write ++ JValue.writeMoreMembers ms

def JValue.writeMoreMembers : List (List UInt8 × JValue) → List UInt8
  | [] => []
  | (k, v) :: ms => 0x2C :: ofString (quote k) ++ 0x3A :: v.write ++ JValue.writeMoreMembers ms

end

/-- The digits of an unsigned integer as the encoder writes one: decimal digits, with no leading
zero except in `0` itself. -/
structure Numeral (t : List UInt8) : Prop where
  ne_nil : t ≠ []
  digits : ∀ c ∈ t, isDigit c = true
  leading : t.head? = some 0x30 → t = [0x30]

mutual

/-- Whether the text of a value reads back as the value when at most `room` more arrays and
objects may be opened: strings and keys are valid UTF-8, and numbers are numerals. -/
def JValue.Printable : JValue → Nat → Prop
  | .num t, _ => Numeral t
  | .str bs, _ => valid bs = true
  | .arr items, room => 0 < room ∧ JValue.ItemsPrintable items (room - 1)
  | .obj ms, room => 0 < room ∧ JValue.MembersPrintable ms (room - 1)
  | .null, _ | .bool _, _ => True

def JValue.ItemsPrintable : List JValue → Nat → Prop
  | [], _ => True
  | v :: vs, room => v.Printable room ∧ JValue.ItemsPrintable vs room

def JValue.MembersPrintable : List (List UInt8 × JValue) → Nat → Prop
  | [], _ => True
  | (k, v) :: ms, room => valid k = true ∧ v.Printable room ∧ JValue.MembersPrintable ms room

end

/-! ## The checker along the text of a value -/

namespace Scanner

/-- Where the checker stands right after a value: a number may still take digits, and closing
the outermost array or object ends the top-level value. -/
def settle (s : Scanner) : JValue → Scanner
  | .num t => { s with state := if t = [0x30] then .zero else .one }
  | .arr _ | .obj _ =>
    if s.nest = [] then { s with state := .endTop, endTop := true } else { s with state := .endValue }
  | _ => { s with state := .endValue }

variable {s : Scanner}

theorem step_begin (hs : s.state = .beginValue ∨ s.state = .beginValueOrEmpty) {c : UInt8}
    (hsp : isSpace c = false) (hc : c ≠ 0x5D) (rest : List UInt8) :
    s.step c rest = s.atBeginValue c (c :: rest) := by
  rcases hs with hs | hs <;> simp [step, hs, hsp, hc]

theorem atBeginValue_digit {c : UInt8} (h1 : 0x31 ≤ c) (h2 : c ≤ 0x39) (cs : List UInt8) :
    s.atBeginValue c cs = s.go .one := by
  have hsp : isSpace c = false := by
    simp only [isSpace, Bool.or_eq_false_iff, decide_eq_false_iff_not]
    refine ⟨⟨⟨?_, ?_⟩, ?_⟩, ?_⟩ <;> rintro rfl <;> simp_all
  unfold atBeginValue
  rw [if_neg (by simp [hsp])]
  split <;> simp_all

theorem run_one {t : List UInt8} (hs : s.state = .one) (ht : ∀ c ∈ t, isDigit c = true)
    (rest : List UInt8) : s.run (t ++ rest) = s.run rest := by
  induction t with
  | nil => rfl
  | cons c t ih =>
    rw [List.cons_append, run_cons (t := s) (by simp [step, hs, ht c List.mem_cons_self]),
      ih fun c hc => ht c (List.mem_cons_of_mem _ hc)]

/-- The checker goes through a numeral from the start of a value. -/
theorem run_numeral (hs : s.state = .beginValue ∨ s.state = .beginValueOrEmpty) {t : List UInt8}
    (ht : Numeral t) (rest : List UInt8) : s.run (t ++ rest) = (s.settle (.num t)).run rest := by
  obtain ⟨c, cs, rfl⟩ := List.exists_cons_of_ne_nil ht.ne_nil
  have hc := ht.digits c List.mem_cons_self
  have hsp : isSpace c = false := by
    simp only [isDigit, Bool.and_eq_true, decide_eq_true_eq] at hc
    simp only [isSpace, Bool.or_eq_false_iff, decide_eq_false_iff_not]
    refine ⟨⟨⟨?_, ?_⟩, ?_⟩, ?_⟩ <;> rintro rfl <;> simp_all
  have hne : c ≠ 0x5D := by rintro rfl; simp [isDigit] at hc
  by_cases h0 : c = 0x30
  · -- a leading zero is the whole numeral
    have hcs := ht.leading (by simp [h0])
    simp only [List.cons.injEq] at hcs
    obtain ⟨rfl, rfl⟩ := hcs
    rw [List.cons_append, List.nil_append,
      run_cons (t := { s with state := .zero }) (by rw [step_begin hs hsp hne]; rfl)]
    simp [settle]
  · have h1 : 0x31 ≤ c := by
      simp only [isDigit, Bool.and_eq_true, decide_eq_true_eq] at hc
      rw [UInt8.le_iff_toNat_le] at hc ⊢
      have := fun h => h0 (UInt8.toNat_inj.1 h)
      simp_all
      omega
    have h2 : c ≤ 0x39 := by
      simp only [isDigit, Bool.and_eq_true, decide_eq_true_eq] at hc
      exact hc.2
    rw [List.cons_append, run_cons (t := { s with state := .one })
      (by rw [step_begin hs hsp hne, atBeginValue_digit h1 h2]; rfl),
      run_one rfl fun c hc => ht.digits c (List.mem_cons_of_mem _ hc)]
    simp [settle, h0]

theorem step_literal {w : String} {ch : Char} {left : List Char}
    (hs : s.state = .literal w (ch :: left)) {c : UInt8} (hc : c.toNat = ch.toNat)
    (rest : List UInt8) :
    s.step c rest = .ok { s with state := if left = [] then .endValue else .literal w left } := by
  simp [step, hs, hc, go]

/-- Inside a literal the checker takes the letters still to come, one byte each. -/
theorem run_literal_rest {w : String} {cs : List Char} (hs : s.state = .literal w cs)
    (hne : cs ≠ []) {bs : List UInt8} (hbs : bs.map UInt8.toNat = cs.map Char.toNat)
    (rest : List UInt8) : s.run (bs ++ rest) = { s with state := .endValue }.run rest := by
  induction cs generalizing s bs with
  | nil => exact absurd rfl hne
  | cons ch left ih =>
    obtain ⟨c, bs, rfl⟩ : ∃ c bs', bs = c :: bs' := List.exists_cons_of_ne_nil (by
      rintro rfl; simp at hbs)
    simp only [List.map_cons, List.cons.injEq] at hbs
    rw [List.cons_append, run_cons (step_literal hs hbs.1 _)]
    by_cases hleft : left = []
    · subst hleft
      simp only [List.map_nil, List.map_eq_nil_iff] at hbs
      simp [hbs.2]
    · simp only [if_neg hleft]
      exact ih rfl hleft hbs.2

/-- The checker goes through `null`, `true` and `false` from the start of a value. -/
theorem run_literal (hs : s.state = .beginValue ∨ s.state = .beginValueOrEmpty) {v : JValue}
    (hv : v = .null ∨ ∃ b, v = .bool b) (rest : List UInt8) :
    s.run (v.write ++ rest) = (s.settle v).run rest := by
  rcases hv with rfl | ⟨_ | _, rfl⟩
  · rw [show JValue.write .null = 0x6E :: [0x75, 0x6C, 0x6C] from rfl, List.cons_append,
      run_cons (t := { s with state := .literal "null" ['u', 'l', 'l'] })
        (by rw [step_begin hs (by decide) (by decide)]; rfl),
      run_literal_rest rfl (by simp) (by decide)]
    rfl
  · rw [show JValue.write (.bool false) = 0x66 :: [0x61, 0x6C, 0x73, 0x65] from rfl,
      List.cons_append, run_cons (t := { s with state := .literal "false" ['a', 'l', 's', 'e'] })
        (by rw [step_begin hs (by decide) (by decide)]; rfl),
      run_literal_rest rfl (by simp) (by decide)]
    rfl
  · rw [show JValue.write (.bool true) = 0x74 :: [0x72, 0x75, 0x65] from rfl, List.cons_append,
      run_cons (t := { s with state := .literal "true" ['r', 'u', 'e'] })
        (by rw [step_begin hs (by decide) (by decide)]; rfl),
      run_literal_rest rfl (by simp) (by decide)]
    rfl

theorem atBeginValue_open_arr (hd : s.nest.length < maxDepth) (cs : List UInt8) :
    s.atBeginValue 0x5B cs =
      .ok { s with nest := .arrayValue :: s.nest, state := .beginValueOrEmpty } := by
  simp [atBeginValue, isSpace, push, hd]

theorem atBeginValue_open_obj (hd : s.nest.length < maxDepth) (cs : List UInt8) :
    s.atBeginValue 0x7B cs =
      .ok { s with nest := .objectKey :: s.nest, state := .beginStringOrEmpty } := by
  simp [atBeginValue, isSpace, push, hd]

theorem step_after (hs : s.state = .endValue ∨ s.state = .one ∨ s.state = .zero) {c : UInt8}
    (hc : c = 0x2C ∨ c = 0x5D ∨ c = 0x7D) (rest : List UInt8) :
    s.step c rest = s.atEndValue c (c :: rest) := by
  rcases hs with hs | hs | hs <;> rcases hc with rfl | rfl | rfl <;>
    simp [step, hs, atZero, isDigit]

theorem pop_congr {t : Scanner} (hn : s.nest = t.nest) (he : s.endTop = t.endTop) :
    s.pop = t.pop := by
  cases s
  cases t
  simp only at hn he
  subst hn he
  rfl

theorem settle_nest (v : JValue) : (s.settle v).nest = s.nest := by
  cases v <;> simp only [settle] <;> split <;> simp_all

theorem settle_open {v : JValue} (hn : s.nest ≠ []) :
    ((s.settle v).state = .endValue ∨ (s.settle v).state = .one ∨
      (s.settle v).state = .zero) ∧
      (s.settle v).endTop = s.endTop := by
  cases v <;> simp only [settle, hn, if_false] <;> try split
  all_goals simp

/-- Closing an array or object opened at `s` leaves the checker as `settle` says. -/
theorem pop_eq_settle {n : Nest} {t : Scanner} (hn : t.nest = n :: s.nest)
    (he : t.endTop = s.endTop) {v : JValue}
    (hv : (∃ items, v = .arr items) ∨ ∃ ms, v = .obj ms) :
    t.pop = s.settle v := by
  cases t
  simp only at hn he
  subst hn he
  rcases hv with ⟨_, rfl⟩ | ⟨_, rfl⟩ <;> cases h : s.nest <;> simp [pop, settle, h]

mutual

/-- The checker goes through the text of a printable value from the start of a value, and stands
after it as `settle` says, whatever follows. -/
theorem run_write : (v : JValue) → ∀ {room : Nat}, v.Printable room → ∀ {s : Scanner},
    (s.state = .beginValue ∨ s.state = .beginValueOrEmpty) →
    s.nest.length + room ≤ maxDepth →
    ∀ rest, s.run (v.write ++ rest) = (s.settle v).run rest
  | .null, _, _, _, hs, _, rest => run_literal hs (.inl rfl) rest
  | .bool b, _, _, _, hs, _, rest => run_literal hs (.inr ⟨b, rfl⟩) rest
  | .num _, _, hv, _, hs, _, rest => run_numeral hs hv rest
  | .str _, _, hv, _, hs, _, rest =>
    run_quote (fun _ => by rw [step_begin hs (by decide) (by decide)]; rfl) hv rest
  | .arr [], _, hv, s, hs, hroom, rest => by
    have hd : s.nest.length < maxDepth := by simp only [JValue.Printable] at hv; omega
    rw [show (JValue.arr []).write ++ rest = 0x5B :: 0x5D :: rest by
        simp [JValue.write, JValue.writeItems],
      run_cons (by rw [step_begin hs (by decide) (by decide), atBeginValue_open_arr hd]),
      run_cons (t := s.settle (.arr [])) (by
        have hpop := pop_eq_settle (s := s)
          (t := ⟨.beginValueOrEmpty, .arrayValue :: s.nest, s.endTop⟩) rfl rfl
          (.inl ⟨[], rfl⟩)
        simp only [step, atEndValue, isSpace, hpop]
        rfl)]
  | .arr (v :: vs), room, hv, s, hs, hroom, rest => by
    simp only [JValue.Printable, JValue.ItemsPrintable] at hv
    obtain ⟨hpos, hv, hvs⟩ := hv
    -- `[`, the first item from the start of a value, then the others up to `]`
    let s1 : Scanner := ⟨.beginValueOrEmpty, .arrayValue :: s.nest, s.endTop⟩
    have hroom1 : s1.nest.length + (room - 1) ≤ maxDepth := by
      simp only [s1, List.length_cons]; omega
    have hopen1 := settle_open (s := s1) (v := v) (by simp [s1])
    have hpop : (s1.settle v).pop = s.settle (.arr (v :: vs)) :=
      pop_eq_settle (settle_nest v : (s1.settle v).nest = .arrayValue :: s.nest)
        (hopen1.2 : (s1.settle v).endTop = s.endTop) (.inl ⟨_, rfl⟩)
    rw [show (JValue.arr (v :: vs)).write ++ rest =
        0x5B :: (v.write ++ (JValue.writeMore vs ++ 0x5D :: rest)) by
        simp [JValue.write, JValue.writeItems],
      run_cons (t := s1)
        (by rw [step_begin hs (by decide) (by decide), atBeginValue_open_arr (by omega)]),
      run_write v hv (s := s1) (.inr rfl) hroom1,
      run_writeMore vs hvs hopen1.1 (by simp [settle_nest, s1])
        (by rw [settle_nest]; exact hroom1), hpop]
  | .obj [], _, hv, s, hs, hroom, rest => by
    have hd : s.nest.length < maxDepth := by simp only [JValue.Printable] at hv; omega
    rw [show (JValue.obj []).write ++ rest = 0x7B :: 0x7D :: rest by
        simp [JValue.write, JValue.writeMembers],
      run_cons (by rw [step_begin hs (by decide) (by decide), atBeginValue_open_obj hd]),
      run_cons (t := s.settle (.obj [])) (by
        have hpop := pop_eq_settle (s := s)
          (t := ⟨.beginStringOrEmpty, .objectValue :: s.nest, s.endTop⟩) rfl rfl
          (.inr ⟨[], rfl⟩)
        simp only [step, atEndValue, isSpace, hpop]
        rfl)]
  | .obj ((k, v) :: ms), room, hv, s, hs, hroom, rest => by
    simp only [JValue.Printable, JValue.MembersPrintable] at hv
    obtain ⟨hpos, hk, hv, hms⟩ := hv
    -- `{`, the first key, `:`, its value, then the other members up to `}`
    let s1 : Scanner := ⟨.beginStringOrEmpty, .objectKey :: s.nest, s.endTop⟩
    let s2 : Scanner := ⟨.beginValue, .objectValue :: s.nest, s.endTop⟩
    have hroom2 : s2.nest.length + (room - 1) ≤ maxDepth := by
      simp only [s2, List.length_cons]; omega
    have hopen2 := settle_open (s := s2) (v := v) (by simp [s2])
    have hpop : (s2.settle v).pop = s.settle (.obj ((k, v) :: ms)) :=
      pop_eq_settle (settle_nest v : (s2.settle v).nest = .objectValue :: s.nest)
        (hopen2.2 : (s2.settle v).endTop = s.endTop) (.inr ⟨_, rfl⟩)
    rw [show (JValue.obj ((k, v) :: ms)).write ++ rest =
        0x7B :: (ofString (quote k) ++ 0x3A :: (v.write ++ (JValue.writeMoreMembers ms ++
          0x7D :: rest))) by simp [JValue.write, JValue.writeMembers],
      run_cons (t := s1)
        (by rw [step_begin hs (by decide) (by decide), atBeginValue_open_obj (by omega)]),
      run_quote (s := s1) (fun _ => by simp [s1, step, isSpace, atBeginString, go]) hk,
      run_cons (t := s2) (by simp [s1, s2, step, atEndValue, isSpace]),
      run_write v hv (s := s2) (.inl rfl) hroom2,
      run_writeMoreMembers ms hms hopen2.1 (by simp [settle_nest, s2])
        (by rw [settle_nest]; exact hroom2), hpop]

/-- After an item, the checker goes through the other items of an array and its `]`. -/
theorem run_writeMore : (vs : List JValue) → ∀ {room : Nat}, JValue.ItemsPrintable vs room →
    ∀ {s : Scanner}, (s.state = .endValue ∨ s.state = .one ∨ s.state = .zero) →
    s.nest.head? = some .arrayValue → s.nest.length + room ≤ maxDepth →
    ∀ rest, s.run (JValue.writeMore vs ++ 0x5D :: rest) = s.pop.run rest
  | [], _, _, s, hs, hn, _, rest => by
    obtain ⟨ns, hns⟩ := List.head?_eq_some_iff.1 hn
    rw [show JValue.writeMore [] ++ 0x5D :: rest = 0x5D :: rest from rfl,
      run_cons (t := s.pop) (by rw [step_after hs (by decide)]; simp [atEndValue, hns, isSpace])]
  | v :: vs, room, hv, s, hs, hn, hroom, rest => by
    simp only [JValue.ItemsPrintable] at hv
    obtain ⟨hv, hvs⟩ := hv
    obtain ⟨ns, hns⟩ := List.head?_eq_some_iff.1 hn
    -- `,` then the item from the start of a value
    let s1 : Scanner := ⟨.beginValue, s.nest, s.endTop⟩
    have hopen1 := settle_open (s := s1) (v := v) (by simp [s1, hns])
    have hpop : (s1.settle v).pop = s.pop := pop_congr (settle_nest v) hopen1.2
    rw [show JValue.writeMore (v :: vs) ++ 0x5D :: rest =
        0x2C :: (v.write ++ (JValue.writeMore vs ++ 0x5D :: rest)) by simp [JValue.writeMore],
      run_cons (t := s1) (by
        rw [step_after hs (by decide)]
        simp [s1, atEndValue, hns, isSpace, go]),
      run_write v hv (s := s1) (.inl rfl) hroom,
      run_writeMore vs hvs hopen1.1 (by simp [settle_nest, s1, hns])
        (by rw [settle_nest]; exact hroom), hpop]

/-- After a member, the checker goes through the other members of an object and its `}`. -/
theorem run_writeMoreMembers : (ms : List (List UInt8 × JValue)) → ∀ {room : Nat},
    JValue.MembersPrintable ms room → ∀ {s : Scanner},
    (s.state = .endValue ∨ s.state = .one ∨ s.state = .zero) →
    s.nest.head? = some .objectValue → s.nest.length + room ≤ maxDepth →
    ∀ rest, s.run (JValue.writeMoreMembers ms ++ 0x7D :: rest) = s.pop.run rest
  | [], _, _, s, hs, hn, _, rest => by
    obtain ⟨ns, hns⟩ := List.head?_eq_some_iff.1 hn
    rw [show JValue.writeMoreMembers [] ++ 0x7D :: rest = 0x7D :: rest from rfl,
      run_cons (t := s.pop) (by rw [step_after hs (by decide)]; simp [atEndValue, hns, isSpace])]
  | (k, v) :: ms, room, hv, s, hs, hn, hroom, rest => by
    simp only [JValue.MembersPrintable] at hv
    obtain ⟨hk, hv, hms⟩ := hv
    obtain ⟨ns, hns⟩ := List.head?_eq_some_iff.1 hn
    -- `,`, the key, `:`, then the value from the start of a value
    let s1 : Scanner := ⟨.beginString, .objectKey :: ns, s.endTop⟩
    let s2 : Scanner := ⟨.beginValue, .objectValue :: ns, s.endTop⟩
    have hroom2 : s2.nest.length + room ≤ maxDepth := by simpa [s2, hns] using hroom
    have hopen2 := settle_open (s := s2) (v := v) (by simp [s2])
    have hpop : (s2.settle v).pop = s.pop := pop_congr (by rw [settle_nest, hns]) hopen2.2
    rw [show JValue.writeMoreMembers ((k, v) :: ms) ++ 0x7D :: rest =
        0x2C :: (ofString (quote k) ++ 0x3A :: (v.write ++ (JValue.writeMoreMembers ms ++
          0x7D :: rest))) by simp [JValue.writeMoreMembers],
      run_cons (t := s1) (by rw [step_after hs (by decide)]; simp [s1, atEndValue, hns, isSpace]),
      run_quote (s := s1) (fun _ => by simp [s1, step, isSpace, atBeginString, go]) hk,
      run_cons (t := s2) (by simp [s1, s2, step, atEndValue, isSpace]),
      run_write v hv (s := s2) (.inl rfl) hroom2,
      run_writeMoreMembers ms hms hopen2.1 (by simp [settle_nest, s2])
        (by rw [settle_nest]; exact hroom2), hpop]

end

end Scanner

/-! ## The reader along the text of a value -/

theorem isSpace_of_isDigit {c : UInt8} (h : isDigit c = true) : isSpace c = false := by
  simp only [isDigit, Bool.and_eq_true, decide_eq_true_eq] at h
  simp only [isSpace, Bool.or_eq_false_iff, decide_eq_false_iff_not]
  refine ⟨⟨⟨?_, ?_⟩, ?_⟩, ?_⟩ <;> rintro rfl <;> simp_all

theorem takeWhile_numeral {t : List UInt8} (ht : ∀ c ∈ t, isDigit c = true) {rest : List UInt8}
    (hrest : ∀ c ∈ rest.head?, isNumberByte c = false) :
    (t ++ rest).takeWhile isNumberByte = t := by
  induction t with
  | nil =>
    cases rest with
    | nil => rfl
    | cons c rest => simp [hrest c rfl]
  | cons c t ih =>
    have hc : isNumberByte c = true := by simp [isNumberByte, ht c List.mem_cons_self]
    rw [List.cons_append, List.takeWhile_cons_of_pos hc,
      ih fun c hc => ht c (List.mem_cons_of_mem _ hc)]

/-- A value that starts with a digit is read as a number, up to the first byte that cannot be
part of one. -/
theorem readValue_digit {c : UInt8} (hc : isDigit c = true) (rest : List UInt8) (n : Nat) :
    readValue (n + 1) (c :: rest) =
      some (.num ((c :: rest).takeWhile isNumberByte),
        (c :: rest).drop ((c :: rest).takeWhile isNumberByte).length) := by
  simp only [readValue, List.dropWhile_cons, isSpace_of_isDigit hc, Bool.false_eq_true, if_false]
  split <;> simp_all [isDigit]

theorem readValue_numeral {t : List UInt8} (ht : Numeral t) {rest : List UInt8}
    (hrest : ∀ c ∈ rest.head?, isNumberByte c = false) (n : Nat) :
    readValue (n + 1) (t ++ rest) = some (.num t, rest) := by
  obtain ⟨c, cs, rfl⟩ := List.exists_cons_of_ne_nil ht.ne_nil
  have htake := takeWhile_numeral ht.digits hrest
  rw [List.cons_append, readValue_digit (ht.digits c List.mem_cons_self), ← List.cons_append,
    htake, List.drop_left]

theorem readValue_literal {v : JValue} (hv : v = .null ∨ ∃ b, v = .bool b) (rest : List UInt8)
    (n : Nat) : readValue (n + 1) (v.write ++ rest) = some (v, rest) := by
  rcases hv with rfl | ⟨_ | _, rfl⟩ <;> rfl

theorem readValue_quote {bs : List UInt8} (h : valid bs = true) (rest : List UInt8) (n : Nat) :
    readValue (n + 1) (ofString (quote bs) ++ rest) = some (.str bs, rest) := by
  rw [ofString_quote, List.cons_append, List.cons_append, List.append_assoc, List.singleton_append]
  simp only [readValue, List.dropWhile_cons, show isSpace 0x22 = false from rfl,
    Bool.false_eq_true, if_false]
  rw [readStringBody_quoteBody h, (encodeRunes_runes h).1]

/-- The text of a printable value starts with a byte that is neither white space nor a closing
bracket. -/
theorem write_head {v : JValue} {room : Nat} (hv : v.Printable room) :
    ∃ c t, v.write = c :: t ∧ isSpace c = false ∧ c ≠ 0x5D := by
  cases v with
  | null => exact ⟨_, _, rfl, rfl, by decide⟩
  | bool b => cases b <;> exact ⟨_, _, rfl, rfl, by decide⟩
  | num t =>
    simp only [JValue.Printable] at hv
    obtain ⟨c, cs, rfl⟩ := List.exists_cons_of_ne_nil hv.ne_nil
    have hc := hv.digits c List.mem_cons_self
    exact ⟨c, cs, rfl, isSpace_of_isDigit hc, by rintro rfl; simp [isDigit] at hc⟩
  | str bs => exact ⟨0x22, _, ofString_quote bs, rfl, by decide⟩
  | arr items => exact ⟨0x5B, _, rfl, rfl, by decide⟩
  | obj ms => exact ⟨0x7B, _, rfl, rfl, by decide⟩

theorem writeMore_cons (v : JValue) (vs : List JValue) :
    JValue.writeMore (v :: vs) = 0x2C :: JValue.writeItems (v :: vs) := rfl

theorem writeMoreMembers_cons (m : List UInt8 × JValue) (ms : List (List UInt8 × JValue)) :
    JValue.writeMoreMembers (m :: ms) = 0x2C :: JValue.writeMembers (m :: ms) := rfl

theorem writeMembers_cons (k : List UInt8) (v : JValue) (ms : List (List UInt8 × JValue))
    (rest : List UInt8) :
    JValue.writeMembers ((k, v) :: ms) ++ rest =
      0x22 :: (ofString (quoteBody k) ++
        0x22 :: 0x3A :: (v.write ++ (JValue.writeMoreMembers ms ++ rest))) := by
  simp [JValue.writeMembers, ofString_quote]

/-- The text of members starts with the quote of the first key, so no white space is dropped. -/
theorem dropWhile_writeMembers (m : List UInt8 × JValue) (ms : List (List UInt8 × JValue))
    (rest : List UInt8) :
    (JValue.writeMembers (m :: ms) ++ rest).dropWhile isSpace =
      JValue.writeMembers (m :: ms) ++ rest := by
  obtain ⟨k, v⟩ := m
  rw [writeMembers_cons, List.dropWhile_cons, show isSpace 0x22 = false from rfl]
  rfl

theorem head_not_number (c : UInt8) (hc : isNumberByte c = false) (rest : List UInt8) :
    ∀ c' ∈ (c :: rest).head?, isNumberByte c' = false := by
  intro c' hc'
  simp only [List.head?_cons, Option.mem_def, Option.some.injEq] at hc'
  exact hc' ▸ hc

mutual

/-- The reader reads the text of a printable value back as the value, given as much fuel as
the text is long and a following byte that does not go on with a number. -/
theorem readValue_write : (v : JValue) → ∀ {room : Nat}, v.Printable room → ∀ {n : Nat}
    (rest : List UInt8), v.write.length ≤ n → (∀ c ∈ rest.head?, isNumberByte c = false) →
    readValue n (v.write ++ rest) = some (v, rest)
  | v, _, hv, 0, _, hn, _ => by
    obtain ⟨c, t, hw, -⟩ := write_head hv
    simp [hw] at hn
  | .null, _, _, n + 1, rest, _, _ => readValue_literal (.inl rfl) rest n
  | .bool b, _, _, n + 1, rest, _, _ => readValue_literal (.inr ⟨b, rfl⟩) rest n
  | .num _, _, hv, n + 1, rest, _, hrest => readValue_numeral hv hrest n
  | .str _, _, hv, n + 1, rest, _, _ => readValue_quote hv rest n
  | .arr [], _, _, n + 1, rest, _, _ => by
    simp [JValue.write, JValue.writeItems, readValue, isSpace]
  | .arr (v :: vs), _, hv, n + 1, rest, hn, _ => by
    simp only [JValue.Printable] at hv
    obtain ⟨-, hitems⟩ := hv
    obtain ⟨c, t, hw, hsp, hc⟩ := write_head hitems.1
    have hlen : (JValue.writeItems (v :: vs)).length + 1 ≤ n := by
      simp only [JValue.write, List.length_cons, List.length_append, List.length_nil] at hn
      omega
    have hread := readItems_write (v :: vs) (List.cons_ne_nil _ _) hitems [] rest hlen
    -- `[` is followed by the first item, not by `]`
    rw [show (JValue.arr (v :: vs)).write ++ rest =
        0x5B :: (JValue.writeItems (v :: vs) ++ 0x5D :: rest) by simp [JValue.write]]
    simp only [readValue, List.dropWhile_cons, show isSpace 0x5B = false from rfl,
      Bool.false_eq_true, if_false, JValue.writeItems, hw, List.cons_append, hsp]
    split
    · rename_i heq
      exact absurd (List.cons.inj heq).1 hc
    · simpa [JValue.writeItems, hw] using hread
  | .obj [], _, _, n + 1, rest, hn, _ => by
    obtain ⟨m, rfl⟩ : ∃ m, n = m + 1 := ⟨n - 1, by simp [JValue.write] at hn; omega⟩
    simp [JValue.write, JValue.writeMembers, readValue, readMembers, isSpace]
  | .obj ((k, v) :: ms), _, hv, n + 1, rest, hn, _ => by
    simp only [JValue.Printable] at hv
    obtain ⟨-, hmembers⟩ := hv
    have hlen : (JValue.writeMembers ((k, v) :: ms)).length + 1 ≤ n := by
      simp only [JValue.write, List.length_cons, List.length_append, List.length_nil] at hn
      omega
    have hread := readMembers_write ((k, v) :: ms) (List.cons_ne_nil _ _) hmembers [] rest hlen
    rw [show (JValue.obj ((k, v) :: ms)).write ++ rest =
        0x7B :: (JValue.writeMembers ((k, v) :: ms) ++ 0x7D :: rest) by simp [JValue.write]]
    simp only [readValue, List.dropWhile_cons, show isSpace 0x7B = false from rfl,
      Bool.false_eq_true, if_false]
    rw [dropWhile_writeMembers]
    simpa using hread

/-- The reader reads the items of an array back, up to its `]`. -/
theorem readItems_write : (items : List JValue) → items ≠ [] → ∀ {room : Nat},
    JValue.ItemsPrintable items room → ∀ {n : Nat} (acc : List JValue) (rest : List UInt8),
    (JValue.writeItems items).length + 1 ≤ n →
    readItems n (JValue.writeItems items ++ 0x5D :: rest) acc =
      some (.arr (acc.reverse ++ items), rest)
  | [], h, _, _, _, _, _, _ => absurd rfl h
  | _ :: _, _, _, _, 0, _, _, hn => absurd hn (by omega)
  | [v], _, _, hv, n + 1, acc, rest, hn => by
    simp only [JValue.ItemsPrintable] at hv
    have hbytes : JValue.writeItems [v] ++ 0x5D :: rest = v.write ++ 0x5D :: rest := by
      simp [JValue.writeItems, JValue.writeMore]
    have hlen : v.write.length ≤ n := by
      have := congrArg List.length hbytes
      simp only [List.length_append, List.length_cons] at this hn
      omega
    rw [hbytes]
    simp only [readItems, readValue_write v hv.1 (0x5D :: rest) hlen
      (head_not_number 0x5D (by decide) rest)]
    simp [isSpace]
  | v :: w :: ws, _, _, hv, n + 1, acc, rest, hn => by
    simp only [JValue.ItemsPrintable] at hv
    obtain ⟨hv, hws⟩ := hv
    have hbytes : JValue.writeItems (v :: w :: ws) ++ 0x5D :: rest =
        v.write ++ 0x2C :: (JValue.writeItems (w :: ws) ++ 0x5D :: rest) := by
      simp [JValue.writeItems, writeMore_cons]
    have hlen : v.write.length ≤ n ∧ (JValue.writeItems (w :: ws)).length + 1 ≤ n := by
      have := congrArg List.length hbytes
      simp only [List.length_append, List.length_cons] at this hn
      omega
    -- the item, then `,` and the items after it
    rw [hbytes]
    simp only [readItems, readValue_write v hv _ hlen.1 (head_not_number 0x2C (by decide) _),
      List.dropWhile_cons, show isSpace 0x2C = false from rfl, Bool.false_eq_true, if_false]
    rw [readItems_write (w :: ws) (List.cons_ne_nil _ _) hws (v :: acc) rest hlen.2]
    simp

/-- The reader reads the members of an object back, up to its `}`. -/
theorem readMembers_write : (ms : List (List UInt8 × JValue)) → ms ≠ [] → ∀ {room : Nat},
    JValue.MembersPrintable ms room → ∀ {n : Nat} (acc : List (List UInt8 × JValue))
    (rest : List UInt8), (JValue.writeMembers ms).length + 1 ≤ n →
    readMembers n (JValue.writeMembers ms ++ 0x7D :: rest) acc =
      some (.obj (acc.reverse ++ ms), rest)
  | [], h, _, _, _, _, _, _ => absurd rfl h
  | _ :: _, _, _, _, 0, _, _, hn => absurd hn (by omega)
  | [(k, v)], _, _, hv, n + 1, acc, rest, hn => by
    simp only [JValue.MembersPrintable] at hv
    obtain ⟨hk, hv, -⟩ := hv
    have hlen : v.write.length ≤ n := by
      have := congrArg List.length (writeMembers_cons k v [] (0x7D :: rest))
      simp only [List.length_append, List.length_cons] at this hn
      omega
    -- the key, `:`, the value, then `}`
    rw [writeMembers_cons]
    simp only [readMembers, readStringBody_quoteBody hk, List.dropWhile_cons,
      show isSpace 0x3A = false from rfl, Bool.false_eq_true, if_false,
      show JValue.writeMoreMembers [] = [] from rfl, List.nil_append,
      readValue_write v hv _ hlen (head_not_number 0x7D (by decide) rest),
      (encodeRunes_runes hk).1]
    simp [isSpace]
  | (k, v) :: m :: ms, _, _, hv, n + 1, acc, rest, hn => by
    simp only [JValue.MembersPrintable] at hv
    obtain ⟨hk, hv, hms⟩ := hv
    have hlen : v.write.length ≤ n ∧ (JValue.writeMembers (m :: ms)).length + 1 ≤ n := by
      have := congrArg List.length (writeMembers_cons k v (m :: ms) (0x7D :: rest))
      simp only [List.length_append, List.length_cons, writeMoreMembers_cons] at this hn
      omega
    -- the key, `:`, the value, then `,` and the members after it
    rw [writeMembers_cons]
    simp only [readMembers, readStringBody_quoteBody hk, List.dropWhile_cons,
      show isSpace 0x3A = false from rfl, Bool.false_eq_true, if_false, writeMoreMembers_cons,
      List.cons_append, readValue_write v hv _ hlen.1 (head_not_number 0x2C (by decide) _),
      show isSpace 0x2C = false from rfl, (encodeRunes_runes hk).1, dropWhile_writeMembers]
    rw [readMembers_write (m :: ms) (List.cons_ne_nil _ _) hms ((k, v) :: acc) rest hlen.2]
    simp

end

/-! ## Whole values -/

theorem complete_settle (v : JValue) : (({} : Scanner).settle v).complete = true := by
  cases v with
  | num t => by_cases h : t = [0x30] <;> simp [Scanner.settle, Scanner.complete, h]
  | _ => simp [Scanner.settle, Scanner.complete]

/-- Every printable value passes the checker and reads back from its text. -/
theorem parse_write {v : JValue} (hv : v.Printable maxDepth) : parse v.write = .ok v := by
  have hrun := Scanner.run_write v hv (s := {}) (.inl rfl) (by simp) []
  rw [List.append_nil] at hrun
  have hcheck : check v.write = .ok () := by
    simp only [check, hrun, Scanner.run]
    show (if _ then _ else _) = _
    rw [complete_settle, if_pos rfl]
  have hread := readValue_write v hv (n := 2 * v.write.length + 2) [] (by omega) (by simp)
  rw [List.append_nil] at hread
  simp [parse, hcheck, hread]

end LcdPanel.Json
