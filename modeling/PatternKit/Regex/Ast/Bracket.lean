import PatternKit.Regex.Ast.Escape

/-!
Bracketed sets of characters: ranges, nested sets, named classes and operators on sets.
-/

set_option autoImplicit false

namespace PatternKit.Regex.Bracket

open Reader (fail)

/-- The class with a name. -/
def asciiClass? (name : Text) : Option AsciiClass :=
  match String.ofList name with
  | "alnum" => some .alnum
  | "alpha" => some .alpha
  | "ascii" => some .ascii
  | "blank" => some .blank
  | "cntrl" => some .cntrl
  | "digit" => some .digit
  | "graph" => some .graph
  | "lower" => some .lower
  | "print" => some .print
  | "punct" => some .punct
  | "space" => some .space
  | "upper" => some .upper
  | "word" => some .word
  | "xdigit" => some .xdigit
  | _ => none

/-- Reads what follows `[:` or `[:^`, up to and with `:]`, if it names a class. `start` is the offset of
the bracket. -/
def namedClass? (start : Nat) (negated : Bool) (r : Reader) : Option (ClassSet × Reader) :=
  let name := r.rest.takeWhile (· != ':')
  match r.rest.drop name.length with
  | ':' :: ']' :: _ =>
    (asciiClass? name).map fun kind =>
      let after := r.advance (name.length + 2)
      (.ascii ⟨start, after.pos⟩ negated kind, after)
  | _ => none

/-- Reads a named class such as `[:alpha:]`, if there is one. -/
def ascii? (r : Reader) : Option (ClassSet × Reader) :=
  match r.rest with
  | '[' :: ':' :: '^' :: _ => namedClass? r.pos true (r.advance 3)
  | '[' :: ':' :: _ => namedClass? r.pos false (r.advance 2)
  | _ => none

/-- The beginning of a bracketed set: its bracket, a `^`, and what is literal only there. -/
structure Opening where
  span : Span
  negated : Bool
  /-- Where the members begin. -/
  start : Nat
  /-- The literal members at the beginning, the last one first. -/
  items : List ClassSet

/-- Reads the hyphens at the beginning of a set, which are literal. `opened` is the offset of the bracket. -/
def leadingHyphens (opened : Nat) (items : List ClassSet) : List (Nat × Char) →
    Except Diagnosis (List ClassSet × List (Nat × Char))
  | [] => .ok (items, [])
  | (p, c) :: vs =>
    if c = '-' then
      match vs with
      | [] => fail .classUnclosed ⟨opened, opened⟩
      | _ => leadingHyphens opened (.literal ⟨⟨p, p + 1⟩, '-', false⟩ :: items) vs
    else .ok (items, (p, c) :: vs)

/-- Reads the beginning of a bracketed set; the reader stands before the bracket. -/
def opening (extended : Bool) (r : Reader) : Except Diagnosis (Opening × Reader) := do
  let unclosed : Except Diagnosis (Opening × Reader) := fail .classUnclosed ⟨r.pos, r.stop⟩
  match (r.advance 1).visible extended with
  | [] => unclosed
  | (p, c) :: vs =>
    let negated := c == '^'
    let inner := if negated then vs else (p, c) :: vs
    match inner with
    | [] => unclosed
    | (start, _) :: _ =>
      let (items, more) ← leadingHyphens r.pos [] inner
      match items, more with
      | [], (q, ']') :: after =>
        match after with
        | [] => unclosed
        | (next, _) :: _ =>
          return (⟨⟨r.pos, next⟩, negated, start, [.literal ⟨⟨q, q + 1⟩, ']', false⟩]⟩, r.moveTo next)
      | _, _ =>
        let next := r.offsetOf more
        return (⟨⟨r.pos, next⟩, negated, start, items⟩, r.moveTo next)

/-- The character after the next one, where a blank or a single `#` after the next one does not count in
extended text. -/
def peekSecond (extended : Bool) (r : Reader) : Option Char :=
  match r.rest with
  | [] => none
  | _ :: cs => if extended then (pass false cs).or cs.head? else cs.head?
where
  /-- The first character that is no blank and does not start a comment. -/
  pass (inComment : Bool) : Text → Option Char
    | [] => none
    | c :: cs =>
      if Unicode.isBlank c then pass inComment cs
      else if !inComment && c = '#' then pass true cs
      else some c

/-- Reads one character or escape sequence of a set. -/
def item (extended : Bool) (r : Reader) : Except Diagnosis (Ast × Reader) :=
  match r.rest with
  | [] => fail .classUnclosed r.here
  | c :: _ =>
    if c = '\\' then Escape.read extended r
    else .ok (.literal ⟨r.charSpan, c, false⟩, r.advance 1)

/-- A member of a set by itself. -/
def member : Ast → Except Diagnosis ClassSet
  | .literal l => .ok (.literal l)
  | .perl span negated kind => .ok (.perl span negated kind)
  | .property span negated query => .ok (.property span negated query)
  | a => fail .classEscapeInvalid a.span

/-- An end of a range. -/
def boundary : Ast → Except Diagnosis Literal
  | .literal l => .ok l
  | a => fail .classRangeLiteral a.span

/-- Reads a range or a single member. `opened` is the span of the beginning of the set. -/
def rangeOrMember (extended : Bool) (opened : Span) (r : Reader) :
    Except Diagnosis (ClassSet × Reader) := do
  let (first, r) ← item extended r
  let r := r.skip extended
  match r.rest with
  | [] => fail .classUnclosed opened
  | c :: _ =>
    let second := peekSecond extended r
    if c ≠ '-' || second = some ']' || second = some '-' then
      return (← member first, r)
    else
      let r := (r.advance 1).skip extended
      if r.rest.isEmpty then fail .classUnclosed opened
      else
        let (last, r) ← item extended r
        let span : Span := ⟨first.span.start, last.span.stop⟩
        let lo ← boundary first
        let hi ← boundary last
        if lo.char ≤ hi.char then return (.range span lo hi, r)
        else fail .classRangeInvalid span

/-- The members read so far, the last one first, as one set. `start` is where they begin. -/
def unionOf (start : Nat) (items : List ClassSet) : ClassSet :=
  match items with
  | [] => .empty ⟨start, start⟩
  | [x] => x
  | last :: _ =>
    let ordered := items.reverse
    match ordered with
    | first :: _ => .union ⟨first.span.start, last.span.stop⟩ ordered
    | [] => .empty ⟨start, start⟩

/-- Two members or more are a union of them in the order in which they were read. -/
theorem unionOf_several (start : Nat) (last previous : ClassSet) (acc : List ClassSet) :
    ∃ span, unionOf start (last :: previous :: acc) = .union span (last :: previous :: acc).reverse := by
  obtain ⟨first, more, reversed⟩ : ∃ first more, (last :: previous :: acc).reverse = first :: more :=
    List.exists_cons_of_ne_nil (by simp)
  rw [reversed]
  refine ⟨⟨first.span.start, last.span.stop⟩, ?_⟩
  simp only [unionOf, reversed]

/-- Applies the operator that waits for its right side. -/
def combine (pending : Option (SetOperator × ClassSet)) (rhs : ClassSet) : ClassSet :=
  match pending with
  | none => rhs
  | some (operator, lhs) => .operation ⟨lhs.span.start, rhs.span.stop⟩ operator lhs rhs

/-- The operator at the beginning of a text. -/
def operator? : Text → Option SetOperator
  | '&' :: '&' :: _ => some .intersection
  | '-' :: '-' :: _ => some .difference
  | '~' :: '~' :: _ => some .symmetricDifference
  | _ => none

/-- Reads the members of a set up to its closing bracket, and leaves the reader before it. `fuel` bounds
the number of members, `pending` is an operator with its left side, and `items` are the members of the
right side so far, the last one first, which begin at `start`. -/
def members (extended : Bool) : (fuel : Nat) → (opened : Span) → Option (SetOperator × ClassSet) →
    (start : Nat) → List ClassSet → Reader → Except Diagnosis (ClassSet × Reader)
  | 0, opened, _, _, _, _ => fail .classUnclosed opened
  | fuel + 1, opened, pending, start, items, r => do
    let r := r.skip extended
    match r.rest with
    | [] => fail .classUnclosed opened
    | c :: _ =>
      if c = '[' then
        match ascii? r with
        | some (set, after) => members extended fuel opened pending start (set :: items) after
        | none =>
          let (o, inside) ← opening extended r
          let (inner, close) ← members extended fuel o.span none o.start o.items inside
          let set := ClassSet.bracketed ⟨o.span.start, close.pos + 1⟩ o.negated inner
          members extended fuel opened pending start (set :: items) (close.advance 1)
      else if c = ']' then return (combine pending (unionOf start items), r)
      else
        match operator? r.rest with
        | some operator =>
          let lhs := combine pending (unionOf start items)
          let after := r.advance 2
          members extended fuel opened (some (operator, lhs)) after.pos [] after
        | none =>
          let (set, after) ← rangeOrMember extended opened r
          members extended fuel opened pending start (set :: items) after

/-- Reads a bracketed set; the reader stands before its bracket. -/
def read (extended : Bool) (r : Reader) : Except Diagnosis (Ast × Reader) := do
  let (o, inside) ← opening extended r
  let (inner, close) ← members extended r.rest.length o.span none o.start o.items inside
  return (.bracketed ⟨o.span.start, close.pos + 1⟩ o.negated inner, close.advance 1)

end PatternKit.Regex.Bracket
