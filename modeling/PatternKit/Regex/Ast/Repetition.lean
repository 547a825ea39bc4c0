import PatternKit.Regex.Ast
import PatternKit.Regex.Reader

/-!
Repetition operators: `?`, `*`, `+` and counts in braces, each perhaps followed by a `?` that makes it
lazy.
-/

set_option autoImplicit false

namespace PatternKit.Regex.Repetition

open Reader (fail)

/-- A repetition operator. -/
structure Operator where
  min : Nat
  max : Option Nat
  greedy : Bool
deriving DecidableEq, Repr

/-- What can be repeated: everything but nothing and options. -/
def operand? : List Ast → Option (Ast × List Ast)
  | [] => none
  | .empty _ :: _ => none
  | .flags .. :: _ => none
  | a :: items => some (a, items)

/-- What is repeated is the last item. -/
theorem operand?_eq_some {items rest : List Ast} {a : Ast} (h : operand? items = some (a, rest)) :
    items = a :: rest := by
  unfold operand? at h
  split at h
  · cases h
  · cases h
  · cases h
  · cases h
    rfl

/-- The bounds of an operator of one character. -/
def bounds? (c : Char) : Option (Nat × Option Nat) :=
  match c with
  | '?' => some (0, some 1)
  | '*' => some (0, none)
  | '+' => some (1, none)
  | _ => none

/-- Reads an operator of one character, with its bounds given; the reader stands before it. -/
def simple (min : Nat) (max : Option Nat) (r : Reader) : Operator × Reader :=
  let after := r.advance 1
  match after.rest with
  | '?' :: _ => (⟨min, max, false⟩, after.advance 1)
  | _ => (⟨min, max, true⟩, after)

/-- The value of a list of decimal digits. -/
def decimalValue (digits : Text) : Nat :=
  digits.foldl (fun n d => n * 10 + (d.toNat - '0'.toNat)) 0

/-- Reads a number of at most 32 bits with blanks around it. -/
def decimal (r : Reader) (vs : List (Nat × Char)) :
    Except Diagnosis Nat × List (Nat × Char) :=
  let start := vs.dropWhile fun v => Unicode.isBlank v.2
  let digits := (start.takeWhile fun v => v.2.isDigit).map (·.2)
  let after := start.dropWhile fun v => v.2.isDigit
  let place : Span := ⟨r.offsetOf start, r.offsetOf after⟩
  let value := decimalValue digits
  let answer : Except Diagnosis Nat :=
    if digits.isEmpty then fail .repetitionCountEmpty place
    else if value < 0x100000000 then .ok value
    else fail .decimalInvalid place
  (answer, after.dropWhile fun v => Unicode.isBlank v.2)

/-- Reads what follows the brace of a count up to the closing brace: the bounds, and the rest behind that
brace. -/
def countBounds (r : Reader) (vs : List (Nat × Char)) :
    Except Diagnosis (Nat × Option Nat × List (Nat × Char)) := do
  let unclosed (vs : List (Nat × Char)) : Except Diagnosis (Nat × Option Nat × List (Nat × Char)) :=
    fail .repetitionCountUnclosed ⟨r.pos, r.offsetOf vs⟩
  let close (min : Nat) (max : Option Nat) (vs : List (Nat × Char)) :
      Except Diagnosis (Nat × Option Nat × List (Nat × Char)) :=
    match vs with
    | (_, '}') :: after => .ok (min, max, after)
    | _ => unclosed vs
  if vs.isEmpty then unclosed vs
  else
    let (first, vs) := decimal r vs
    match vs with
    | [] => unclosed vs
    | (_, c) :: after =>
      if c = ',' then
        match after with
        | [] => unclosed after
        | (_, d) :: _ =>
          if d = '}' then close (← first) none after
          else
            let min ← first
            let (second, vs) := decimal r after
            let max ← second
            close min (some max) vs
      else
        let n ← first
        close n (some n) vs

/-- Reads a count in braces; the reader stands before the brace. -/
def counted (extended : Bool) (r : Reader) : Except Diagnosis (Operator × Reader) := do
  let (min, max, after) ← countBounds r ((r.advance 1).visible extended)
  let (greedy, stop) :=
    match after with
    | (p, '?') :: _ => (false, p + 1)
    | _ => (true, r.offsetOf after)
  if max.all (min ≤ ·) then return (⟨min, max, greedy⟩, r.moveTo stop)
  else fail .repetitionCountInvalid ⟨r.pos, stop⟩

end PatternKit.Regex.Repetition
