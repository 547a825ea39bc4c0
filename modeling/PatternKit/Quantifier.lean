import PatternKit.PatternError

/-!
Quantifiers: how often a component is repeated, and the suffix that says so in pattern text.
-/

set_option autoImplicit false

namespace PatternKit

/-- A number of repetitions. -/
inductive Quantifier where
  | optional
  | oneOrMore
  | zeroOrMore
  | exactly (n : Nat)
  | atLeast (n : Nat)
  | between (min max : Nat) (ordered : min ≤ max)
deriving DecidableEq, Repr

namespace Quantifier

/-- From `min` to `max` repetitions, if that is a range. -/
def between? (min max : Nat) : Except PatternError Quantifier :=
  if h : min ≤ max then .ok (.between min max h) else .error (.invertedBounds min max)

/-- The suffix in pattern text. -/
def suffix : Quantifier → Text
  | .optional => ['?']
  | .oneOrMore => ['+']
  | .zeroOrMore => ['*']
  | .exactly n => '{' :: Text.ofNat n ++ ['}']
  | .atLeast n => '{' :: Text.ofNat n ++ [',', '}']
  | .between min max _ => '{' :: Text.ofNat min ++ ',' :: Text.ofNat max ++ ['}']

/-- Suffixes consist of digits and of characters of their own. -/
theorem mem_suffix {q : Quantifier} {c : Char} (h : c ∈ q.suffix) :
    c.isDigit = true ∨ c ∈ ['?', '+', '*', '{', '}', ','] := by
  have digit {n : Nat} (member : c ∈ Text.ofNat n) : c.isDigit = true := Text.isDigit_of_mem_ofNat member
  cases q with
  | optional => simp_all [suffix]
  | oneOrMore => simp_all [suffix]
  | zeroOrMore => simp_all [suffix]
  | exactly n =>
    have parts : c = '{' ∨ c ∈ Text.ofNat n ∨ c = '}' := by simpa [suffix] using h
    rcases parts with rfl | member | rfl
    · simp
    · exact .inl (digit member)
    · simp
  | atLeast n =>
    have parts : c = '{' ∨ c ∈ Text.ofNat n ∨ c = ',' ∨ c = '}' := by simpa [suffix] using h
    rcases parts with rfl | member | rfl | rfl
    · simp
    · exact .inl (digit member)
    · simp
    · simp
  | between min max _ =>
    have parts : c = '{' ∨ c ∈ Text.ofNat min ∨ c = ',' ∨ c ∈ Text.ofNat max ∨ c = '}' := by
      simpa [suffix] using h
    rcases parts with rfl | member | rfl | member | rfl
    · simp
    · exact .inl (digit member)
    · simp
    · exact .inl (digit member)
    · simp

/-- A pattern with the suffix after it. -/
def apply (q : Quantifier) (pattern : Text) : Text := pattern ++ q.suffix

/-- `true` when there is no greatest number of repetitions. -/
def isUnbounded : Quantifier → Bool
  | .oneOrMore | .zeroOrMore | .atLeast _ => true
  | .optional | .exactly _ | .between .. => false

/-- Whether a suffix, as it is read, names no greatest number of repetitions. -/
def isOpenEnded (suffix : Text) : Bool :=
  suffix == ['*'] || suffix == ['+'] || [',', '}'].isSuffixOf suffix

/-- A quantifier as it is asked for: its bounds may still be the wrong way round. -/
inductive Request where
  | optional
  | oneOrMore
  | zeroOrMore
  | exactly (n : Nat)
  | atLeast (n : Nat)
  | between (min max : Nat)
deriving DecidableEq, Repr

/-- The quantifier asked for. -/
def Request.build : Request → Except PatternError Quantifier
  | .optional => .ok .optional
  | .oneOrMore => .ok .oneOrMore
  | .zeroOrMore => .ok .zeroOrMore
  | .exactly n => .ok (.exactly n)
  | .atLeast n => .ok (.atLeast n)
  | .between min max => between? min max

/-- Only bounds that are the wrong way round are refused. -/
theorem Request.build_eq_error_iff {request : Request} {e : PatternError} :
    request.build = .error e ↔
      ∃ min max, request = .between min max ∧ max < min ∧ e = .invertedBounds min max := by
  cases request with
  | between min max =>
    by_cases h : min ≤ max
    · constructor
      · intro refused
        simp [build, between?, h] at refused
      · rintro ⟨_, _, same, inverted, -⟩
        cases same
        omega
    · constructor
      · intro refused
        obtain rfl : PatternError.invertedBounds min max = e := by
          simpa [build, between?, h] using refused
        exact ⟨min, max, rfl, Nat.not_le.mp h, rfl⟩
      · rintro ⟨_, _, same, -, rfl⟩
        cases same
        simp [build, between?, h]
  | _ => simp [build]

/-- The name of the operation that asks for a quantifier. -/
def Request.operation : Request → String
  | .optional => "optional"
  | .oneOrMore => "one_or_more"
  | .zeroOrMore => "zero_or_more"
  | .exactly _ => "exactly"
  | .atLeast _ => "at_least"
  | .between .. => "between"

end Quantifier

end PatternKit
