import PatternKit.Quantifier
import PatternKit.Regex.Ast.OfText

/-!
Suffixes read back. The operator that pattern text says with the suffix of a quantifier has the bounds of
the quantifier, and it is greedy unless a question mark follows.
-/

set_option autoImplicit false

namespace PatternKit

namespace Regex.Reader

variable {r : Reader} {s t : Text} {p : Nat}

theorem numberFrom_append (p : Nat) (s t : Text) :
    numberFrom p (s ++ t) = numberFrom p s ++ numberFrom (p + s.length) t := by
  induction s generalizing p with
  | nil => rfl
  | cons c s ih =>
    rw [List.cons_append, numberFrom, ih, List.length_cons, Nat.add_right_comm, Nat.add_assoc]
    rfl

theorem map_numberFrom (p : Nat) (s : Text) : (numberFrom p s).map (·.2) = s := by
  induction s generalizing p with
  | nil => rfl
  | cons c s ih => rw [numberFrom, List.map_cons, ih]

theorem mem_of_mem_numberFrom {v : Nat × Char} (h : v ∈ numberFrom p s) : v.2 ∈ s := by
  rw [← map_numberFrom p s]
  exact List.mem_map_of_mem h

/-- The place of a rest of the text is where the rest begins, also when nothing is left. -/
theorem offsetOf_numberFrom (split : r.rest = s ++ t) :
    r.offsetOf (numberFrom (r.pos + s.length) t) = r.pos + s.length := by
  cases t with
  | nil => simp [numberFrom, offsetOf, stop, split]
  | cons c t => rfl

theorem moveTo_append (p : Nat) (s t : Text) :
    moveTo ⟨p, s ++ t⟩ (p + s.length) = ⟨p + s.length, t⟩ := by
  simp [moveTo]

end Regex.Reader

namespace Quantifier

/-- The least number of repetitions. -/
def least : Quantifier → Nat
  | .optional | .zeroOrMore => 0
  | .oneOrMore => 1
  | .exactly n | .atLeast n => n
  | .between min _ _ => min

/-- The greatest number of repetitions, if there is one. -/
def greatest : Quantifier → Option Nat
  | .optional => some 1
  | .zeroOrMore | .oneOrMore | .atLeast _ => none
  | .exactly n => some n
  | .between _ max _ => some max

/-- Whether the bounds are numbers of 32 bits. -/
def Fits (q : Quantifier) : Prop := q.least < 0x100000000 ∧ ∀ n ∈ q.greatest, n < 0x100000000

instance (q : Quantifier) : Decidable q.Fits := inferInstanceAs (Decidable (_ ∧ _))

theorem suffix_ne_nil (q : Quantifier) : q.suffix ≠ [] := by
  cases q <;> simp [suffix]

end Quantifier

namespace Regex.Repetition

open Reader (numberFrom numberFrom_append)

theorem decimalValue_ofNat (n : Nat) : decimalValue (Text.ofNat n) = n := by
  have value := Nat.ofDigitChars_ten_toDigits (n := n)
  rw [Nat.ofDigitChars_eq_foldl] at value
  unfold decimalValue Text.ofNat
  simpa only [Nat.mul_comm] using value

/-- A number is written with a digit at least. -/
theorem ofNat_eq_cons (n : Nat) : ∃ d ds, Text.ofNat n = d :: ds ∧ d.isDigit = true := by
  obtain ⟨d, ds, digits⟩ := List.exists_cons_of_ne_nil (Nat.toDigits_ne_nil : Nat.toDigits 10 n ≠ [])
  refine ⟨d, ds, digits, Text.isDigit_of_mem_ofNat (n := n) ?_⟩
  rw [Text.ofNat, digits]
  exact List.mem_cons_self

private theorem not_isBlank_of_isDigit {c : Char} (h : c.isDigit = true) : Unicode.isBlank c = false := by
  have bounds : 48 ≤ c.toNat ∧ c.toNat ≤ 57 := Char.isDigit_iff_toNat.mp h
  -- the digits lie above U+0020 and below U+0085
  show CharSet.containsCode c.toNat (⟨0x9, 0xd⟩ :: ⟨0x20, 0x20⟩ :: ⟨0x85, 0x85⟩ :: _) = false
  rw [CharSet.containsCode_of_hi_lt, CharSet.containsCode_of_hi_lt, CharSet.containsCode_of_lt_lo]
  all_goals simp only
  all_goals omega

/-- The number that stands before a character which is neither a digit nor blank. -/
private theorem decimal_ofNat (r : Reader) {n : Nat} (fits : n < 0x100000000) (p : Nat) {c : Char} (t : Text)
    (digit : c.isDigit = false) (blank : Unicode.isBlank c = false) :
    decimal r (numberFrom p (Text.ofNat n ++ c :: t)) =
      (.ok n, numberFrom (p + (Text.ofNat n).length) (c :: t)) := by
  obtain ⟨d, ds, digits, first⟩ := ofNat_eq_cons n
  have start : (numberFrom p (Text.ofNat n ++ c :: t)).dropWhile (fun v => Unicode.isBlank v.2) =
      numberFrom p (Text.ofNat n ++ c :: t) := by
    rw [digits, List.cons_append, numberFrom, List.dropWhile_cons, not_isBlank_of_isDigit first]
    rfl
  have all : ∀ v ∈ numberFrom p (Text.ofNat n), v.2.isDigit = true := fun v member =>
    Text.isDigit_of_mem_ofNat (Reader.mem_of_mem_numberFrom member)
  have rest : ∀ q, numberFrom q (c :: t) = (q, c) :: numberFrom (q + 1) t := fun _ => rfl
  have taken : (numberFrom p (Text.ofNat n ++ c :: t)).takeWhile (fun v => v.2.isDigit) =
      numberFrom p (Text.ofNat n) := by
    rw [numberFrom_append, List.takeWhile_append_of_pos all, rest, List.takeWhile_cons]
    simp [digit]
  have dropped : (numberFrom p (Text.ofNat n ++ c :: t)).dropWhile (fun v => v.2.isDigit) =
      numberFrom (p + (Text.ofNat n).length) (c :: t) := by
    rw [numberFrom_append, List.dropWhile_append_of_pos all, rest, List.dropWhile_cons]
    simp [digit]
  have behind : (numberFrom (p + (Text.ofNat n).length) (c :: t)).dropWhile
      (fun v => Unicode.isBlank v.2) = numberFrom (p + (Text.ofNat n).length) (c :: t) := by
    rw [rest, List.dropWhile_cons]
    simp [blank]
  unfold decimal
  simp only [start, taken, dropped, behind, Reader.map_numberFrom, decimalValue_ofNat, if_pos fits]
  simp [digits]

variable {r : Reader} {p : Nat} {t : Text}

private theorem isEmpty_numberFrom_ofNat (n : Nat) (t : Text) :
    (numberFrom p (Text.ofNat n ++ t)).isEmpty = false := by
  obtain ⟨d, ds, digits, -⟩ := ofNat_eq_cons n
  rw [digits]
  rfl

private theorem countBounds_exactly {n : Nat} (fits : n < 0x100000000) :
    countBounds r (numberFrom p (Text.ofNat n ++ '}' :: t)) =
      .ok (n, some n, numberFrom (p + (Text.ofNat n).length + 1) t) := by
  unfold countBounds
  rw [isEmpty_numberFrom_ofNat, if_neg Bool.false_ne_true,
    decimal_ofNat r fits p t (by decide) (by decide)]
  rfl

private theorem countBounds_atLeast {n : Nat} (fits : n < 0x100000000) :
    countBounds r (numberFrom p (Text.ofNat n ++ ',' :: '}' :: t)) =
      .ok (n, none, numberFrom (p + (Text.ofNat n).length + 2) t) := by
  unfold countBounds
  rw [isEmpty_numberFrom_ofNat, if_neg Bool.false_ne_true,
    decimal_ofNat r fits p ('}' :: t) (by decide) (by decide)]
  rfl

private theorem countBounds_between {m n : Nat} (fits : m < 0x100000000) (fits' : n < 0x100000000) :
    countBounds r (numberFrom p (Text.ofNat m ++ ',' :: (Text.ofNat n ++ '}' :: t))) =
      .ok (m, some n,
        numberFrom (p + (Text.ofNat m).length + 1 + (Text.ofNat n).length + 1) t) := by
  have second := decimal_ofNat r fits' (p + (Text.ofNat m).length + 1) (c := '}') t
    (by decide) (by decide)
  obtain ⟨d, ds, digits, first⟩ := ofNat_eq_cons n
  have close : d ≠ '}' := by
    rintro rfl
    exact absurd first (by decide)
  unfold countBounds
  rw [isEmpty_numberFrom_ofNat, if_neg Bool.false_ne_true, decimal_ofNat r fits p _ (by decide) (by decide)]
  rw [digits] at second ⊢
  simp only [List.cons_append, numberFrom] at second ⊢
  simp only [if_neg close, second]
  rfl

/-- Whether an operator that ends before a text is greedy, and the reader behind it. -/
def greed (r : Reader) : Bool × Reader :=
  if r.rest.head? = some '?' then (false, r.advance 1) else (true, r)

theorem greed_mark (p : Nat) (t : Text) : greed ⟨p, '?' :: t⟩ = (false, ⟨p + 1, t⟩) := rfl

theorem greed_of_head?_ne (h : t.head? ≠ some '?') : greed ⟨p, t⟩ = (true, ⟨p, t⟩) := if_neg h

private theorem simple_eq (min : Nat) (max : Option Nat) (r : Reader) :
    simple min max r = (⟨min, max, (greed (r.advance 1)).1⟩, (greed (r.advance 1)).2) := by
  unfold simple greed
  dsimp only
  split
  · rename_i mark
    rw [if_pos (by rw [mark]; rfl)]
  · rename_i mark
    have none : (r.advance 1).rest.head? ≠ some '?' := fun head => by
      obtain ⟨t, same⟩ := List.head?_eq_some_iff.mp head
      exact mark t same
    rw [if_neg none]

private theorem counted_eq {s : Text} (min : Nat) (max : Option Nat)
    (bounds : countBounds ⟨p, '{' :: (s ++ t)⟩ (numberFrom (p + 1) (s ++ t)) =
      .ok (min, max, numberFrom (p + 1 + s.length) t))
    (ordered : ∀ n ∈ max, min ≤ n) :
    counted false ⟨p, '{' :: (s ++ t)⟩ =
      .ok (⟨min, max, (greed ⟨p + 1 + s.length, t⟩).1⟩, (greed ⟨p + 1 + s.length, t⟩).2) := by
  have visible : (Reader.advance ⟨p, '{' :: (s ++ t)⟩ 1).visible false = numberFrom (p + 1) (s ++ t) := rfl
  have fine : max.all (min ≤ ·) = true := by simpa [Option.all_eq_true] using ordered
  have length : p + 1 + s.length = p + ('{' :: s).length := by rw [List.length_cons]; omega
  unfold counted
  rw [visible, bounds]
  show (if max.all (min ≤ ·) = true then _ else _) = _
  rw [if_pos fine, length]
  by_cases mark : t.head? = some '?'
  · obtain ⟨t, rfl⟩ := List.head?_eq_some_iff.mp mark
    have moved := Reader.moveTo_append p ('{' :: s ++ ['?']) t
    rw [List.append_assoc, List.length_append] at moved
    rw [greed_mark]
    exact congrArg (fun r => Except.ok (_, r)) moved
  · have moved := Reader.moveTo_append p ('{' :: s) t
    have place : Reader.offsetOf ⟨p, '{' :: (s ++ t)⟩ (numberFrom (p + ('{' :: s).length) t) =
        p + ('{' :: s).length := Reader.offsetOf_numberFrom rfl
    rw [greed_of_head?_ne mark, place]
    split
    · rename_i same
      cases t with
      | nil => cases same
      | cons c t =>
        have head : c = '?' := congrArg Prod.snd (List.cons.inj same).1
        rw [head] at mark
        exact absurd rfl mark
    · exact congrArg (fun r => Except.ok (_, r)) moved

/-- The operator that the suffix of a quantifier says. -/
private def operatorOf (q : Quantifier) (r : Reader) : Operator × Reader :=
  (⟨q.least, q.greatest, (greed r).1⟩, (greed r).2)

private theorem counted_exactly {n : Nat} (fits : n < 0x100000000) (p : Nat) (t : Text) :
    counted false ⟨p, '{' :: Text.ofNat n ++ ['}'] ++ t⟩ =
      .ok (operatorOf (.exactly n) ⟨p + (Quantifier.exactly n).suffix.length, t⟩) := by
  have text : '{' :: Text.ofNat n ++ ['}'] ++ t = '{' :: (Text.ofNat n ++ ['}'] ++ t) := rfl
  have length : p + (Quantifier.exactly n).suffix.length = p + 1 + (Text.ofNat n ++ ['}']).length := by
    simp [Quantifier.suffix]
    omega
  rw [text, counted_eq n (some n), length]
  · rfl
  · rw [List.append_assoc, List.singleton_append, countBounds_exactly fits]
    simp [Nat.add_assoc]
  · rintro _ ⟨⟩
    exact Nat.le_refl _

private theorem counted_atLeast {n : Nat} (fits : n < 0x100000000) (p : Nat) (t : Text) :
    counted false ⟨p, '{' :: Text.ofNat n ++ [',', '}'] ++ t⟩ =
      .ok (operatorOf (.atLeast n) ⟨p + (Quantifier.atLeast n).suffix.length, t⟩) := by
  have text : '{' :: Text.ofNat n ++ [',', '}'] ++ t = '{' :: (Text.ofNat n ++ [',', '}'] ++ t) := rfl
  have length : p + (Quantifier.atLeast n).suffix.length =
      p + 1 + (Text.ofNat n ++ [',', '}']).length := by
    simp [Quantifier.suffix]
    omega
  rw [text, counted_eq n none, length]
  · rfl
  · rw [List.append_assoc, List.cons_append, List.singleton_append, countBounds_atLeast fits]
    simp [Nat.add_assoc]
  · rintro _ ⟨⟩

private theorem counted_between {m n : Nat} (ordered : m ≤ n) (fits : m < 0x100000000)
    (fits' : n < 0x100000000) (p : Nat) (t : Text) :
    counted false ⟨p, '{' :: Text.ofNat m ++ ',' :: Text.ofNat n ++ ['}'] ++ t⟩ =
      .ok (operatorOf (.between m n ordered)
        ⟨p + (Quantifier.between m n ordered).suffix.length, t⟩) := by
  have text : '{' :: Text.ofNat m ++ ',' :: Text.ofNat n ++ ['}'] ++ t =
      '{' :: (Text.ofNat m ++ ',' :: (Text.ofNat n ++ ['}']) ++ t) := by simp
  have length : p + (Quantifier.between m n ordered).suffix.length =
      p + 1 + (Text.ofNat m ++ ',' :: (Text.ofNat n ++ ['}'])).length := by
    simp [Quantifier.suffix]
    omega
  have stop : p + 1 + (Text.ofNat m).length + 1 + (Text.ofNat n).length + 1 =
      p + 1 + (Text.ofNat m ++ ',' :: (Text.ofNat n ++ ['}'])).length := by
    simp
    omega
  rw [text, counted_eq m (some n), length]
  · rfl
  · have counts : Text.ofNat m ++ ',' :: (Text.ofNat n ++ ['}']) ++ t =
        Text.ofNat m ++ ',' :: (Text.ofNat n ++ '}' :: t) := by simp
    rw [counts, countBounds_between fits fits', stop]
  · rintro _ ⟨⟩
    exact ordered

end Regex.Repetition

namespace Regex.Ast

open Repetition (Operator operand? greed)

/-- The item that a quantifier makes of another; the reader stands behind the suffix. -/
def repeatedItem (q : Quantifier) (a : Ast) (r : Reader) : Ast :=
  .repetition ⟨a.span.start, (greed r).2.pos⟩ q.least q.greatest (greed r).1 a

variable {d : Pending} {a : Ast} {items : List Ast}

private theorem repeatLast_operatorOf (operand : operand? d.items = some (a, items)) (r : Reader)
    (q : Quantifier) (after : Reader) :
    repeatLast d r (.ok (Repetition.operatorOf q after)) =
      .ok ({ d with items := repeatedItem q a after :: items }, (greed after).2) := by
  rw [repeatLast, operand]
  rfl

/-- The suffix of a quantifier repeats the item before it. -/
theorem sequence_suffix {q : Quantifier} (fits : q.Fits) (operand : operand? d.items = some (a, items))
    (fuel : Nat) (opened : Option Span) (groups : GroupTable) (p : Nat) (t : Text) :
    let r : Reader := ⟨p + q.suffix.length, t⟩
    sequence (fuel + 1) opened false groups d ⟨p, q.suffix ++ t⟩ =
      sequence fuel opened false groups { d with items := repeatedItem q a r :: items }
        (greed r).2 := by
  intro r
  suffices read : ∃ operator,
      sequence (fuel + 1) opened false groups d ⟨p, q.suffix ++ t⟩ =
        (repeatLast d ⟨p, q.suffix ++ t⟩ operator >>= fun x =>
          sequence fuel opened false groups x.1 x.2) ∧
      operator = .ok (Repetition.operatorOf q r) by
    obtain ⟨operator, steps, rfl⟩ := read
    rw [steps, repeatLast_operatorOf operand]
    rfl
  cases q with
  | optional => exact ⟨_, rfl, congrArg _ (Repetition.simple_eq _ _ _)⟩
  | oneOrMore => exact ⟨_, rfl, congrArg _ (Repetition.simple_eq _ _ _)⟩
  | zeroOrMore => exact ⟨_, rfl, congrArg _ (Repetition.simple_eq _ _ _)⟩
  | exactly n => exact ⟨_, rfl, Repetition.counted_exactly fits.1 p t⟩
  | atLeast n => exact ⟨_, rfl, Repetition.counted_atLeast fits.1 p t⟩
  | between m n ordered =>
    exact ⟨_, rfl, Repetition.counted_between ordered fits.1 (fits.2 n rfl) p t⟩

end Regex.Ast

end PatternKit
