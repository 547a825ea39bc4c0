import PatternKit.Proofs.NestedBytes

/-!
Suffixes and their readers. What the bytes of a counted suffix say is what the suffix says, between whatever other bytes
it stands, and how it ends says whether it has an upper bound. A suffix can be read back to the call that has built it, so
that no two calls write the same.
-/

set_option autoImplicit false

namespace PatternKit.Quantifier

open Backtracking (IsNumber IsCount countAt? countAt?_braced boundOf?_bytes isNumber_ofNat suffix_cases)

/-- The call that builds a quantifier. -/
def request : Quantifier → Request
  | .optional => .optional
  | .oneOrMore => .oneOrMore
  | .zeroOrMore => .zeroOrMore
  | .exactly n => .exactly n
  | .atLeast n => .atLeast n
  | .between min max _ => .between min max

namespace Request

/-- Whether a number of repetitions is asked for by counting. -/
inductive IsCounted : Request → Prop
  | exactly (n : Nat) : IsCounted (.exactly n)
  | atLeast (n : Nat) : IsCounted (.atLeast n)
  | between (min max : Nat) : IsCounted (.between min max)

/-- The call that what stands between the braces of a suffix has been written for, if it has been written for one. -/
def ofCount? (body : Text) : Option Request :=
  match Text.splitAt ',' body with
  | [n] => some (.exactly (Regex.Repetition.decimalValue n))
  | [n, m] =>
    if m.isEmpty then some (.atLeast (Regex.Repetition.decimalValue n))
    else some (.between (Regex.Repetition.decimalValue n) (Regex.Repetition.decimalValue m))
  | _ => none

/-- The call that a suffix has been written for, if it has been written for one. -/
def ofSuffix? : Text → Option Request
  | ['?'] => some .optional
  | ['+'] => some .oneOrMore
  | ['*'] => some .zeroOrMore
  | suffix => ofCount? suffix.tail.dropLast

end Request

variable {request : Request} {q : Quantifier} {t body : Text} {unbounded : Bool}

/-- A quantifier is built by one call only. -/
theorem build_eq_ok_iff : request.build = .ok q ↔ q.request = request := by
  constructor
  · intro built
    cases request with
    | between min max =>
      rw [Request.build, between?] at built
      split at built
      · cases built
        rfl
      · cases built
    | _ =>
      cases built
      rfl
  · rintro rfl
    cases q with
    | between min max ordered => exact dif_pos ordered
    | _ => rfl

/-! How a suffix ends. -/

theorem endsOpen_iff : [',', '}'].isSuffixOf (t ++ ['}']) = true ↔ ∃ s, t = s ++ [','] := by
  rw [List.isSuffixOf_iff_suffix]
  constructor
  · rintro ⟨s, same⟩
    rw [List.append_cons] at same
    exact ⟨s, (List.append_cancel_right same).symm⟩
  · rintro ⟨s, rfl⟩
    exact ⟨s, (List.append_assoc s [','] ['}']).symm⟩

/-- What ends with a number does not end with a comma. -/
theorem not_endsOpen {digits : Text} (number : IsNumber digits) (t : Text) :
    [',', '}'].isSuffixOf (t ++ digits ++ ['}']) = false := by
  refine Bool.eq_false_iff.mpr fun ends => ?_
  obtain ⟨s, same⟩ := endsOpen_iff.mp ends
  have last : digits.getLast? = some ',' := by
    rw [← List.getLast?_append_of_ne_nil t number.some_, same, List.getLast?_concat]
  exact number.notMem_comma (List.mem_of_getLast? last)

/-- A counted suffix ends with a comma and a brace just if it has no upper bound. -/
theorem isOpenEnded_count (count : IsCount body unbounded) : isOpenEnded ('{' :: (body ++ ['}'])) = unbounded := by
  have noSign : isOpenEnded ('{' :: (body ++ ['}'])) = [',', '}'].isSuffixOf ('{' :: body ++ ['}']) := by
    rw [isOpenEnded]
    simp
  rw [noSign]
  cases count with
  | exactly number => exact not_endsOpen number ['{']
  | atLeast number => exact endsOpen_iff.mpr ⟨'{' :: _, rfl⟩
  | @between n m number last =>
    have ending : '{' :: (n ++ ',' :: m) = '{' :: n ++ [','] ++ m := by simp
    rw [ending]
    exact not_endsOpen last _

theorem isOpenEnded_suffix (q : Quantifier) : isOpenEnded q.suffix = q.isUnbounded := by
  rcases suffix_cases q with (rfl | rfl | rfl) | ⟨-, body, text, count⟩
  · rfl
  · rfl
  · rfl
  · rw [text, isOpenEnded_count count]

theorem isUnbounded_iff : q.isUnbounded = true ↔
    q.request = .oneOrMore ∨ q.request = .zeroOrMore ∨ ∃ n, q.request = .atLeast n := by
  cases q <;> simp [isUnbounded, Quantifier.request]

/-! What the bytes of a suffix say. -/

/-- The bytes of a counted suffix are read to their end, and as what the suffix is, wherever they stand. -/
theorem countAt?_suffix (counted : q.request.IsCounted) (as bs : Bytes) :
    countAt? (as ++ (Text.bytes q.suffix ++ bs)) as.length =
      some (some ((Text.bytes q.suffix).length, isOpenEnded q.suffix)) := by
  rcases suffix_cases q with (rfl | rfl | rfl) | ⟨-, body, text, count⟩
  · cases counted
  · cases counted
  · cases counted
  · obtain ⟨bound, said, isCount⟩ := boundOf?_bytes body
    obtain rfl : bound = some q.isUnbounded := (isCount _).mpr count
    have bytes : Text.bytes q.suffix = '{'.toUInt8 :: (Text.bytes body ++ ['}'.toUInt8]) := by
      rw [text, Text.bytes_cons_ascii (by decide), Text.bytes_append, Text.bytes_cons_ascii (by decide)]
      rfl
    have closedOnce : '}'.toUInt8 ∉ Text.bytes body := Text.toUInt8_notMem_bytes (by decide) count.notMem_close
    rw [bytes, List.cons_append, List.append_assoc, List.singleton_append, countAt?_braced _ _ _ closedOnce, said,
      isOpenEnded_suffix]
    simp

/-! Suffixes read back. -/

theorem comma_notMem_ofNat (n : Nat) : ',' ∉ Text.ofNat n := (isNumber_ofNat n).notMem_comma

theorem ofSuffix?_braced (body : Text) : Request.ofSuffix? ('{' :: (body ++ ['}'])) = Request.ofCount? body := by
  have between : List.dropLast (body ++ ['}']) = body := List.dropLast_concat
  simp [Request.ofSuffix?, between]

/-- The call that has built a quantifier is read from its suffix. -/
theorem ofSuffix?_suffix (q : Quantifier) : Request.ofSuffix? q.suffix = some q.request := by
  have value := Regex.Repetition.decimalValue_ofNat
  cases q with
  | optional => rfl
  | oneOrMore => rfl
  | zeroOrMore => rfl
  | exactly n =>
    have text : (exactly n).suffix = '{' :: (Text.ofNat n ++ ['}']) := rfl
    have parts := Text.splitAt_of_notMem (comma_notMem_ofNat n)
    rw [text, ofSuffix?_braced, Request.ofCount?, parts]
    exact congrArg (fun n => some (Request.exactly n)) (value n)
  | atLeast n =>
    have text : (atLeast n).suffix = '{' :: (Text.ofNat n ++ [','] ++ ['}']) := by simp [suffix]
    have parts := Text.splitAt_append_cons (comma_notMem_ofNat n) []
    rw [text, ofSuffix?_braced, Request.ofCount?, parts]
    exact congrArg (fun n => some (Request.atLeast n)) (value n)
  | between min max ordered =>
    have text : (between min max ordered).suffix = '{' :: (Text.ofNat min ++ ',' :: Text.ofNat max ++ ['}']) := rfl
    have parts := Text.splitAt_append_cons (comma_notMem_ofNat min) (Text.ofNat max)
    have some_ : (Text.ofNat max).isEmpty = false := List.isEmpty_eq_false_iff.mpr (isNumber_ofNat max).some_
    rw [Text.splitAt_of_notMem (comma_notMem_ofNat max)] at parts
    rw [text, ofSuffix?_braced, Request.ofCount?, parts]
    simp [some_, value, request]

/-- Suffixes and their readers agree on every quantifier that can be asked for. The bytes of a counted suffix, between any
other bytes, are read to the end of the suffix, and as bounded or not as its ending says; this ending says whether there is
a greatest number of repetitions, which just three of the calls leave open; and no other call builds a quantifier with the
same suffix. -/
theorem suffix_is_read_back (request : Request) (q : Quantifier) (built : request.build = .ok q) :
    (request.IsCounted → ∀ as bs : Bytes,
      countAt? (as ++ (Text.bytes q.suffix ++ bs)) as.length =
        some (some ((Text.bytes q.suffix).length, isOpenEnded q.suffix))) ∧
    isOpenEnded q.suffix = q.isUnbounded ∧
    (isOpenEnded q.suffix = true ↔
      request = .oneOrMore ∨ request = .zeroOrMore ∨ ∃ n, request = .atLeast n) ∧
    ∀ request' q', request'.build = .ok q' → q'.suffix = q.suffix → request' = request := by
  obtain rfl := build_eq_ok_iff.mp built
  refine ⟨countAt?_suffix, isOpenEnded_suffix q, ?_, ?_⟩
  · rw [isOpenEnded_suffix, isUnbounded_iff]
  · intro request' q' built' same
    obtain rfl := build_eq_ok_iff.mp built'
    have read := ofSuffix?_suffix q'
    rw [same, ofSuffix?_suffix] at read
    exact (Option.some.inj read).symm

/-- The largest number there is, and bytes around it that belong to no text. -/
theorem suffix_is_read_back_among_bytes :
    (Request.between 0 4294967295).build = .ok (.between 0 4294967295 (by decide)) ∧
    countAt? ([0xff] ++ (Text.bytes (suffix (.between 0 4294967295 (by decide))) ++ [0x80, '}'.toUInt8])) 1 =
      some (some (14, false)) :=
  ⟨rfl, (suffix_is_read_back (.between 0 4294967295) _ rfl).1 (.between 0 4294967295) [0xff] [0x80, '}'.toUInt8]⟩

end PatternKit.Quantifier
