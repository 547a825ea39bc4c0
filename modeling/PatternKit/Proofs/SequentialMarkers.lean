import PatternKit.Proofs.CharSetMembers
import PatternKit.Proofs.MarkerSpans
import PatternKit.Proofs.SearchMeaning
import PatternKit.Proofs.WholeMatch

/-!
What the scan for markers in sequence finds: two markers on one line, at any places of the text. An expression says the
same, and the engine finds what it matches in just the texts that the scan flags.
-/

set_option autoImplicit false

namespace PatternKit

namespace Backtracking

variable {t : Text}

/-- Whether two markers stand one behind the other in a text, with no line break between them. -/
def HasMarkerPair (t : Text) : Prop :=
  ∃ a first between second b, t = a ++ (first ++ (between ++ (second ++ b))) ∧ IsMarker first ∧ OneLine between ∧
    IsMarker second

theorem markerOnLine_iff :
    markerOnLine t = true ↔ ∃ between marker b, t = between ++ (marker ++ b) ∧ OneLine between ∧ IsMarker marker := by
  constructor
  · intro marked
    induction t with
    | nil => cases marked
    | cons c t ih =>
      rcases Bool.or_eq_true_iff.mp marked with here | later
      · obtain ⟨b, read⟩ := Option.isSome_iff_exists.mp here
        obtain ⟨marker, isMarker, split⟩ := afterMarker?_eq_some_iff.mp read
        exact ⟨[], marker, b, split, by simp [OneLine], isMarker⟩
      · obtain ⟨noBreak, later⟩ := Bool.and_eq_true_iff.mp later
        obtain ⟨between, marker, b, rfl, line, isMarker⟩ := ih later
        refine ⟨c :: between, marker, b, rfl, fun d member => ?_, isMarker⟩
        rcases List.mem_cons.mp member with rfl | member
        · simpa using noBreak
        · exact line d member
  · rintro ⟨between, marker, b, rfl, line, isMarker⟩
    induction between with
    | nil =>
      obtain ⟨c, rest, same⟩ := isMarker.eq_cons
      have after : afterMarker? c (rest ++ b) = some b :=
        afterMarker?_eq_some_iff.mpr ⟨marker, isMarker, by rw [same]; rfl⟩
      rw [List.nil_append, same, List.cons_append, markerOnLine, after]
      rfl
    | cons c between ih =>
      have noBreak : isLineBreak c = false := line c List.mem_cons_self
      rw [List.cons_append, markerOnLine, noBreak, ih line.tail]
      exact Bool.or_true _

/-- The scan flags the texts that hold two markers in sequence. -/
theorem hasSequentialRepetition_iff : hasSequentialRepetition t = true ↔ HasMarkerPair t := by
  constructor
  · intro flagged
    induction t with
    | nil => cases flagged
    | cons c t ih =>
      rcases Bool.or_eq_true_iff.mp flagged with here | later
      · obtain ⟨rest, read, marked⟩ := (Option.any_eq_true _ _).mp here
        obtain ⟨first, isFirst, split⟩ := afterMarker?_eq_some_iff.mp read
        obtain ⟨between, second, b, rfl, line, isSecond⟩ := markerOnLine_iff.mp marked
        exact ⟨[], first, between, second, b, split, isFirst, line, isSecond⟩
      · obtain ⟨a, first, between, second, b, rfl, isFirst, line, isSecond⟩ := ih later
        exact ⟨c :: a, first, between, second, b, rfl, isFirst, line, isSecond⟩
  · rintro ⟨a, first, between, second, b, rfl, isFirst, line, isSecond⟩
    refine sequential_behind a ?_
    obtain ⟨c, rest, rfl⟩ := isFirst.eq_cons
    have read : afterMarker? c (rest ++ (between ++ (second ++ b))) = some (between ++ (second ++ b)) :=
      afterMarker?_eq_some_iff.mpr ⟨c :: rest, isFirst, rfl⟩
    exact sequential_of_marker read (markerOnLine_iff.mpr ⟨between, second, b, rfl, line, isSecond⟩)

/-! The expression for two markers in sequence. -/

open Regex (Ast ClassSet Diagnosis Expr Switches)

/-- The text of the expression for a marker: `*`, `+`, or an opening brace, what closes no brace, and a closing one. -/
def markerText : Text :=
  ['(', '\\', '*', '|', '\\', '+', '|', '\\', '{', '[', '^', '}', ']', '*', '\\', '}', ')']

/-- The text of the expression for what stands on one line. -/
def oneLineText : Text :=
  ['[', '^', '\\', 'n', '\\', 'r', '\\', 'u', '2', '0', '2', '8', '\\', 'u', '2', '0', '2', '9', ']', '*']

/-- The structure of the text for a marker that begins at an offset. -/
def markerAst (n index : Nat) : Ast :=
  .group ⟨n, n + 17⟩ (.capturing index none) (.alternation ⟨n + 1, n + 16⟩
    [.literal ⟨⟨n + 1, n + 3⟩, '*', false⟩, .literal ⟨⟨n + 4, n + 6⟩, '+', false⟩,
      .concat ⟨n + 7, n + 16⟩
        [.literal ⟨⟨n + 7, n + 9⟩, '{', false⟩,
          .repetition ⟨n + 9, n + 14⟩ 0 none true
            (.bracketed ⟨n + 9, n + 13⟩ true (.literal ⟨⟨n + 11, n + 12⟩, '}', false⟩)),
          .literal ⟨⟨n + 14, n + 16⟩, '}', false⟩]])

/-- The structure of the text for what stands on one line. -/
def oneLineAst : Ast :=
  .repetition ⟨17, 37⟩ 0 none true (.bracketed ⟨17, 36⟩ true (.union ⟨19, 35⟩
    [.literal ⟨⟨19, 21⟩, '\n', false⟩, .literal ⟨⟨21, 23⟩, '\r', false⟩, .literal ⟨⟨23, 29⟩, '\u2028', false⟩,
      .literal ⟨⟨29, 35⟩, '\u2029', false⟩]))

/-- The structure of the text for two markers in sequence. -/
def pairAst : Ast := .concat ⟨0, 54⟩ [markerAst 0 1, oneLineAst, markerAst 37 2]

/-- All characters but the closing brace. -/
def notClosing : CharSet := ⟨[⟨0, 124⟩, ⟨126, 1114111⟩]⟩

/-- All characters that end no line. -/
def notBreak : CharSet := ⟨[⟨0, 9⟩, ⟨11, 12⟩, ⟨14, 8231⟩, ⟨8234, 1114111⟩]⟩

/-- The expression for a marker. -/
def markerExpr (index : Nat) : Expr :=
  .capture index none (.alternatives [.literal ['*'], .literal ['+'],
    .sequence [.literal ['{'], .repetition 0 none true (.set false notClosing), .literal ['}']]])

/-- The expression for two markers in sequence. -/
def pairExpr : Expr := .sequence [markerExpr 1, .repetition 0 none true (.set false notBreak), markerExpr 2]

/-- The text of the expression for two markers in sequence. -/
def pairText : Text := markerText ++ oneLineText ++ markerText

theorem ofText_pairText : Ast.ofText pairText = .ok pairAst := by
  with_unfolding_all rfl

theorem ofAst_markerAst (n index : Nat) : Expr.ofAst {} (markerAst n index) = .ok (markerExpr index, {}) := by
  with_unfolding_all rfl

theorem ofBrackets_breaks (span : Span) :
    Expr.ofBrackets {} span true [⟨10, 10⟩, ⟨13, 13⟩, ⟨8232, 8232⟩, ⟨8233, 8233⟩] = .ok notBreak := by
  have joined : CharSet.normalize [⟨10, 10⟩, ⟨13, 13⟩, ⟨8232, 8232⟩, ⟨8233, 8233⟩] =
      ⟨[⟨10, 10⟩, ⟨13, 13⟩, ⟨8232, 8233⟩]⟩ := CharSet.normalize_of_ordered (by simp [CharSet.Ordered])
  rw [Expr.ofBrackets, joined]
  rfl

theorem ofAst_oneLineAst : Expr.ofAst {} oneLineAst = .ok (.repetition 0 none true (.set false notBreak), {}) := by
  have set_ : Expr.ofAst {} (.bracketed ⟨17, 36⟩ true (.union ⟨19, 35⟩
      [.literal ⟨⟨19, 21⟩, '\n', false⟩, .literal ⟨⟨21, 23⟩, '\r', false⟩, .literal ⟨⟨23, 29⟩, '\u2028', false⟩,
        .literal ⟨⟨29, 35⟩, '\u2029', false⟩])) = .ok (.set false notBreak, {}) := by
    show (do return (Expr.ofSet false (← Expr.ofBrackets {} ⟨17, 36⟩ true
      [⟨10, 10⟩, ⟨13, 13⟩, ⟨8232, 8232⟩, ⟨8233, 8233⟩]), ({} : Switches))) = _
    rw [ofBrackets_breaks]
    rfl
  rw [oneLineAst, Expr.ofAst, set_]
  rfl

theorem ofAst_pairAst : Expr.ofAst {} pairAst = .ok (pairExpr, {}) := by
  have next {a : Ast} {e : Expr} {items : List Ast} {es : List Expr} (first : Expr.ofAst {} a = .ok (e, {}))
      (rest : Expr.ofAsts {} items = .ok (es, {})) : Expr.ofAsts {} (a :: items) = .ok (e :: es, {}) := by
    rw [Expr.ofAsts, first]
    show (Expr.ofAsts {} items >>= _) = _
    rw [rest]
    rfl
  rw [pairAst, Expr.ofAst, next (ofAst_markerAst 0 1) (next ofAst_oneLineAst (next (ofAst_markerAst 37 2) rfl))]
  rfl

/-- The engine reads the text as this expression. -/
theorem build_pairText : Regex.build {} {} pairText = .ok (Regex.searcher pairText pairExpr) := by
  have shallow : pairAst.checkDepth ({} : Limits).nest 0 = .ok () := rfl
  rw [Regex.build, Regex.parse_of_ofAst ofText_pairText shallow ofAst_pairAst]
  rfl

/-! What the expression matches. -/

theorem notClosing_contains (c : Char) : notClosing.contains c = true ↔ c ≠ '}' := by
  have bounds : c.toNat ≤ 1114111 := (CharSet.isCode_toNat c).le_lastCode
  have code : c = '}' ↔ c.toNat = 125 := Char.toNat_inj.symm
  rw [CharSet.contains_iff (by simp [CharSet.Ordered, notClosing]), ne_eq, code]
  simp only [notClosing, CharSet.Covers, List.mem_cons, exists_eq_or_imp, List.not_mem_nil, or_false, exists_eq_left]
  omega

theorem notBreak_contains (c : Char) : notBreak.contains c = true ↔ isLineBreak c = false := by
  have bounds : c.toNat ≤ 1114111 := (CharSet.isCode_toNat c).le_lastCode
  have feed : c = '\n' ↔ c.toNat = 10 := Char.toNat_inj.symm
  have return_ : c = '\r' ↔ c.toNat = 13 := Char.toNat_inj.symm
  have line : c = '\u2028' ↔ c.toNat = 8232 := Char.toNat_inj.symm
  have paragraph : c = '\u2029' ↔ c.toNat = 8233 := Char.toNat_inj.symm
  rw [CharSet.contains_iff (by simp [CharSet.Ordered, notBreak])]
  simp only [notBreak, isLineBreak, CharSet.Covers, List.mem_cons, exists_eq_or_imp, List.not_mem_nil, or_false,
    exists_eq_left, Bool.or_eq_false_iff, beq_eq_false_iff_ne, ne_eq, feed, return_, line, paragraph]
  omega

/-- A repetition of a set matches the texts whose characters are all members. -/
theorem matches_repeatedSet {s : CharSet} {greedy ascii : Bool} {w : Text} :
    (Expr.repetition 0 none greedy (.set ascii s)).Matches w ↔ ∀ c ∈ w, s.contains c = true :=
  Expr.matches_repetition_set.trans (and_iff_right ⟨Nat.zero_le _, fun _ none_ => by cases none_⟩)

theorem matches_markerExpr (index : Nat) {w : Text} : (markerExpr index).Matches w ↔ IsMarker w := by
  have braced :
      (Expr.sequence [.literal ['{'], .repetition 0 none true (.set false notClosing), .literal ['}']]).Matches w ↔
      ∃ body, '}' ∉ body ∧ w = '{' :: body ++ ['}'] := by
    constructor
    · rintro ⟨_, _, rfl, rfl, body, _, rfl, all, _, _, rfl, rfl, rfl⟩
      exact ⟨body, fun member => (notClosing_contains _).mp (matches_repeatedSet.mp all _ member) rfl, rfl⟩
    · rintro ⟨body, closedOnce, rfl⟩
      refine ⟨['{'], body ++ ['}'], rfl, rfl, body, ['}'], rfl, matches_repeatedSet.mpr fun c member => ?_, ['}'], [], rfl,
        rfl, rfl⟩
      exact (notClosing_contains c).mpr fun same => closedOnce (same ▸ member)
  constructor
  · rintro (rfl | rfl | closed | ⟨⟨⟩⟩)
    · exact .star
    · exact .plus
    · obtain ⟨body, closedOnce, rfl⟩ := braced.mp closed
      exact .braced closedOnce
  · rintro (_ | _ | ⟨closedOnce⟩)
    · exact .inl rfl
    · exact .inr (.inl rfl)
    · exact .inr (.inr (.inl (braced.mpr ⟨_, closedOnce, rfl⟩)))

theorem matches_pairExpr {w : Text} :
    pairExpr.Matches w ↔ ∃ first between second, w = first ++ (between ++ second) ∧ IsMarker first ∧ OneLine between ∧
      IsMarker second := by
  constructor
  · rintro ⟨first, _, rfl, isFirst, between, _, rfl, line, second, _, rfl, isSecond, rfl⟩
    refine ⟨first, between, second, by rw [List.append_nil], (matches_markerExpr 1).mp isFirst, fun c member => ?_,
      (matches_markerExpr 2).mp isSecond⟩
    exact (notBreak_contains c).mp (matches_repeatedSet.mp line c member)
  · rintro ⟨first, between, second, rfl, isFirst, line, isSecond⟩
    refine ⟨first, between ++ second, rfl, (matches_markerExpr 1).mpr isFirst, between, second, rfl, ?_, second, [],
      (List.append_nil _).symm, (matches_markerExpr 2).mpr isSecond, rfl⟩
    exact matches_repeatedSet.mpr fun c member => (notBreak_contains c).mpr (line c member)

theorem pairExpr_unconditional : pairExpr.Unconditional := by
  simp [pairExpr, markerExpr, Expr.Unconditional, Expr.UnconditionalAll]

/-- The scan for markers in sequence means an expression on every text: it flags the texts with two markers on one line,
and in just these the engine finds what the expression matches. The search by spans, which looks at a single marker behind
each one, answers the same, and reads and cuts only where this can be done. -/
theorem sequential_scan_is_exact (p : Text) :
    (hasSequentialRepetition p = true ↔ HasMarkerPair p) ∧
    (∃ s, Regex.build {} {} pairText = .ok s ∧ s.isMatch p = hasSequentialRepetition p) ∧
    sequentialBySpans? p = some (hasSequentialRepetition p) := by
  refine ⟨hasSequentialRepetition_iff, ⟨_, build_pairText, ?_⟩, sequentialBySpans?_eq p⟩
  rw [Bool.eq_iff_iff, Regex.searcher_isMatch pairExpr_unconditional, hasSequentialRepetition_iff]
  constructor
  · rintro ⟨a, v, b, rfl, matched⟩
    obtain ⟨first, between, second, rfl, isFirst, line, isSecond⟩ := matches_pairExpr.mp matched
    exact ⟨a, first, between, second, b, by simp only [List.append_assoc], isFirst, line, isSecond⟩
  · rintro ⟨a, first, between, second, b, rfl, isFirst, line, isSecond⟩
    exact ⟨a, first ++ (between ++ second), b, by simp only [List.append_assoc],
      matches_pairExpr.mpr ⟨first, between, second, rfl, isFirst, line, isSecond⟩⟩

end Backtracking

end PatternKit
