import Mathlib.Data.List.Basic
import PatternKit.Draft.Script
import PatternKit.Proofs.CharSetMembers
import PatternKit.Proofs.CompileOutcome
import PatternKit.Proofs.PlainText

/-!
Addresses. Between the anchors of a line the ready-made pattern for an address matches a text if and only if this is four
numbers up to 255 in up to three digits, with one dot between each and the next.
-/

set_option autoImplicit false

namespace PatternKit

/-- Whether a text is a number up to 255, in one to three digits. -/
def Text.IsOctet (w : Text) : Prop :=
  1 ≤ w.length ∧ w.length ≤ 3 ∧ w.all Char.isDigit = true ∧ Regex.Repetition.decimalValue w ≤ 255

instance (w : Text) : Decidable w.IsOctet := inferInstanceAs (Decidable (_ ∧ _))

/-- Whether a text is four such numbers with single dots between them. -/
def Text.IsDottedQuad (h : Text) : Prop :=
  ∃ a b c d : Text, h = a ++ '.' :: (b ++ '.' :: (c ++ '.' :: d)) ∧
    a.IsOctet ∧ b.IsOctet ∧ c.IsOctet ∧ d.IsOctet

namespace Regex

/-! The expression. -/

/-- The digits from zero up to one of them. -/
def digitsTo (last : Char) : Expr := .set false (.interval '0' last)

/-- What stands for a number: the numbers from 250 on, those from 200 on, and all others, which may begin with zeros. -/
def octetExpr : Expr :=
  .alternatives
    [.sequence [.literal ['2', '5'], digitsTo '5'],
      .sequence [.literal ['2'], digitsTo '4', digitsTo '9'],
      .sequence [.repetition 0 (some 1) true (digitsTo '1'), digitsTo '9', .repetition 0 (some 1) true (digitsTo '9')]]

/-- Three such numbers with a dot behind each, and one more. -/
def quadExpr : Expr :=
  .sequence [.repetition 3 (some 3) true (.sequence [octetExpr, .literal ['.']]), octetExpr]

/-- The structure of a set of digits that begins at an offset. -/
def digitsAst (n : Nat) (last : Char) : Ast :=
  .bracketed ⟨n, n + 5⟩ false
    (.range ⟨n + 1, n + 4⟩ ⟨⟨n + 1, n + 2⟩, '0', false⟩ ⟨⟨n + 3, n + 4⟩, last, false⟩)

/-- The structure of the set of the digits zero and one. -/
def binaryAst (n : Nat) : Ast :=
  .bracketed ⟨n, n + 4⟩ false
    (.union ⟨n + 1, n + 3⟩ [.literal ⟨⟨n + 1, n + 2⟩, '0', false⟩, .literal ⟨⟨n + 2, n + 3⟩, '1', false⟩])

/-- The structure of the text for a number. -/
def octetAst (n : Nat) : Ast :=
  .group ⟨n, n + 40⟩ (.plain []) (.alternation ⟨n + 3, n + 39⟩
    [.concat ⟨n + 3, n + 10⟩
        [.literal ⟨⟨n + 3, n + 4⟩, '2', false⟩, .literal ⟨⟨n + 4, n + 5⟩, '5', false⟩, digitsAst (n + 5) '5'],
      .concat ⟨n + 11, n + 22⟩
        [.literal ⟨⟨n + 11, n + 12⟩, '2', false⟩, digitsAst (n + 12) '4', digitsAst (n + 17) '9'],
      .concat ⟨n + 23, n + 39⟩
        [.repetition ⟨n + 23, n + 28⟩ 0 (some 1) true (binaryAst (n + 23)), digitsAst (n + 28) '9',
          .repetition ⟨n + 33, n + 39⟩ 0 (some 1) true (digitsAst (n + 33) '9')]])

/-- The structure of the text for an address between the anchors of a line. -/
def quadAst : Ast :=
  .concat ⟨0, 91⟩
    [.assertion ⟨0, 1⟩ .startLine,
      .repetition ⟨1, 50⟩ 3 (some 3) true (.group ⟨1, 47⟩ (.plain [])
        (.concat ⟨4, 46⟩ [octetAst 4, .literal ⟨⟨44, 46⟩, '.', false⟩])),
      octetAst 50, .assertion ⟨90, 91⟩ .endLine]

/-- The text for an address between the anchors of a line. -/
def quadText : Text := '^' :: (CommonFormat.ipAddress.fragment ++ ['$'])

theorem ofText_quadText : Ast.ofText quadText = .ok quadAst := by
  with_unfolding_all rfl

private theorem ofAst_digitsAst (n : Nat) {last : Char} (several : '0' ≠ last) :
    Expr.ofAst {} (digitsAst n last) = .ok (digitsTo last, {}) := by
  have only : (CharSet.interval '0' last).only? = none := if_neg fun same => several (Char.toNat_inj.mp same)
  have set_ : Expr.ofSet false (.interval '0' last) = digitsTo last := by
    rw [Expr.ofSet, only]
    rfl
  rw [← set_]
  with_unfolding_all rfl

private theorem ofAst_binaryAst (n : Nat) : Expr.ofAst {} (binaryAst n) = .ok (digitsTo '1', {}) := by
  have joined : CharSet.normalize [⟨0x30, 0x30⟩, ⟨0x31, 0x31⟩] = .interval '0' '1' :=
    CharSet.normalize_of_ordered (by simp [CharSet.Ordered])
  show (do return (Expr.ofSet false (← Expr.ofBrackets {} ⟨n, n + 4⟩ false [⟨0x30, 0x30⟩, ⟨0x31, 0x31⟩]),
    ({} : Switches))) = _
  rw [Expr.ofBrackets, joined]
  rfl

private theorem ofAst_octetAst (n : Nat) : Expr.ofAst {} (octetAst n) = .ok (octetExpr, {}) := by
  simp (disch := decide) only [octetAst, Expr.ofAst, Expr.ofAsts, Switches.change_nil, Expr.ofLiteral_char,
    ofAst_digitsAst, ofAst_binaryAst, bind, Except.bind, pure, Except.pure]
  rfl

private theorem ofAst_quadAst : Expr.ofAst {} quadAst = .ok (quadExpr.whole, {}) := by
  simp only [quadAst, Expr.ofAst, Expr.ofAsts, Switches.change_nil, Expr.ofLiteral_char, ofAst_octetAst, bind, Except.bind,
    pure, Except.pure]
  rfl

/-- The engine reads the text as this expression between two anchors. -/
theorem build_quadText : build { policy := .disabled } {} quadText = .ok (searcher quadText quadExpr.whole) := by
  have shallow : quadAst.checkDepth 250 0 = .ok () := rfl
  rw [build, parse_of_ofAst ofText_quadText shallow ofAst_quadAst]
  rfl

/-! What the expression matches. -/

private theorem matchesAll_digitsTo {last : Char} {es : List Expr} {w : Text} :
    Expr.MatchesAll (digitsTo last :: es) w ↔
      ∃ c u, w = c :: u ∧ (48 ≤ c.toNat ∧ c.toNat ≤ last.toNat) ∧ Expr.MatchesAll es u := by
  simp only [digitsTo, Expr.matchesAll_set, CharSet.contains_interval]
  rfl

private theorem matchesAll_optionalDigit {last : Char} {es : List Expr} {w : Text} :
    Expr.MatchesAll (.repetition 0 (some 1) true (digitsTo last) :: es) w ↔
      Expr.MatchesAll es w ∨ Expr.MatchesAll (digitsTo last :: es) w := by
  constructor
  · rintro ⟨u, v, rfl, optional, rest⟩
    rcases Expr.matches_optional.mp optional with rfl | digit
    · exact .inl rest
    · exact .inr ⟨u, v, rfl, digit, rest⟩
  · rintro (rest | ⟨u, v, rfl, digit, rest⟩)
    · exact ⟨[], w, rfl, Expr.matches_optional.mpr (.inl rfl), rest⟩
    · exact ⟨u, v, rfl, Expr.matches_optional.mpr (.inr digit), rest⟩

private theorem isOctet_one {z : Char} : Text.IsOctet [z] ↔ 48 ≤ z.toNat ∧ z.toNat ≤ 57 := by
  simp [Text.IsOctet, Repetition.decimalValue, Char.isDigit_iff_toNat]
  omega

private theorem isOctet_two {y z : Char} :
    Text.IsOctet [y, z] ↔ (48 ≤ y.toNat ∧ y.toNat ≤ 57) ∧ 48 ≤ z.toNat ∧ z.toNat ≤ 57 := by
  simp [Text.IsOctet, Repetition.decimalValue, Char.isDigit_iff_toNat]
  omega

private theorem isOctet_three {x y z : Char} :
    Text.IsOctet [x, y, z] ↔
      (48 ≤ x.toNat ∧ 48 ≤ y.toNat ∧ y.toNat ≤ 57 ∧ 48 ≤ z.toNat ∧ z.toNat ≤ 57) ∧
        100 * (x.toNat - 48) + 10 * (y.toNat - 48) + (z.toNat - 48) ≤ 255 := by
  simp [Text.IsOctet, Repetition.decimalValue, Char.isDigit_iff_toNat]
  omega

/-- A number of three digits begins with 25, with 2 and a digit up to 4, or with a digit up to 1; all others are shorter. -/
theorem matches_octetExpr {w : Text} : octetExpr.Matches w ↔ w.IsOctet := by
  have two {c : Char} (code : c.toNat = 50) : c = '2' := Char.toNat_inj.mp code
  have five {c : Char} (code : c.toNat = 53) : c = '5' := Char.toNat_inj.mp code
  simp only [octetExpr, Expr.Matches, Expr.MatchesAny, Expr.matchesAll_literal, matchesAll_digitsTo,
    matchesAll_optionalDigit, Expr.matchesAll_nil, Char.reduceToNat]
  constructor
  · rintro (⟨_, rfl, z, _, rfl, hz, rfl⟩ | ⟨_, rfl, y, _, rfl, hy, z, _, rfl, hz, rfl⟩ |
      (⟨y, _, rfl, hy, rfl | ⟨z, _, rfl, hz, rfl⟩⟩ | ⟨x, _, rfl, hx, y, _, rfl, hy, rfl | ⟨z, _, rfl, hz, rfl⟩⟩) | ⟨⟨⟩⟩)
    · exact isOctet_three.mpr (by simp only [Char.reduceToNat]; omega)
    · exact isOctet_three.mpr (by simp only [Char.reduceToNat]; omega)
    · exact isOctet_one.mpr hy
    · exact isOctet_two.mpr ⟨hy, hz⟩
    · exact isOctet_two.mpr (by omega)
    · exact isOctet_three.mpr (by omega)
  · intro octet
    rcases w with _ | ⟨x, _ | ⟨y, _ | ⟨z, _ | _⟩⟩⟩
    · exact absurd octet.1 (by decide)
    · exact .inr (.inr (.inl (.inl ⟨x, [], rfl, isOctet_one.mp octet, .inl rfl⟩)))
    · obtain ⟨hx, hy⟩ := isOctet_two.mp octet
      exact .inr (.inr (.inl (.inl ⟨x, [y], rfl, hx, .inr ⟨y, [], rfl, hy, rfl⟩⟩)))
    · obtain ⟨⟨hx, hy, hy', hz, hz'⟩, value⟩ := isOctet_three.mp octet
      by_cases small : x.toNat ≤ 49
      · exact .inr (.inr (.inl (.inr ⟨x, _, rfl, ⟨hx, small⟩, y, _, rfl, ⟨hy, hy'⟩, .inr ⟨z, _, rfl, ⟨hz, hz'⟩, rfl⟩⟩)))
      · obtain rfl : x = '2' := two (by omega)
        by_cases below : y.toNat ≤ 52
        · exact .inr (.inl ⟨_, rfl, y, _, rfl, ⟨hy, below⟩, z, _, rfl, ⟨hz, hz'⟩, rfl⟩)
        · simp only [Char.reduceToNat] at value
          obtain rfl : y = '5' := five (by omega)
          simp only [Char.reduceToNat] at value
          exact .inl ⟨_, rfl, z, _, rfl, ⟨hz, by omega⟩, rfl⟩
    · exact absurd octet.2.1 (by simp)

example : Text.IsOctet ['0', '0', '7'] ∧ ¬ Text.IsOctet ['2', '5', '6'] := by decide

private theorem matches_octet_dot {u : Text} :
    (Expr.sequence [octetExpr, .literal ['.']]).Matches u ↔ ∃ a : Text, u = a ++ ['.'] ∧ a.IsOctet := by
  constructor
  · rintro ⟨a, _, rfl, octet, _, _, rfl, rfl, rfl⟩
    exact ⟨a, rfl, matches_octetExpr.mp octet⟩
  · rintro ⟨a, rfl, octet⟩
    exact ⟨a, ['.'], rfl, matches_octetExpr.mpr octet, ['.'], [], rfl, rfl, rfl⟩

/-- Three numbers with a dot behind each, and one more number. -/
theorem matches_quadExpr {h : Text} : quadExpr.Matches h ↔ h.IsDottedQuad := by
  constructor
  · rintro ⟨_, _, rfl, three, d, _, rfl, octet, rfl⟩
    obtain ⟨parts, count, rfl, each⟩ := Expr.matches_times.mp three
    obtain ⟨p, q, r, rfl⟩ := List.length_eq_three.mp count
    obtain ⟨a, rfl, ha⟩ := matches_octet_dot.mp (each p (by simp))
    obtain ⟨b, rfl, hb⟩ := matches_octet_dot.mp (each q (by simp))
    obtain ⟨c, rfl, hc⟩ := matches_octet_dot.mp (each r (by simp))
    exact ⟨a, b, c, d, by simp, ha, hb, hc, matches_octetExpr.mp octet⟩
  · rintro ⟨a, b, c, d, rfl, ha, hb, hc, hd⟩
    refine ⟨(a ++ ['.']) ++ (b ++ ['.']) ++ (c ++ ['.']), d, by simp, Expr.matches_times.mpr ?_, d, [],
      (List.append_nil d).symm, matches_octetExpr.mpr hd, rfl⟩
    refine ⟨[a ++ ['.'], b ++ ['.'], c ++ ['.']], rfl, by simp, fun u member => matches_octet_dot.mpr ?_⟩
    rcases List.mem_cons.mp member with rfl | member
    · exact ⟨a, rfl, ha⟩
    rcases List.mem_cons.mp member with rfl | member
    · exact ⟨b, rfl, hb⟩
    obtain rfl := List.mem_singleton.mp member
    exact ⟨c, rfl, hc⟩

theorem quadExpr_unconditional : quadExpr.Unconditional := by
  simp [quadExpr, octetExpr, digitsTo, Expr.Unconditional, Expr.UnconditionalAll]

end Regex

namespace Draft

/-- The draft for an address on a line of its own, with no policy against repetitions. -/
def addressLine : Draft :=
  (Command.runAll Regex.build {}
    [.setLimits { policy := .disabled }, .push .startOfLine, .push (.common .ipAddress), .push .endOfLine]).draft

/-- What is compiled from it searches for the expression for four numbers between two anchors. -/
theorem addressLine_compile :
    (addressLine.compile Regex.build).result = .ok ⟨Regex.searcher Regex.quadText Regex.quadExpr.whole, .empty⟩ := by
  have positive : ∀ e, ¬ addressLine.limits.FirstZero e := Limits.check_eq_ok_iff.mp rfl
  have faultless : Validation.structuralIssues .disabled Regex.quadText = [] := by decide +kernel
  exact compile_of_accepted positive faultless (by decide) Regex.build_quadText

/-- The ready-made pattern for an address, between the anchors of a line, matches a text if and only if the whole of it is
four numbers up to 255 in one to three digits each, with single dots between them. -/
theorem ipAddress_matches_dotted_quads (h : Text) :
    ∃ holds, (addressLine.ask Regex.build (.isMatch h)).result = .ok (.isMatch holds) ∧
      (holds = true ↔ h.IsDottedQuad) := by
  refine ⟨_, ask_of_compiled addressLine_compile (.isMatch h) nofun, ?_⟩
  rw [Matcher.isMatch_free _ (by decide), Regex.searcher_whole Regex.quadExpr_unconditional, Regex.matches_quadExpr]

end Draft

end PatternKit
