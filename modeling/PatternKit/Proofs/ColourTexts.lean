import Mathlib.Data.List.Basic
import PatternKit.Draft.Script
import PatternKit.Proofs.CharSetMembers
import PatternKit.Proofs.CompileOutcome
import PatternKit.Proofs.PlainText

/-!
Colours in running text. The ready-made pattern for a colour finds the hash signs behind which three or six hexadecimal
digits stand, and then no further character of a word. It finds all of them, from left to right, and nothing else.
-/

set_option autoImplicit false

namespace PatternKit

/-- Whether a character is a hexadecimal digit of ASCII. -/
def Text.isHexDigit (c : Char) : Bool := c.isDigit || 'A' ≤ c && c ≤ 'F' || 'a' ≤ c && c ≤ 'f'

/-- Whether a text is a hash sign with three or six hexadecimal digits. -/
def Text.IsColour (w : Text) : Prop :=
  ∃ digits : Text, w = '#' :: digits ∧ (digits.length = 3 ∨ digits.length = 6) ∧ ∀ c ∈ digits, isHexDigit c = true

namespace Regex

/-! The expression. -/

/-- The set of the hexadecimal digits. -/
def hexSet : CharSet := ⟨[⟨0x30, 0x39⟩, ⟨0x41, 0x46⟩, ⟨0x61, 0x66⟩]⟩

/-- A hash sign, and three hexadecimal digits once or twice. -/
def colourParts : List Expr :=
  [.literal ['#'], .repetition 1 (some 2) true (.repetition 3 (some 3) true (.set false hexSet))]

/-- A colour with the boundary of a word behind it. -/
def colourExpr : Expr := .ofList (colourParts ++ [.look (.wordBoundary false)])

/-- The structure of the text for the set of the digits. -/
def hexAst : Ast :=
  .bracketed ⟨4, 15⟩ false (.union ⟨5, 14⟩
    [.range ⟨5, 8⟩ ⟨⟨5, 6⟩, '0', false⟩ ⟨⟨7, 8⟩, '9', false⟩,
      .range ⟨8, 11⟩ ⟨⟨8, 9⟩, 'a', false⟩ ⟨⟨10, 11⟩, 'f', false⟩,
      .range ⟨11, 14⟩ ⟨⟨11, 12⟩, 'A', false⟩ ⟨⟨13, 14⟩, 'F', false⟩])

/-- The structure of the text for a colour. -/
def colourAst : Ast :=
  .concat ⟨0, 26⟩
    [.literal ⟨⟨0, 1⟩, '#', false⟩,
      .repetition ⟨1, 24⟩ 1 (some 2) true
        (.group ⟨1, 19⟩ (.plain []) (.repetition ⟨4, 18⟩ 3 (some 3) true hexAst)),
      .assertion ⟨24, 26⟩ .wordBoundary]

theorem ofText_colour : Ast.ofText CommonFormat.hexColor.fragment = .ok colourAst := by
  with_unfolding_all rfl

/-- The text has the lower case letters first. -/
private theorem normalize_hexDigits :
    CharSet.normalize [⟨0x30, 0x39⟩, ⟨0x61, 0x66⟩, ⟨0x41, 0x46⟩] = hexSet := by
  have sorted : List.mergeSort [⟨0x30, 0x39⟩, ⟨0x61, 0x66⟩, ⟨0x41, 0x46⟩] (fun r s : CodeRange => r.lo ≤ s.lo) =
      hexSet.ranges := by simp [List.mergeSort, hexSet]
  rw [CharSet.normalize, sorted]
  rfl

private theorem ofAst_hexAst : Expr.ofAst {} hexAst = .ok (.set false hexSet, {}) := by
  show (do return (Expr.ofSet false (← Expr.ofBrackets {} ⟨4, 15⟩ false
    [⟨0x30, 0x39⟩, ⟨0x61, 0x66⟩, ⟨0x41, 0x46⟩]), ({} : Switches))) = _
  rw [Expr.ofBrackets, normalize_hexDigits]
  rfl

private theorem ofAst_colourAst : Expr.ofAst {} colourAst = .ok (colourExpr, {}) := by
  simp only [colourAst, Expr.ofAst, Expr.ofAsts, Switches.change_nil, Expr.ofLiteral_char, ofAst_hexAst, bind, Except.bind,
    pure, Except.pure]
  rfl

/-- The engine reads the text as this expression. -/
theorem build_colour :
    build { policy := .disabled } {} CommonFormat.hexColor.fragment =
      .ok (searcher CommonFormat.hexColor.fragment colourExpr) := by
  have shallow : colourAst.checkDepth 250 0 = .ok () := rfl
  rw [build, parse_of_ofAst ofText_colour shallow ofAst_colourAst]
  rfl

/-! What the expression matches. -/

theorem isHexDigit_iff (c : Char) :
    Text.isHexDigit c = true ↔
      48 ≤ c.toNat ∧ c.toNat ≤ 57 ∨ 65 ≤ c.toNat ∧ c.toNat ≤ 70 ∨ 97 ≤ c.toNat ∧ c.toNat ≤ 102 := by
  have le (c d : Char) : c ≤ d ↔ c.toNat ≤ d.toNat := UInt32.le_iff_toNat_le
  simp only [Text.isHexDigit, Bool.or_eq_true, Bool.and_eq_true, decide_eq_true_eq, Char.isDigit_iff_toNat, le, or_assoc]
  rfl

theorem hexSet_contains (c : Char) : hexSet.contains c = true ↔ Text.isHexDigit c = true := by
  rw [CharSet.contains_iff (by simp [CharSet.Ordered, hexSet]), isHexDigit_iff]
  simp only [hexSet, CharSet.Covers, List.mem_cons, exists_eq_or_imp, List.not_mem_nil, or_false, exists_eq_left]

/-- Hexadecimal digits are characters of words. -/
theorem isWord_of_isHexDigit {c : Char} (digit : Text.isHexDigit c = true) : Unicode.isWord c = true := by
  show CharSet.containsCode c.toNat (⟨0x30, 0x39⟩ :: ⟨0x41, 0x5a⟩ :: ⟨0x5f, 0x5f⟩ :: ⟨0x61, 0x7a⟩ :: _) = true
  rcases (isHexDigit_iff c).mp digit with ⟨lo, hi⟩ | ⟨lo, hi⟩ | ⟨lo, hi⟩
  · exact CharSet.containsCode_of_mem lo hi _
  · rw [CharSet.containsCode_of_hi_lt, CharSet.containsCode_of_mem]
    all_goals simp only
    all_goals omega
  · rw [CharSet.containsCode_of_hi_lt, CharSet.containsCode_of_hi_lt, CharSet.containsCode_of_hi_lt,
      CharSet.containsCode_of_mem]
    all_goals simp only
    all_goals omega

private theorem matches_threeDigits {u : Text} :
    (Expr.repetition 3 (some 3) true (.set false hexSet)).Matches u ↔
      u.length = 3 ∧ ∀ c ∈ u, Text.isHexDigit c = true := by
  simp only [Expr.matches_repetition_set, hexSet_contains, Expr.allows_times]

/-- Three digits once or twice are three or six. -/
theorem matchesAll_colourParts {w : Text} : Expr.MatchesAll colourParts w ↔ w.IsColour := by
  rw [colourParts, Expr.matchesAll_literal]
  simp only [Expr.matchesAll_singleton, List.singleton_append]
  constructor
  · rintro ⟨digits, rfl, parts, ⟨least, most⟩, rfl, each⟩
    have count : parts.length = 1 ∨ parts.length = 2 := by
      have most := most 2 rfl
      omega
    rcases count with one | two
    · obtain ⟨u, rfl⟩ := List.length_eq_one_iff.mp one
      obtain ⟨length, digit⟩ := matches_threeDigits.mp (each u (by simp))
      rw [List.flatten_singleton]
      exact ⟨u, rfl, .inl length, digit⟩
    · obtain ⟨u, v, rfl⟩ := List.length_eq_two.mp two
      obtain ⟨length, digit⟩ := matches_threeDigits.mp (each u (by simp))
      obtain ⟨length', digit'⟩ := matches_threeDigits.mp (each v (by simp))
      have joined : [u, v].flatten = u ++ v := by simp
      rw [joined]
      exact ⟨u ++ v, rfl, .inr (by rw [List.length_append, length, length']), List.forall_mem_append.mpr ⟨digit, digit'⟩⟩
  · rintro ⟨digits, rfl, three | six, digit⟩
    · refine ⟨digits, rfl, [digits], ⟨Nat.le_refl 1, by simp⟩, by simp, ?_⟩
      exact List.forall_mem_singleton.mpr (matches_threeDigits.mpr ⟨three, digit⟩)
    · refine ⟨digits, rfl, [digits.take 3, digits.drop 3], ⟨by simp, by simp⟩, by simp, ?_⟩
      have first : (digits.take 3).length = 3 := by rw [List.length_take, six]; rfl
      have second : (digits.drop 3).length = 3 := by rw [List.length_drop, six]
      refine List.forall_mem_cons.mpr ⟨matches_threeDigits.mpr ⟨first, fun c member => ?_⟩,
        List.forall_mem_singleton.mpr (matches_threeDigits.mpr ⟨second, fun c member => ?_⟩)⟩
      · exact digit c (List.mem_of_mem_take member)
      · exact digit c (List.mem_of_mem_drop member)

/-- Behind a colour the boundary of a word is where no character of a word follows. -/
theorem boundary_behind_colour {s w v : Text} (colour : w.IsColour) :
    (Look.wordBoundary false).holds (.between (s ++ w) v) = true ↔ inWord false v.head? = false := by
  obtain ⟨digits, rfl, count, digit⟩ := colour
  obtain ⟨before, last, rfl⟩ : ∃ before last, digits = before ++ [last] := by
    rcases List.eq_nil_or_concat digits with rfl | ⟨before, last, same⟩
    · simp at count
    · exact ⟨before, last, by rw [same, List.concat_eq_append]⟩
  have word : Unicode.isWord last = true := isWord_of_isHexDigit (digit last (by simp))
  have place : (s ++ '#' :: (before ++ [last])).getLast? = some last := by
    rw [← List.cons_append, ← List.append_assoc, List.getLast?_concat]
  show (inWord false (s ++ '#' :: (before ++ [last])).getLast? != inWord false v.head?) = true ↔ _
  have inside : inWord false (some last) = true := word
  rw [place, inside]
  cases inWord false v.head? <;> simp

theorem accepts_colour :
    (Program.ofExpr colourExpr).Accepts fun _ w b => w.IsColour ∧ inWord false b.head? = false := by
  have plain : Expr.UnconditionalAll colourParts := by
    simp [colourParts, Expr.Unconditional, Expr.UnconditionalAll]
  refine (Program.accepts_condition plain (.wordBoundary false)).congr fun s w b => ?_
  rw [matchesAll_colourParts]
  exact and_congr_right boundary_behind_colour

end Regex

namespace Text

variable {digits digits' b b' : Text} {c : Char}

/-- A text that does not have a character ends where that one stands, or before. -/
private theorem length_le_of_notMem {s t u v : Text} (absent : c ∉ s) (same : s ++ t = u ++ c :: v) :
    s.length ≤ u.length := by
  rcases List.append_eq_append_iff.mp same with ⟨x, rfl, -⟩ | ⟨x, rfl, rest⟩
  · rw [List.length_append]
    exact Nat.le_add_right _ _
  · cases x with
    | nil => exact Nat.le_of_eq (congrArg List.length (List.append_nil u))
    | cons d x =>
      obtain ⟨rfl, -⟩ := List.cons.inj rest
      exact absurd (List.mem_append_right u List.mem_cons_self) absent

/-- Where a word ends says what has been read of it. -/
private theorem eq_of_inWord_ends (word : ∀ c ∈ digits, Unicode.isWord c = true)
    (word' : ∀ c ∈ digits', Unicode.isWord c = true) (ends : Regex.inWord false b.head? = false)
    (ends' : Regex.inWord false b'.head? = false) (same : digits ++ b = digits' ++ b') : digits = digits' := by
  have taken {digits b : Text} (word : ∀ c ∈ digits, Unicode.isWord c = true)
      (ends : Regex.inWord false b.head? = false) : (digits ++ b).takeWhile Unicode.isWord = digits := by
    have none_ : b.takeWhile Unicode.isWord = [] := by
      cases b with
      | nil => rfl
      | cons c b => exact List.takeWhile_cons_of_neg (Bool.eq_false_iff.mp ends)
    rw [List.takeWhile_append_of_pos word, none_, List.append_nil]
  rw [← taken word ends, same, taken word' ends']

/-- Colours that end where a word ends do not overlap: their digits are all that the word has behind the hash sign, and the
sign is not a digit. -/
theorem colours_apart : Apart fun _ w b => w.IsColour ∧ Regex.inWord false b.head? = false where
  some_ := by
    rintro - w b ⟨⟨digits, rfl, -⟩, -⟩
    exact List.cons_ne_nil '#' digits
  apart := by
    rintro a w b a' w' b' ⟨⟨digits, rfl, -, digit⟩, ends⟩ ⟨⟨digits', rfl, -, digit'⟩, ends'⟩ same order
    obtain ⟨x, rfl⟩ : a <+: a' := List.prefix_of_prefix_length_le ⟨_, same⟩ ⟨_, rfl⟩ order
    rw [List.append_assoc] at same
    replace same := List.append_cancel_left same
    cases x with
    | nil =>
      have word {digits : Text} (digit : ∀ c ∈ digits, isHexDigit c = true) : ∀ c ∈ digits, Unicode.isWord c = true :=
        fun c member => Regex.isWord_of_isHexDigit (digit c member)
      obtain rfl := eq_of_inWord_ends (word digit) (word digit') ends ends' (List.cons.inj same).2
      exact .inl ⟨List.append_nil a, rfl⟩
    | cons c x =>
      -- the second sign stands behind the digits of the first, as it is none of them
      have noDigit : '#' ∉ digits := fun member => absurd (digit '#' member) (by decide)
      have longer : digits.length ≤ x.length := length_le_of_notMem noDigit (List.cons.inj same).2
      right
      simp only [List.length_append, List.length_cons]
      omega

end Text

namespace Draft

/-- The draft for a colour alone, for all matches, with no policy against repetitions. -/
def colours : Draft :=
  (Command.runAll Regex.build {}
    [.setLimits { policy := .disabled }, .addFlags (.of .global), .push (.common .hexColor)]).draft

theorem colours_compile :
    (colours.compile Regex.build).result =
      .ok ⟨Regex.searcher CommonFormat.hexColor.fragment Regex.colourExpr, .of .global⟩ := by
  have positive : ∀ e, ¬ colours.limits.FirstZero e := Limits.check_eq_ok_iff.mp rfl
  have faultless : Validation.structuralIssues .disabled CommonFormat.hexColor.fragment = [] := by decide +kernel
  exact compile_of_accepted positive faultless (by decide) Regex.build_colour

/-- In any text the ready-made pattern for a colour finds one match for each hash sign behind which exactly three or exactly
six hexadecimal digits stand, and then the end or a character that does not belong to words. The match is the sign with these
digits, the matches come from left to right, and there are no others. -/
theorem hexColor_finds_colours (h : Text) :
    ∃ found, (colours.ask Regex.build (.all h)).result = .ok (.all h found) ∧
      (found.Pairwise fun m m' => m.whole.start < m'.whole.start) ∧
      ∀ m, m ∈ found ↔ ∃ a w b, h = a ++ (w ++ b) ∧ (w.IsColour ∧ Regex.inWord false b.head? = false) ∧
        m = Text.matchBehind a w := by
  refine ⟨_, ask_of_compiled colours_compile (.all h) fun _ _ => by decide, ?_⟩
  rw [Matcher.all_free _ (by decide)]
  exact (Regex.searcher_picks Regex.accepts_colour rfl _).allMatches Text.colours_apart h

end Draft

end PatternKit
