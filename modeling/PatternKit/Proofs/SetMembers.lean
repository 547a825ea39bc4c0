import PatternKit.Proofs.CharSetMembers
import PatternKit.Proofs.ClassMembers
import PatternKit.Proofs.CodeMeaning
import PatternKit.Proofs.PlainStructure
import PatternKit.Proofs.RecipeTokens

/-!
What sets of given characters mean. The text for a set is read as one bracketed class, wherever it stands and whatever
follows it, and the class has the given characters and no other, or all others if it is negated; so it is with the
text for a range, unless its ends are inverted.

The expression that is made of such a class matches the members of the class. There is one exception, where U+D7FF and
U+E000 are both left out by a negated set: the expression for it matches these two all the same.
-/

set_option autoImplicit false

namespace PatternKit

open CharSet (Covers IsCode Proper Straddles)

namespace Regex

namespace Expr

variable {sw : Switches}

/-- The expression for a set matches its characters. -/
theorem matches_ofSet {s : CharSet} (codes : ∀ r ∈ s.ranges, IsCode r.lo) (ascii : Bool) (w : Text) :
    (ofSet ascii s).Matches w ↔ ∃ c, w = [c] ∧ s.contains c = true := by
  unfold ofSet
  split
  · rename_i d only
    simp only [CharSet.contains_of_only? codes only, Matches, exists_eq_right]
  · split
    · rename_i empty
      obtain ⟨ranges⟩ := s
      obtain rfl : ranges = [] := List.isEmpty_iff.mp empty
      exact Iff.rfl
    · exact Iff.rfl

/-- The members of brackets, from the intervals of what stands between them. -/
def InBrackets (negated : Bool) (ranges : List CodeRange) (c : Char) : Prop :=
  if negated then ¬ Covers ranges c.toNat ∨ Straddles (CharSet.normalize ranges).ranges ∧ (c = '\ud7ff' ∨ c = '\ue000')
  else Covers ranges c.toNat

/-- Where case counts, the expression for brackets matches their members. -/
theorem ofAst_bracketed (unicode : sw.unicode = true) (exact_ : sw.ignoreCase = false) {inner : ClassSet}
    {ranges : List CodeRange} (made : ofClass sw inner = .ok ranges) (proper : ∀ r ∈ ranges, Proper r) (span : Span)
    (negated : Bool) :
    ∃ e, ofAst sw (.bracketed span negated inner) = .ok (e, sw) ∧
      ∀ w, e.Matches w ↔ ∃ c, w = [c] ∧ InBrackets negated ranges c := by
  let s := CharSet.normalize ranges
  have set_ : ofBrackets sw span negated ranges = .ok (if negated then s.complement else s) := by
    rw [ofBrackets, fold, exact_, negate_of_unicode unicode]
    rfl
  obtain ⟨canonical, covers⟩ := CharSet.normalize_spec proper
  refine ⟨ofSet (!sw.unicode) (if negated then s.complement else s), ?_, fun w => ?_⟩
  · rw [ofAst, made]
    show (ofBrackets sw span negated ranges >>= _) = _
    rw [set_]
    rfl
  · cases negated with
    | false =>
      rw [if_neg Bool.false_ne_true, matches_ofSet fun r member => (canonical.proper r member).lo]
      simp only [CharSet.contains_iff canonical.ordered, covers, InBrackets]
      rfl
    | true =>
      obtain ⟨-, codes, -⟩ := CharSet.complement_spec canonical
      rw [if_pos rfl, matches_ofSet codes]
      simp only [CharSet.contains_complement canonical, covers, InBrackets, if_true]

theorem ofClass_unionOf (start : Nat) (acc : List ClassSet) :
    ofClass sw (Bracket.unionOf start acc) = ofClasses sw acc.reverse := by
  rcases acc with - | ⟨x, - | ⟨y, acc⟩⟩
  · rfl
  · show ofClass sw x = (ofClass sw x >>= _)
    cases ofClass sw x with
    | error d => rfl
    | ok ranges => exact congrArg Except.ok (List.append_nil ranges).symm
  · obtain ⟨span, several⟩ := Bracket.unionOf_several start x y acc
    rw [several]
    rfl

theorem ofClasses_chars (unicode : sw.unicode = true) (p : Nat) (cs : Text) :
    ofClasses sw (SetItem.nodes p (cs.map .char)) = .ok (cs.map fun c => ⟨c.toNat, c.toNat⟩) := by
  induction cs generalizing p with
  | nil => rfl
  | cons c cs ih =>
    rw [List.map_cons, SetItem.nodes, ofClasses, SetItem.node, ofClass, memberChar_of_unicode unicode]
    show (ofClasses sw (SetItem.nodes _ (cs.map .char)) >>= _) = _
    rw [ih]
    rfl

end Expr

namespace Bracket

/-- Whether the expression for what a text is read as, wherever it stands and whatever follows it, matches certain
characters and nothing else, where case counts. -/
def Expresses (text : Text) (members : Char → Prop) : Prop :=
  ∀ (sw : Switches) (p : Nat) (t : Text), sw.unicode = true → sw.ignoreCase = false →
    ∃ a e, Bracket.read false ⟨p, text ++ t⟩ = .ok (a, ⟨p + text.length, t⟩) ∧ Expr.ofAst sw a = .ok (e, sw) ∧
      ∀ w, e.Matches w ↔ ∃ c, w = [c] ∧ members c

theorem Expresses.congr {text : Text} {members members' : Char → Prop} (expresses : Expresses text members)
    (same : ∀ c, members c ↔ members' c) : Expresses text members' := by
  obtain rfl : members = members' := funext fun c => propext (same c)
  exact expresses

/-- The expression for a set that is written member by member matches what its intervals say. -/
theorem expresses_setText {items : List SetItem} (some : items ≠ []) (fit : SetItem.FitAll items) (negated : Bool)
    {ranges : List CodeRange} (proper : ∀ r ∈ ranges, Proper r)
    (made : ∀ {sw : Switches} (p : Nat), sw.unicode = true → Expr.ofClasses sw (SetItem.nodes p items) = .ok ranges) :
    Expresses (SetItem.setText negated items) (Expr.InBrackets negated ranges) := by
  intro sw p t unicode exact_
  let start := p + if negated then 2 else 1
  have made_ : Expr.ofClass sw (unionOf start (SetItem.nodes start items).reverse) = .ok ranges := by
    rw [Expr.ofClass_unionOf, List.reverse_reverse]
    exact made start unicode
  obtain ⟨e, meaning, means⟩ := Expr.ofAst_bracketed unicode exact_ made_ proper _ negated
  exact ⟨_, e, Bracket.read_setText some fit negated p t, meaning, means⟩

end Bracket

end Regex

namespace Component

open Regex Regex.Bracket

theorem range_render (lo hi : Char) : (Component.range lo hi).render = SetItem.setText false [.range lo hi] := by
  simp [Component.range, render, SetItem.setText, SetItem.textAll, SetItem.text]

/-! What the texts denote. -/

private theorem denotes_set {cs : Text} (some : cs ≠ []) (negated : Bool) :
    Denotes (Component.set cs negated).render negated fun c =>
      ((cs.map SetItem.char).any (SetItem.has c) != negated) = true := by
  rw [← (Recipe.set_spec some negated).1]
  exact denotes_setText (by simpa using some) (SetItem.fitAll_chars cs) negated

theorem denotes_set_false {cs : Text} (some : cs ≠ []) : Denotes (Component.set cs false).render false (· ∈ cs) := by
  refine (denotes_set some false).congr fun c => ?_
  rw [Bool.bne_false]
  exact SetItem.any_has_chars c cs

theorem denotes_set_true {cs : Text} (some : cs ≠ []) : Denotes (Component.set cs true).render true (· ∉ cs) := by
  refine (denotes_set some true).congr fun c => ?_
  rw [bne_iff_ne]
  exact not_congr (SetItem.any_has_chars c cs)

theorem denotes_range {lo hi : Char} (le : lo ≤ hi) :
    Denotes (Component.range lo hi).render false fun c => lo ≤ c ∧ c ≤ hi := by
  have fit : SetItem.FitAll [.range lo hi] := ⟨le, trivial⟩
  rw [range_render]
  refine (denotes_setText (by simp) fit false).congr fun c => ?_
  simp [SetItem.has]

/-- The text for a set denotes the given characters, and the text for a negated set all others. The text for a range
denotes what is between its ends; with inverted ends it is refused. -/
theorem set_text_denotes (cs : Text) (some : cs ≠ []) (lo hi : Char) :
    Denotes (Component.set cs false).render false (· ∈ cs) ∧
    Denotes (Component.set cs true).render true (· ∉ cs) ∧
    (lo ≤ hi → Denotes (Component.range lo hi).render false fun c => lo ≤ c ∧ c ≤ hi) ∧
    (hi < lo → ∀ (p : Nat) (t : Text), Bracket.read false ⟨p, (Component.range lo hi).render ++ t⟩ =
      .error ⟨.classRangeInvalid, ⟨p + 1, p + (Component.range lo hi).render.length - 1⟩, none⟩) := by
  refine ⟨denotes_set_false some, denotes_set_true some, denotes_range, fun inverted p t => ?_⟩
  have stop : p + 1 + (SetItem.range lo hi).text.length = p + (SetItem.setText false [.range lo hi]).length - 1 := by
    simp [SetItem.setText, SetItem.textAll]
    omega
  rw [range_render, ← stop]
  exact read_inverted inverted p t

/-- A set and a negated set of characters that have a meaning in sets, a range between two of them, and an inverted
range. -/
theorem signs_denote :
    ['^', 'a', '-', 'z', '&', '&'] ≠ ([] : Text) ∧
    (∃ inner, Bracket.read false ⟨3, ['[', '\\', '^', 'a', '\\', '-', 'z', '\\', '&', '\\', '&', ']', ']', '-']⟩ =
        .ok (.bracketed ⟨3, 15⟩ false inner, ⟨15, [']', '-']⟩) ∧
      ∀ c, (ClassSet.bracketed ⟨3, 15⟩ false inner).has c = true ↔ c ∈ ['^', 'a', '-', 'z', '&', '&']) ∧
    Denotes (Component.set ['^', 'a', '-', 'z', '&', '&'] true).render true (· ∉ ['^', 'a', '-', 'z', '&', '&']) ∧
    Denotes (Component.range '[' '^').render false (fun c => '[' ≤ c ∧ c ≤ '^') ∧
    Bracket.read false ⟨0, ['[', 'z', '-', 'a', ']', '+']⟩ = .error ⟨.classRangeInvalid, ⟨1, 4⟩, none⟩ := by
  obtain ⟨given, complement, between, -⟩ := set_text_denotes ['^', 'a', '-', 'z', '&', '&'] (by decide) '[' '^'
  obtain ⟨-, -, -, inverted⟩ := set_text_denotes ['a'] (by decide) 'z' 'a'
  exact ⟨by decide, given 3 [']', '-'], complement, between (by decide), inverted (by decide) 0 ['+']⟩

/-! What the expressions match. -/

/-- The intervals of some characters, one for each. -/
private def singles (cs : Text) : List CodeRange := cs.map fun c => ⟨c.toNat, c.toNat⟩

private theorem covers_singles (cs : Text) (n : Nat) : Covers (singles cs) n ↔ ∃ c ∈ cs, c.toNat = n := by
  constructor
  · rintro ⟨r, member, lo, hi⟩
    obtain ⟨c, given, rfl⟩ := List.mem_map.mp member
    exact ⟨c, given, Nat.le_antisymm lo hi⟩
  · rintro ⟨c, given, rfl⟩
    exact ⟨_, List.mem_map_of_mem given, Nat.le_refl _, Nat.le_refl _⟩

private theorem covers_singles_toNat (cs : Text) (c : Char) : Covers (singles cs) c.toNat ↔ c ∈ cs := by
  simp only [covers_singles, Char.toNat_inj, exists_eq_right]

private theorem proper_char {lo hi : Char} (le : lo ≤ hi) : Proper ⟨lo.toNat, hi.toNat⟩ :=
  ⟨le, CharSet.isCode_toNat lo, CharSet.isCode_toNat hi⟩

private theorem singles_proper (cs : Text) : ∀ r ∈ singles cs, Proper r := by
  intro r member
  obtain ⟨c, -, rfl⟩ := List.mem_map.mp member
  exact proper_char (Nat.le_refl _)

private theorem expresses_set {cs : Text} (some : cs ≠ []) (negated : Bool) :
    Expresses (Component.set cs negated).render (Expr.InBrackets negated (singles cs)) := by
  rw [← (Recipe.set_spec some negated).1]
  exact expresses_setText (by simpa using some) (SetItem.fitAll_chars cs) negated (singles_proper cs)
    fun p unicode => Expr.ofClasses_chars unicode p cs

/-- The expression for a set matches the given characters. -/
theorem expresses_set_false {cs : Text} (some : cs ≠ []) : Expresses (Component.set cs false).render (· ∈ cs) :=
  (expresses_set some false).congr (covers_singles_toNat cs)

/-- The expression for a negated set matches the characters that are not given, and with them U+D7FF and U+E000 if both
are given: what its intervals leave out is taken from the one to the other, and there is nothing between them. -/
theorem expresses_set_true {cs : Text} (some : cs ≠ []) :
    Expresses (Component.set cs true).render fun c =>
      c ∉ cs ∨ ('\ud7ff' ∈ cs ∧ '\ue000' ∈ cs) ∧ (c = '\ud7ff' ∨ c = '\ue000') := by
  obtain ⟨canonical, covers⟩ := CharSet.normalize_spec (singles_proper cs)
  -- No interval goes across the surrogates, because each has come from single characters.
  have noSurrogate : ¬ Covers (CharSet.normalize (singles cs)).ranges 0xd800 := by
    rw [covers, covers_singles]
    rintro ⟨c, -, same⟩
    have code := CharSet.isCode_toNat c
    rw [same] at code
    simp [IsCode] at code
  have straddles : Straddles (CharSet.normalize (singles cs)).ranges ↔ '\ud7ff' ∈ cs ∧ '\ue000' ∈ cs := by
    rw [CharSet.straddles_iff canonical noSurrogate, covers, covers]
    exact and_congr (covers_singles_toNat cs '\ud7ff') (covers_singles_toNat cs '\ue000')
  refine (expresses_set some true).congr fun c => ?_
  simp only [Expr.InBrackets, if_true, covers_singles_toNat, straddles]

/-- The expression for a range matches the characters between its ends. -/
theorem expresses_range {lo hi : Char} (le : lo ≤ hi) :
    Expresses (Component.range lo hi).render fun c => lo ≤ c ∧ c ≤ hi := by
  have made {sw : Switches} (p : Nat) (unicode : sw.unicode = true) :
      Expr.ofClasses sw (SetItem.nodes p [.range lo hi]) = .ok [⟨lo.toNat, hi.toNat⟩] := by
    rw [SetItem.nodes, Expr.ofClasses, SetItem.node, Expr.ofClass, Expr.memberChar_of_unicode unicode,
      Expr.memberChar_of_unicode unicode]
    rfl
  have fit : SetItem.FitAll [.range lo hi] := ⟨le, trivial⟩
  rw [range_render]
  refine (expresses_setText (by simp) fit false (List.forall_mem_singleton.mpr (proper_char le)) made).congr fun c => ?_
  simp only [Expr.InBrackets, Covers, List.mem_singleton, exists_eq_left, Bool.false_eq_true, if_false]
  exact Iff.rfl

end Component

end PatternKit
