import PatternKit.Proofs.AnchoredExpression
import PatternKit.Proofs.EnclosedText
import PatternKit.Proofs.Replacement
import PatternKit.Draft.Compile

/-!
Matching at the beginning only. A pattern that has to match where the text begins does what the same pattern does in a
group behind `\A`: the engine finds the same match of either, or none of both.
-/

set_option autoImplicit false

namespace PatternKit

/-- A pattern text in a plain group behind `\A`. -/
def Text.anchored (t : Text) : Text := '\\' :: 'A' :: '(' :: '?' :: ':' :: (t ++ [')'])

namespace Regex

variable {sw : Switches}

theorem parse_eq_ok {nest : Nat} {t : Text} {e : Expr} (parsed : parse nest sw t = .ok e) :
    ∃ a sw', Ast.ofText t = .ok a ∧ Expr.ofAst sw a = .ok (e, sw') := by
  obtain ⟨a, read, deep⟩ := bind_eq_ok parsed
  obtain ⟨-, -, rest⟩ := bind_eq_ok deep
  obtain ⟨⟨e, sw'⟩, means, same⟩ := bind_eq_ok rest
  cases same
  exact ⟨a, sw', read, means⟩

private theorem ofAst_anchored {a : Ast} {e : Expr} {sw' : Switches} (means : Expr.ofAst sw a = .ok (e, sw')) :
    Expr.ofAst sw (.concat anywhere [.assertion anywhere .startText, .group anywhere (.plain []) a]) =
      .ok (e.anchored, sw) := by
  have unchanged : sw.change [] = sw := rfl
  simp only [Expr.ofAst, Expr.ofAsts, unchanged, means, bind, Except.bind, pure, Except.pure]
  rfl

/-- The expression for a text in a group behind `\A` is the expression for the text, behind the anchor. -/
theorem parse_anchored {nest nest' : Nat} {t : Text} {e e' : Expr} (alone : parse nest sw t = .ok e)
    (enclosed : parse nest' sw t.anchored = .ok e') : e' = e.anchored := by
  obtain ⟨a, swAlone, read, alone⟩ := parse_eq_ok alone
  obtain ⟨whole, swWhole, read', enclosed⟩ := parse_eq_ok enclosed
  replace alone := Expr.ofAst_bare_eq_ok_iff.mpr alone
  replace enclosed := Expr.ofAst_bare_eq_ok_iff.mpr enclosed
  rw [Ast.ofText_enclosed read read', ofAst_anchored alone] at enclosed
  exact (Prod.mk.inj (Except.ok.inj enclosed)).1.symm

/-- The searcher that is built for a text in a group behind `\A` finds what the one for the text finds at the
beginning. -/
theorem build_anchored {limits limits' : Limits} {t : Text} {s s' : Searcher} (alone : build limits sw t = .ok s)
    (enclosed : build limits' sw t.anchored = .ok s') : s'.Anchors s := by
  obtain ⟨e, parsed, rfl⟩ := build_eq_ok alone
  obtain ⟨e', parsed', rfl⟩ := build_eq_ok enclosed
  rw [parse_anchored parsed parsed']
  exact searcher_anchored _ _ e

end Regex

/-! Options. -/

namespace Draft

/-- A draft in a plain group behind `\A`, with other options. -/
def anchored (d : Draft) (flags : Flags) : Draft :=
  (push { d with components := [], flags := flags } (.text ['\\', 'A'])).enclose d.components false

theorem render_anchored (d : Draft) (flags : Flags) : (d.anchored flags).render = d.render.anchored := by
  rw [anchored, render_enclose, render_push, render_eq_renderAll d]
  simp [Text.anchored, render, Component.render, Component.renderAll]

end Draft

namespace Template

/-- Of a searcher, an expansion needs the names of the groups only. -/
theorem expand_groupNames {s s' : Searcher} (same : s'.groupNames = s.groupNames) (h template : Text) :
    expand s' h template = expand s h template := by
  have part (m : Match) : expandPart s' h m = expandPart s h m := by
    funext p
    cases p with
    | char c => rfl
    | number n => rfl
    | name name => rw [expandPart, expandPart, Searcher.groupIndex?, Searcher.groupIndex?, same]
  funext m
  rw [expand, expand, part]

end Template

namespace Matcher

variable {m m' : Matcher}

/-- With a searcher that finds what another one finds at the beginning, the first match is the one that starts there. -/
private theorem first?_anchored (anchors : m'.searcher.Anchors m.searcher) (sticky : m.isSticky = true)
    (unsticky : m'.isSticky = false) (h : Text) : m'.first? h = m.first? h := by
  have anywhere : m'.all h = m'.searcher.allMatches h := by rw [all, unsticky, if_neg Bool.false_ne_true]
  have atBeginning : m.all h = m.searcher.chain h := by rw [all, if_pos sticky]
  rw [first?_eq_head?_all, first?_eq_head?_all, anywhere, atBeginning, Searcher.head?_allMatches, Searcher.head?_chain]
  exact anchors.findAt h

private theorem isMatch_eq_isSome_first? (m : Matcher) (h : Text) : m.isMatch h = (m.first? h).isSome := by
  rw [isMatch, first?, Searcher.find?, Searcher.captures?, Searcher.isMatch]
  by_cases sticky : m.isSticky = true
  · rw [if_pos sticky, sticky]
    cases m.searcher.findAt h 0 with
    | none => rfl
    | some found =>
      by_cases starts : found.whole.start = 0
      · simp [starts]
      · simp [starts]
  · rw [if_neg sticky]
    cases m.searcher.findAt h 0 with
    | none => rfl
    | some found => simp [sticky]

private theorem replace_first (one : m.isGlobal = false) (h template : Text) :
    m.replace h template = h.splice (Template.expand m.searcher h template) 0 (m.first? h).toList := by
  rw [replace_eq_splice, replaced, one, if_neg Bool.false_ne_true]

/-- A pattern that has to match where the text begins, and the pattern in a plain group behind `\A`, under the same
options but that one: if both are compiled, they match the same texts, the first match is the same with all its groups,
the groups have the same numbers and names, and replacing the first match gives the same text. -/
theorem sticky_is_anchored (d : Draft) (flags : Flags) (sticky : d.flags.has .sticky = true)
    (unsticky : flags.has .sticky = false) (others : ∀ f, f ≠ .sticky → flags.has f = d.flags.has f)
    (compiled : (d.compile Regex.build).result = .ok m)
    (compiled' : ((d.anchored flags).compile Regex.build).result = .ok m') :
    m'.searcher.groupNames = m.searcher.groupNames ∧
      ∀ h, m'.isMatch h = m.isMatch h ∧ m'.first? h = m.first? h ∧
        (m.isGlobal = false → ∀ template, m'.replace h template = m.replace h template) := by
  obtain ⟨-, s, built, made⟩ := Draft.compile_eq_ok compiled
  obtain ⟨-, s', built', made'⟩ := Draft.compile_eq_ok compiled'
  have switches : (d.anchored flags).switches = d.switches := by
    show Regex.Switches.mk (flags.has .ignoreCase) (flags.has .multiline) (flags.has .dotAll) _ _ _ = _
    rw [others _ (by decide), others _ (by decide), others _ (by decide)]
    rfl
  rw [Draft.render_anchored, switches] at built'
  have anchors : m'.searcher.Anchors m.searcher := by
    rw [made, made']
    exact Regex.build_anchored built built'
  have first (h : Text) : m'.first? h = m.first? h :=
    first?_anchored anchors (by rw [made]; exact sticky) (by rw [made']; exact unsticky) h
  refine ⟨anchors.groupNames, fun h => ⟨?_, first h, fun one template => ?_⟩⟩
  · rw [isMatch_eq_isSome_first?, isMatch_eq_isSome_first?, first]
  · have one' : m'.isGlobal = false := by
      rw [made] at one
      rw [made', isGlobal, show (d.anchored flags).flags = flags from rfl, others _ (by decide)]
      exact one
    rw [replace_first one, replace_first one', first, Template.expand_groupNames anchors.groupNames]

/-- A run of a letter at the beginning of a line, or another letter anywhere. -/
def lineRuns : Draft :=
  { components :=
      [.text ['^'], .alternatives [[.group [.quantified (.literal ['a']) .oneOrMore] true], [.literal ['b']]]]
    flags := (Flags.of .sticky).union (.of .multiline) }

theorem lineRuns_is_anchored :
    lineRuns.flags.has .sticky = true ∧ Flags.has (.of .multiline) .sticky = false ∧
      (∀ f, f ≠ .sticky → Flags.has (.of .multiline) f = lineRuns.flags.has f) ∧
      ∃ m m', (lineRuns.compile Regex.build).result = .ok m ∧
        ((lineRuns.anchored (.of .multiline)).compile Regex.build).result = .ok m' ∧
        m'.first? ['\n', 'a'] = m.first? ['\n', 'a'] ∧ m.isGlobal = false ∧
        m'.replace ['a', 'a', 'b'] ['$', '1'] = m.replace ['a', 'a', 'b'] ['$', '1'] := by
  have sticky : lineRuns.flags.has .sticky = true := by decide
  have unsticky : Flags.has (.of .multiline) .sticky = false := by decide
  have others (f : Flag) (other : f ≠ .sticky) : Flags.has (.of .multiline) f = lineRuns.flags.has f := by
    cases f <;> first | decide | exact absurd rfl other
  obtain ⟨m, compiled⟩ : ∃ m, (lineRuns.compile Regex.build).result = .ok m := ⟨_, rfl⟩
  obtain ⟨m', compiled'⟩ : ∃ m, ((lineRuns.anchored (.of .multiline)).compile Regex.build).result = .ok m := ⟨_, rfl⟩
  obtain ⟨-, same⟩ := sticky_is_anchored lineRuns (.of .multiline) sticky unsticky others compiled compiled'
  have one : m.isGlobal = false := by
    obtain ⟨-, s, -, rfl⟩ := Draft.compile_eq_ok compiled
    exact (by decide : lineRuns.flags.has .global = false)
  exact ⟨sticky, unsticky, others, m, m', compiled, compiled', (same _).2.1, one, (same _).2.2 one _⟩

end Matcher

end PatternKit
