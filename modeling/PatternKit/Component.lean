import PatternKit.Quantifier
import PatternKit.Shorthand
import PatternKit.CommonFormat
import PatternKit.Escape

/-!
Patterns as trees of components, and the pattern text they stand for. The text of a sequence is the
texts of its members one after the other.
-/

set_option autoImplicit false

namespace PatternKit

/-- A node of a pattern. -/
inductive Component where
  /-- Pattern text that is taken as it stands. -/
  | text (fragment : Text)
  | shorthand (class_ : Shorthand)
  | group (children : List Component) (capturing : Bool)
  | alternation (branches : List Component)
  | quantified (inner : Component) (quantifier : Quantifier)

namespace Component

mutual

/-- The pattern text of a component. -/
def render : Component → Text
  | .text fragment => fragment
  | .shorthand class_ => class_.token
  | .group children capturing =>
    (if capturing then ['('] else ['(', '?', ':']) ++ renderAll children ++ [')']
  | .alternation branches => renderBranches branches
  | .quantified inner quantifier => render inner ++ quantifier.suffix

/-- The pattern text of a sequence. -/
def renderAll : List Component → Text
  | [] => []
  | c :: cs => render c ++ renderAll cs

/-- The pattern text of alternatives. -/
def renderBranches : List Component → Text
  | [] => []
  | c :: cs => render c ++ renderFurther cs

/-- The pattern text of the alternatives after the first. -/
def renderFurther : List Component → Text
  | [] => []
  | c :: cs => '|' :: (render c ++ renderFurther cs)

end

@[simp] theorem renderAll_append (cs ds : List Component) :
    renderAll (cs ++ ds) = renderAll cs ++ renderAll ds := by
  induction cs with
  | nil => simp [renderAll]
  | cons c cs ih => simp [renderAll, ih]

mutual

/-- Writes the pattern text of a component behind a text, piece by piece. -/
def appendTo (out : Text) : Component → Text
  | .text fragment => out ++ fragment
  | .shorthand class_ => out ++ class_.token
  | .group children capturing =>
    appendAllTo (out ++ if capturing then ['('] else ['(', '?', ':']) children ++ [')']
  | .alternation branches => appendBranchesTo out 0 branches
  | .quantified inner quantifier => appendTo out inner ++ quantifier.suffix

/-- Writes the pattern text of a sequence behind a text. -/
def appendAllTo (out : Text) : List Component → Text
  | [] => out
  | c :: cs => appendAllTo (appendTo out c) cs

/-- Writes alternatives behind a text, with a bar before each but the first of all. `index` is the number of
those that have been written. -/
def appendBranchesTo (out : Text) (index : Nat) : List Component → Text
  | [] => out
  | c :: cs => appendBranchesTo (appendTo (if 0 < index then out ++ ['|'] else out) c) (index + 1) cs

end

mutual

/-- What is written behind a text is the pattern text of the component. -/
@[simp] theorem appendTo_eq (c : Component) (out : Text) : appendTo out c = out ++ c.render := by
  cases c with
  | text fragment => rfl
  | shorthand class_ => rfl
  | group children capturing => simp [appendTo, render, appendAllTo_eq children]
  | alternation branches =>
    cases branches with
    | nil => simp [appendTo, appendBranchesTo, render, renderBranches]
    | cons c cs =>
      simp [appendTo, appendBranchesTo, render, renderBranches, appendTo_eq c, appendBranchesTo_eq cs]
  | quantified inner quantifier => simp [appendTo, render, appendTo_eq inner]

@[simp] theorem appendAllTo_eq (cs : List Component) (out : Text) :
    appendAllTo out cs = out ++ renderAll cs := by
  cases cs with
  | nil => simp [appendAllTo, renderAll]
  | cons c cs => simp [appendAllTo, renderAll, appendTo_eq c, appendAllTo_eq cs]

/-- Once an alternative has been written, there is a bar before every other. -/
theorem appendBranchesTo_eq (cs : List Component) (out : Text) (index : Nat) :
    appendBranchesTo out (index + 1) cs = out ++ renderFurther cs := by
  cases cs with
  | nil => simp [appendBranchesTo, renderFurther]
  | cons c cs => simp [appendBranchesTo, renderFurther, appendTo_eq c, appendBranchesTo_eq cs]

end

mutual

/-- Equality of components. -/
def same : Component → Component → Bool
  | .text f, .text g => f == g
  | .shorthand a, .shorthand b => a == b
  | .group cs capturing, .group ds capturing' => capturing == capturing' && sameAll cs ds
  | .alternation cs, .alternation ds => sameAll cs ds
  | .quantified c q, .quantified d r => q == r && same c d
  | _, _ => false

/-- Equality of sequences. -/
def sameAll : List Component → List Component → Bool
  | [], [] => true
  | c :: cs, d :: ds => same c d && sameAll cs ds
  | _, _ => false

end

instance : BEq Component := ⟨same⟩

/-- Text that stands for itself. -/
def literal (value : Text) : Component := .text (Escape.literal value)

/-- One of the given characters, or one of all others. -/
def set (chars : Text) (negated : Bool) : Component :=
  .text ((if negated then ['[', '^'] else ['[']) ++ Escape.setMember chars ++ [']'])

/-- A character between two others. Inverted ends are left to the engine to refuse. -/
def range (lo hi : Char) : Component :=
  .text ('[' :: Escape.setMember [lo] ++ '-' :: Escape.setMember [hi] ++ [']'])

/-- A common format. -/
def common (format : CommonFormat) : Component := .text format.fragment

/-- Alternatives, each in a group of its own, so that none runs into its neighbours. -/
def alternatives (branches : List (List Component)) : Component :=
  .alternation (branches.map fun branch => .group branch false)

end Component

end PatternKit
