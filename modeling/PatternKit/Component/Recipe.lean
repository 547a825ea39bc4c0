import PatternKit.Component

/-!
Recipes for components: how a component is to be made, with text not yet escaped and bounds not yet
compared. Parts are made from left to right, and the first error ends the making.
-/

set_option autoImplicit false

namespace PatternKit

/-- How a component is made. -/
inductive Recipe where
  | literal (value : Text)
  | raw (fragment : Text)
  | shorthand (class_ : Shorthand)
  | set (chars : Text) (negated : Bool)
  | range (lo hi : Char)
  | common (format : CommonFormat)
  | group (children : List Recipe) (capturing : Bool)
  | alternatives (branches : List (List Recipe))
  | quantified (inner : Recipe) (request : Quantifier.Request)

namespace Recipe

mutual

/-- Makes a component. -/
def build : Recipe → Except PatternError Component
  | .literal value => .ok (.literal value)
  | .raw fragment => .ok (.text fragment)
  | .shorthand class_ => .ok (.shorthand class_)
  | .set chars negated => .ok (.set chars negated)
  | .range lo hi => .ok (.range lo hi)
  | .common format => .ok (.common format)
  | .group children capturing => do return .group (← buildAll children) capturing
  | .alternatives branches => do return .alternatives (← buildBranches branches)
  | .quantified inner request => do
    let inner ← build inner
    return .quantified inner (← request.build)

/-- Makes the components of a sequence. -/
def buildAll : List Recipe → Except PatternError (List Component)
  | [] => .ok []
  | r :: rs => do
    let c ← build r
    return c :: (← buildAll rs)

/-- Makes the branches of an alternation. -/
def buildBranches : List (List Recipe) → Except PatternError (List (List Component))
  | [] => .ok []
  | rs :: more => do
    let cs ← buildAll rs
    return cs :: (← buildBranches more)

end

variable {c : Component} {r : Recipe} {rs children : List Recipe} {branches : List (List Recipe)}

theorem build_group_eq_ok {capturing : Bool} (h : (Recipe.group children capturing).build = .ok c) :
    ∃ cs, buildAll children = .ok cs ∧ c = .group cs capturing := by
  cases made : buildAll children with
  | error e => simp [build, made, bind, Except.bind] at h
  | ok cs => exact ⟨cs, rfl, by simpa [build, made, bind, Except.bind, pure, Except.pure] using h.symm⟩

theorem build_alternatives_eq_ok (h : (Recipe.alternatives branches).build = .ok c) :
    ∃ css, buildBranches branches = .ok css ∧ c = .alternatives css := by
  cases made : buildBranches branches with
  | error e => simp [build, made, bind, Except.bind] at h
  | ok css => exact ⟨css, rfl, by simpa [build, made, bind, Except.bind, pure, Except.pure] using h.symm⟩

theorem build_quantified_eq_ok {request : Quantifier.Request} (h : (Recipe.quantified r request).build = .ok c) :
    ∃ inner q, r.build = .ok inner ∧ request.build = .ok q ∧ c = .quantified inner q := by
  cases made : r.build with
  | error e => simp [build, made, bind, Except.bind] at h
  | ok inner =>
    cases asked : request.build with
    | error e => simp [build, made, asked, bind, Except.bind] at h
    | ok q =>
      refine ⟨inner, q, rfl, rfl, ?_⟩
      simpa [build, made, asked, bind, Except.bind, pure, Except.pure] using h.symm

theorem buildAll_cons_eq_ok {cs : List Component} (h : buildAll (r :: rs) = .ok cs) :
    ∃ c more, r.build = .ok c ∧ buildAll rs = .ok more ∧ cs = c :: more := by
  cases first : r.build with
  | error e => simp [buildAll, first, bind, Except.bind] at h
  | ok c =>
    cases rest : buildAll rs with
    | error e => simp [buildAll, first, rest, bind, Except.bind] at h
    | ok more =>
      refine ⟨c, more, rfl, rfl, ?_⟩
      simpa [buildAll, first, rest, bind, Except.bind, pure, Except.pure] using h.symm

theorem buildBranches_cons_eq_ok {css : List (List Component)} (h : buildBranches (rs :: branches) = .ok css) :
    ∃ cs more, buildAll rs = .ok cs ∧ buildBranches branches = .ok more ∧ css = cs :: more := by
  cases first : buildAll rs with
  | error e => simp [buildBranches, first, bind, Except.bind] at h
  | ok cs =>
    cases rest : buildBranches branches with
    | error e => simp [buildBranches, first, rest, bind, Except.bind] at h
    | ok more =>
      refine ⟨cs, more, rfl, rfl, ?_⟩
      simpa [buildBranches, first, rest, bind, Except.bind, pure, Except.pure] using h.symm

end Recipe

end PatternKit
