import PatternKit.Component.Recipe
import PatternKit.Flags
import PatternKit.Limits

/-!
Patterns in the making: a sequence of components, with the options and limits for compiling it. An
operation leaves a draft also where it fails.
-/

set_option autoImplicit false

namespace PatternKit

/-- A pattern in the making. -/
structure Draft where
  components : List Component := []
  flags : Flags := .empty
  limits : Limits := {}

namespace Draft

/-- Appends a component. -/
def push (d : Draft) (c : Component) : Draft := { d with components := d.components ++ [c] }

/-- Adds options. -/
def addFlags (d : Draft) (flags : Flags) : Draft := { d with flags := d.flags.union flags }

/-- Sets the limits anew. -/
def setLimits (d : Draft) (limits : Limits) : Draft := { d with limits := limits }

/-- What an operation answers, and the draft it leaves, also where it fails. -/
structure Outcome (α : Type) where
  result : Except PatternError α
  draft : Draft

/-- Takes the last component out of a draft, if there is one. -/
def takeLast (d : Draft) : Option Component × Draft :=
  (d.components.getLast?, { d with components := d.components.dropLast })

/-- Takes all components out of a draft. -/
def takeAll (d : Draft) : List Component × Draft := (d.components, { d with components := [] })

/-- Takes the last component and puts it back repeated. `operation` is the name under which this is asked
for. -/
def repeatLast (d : Draft) (operation : String) (q : Quantifier) : Outcome Quantifier :=
  match d.takeLast with
  | (none, d) => ⟨.error (.emptyPattern operation), d⟩
  | (some last, d) => ⟨.ok q, d.push (.quantified last q)⟩

/-- Repeats the last component from `min` to `max` times. That there is none counts before the bounds do. -/
def repeatBetween (d : Draft) (min max : Nat) : Outcome Quantifier :=
  if d.components.isEmpty then ⟨.error (.emptyPattern "between"), d⟩
  else
    match Quantifier.between? min max with
    | .error e => ⟨.error e, d⟩
    | .ok q => d.repeatLast "between" q

/-- Repeats the last component as asked for. -/
def repeatAs (d : Draft) : Quantifier.Request → Outcome Quantifier
  | .optional => d.repeatLast "optional" .optional
  | .oneOrMore => d.repeatLast "one_or_more" .oneOrMore
  | .zeroOrMore => d.repeatLast "zero_or_more" .zeroOrMore
  | .exactly n => d.repeatLast "exactly" (.exactly n)
  | .atLeast n => d.repeatLast "at_least" (.atLeast n)
  | .between min max => d.repeatBetween min max

/-- Appends a group. -/
def enclose (d : Draft) (children : List Component) (capturing : Bool) : Draft :=
  d.push (.group children capturing)

/-- Makes everything so far the first of two alternatives. -/
def alternate (d : Draft) (alternative : List Component) : Draft :=
  let (current, d) := d.takeAll
  d.push (.alternatives [current, alternative])

/-- The pattern text: the components are written one after the other. -/
def render (d : Draft) : Text := Component.appendAllTo [] d.components

/-- The pattern text between slashes, and the letters of the options. -/
def display (d : Draft) : Text := '/' :: d.render ++ '/' :: d.flags.tokens

theorem render_eq_renderAll (d : Draft) : d.render = Component.renderAll d.components := by
  simp [render]

@[simp] theorem render_push (d : Draft) (c : Component) : (d.push c).render = d.render ++ c.render := by
  simp [push, render, Component.renderAll]

theorem render_enclose (d : Draft) (cs : List Component) (capturing : Bool) :
    (d.enclose cs capturing).render =
      d.render ++ ((if capturing then ['('] else ['(', '?', ':']) ++ Component.renderAll cs ++ [')']) := by
  rw [enclose, render_push, Component.render]

theorem render_alternate (d : Draft) (cs : List Component) :
    (d.alternate cs).render =
      (['(', '?', ':'] ++ d.render ++ [')']) ++ (['|'] ++ (['(', '?', ':'] ++ Component.renderAll cs ++ [')'])) := by
  simp [alternate, takeAll, push, render, Component.alternatives, Component.render, Component.renderAll,
    Component.renderBranches, Component.renderFurther]

@[simp] theorem render_addFlags (d : Draft) (flags : Flags) : (d.addFlags flags).render = d.render := rfl

@[simp] theorem render_setLimits (d : Draft) (limits : Limits) :
    (d.setLimits limits).render = d.render := rfl

theorem takeLast_nil {d : Draft} (h : d.components = []) : d.takeLast = (none, d) := by
  obtain ⟨components, flags, limits⟩ := d
  subst h
  rfl

theorem takeLast_append {d : Draft} {before : List Component} {last : Component}
    (h : d.components = before ++ [last]) :
    d.takeLast = (some last, { d with components := before }) := by
  simp [takeLast, h]

/-- Where there is nothing to repeat, nothing is taken. -/
theorem repeatLast_nil {d : Draft} (h : d.components = []) (operation : String) (q : Quantifier) :
    d.repeatLast operation q = ⟨.error (.emptyPattern operation), d⟩ := by
  rw [repeatLast, takeLast_nil h]

theorem repeatLast_append {d : Draft} {before : List Component} {last : Component}
    (h : d.components = before ++ [last]) (operation : String) (q : Quantifier) :
    d.repeatLast operation q =
      ⟨.ok q, { d with components := before ++ [.quantified last q] }⟩ := by
  rw [repeatLast, takeLast_append h]
  rfl

theorem repeatAs_nil {d : Draft} (h : d.components = []) (request : Quantifier.Request) :
    d.repeatAs request = ⟨.error (.emptyPattern request.operation), d⟩ := by
  cases request with
  | between min max =>
    show d.repeatBetween min max = _
    rw [repeatBetween, h]
    rfl
  | _ => exact repeatLast_nil h _ _

/-- Where there is something to repeat, only the bounds can be refused. -/
theorem repeatAs_of_ne_nil {d : Draft} (h : d.components ≠ []) (request : Quantifier.Request) :
    d.repeatAs request =
      match request.build with
      | .error e => ⟨.error e, d⟩
      | .ok q => d.repeatLast request.operation q := by
  cases request with
  | between min max =>
    show d.repeatBetween min max = _
    rw [repeatBetween, if_neg (by simpa using h)]
    rfl
  | _ => rfl

/-- A repetition adds its suffix to the text. -/
theorem render_of_repeatLast {d : Draft} {operation : String} {q r : Quantifier}
    (h : (d.repeatLast operation q).result = .ok r) :
    (d.repeatLast operation q).draft.render = d.render ++ q.suffix := by
  rcases List.eq_nil_or_concat d.components with empty | ⟨before, last, split⟩
  · simp [repeatLast_nil empty] at h
  · rw [List.concat_eq_append] at split
    rw [repeatLast_append split]
    simp [render, split, Component.renderAll, Component.render]

end Draft

/-! Names for components that are often wanted. -/

namespace Recipe

/-- One or more characters of a class. -/
def oneOrMore (class_ : Shorthand) : Recipe := .quantified (.shorthand class_) .oneOrMore

/-- An ASCII letter. -/
def letter : Recipe := .raw "[a-zA-Z]".toList

/-- One or more ASCII letters. -/
def letters : Recipe := .raw "[a-zA-Z]+".toList

/-- The beginning of a line. -/
def startOfLine : Recipe := .raw ['^']

/-- The end of a line. -/
def endOfLine : Recipe := .raw ['$']

/-- The boundary of a word. -/
def wordBoundary : Recipe := .raw ['\\', 'b']

/-- The ready-made fragments of pattern text that are used for names. -/
def own : List Recipe := [letter, letters, startOfLine, endOfLine, wordBoundary]

theorem mem_own {fragment : Text} :
    raw fragment ∈ own ↔
      fragment = "[a-zA-Z]".toList ∨ fragment = "[a-zA-Z]+".toList ∨ fragment = ['^'] ∨ fragment = ['$'] ∨
        fragment = ['\\', 'b'] := by
  simp [own, letter, letters, startOfLine, endOfLine, wordBoundary]

end Recipe

end PatternKit
