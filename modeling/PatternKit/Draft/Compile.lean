import PatternKit.Draft
import PatternKit.Matcher
import PatternKit.Validation

/-!
Compiling a draft, and asking questions about texts through the compiled pattern. A zero limit is refused
first, then faulty text, and last what the engine refuses only under the options of the draft.
-/

set_option autoImplicit false

namespace PatternKit

/-- A question about a text, or about a compiled pattern. -/
inductive Question where
  | info
  | isMatch (haystack : Text)
  | first (haystack : Text)
  | all (haystack : Text)
  | replace (haystack template : Text)
  | split (haystack : Text)

/-- An answer to a question. -/
inductive Answer where
  | info (matcher : Matcher)
  | isMatch (holds : Bool)
  | first (haystack : Text) (found : Option Match)
  | all (haystack : Text) (found : List Match)
  | replace (text : Text)
  | split (pieces : List Text)

/-- The answer of a compiled pattern to a question. -/
def Matcher.answer (m : Matcher) : Question → Answer
  | .info => .info m
  | .isMatch haystack => .isMatch (m.isMatch haystack)
  | .first haystack => .first haystack (m.first? haystack)
  | .all haystack => .all haystack (m.all haystack)
  | .replace haystack template => .replace (m.replace haystack template)
  | .split haystack => .split (m.split haystack)

namespace Draft

/-- The options that the engine knows. -/
def switches (d : Draft) : Regex.Switches :=
  { ignoreCase := d.flags.has .ignoreCase
    multiline := d.flags.has .multiline
    dotAll := d.flags.has .dotAll }

/-- Compiles the pattern text of a draft, after its limits have been checked. -/
def compileText (engine : Engine) (d : Draft) (pattern : Text) :
    Logged (Except PatternError Matcher) :=
  let checked := Validation.check engine d.limits pattern
  if checked.result.isEmpty then
    match engine d.limits d.switches pattern with
    | .ok searcher => ⟨.ok ⟨searcher, d.flags⟩, checked.log⟩
    | .error reason => ⟨.error (.invalidPattern pattern [.engineRejected reason]), checked.log⟩
  else ⟨.error (.invalidPattern pattern checked.result), checked.log⟩

/-- Compiles a draft. -/
def compile (engine : Engine) (d : Draft) : Logged (Except PatternError Matcher) :=
  let begun := LogEvent.compileSpan d.components.length d.flags.tokens
  match d.limits.check with
  | .error e => ⟨.error (.limits e), [begun]⟩
  | .ok () =>
    let compiled := compileText engine d d.render
    ⟨compiled.result, begun :: compiled.log⟩

/-- Compiles a draft to answer a question. All matches are found only where all are asked for by an
option, which is checked before anything is compiled. -/
def ask (engine : Engine) (d : Draft) (question : Question) : Logged (Except PatternError Answer) :=
  let answered : Logged (Except PatternError Answer) :=
    let compiled := d.compile engine
    ⟨compiled.result.map (·.answer question), compiled.log⟩
  match question with
  | .all _ =>
    if d.flags.has .global then answered
    else ⟨.error (.missingOption "find_all" (.of .global)), []⟩
  | _ => answered

section

variable {engine : Engine} {d : Draft} {m : Matcher} {pattern : Text} {issues : List Issue}

/-- A compiled pattern consists of the searcher that the engine builds, and the options. -/
theorem compile_eq_ok (compiled : (d.compile engine).result = .ok m) :
    (Validation.check engine d.limits d.render).result = [] ∧
      ∃ s, engine d.limits d.switches d.render = .ok s ∧ m = ⟨s, d.flags⟩ := by
  rw [compile] at compiled
  cases limited : d.limits.check with
  | error e => simp [limited] at compiled
  | ok =>
    by_cases faultless : (Validation.check engine d.limits d.render).result = []
    · cases built : engine d.limits d.switches d.render with
      | error reason => simp [limited, compileText, faultless, built] at compiled
      | ok s =>
        have same : ⟨s, d.flags⟩ = m := by simpa [limited, compileText, faultless, built] using compiled
        exact ⟨faultless, s, rfl, same.symm⟩
    · simp [limited, compileText, faultless] at compiled

/-- A question that is not refused at once is for the compiled pattern to answer. -/
theorem ask_eq {question : Question} (allowed : ∀ haystack, question = .all haystack → d.flags.has .global = true) :
    d.ask engine question = ⟨(d.compile engine).result.map (·.answer question), (d.compile engine).log⟩ := by
  cases question with
  | all haystack => rw [ask, if_pos (allowed haystack rfl)]
  | _ => rfl

/-- A question is refused for a faulty pattern only where compiling is. -/
theorem ask_eq_invalidPattern {question : Question}
    (refused : (d.ask engine question).result = .error (.invalidPattern pattern issues)) :
    (d.compile engine).result = .error (.invalidPattern pattern issues) := by
  have passed : ((d.compile engine).result.map (·.answer question) : Except PatternError Answer) =
      .error (.invalidPattern pattern issues) := by
    cases question with
    | all haystack =>
      by_cases everywhere : d.flags.has .global = true
      · simpa [ask, everywhere] using refused
      · simp [ask, everywhere] at refused
    | _ => exact refused
  cases compiled : (d.compile engine).result with
  | error e =>
    rw [compiled] at passed
    cases passed
    rfl
  | ok m =>
    rw [compiled] at passed
    cases passed

end

end Draft

end PatternKit
