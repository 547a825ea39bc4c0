import PatternKit.Proofs.CaseVariants
import PatternKit.Proofs.CompileOutcome
import PatternKit.Proofs.WholeMatch

/-!
What compiling says about refusals in the log. The checks of a text say once what they refuse it for. What passes them
is not spoken of again: a text that the engine accepts without options, and refuses under the options of the draft, is
refused in silence.
-/

set_option autoImplicit false

namespace PatternKit

/-- The entry about a text that is refused for these faults. -/
def LogEvent.refusal (pattern : Text) : List Issue → LogEvent
  | [.engineRejected _] => .engineRejected pattern
  | issues => .structuralChecksFailed pattern issues.length

/-- The entries for debugging among those that have been logged. -/
def Logged.debugging {α : Type} (l : Logged α) : List LogEvent :=
  l.log.filter fun event => event.level = .debug

namespace Validation

/-- A refusal for what is found in the text counts the faults. -/
private theorem refusal_of_lists {policy : BacktrackPolicy} {pattern : Text} {issues : List Issue}
    (listed : Lists policy pattern issues) :
    LogEvent.refusal pattern issues = .structuralChecksFailed pattern issues.length := by
  cases issues with
  | nil => rfl
  | cons issue more =>
    have found := (listed.2 issue).mp (.head _)
    cases issue with
    | engineRejected reason => exact absurd found id
    | _ => rfl

private theorem structuralLog_debugging (pattern : Text) (issues : List Issue) :
    ((structuralLog pattern issues).filter fun event => event.level = .debug) = structuralLog pattern issues := by
  rw [structuralLog]
  split <;> rfl

/-- The checks of a text say once what they refuse it for, and nothing where they do not. -/
theorem check_debugging (engine : Engine) (limits : Limits) (pattern : Text) :
    (check engine limits pattern).debugging =
      if (check engine limits pattern).result = [] then []
      else [LogEvent.refusal pattern (check engine limits pattern).result] := by
  cases asked : engine limits {} pattern with
  | error reason =>
    rw [check, asked]
    rfl
  | ok s =>
    have said : (check engine limits pattern).debugging =
        structuralLog pattern (structuralIssues limits.policy pattern) := by
      rw [check, asked]
      exact structuralLog_debugging pattern _
    rw [said, Draft.check_of_accepted asked, structuralLog, refusal_of_lists (lists_iff.mpr rfl)]
    simp only [List.isEmpty_iff]

end Validation

namespace Draft

/-- Whether the text of a draft passes all checks, which are made without its options. -/
def PassesChecks (engine : Engine) (d : Draft) : Prop :=
  (∃ s, engine d.limits {} d.render = .ok s) ∧ ∀ issue, ¬ Validation.Finds d.limits.policy d.render issue

variable {engine : Engine} {d : Draft}

private theorem passesChecks_iff :
    d.PassesChecks engine ↔ (Validation.check engine d.limits d.render).result = [] := by
  cases asked : engine d.limits {} d.render with
  | error reason => simp [PassesChecks, asked, check_of_refused asked]
  | ok s =>
    rw [check_of_accepted asked, List.eq_nil_iff_forall_not_mem]
    simp [PassesChecks, asked, Validation.mem_structuralIssues]

private theorem positive_of_refused {pattern : Text} {issues : List Issue}
    (refused : (d.compile engine).result = .error (.invalidPattern pattern issues)) : ∀ e, ¬ d.limits.FirstZero e := by
  intro e zero
  rw [compile_of_firstZero zero] at refused
  cases refused

/-- Behind the limits, compiling says for debugging what the checks of the text say. -/
private theorem compile_debugging (positive : ∀ e, ¬ d.limits.FirstZero e) :
    (d.compile engine).debugging = (Validation.check engine d.limits d.render).debugging := by
  have said : (compileText engine d d.render).log = (Validation.check engine d.limits d.render).log := by
    rw [compileText]
    split
    · split <;> rfl
    · rfl
  have begun : (d.compile engine).log =
      .compileSpan d.components.length d.flags.tokens :: (compileText engine d d.render).log := by
    rw [compile, Limits.check_eq_ok_iff.mpr positive]
  rw [Logged.debugging, begun, said]
  rfl

private theorem compile_debugging_of_firstZero {e : LimitError} (zero : d.limits.FirstZero e) :
    (d.compile engine).debugging = [] := by
  rw [compile, Limits.check_eq_error_iff.mpr zero]
  rfl

private theorem compile_debugging_of_passes (passes : d.PassesChecks engine) : (d.compile engine).debugging = [] := by
  by_cases zero : ∃ e, d.limits.FirstZero e
  · obtain ⟨e, zero⟩ := zero
    exact compile_debugging_of_firstZero zero
  · rw [compile_debugging (not_exists.mp zero), Validation.check_debugging, if_pos (passesChecks_iff.mp passes)]

/-- A text that does not pass the checks is refused for what they have found, and this is what is said. -/
private theorem compile_debugging_of_fails {pattern : Text} {issues : List Issue} (fails : ¬ d.PassesChecks engine)
    (refused : (d.compile engine).result = .error (.invalidPattern pattern issues)) :
    (d.compile engine).debugging = [LogEvent.refusal d.render issues] := by
  have positive := positive_of_refused refused
  have faults : (Validation.check engine d.limits d.render).result ≠ [] := mt passesChecks_iff.mpr fails
  rw [compile_of_faults positive faults] at refused
  injection refused with refused
  injection refused with _ found
  rw [compile_debugging positive, Validation.check_debugging, if_neg faults, found]

/-- A text that passes the checks is refused by the engine, under the options. -/
private theorem refused_under_options {pattern : Text} {issues : List Issue} (passes : d.PassesChecks engine)
    (refused : (d.compile engine).result = .error (.invalidPattern pattern issues)) :
    d.switches ≠ {} ∧ ∃ reason, engine d.limits d.switches d.render = .error reason ∧ issues = [.engineRejected reason] := by
  rw [compile_of_faultless (positive_of_refused refused) (passesChecks_iff.mp passes)] at refused
  cases asked : engine d.limits d.switches d.render with
  | ok s => simp [asked] at refused
  | error reason =>
    have found : [.engineRejected reason] = issues := by
      rw [asked] at refused
      injection refused with refused
      injection refused
    refine ⟨fun none => ?_, reason, rfl, found.symm⟩
    obtain ⟨s, accepted⟩ := passes.1
    rw [none, accepted] at asked
    cases asked

/-- A pattern, and a limit of zero, leave nothing for debugging in the log. A text that does not pass the checks leaves
exactly one entry there, which is about the faults that it is refused for. A text that passes them leaves none, also where
the engine then refuses it under the options of the draft; without options that does not happen. A question leaves what
compiling leaves, and nothing where it is refused before that. -/
theorem checks_log_refusals_once (engine : Engine) (d : Draft) :
    (∀ m, (d.compile engine).result = .ok m → (d.compile engine).debugging = []) ∧
      (∀ e, (d.compile engine).result = .error (.limits e) → (d.compile engine).debugging = []) ∧
      (∀ pattern issues, (d.compile engine).result = .error (.invalidPattern pattern issues) →
        pattern = d.render ∧
          (¬ d.PassesChecks engine → (d.compile engine).debugging = [LogEvent.refusal pattern issues]) ∧
          (d.PassesChecks engine → (d.compile engine).debugging = [] ∧ d.switches ≠ {} ∧
            ∃ reason, engine d.limits d.switches pattern = .error reason ∧ issues = [.engineRejected reason])) ∧
      ∀ question,
        ((d.flags.has .global = true ∨ ∀ haystack, question ≠ .all haystack) →
          (d.ask engine question).log = (d.compile engine).log) ∧
        ∀ haystack, d.flags.has .global = false → question = .all haystack → (d.ask engine question).log = [] := by
  refine ⟨fun m compiled => ?_, fun e refused => ?_, fun pattern issues refused => ?_,
    fun question => ⟨fun asked => ?_, ?_⟩⟩
  · exact compile_debugging_of_passes (passesChecks_iff.mpr (compile_eq_ok compiled).1)
  · have comes := compile_compilesTo engine d
    rw [refused] at comes
    cases comes with
    | limit zero => exact compile_debugging_of_firstZero zero
  · have text : pattern = d.render := by
      have comes := compile_compilesTo engine d
      rw [refused] at comes
      cases comes <;> rfl
    subst text
    exact ⟨rfl, fun fails => compile_debugging_of_fails fails refused,
      fun passes => ⟨compile_debugging_of_passes passes, refused_under_options passes refused⟩⟩
  · have allowed (haystack : Text) (is : question = .all haystack) : d.flags.has .global = true :=
      asked.resolve_right fun other => other haystack is
    rw [ask_eq allowed]
  · rintro haystack once rfl
    rw [ask, if_neg (by simp [once])]

/-- A set whose only range goes backwards. -/
def backwardRange : Draft := { components := [.text "[z-a]".toList], flags := .of .ignoreCase }

/-- A parenthesis in a set, and two repetitions on one line. -/
def closingsThenAny : Draft := { components := [.text "[)]+".toList, .text ".*".toList], flags := .of .multiline }

/-- What the checks find in the text of a draft is what it is refused for. -/
private theorem refused_of_check {issues : List Issue} (positive : d.limits.check = .ok ())
    (found : (Validation.check engine d.limits d.render).result = issues) (some : issues ≠ []) :
    ¬ d.PassesChecks engine ∧ (d.compile engine).result = .error (.invalidPattern d.render issues) := by
  subst found
  exact ⟨mt passesChecks_iff.mp some, compile_of_faults (Limits.check_eq_ok_iff.mp positive) some⟩

/-- Letters that the engine accepts within one byte, but not without regard to case. -/
def sixteenLetters : Draft :=
  { components := [.text "abcdefghijklmnop".toList], flags := .of .ignoreCase, limits := { size := 1 } }

/-- Without regard to case these letters need a program, which takes more than a byte. -/
private theorem sixteenLetters_refused :
    Regex.build sixteenLetters.limits sixteenLetters.switches sixteenLetters.render = .error (Regex.sizeMessage 1) := by
  let letters : List Regex.Literal :=
    sixteenLetters.render.zipIdx.map fun place => { span := ⟨place.2, place.2 + 1⟩, char := place.1 }
  let sw := sixteenLetters.switches
  have unicode : sw.unicode = true := rfl
  have either : sw.ignoreCase = true := by decide
  obtain ⟨s, first⟩ := Regex.Expr.ofLiteral_of_mem_caseOrbits (l := { span := ⟨0, 1⟩, char := 'a' }) unicode either
    Unicode.letterA_mem_caseOrbits (by decide) ⟨0x41, by decide⟩
  obtain ⟨es, more⟩ := Regex.Expr.ofAsts_characters unicode letters.tail
  have read : Regex.Ast.ofText sixteenLetters.render = .ok (.concat ⟨0, 16⟩ (letters.map .literal)) := by
    with_unfolding_all rfl
  have means : Regex.Expr.ofAst sw (.concat ⟨0, 16⟩ (letters.map .literal)) = .ok (.ofList (.set false s :: es), sw) := by
    show (Regex.Expr.ofAsts sw (.literal ⟨⟨0, 1⟩, 'a', false⟩ :: letters.tail.map .literal) >>= _) = _
    simp only [Regex.Expr.ofAsts, Regex.Expr.ofAst, first, more, bind, Except.bind, pure, Except.pure]
  have parsed : Regex.parse sixteenLetters.limits.nest sw sixteenLetters.render = .ok (.ofList (.set false s :: es)) :=
    Regex.parse_of_ofAst read rfl means
  have large : 192 ≤ (Regex.Expr.ofList (.set false s :: es)).programWeight :=
    Regex.Expr.programWeight_ofList_set false s es
  rw [Regex.build, parsed]
  exact if_pos (Nat.lt_of_lt_of_le (by decide) large)

private theorem sixteenLetters_passes : sixteenLetters.PassesChecks Regex.build :=
  passesChecks_iff.mpr (by decide +kernel)

private theorem sixteenLetters_result :
    (sixteenLetters.compile Regex.build).result =
      .error (.invalidPattern sixteenLetters.render [.engineRejected (Regex.sizeMessage 1)]) := by
  have positive : ∀ e, ¬ sixteenLetters.limits.FirstZero e := Limits.check_eq_ok_iff.mp rfl
  rw [compile_of_faultless positive (passesChecks_iff.mp sixteenLetters_passes), sixteenLetters_refused]

theorem drafts_log_refusals :
    (Draft.compile Regex.build { components := [.text ['a']] }).debugging = [] ∧
      (Draft.compile Regex.build { limits := { size := 0 } }).debugging = [] ∧
      (backwardRange.ask Regex.build (.isMatch [])).debugging = [.engineRejected "[z-a]".toList] ∧
      (closingsThenAny.compile Regex.build).debugging = [.structuralChecksFailed "[)]+.*".toList 2] ∧
      (sixteenLetters.compile Regex.build).debugging = [] ∧
      (sixteenLetters.ask Regex.build (.all [])).log = [] := by
  refine ⟨?_, ?_, ?_, ?_, ?_, ?_⟩
  · obtain ⟨m, compiled⟩ : ∃ m, (Draft.compile Regex.build { components := [.text ['a']] }).result = .ok m := ⟨_, rfl⟩
    exact (checks_log_refusals_once Regex.build _).1 m compiled
  · exact (checks_log_refusals_once Regex.build { limits := { size := 0 } }).2.1 (.size 0) rfl
  · obtain ⟨-, -, refusals, questions⟩ := checks_log_refusals_once Regex.build backwardRange
    obtain ⟨asks, -⟩ := questions (.isMatch [])
    have refuses : (Regex.build backwardRange.limits {} backwardRange.render).isOk = false := by decide +kernel
    cases asked : Regex.build backwardRange.limits {} backwardRange.render with
    | ok s =>
      rw [asked] at refuses
      cases refuses
    | error reason =>
      obtain ⟨fails, refused⟩ := refused_of_check rfl (check_of_refused asked) (List.cons_ne_nil _ _)
      obtain ⟨-, once, -⟩ := refusals _ _ refused
      rw [Logged.debugging, asks (.inr fun _ => nofun)]
      exact once fails
  · obtain ⟨-, -, refusals, -⟩ := checks_log_refusals_once Regex.build closingsThenAny
    have found : (Validation.check Regex.build closingsThenAny.limits closingsThenAny.render).result =
        [.unbalancedParentheses, .catastrophicBacktracking] := by
      decide +kernel
    obtain ⟨fails, refused⟩ := refused_of_check rfl found (List.cons_ne_nil _ _)
    obtain ⟨-, once, -⟩ := refusals _ _ refused
    exact once fails
  · obtain ⟨-, -, refusals, -⟩ := checks_log_refusals_once Regex.build sixteenLetters
    obtain ⟨-, -, silent⟩ := refusals _ _ sixteenLetters_result
    exact (silent sixteenLetters_passes).1
  · obtain ⟨-, -, -, questions⟩ := checks_log_refusals_once Regex.build sixteenLetters
    exact (questions (.all [])).2 [] (by decide) rfl

theorem sixteenLetters_refused_in_silence :
    (sixteenLetters.compile Regex.build).result =
        .error (.invalidPattern sixteenLetters.render [.engineRejected "Compiled regex exceeds size limit of 1 bytes."]) ∧
      (sixteenLetters.compile Regex.build).debugging = [] :=
  ⟨sixteenLetters_result, compile_debugging_of_passes sixteenLetters_passes⟩

end Draft

end PatternKit
