import PatternKit.Draft.Script

/-!
Failing commands. `Raises` says when a command fails and with which error: the body of a composition hands
on the first error in it that is not attempted. A failing command leaves the draft as it was, whatever the
scripts inside it have done before.
-/

set_option autoImplicit false

namespace PatternKit.Command

mutual

/-- On a draft, a command fails with an error. Attempted commands do not. -/
inductive Raises (engine : Engine) : Draft → Command → PatternError → Prop
  | recipe {d : Draft} {recipe : Recipe} {e : PatternError} (unmade : recipe.build = .error e) :
      Raises engine d (.push recipe) e
  | nothing {d : Draft} {request : Quantifier.Request} (empty : d.components = []) :
      Raises engine d (.repeatLast request) (.emptyPattern request.operation)
  | bounds {d : Draft} {min max : Nat} (full : d.components ≠ []) (inverted : max < min) :
      Raises engine d (.repeatLast (.between min max)) (.invertedBounds min max)
  | quantifier {d : Draft} {min max : Nat} (inverted : max < min) :
      Raises engine d (.quantify (.between min max)) (.invertedBounds min max)
  | nothingToQuantify {d : Draft} {request : Quantifier.Request} {q : Quantifier}
      (made : request.build = .ok q) (empty : d.components = []) :
      Raises engine d (.quantify request) (.emptyPattern "quantify")
  | body {d : Draft} {composition : Composition} {body : List Command} {e : PatternError}
      (first : RaisesFirst engine {} body e) : Raises engine d (.compose composition body) e
  | raised {d : Draft} {e : PatternError} : Raises engine d (.raise e) e
  | compile {d : Draft} {questions : List Question} {e : PatternError}
      (refused : (d.compile engine).result = .error e) : Raises engine d (.compile questions) e
  | ask {d : Draft} {question : Question} {e : PatternError}
      (refused : (d.ask engine question).result = .error e) : Raises engine d (.ask question) e

/-- On a draft, the first command of a script that fails does so with an error. -/
inductive RaisesFirst (engine : Engine) : Draft → List Command → PatternError → Prop
  | here {d : Draft} {c : Command} {cs : List Command} {e : PatternError} (fails : Raises engine d c e) :
      RaisesFirst engine d (c :: cs) e
  | later {d : Draft} {c : Command} {cs : List Command} {e : PatternError}
      (passes : (c.run engine d).failure = none)
      (rest : RaisesFirst engine (c.run engine d).draft cs e) : RaisesFirst engine d (c :: cs) e

end

private theorem answered_failure (d : Draft) (reply : Logged (Except PatternError Reply))
    (e : PatternError) :
    (Progress.answered d reply).failure = some e ↔ reply.result = .error e := by
  obtain ⟨result, log⟩ := reply
  cases result <;> simp [Progress.answered, Progress.done, Progress.failed]

private theorem answered_draft (d : Draft) (reply : Logged (Except PatternError Reply)) :
    (Progress.answered d reply).draft = d := by
  obtain ⟨result, log⟩ := reply
  cases result <;> rfl

private theorem repeated_failure (operation : String) (outcome : Draft.Outcome Quantifier)
    (e : PatternError) :
    (Progress.repeated operation outcome).failure = some e ↔ outcome.result = .error e := by
  obtain ⟨result, d⟩ := outcome
  cases result <;> simp [Progress.repeated, Progress.done, Progress.failed]

private theorem repeated_draft (operation : String) (outcome : Draft.Outcome Quantifier) :
    (Progress.repeated operation outcome).draft = outcome.draft := by
  obtain ⟨result, d⟩ := outcome
  cases result <;> rfl

private theorem composed_failure (d : Draft) (composition : Composition) (child : Progress) :
    (Progress.composed d composition child).failure = child.failure := by
  obtain ⟨draft, entries, log, failure⟩ := child
  cases failure with
  | none => cases composition <;> rfl
  | some e => rfl

private theorem composed_draft_of_failure {child : Progress} {e : PatternError}
    (h : child.failure = some e) (d : Draft) (composition : Composition) :
    (Progress.composed d composition child).draft = d := by
  obtain ⟨draft, entries, log, failure⟩ := child
  obtain rfl : failure = some e := h
  rfl

private theorem repeatLast_result_error (d : Draft) (operation : String) (q : Quantifier)
    (e : PatternError) :
    (d.repeatLast operation q).result = .error e ↔
      d.components = [] ∧ e = .emptyPattern operation := by
  rcases List.eq_nil_or_concat d.components with empty | ⟨before, last, split⟩
  · simp [Draft.repeatLast_nil empty, empty, eq_comm]
  · rw [List.concat_eq_append] at split
    simp [Draft.repeatLast_append split, split]

private theorem build_between {min max : Nat} (inverted : max < min) :
    Quantifier.Request.build (.between min max) = .error (.invertedBounds min max) :=
  Quantifier.Request.build_eq_error_iff.mpr ⟨min, max, rfl, inverted, rfl⟩

private theorem repeatLast_failure (engine : Engine) (d : Draft) (request : Quantifier.Request)
    (e : PatternError) :
    ((Command.repeatLast request).run engine d).failure = some e ↔
      Raises engine d (.repeatLast request) e := by
  rw [run, repeated_failure]
  by_cases empty : d.components = []
  · rw [Draft.repeatAs_nil empty]
    constructor
    · intro h
      obtain rfl : PatternError.emptyPattern request.operation = e := by simpa using h
      exact .nothing empty
    · intro h
      cases h with
      | nothing _ => rfl
      | bounds full _ => exact absurd empty full
  · rw [Draft.repeatAs_of_ne_nil empty]
    cases built : request.build with
    | error e' =>
      constructor
      · intro h
        obtain rfl : e' = e := by simpa using h
        obtain ⟨min, max, rfl, inverted, rfl⟩ := Quantifier.Request.build_eq_error_iff.mp built
        exact .bounds empty inverted
      · intro h
        cases h with
        | nothing none => exact absurd none empty
        | bounds _ inverted => rw [build_between inverted] at built; simpa using built.symm
    | ok q =>
      constructor
      · intro h
        exact absurd ((repeatLast_result_error d _ q e).mp h).1 empty
      · intro h
        cases h with
        | nothing none => exact absurd none empty
        | bounds _ inverted => rw [build_between inverted] at built; cases built

private theorem quantify_failure (engine : Engine) (d : Draft) (request : Quantifier.Request)
    (e : PatternError) :
    ((Command.quantify request).run engine d).failure = some e ↔
      Raises engine d (.quantify request) e := by
  rw [run]
  cases built : request.build with
  | error e' =>
    constructor
    · intro h
      obtain rfl : e' = e := by simpa [Progress.failed] using h
      obtain ⟨min, max, rfl, inverted, rfl⟩ := Quantifier.Request.build_eq_error_iff.mp built
      exact .quantifier inverted
    · intro h
      cases h with
      | quantifier inverted =>
        rw [build_between inverted] at built
        simpa [Progress.failed] using built.symm
      | nothingToQuantify made _ => rw [built] at made; cases made
  | ok q =>
    rw [repeated_failure, repeatLast_result_error]
    constructor
    · rintro ⟨empty, rfl⟩
      exact .nothingToQuantify built empty
    · intro h
      cases h with
      | quantifier inverted => rw [build_between inverted] at built; cases built
      | nothingToQuantify _ empty => exact ⟨empty, rfl⟩

mutual

/-- A run fails as `Raises` says, by the structure of the command. -/
private theorem run_failure_iff (engine : Engine) (d : Draft) (c : Command) (e : PatternError) :
    (c.run engine d).failure = some e ↔ Raises engine d c e := by
  cases c with
  | push recipe =>
    rw [run]
    cases built : recipe.build with
    | ok c =>
      constructor
      · intro h
        simp [Progress.done] at h
      · intro h
        cases h with
        | recipe unmade => rw [built] at unmade; cases unmade
    | error e' =>
      constructor
      · intro h
        obtain rfl : e' = e := by simpa [Progress.failed] using h
        exact .recipe built
      · intro h
        cases h with
        | recipe unmade => rw [built] at unmade; simpa [Progress.failed] using unmade
  | repeatLast request => exact repeatLast_failure engine d request e
  | quantify request => exact quantify_failure engine d request e
  | compose composition body =>
    rw [run, composed_failure, runAll_failure_iff engine {} body e]
    exact ⟨.body, fun h => by cases h with | body first => exact first⟩
  | raise error =>
    constructor
    · intro h
      obtain rfl : error = e := by simpa [run, Progress.failed] using h
      exact .raised
    · intro h
      cases h with
      | raised => rfl
  | compile questions =>
    rw [run, answered_failure]
    constructor
    · intro h
      exact .compile (by cases r : (d.compile engine).result <;> simp_all [Except.map])
    · intro h
      cases h with
      | compile refused => simp [refused, Except.map]
  | ask question =>
    rw [run, answered_failure]
    constructor
    · intro h
      exact .ask (by cases r : (d.ask engine question).result <;> simp_all [Except.map])
    · intro h
      cases h with
      | ask refused => simp [refused, Except.map]
  | _ =>
    constructor
    · intro h
      simp [run, Progress.done] at h
    · intro h
      cases h

private theorem runAll_failure_iff (engine : Engine) (d : Draft) (cs : List Command)
    (e : PatternError) :
    (runAll engine d cs).failure = some e ↔ RaisesFirst engine d cs e := by
  cases cs with
  | nil =>
    constructor
    · intro h
      simp [runAll] at h
    · intro h
      cases h
  | cons c cs =>
    have head := run_failure_iff engine d c
    cases failed : (c.run engine d).failure with
    | some e' =>
      rw [runAll, failed]
      constructor
      · intro h
        exact .here ((head e).mp h)
      · intro h
        cases h with
        | here fails => exact (head e).mpr fails
        | later passes _ => rw [failed] at passes; cases passes
    | none =>
      have rest := runAll_failure_iff engine (c.run engine d).draft cs e
      rw [runAll, failed]
      constructor
      · intro h
        exact .later failed (rest.mp h)
      · intro h
        cases h with
        | here fails => rw [(head e).mpr fails] at failed; cases failed
        | later _ later => exact rest.mpr later

end

/-- A failing command does not touch the draft. The commands inside a composition run on a draft of their
own, and a repetition that finds nothing to take puts nothing back. -/
private theorem draft_of_run_failed {engine : Engine} {d : Draft} {c : Command} {e : PatternError}
    (h : (c.run engine d).failure = some e) : (c.run engine d).draft = d := by
  cases (run_failure_iff engine d c e).mp h with
  | recipe unmade => rw [run, unmade]; rfl
  | nothing empty => rw [run, repeated_draft, Draft.repeatAs_nil empty]
  | bounds full inverted =>
    rw [run, repeated_draft, Draft.repeatAs_of_ne_nil full, build_between inverted]
  | quantifier inverted => rw [run, build_between inverted]; rfl
  | nothingToQuantify made empty =>
    rw [run, made, repeated_draft, Draft.repeatLast_nil empty]
  | body first =>
    rw [run]
    exact composed_draft_of_failure ((runAll_failure_iff engine {} _ e).mpr first) d _
  | raised => rfl
  | compile refused => rw [run, answered_draft]
  | ask refused => rw [run, answered_draft]

/-- A failing command changes nothing, and its error is the one that `Raises` names. In particular there is
nothing lost or added where there was nothing to repeat, inverted bounds keep the last component, and a
failing alternative keeps the sequence before it. -/
theorem failed_command_changes_nothing (engine : Engine) (d : Draft) :
    (∀ (c : Command) e, (c.run engine d).failure = some e ↔ Raises engine d c e) ∧
    (∀ (c : Command) e, (c.run engine d).failure = some e → (c.run engine d).draft = d) ∧
    (∀ request, d.components = [] →
      ((Command.repeatLast request).run engine d).failure =
          some (.emptyPattern request.operation) ∧
        ((Command.repeatLast request).run engine d).draft = d) ∧
    (∀ min max, d.components ≠ [] → max < min →
      ((Command.repeatLast (.between min max)).run engine d).failure =
          some (.invertedBounds min max) ∧
        ((Command.repeatLast (.between min max)).run engine d).draft = d) ∧
    (∀ body e, (runAll engine {} body).failure = some e →
      ((Command.compose .alternative body).run engine d).failure = some e ∧
        ((Command.compose .alternative body).run engine d).draft = d) := by
  refine ⟨run_failure_iff engine d, fun c e => draft_of_run_failed, ?_, ?_, ?_⟩
  · intro request empty
    have fails := (run_failure_iff engine d (.repeatLast request) _).mpr (.nothing empty)
    exact ⟨fails, draft_of_run_failed fails⟩
  · intro min max full inverted
    have fails := (run_failure_iff engine d _ _).mpr (.bounds full inverted)
    exact ⟨fails, draft_of_run_failed fails⟩
  · intro body e child
    have first := (runAll_failure_iff engine {} body e).mp child
    have fails := (run_failure_iff engine d (.compose .alternative body) e).mpr (.body first)
    exact ⟨fails, draft_of_run_failed fails⟩

/-- An alternative that appends, fails and goes on, appends again, and then fails for good. -/
private def failingAlternative : Command :=
  .compose .alternative
    [.push (.literal ['a']), .attempt (.compose .group [.repeatLast .optional]),
      .compose .nonCapturingGroup [.push (.literal ['b']), .repeatLast (.between 3 2)],
      .push (.literal ['c'])]

theorem failing_alternative_keeps_sequence :
    (failingAlternative.run Regex.build ⟨[.text ['x']], .of .global, {}⟩).failure =
        some (.invertedBounds 3 2) ∧
      (failingAlternative.run Regex.build ⟨[.text ['x']], .of .global, {}⟩).draft =
        ⟨[.text ['x']], .of .global, {}⟩ :=
  have fails :
      (failingAlternative.run Regex.build ⟨[.text ['x']], .of .global, {}⟩).failure =
        some (.invertedBounds 3 2) := rfl
  ⟨fails, (failed_command_changes_nothing Regex.build _).2.1 failingAlternative _ fails⟩

end PatternKit.Command
