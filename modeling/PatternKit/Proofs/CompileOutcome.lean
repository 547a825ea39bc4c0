import PatternKit.Draft.Compile

/-!
What compiling a draft comes to. `CompilesTo` says it in order: a limit of zero, the refusal of the engine without
options, the faults of the text, the refusal of the engine under the options of the draft, and else a pattern. Every
draft comes to one of these, and compiling it answers just that, whatever the engine accepts.
-/

set_option autoImplicit false

namespace PatternKit

/-- The first limit that is zero: the size, the size of the cache, the depth. -/
inductive Limits.FirstZero (l : Limits) : LimitError → Prop
  | size (zero : l.size = 0) : l.FirstZero (.size 0)
  | dfaSize (some : l.size ≠ 0) (zero : l.dfaSize = 0) : l.FirstZero (.dfaSize 0)
  | nest (some : l.size ≠ 0) (cached : l.dfaSize ≠ 0) (zero : l.nest = 0) : l.FirstZero (.nest 0)

theorem Limits.check_eq_error_iff {l : Limits} {e : LimitError} : l.check = .error e ↔ l.FirstZero e := by
  constructor
  · intro refused
    rw [check] at refused
    split at refused
    · rename_i zero
      obtain rfl := Except.error.inj refused
      exact zero ▸ .size zero
    · rename_i some
      split at refused
      · rename_i zero
        obtain rfl := Except.error.inj refused
        exact zero ▸ .dfaSize some zero
      · rename_i cached
        split at refused
        · rename_i zero
          obtain rfl := Except.error.inj refused
          exact zero ▸ .nest some cached zero
        · cases refused
  · intro first
    cases first with
    | size zero => rw [check, if_pos zero, zero]
    | dfaSize some zero => rw [check, if_neg some, if_pos zero, zero]
    | nest some cached zero => rw [check, if_neg some, if_neg cached, if_pos zero, zero]

theorem Limits.check_eq_ok_iff {l : Limits} : l.check = .ok () ↔ ∀ e, ¬ l.FirstZero e := by
  constructor
  · intro passed e first
    rw [check_eq_error_iff.mpr first] at passed
    cases passed
  · intro none
    cases checked : l.check with
    | error e => exact absurd (check_eq_error_iff.mp checked) (none e)
    | ok => rfl

/-- Where a fault stands among those of a text. -/
def Issue.place : Issue → Nat
  | .engineRejected _ => 0
  | .unbalancedParentheses => 1
  | .unbalancedBrackets => 2
  | .catastrophicBacktracking => 3

namespace Validation

/-- Whether a text that the engine accepts has a fault, under a policy. -/
def Finds (policy : BacktrackPolicy) (pattern : Text) : Issue → Prop
  | .engineRejected _ => False
  | .unbalancedParentheses => Balance.parentheses pattern = false
  | .unbalancedBrackets => Balance.brackets pattern = false
  | .catastrophicBacktracking =>
    policy = .sequential ∧ Backtracking.hasSequentialRepetition pattern = true ∨
      policy = .nested ∧ Backtracking.hasNestedRepetition pattern = true

/-- Whether a list consists of all these faults, in order and each once. -/
def Lists (policy : BacktrackPolicy) (pattern : Text) (issues : List Issue) : Prop :=
  issues.Pairwise (fun first second => first.place < second.place) ∧
    ∀ issue, issue ∈ issues ↔ Finds policy pattern issue

variable {policy : BacktrackPolicy} {pattern : Text} {issue : Issue} {issues : List Issue}

theorem refuses_iff :
    Backtracking.refuses policy pattern = true ↔ Finds policy pattern .catastrophicBacktracking := by
  cases policy <;> simp [Backtracking.refuses, Finds]

theorem mem_structuralIssues : issue ∈ structuralIssues policy pattern ↔ Finds policy pattern issue := by
  cases issue with
  | catastrophicBacktracking =>
    rw [← refuses_iff]
    simp [structuralIssues]
  | _ => simp [structuralIssues, Finds]

private theorem structuralIssues_ordered :
    (structuralIssues policy pattern).Pairwise fun first second => first.place < second.place := by
  rw [structuralIssues]
  split <;> split <;> split <;> simp [Issue.place]

/-- There is one such list. -/
theorem lists_iff : Lists policy pattern issues ↔ issues = structuralIssues policy pattern := by
  constructor
  · rintro ⟨ordered, all⟩
    have distinct {l : List Issue} (ordered : l.Pairwise fun first second => first.place < second.place) : l.Nodup :=
      ordered.imp fun before same => by
        subst same
        exact Nat.lt_irrefl _ before
    have permuted : issues.Perm (structuralIssues policy pattern) := by
      rw [List.perm_ext_iff_of_nodup (distinct ordered) (distinct structuralIssues_ordered)]
      exact fun issue => (all issue).trans mem_structuralIssues.symm
    refine permuted.eq_of_pairwise (fun first second _ _ before after => ?_) ordered structuralIssues_ordered
    exact absurd before (Nat.lt_asymm after)
  · rintro rfl
    exact ⟨structuralIssues_ordered, fun _ => mem_structuralIssues⟩

end Validation

namespace Draft

/-- What compiling a draft comes to. Without options the engine is asked first, and the text is looked through only
where it is accepted. -/
inductive CompilesTo (engine : Engine) (d : Draft) : Except PatternError Matcher → Prop
  | limit {e : LimitError} (zero : d.limits.FirstZero e) : d.CompilesTo engine (.error (.limits e))
  | rejected {reason : String} (positive : ∀ e, ¬ d.limits.FirstZero e)
      (refused : engine d.limits {} d.render = .error reason) :
      d.CompilesTo engine (.error (.invalidPattern d.render [.engineRejected reason]))
  | faulty {issues : List Issue} {s : Searcher} (positive : ∀ e, ¬ d.limits.FirstZero e)
      (accepted : engine d.limits {} d.render = .ok s) (listed : Validation.Lists d.limits.policy d.render issues)
      (some : issues ≠ []) : d.CompilesTo engine (.error (.invalidPattern d.render issues))
  | rejectedUnderOptions {reason : String} {s : Searcher} (positive : ∀ e, ¬ d.limits.FirstZero e)
      (accepted : engine d.limits {} d.render = .ok s) (faultless : ∀ issue, ¬ Validation.Finds d.limits.policy d.render issue)
      (refused : engine d.limits
        { ignoreCase := d.flags.has .ignoreCase, multiline := d.flags.has .multiline, dotAll := d.flags.has .dotAll }
        d.render = .error reason) :
      d.CompilesTo engine (.error (.invalidPattern d.render [.engineRejected reason]))
  | pattern {s s' : Searcher} (positive : ∀ e, ¬ d.limits.FirstZero e)
      (accepted : engine d.limits {} d.render = .ok s) (faultless : ∀ issue, ¬ Validation.Finds d.limits.policy d.render issue)
      (built : engine d.limits
        { ignoreCase := d.flags.has .ignoreCase, multiline := d.flags.has .multiline, dotAll := d.flags.has .dotAll }
        d.render = .ok s') : d.CompilesTo engine (.ok ⟨s', d.flags⟩)

variable {engine : Engine} {d : Draft} {m : Matcher} {pattern : Text} {issue : Issue} {issues : List Issue}

theorem compile_of_firstZero {e : LimitError} (zero : d.limits.FirstZero e) :
    (d.compile engine).result = .error (.limits e) := by
  rw [compile, Limits.check_eq_error_iff.mpr zero]

theorem compile_of_positive (positive : ∀ e, ¬ d.limits.FirstZero e) :
    (d.compile engine).result = (compileText engine d d.render).result := by
  rw [compile, Limits.check_eq_ok_iff.mpr positive]

theorem check_of_accepted {limits : Limits} {s : Searcher} (accepted : engine limits {} pattern = .ok s) :
    (Validation.check engine limits pattern).result = Validation.structuralIssues limits.policy pattern := by
  rw [Validation.check, accepted]

theorem check_of_refused {limits : Limits} {reason : String} (refused : engine limits {} pattern = .error reason) :
    (Validation.check engine limits pattern).result = [.engineRejected reason] := by
  rw [Validation.check, refused]

theorem compileText_of_faults (some : (Validation.check engine d.limits pattern).result ≠ []) :
    (compileText engine d pattern).result =
      .error (.invalidPattern pattern (Validation.check engine d.limits pattern).result) := by
  rw [compileText, if_neg (by simpa using some)]

theorem compileText_of_faultless (none : (Validation.check engine d.limits pattern).result = []) :
    (compileText engine d pattern).result =
      match engine d.limits d.switches pattern with
      | .ok s => .ok ⟨s, d.flags⟩
      | .error reason => .error (.invalidPattern pattern [.engineRejected reason]) := by
  rw [compileText, if_pos (by simp [none])]
  cases engine d.limits d.switches pattern <;> rfl

/-- Behind the limits, a text with faults is refused for these. -/
theorem compile_of_faults (positive : ∀ e, ¬ d.limits.FirstZero e)
    (some : (Validation.check engine d.limits d.render).result ≠ []) :
    (d.compile engine).result = .error (.invalidPattern d.render (Validation.check engine d.limits d.render).result) :=
  (compile_of_positive positive).trans (compileText_of_faults some)

/-- Behind the limits, a text without faults is for the engine to decide, under the options. -/
theorem compile_of_faultless (positive : ∀ e, ¬ d.limits.FirstZero e)
    (none : (Validation.check engine d.limits d.render).result = []) :
    (d.compile engine).result =
      match engine d.limits d.switches d.render with
      | .ok s => .ok ⟨s, d.flags⟩
      | .error reason => .error (.invalidPattern d.render [.engineRejected reason]) :=
  (compile_of_positive positive).trans (compileText_of_faultless none)

/-- What the engine takes as it is, and has no fault, is compiled. -/
theorem compile_of_accepted {s : Searcher} (positive : ∀ e, ¬ d.limits.FirstZero e)
    (faultless : Validation.structuralIssues d.limits.policy d.render = []) (switches : d.switches = {})
    (accepted : engine d.limits {} d.render = .ok s) : (d.compile engine).result = .ok ⟨s, d.flags⟩ := by
  rw [compile_of_faultless positive ((check_of_accepted accepted).trans faultless), switches, accepted]

private theorem structuralIssues_eq_nil {policy : BacktrackPolicy}
    (faultless : ∀ issue, ¬ Validation.Finds policy pattern issue) :
    Validation.structuralIssues policy pattern = [] :=
  List.eq_nil_iff_forall_not_mem.mpr fun issue member => faultless issue (Validation.mem_structuralIssues.mp member)

/-- Compiling comes to one of these. -/
theorem compile_compilesTo (engine : Engine) (d : Draft) : d.CompilesTo engine (d.compile engine).result := by
  by_cases zero : ∃ e, d.limits.FirstZero e
  · obtain ⟨e, zero⟩ := zero
    rw [compile_of_firstZero zero]
    exact .limit zero
  have positive : ∀ e, ¬ d.limits.FirstZero e := not_exists.mp zero
  cases asked : engine d.limits {} d.render with
  | error reason =>
    have found := check_of_refused asked
    rw [compile_of_faults positive (by simp [found]), found]
    exact .rejected positive asked
  | ok s =>
    have found := check_of_accepted asked
    by_cases none : Validation.structuralIssues d.limits.policy d.render = []
    · have faultless : ∀ issue, ¬ Validation.Finds d.limits.policy d.render issue := fun issue finds => by
        have member := Validation.mem_structuralIssues.mpr finds
        rw [none] at member
        cases member
      rw [compile_of_faultless positive (found.trans none)]
      cases built : engine d.limits d.switches d.render with
      | error reason => exact .rejectedUnderOptions positive asked faultless built
      | ok s' => exact .pattern positive asked faultless built
    · rw [compile_of_faults positive (by rwa [found]), found]
      exact .faulty positive asked (Validation.lists_iff.mpr rfl) none

/-- And to no other. -/
theorem CompilesTo.eq {r : Except PatternError Matcher} (comes : d.CompilesTo engine r) :
    (d.compile engine).result = r := by
  cases comes with
  | limit zero => exact compile_of_firstZero zero
  | rejected positive refused =>
    have found := check_of_refused refused
    rw [compile_of_faults positive (by simp [found]), found]
  | faulty positive accepted listed some =>
    obtain rfl := Validation.lists_iff.mp listed
    have found := check_of_accepted accepted
    rw [compile_of_faults positive (by rwa [found]), found]
  | rejectedUnderOptions positive accepted faultless refused =>
    have found := (check_of_accepted accepted).trans (structuralIssues_eq_nil faultless)
    have asked : engine d.limits d.switches d.render = .error _ := refused
    rw [compile_of_faultless positive found, asked]
  | pattern positive accepted faultless built =>
    have found := (check_of_accepted accepted).trans (structuralIssues_eq_nil faultless)
    have asked : engine d.limits d.switches d.render = .ok _ := built
    rw [compile_of_faultless positive found, asked]

/-- A fault that is given as a reason, and not by the engine, is one of the text. -/
theorem finds_of_compile (refused : (d.compile engine).result = .error (.invalidPattern pattern issues))
    (found : issue ∈ issues) (structural : ∀ reason, issue ≠ .engineRejected reason) :
    Validation.Finds d.limits.policy d.render issue := by
  have comes := compile_compilesTo engine d
  rw [refused] at comes
  cases comes with
  | rejected _ _ => exact absurd (List.mem_singleton.mp found) (structural _)
  | faulty _ _ listed _ => exact (listed.2 issue).mp found
  | rejectedUnderOptions _ _ _ _ => exact absurd (List.mem_singleton.mp found) (structural _)

/-- What compiles is without faults. -/
theorem not_finds_of_compile (compiled : (d.compile engine).result = .ok m) (issue : Issue) :
    ¬ Validation.Finds d.limits.policy d.render issue := by
  have comes := compile_compilesTo engine d
  rw [compiled] at comes
  cases comes with
  | pattern _ _ faultless _ => exact faultless issue

end Draft

/-- Whether the searchers that an engine builds know the text they are built for. -/
def Engine.KeepsText (engine : Engine) : Prop :=
  ∀ (limits : Limits) (sw : Regex.Switches) (pattern : Text) (s : Searcher),
    engine limits sw pattern = .ok s → s.text = pattern

theorem Regex.build_keepsText : Engine.KeepsText Regex.build := by
  intro limits sw pattern s built
  rw [build] at built
  split at built
  · cases built
  · split at built
    · cases built
    · obtain rfl := Except.ok.inj built
      rfl

namespace Draft

/-- Compiling a draft answers what it comes to. A pattern has the text of the draft, all bits of its options, and is
shown like the draft. Without the option for it, all matches are refused before anything is compiled; every other
question is answered by what the draft comes to. -/
theorem compiling_is_exact (engine : Engine) (keeps : engine.KeepsText) (d : Draft) :
    (∀ r, (d.compile engine).result = r ↔ d.CompilesTo engine r) ∧
      (∀ m, (d.compile engine).result = .ok m →
        m.searcher.text = d.render ∧ m.flags = d.flags ∧ m.display = d.display) ∧
      (d.flags.has .global = false → ∀ haystack,
        d.ask engine (.all haystack) = ⟨.error (.missingOption "find_all" (.of .global)), []⟩) ∧
      ∀ question, (d.flags.has .global = true ∨ ∀ haystack, question ≠ .all haystack) → ∀ r,
        (d.ask engine question).result = r ↔
          ∃ outcome, d.CompilesTo engine outcome ∧ r = outcome.map (·.answer question) := by
  have answers : ∀ r, (d.compile engine).result = r ↔ d.CompilesTo engine r := fun r =>
    ⟨fun same => same ▸ compile_compilesTo engine d, CompilesTo.eq⟩
  refine ⟨answers, fun m compiled => ?_, fun once haystack => ?_, fun question asked r => ?_⟩
  · obtain ⟨-, s, built, rfl⟩ := compile_eq_ok compiled
    have text : s.text = d.render := keeps _ _ _ _ built
    refine ⟨text, rfl, ?_⟩
    rw [Matcher.display, display, text]
  · rw [ask, if_neg (by simp [once])]
  · have answer : (d.ask engine question).result = (d.compile engine).result.map (·.answer question) := by
      cases question with
      | all haystack =>
        rcases asked with everywhere | other
        · rw [ask, if_pos everywhere]
        · exact absurd rfl (other haystack)
      | _ => rfl
    rw [answer]
    constructor
    · rintro rfl
      exact ⟨_, compile_compilesTo engine d, rfl⟩
    · rintro ⟨outcome, comes, rfl⟩
      rw [comes.eq]

/-- A parenthesis in a set, and a repeated group with a repetition in it. Of the options only unnamed bits are set. -/
def riskyBehindSet : Draft := { components := [.text "[)](a+)+".toList], flags := ⟨0xc0⟩ }

theorem riskyBehindSet_comes_to_faults :
    Engine.KeepsText Regex.build ∧
      (riskyBehindSet.compile Regex.build).result =
        .error (.invalidPattern "[)](a+)+".toList [.unbalancedParentheses, .catastrophicBacktracking]) ∧
      (riskyBehindSet.ask Regex.build (.all [])).result = .error (.missingOption "find_all" (.of .global)) := by
  obtain ⟨answers, -, once, -⟩ := compiling_is_exact Regex.build Regex.build_keepsText riskyBehindSet
  have positive : ∀ e, ¬ riskyBehindSet.limits.FirstZero e := Limits.check_eq_ok_iff.mp rfl
  have accepted : (Regex.build riskyBehindSet.limits {} riskyBehindSet.render).isOk = true := by decide +kernel
  refine ⟨Regex.build_keepsText, (answers _).mpr ?_, by rw [once rfl]⟩
  cases asked : Regex.build riskyBehindSet.limits {} riskyBehindSet.render with
  | error reason =>
    rw [asked] at accepted
    cases accepted
  | ok s =>
    have listed : Validation.Lists .sequential riskyBehindSet.render
        [.unbalancedParentheses, .catastrophicBacktracking] := Validation.lists_iff.mpr (by decide +kernel)
    exact .faulty positive asked listed (by decide)

end Draft

end PatternKit
