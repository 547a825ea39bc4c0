import PatternKit.Proofs.Independence

/-!
The log of a script. The calls of a script are those that are made until one fails for good, at any depth, each of them
when it is over, so that those inside a composition come before the composition. Each repetition and each alternative
among them that has succeeded is in the log, in this order, and nothing else is: what has been logged inside a composition
stays there also if that fails.
-/

set_option autoImplicit false

namespace PatternKit

/-- A call that is over: the draft on which the command was called, the command, how it failed if it did, and the draft
that the script inside it has left. -/
structure Call where
  receiver : Draft
  command : Command
  failure : Option PatternError
  child : Draft := {}

namespace Call

/-- What a repetition that has succeeded says in the log, under the name of the operation. -/
def repetition? (operation : String) (request : Quantifier.Request) : Option LogEvent :=
  request.build.toOption.map fun q => .quantified operation q.suffix

/-- What a call says in the log: a repetition that has succeeded gives its name and its suffix, an alternative that has
succeeded the numbers of components on both sides. All other calls, and all that have failed, say nothing. -/
def event? (call : Call) : Option LogEvent :=
  match call.failure, call.command with
  | none, .repeatLast request => repetition? request.operation request
  | none, .quantify request => repetition? "quantify" request
  | none, .compose .alternative _ =>
    some (.alternated call.receiver.components.length call.child.components.length)
  | _, _ => none

theorem event?_failed (receiver child : Draft) (c : Command) (e : PatternError) :
    event? ⟨receiver, c, some e, child⟩ = none := by
  cases c <;> rfl

end Call

namespace Command

mutual

/-- The calls that are made when a command is called on a draft, in the order in which they are over. -/
def calls (engine : Engine) (d : Draft) : Command → List Call
  | .attempt command => calls engine d command
  | .compose composition body =>
    callsAll engine {} body ++
      [⟨d, .compose composition body, ((compose composition body).run engine d).failure, (runAll engine {} body).draft⟩]
  | command => [{ receiver := d, command := command, failure := (command.run engine d).failure }]

/-- The calls that a script makes on a draft, up to its end or the first command that fails. -/
def callsAll (engine : Engine) (d : Draft) : List Command → List Call
  | [] => []
  | c :: cs =>
    calls engine d c ++ if (c.run engine d).failure = none then callsAll engine (c.run engine d).draft cs else []

end

variable {engine : Engine} {d : Draft} {c : Command}

/-- A repetition says its suffix where there is something to repeat. -/
private theorem log_repeatLast {request : Quantifier.Request} {q : Quantifier} (operation : String)
    (made : request.build = .ok q)
    (event : Call.event? { receiver := d, command := c, failure := none } = Call.repetition? operation request) :
    (Progress.repeated operation (d.repeatLast operation q)).log =
      (Call.event? ⟨d, c, (Progress.repeated operation (d.repeatLast operation q)).failure, {}⟩).toList := by
  rcases List.eq_nil_or_concat d.components with empty | ⟨before, last, split⟩
  · rw [Draft.repeatLast_nil empty]
    exact (congrArg Option.toList (Call.event?_failed d {} c _)).symm
  · rw [List.concat_eq_append] at split
    have said : [.quantified operation q.suffix] = (Call.repetition? operation request).toList := by
      rw [Call.repetition?, made]
      rfl
    rw [Draft.repeatLast_append split]
    exact said.trans (congrArg Option.toList event.symm)

private theorem log_repeatAs (d : Draft) (request : Quantifier.Request) :
    (Progress.repeated request.operation (d.repeatAs request)).log =
      (Call.event? ⟨d, .repeatLast request, (Progress.repeated request.operation (d.repeatAs request)).failure, {}⟩).toList := by
  by_cases empty : d.components = []
  · rw [Draft.repeatAs_nil empty]
    rfl
  · rw [Draft.repeatAs_of_ne_nil empty]
    cases made : request.build with
    | error e => rfl
    | ok q => exact log_repeatLast _ made rfl

/-- A composition says what its script does, and then, if it makes alternatives, how many components these have. -/
private theorem log_composed (d : Draft) (composition : Composition) (body : List Command) (child : Progress) :
    (Progress.composed d composition child).log = child.log ++
      (Call.event?
        ⟨d, .compose composition body, (Progress.composed d composition child).failure, child.draft⟩).toList := by
  obtain ⟨made, entries, log, failure⟩ := child
  cases failure with
  | some e => exact (List.append_nil log).symm
  | none =>
    cases composition with
    | group => exact (List.append_nil log).symm
    | nonCapturingGroup => exact (List.append_nil log).symm
    | alternative => rfl

mutual

/-- What a command logs, by the structure of the command. -/
private theorem log_run (engine : Engine) (d : Draft) (c : Command) (mutator : c.isMutator = true) :
    (c.run engine d).log = (c.calls engine d).filterMap Call.event? := by
  have said (call : Call) : [call].filterMap Call.event? = call.event?.toList := by
    cases event : call.event? <;> simp [event]
  cases c with
  | push recipe =>
    refine Eq.trans ?_ (said ⟨d, .push recipe, ((push recipe).run engine d).failure, {}⟩).symm
    rw [run]
    cases recipe.build <;> rfl
  | repeatLast request =>
    refine Eq.trans ?_ (said ⟨d, .repeatLast request, ((repeatLast request).run engine d).failure, {}⟩).symm
    rw [run]
    exact log_repeatAs d request
  | quantify request =>
    refine Eq.trans ?_ (said ⟨d, .quantify request, ((quantify request).run engine d).failure, {}⟩).symm
    rw [run]
    cases made : request.build with
    | error e => rfl
    | ok q => exact log_repeatLast "quantify" made rfl
  | compose composition body =>
    rw [calls, List.filterMap_append, said, ← log_runAll engine {} body mutator, run]
    exact log_composed d composition body _
  | attempt command => exact log_run engine d command mutator
  | addFlags flags => rfl
  | setLimits limits => rfl
  | raise error => rfl
  | _ => cases mutator

private theorem log_runAll (engine : Engine) (d : Draft) (script : List Command) (mutators : areMutators script = true) :
    (runAll engine d script).log = (callsAll engine d script).filterMap Call.event? := by
  cases script with
  | nil => rfl
  | cons c cs =>
    obtain ⟨first, rest⟩ := Bool.and_eq_true_iff.mp mutators
    rw [callsAll, List.filterMap_append, ← log_run engine d c first]
    cases failed : (c.run engine d).failure with
    | some e =>
      rw [runAll_fails failed]
      exact (List.append_nil _).symm
    | none =>
      rw [runAll_passes failed, if_pos rfl, ← log_runAll engine _ cs rest]

end

/-- What has been logged is not touched by what is done later. -/
private theorem log_isPrefix (engine : Engine) (d : Draft) (first more : List Command) :
    (runAll engine d first).log <+: (runAll engine d (first ++ more)).log := by
  induction first generalizing d with
  | nil => exact List.nil_prefix
  | cons c cs ih =>
    rw [List.cons_append]
    cases failed : (c.run engine d).failure with
    | some e =>
      have same : runAll engine d (c :: (cs ++ more)) = runAll engine d (c :: cs) :=
        (runAll_fails failed).trans (runAll_fails failed).symm
      exact same ▸ List.prefix_refl _
    | none =>
      rw [runAll_passes failed, runAll_passes failed]
      exact (List.prefix_append_right_inj _).mpr (ih _)

/-- The log of a script that only changes drafts consists of what its calls say, at any depth, in the order in which they
are over: each repetition that has succeeded says its name and suffix, each alternative that has succeeded says behind all
that was logged inside it how many components it has on both sides, and nothing else is logged. What has been logged stays
there, whatever is done or fails later. -/
theorem log_consists_of_calls (engine : Engine) (d : Draft) (script : List Command)
    (mutators : areMutators script = true) :
    (runAll engine d script).log = (callsAll engine d script).filterMap Call.event? ∧
      ∀ first more, script = first ++ more → (runAll engine d first).log <+: (runAll engine d script).log := by
  refine ⟨log_runAll engine d script mutators, ?_⟩
  rintro first more rfl
  exact log_isPrefix engine d first more

/-- A group that fails behind a repetition and an alternative, and what is done when that has been caught. -/
def caughtGroup : List Command :=
  [.push (.literal ['a']),
    .attempt (.compose .group
      [.push .letters, .repeatLast .oneOrMore, .compose .alternative [.push .letter, .quantify (.atLeast 2)],
        .repeatLast (.between 3 2)]),
    .attempt (.repeatLast (.between 2 1)), .push (.set ['-'] true), .addFlags (.of .global),
    .compose .alternative [.attempt (.repeatLast .optional), .push (.shorthand .digit), .push .wordBoundary],
    .repeatLast .zeroOrMore, .raise (.emptyPattern "caller"), .repeatLast .optional]

theorem caughtGroup_log :
    areMutators caughtGroup = true ∧
      (runAll Regex.build {} caughtGroup).failure = some (.emptyPattern "caller") ∧
      (runAll Regex.build {} caughtGroup).log =
        [.quantified "one_or_more" ['+'], .quantified "quantify" "\x7b2,\x7d".toList, .alternated 1 1, .alternated 2 2,
          .quantified "zero_or_more" ['*']] := by
  have mutators : areMutators caughtGroup = true := rfl
  obtain ⟨log, -⟩ := log_consists_of_calls Regex.build {} caughtGroup mutators
  exact ⟨mutators, rfl, log.trans (by decide)⟩

end Command

end PatternKit
