import PatternKit.Draft.Script

/-!
Components, options and limits are independent. What a script builds, and what comes of its commands, is the same
whatever options and limits it sets on the way, and whatever draft these come from; its options are those that are
added at its top level, and its limits the last ones that are set there. A script inside a command begins with
nothing, and hands on nothing but components.
-/

set_option autoImplicit false

namespace PatternKit

/-- Membership of a bit, with or without a name. -/
def Flags.holds (a : Flags) (i : Nat) : Bool := a.bits.toBitVec.getLsbD i

theorem Flags.holds_union (a b : Flags) (i : Nat) : (a.union b).holds i = (a.holds i || b.holds i) := by
  simp [holds, union]

namespace Command

/-- Whether a command only adds options or sets limits. -/
def isSetting : Command → Bool
  | .addFlags _ | .setLimits _ => true
  | .attempt command => command.isSetting
  | .push _ | .repeatLast _ | .quantify _ | .compose _ _ | .raise _ | .render | .inspect | .components | .compile _
  | .ask _ => false

/-- The options that a command adds. The script inside it adds none. -/
def added? : Command → Option Flags
  | .addFlags flags => some flags
  | .attempt command => command.added?
  | .push _ | .setLimits _ | .repeatLast _ | .quantify _ | .compose _ _ | .raise _ | .render | .inspect | .components
  | .compile _ | .ask _ => none

/-- The limits that a command sets. -/
def limits? : Command → Option Limits
  | .setLimits limits => some limits
  | .attempt command => command.limits?
  | .push _ | .addFlags _ | .repeatLast _ | .quantify _ | .compose _ _ | .raise _ | .render | .inspect | .components
  | .compile _ | .ask _ => none

mutual

/-- A command without the settings in the script inside it. -/
def structural : Command → Command
  | .compose composition body => .compose composition (structuralAll body)
  | .attempt command => .attempt command.structural
  | .push recipe => .push recipe
  | .addFlags flags => .addFlags flags
  | .setLimits limits => .setLimits limits
  | .repeatLast request => .repeatLast request
  | .quantify request => .quantify request
  | .raise error => .raise error
  | .render => .render
  | .inspect => .inspect
  | .components => .components
  | .compile questions => .compile questions
  | .ask question => .ask question

/-- A script without its settings, at any depth. -/
def structuralAll : List Command → List Command
  | [] => []
  | c :: cs => if c.isSetting then structuralAll cs else c.structural :: structuralAll cs

end

mutual

/-- Whether a command, and the script inside it, only changes drafts, and asks nothing of them. -/
def isMutator : Command → Bool
  | .compose _ body => areMutators body
  | .attempt command => command.isMutator
  | .push _ | .addFlags _ | .setLimits _ | .repeatLast _ | .quantify _ | .raise _ => true
  | .render | .inspect | .components | .compile _ | .ask _ => false

def areMutators : List Command → Bool
  | [] => true
  | c :: cs => c.isMutator && areMutators cs

end

end Command

/-- A record without options and limits: what came of the command, the components after it, and the records of the
script inside it. -/
inductive Outline where
  | mk (result : Except PatternError Reply) (components : List Component) (body : Option (List Outline))

namespace Command

mutual

/-- The record of a command in outline. -/
def outline : Command → Entry → Outline
  | .compose _ script, .mk result d (some entries) => .mk result d.components (some (outlines script entries))
  | .attempt command, entry => outline command entry
  | _, .mk result d _ => .mk result d.components none

/-- The records of a script in outline. Those of settings are left out. -/
def outlines : List Command → List Entry → List Outline
  | c :: cs, entry :: entries =>
    if c.isSetting then outlines cs entries else outline c entry :: outlines cs entries
  | _, _ => []

end

variable {engine engine' : Engine} {d d' : Draft} {c c' : Command} {cs : List Command}

theorem outlines_setting (setting : c.isSetting = true) (entry : Entry) (entries : List Entry) :
    outlines (c :: cs) (entry :: entries) = outlines cs entries := by
  rw [outlines, if_pos setting]

theorem outlines_cons (other : c.isSetting = false) (entry : Entry) (entries : List Entry) :
    outlines (c :: cs) (entry :: entries) = outline c entry :: outlines cs entries := by
  rw [outlines, if_neg (Bool.eq_false_iff.mp other)]

theorem outlines_nil (cs : List Command) : outlines cs [] = [] := by cases cs <;> rfl

/-! What a script does after its first command. -/

theorem runAll_fails {e : PatternError} (fails : (c.run engine d).failure = some e) :
    runAll engine d (c :: cs) = c.run engine d := by
  rw [runAll, fails]

theorem runAll_passes (passes : (c.run engine d).failure = none) :
    runAll engine d (c :: cs) =
      let rest := runAll engine (c.run engine d).draft cs
      ⟨rest.draft, (c.run engine d).entries ++ rest.entries, (c.run engine d).log ++ rest.log, rest.failure⟩ := by
  rw [runAll, passes]

/-! Components. -/

/-- Whether two runs of one command, once perhaps without the settings inside it, are the same in outline. -/
structure Alike (c c' : Command) (p p' : Progress) : Prop where
  components : p'.draft.components = p.draft.components
  failure : p'.failure = p.failure
  outline : ∃ e e', p.entries = [e] ∧ p'.entries = [e'] ∧ c'.outline e' = c.outline e

/-- Whether two runs of one script, once perhaps without its settings, are the same in outline. -/
structure AlikeAll (cs cs' : List Command) (p p' : Progress) : Prop where
  components : p'.draft.components = p.draft.components
  failure : p'.failure = p.failure
  outlines : outlines cs' p'.entries = outlines cs p.entries

private theorem isSetting_structural (c : Command) : c.structural.isSetting = c.isSetting := by
  cases c with
  | attempt command => exact isSetting_structural command
  | _ => rfl

private theorem repeatLast_alike (same : d'.components = d.components) (operation : String) (q : Quantifier) :
    (d'.repeatLast operation q).result = (d.repeatLast operation q).result ∧
      (d'.repeatLast operation q).draft.components = (d.repeatLast operation q).draft.components := by
  rcases List.eq_nil_or_concat d.components with empty | ⟨before, last, split⟩
  · rw [Draft.repeatLast_nil empty, Draft.repeatLast_nil (same.trans empty)]
    exact ⟨rfl, same⟩
  · rw [List.concat_eq_append] at split
    rw [Draft.repeatLast_append split, Draft.repeatLast_append (same.trans split)]
    exact ⟨rfl, rfl⟩

private theorem repeatAs_alike (same : d'.components = d.components) (request : Quantifier.Request) :
    (d'.repeatAs request).result = (d.repeatAs request).result ∧
      (d'.repeatAs request).draft.components = (d.repeatAs request).draft.components := by
  by_cases empty : d.components = []
  · rw [Draft.repeatAs_nil empty, Draft.repeatAs_nil (same.trans empty)]
    exact ⟨rfl, same⟩
  · have full : d'.components ≠ [] := by rwa [same]
    rw [Draft.repeatAs_of_ne_nil empty, Draft.repeatAs_of_ne_nil full]
    cases request.build with
    | error e => exact ⟨rfl, same⟩
    | ok q => exact repeatLast_alike same _ q

/-- Whether the record of a command without a script inside has nothing left out but options and limits. -/
private def Plain (c : Command) : Prop :=
  ∀ result draft, c.outline (.mk result draft none) = .mk result draft.components none

private theorem Plain.alike (plain : c.Plain) (same : d'.components = d.components)
    (result : Except PatternError Reply) (log log' : List LogEvent) (failure : Option PatternError) :
    Alike c c ⟨d, [.mk result d none], log, failure⟩ ⟨d', [.mk result d' none], log', failure⟩ :=
  ⟨same, rfl, _, _, rfl, rfl, by rw [plain, plain, same]⟩

private theorem Plain.alike_repeated (plain : c.Plain) {outcome outcome' : Draft.Outcome Quantifier}
    (answers : outcome'.result = outcome.result) (same : outcome'.draft.components = outcome.draft.components)
    (operation : String) : Alike c c (.repeated operation outcome) (.repeated operation outcome') := by
  obtain ⟨result, left⟩ := outcome
  obtain ⟨result', left'⟩ := outcome'
  obtain rfl : result' = result := answers
  cases result' <;> exact plain.alike same _ _ _ _

private theorem alike_composed {body body' : List Command} {child child' : Progress}
    (same : d'.components = d.components) (alike : AlikeAll body body' child child') (composition : Composition) :
    Alike (.compose composition body) (.compose composition body') (.composed d composition child)
      (.composed d' composition child') := by
  obtain ⟨made, entries, log, failure⟩ := child
  obtain ⟨made', entries', log', failure'⟩ := child'
  obtain ⟨components, failures, shown⟩ := alike
  obtain rfl : failure' = failure := failures
  replace components : made'.components = made.components := components
  replace shown : outlines body' entries' = outlines body entries := shown
  cases failure' with
  | some e => exact ⟨same, rfl, _, _, rfl, rfl, by rw [outline, outline, shown, same]⟩
  | none =>
    cases composition with
    | group =>
      have after : (d'.enclose made'.components true).components = (d.enclose made.components true).components := by
        rw [Draft.enclose, Draft.enclose, Draft.push, Draft.push, same, components]
      exact ⟨after, rfl, _, _, rfl, rfl, by rw [outline, outline, shown, after]⟩
    | nonCapturingGroup =>
      have after : (d'.enclose made'.components false).components = (d.enclose made.components false).components := by
        rw [Draft.enclose, Draft.enclose, Draft.push, Draft.push, same, components]
      exact ⟨after, rfl, _, _, rfl, rfl, by rw [outline, outline, shown, after]⟩
    | alternative =>
      have after : (d'.alternate made'.components).components = (d.alternate made.components).components := by
        simp [Draft.alternate, Draft.takeAll, Draft.push, same, components]
      exact ⟨after, rfl, _, _, rfl, rfl, by rw [outline, outline, shown, after]⟩

/-- A setting leaves the components as they are, and does not fail. -/
private theorem run_setting (engine : Engine) (d : Draft) (c : Command) (setting : c.isSetting = true) :
    (c.run engine d).draft.components = d.components ∧ (c.run engine d).failure = none ∧
      ∃ entry, (c.run engine d).entries = [entry] := by
  cases c with
  | addFlags flags => exact ⟨rfl, rfl, _, rfl⟩
  | setLimits limits => exact ⟨rfl, rfl, _, rfl⟩
  | attempt command =>
    obtain ⟨components, -, shown⟩ := run_setting engine d command setting
    exact ⟨components, rfl, shown⟩
  | _ => cases setting

mutual

/-- Without the settings inside it a command does the same to the components of any draft. -/
private theorem run_structural (engine engine' : Engine) (d d' : Draft) (c : Command) (mutator : c.isMutator = true)
    (same : d'.components = d.components) :
    Alike c c.structural (c.run engine d) (c.structural.run engine' d') := by
  cases c with
  | push recipe =>
    have plain : (push recipe).Plain := fun _ _ => rfl
    rw [structural, run, run]
    cases recipe.build with
    | error e => exact plain.alike same _ _ _ _
    | ok c =>
      have after : (d'.push c).components = (d.push c).components := by rw [Draft.push, Draft.push, same]
      exact plain.alike after _ _ _ _
  | addFlags flags =>
    have plain : (addFlags flags).Plain := fun _ _ => rfl
    have after : (d'.addFlags flags).components = (d.addFlags flags).components := same
    exact plain.alike after _ _ _ _
  | setLimits limits =>
    have plain : (setLimits limits).Plain := fun _ _ => rfl
    have after : (d'.setLimits limits).components = (d.setLimits limits).components := same
    exact plain.alike after _ _ _ _
  | repeatLast request =>
    have plain : (repeatLast request).Plain := fun _ _ => rfl
    obtain ⟨answers, after⟩ := repeatAs_alike same request
    exact plain.alike_repeated answers after _
  | quantify request =>
    have plain : (quantify request).Plain := fun _ _ => rfl
    rw [structural, run, run]
    cases request.build with
    | error e => exact plain.alike same _ _ _ _
    | ok q =>
      obtain ⟨answers, after⟩ := repeatLast_alike same "quantify" q
      exact plain.alike_repeated answers after _
  | compose composition body =>
    have child : AlikeAll body (structuralAll body) (runAll engine {} body) (runAll engine' {} (structuralAll body)) :=
      runAll_structural engine engine' {} {} body mutator rfl
    exact alike_composed same child composition
  | raise error =>
    have plain : (raise error).Plain := fun _ _ => rfl
    exact plain.alike same _ _ _ _
  | attempt command =>
    obtain ⟨components, -, entry, entry', shown, shown', outlined⟩ :=
      run_structural engine engine' d d' command mutator same
    exact ⟨components, rfl, entry, entry', shown, shown', outlined⟩
  | _ => cases mutator

/-- Without its settings a script does the same to the components of any draft. -/
private theorem runAll_structural (engine engine' : Engine) (d d' : Draft) (cs : List Command)
    (mutators : areMutators cs = true) (same : d'.components = d.components) :
    AlikeAll cs (structuralAll cs) (runAll engine d cs) (runAll engine' d' (structuralAll cs)) := by
  cases cs with
  | nil => exact ⟨same, rfl, rfl⟩
  | cons c cs =>
    obtain ⟨mutator, mutators⟩ : c.isMutator = true ∧ areMutators cs = true := by simpa [areMutators] using mutators
    cases setting : c.isSetting with
    | true =>
      obtain ⟨left, passes, entry, shown⟩ := run_setting engine d c setting
      have rest := runAll_structural engine engine' _ d' cs mutators (same.trans left.symm)
      rw [structuralAll, if_pos setting, runAll_passes passes, shown]
      exact ⟨rest.components, rest.failure, rest.outlines.trans (outlines_setting setting _ _).symm⟩
    | false =>
      have setting' : c.structural.isSetting = false := (isSetting_structural c).trans setting
      obtain ⟨left, failure, entry, entry', shown, shown', outlined⟩ :=
        run_structural engine engine' d d' c mutator same
      rw [structuralAll, if_neg (Bool.eq_false_iff.mp setting)]
      cases failed : (c.run engine d).failure with
      | some e =>
        rw [runAll_fails failed, runAll_fails (failure.trans failed)]
        refine ⟨left, failure, ?_⟩
        rw [shown, shown', outlines_cons setting, outlines_cons setting', outlined, outlines_nil, outlines_nil]
      | none =>
        have rest := runAll_structural engine engine' _ _ cs mutators left
        rw [runAll_passes failed, runAll_passes (failure.trans failed), shown, shown']
        refine ⟨rest.components, rest.failure, ?_⟩
        simp only [List.singleton_append]
        rw [outlines_cons setting, outlines_cons setting', outlined, rest.outlines]

end

/-! Options and limits. -/

/-- Whether a run of one command leaves the options and limits as they are. -/
private structure Frames (d : Draft) (p : Progress) : Prop where
  flags : p.draft.flags = d.flags
  limits : p.draft.limits = d.limits
  single : ∃ entry, p.entries = [entry]

private theorem frames_repeatLast (d : Draft) (operation asked : String) (q : Quantifier) :
    Frames d (.repeated asked (d.repeatLast operation q)) := by
  rcases List.eq_nil_or_concat d.components with empty | ⟨before, last, split⟩
  · rw [Draft.repeatLast_nil empty]
    exact ⟨rfl, rfl, _, rfl⟩
  · rw [List.concat_eq_append] at split
    rw [Draft.repeatLast_append split]
    exact ⟨rfl, rfl, _, rfl⟩

private theorem frames_repeatAs (d : Draft) (request : Quantifier.Request) :
    Frames d (.repeated request.operation (d.repeatAs request)) := by
  by_cases empty : d.components = []
  · rw [Draft.repeatAs_nil empty]
    exact ⟨rfl, rfl, _, rfl⟩
  · rw [Draft.repeatAs_of_ne_nil empty]
    cases request.build with
    | error e => exact ⟨rfl, rfl, _, rfl⟩
    | ok q => exact frames_repeatLast d _ _ q

private theorem frames_composed (d : Draft) (composition : Composition) (child : Progress) :
    Frames d (.composed d composition child) := by
  obtain ⟨made, entries, log, failure⟩ := child
  cases failure with
  | some e => exact ⟨rfl, rfl, _, rfl⟩
  | none => cases composition <;> exact ⟨rfl, rfl, _, rfl⟩

private theorem frames_answered (d : Draft) (reply : Logged (Except PatternError Reply)) :
    Frames d (.answered d reply) := by
  obtain ⟨result, log⟩ := reply
  cases result <;> exact ⟨rfl, rfl, _, rfl⟩

/-- Whether a command leaves the settings that it should. -/
private structure Sets (d : Draft) (c : Command) (p : Progress) : Prop where
  flags : p.draft.flags = (c.added?.map d.flags.union).getD d.flags
  limits : p.draft.limits = c.limits?.getD d.limits
  single : ∃ entry, p.entries = [entry]

private theorem run_sets (engine : Engine) (d : Draft) (c : Command) : Sets d c (c.run engine d) := by
  have kept {c : Command} {p : Progress} (frames : Frames d p) (adds : c.added? = none) (sets : c.limits? = none) :
      Sets d c p := by
    refine ⟨?_, ?_, frames.single⟩
    · rw [adds]
      exact frames.flags
    · rw [sets]
      exact frames.limits
  cases c with
  | addFlags flags => exact ⟨rfl, rfl, _, rfl⟩
  | setLimits limits => exact ⟨rfl, rfl, _, rfl⟩
  | attempt command =>
    obtain ⟨flags, limits, single⟩ := run_sets engine d command
    exact ⟨flags, limits, single⟩
  | push recipe =>
    refine kept ?_ rfl rfl
    rw [run]
    cases recipe.build <;> exact ⟨rfl, rfl, _, rfl⟩
  | repeatLast request => exact kept (frames_repeatAs d request) rfl rfl
  | quantify request =>
    refine kept ?_ rfl rfl
    rw [run]
    cases request.build with
    | error e => exact ⟨rfl, rfl, _, rfl⟩
    | ok q => exact frames_repeatLast d _ _ q
  | compose composition body => exact kept (frames_composed d composition _) rfl rfl
  | compile questions => exact kept (frames_answered d _) rfl rfl
  | ask question => exact kept (frames_answered d _) rfl rfl
  | _ => exact ⟨rfl, rfl, _, rfl⟩

/-- The commands of a script up to the first that fails. -/
def performed (engine : Engine) (d : Draft) (script : List Command) : List Command :=
  script.take (runAll engine d script).entries.length

private theorem performed_of_fails {e : PatternError} (fails : (c.run engine d).failure = some e) :
    performed engine d (c :: cs) = [c] := by
  obtain ⟨entry, single⟩ := (run_sets engine d c).single
  rw [performed, runAll_fails fails, single]
  rfl

private theorem performed_of_passes (passes : (c.run engine d).failure = none) :
    performed engine d (c :: cs) = c :: performed engine (c.run engine d).draft cs := by
  obtain ⟨entry, single⟩ := (run_sets engine d c).single
  rw [performed, runAll_passes passes, single]
  rfl

/-- A bit is set at last if it is set at first, or added by a command that is performed. -/
private theorem holds_runAll (engine : Engine) (d : Draft) (script : List Command) (i : Nat) :
    (runAll engine d script).draft.flags.holds i = true ↔
      d.flags.holds i = true ∨ ∃ c ∈ performed engine d script, ∃ flags ∈ c.added?, flags.holds i = true := by
  have single (d : Draft) (c : Command) : (c.run engine d).draft.flags.holds i = true ↔
      d.flags.holds i = true ∨ ∃ flags ∈ c.added?, flags.holds i = true := by
    rw [(run_sets engine d c).flags]
    cases c.added? <;> simp [Flags.holds_union]
  induction script generalizing d with
  | nil => simp [runAll, performed]
  | cons c cs ih =>
    cases failure : (c.run engine d).failure with
    | some e =>
      rw [runAll_fails failure, performed_of_fails failure, single]
      simp
    | none =>
      rw [runAll_passes failure, performed_of_passes failure]
      refine (ih (c.run engine d).draft).trans ?_
      rw [single]
      simp [or_assoc]

private theorem limits_runAll (engine : Engine) (d : Draft) (script : List Command) :
    (runAll engine d script).draft.limits =
      ((performed engine d script).filterMap limits?).getLast?.getD d.limits := by
  induction script generalizing d with
  | nil => rfl
  | cons c cs ih =>
    have first := (run_sets engine d c).limits
    cases failure : (c.run engine d).failure with
    | some e =>
      rw [runAll_fails failure, performed_of_fails failure, first]
      cases limited : c.limits? <;> simp [limited]
    | none =>
      rw [runAll_passes failure, performed_of_passes failure, ih, first]
      cases limited : c.limits? with
      | none => simp [limited]
      | some limits => simp [limited, List.getLast?_cons]

/-! Scripts inside. -/

/-- Whether a run does to a draft what a composition does with given components, or fails with a given error. -/
def Contributes (composition : Composition) (outcome : Except PatternError (List Component)) (d : Draft)
    (p : Progress) : Prop :=
  match outcome, composition with
  | .error e, _ => p.failure = some e ∧ p.draft = d
  | .ok made, .group => p.failure = none ∧ p.draft = d.enclose made true
  | .ok made, .nonCapturingGroup => p.failure = none ∧ p.draft = d.enclose made false
  | .ok made, .alternative => p.failure = none ∧ p.draft = d.alternate made

/-- What a script has made: its components, or the error that ended it. -/
def made (p : Progress) : Except PatternError (List Component) :=
  match p.failure with
  | some e => .error e
  | none => .ok p.draft.components

private theorem contributes_composed (composition : Composition) (d : Draft) (child : Progress) :
    Contributes composition (made child) d (.composed d composition child) := by
  obtain ⟨draft, entries, log, failure⟩ := child
  cases failure with
  | some e => exact ⟨rfl, rfl⟩
  | none => cases composition <;> exact ⟨rfl, rfl⟩

private theorem made_congr {p p' : Progress} (components : p'.draft.components = p.draft.components)
    (failure : p'.failure = p.failure) : made p' = made p := by
  rw [made, made, components, failure]

/-- Two mutating scripts that differ in settings only. -/
private theorem runAll_alike (engine engine' : Engine) {script script' : List Command}
    (mutators : areMutators script = true) (mutators' : areMutators script' = true)
    (bare : structuralAll script' = structuralAll script) (same : d'.components = d.components) :
    AlikeAll script script' (runAll engine d script) (runAll engine' d' script') := by
  have first := runAll_structural engine engine' d d' script mutators same
  have second := runAll_structural engine' engine' d' d' script' mutators' rfl
  rw [bare] at second
  exact ⟨second.components.symm.trans first.components, second.failure.symm.trans first.failure,
    second.outlines.symm.trans first.outlines⟩

/-- Components, options and limits do not depend on each other. Scripts that differ only in what they set, at any
depth, do the same to the components of any draft, end in the same way, and all other commands in them answer the
same. At last those bits are set that were set at first or are added at the top level, and the limits are the last
ones that are set there. Inside any draft a script contributes the same components, or fails with the same error. -/
theorem settings_are_independent (script : List Command) (mutators : areMutators script = true) :
    (∀ script', areMutators script' = true → structuralAll script' = structuralAll script →
      ∀ (engine engine' : Engine) (d d' : Draft), d'.components = d.components →
        (runAll engine' d' script').draft.components = (runAll engine d script).draft.components ∧
        (runAll engine' d' script').failure = (runAll engine d script).failure ∧
        outlines script' (runAll engine' d' script').entries = outlines script (runAll engine d script).entries) ∧
    (∀ (engine : Engine) (d : Draft) (i : Nat), (runAll engine d script).draft.flags.holds i = true ↔
      d.flags.holds i = true ∨ ∃ c ∈ performed engine d script, ∃ flags ∈ c.added?, flags.holds i = true) ∧
    (∀ (engine : Engine) (d : Draft), (runAll engine d script).draft.limits =
      ((performed engine d script).filterMap limits?).getLast?.getD d.limits) ∧
    ∀ composition, ∃ outcome, ∀ script', areMutators script' = true → structuralAll script' = structuralAll script →
      ∀ (engine : Engine) (d : Draft),
        Contributes composition outcome d ((compose composition script').run engine d) := by
  refine ⟨fun script' mutators' bare engine engine' d d' same => ?_, fun engine d i => holds_runAll engine d script i,
    fun engine d => limits_runAll engine d script, fun composition => ?_⟩
  · obtain ⟨components, failure, outlines⟩ := runAll_alike engine engine' mutators mutators' bare same
    exact ⟨components, failure, outlines⟩
  · -- nothing is compiled, so that any engine shows what the script makes
    let idle : Engine := fun _ _ _ => .error ""
    refine ⟨made (runAll idle {} script), fun script' mutators' bare engine d => ?_⟩
    have alike : AlikeAll script script' (runAll idle {} script) (runAll engine {} script') :=
      runAll_alike idle engine mutators mutators' bare rfl
    rw [← made_congr alike.components alike.failure]
    exact contributes_composed composition d _

/-- Settings at the top level and in a group, one of them behind a failure. -/
def scatteredSettings : List Command :=
  [.addFlags (.of .global), .push (.literal ['a']),
    .compose .group
      [.setLimits { policy := .nested }, .push (.shorthand .digit), .addFlags (.of .sticky),
        .attempt (.repeatLast (.between 3 2)), .repeatLast .oneOrMore],
    .attempt (.addFlags (.of .multiline)), .setLimits { nest := 3 }, .repeatLast (.between 2 1), .addFlags (.of .dotAll)]

/-- The same with fewer settings, and in another order. -/
def gatheredSettings : List Command :=
  [.setLimits { nest := 0 }, .push (.literal ['a']),
    .compose .group
      [.push (.shorthand .digit), .attempt (.repeatLast (.between 3 2)), .addFlags (.of .unicode), .repeatLast .oneOrMore],
    .repeatLast (.between 2 1)]

theorem scatteredSettings_are_independent :
    areMutators scatteredSettings = true ∧ areMutators gatheredSettings = true ∧
      structuralAll gatheredSettings = structuralAll scatteredSettings ∧
      (runAll Regex.build { flags := .of .sticky } gatheredSettings).draft.components =
        (runAll Regex.build {} scatteredSettings).draft.components ∧
      (runAll Regex.build {} gatheredSettings).failure = some (.invertedBounds 2 1) ∧
      (runAll Regex.build {} scatteredSettings).draft.flags.holds 3 = false ∧
      (runAll Regex.build {} scatteredSettings).draft.flags.holds 5 = false ∧
      (runAll Regex.build {} scatteredSettings).draft.limits = { nest := 3 } := by
  have mutators : areMutators scatteredSettings = true := rfl
  have mutators' : areMutators gatheredSettings = true := rfl
  have bare : structuralAll gatheredSettings = structuralAll scatteredSettings := rfl
  have performedAll : performed Regex.build {} scatteredSettings = scatteredSettings.take 6 := rfl
  obtain ⟨same, flags, limits, -⟩ := settings_are_independent scatteredSettings mutators
  have ended := (same _ mutators' bare Regex.build Regex.build {} {} rfl).2.1
  have unset {i : Nat} (absent : ∀ c ∈ scatteredSettings.take 6, ∀ flags ∈ c.added?, flags.holds i = false)
      (start : ({} : Draft).flags.holds i = false) :
      (runAll Regex.build {} scatteredSettings).draft.flags.holds i = false := by
    refine Bool.eq_false_iff.mpr fun set => ?_
    rcases (flags Regex.build {} i).mp set with first | ⟨c, member, added, adds, holds⟩
    · exact Bool.false_ne_true (start.symm.trans first)
    · rw [performedAll] at member
      exact Bool.false_ne_true ((absent c member added adds).symm.trans holds)
  refine ⟨mutators, mutators', bare, ?_, ended.trans rfl, unset (by decide) rfl, unset (by decide) rfl, ?_⟩
  · exact (same _ mutators' bare Regex.build Regex.build {} { flags := .of .sticky } rfl).1
  · exact limits Regex.build {}

end Command

end PatternKit
