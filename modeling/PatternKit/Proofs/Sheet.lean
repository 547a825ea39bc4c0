import PatternKit.Draft.Script

/-!
Plain sheets. A sheet holds one text and a number, and scripts can be run on it without any tree: what a command
does is to write behind the text, or around it. A draft is such a sheet at every point of a run, as long as
nothing is compiled.
-/

set_option autoImplicit false

namespace PatternKit

/-- A text that is written from left to right, and the number of components it counts as. -/
structure Sheet where
  text : Text
  count : Nat

namespace Sheet

/-- A sheet with nothing on it. -/
def blank : Sheet := ⟨[], 0⟩

/-- Writes a text that counts as one component. -/
def add (s : Sheet) (t : Text) : Sheet := ⟨s.text ++ t, s.count + 1⟩

/-- Writes a suffix, which counts as nothing. -/
def suffixed (s : Sheet) (q : Quantifier) : Sheet := ⟨s.text ++ q.suffix, s.count⟩

/-- Writes a suffix, unless nothing counts yet. `operation` is the name under which this is asked for. -/
def repeatLast (s : Sheet) (operation : String) (q : Quantifier) : Except PatternError Sheet :=
  if s.count = 0 then .error (.emptyPattern operation) else .ok (s.suffixed q)

/-- Writes the suffix asked for. That nothing counts yet is seen before the bounds are. -/
def repeatAs (s : Sheet) (request : Quantifier.Request) : Except PatternError Sheet :=
  if s.count = 0 then .error (.emptyPattern request.operation) else request.build.map s.suffixed

/-- Writes a text that another sheet holds: behind the text as a group, or beside it as an alternative. Two
alternatives count as one component. -/
def compose (s : Sheet) (t : Text) : Composition → Sheet
  | .group => s.add ('(' :: t ++ [')'])
  | .nonCapturingGroup => s.add ('(' :: '?' :: ':' :: t ++ [')'])
  | .alternative =>
    ⟨['(', '?', ':'] ++ s.text ++ [')'] ++ ['|'] ++ ['(', '?', ':'] ++ t ++ [')'], 1⟩

/-- A note on a command: what came of it, the sheet after it, and the notes on the script inside it. -/
inductive Note where
  | mk (result : Except PatternError Unit) (sheet : Sheet) (body : Option (List Note))

/-- What has come of a script so far: the sheet, the notes, and the error that ended it. -/
structure Progress where
  sheet : Sheet
  notes : List Note
  failure : Option PatternError

namespace Progress

/-- A command after which a sheet is left. -/
def done (s : Sheet) (body : Option (List Note)) : Progress := ⟨s, [.mk (.ok ()) s body], none⟩

/-- A command that fails. The sheet stays as it was. -/
def failed (s : Sheet) (e : PatternError) (body : Option (List Note)) : Progress :=
  ⟨s, [.mk (.error e) s body], some e⟩

/-- A command that leaves another sheet, or else the one before it. -/
def ofExcept (s : Sheet) : Except PatternError Sheet → Progress
  | .ok s' => done s' none
  | .error e => failed s e none

end Progress

mutual

/-- Runs a command on a sheet. Commands that only look at what is there leave it as it is; whether the text
compiles, a sheet does not tell. -/
def run (s : Sheet) : Command → Progress
  | .push recipe => .ofExcept s (recipe.build.map fun c => s.add c.render)
  | .repeatLast request => .ofExcept s (s.repeatAs request)
  | .quantify request => .ofExcept s (request.build.bind (s.repeatLast "quantify"))
  | .compose composition body =>
    let child := runAll blank body
    match child.failure with
    | some e => .failed s e (some child.notes)
    | none => .done (s.compose child.sheet.text composition) (some child.notes)
  | .raise error => .failed s error none
  | .attempt command => { run s command with failure := none }
  | .addFlags _ | .setLimits _ | .render | .inspect | .components | .compile _ | .ask _ => .done s none

/-- Runs a script on a sheet, up to its end or the first command that fails. -/
def runAll (s : Sheet) : List Command → Progress
  | [] => ⟨s, [], none⟩
  | c :: cs =>
    let p := run s c
    match p.failure with
    | some _ => p
    | none =>
      let rest := runAll p.sheet cs
      ⟨rest.sheet, p.notes ++ rest.notes, rest.failure⟩

end

end Sheet

mutual

/-- Whether nothing in a command is compiled. -/
def Command.isUncompiled : Command → Bool
  | .compile _ | .ask _ => false
  | .compose _ body => Command.areUncompiled body
  | .attempt command => command.isUncompiled
  | .push _ | .addFlags _ | .setLimits _ | .repeatLast _ | .quantify _ | .raise _ | .render | .inspect
  | .components => true

/-- Whether nothing in a script is compiled. -/
def Command.areUncompiled : List Command → Bool
  | [] => true
  | c :: cs => c.isUncompiled && Command.areUncompiled cs

end

/-! A draft, and what has come of a script, without the tree. -/

/-- The text of a draft, and the number of its components. -/
def Draft.sheet (d : Draft) : Sheet := ⟨d.render, d.components.length⟩

mutual

def Entry.note : Entry → Sheet.Note
  | .mk result d none => .mk (result.map fun _ => ()) d.sheet none
  | .mk result d (some body) => .mk (result.map fun _ => ()) d.sheet (some (Entry.notes body))

def Entry.notes : List Entry → List Sheet.Note
  | [] => []
  | e :: es => e.note :: Entry.notes es

end

theorem Entry.notes_append (es fs : List Entry) : Entry.notes (es ++ fs) = Entry.notes es ++ Entry.notes fs := by
  induction es with
  | nil => rfl
  | cons e es ih => simp [Entry.notes, ih]

/-- What has come of a script, as a sheet has it. -/
def Progress.onSheet (p : Progress) : Sheet.Progress := ⟨p.draft.sheet, Entry.notes p.entries, p.failure⟩

namespace Draft

@[simp] theorem sheet_empty : ({} : Draft).sheet = .blank := rfl

@[simp] theorem sheet_push (d : Draft) (c : Component) : (d.push c).sheet = d.sheet.add c.render := by
  simp [sheet, Sheet.add, push, render, Component.renderAll]

theorem sheet_enclose (d : Draft) (cs : List Component) (capturing : Bool) :
    (d.enclose cs capturing).sheet =
      d.sheet.compose (Component.renderAll cs) (if capturing then .group else .nonCapturingGroup) := by
  rw [enclose, sheet_push, Component.render]
  cases capturing <;> rfl

theorem sheet_alternate (d : Draft) (cs : List Component) :
    (d.alternate cs).sheet = d.sheet.compose (Component.renderAll cs) .alternative := by
  have text := d.render_alternate cs
  simp only [List.append_assoc] at text
  simp only [sheet, Sheet.compose, text, List.append_assoc]
  rfl

/-- The suffix of a repetition comes last on the sheet, for it belongs to the last component. -/
theorem sheet_repeatLast (d : Draft) (operation : String) (q : Quantifier) :
    (Progress.repeated operation (d.repeatLast operation q)).onSheet =
      .ofExcept d.sheet (d.sheet.repeatLast operation q) := by
  rcases List.eq_nil_or_concat d.components with empty | ⟨before, last, split⟩
  · have none : d.sheet.count = 0 := by simp [sheet, empty]
    rw [repeatLast_nil empty, Sheet.repeatLast, if_pos none]
    rfl
  · rw [List.concat_eq_append] at split
    have some : d.sheet.count ≠ 0 := by simp [sheet, split]
    have written : ({ d with components := before ++ [.quantified last q] } : Draft).sheet = d.sheet.suffixed q := by
      simp [sheet, Sheet.suffixed, render, split, Component.renderAll, Component.render]
    rw [repeatLast_append split, Sheet.repeatLast, if_neg some, Sheet.Progress.ofExcept, ← written]
    rfl

theorem sheet_repeatAs (d : Draft) (request : Quantifier.Request) :
    (Progress.repeated request.operation (d.repeatAs request)).onSheet =
      .ofExcept d.sheet (d.sheet.repeatAs request) := by
  by_cases empty : d.components = []
  · have none : d.sheet.count = 0 := by simp [sheet, empty]
    rw [repeatAs_nil empty, Sheet.repeatAs, if_pos none]
    rfl
  · have some : d.sheet.count ≠ 0 := by simpa [sheet] using empty
    rw [repeatAs_of_ne_nil empty, Sheet.repeatAs, if_neg some]
    cases built : request.build with
    | error e => rfl
    | ok q =>
      have asked := sheet_repeatLast d request.operation q
      rw [Sheet.repeatLast, if_neg some] at asked
      exact asked

end Draft

/-- A composition on a draft is the composition on its sheet. -/
private theorem onSheet_composed (d : Draft) (composition : Composition) (child : Progress) :
    (Progress.composed d composition child).onSheet =
      match child.onSheet.failure with
      | some e => .failed d.sheet e (some child.onSheet.notes)
      | none => .done (d.sheet.compose child.onSheet.sheet.text composition) (some child.onSheet.notes) := by
  obtain ⟨made, entries, log, failure⟩ := child
  cases failure with
  | some e => rfl
  | none =>
    have text : made.render = Component.renderAll made.components := made.render_eq_renderAll
    show _ = Sheet.Progress.done (d.sheet.compose made.render composition) (some (Entry.notes entries))
    rw [text]
    cases composition with
    | group =>
      have grouped := d.sheet_enclose made.components true
      rw [if_pos rfl] at grouped
      rw [← grouped]
      rfl
    | nonCapturingGroup =>
      have grouped := d.sheet_enclose made.components false
      rw [if_neg Bool.false_ne_true] at grouped
      rw [← grouped]
      rfl
    | alternative =>
      rw [← d.sheet_alternate made.components]
      rfl

namespace Command

mutual

/-- A command does to the sheet of a draft what it does to the draft, by the structure of the command. -/
private theorem run_onSheet (engine : Engine) (c : Command) (d : Draft) (uncompiled : c.isUncompiled = true) :
    (c.run engine d).onSheet = d.sheet.run c := by
  cases c with
  | push recipe =>
    rw [run, Sheet.run]
    cases made : recipe.build with
    | ok c =>
      have pushed := d.sheet_push c
      rw [Except.map, Sheet.Progress.ofExcept, ← pushed]
      rfl
    | error e => rfl
  | repeatLast request => exact d.sheet_repeatAs request
  | quantify request =>
    rw [run, Sheet.run]
    cases made : request.build with
    | ok q => exact d.sheet_repeatLast "quantify" q
    | error e => rfl
  | compose composition body =>
    have child := runAll_onSheet engine body {} uncompiled
    rw [Draft.sheet_empty] at child
    rw [run, Sheet.run, onSheet_composed, child]
  | attempt command =>
    have inner := run_onSheet engine command d uncompiled
    rw [run, Sheet.run, ← inner]
    rfl
  | addFlags flags => rfl
  | setLimits limits => rfl
  | raise error => rfl
  | render => rfl
  | inspect => rfl
  | components => rfl
  | compile questions => simp [isUncompiled] at uncompiled
  | ask question => simp [isUncompiled] at uncompiled

private theorem runAll_onSheet (engine : Engine) (script : List Command) (d : Draft)
    (uncompiled : areUncompiled script = true) :
    (runAll engine d script).onSheet = d.sheet.runAll script := by
  cases script with
  | nil => rfl
  | cons c cs =>
    have parts : c.isUncompiled = true ∧ areUncompiled cs = true := by simpa [areUncompiled] using uncompiled
    have first := run_onSheet engine c d parts.1
    have failure : (d.sheet.run c).failure = (run engine d c).failure := by rw [← first]; rfl
    rw [runAll, Sheet.runAll, failure]
    cases passes : (run engine d c).failure with
    | some e => exact first
    | none =>
      have rest := runAll_onSheet engine cs (run engine d c).draft parts.2
      have left : (d.sheet.run c).sheet = (run engine d c).draft.sheet := by rw [← first]; rfl
      dsimp only
      rw [left, ← rest, ← first]
      simp [Progress.onSheet, Entry.notes_append]

end

/-- A script that compiles nothing writes the same on a draft and on a plain sheet: after every command, at any
depth, the text of the draft is the one on the sheet, it has as many components as the sheet counts, and the
command has ended in the same way. In particular this holds of a script that begins with nothing. -/
theorem script_writes_like_on_sheet (engine : Engine) (script : List Command)
    (uncompiled : areUncompiled script = true) :
    (∀ d : Draft, (runAll engine d script).onSheet = d.sheet.runAll script) ∧
      (runAll engine {} script).onSheet = Sheet.blank.runAll script :=
  ⟨fun d => runAll_onSheet engine script d uncompiled, runAll_onSheet engine script {} uncompiled⟩

/-- A group and an alternative around failures that are caught: nothing to repeat, inverted bounds, and a script
that has written something before it fails. -/
def caughtFailures : List Command :=
  [.attempt (.repeatLast (.between 3 2)), .push (.literal ['a', '.']), .repeatLast .oneOrMore,
    .attempt (.repeatLast (.between 3 2)),
    .compose .group
      [.push .letters, .attempt (.compose .alternative [.push .wordBoundary, .compose .group [.quantify .optional]]),
        .compose .alternative [.push (.shorthand .digit)]],
    .addFlags (.of .sticky), .compose .alternative [.push (.set ['-'] true), .quantify (.atLeast 2)],
    .repeatLast .optional]

theorem caughtFailures_on_sheet :
    areUncompiled caughtFailures = true ∧
      (runAll Regex.build {} caughtFailures).onSheet = Sheet.blank.runAll caughtFailures ∧
      (Sheet.blank.runAll caughtFailures).sheet =
        ⟨"(?:a\\.+((?:[a-zA-Z]+)|(?:\\d)))|(?:[^\\-]\x7b2,\x7d)?".toList, 1⟩ := by
  have uncompiled : areUncompiled caughtFailures = true := rfl
  refine ⟨uncompiled, (script_writes_like_on_sheet Regex.build caughtFailures uncompiled).2, ?_⟩
  have text : (Sheet.blank.runAll caughtFailures).sheet.text =
      "(?:a\\.+((?:[a-zA-Z]+)|(?:\\d)))|(?:[^\\-]\x7b2,\x7d)?".toList := by decide
  have count : (Sheet.blank.runAll caughtFailures).sheet.count = 1 := by decide
  rw [← text, ← count]

end Command

end PatternKit
