import PatternKit.Draft.Compile

/-!
Scripts: programs of operations on a draft. Groups and alternatives are written by a script of their own
on a fresh draft, of which only the components are used. A command that fails ends the script it stands
in, unless it is attempted; what has been logged stays logged.
-/

set_option autoImplicit false

namespace PatternKit

/-- How the components of a script become part of a draft. -/
inductive Composition where
  | group
  | nonCapturingGroup
  | alternative
deriving DecidableEq, Repr

/-- An operation on a draft. -/
inductive Command where
  /-- Appends a component. -/
  | push (recipe : Recipe)
  | addFlags (flags : Flags)
  | setLimits (limits : Limits)
  /-- Repeats the last component. -/
  | repeatLast (request : Quantifier.Request)
  /-- Makes a quantifier, and repeats the last component with it. -/
  | quantify (request : Quantifier.Request)
  /-- Uses the components that a script makes. -/
  | compose (composition : Composition) (body : List Command)
  /-- Fails. -/
  | raise (error : PatternError)
  /-- Runs a command, and goes on when it fails. -/
  | attempt (command : Command)
  | render
  | inspect
  | components
  | compile (questions : List Question)
  | ask (question : Question)

/-- What a command that has not failed answers. -/
inductive Reply where
  | done
  | text (text : Text)
  | draft (draft : Draft)
  | components (components : List Component)
  | answer (answer : Answer)
  | answers (answers : List Answer)

/-- The record of a command: what came of it, the draft after it, and the records of the script inside
it. -/
inductive Entry where
  | mk (result : Except PatternError Reply) (draft : Draft) (body : Option (List Entry))

namespace Entry

/-- What came of the command. -/
def result : Entry → Except PatternError Reply
  | .mk r _ _ => r

/-- The draft after the command. -/
def draft : Entry → Draft
  | .mk _ d _ => d

/-- The records of the script inside the command. -/
def body : Entry → Option (List Entry)
  | .mk _ _ b => b

end Entry

/-- What has come of a script so far: the draft, the records, the log, and the error that ended it. -/
structure Progress where
  draft : Draft
  entries : List Entry
  log : List LogEvent
  failure : Option PatternError

namespace Progress

/-- A command that leaves a draft and a reply. -/
def done (draft : Draft) (reply : Reply) (log : List LogEvent)
    (body : Option (List Entry)) : Progress :=
  ⟨draft, [.mk (.ok reply) draft body], log, none⟩

/-- A command that fails, and the draft it leaves. -/
def failed (draft : Draft) (error : PatternError) (log : List LogEvent)
    (body : Option (List Entry)) : Progress :=
  ⟨draft, [.mk (.error error) draft body], log, some error⟩

/-- A command that only reads the draft. -/
def answered (draft : Draft) (reply : Logged (Except PatternError Reply)) : Progress :=
  match reply.result with
  | .ok r => done draft r reply.log none
  | .error e => failed draft e reply.log none

/-- A command that repeats the last component. -/
def repeated (operation : String) (outcome : Draft.Outcome Quantifier) : Progress :=
  match outcome.result with
  | .ok q => done outcome.draft .done [.quantified operation q.suffix] none
  | .error e => failed outcome.draft e [] none

/-- The components of a script become part of a draft. -/
def composed (draft : Draft) (composition : Composition) (child : Progress) : Progress :=
  let made := child.draft.components
  let body := some child.entries
  match child.failure with
  | some e => failed draft e child.log body
  | none =>
    match composition with
    | .group => done (draft.enclose made true) .done child.log body
    | .nonCapturingGroup => done (draft.enclose made false) .done child.log body
    | .alternative =>
      done (draft.alternate made) .done
        (child.log ++ [.alternated draft.components.length made.length]) body

end Progress

namespace Command

mutual

/-- Runs a command on a draft. -/
def run (engine : Engine) (d : Draft) : Command → Progress
  | .push recipe =>
    match recipe.build with
    | .ok c => .done (d.push c) .done [] none
    | .error e => .failed d e [] none
  | .addFlags flags => .done (d.addFlags flags) .done [] none
  | .setLimits limits => .done (d.setLimits limits) .done [] none
  | .repeatLast request => .repeated request.operation (d.repeatAs request)
  | .quantify request =>
    match request.build with
    | .ok q => .repeated "quantify" (d.repeatLast "quantify" q)
    | .error e => .failed d e [] none
  | .compose composition body => .composed d composition (runAll engine {} body)
  | .raise error => .failed d error [] none
  | .attempt command => { run engine d command with failure := none }
  | .render => .done d (.text d.render) [] none
  | .inspect => .done d (.draft d) [] none
  | .components => .done d (.components d.components) [] none
  | .compile questions =>
    let compiled := d.compile engine
    .answered d ⟨compiled.result.map fun m => .answers (questions.map m.answer), compiled.log⟩
  | .ask question =>
    let asked := d.ask engine question
    .answered d ⟨asked.result.map .answer, asked.log⟩

/-- Runs a script on a draft, up to its end or the first command that fails. -/
def runAll (engine : Engine) (d : Draft) : List Command → Progress
  | [] => ⟨d, [], [], none⟩
  | c :: cs =>
    let p := run engine d c
    match p.failure with
    | some _ => p
    | none =>
      let rest := runAll engine p.draft cs
      ⟨rest.draft, p.entries ++ rest.entries, p.log ++ rest.log, rest.failure⟩

end

end Command

end PatternKit
