import PatternKit.Draft.Script

/-!
Sessions: several drafts side by side, one of which is the current one. A command that fails does not end
a session.
-/

set_option autoImplicit false

namespace PatternKit

/-- An operation in a session. -/
inductive SessionCommand where
  /-- Runs a command on the current draft. -/
  | run (command : Command)
  /-- Copies the current draft into a new slot. -/
  | duplicate
  /-- Makes the draft in a slot the current one. -/
  | use (slot : Nat)
  /-- Appends the components of the draft in a slot to the current draft. -/
  | append (slot : Nat)

/-- The drafts of a session, and the number of the current one. -/
structure Session where
  slots : List Draft
  current : Nat

/-- What a session command answers. -/
inductive SessionReply where
  | entry (entry : Entry)
  | slot (slot : Nat)
  | appended

namespace Session

/-- A session with one draft. -/
def start (draft : Draft) : Session := ⟨[draft], 0⟩

/-- The current draft. -/
def draft (s : Session) : Draft := s.slots.getD s.current {}

/-- The session with another current draft. -/
def setDraft (s : Session) (d : Draft) : Session := { s with slots := s.slots.set s.current d }

/-- Runs a session command, unless it names a slot that does not exist. -/
def step (engine : Engine) (s : Session) :
    SessionCommand → Option (Session × List SessionReply × List LogEvent)
  | .run command =>
    let p := command.run engine s.draft
    some (s.setDraft p.draft, p.entries.map .entry, p.log)
  | .duplicate => some ({ s with slots := s.slots ++ [s.draft] }, [.slot s.slots.length], [])
  | .use slot =>
    if slot < s.slots.length then some ({ s with current := slot }, [.slot slot], []) else none
  | .append slot =>
    (s.slots[slot]?).map fun other =>
      (s.setDraft (other.components.foldl Draft.push s.draft), [.appended], [])

end Session

end PatternKit
