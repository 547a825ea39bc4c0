import PatternKit.Text

/-!
What is logged while patterns are written and compiled.
-/

set_option autoImplicit false

namespace PatternKit

/-- An entry of the log. -/
inductive LogEvent where
  /-- Compilation begins. -/
  | compileSpan (components : Nat) (flags : Text)
  /-- The checks of a text of so many bytes begin. -/
  | validateSpan (bytes : Nat)
  /-- A component has been repeated. -/
  | quantified (operation : String) (suffix : Text)
  /-- Two sequences of components have become alternatives. -/
  | alternated (left right : Nat)
  /-- The engine has refused a text. -/
  | engineRejected (pattern : Text)
  /-- A text has failed the checks after the engine. -/
  | structuralChecksFailed (pattern : Text) (issues : Nat)
deriving DecidableEq, Repr

/-- The severity of an entry. -/
inductive LogLevel where
  | trace
  | debug
deriving DecidableEq, Repr

namespace LogEvent

/-- The severity of an entry: refusals are for debugging, all else is for tracing. -/
def level : LogEvent → LogLevel
  | .engineRejected _ | .structuralChecksFailed .. => .debug
  | .compileSpan .. | .validateSpan _ | .quantified .. | .alternated .. => .trace

end LogEvent

/-- A result with what has been logged on the way to it. -/
structure Logged (α : Type) where
  result : α
  log : List LogEvent

end PatternKit
