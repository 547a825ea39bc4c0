import PatternKit.Backtracking
import PatternKit.Balance
import PatternKit.Issue
import PatternKit.LogEvent
import PatternKit.Regex.Engine

/-!
Checks of pattern text before it is used. The engine comes first, and its refusal is final; text that it
accepts is checked for balance and against the backtracking policy. A text that fails is logged once.
-/

set_option autoImplicit false

namespace PatternKit

/-- An engine: builds a searcher for a pattern text, or says why it does not. -/
abbrev Engine := Limits → Regex.Switches → Text → Except String Searcher

namespace Validation

/-- The faults of a text that the engine accepts. -/
def structuralIssues (policy : BacktrackPolicy) (pattern : Text) : List Issue :=
  (if Balance.parentheses pattern then [] else [.unbalancedParentheses]) ++
    (if Balance.brackets pattern then [] else [.unbalancedBrackets]) ++
    (if Backtracking.refuses policy pattern then [.catastrophicBacktracking] else [])

/-- What is logged about structural faults. -/
def structuralLog (pattern : Text) (issues : List Issue) : List LogEvent :=
  if issues.isEmpty then [] else [.structuralChecksFailed pattern issues.length]

/-- The faults of a text. -/
def check (engine : Engine) (limits : Limits) (pattern : Text) : Logged (List Issue) :=
  match engine limits {} pattern with
  | .error reason =>
    ⟨[.engineRejected reason], [.validateSpan pattern.byteSize, .engineRejected pattern]⟩
  | .ok _ =>
    let issues := structuralIssues limits.policy pattern
    ⟨issues, .validateSpan pattern.byteSize :: structuralLog pattern issues⟩

end Validation

end PatternKit
