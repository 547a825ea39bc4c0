import PatternKit.Text

/-!
Faults of a pattern text.
-/

set_option autoImplicit false

namespace PatternKit

/-- A fault found in pattern text. -/
inductive Issue where
  /-- The engine refused the text, for the reason it gave. -/
  | engineRejected (reason : String)
  | unbalancedParentheses
  | unbalancedBrackets
  | catastrophicBacktracking
deriving DecidableEq, Repr

namespace Issue

/-- The fault in words. -/
def message : Issue → String
  | .engineRejected reason => "Invalid regex syntax: " ++ reason
  | .unbalancedParentheses => "Unmatched parentheses detected"
  | .unbalancedBrackets => "Unmatched square brackets detected"
  | .catastrophicBacktracking => "Potential catastrophic backtracking detected"

end Issue

end PatternKit
