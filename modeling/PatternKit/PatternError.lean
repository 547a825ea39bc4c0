import PatternKit.Flags
import PatternKit.Limits
import PatternKit.Issue

/-!
What can go wrong when a pattern is written, compiled or used.
-/

set_option autoImplicit false

namespace PatternKit

/-- A failed operation on a pattern. -/
inductive PatternError where
  /-- A quantifier was asked for when there was nothing to repeat. -/
  | emptyPattern (operation : String)
  /-- The pattern text has faults. -/
  | invalidPattern (pattern : Text) (issues : List Issue)
  /-- The operation needs an option that is not set. -/
  | missingOption (operation : String) (option : Flags)
  /-- A quantifier with more repetitions at least than at most. -/
  | invertedBounds (min max : Nat)
  /-- The limits do not allow any pattern. -/
  | limits (error : LimitError)
deriving DecidableEq, Repr

namespace PatternError

/-- The faults of the pattern, in the order in which they were found. -/
def issueDescriptions : PatternError → List String
  | .invalidPattern _ issues => issues.map Issue.message
  | _ => []

/-- The error in words. -/
def message : PatternError → String
  | .emptyPattern operation => "cannot apply quantifier '" ++ operation ++ "' to an empty pattern"
  | .invalidPattern pattern issues =>
    "invalid regex pattern '" ++ String.ofList pattern ++ "': " ++
      String.intercalate ", " (issues.map Issue.message)
  | .missingOption operation option =>
    operation ++ " requires the " ++ option.describe ++ " option; enable it before calling " ++ operation
  | .invertedBounds min max =>
    "quantifier bounds are inverted: min " ++ toString min ++ " is greater than max " ++ toString max
  | .limits error => error.message

end PatternError

end PatternKit
