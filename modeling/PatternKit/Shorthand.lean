import PatternKit.Text

/-!
Shorthands for classes of characters.
-/

set_option autoImplicit false

namespace PatternKit

/-- A class of characters with a token of its own. -/
inductive Shorthand where
  | digit
  | nonDigit
  | word
  | nonWord
  | whitespace
  | nonWhitespace
  | any
deriving DecidableEq, Repr

namespace Shorthand

/-- The shorthands in the order of their codes. -/
def all : List Shorthand := [.digit, .nonDigit, .word, .nonWord, .whitespace, .nonWhitespace, .any]

/-- The number of a shorthand. -/
def code : Shorthand → Nat
  | .digit => 0
  | .nonDigit => 1
  | .word => 2
  | .nonWord => 3
  | .whitespace => 4
  | .nonWhitespace => 5
  | .any => 6

/-- The name of a shorthand. -/
def name : Shorthand → String
  | .digit => "Digit"
  | .nonDigit => "NonDigit"
  | .word => "Word"
  | .nonWord => "NonWord"
  | .whitespace => "Whitespace"
  | .nonWhitespace => "NonWhitespace"
  | .any => "Any"

/-- The token of a shorthand in pattern text. -/
def token : Shorthand → Text
  | .digit => ['\\', 'd']
  | .nonDigit => ['\\', 'D']
  | .word => ['\\', 'w']
  | .nonWord => ['\\', 'W']
  | .whitespace => ['\\', 's']
  | .nonWhitespace => ['\\', 'S']
  | .any => ['.']

end Shorthand

end PatternKit
