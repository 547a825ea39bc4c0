import PatternKit.Limits

/-!
Two heuristics against patterns that may backtrack badly. `hasSequentialRepetition` looks for two
repetition markers on one line, whatever stands around them; `hasNestedRepetition` looks for a repeated
group with an unbounded repetition inside, and passes over escapes and bracketed sets.
-/

set_option autoImplicit false

namespace PatternKit.Backtracking

/-- Characters that end a line. -/
def isLineBreak (c : Char) : Bool := c == '\n' || c == '\r' || c == '\u2028' || c == '\u2029'

/-- What follows the first closing brace. -/
def afterBrace? : Text → Option Text
  | [] => none
  | c :: cs => if c = '}' then some cs else afterBrace? cs

/-- What follows the repetition marker that starts with `c` and goes on in `cs`: a single `*` or `+`, or
everything from an opening brace to the first closing one. -/
def afterMarker? (c : Char) (cs : Text) : Option Text :=
  if c = '*' || c = '+' then some cs
  else if c = '{' then afterBrace? cs
  else none

/-- Whether a marker starts before the line ends. -/
def markerOnLine : Text → Bool
  | [] => false
  | c :: cs => (afterMarker? c cs).isSome || (!isLineBreak c && markerOnLine cs)

/-- Whether two markers follow each other with no line break between them. -/
def hasSequentialRepetition : Text → Bool
  | [] => false
  | c :: cs => ((afterMarker? c cs).any markerOnLine) || hasSequentialRepetition cs

/-- Reads what follows the opening brace of a counted repetition: a number, after a comma perhaps another
one, and the closing brace. The answer is what follows that brace, and whether the repetition is
unbounded. -/
def counted? (cs : Text) : Option (Text × Bool) :=
  match cs with
  | [] => none
  | c :: _ =>
    if c.isDigit then
      match cs.dropWhile Char.isDigit with
      | '}' :: rest => some (rest, false)
      | ',' :: more =>
        match more with
        | '}' :: rest => some (rest, true)
        | _ =>
          match more.dropWhile Char.isDigit with
          | '}' :: rest => some (rest, false)
          | _ => none
      | _ => none
    else none

/-- Whether a text starts with a repetition other than `?`. -/
def startsRepetition : Text → Bool
  | [] => false
  | c :: cs => c == '*' || c == '+' || (c == '{' && (counted? cs).isSome)

/-- Notes that the innermost open group repeats without bound. -/
def noteUnbounded : List Bool → List Bool
  | [] => []
  | _ :: outer => true :: outer

/-- The scan for nested repetitions. `open_` tells for each open group, the innermost first, whether an
unbounded repetition has been seen in it. -/
def nestedFrom (inSet : Bool) (open_ : List Bool) : Text → Bool
  | [] => false
  | c :: cs =>
    if c = '\\' then
      match cs with
      | [] => false
      | _ :: rest => nestedFrom inSet open_ rest
    else if inSet then nestedFrom (c != ']') open_ cs
    else if c = '[' then nestedFrom true open_ cs
    else if c = '(' then nestedFrom false (false :: open_) cs
    else if c = ')' then
      match open_ with
      | true :: outer => startsRepetition cs || nestedFrom false (noteUnbounded outer) cs
      | false :: outer => nestedFrom false outer cs
      | [] => nestedFrom false [] cs
    else if c = '*' || c = '+' then nestedFrom false (noteUnbounded open_) cs
    else if c = '{' && (counted? cs).any (·.2) then nestedFrom false (noteUnbounded open_) cs
    else nestedFrom false open_ cs

/-- Whether a repeated group holds an unbounded repetition. -/
def hasNestedRepetition (pattern : Text) : Bool := nestedFrom false [] pattern

/-- Whether a policy refuses a pattern. -/
def refuses : BacktrackPolicy → Text → Bool
  | .sequential, pattern => hasSequentialRepetition pattern
  | .nested, pattern => hasNestedRepetition pattern
  | .disabled, _ => false

end PatternKit.Backtracking
