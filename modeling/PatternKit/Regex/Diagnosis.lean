import PatternKit.Span
import PatternKit.Text

/-!
Faults in the grammar of pattern text, and the report that shows where in the text they are: the lines
of the text, each followed by a line that marks the places with `^`.
-/

set_option autoImplicit false

namespace PatternKit.Regex

/-- What is wrong with a pattern text. -/
inductive Fault where
  | classEscapeInvalid
  | classRangeInvalid
  | classRangeLiteral
  | classUnclosed
  | decimalInvalid
  | escapeHexEmpty
  | escapeHexInvalid
  | escapeHexInvalidDigit
  | escapeUnfinished
  | escapeUnrecognized
  | flagDanglingNegation
  | flagDuplicate
  | flagRepeatedNegation
  | flagUnfinished
  | flagUnrecognized
  | groupNameDuplicate
  | groupNameEmpty
  | groupNameInvalid
  | groupNameUnclosed
  | groupUnclosed
  | groupUnopened
  | nestLimitExceeded (limit : Nat)
  | repetitionCountInvalid
  | repetitionCountEmpty
  | repetitionCountUnclosed
  | repetitionMissing
  | wordBoundaryUnclosed
  | wordBoundaryUnrecognized
  | wordBoundaryUnfinished
  | propertyInvalid
  | backreference
  | lookAround
  | unicodeNotAllowed
  | invalidUtf8
  | propertyNotFound
  | propertyValueNotFound
deriving DecidableEq, Repr

namespace Fault

/-- The fault in words. -/
def message : Fault → String
  | .classEscapeInvalid => "invalid escape sequence found in character class"
  | .classRangeInvalid => "invalid character class range, the start must be <= the end"
  | .classRangeLiteral => "invalid range boundary, must be a literal"
  | .classUnclosed => "unclosed character class"
  | .decimalInvalid => "decimal literal invalid"
  | .escapeHexEmpty => "hexadecimal literal empty"
  | .escapeHexInvalid => "hexadecimal literal is not a Unicode scalar value"
  | .escapeHexInvalidDigit => "invalid hexadecimal digit"
  | .escapeUnfinished => "incomplete escape sequence, reached end of pattern prematurely"
  | .escapeUnrecognized => "unrecognized escape sequence"
  | .flagDanglingNegation => "dangling flag negation operator"
  | .flagDuplicate => "duplicate flag"
  | .flagRepeatedNegation => "flag negation operator repeated"
  | .flagUnfinished => "expected flag but got end of regex"
  | .flagUnrecognized => "unrecognized flag"
  | .groupNameDuplicate => "duplicate capture group name"
  | .groupNameEmpty => "empty capture group name"
  | .groupNameInvalid => "invalid capture group character"
  | .groupNameUnclosed => "unclosed capture group name"
  | .groupUnclosed => "unclosed group"
  | .groupUnopened => "unopened group"
  | .nestLimitExceeded limit =>
    "exceed the maximum number of nested parentheses/brackets (" ++ toString limit ++ ")"
  | .repetitionCountInvalid =>
    "invalid repetition count range, the start must be <= the end"
  | .repetitionCountEmpty => "repetition quantifier expects a valid decimal"
  | .repetitionCountUnclosed => "unclosed counted repetition"
  | .repetitionMissing => "repetition operator missing expression"
  | .wordBoundaryUnclosed =>
    "special word boundary assertion is either unclosed or contains an invalid character"
  | .wordBoundaryUnrecognized =>
    "unrecognized special word boundary assertion, valid choices are: " ++
      "start, end, start-half or end-half"
  | .wordBoundaryUnfinished =>
    "found either the beginning of a special word boundary or a bounded repetition " ++
      "on a \\b with an opening brace, but no closing brace"
  | .propertyInvalid => "invalid Unicode character class"
  | .backreference => "backreferences are not supported"
  | .lookAround => "look-around, including look-ahead and look-behind, is not supported"
  | .unicodeNotAllowed => "Unicode not allowed here"
  | .invalidUtf8 => "pattern can match invalid UTF-8"
  | .propertyNotFound => "Unicode property not found"
  | .propertyValueNotFound => "Unicode property value not found"

end Fault

/-- A fault, the place where it is, and the place of what it clashes with, if it does. Places are counted
in characters. -/
structure Diagnosis where
  fault : Fault
  place : Span
  clash : Option Span := none
deriving DecidableEq, Repr

namespace Diagnosis

/-- A line number and a column number, both from one. -/
structure Spot where
  line : Nat
  column : Nat
deriving DecidableEq

/-- The line and column of an offset. -/
def spotOf (offset : Nat) (text : Text) : Spot :=
  (text.take offset).foldl (fun s c => if c = '\n' then ⟨s.line + 1, 1⟩ else ⟨s.line, s.column + 1⟩)
    ⟨1, 1⟩

/-- Drops a carriage return at the end of a line. -/
def dropReturn (line : Text) : Text :=
  if line.getLast? = some '\r' then line.dropLast else line

/-- The lines of a text, without their ends. An empty line after the last line end is not one. -/
def linesOf (text : Text) : List Text :=
  let parts := Text.splitAt '\n' text
  let last := parts.getLastD []
  parts.dropLast.map dropReturn ++ (if last.isEmpty then [] else [last])

/-- `n` times the character `c`. -/
def times (n : Nat) (c : Char) : Text := List.replicate n c

/-- Marks below a line: `column` is the first column that has not been written yet. -/
def marks (column : Nat) : List (Spot × Spot) → Text
  | [] => []
  | (a, b) :: more =>
    let width := max 1 (b.column - a.column)
    times (a.column - column) ' ' ++ times width '^' ++ marks (max column a.column + width) more

/-- The places of a diagnosis, the first one first. -/
def places (d : Diagnosis) : List Span :=
  match d.clash with
  | none => [d.place]
  | some c =>
    if c.start < d.place.start || (c.start = d.place.start && c.stop ≤ d.place.stop) then [c, d.place]
    else [d.place, c]

/-- The numbered lines with their marks. -/
def notate (width : Nat) (spots : List (Spot × Spot)) : Nat → List Text → Text
  | _, [] => []
  | n, line :: more =>
    let number := Text.ofNat n
    let margin :=
      if width = 0 then times 4 ' ' else times (width - number.length) ' ' ++ number ++ [':', ' ']
    let here := spots.filter fun s => s.1.line = n && s.2.line = n
    let below :=
      if here.isEmpty then []
      else times (if width = 0 then 4 else width + 2) ' ' ++ marks 1 here ++ ['\n']
    margin ++ line ++ ['\n'] ++ below ++ notate width spots (n + 1) more

/-- The notice about a place that covers several lines. -/
def acrossLines (s : Spot × Spot) : Text :=
  ("on line " ++ toString s.1.line ++ " (column " ++ toString s.1.column ++ ") through line " ++
    toString s.2.line ++ " (column " ++ toString (s.2.column - 1) ++ ")").toList

/-- The full report on a pattern text. -/
def report (d : Diagnosis) (text : Text) : String :=
  let lines := linesOf text
  let count := lines.length + (if text.getLast? = some '\n' then 1 else 0)
  let width := if count ≤ 1 then 0 else (Text.ofNat count).length
  let spots := d.places.map fun p => (spotOf p.start text, spotOf p.stop text)
  let notated := notate width spots 1 lines
  let wide := spots.filter fun s => s.1.line ≠ s.2.line
  let divider := times 79 '~' ++ ['\n']
  let body :=
    if '\n' ∈ text then
      divider ++ notated ++ divider ++
        (if wide.isEmpty then [] else Text.join ['\n'] (wide.map acrossLines) ++ ['\n'])
    else notated
  "regex parse error:\n" ++ String.ofList body ++ "error: " ++ d.fault.message

end Diagnosis

end PatternKit.Regex
