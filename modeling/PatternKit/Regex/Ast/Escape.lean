import PatternKit.Regex.Ast
import PatternKit.Regex.Reader

/-!
Escape sequences: a backslash and what it says together with the characters after it.
-/

set_option autoImplicit false

namespace PatternKit.Regex.Escape

open Reader (fail)

/-- Characters that have a meaning in pattern text. -/
def metas : List Char :=
  ['\\', '.', '+', '*', '?', '(', ')', '|', '[', ']', '{', '}', '^', '$', '#', '&', '-', '~']

/-- Whether a backslash before a character only takes its meaning away. -/
def isEscapable (c : Char) : Bool :=
  c.toNat < 0x80 && !c.isAlphanum && c != '<' && c != '>'

/-- The character with a code, if there is one. -/
def scalar? (n : Nat) : Option Char := if n.isValidChar then some (Char.ofNat n) else none

/-- Reads `n` hexadecimal digits. -/
def hexDigits (stop : Nat) : Nat → Nat → List (Nat × Char) →
    Except Diagnosis (Nat × List (Nat × Char))
  | 0, value, vs => .ok (value, vs)
  | _ + 1, _, [] => fail .escapeUnfinished ⟨stop, stop⟩
  | n + 1, value, (p, c) :: vs =>
    match CharSet.hexValue? c with
    | none => fail .escapeHexInvalidDigit ⟨p, p + 1⟩
    | some d => hexDigits stop n (value * 16 + d) vs

/-- Reads hexadecimal digits up to a closing brace, whose offset is part of the answer. -/
def hexUntilBrace (brace stop : Nat) : Option Nat → List (Nat × Char) →
    Except Diagnosis (Option Nat × Nat × List (Nat × Char))
  | _, [] => fail .escapeUnfinished ⟨brace, stop⟩
  | value, (p, c) :: vs =>
    if c = '}' then .ok (value, p, vs)
    else
      match CharSet.hexValue? c with
      | none => fail .escapeHexInvalidDigit ⟨p, p + 1⟩
      | some d => hexUntilBrace brace stop (some (value.getD 0 * 16 + d)) vs

/-- Reads a character written as a number: `digits` hexadecimal digits, or any number of them in braces.
`start` is the offset of the backslash, and the reader stands behind the letter. -/
def hex (extended : Bool) (start digits : Nat) (r : Reader) : Except Diagnosis (Ast × Reader) :=
  match r.visible extended with
  | [] => fail .escapeUnfinished ⟨r.stop, r.stop⟩
  | (p, c) :: vs =>
    if c = '{' then do
      let (value, close, after) ← hexUntilBrace p r.stop none vs
      let stop := r.offsetOf after
      match value with
      | none => fail .escapeHexEmpty ⟨p, stop⟩
      | some n =>
        match scalar? n with
        | none => fail .escapeHexInvalid ⟨p + 1, close⟩
        | some ch => return (.literal ⟨⟨start, stop⟩, ch, false⟩, r.moveTo stop)
    else do
      let (n, after) ← hexDigits r.stop digits 0 ((p, c) :: vs)
      let stop := r.offsetOf after
      match scalar? n with
      | none => fail .escapeHexInvalid ⟨p, stop⟩
      | some ch => return (.literal ⟨⟨start, stop⟩, ch, digits == 2⟩, r.moveTo stop)

/-- The first place where two characters stand next to each other, as the text before and after. -/
def splitPair (a b : Char) : Text → Option (Text × Text)
  | [] => none
  | c :: cs =>
    match cs with
    | d :: ds =>
      if c = a && d = b then some ([], ds)
      else (splitPair a b cs).map fun (l, r) => (c :: l, r)
    | [] => none

/-- The first place where a character stands, as the text before and after. -/
def splitFirst (a : Char) : Text → Option (Text × Text)
  | [] => none
  | c :: cs => if c = a then some ([], cs) else (splitFirst a cs).map fun (l, r) => (c :: l, r)

/-- The query that stands between the braces of a property, and whether it asks for the characters that
do not have the value: `!=` is looked for first, then `:`, then `=`. -/
def query (t : Text) : PropertyQuery × Bool :=
  match splitPair '!' '=' t with
  | some (name, value) => (.valued name value, true)
  | none =>
    match (splitFirst ':' t).or (splitFirst '=' t) with
    | some (name, value) => (.valued name value, false)
    | none => (.name t, false)

/-- Reads a property of characters: one letter, or a query in braces. The upper case letter and `!=` each
turn it round, so both together do not. -/
def property (extended : Bool) (start : Nat) (negated : Bool) (r : Reader) :
    Except Diagnosis (Ast × Reader) :=
  match r.visible extended with
  | [] => fail .escapeUnfinished ⟨r.stop, r.stop⟩
  | (p, c) :: vs =>
    if c = '{' then
      match vs.dropWhile (·.2 != '}') with
      | [] => fail .escapeUnfinished ⟨r.stop, r.stop⟩
      | (close, _) :: _ =>
        let (asked, differs) := query ((vs.takeWhile (·.2 != '}')).map (·.2))
        .ok (.property ⟨start, close + 1⟩ (negated != differs) asked, r.moveTo (close + 1))
    else if c = '\\' then fail .propertyInvalid ⟨p, p + 1⟩
    else
      let stop := r.offsetOf vs
      .ok (.property ⟨start, stop⟩ negated (.name [c]), r.moveTo stop)

/-- The word boundary with a name. -/
def namedBoundary? (name : Text) : Option Assertion :=
  match String.ofList name with
  | "start" => some .wordStart
  | "end" => some .wordEnd
  | "start-half" => some .wordStartHalf
  | "end-half" => some .wordEndHalf
  | _ => none

/-- Characters of the names of word boundaries. -/
def isBoundaryChar (c : Char) : Bool := c.isAlpha || c == '-'

/-- Reads a word boundary; the reader stands behind the letter. A brace that does not open a name is left
to be read as a repetition. -/
def wordBoundary (extended : Bool) (start : Nat) (r : Reader) : Except Diagnosis (Ast × Reader) :=
  let plain : Ast × Reader := (.assertion ⟨start, r.pos⟩ .wordBoundary, r)
  match r.rest with
  | '{' :: _ =>
    match (r.advance 1).visible extended with
    | [] => fail .wordBoundaryUnfinished ⟨start, r.stop⟩
    | (p, c) :: vs =>
      if !isBoundaryChar c then .ok plain
      else
        let name := ((p, c) :: vs).takeWhile fun v => isBoundaryChar v.2
        match ((p, c) :: vs).dropWhile fun v => isBoundaryChar v.2 with
        | [] => fail .wordBoundaryUnclosed ⟨r.pos, r.stop⟩
        | (close, d) :: _ =>
          if d = '}' then
            match namedBoundary? (name.map (·.2)) with
            | none => fail .wordBoundaryUnrecognized ⟨p, close⟩
            | some kind => .ok (.assertion ⟨start, close + 1⟩ kind, r.moveTo (close + 1))
          else fail .wordBoundaryUnclosed ⟨r.pos, close⟩
  | _ => .ok plain

/-- Control characters and assertions with a letter of their own. -/
def letter? (span : Span) (c : Char) : Option Ast :=
  let special (n : Nat) : Option Ast := some (.literal ⟨span, Char.ofNat n, false⟩)
  let assertion (kind : Assertion) : Option Ast := some (.assertion span kind)
  match c with
  | 'a' => special 0x07
  | 'f' => special 0x0c
  | 't' => special 0x09
  | 'n' => special 0x0a
  | 'r' => special 0x0d
  | 'v' => special 0x0b
  | 'A' => assertion .startText
  | 'z' => assertion .endText
  | 'B' => assertion .notWordBoundary
  | '<' => assertion .wordStart
  | '>' => assertion .wordEnd
  | _ => none

/-- The class with a letter, and whether it is negated. -/
def perl? (c : Char) : Option (PerlClass × Bool) :=
  match c with
  | 'd' => some (.digit, false)
  | 'D' => some (.digit, true)
  | 's' => some (.space, false)
  | 'S' => some (.space, true)
  | 'w' => some (.word, false)
  | 'W' => some (.word, true)
  | _ => none

/-- Reads an escape sequence; the reader stands before the backslash. -/
def read (extended : Bool) (r : Reader) : Except Diagnosis (Ast × Reader) :=
  let start := r.pos
  let span : Span := ⟨start, start + 2⟩
  let after := r.advance 2
  match r.rest with
  | _ :: c :: _ =>
    if c.isDigit then fail .backreference span
    else if c = 'x' then hex extended start 2 after
    else if c = 'u' then hex extended start 4 after
    else if c = 'U' then hex extended start 8 after
    else if c = 'p' || c = 'P' then property extended start (c == 'P') after
    else if c = 'b' then wordBoundary extended start after
    else
      match perl? c with
      | some (kind, negated) => .ok (.perl span negated kind, after)
      | none =>
        if metas.contains c || isEscapable c then .ok (.literal ⟨span, c, false⟩, after)
        else
          match letter? span c with
          | some a => .ok (a, after)
          | none => fail .escapeUnrecognized span
  | _ => fail .escapeUnfinished ⟨start, r.stop⟩

end PatternKit.Regex.Escape
