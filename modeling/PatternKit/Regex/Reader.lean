import PatternKit.Regex.Diagnosis
import PatternKit.Unicode.Blank

/-!
Reading pattern text. In extended text blanks and comments stand between the characters that count:
`skip` passes over them, and `visible` lists the characters that count with their offsets.
-/

set_option autoImplicit false

namespace PatternKit.Regex

open Unicode (isBlank)

/-- The rest of a pattern text, and the number of characters before it. -/
structure Reader where
  pos : Nat
  rest : Text
deriving DecidableEq, Repr

namespace Reader

/-- The offset of the end of the text. -/
def stop (r : Reader) : Nat := r.pos + r.rest.length

/-- The span of the next character. -/
def charSpan (r : Reader) : Span := ⟨r.pos, r.pos + 1⟩

/-- The empty span before the next character. -/
def here (r : Reader) : Span := ⟨r.pos, r.pos⟩

/-- The reader after `n` more characters. -/
def advance (r : Reader) (n : Nat) : Reader := ⟨r.pos + n, r.rest.drop n⟩

/-- The reader at a later offset. -/
def moveTo (r : Reader) (pos : Nat) : Reader := ⟨pos, r.rest.drop (pos - r.pos)⟩

/-- Passes over blanks and comments. -/
def skipBlanks (inComment : Bool) (pos : Nat) : Text → Reader
  | [] => ⟨pos, []⟩
  | c :: cs =>
    if inComment then skipBlanks (c != '\n') (pos + 1) cs
    else if isBlank c then skipBlanks false (pos + 1) cs
    else if c = '#' then skipBlanks true (pos + 1) cs
    else ⟨pos, c :: cs⟩

/-- Passes over blanks and comments in extended text. -/
def skip (extended : Bool) (r : Reader) : Reader :=
  if extended then skipBlanks false r.pos r.rest else r

@[simp] theorem skip_false (r : Reader) : r.skip false = r := rfl

/-- The characters outside blanks and comments, with their offsets. -/
def visibleFrom (inComment : Bool) (pos : Nat) : Text → List (Nat × Char)
  | [] => []
  | c :: cs =>
    if inComment then visibleFrom (c != '\n') (pos + 1) cs
    else if isBlank c then visibleFrom false (pos + 1) cs
    else if c = '#' then visibleFrom true (pos + 1) cs
    else (pos, c) :: visibleFrom false (pos + 1) cs

/-- All characters with their offsets. -/
def numberFrom (pos : Nat) : Text → List (Nat × Char)
  | [] => []
  | c :: cs => (pos, c) :: numberFrom (pos + 1) cs

/-- The characters that count, with their offsets. -/
def visible (extended : Bool) (r : Reader) : List (Nat × Char) :=
  if extended then visibleFrom false r.pos r.rest else numberFrom r.pos r.rest

/-- The offset of the first of some visible characters, or the end of the text. -/
def offsetOf (r : Reader) : List (Nat × Char) → Nat
  | [] => r.stop
  | (p, _) :: _ => p

/-- A failure with a fault at a place. -/
def fail {α : Type} (fault : Fault) (place : Span) : Except Diagnosis α := .error ⟨fault, place, none⟩

end Reader

end PatternKit.Regex
