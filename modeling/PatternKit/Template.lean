import PatternKit.Searcher

/-!
Replacement texts. `$1`, `$name` and `${name}` stand for groups, and `$$` for a dollar sign; any other
dollar sign stands for itself.
-/

set_option autoImplicit false

namespace PatternKit

/-- A part of a replacement text. -/
inductive TemplatePart where
  | char (c : Char)
  | number (n : Nat)
  | name (name : Text)
deriving DecidableEq, Repr

namespace Template

/-- Characters of group names outside braces. -/
def isNameChar (c : Char) : Bool := c.isAlphanum || c == '_'

/-- The value of decimal digits, perhaps after a `+`, if it fits 64 bits. -/
def number? (t : Text) : Option Nat :=
  let digits :=
    match t with
    | '+' :: ds => ds
    | ds => ds
  if digits.isEmpty || !digits.all Char.isDigit then none
  else
    let n := digits.foldl (fun n d => n * 10 + (d.toNat - '0'.toNat)) 0
    if n < 0x10000000000000000 then some n else none

/-- A reference to a group, by number if it is one. -/
def reference (t : Text) : TemplatePart :=
  match number? t with
  | some n => .number n
  | none => .name t

/-- What a dollar sign means with the characters after it, and how many of these it takes. -/
def dollar? (cs : Text) : Option (TemplatePart × Nat) :=
  match cs with
  | '$' :: _ => some (.char '$', 1)
  | '{' :: more =>
    let name := more.takeWhile (· != '}')
    match more.drop name.length with
    | [] => none
    | _ :: _ => some (reference name, name.length + 2)
  | _ =>
    let name := cs.takeWhile isNameChar
    if name.isEmpty then none else some (reference name, name.length)

/-- The parts of a replacement text, after leaving out some characters. -/
def partsFrom : Nat → Text → List TemplatePart
  | _, [] => []
  | n + 1, _ :: cs => partsFrom n cs
  | 0, c :: cs =>
    if c = '$' then
      match dollar? cs with
      | some (part, taken) => part :: partsFrom taken cs
      | none => .char c :: partsFrom 0 cs
    else .char c :: partsFrom 0 cs

/-- The parts of a replacement text. -/
def parts (t : Text) : List TemplatePart := partsFrom 0 t

/-- The text of a group of a match; groups that do not exist or took no part are empty. -/
def groupText (haystack : Text) (m : Match) (n : Nat) : Text :=
  match m.group? n with
  | some s => s.textIn haystack
  | none => []

/-- What a part stands for. -/
def expandPart (s : Searcher) (haystack : Text) (m : Match) : TemplatePart → Text
  | .char c => [c]
  | .number n => groupText haystack m n
  | .name name =>
    match s.groupIndex? name with
    | some n => groupText haystack m n
    | none => []

/-- What a replacement text stands for at a match. -/
def expand (s : Searcher) (haystack template : Text) (m : Match) : Text :=
  (parts template).flatMap (expandPart s haystack m)

end Template

end PatternKit
