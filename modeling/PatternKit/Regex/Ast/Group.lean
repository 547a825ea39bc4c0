import PatternKit.Regex.Ast
import PatternKit.Regex.Reader
import PatternKit.Unicode.Letter

/-!
The beginnings of groups: numbered, named and plain ones, and options in parentheses.
-/

set_option autoImplicit false

namespace PatternKit.Regex

/-- The capturing groups met so far. -/
structure GroupTable where
  count : Nat := 0
  /-- Names with the places where they stand. -/
  names : List (Text × Span) := []

namespace Group

open Reader (fail)

/-- What an opening parenthesis begins. -/
inductive Opening where
  /-- A group, with the number of groups and their names after it. -/
  | group (kind : GroupKind) (groups : GroupTable)
  /-- Options for what follows. -/
  | flags (span : Span) (changes : FlagChanges)

/-- Characters of group names. -/
def isNameChar (first : Bool) (c : Char) : Bool :=
  if first then c == '_' || Unicode.isAlphabetic c
  else c == '_' || c == '.' || c == '[' || c == ']' || Unicode.isAlphanumeric c

/-- Reads a name up to `>`; `taken` is its beginning, the last character first. -/
def nameChars (taken : Text) (pos : Nat) : Text → Except Diagnosis (Text × Nat)
  | [] => fail .groupNameUnclosed ⟨pos, pos⟩
  | c :: cs =>
    if c = '>' then .ok (taken.reverse, pos)
    else if isNameChar taken.isEmpty c then nameChars (c :: taken) (pos + 1) cs
    else fail .groupNameInvalid ⟨pos, pos + 1⟩

/-- Reads the name of a group; the reader stands behind the `<`. -/
def name (groups : GroupTable) (r : Reader) : Except Diagnosis (Opening × Reader) := do
  let (name, close) ← nameChars [] r.pos r.rest
  let span : Span := ⟨r.pos, close⟩
  if name.isEmpty then fail .groupNameEmpty r.here
  else
    match groups.names.lookup name with
    | some earlier => .error ⟨.groupNameDuplicate, span, some earlier⟩
    | none =>
      let index := groups.count + 1
      return (.group (.capturing index (some name)) ⟨index, (name, span) :: groups.names⟩,
        r.moveTo (close + 1))

/-- The option with a letter. -/
def flag? (c : Char) : Option InlineFlag :=
  match c with
  | 'i' => some .ignoreCase
  | 'm' => some .multiline
  | 's' => some .dotAll
  | 'U' => some .swapGreed
  | 'u' => some .unicode
  | 'R' => some .crlf
  | 'x' => some .extended
  | _ => none

/-- What has been read of a list of options. -/
structure FlagList where
  /-- The options with their places, the last one first. -/
  flags : List (InlineFlag × Bool × Span) := []
  /-- The place of the `-`. -/
  minus : Option Span := none
  /-- The place of the last item when it is a `-`. -/
  dangling : Option Span := none

/-- The changes that a list of options asks for. -/
def FlagList.changes (l : FlagList) : FlagChanges := l.flags.reverse.map fun (f, on, _) => (f, on)

/-- Reads options up to `:` or `)`, whose offset is part of the answer. -/
def flagChars (l : FlagList) (pos : Nat) : Text → Except Diagnosis (FlagList × Char × Nat)
  | [] => fail .flagUnfinished ⟨pos, pos⟩
  | c :: cs =>
    let place : Span := ⟨pos, pos + 1⟩
    if c = ':' || c = ')' then
      match l.dangling with
      | some minus => fail .flagDanglingNegation minus
      | none => .ok (l, c, pos)
    else if c = '-' then
      match l.minus with
      | some earlier => .error ⟨.flagRepeatedNegation, place, some earlier⟩
      | none => flagChars { l with minus := some place, dangling := some place } (pos + 1) cs
    else
      match flag? c with
      | none => fail .flagUnrecognized place
      | some f =>
        match l.flags.lookup f with
        | some (_, earlier) => .error ⟨.flagDuplicate, place, some earlier⟩
        | none =>
          flagChars { l with flags := (f, l.minus.isNone, place) :: l.flags, dangling := none }
            (pos + 1) cs

/-- Reads what follows `(?`; `opened` is the place of the parenthesis, and the reader stands behind the
question mark. -/
def flags (opened : Span) (groups : GroupTable) (r : Reader) : Except Diagnosis (Opening × Reader) := do
  if r.rest.isEmpty then fail .groupUnclosed opened
  else
    let (l, last, pos) ← flagChars {} r.pos r.rest
    let after := r.moveTo (pos + 1)
    if last = ':' then return (.group (.plain l.changes) groups, after)
    else if l.changes.isEmpty then fail .repetitionMissing ⟨r.pos - 1, r.pos - 1⟩
    else return (.flags ⟨opened.start, pos + 1⟩ l.changes, after)

/-- Reads the beginning of a group; the reader stands before its parenthesis. -/
def opening (extended : Bool) (groups : GroupTable) (r : Reader) :
    Except Diagnosis (Opening × Reader) :=
  let opened := r.charSpan
  let inside := (r.advance 1).skip extended
  let lookAround (n : Nat) : Except Diagnosis (Opening × Reader) :=
    fail .lookAround ⟨opened.start, inside.pos + n⟩
  match inside.rest with
  | '?' :: '=' :: _ | '?' :: '!' :: _ => lookAround 2
  | '?' :: '<' :: '=' :: _ | '?' :: '<' :: '!' :: _ => lookAround 3
  | '?' :: 'P' :: '<' :: _ => name groups (inside.advance 3)
  | '?' :: '<' :: _ => name groups (inside.advance 2)
  | '?' :: _ => flags opened groups (inside.advance 1)
  | _ =>
    let index := groups.count + 1
    .ok (.group (.capturing index none) { groups with count := index }, inside)

end Group

end PatternKit.Regex
