import PatternKit.Regex.Ast.Bracket
import PatternKit.Regex.Ast.Group
import PatternKit.Regex.Ast.Repetition

/-!
The structure of a pattern text, read from left to right. A group is read by a call of its own, so that
the options set in it end with it.
-/

set_option autoImplicit false

namespace PatternKit.Regex.Ast

open Reader (fail)

/-- The items of a sequence, the last one first, as one node. -/
def ofItems (span : Span) (items : List Ast) : Ast :=
  match items with
  | [] => .empty span
  | [a] => a
  | _ => .concat span items.reverse

/-- A sequence in the making. -/
structure Pending where
  /-- The branches before this one, the last one first. -/
  branches : List Ast := []
  /-- Where the first branch begins. -/
  start : Nat
  /-- Where this branch begins. -/
  branchStart : Nat
  /-- The items of this branch, the last one first. -/
  items : List Ast := []

namespace Pending

/-- A sequence that begins at an offset. -/
def from_ (pos : Nat) : Pending := { start := pos, branchStart := pos }

/-- Adds an item. -/
def push (d : Pending) (a : Ast) : Pending := { d with items := a :: d.items }

/-- Ends a branch at an offset, where a `|` stands. -/
def endBranch (d : Pending) (pos : Nat) : Pending :=
  { d with
    branches := ofItems ⟨d.branchStart, pos⟩ d.items :: d.branches
    branchStart := pos + 1
    items := [] }

/-- The node for everything read, up to an offset. -/
def finish (d : Pending) (pos : Nat) : Ast :=
  let last := ofItems ⟨d.branchStart, pos⟩ d.items
  match d.branches with
  | [] => last
  | _ => .alternation ⟨d.start, pos⟩ (d.branches.reverse ++ [last])

end Pending

/-- Reads a single character or escape sequence outside sets. -/
def primitive (extended : Bool) (c : Char) (r : Reader) : Except Diagnosis (Ast × Reader) :=
  match c with
  | '\\' => Escape.read extended r
  | '.' => .ok (.dot r.charSpan, r.advance 1)
  | '^' => .ok (.assertion r.charSpan .startLine, r.advance 1)
  | '$' => .ok (.assertion r.charSpan .endLine, r.advance 1)
  | c => .ok (.literal ⟨r.charSpan, c, false⟩, r.advance 1)

/-- Repeats the last item of a sequence. -/
def repeatLast (d : Pending) (r : Reader)
    (operator : Except Diagnosis (Repetition.Operator × Reader)) :
    Except Diagnosis (Pending × Reader) :=
  match Repetition.operand? d.items with
  | none => fail .repetitionMissing r.here
  | some (a, items) => do
    let (op, after) ← operator
    let node := Ast.repetition ⟨a.span.start, after.pos⟩ op.min op.max op.greedy a
    return ({ d with items := node :: items }, after)

/-- Reads a sequence up to the end of the group it stands in, and leaves the reader there. `fuel` bounds
the number of items, and `opened` is the place of the parenthesis of the group, if there is one. -/
def sequence : (fuel : Nat) → (opened : Option Span) → (extended : Bool) → GroupTable → Pending →
    Reader → Except Diagnosis (Ast × GroupTable × Reader)
  | 0, _, _, groups, d, r => .ok (d.finish r.pos, groups, r)
  | fuel + 1, opened, extended, groups, d, r => do
    let r := r.skip extended
    match r.rest with
    | [] =>
      match opened with
      | some place => fail .groupUnclosed place
      | none => return (d.finish r.pos, groups, r)
    | c :: _ =>
      if c = '(' then
        match ← Group.opening extended groups r with
        | (.flags span changes, after) =>
          let extended := (changes.state .extended).getD extended
          sequence fuel opened extended groups (d.push (.flags span changes)) after
        | (.group kind groups, inside) =>
          let within :=
            match kind with
            | .plain changes => (changes.state .extended).getD extended
            | .capturing .. => extended
          let (inner, groups, close) ←
            sequence fuel (some r.charSpan) within groups (.from_ inside.pos) inside
          let node := Ast.group ⟨r.pos, close.pos + 1⟩ kind inner
          sequence fuel opened extended groups (d.push node) (close.advance 1)
      else if c = ')' then
        match opened with
        | some _ => return (d.finish r.pos, groups, r)
        | none => fail .groupUnopened r.charSpan
      else if c = '|' then
        sequence fuel opened extended groups (d.endBranch r.pos) (r.advance 1)
      else if c = '[' then
        let (set, after) ← Bracket.read extended r
        sequence fuel opened extended groups (d.push set) after
      else if c = '{' then
        let (d, after) ← repeatLast d r (Repetition.counted extended r)
        sequence fuel opened extended groups d after
      else
        match Repetition.bounds? c with
        | some (min, max) =>
          let (d, after) ← repeatLast d r (.ok (Repetition.simple min max r))
          sequence fuel opened extended groups d after
        | none =>
          let (a, after) ← primitive extended c r
          sequence fuel opened extended groups (d.push a) after

/-- The structure of a text. Every item takes a character at least, so the length of the text bounds
their number. -/
def ofText (text : Text) : Except Diagnosis Ast := do
  let (a, _, _) ← sequence (text.length + 1) none false {} (.from_ 0) ⟨0, text⟩
  return a

end PatternKit.Regex.Ast
