import PatternKit.Regex.Program
import PatternKit.Unicode.Word
import Std.Data.HashSet

/-!
Runs of programs. Among the threads that wait, the one with the highest preference goes on; a thread that
comes to an address and offset where another has been before ends, for whatever it could find has been
tried. So the first thread that comes to the end of the program is the preferred match.
-/

set_option autoImplicit false

namespace PatternKit.Regex

/-- A place in a text: the character before it, its offset in bytes, and the text behind it. -/
structure Cursor where
  before : Option Char
  offset : Nat
  rest : Text

namespace Cursor

/-- The place before a text. -/
def first (text : Text) : Cursor := ⟨none, 0, text⟩

/-- The first place of a text that is not before an offset. -/
def seek (offset : Nat) (before : Option Char) (passed : Nat) : Text → Option Cursor
  | [] => if offset ≤ passed then some ⟨before, passed, []⟩ else none
  | c :: cs =>
    if offset ≤ passed then some ⟨before, passed, c :: cs⟩
    else seek offset (some c) (passed + c.utf8Size) cs

/-- The first place of a text that is not before an offset. -/
def at? (text : Text) (offset : Nat) : Option Cursor := seek offset none 0 text

end Cursor

/-- Whether a character belongs to words, of ASCII or of Unicode. -/
def inWord (ascii : Bool) (c : Option Char) : Bool :=
  match c with
  | none => false
  | some c => if ascii then c.isAlphanum || c == '_' else Unicode.isWord c

/-- Whether a condition holds at a place. -/
def Look.holds (l : Look) (c : Cursor) : Bool :=
  let next := c.rest.head?
  match l with
  | .start => c.before.isNone
  | .stop => next.isNone
  | .startLine => c.before.isNone || c.before == some '\n'
  | .endLine => next.isNone || next == some '\n'
  | .startLineCrlf =>
    c.before.isNone || c.before == some '\n' || (c.before == some '\r' && next != some '\n')
  | .endLineCrlf =>
    next.isNone || next == some '\r' || (next == some '\n' && c.before != some '\r')
  | .wordBoundary ascii => inWord ascii c.before != inWord ascii next
  | .notWordBoundary ascii => inWord ascii c.before == inWord ascii next
  | .wordStart ascii => !inWord ascii c.before && inWord ascii next
  | .wordEnd ascii => inWord ascii c.before && !inWord ascii next
  | .wordStartHalf ascii => !inWord ascii c.before
  | .wordEndHalf ascii => !inWord ascii next

/-- A thread of a run: where it is in the program and in the text, and the offsets it has noted, the last
one first. -/
structure Thread where
  address : Nat
  cursor : Cursor
  saved : List (Nat × Nat)

namespace Thread

/-- The thread at another address. -/
def goto (t : Thread) (address : Nat) : Thread := { t with address := address }

/-- The threads after reading a character that is accepted or not. -/
def read (t : Thread) (accepts : Char → Bool) : List Thread :=
  match t.cursor.rest with
  | [] => []
  | c :: cs =>
    if accepts c then
      [{ t with address := t.address + 1, cursor := ⟨some c, t.cursor.offset + c.utf8Size, cs⟩ }]
    else []

/-- The threads after an instruction, the preferred one first. -/
def step (t : Thread) : Instruction → List Thread
  | .char c => t.read (· == c)
  | .set s => t.read s.contains
  | .look l => if l.holds t.cursor then [t.goto (t.address + 1)] else []
  | .save slot =>
    [{ t with address := t.address + 1, saved := (slot, t.cursor.offset) :: t.saved }]
  | .split first second => [t.goto first, t.goto second]
  | .jump target => [t.goto target]

end Thread

/-- The addresses and offsets that have been visited, each pair as one number. -/
abbrev Visited := Std.HashSet Nat

namespace Program

/-- The number of an address and an offset. -/
def key (p : Program) (t : Thread) : Nat := t.cursor.offset * (p.code.size + 1) + t.address

/-- Runs threads, the preferred one first, until one accepts. `fuel` bounds the number of steps. -/
def explore (p : Program) : (fuel : Nat) → Visited → List Thread → Option Thread × Visited
  | 0, visited, _ => (none, visited)
  | _ + 1, visited, [] => (none, visited)
  | fuel + 1, visited, t :: ts =>
    if visited.contains (p.key t) then explore p fuel visited ts
    else
      match p.code[t.address]? with
      | none => (some t, visited)
      | some i => explore p fuel (visited.insert (p.key t)) (t.step i ++ ts)

/-- The steps that suffice for a run over a text: each address is left once at each place at most, and
leaving it makes two threads at most. -/
def steps (p : Program) (text : Text) : Nat := 2 * (p.code.size + 1) * (text.length + 1) + 2

/-- Runs the program from a place. -/
def runAt (p : Program) (visited : Visited) (c : Cursor) : Option Thread × Visited :=
  p.explore (p.steps c.rest) visited [⟨0, c, []⟩]

/-- Runs the program from one place after the other, until a run accepts. What failed runs have visited
need not be visited again. -/
def search (p : Program) (visited : Visited) (before : Option Char) (offset : Nat) :
    Text → Option (Nat × Thread)
  | [] => ((p.runAt visited ⟨before, offset, []⟩).1).map (offset, ·)
  | c :: cs =>
    match p.runAt visited ⟨before, offset, c :: cs⟩ with
    | (some t, _) => some (offset, t)
    | (none, visited) => search p visited (some c) (offset + c.utf8Size) cs

/-- The leftmost match that does not start before an offset: where it starts, and the thread that found
it. -/
def find? (p : Program) (text : Text) (offset : Nat) : Option (Nat × Thread) :=
  match Cursor.at? text offset with
  | none => none
  | some c => p.search {} c.before c.offset c.rest

end Program

end PatternKit.Regex
