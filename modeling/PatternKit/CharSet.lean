/-!
Sets of characters as increasing lists of closed intervals of code points. `normalize` brings any
list of intervals into a form in which no interval meets the next. The ends of intervals are characters:
the one behind U+D7FF is U+E000, as the surrogates between them are none. Intervals that end at the one and
begin at the other are kept apart all the same, and `complement` has a rule of its own for them.
-/

set_option autoImplicit false

namespace PatternKit

/-- A closed interval of code points. -/
structure CodeRange where
  lo : Nat
  hi : Nat
deriving DecidableEq, Repr

namespace CodeRange

/-- Membership of a code point. -/
def contains (r : CodeRange) (n : Nat) : Bool := r.lo ≤ n && n ≤ r.hi

/-- The code of the character after another. -/
def next (n : Nat) : Nat := if n = 0xd7ff then 0xe000 else n + 1

/-- The code of the character before another. -/
def previous (n : Nat) : Nat := if n = 0xe000 then 0xd7ff else n - 1

/-- The interval with two ends, given in any order. -/
def between (m n : Nat) : CodeRange := ⟨min m n, max m n⟩

/-- The common part of two intervals. -/
def inter? (r s : CodeRange) : Option CodeRange :=
  let common : CodeRange := ⟨max r.lo s.lo, min r.hi s.hi⟩
  if common.lo ≤ common.hi then some common else none

/-- What is left of an interval without another: at most a part below and a part above. -/
def minus (r s : CodeRange) : List CodeRange :=
  if r.hi < s.lo || s.hi < r.lo then [r]
  else
    (if r.lo < s.lo then [⟨r.lo, previous s.lo⟩] else []) ++
      (if s.hi < r.hi then [⟨next s.hi, r.hi⟩] else [])

end CodeRange

/-- A set of characters: intervals in increasing order. -/
structure CharSet where
  ranges : List CodeRange
deriving DecidableEq, Repr

namespace CharSet

/-- The largest code point. -/
def lastCode : Nat := 0x10FFFF

/-- The set without members. -/
def empty : CharSet := ⟨[]⟩

/-- The set of all characters. -/
def all : CharSet := ⟨[⟨0, lastCode⟩]⟩

/-- The characters from `a` to `b`. -/
def interval (a b : Char) : CharSet := ⟨[⟨a.toNat, b.toNat⟩]⟩

/-- The set with one member. -/
def single (c : Char) : CharSet := interval c c

/-- Membership in an increasing list of intervals; the search stops at the first interval beyond `n`. -/
def containsCode (n : Nat) : List CodeRange → Bool
  | [] => false
  | r :: rs => if n < r.lo then false else n ≤ r.hi || containsCode n rs

theorem containsCode_of_lt_lo {n : Nat} {r : CodeRange} (below : n < r.lo) (rs : List CodeRange) :
    containsCode n (r :: rs) = false := if_pos below

theorem containsCode_of_hi_lt {n : Nat} {r : CodeRange} (lo : r.lo ≤ n) (above : r.hi < n)
    (rs : List CodeRange) : containsCode n (r :: rs) = containsCode n rs := by
  rw [containsCode, if_neg (Nat.not_lt.mpr lo), decide_eq_false (Nat.not_le.mpr above), Bool.false_or]

theorem containsCode_of_mem {n : Nat} {r : CodeRange} (lo : r.lo ≤ n) (hi : n ≤ r.hi) (rs : List CodeRange) :
    containsCode n (r :: rs) = true := by
  rw [containsCode, if_neg (Nat.not_lt.mpr lo), decide_eq_true hi, Bool.true_or]

/-- Membership of a character. -/
def contains (s : CharSet) (c : Char) : Bool := containsCode c.toNat s.ranges

/-- `true` for the set without members. -/
def isEmpty (s : CharSet) : Bool := s.ranges.isEmpty

/-- The only member of a set that has exactly one. -/
def only? (s : CharSet) : Option Char :=
  match s.ranges with
  | [r] => if r.lo = r.hi then some (Char.ofNat r.lo) else none
  | _ => none

/-- `true` when no member lies above the ASCII characters. -/
def isAscii (s : CharSet) : Bool := s.ranges.all (·.hi < 0x80)

/-- Joins intervals that overlap or touch, in a list ordered by lower ends. -/
def coalesce : List CodeRange → List CodeRange
  | [] => []
  | r :: rs => go r rs
where
  /-- `r` is the interval under construction. -/
  go (r : CodeRange) : List CodeRange → List CodeRange
    | [] => [r]
    | s :: rs => if s.lo ≤ r.hi + 1 then go ⟨r.lo, max r.hi s.hi⟩ rs else r :: go s rs

/-- The set of the characters in any of the intervals. -/
def normalize (rs : List CodeRange) : CharSet :=
  ⟨coalesce (rs.mergeSort fun r s => r.lo ≤ s.lo)⟩

/-- Members of either set. -/
def union (s t : CharSet) : CharSet :=
  if s.isEmpty then t else if t.isEmpty then s else normalize (s.ranges ++ t.ranges)

/-- The gaps behind an interval that ends at `last` and between the intervals after it. Two intervals with
nothing but surrogates between them have the interval of their two ends as their gap. -/
def gaps (last : Nat) : List CodeRange → List CodeRange
  | [] => if last < lastCode then [⟨CodeRange.next last, lastCode⟩] else []
  | r :: rs => .between (CodeRange.next last) (CodeRange.previous r.lo) :: gaps r.hi rs

/-- The characters that are not members, and with them U+D7FF and U+E000 where one interval ends at the
first and the next begins at the second. Its intervals are in order, but then they may touch. -/
def complement (s : CharSet) : CharSet :=
  match s.ranges with
  | [] => all
  | r :: rs => ⟨(if 0 < r.lo then [⟨0, CodeRange.previous r.lo⟩] else []) ++ gaps r.hi rs⟩

/-- Members of both sets. -/
def inter (s t : CharSet) : CharSet := ⟨s.ranges.flatMap fun r => t.ranges.filterMap r.inter?⟩

/-- Members of the first set only. -/
def difference (s t : CharSet) : CharSet :=
  ⟨s.ranges.flatMap fun r => t.ranges.foldl (fun left q => left.flatMap (·.minus q)) [r]⟩

/-- Members of exactly one of the sets. -/
def symmetricDifference (s t : CharSet) : CharSet := (s.union t).difference (s.inter t)

/-- The value of a hexadecimal digit. -/
def hexValue? (c : Char) : Option Nat :=
  if '0' ≤ c && c ≤ '9' then some (c.toNat - '0'.toNat)
  else if 'a' ≤ c && c ≤ 'f' then some (c.toNat - 'a'.toNat + 10)
  else if 'A' ≤ c && c ≤ 'F' then some (c.toNat - 'A'.toNat + 10)
  else none

/-- Reads a table of intervals: `41-5a 5f` is the interval from 41 to 5a and the point 5f, both
hexadecimal. `lo` is the lower end already read, `n` the number being read. -/
def readTable (lo n : Option Nat) : List Char → List CodeRange
  | [] => close lo n
  | c :: cs =>
    match hexValue? c with
    | some d => readTable lo (some (n.getD 0 * 16 + d)) cs
    | none => if c = '-' then readTable n none cs else close lo n ++ readTable none none cs
where
  /-- The interval that ends here, if one was being read. -/
  close : Option Nat → Option Nat → List CodeRange
    | some a, some b => [⟨a, b⟩]
    | none, some b => [⟨b, b⟩]
    | _, none => []

/-- The set written in a table of increasing intervals. -/
def ofTable (table : String) : CharSet := ⟨readTable none none table.toList⟩

end CharSet

end PatternKit
