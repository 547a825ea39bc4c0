import PatternKit.Match

/-!
Searching with a pattern. A searcher finds the leftmost match from an offset on; iteration, and the pieces
of a text between matches, are built on that.
-/

set_option autoImplicit false

namespace PatternKit

/-- A pattern that can be searched for. -/
structure Searcher where
  /-- The pattern text. -/
  text : Text
  /-- The names of the groups from one on. -/
  groupNames : List (Option Text)
  /-- The leftmost match in a text that does not start before an offset. -/
  findAt : Text → Nat → Option Match

/-- The offset behind the character at an offset; behind the text there is one more offset. -/
def Text.after (t : Text) (offset : Nat) : Nat :=
  match Text.dropBytes offset t with
  | [] => t.byteSize + 1
  | c :: _ => offset + c.utf8Size

namespace Searcher

/-- The group with a name. -/
def groupIndex? (s : Searcher) (name : Text) : Option Nat :=
  (s.groupNames.findIdx? (· == some name)).map (· + 1)

/-- The next match from an offset on, where an empty match must not start where the one before, if there
was one, stopped. -/
def next? (s : Searcher) (haystack : Text) (offset : Nat) (previous : Option Nat) : Option Match :=
  match s.findAt haystack offset with
  | none => none
  | some m =>
    if m.whole.isEmpty && previous == some m.whole.stop then
      s.findAt haystack (haystack.after offset)
    else some m

/-- The matches from an offset on, one after the other. -/
def matchesFrom (s : Searcher) (haystack : Text) : (fuel : Nat) → (offset : Nat) →
    (previous : Option Nat) → List Match
  | 0, _, _ => []
  | fuel + 1, offset, previous =>
    match s.next? haystack offset previous with
    | none => []
    | some m => m :: matchesFrom s haystack fuel m.whole.stop (some m.whole.stop)

/-- Whether there is a match. -/
def isMatch (s : Searcher) (haystack : Text) : Bool := (s.findAt haystack 0).isSome

/-- What the leftmost match covers. -/
def find? (s : Searcher) (haystack : Text) : Option Span := (s.findAt haystack 0).map Match.whole

/-- The leftmost match, with its groups. -/
def captures? (s : Searcher) (haystack : Text) : Option Match := s.findAt haystack 0

/-- All matches, one after the other. Each stops behind the one before, so there are no more of them than
offsets in the text. -/
def allMatches (s : Searcher) (haystack : Text) : List Match :=
  s.matchesFrom haystack (haystack.length + 2) 0 none

/-- The matches from an offset on that follow each other without a gap. An empty match moves on by one
character. -/
def chainFrom (s : Searcher) (haystack : Text) : (fuel : Nat) → (offset : Nat) → List Match
  | 0, _ => []
  | fuel + 1, offset =>
    if haystack.byteSize < offset then []
    else
      match s.findAt haystack offset with
      | none => []
      | some m =>
        if m.whole.start = offset then
          m :: chainFrom s haystack fuel
            (if m.whole.isEmpty then haystack.after offset else m.whole.stop)
        else []

/-- The matches from the beginning of a text that follow each other without a gap. -/
def chain (s : Searcher) (haystack : Text) : List Match :=
  s.chainFrom haystack (haystack.length + 2) 0

end Searcher

/-- A text with a new text in the place of each match, from an offset on. -/
def Text.splice (haystack : Text) (replace : Match → Text) (offset : Nat) : List Match → Text
  | [] => haystack.dropBytes offset
  | m :: ms =>
    haystack.slice offset m.whole.start ++ replace m ++ Text.splice haystack replace m.whole.stop ms

/-- A text with a new text in the place of the first match. -/
def Searcher.replaceFirst (s : Searcher) (haystack : Text) (replace : Match → Text) : Text :=
  haystack.splice replace 0 ((s.allMatches haystack).take 1)

/-- A text with a new text in the place of each match. -/
def Searcher.replaceAll (s : Searcher) (haystack : Text) (replace : Match → Text) : Text :=
  haystack.splice replace 0 (s.allMatches haystack)

/-- The parts of a text before, between and behind matches, from an offset on. -/
def Text.pieces (haystack : Text) (offset : Nat) : List Match → List Text
  | [] => [haystack.dropBytes offset]
  | m :: ms => haystack.slice offset m.whole.start :: Text.pieces haystack m.whole.stop ms

end PatternKit
