import PatternKit.Span
import PatternKit.Text

/-!
Matches in a text, with offsets in bytes.
-/

set_option autoImplicit false

namespace PatternKit

/-- A match: what it covers, and what its groups cover, if they took part. -/
structure Match where
  whole : Span
  groups : List (Option Span)
deriving DecidableEq, Repr

namespace Match

/-- What a group covers; group zero is the match. -/
def group? (m : Match) (n : Nat) : Option Span :=
  match n with
  | 0 => some m.whole
  | n + 1 => (m.groups[n]?).join

/-- All groups, group zero first. -/
def all (m : Match) : List (Option Span) := some m.whole :: m.groups

end Match

/-- The text that a span of offsets covers. -/
def Span.textIn (s : Span) (haystack : Text) : Text := Text.slice haystack s.start s.stop

end PatternKit
