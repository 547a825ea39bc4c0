import PatternKit.Flags
import PatternKit.Template

/-!
Compiled patterns. Matching everywhere and matching without gaps are options of the matcher, not of the
searcher below it.
-/

set_option autoImplicit false

namespace PatternKit

/-- A searcher with the options it was compiled with. -/
structure Matcher where
  searcher : Searcher
  flags : Flags

namespace Matcher

/-- Whether all matches are replaced. -/
def isGlobal (m : Matcher) : Bool := m.flags.has .global

/-- Whether a match has to start where the one before stopped, the first one at the beginning. -/
def isSticky (m : Matcher) : Bool := m.flags.has .sticky

/-- The pattern between slashes, and the letters of its options. -/
def display (m : Matcher) : Text := '/' :: m.searcher.text ++ '/' :: m.flags.tokens

/-- Whether there is a match. The leftmost match starts at the beginning if any match does. -/
def isMatch (m : Matcher) (haystack : Text) : Bool :=
  if m.isSticky then
    match m.searcher.find? haystack with
    | none => false
    | some span => span.start == 0
  else m.searcher.isMatch haystack

/-- The first match. -/
def first? (m : Matcher) (haystack : Text) : Option Match :=
  match m.searcher.captures? haystack with
  | none => none
  | some found => if m.isSticky && found.whole.start != 0 then none else some found

/-- All matches. -/
def all (m : Matcher) (haystack : Text) : List Match :=
  if m.isSticky then m.searcher.chain haystack else m.searcher.allMatches haystack

/-- The matches that are replaced: all of them, or the first. -/
def replaced (m : Matcher) (haystack : Text) : List Match :=
  if m.isGlobal then m.all haystack else (m.first? haystack).toList

/-- Writes a text with a new text in the place of each match. While it is written, it is kept together with
the offset up to which the old text has been taken over. -/
def rewrite (haystack : Text) (new : Match → Text) (found : List Match) : Text :=
  let written := found.foldl
    (fun (out, last) m => (out ++ haystack.slice last m.whole.start ++ new m, m.whole.stop)) ([], 0)
  written.1 ++ haystack.dropBytes written.2

/-- Puts a replacement in the place of the first match, or of all. The searcher knows how to do so, but not
where matches have to follow each other without a gap. -/
def replace (m : Matcher) (haystack template : Text) : Text :=
  let new := Template.expand m.searcher haystack template
  if m.isSticky then
    match m.replaced haystack with
    | [] => haystack
    | found => rewrite haystack new found
  else if m.isGlobal then m.searcher.replaceAll haystack new
  else m.searcher.replaceFirst haystack new

/-- The parts of a text between matches, whether or not these follow each other without a gap. -/
def split (m : Matcher) (haystack : Text) : List Text :=
  haystack.pieces 0 (m.searcher.allMatches haystack)

end Matcher

end PatternKit
