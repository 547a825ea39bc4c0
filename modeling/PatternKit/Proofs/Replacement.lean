import PatternKit.Proofs.EngineBounds

/-!
Replacement. Whichever way it is written, the text that comes of a replacement is the old text with a new text in
the place of each match that is replaced: everything between the matches is taken over, once and in order.
-/

set_option autoImplicit false

namespace PatternKit

namespace Text

variable {h : Text} {p q : Nat} {new : Match → Text} {m : Match} {ms : List Match} {out : Text}

/-- `Spliced h new p ms out`: what a text `h` becomes from the cut `p` on with the text `new m` in the place of
each match `m`. A match covers a part of the text behind a gap, and the gap stays. -/
inductive Spliced (h : Text) (new : Match → Text) : Nat → List Match → Text → Prop
  | rest {s u : Text} (split : h = s ++ u) : Spliced h new s.byteSize [] u
  | splice {s gap covered u : Text} {m : Match} {ms : List Match} {out : Text}
      (split : h = s ++ (gap ++ (covered ++ u))) (starts : m.whole.start = s.byteSize + Text.byteSize gap)
      (stops : m.whole.stop = m.whole.start + Text.byteSize covered) (rest : Spliced h new m.whole.stop ms out) :
      Spliced h new s.byteSize (m :: ms) (gap ++ new m ++ out)

/-- What is spliced is what is written by cutting the text at the offsets of the matches. -/
private theorem Spliced.eq_splice (spliced : Spliced h new p ms out) : out = h.splice new p ms := by
  induction spliced with
  | rest split => rw [Text.splice, split, dropBytes_byteSize_append]
  | @splice s gap covered u m ms out split starts stops rest ih =>
    have cut : h.slice s.byteSize m.whole.start = gap := by rw [split, starts, slice_append]
    rw [Text.splice, cut, ← ih]

/-- Matches that are in order can be cut out. -/
private theorem spliced_splice (ordered : h.InOrder p ms) : Spliced h new p ms (h.splice new p ms) := by
  induction ms generalizing p with
  | nil =>
    obtain ⟨s, u, split, rfl⟩ := ordered
    have left : h.dropBytes s.byteSize = u := by rw [split, dropBytes_byteSize_append]
    rw [splice, left]
    exact .rest split
  | cons m ms ih =>
    obtain ⟨s, gap, covered, u, split, rfl, starts, stops, rest⟩ := ordered.uncons
    have cut : h.slice s.byteSize m.whole.start = gap := by rw [split, starts, slice_append]
    rw [splice, cut]
    exact .splice split starts stops (ih rest)

/-- Where each match is replaced by what it covers, nothing changes. -/
private theorem Spliced.own (spliced : Spliced h new p ms out)
    (own : ∀ m ∈ ms, new m = m.whole.textIn h) : out = h.dropBytes p := by
  induction spliced with
  | rest split => rw [split, dropBytes_byteSize_append]
  | @splice s gap covered u m ms out split starts stops rest ih =>
    have behind : h = (s ++ gap) ++ (covered ++ u) := by rw [split, List.append_assoc]
    have start : m.whole.start = Text.byteSize (s ++ gap) := by rw [starts, byteSize_append]
    have text : new m = covered := by
      rw [own m List.mem_cons_self, Span.textIn, stops, start, behind, slice_append]
    have stop : m.whole.stop = Text.byteSize (s ++ gap ++ covered) := by rw [stops, start, byteSize_append _ covered]
    have left : h.dropBytes m.whole.stop = u := by
      rw [stop, behind, ← List.append_assoc, dropBytes_byteSize_append]
    have after : out = u := (ih fun m' member => own m' (List.mem_cons_of_mem _ member)).trans left
    rw [text, after, split, dropBytes_byteSize_append, List.append_assoc]

end Text

namespace Matcher

open Text (Spliced)

/-- Writing with an offset kept on the side is splicing from that offset on. -/
private theorem foldl_rewrite (h : Text) (new : Match → Text) (found : List Match) (out : Text) (last : Nat) :
    let written := found.foldl (fun (out, last) m => (out ++ h.slice last m.whole.start ++ new m, m.whole.stop))
      (out, last)
    written.1 ++ h.dropBytes written.2 = out ++ h.splice new last found := by
  induction found generalizing out last with
  | nil => rfl
  | cons m ms ih =>
    rw [List.foldl_cons, Text.splice]
    simpa only [List.append_assoc] using ih (out ++ h.slice last m.whole.start ++ new m) m.whole.stop

/-- A replacement splices, whichever way the options make it go. -/
theorem replace_eq_splice (m : Matcher) (h template : Text) :
    m.replace h template = h.splice (Template.expand m.searcher h template) 0 (m.replaced h) := by
  rw [replace]
  by_cases sticky : m.isSticky = true
  · rw [if_pos sticky]
    cases found : m.replaced h with
    | nil => simp [Text.splice]
    | cons first more => exact foldl_rewrite h _ (first :: more) [] 0
  · have everything : m.all h = m.searcher.allMatches h := by rw [all, if_neg sticky]
    rw [if_neg sticky, replaced_eq, everything]
    by_cases global : m.isGlobal = true
    · rw [if_pos global, if_pos global, Searcher.replaceAll]
    · rw [if_neg global, if_neg global, Searcher.replaceFirst]

theorem expand_whole (s : Searcher) (h : Text) (m : Match) :
    Template.expand s h ['$', '0'] m = m.whole.textIn h := by
  have parts : Template.parts ['$', '0'] = [.number 0] := by decide
  rw [Template.expand, parts]
  exact List.append_nil _

/-- Replacing is splicing. The matches that are replaced, all of them or the first, are in order, so that no part of
the text is cut out that stops before it starts. What is written is the text with the expansion of the template in
the place of each of them, and no other text is. It is the old text if there is no match, and also if each match is
replaced by itself. -/
theorem replace_splices_matches (m : Matcher) (bounded : m.searcher.Bounded) (h template : Text) :
    h.InOrder 0 (m.replaced h) ∧
      (∀ out, Spliced h (Template.expand m.searcher h template) 0 (m.replaced h) out ↔
        out = m.replace h template) ∧
      (m.replaced h = [] → m.replace h template = h) ∧
      m.replace h ['$', '0'] = h := by
  have ordered := replaced_inOrder bounded h
  refine ⟨ordered, fun out => ⟨fun spliced => ?_, fun same => ?_⟩, fun none => ?_, ?_⟩
  · rw [replace_eq_splice]
    exact spliced.eq_splice
  · rw [same, replace_eq_splice]
    exact Text.spliced_splice ordered
  · rw [replace_eq_splice, none, Text.splice, Text.dropBytes_zero]
  · have spliced : Spliced h (Template.expand m.searcher h ['$', '0']) 0 (m.replaced h) (m.replace h ['$', '0']) := by
      rw [replace_eq_splice]
      exact Text.spliced_splice ordered
    rw [spliced.own fun found _ => expand_whole m.searcher h found, Text.dropBytes_zero]

/-- Runs of a letter that follow each other without a gap. -/
def letterRuns : Draft :=
  { components := [.quantified (.literal ['a']) .zeroOrMore], flags := (Flags.of .sticky).union (.of .global) }

/-- Runs of a letter behind one of two bytes, each put between brackets: an empty one at either end of the text,
and no byte of the letter before is lost. -/
theorem letterRuns_put_between_brackets :
    (Searcher.runsOf 'a').Bounded ∧
      Spliced ['é', 'a'] (Template.expand (Searcher.runsOf 'a') ['é', 'a'] ['[', '$', '0', ']']) 0
        [⟨⟨0, 0⟩, []⟩, ⟨⟨2, 3⟩, []⟩, ⟨⟨3, 3⟩, []⟩] "[]é[a][]".toList ∧
      ∃ m, (letterRuns.compile Regex.build).result = .ok m ∧ m.searcher.Bounded ∧
        m.replace ['é', 'a'] ['$', '0'] = ['é', 'a'] := by
  have bounded : (Searcher.runsOf 'a').Bounded := Searcher.runsOf_bounded 'a'
  refine ⟨bounded, ?_, ?_⟩
  · let m : Matcher := ⟨Searcher.runsOf 'a', letterRuns.flags⟩
    have found : m.replaced ['é', 'a'] = [⟨⟨0, 0⟩, []⟩, ⟨⟨2, 3⟩, []⟩, ⟨⟨3, 3⟩, []⟩] := by decide
    have written : "[]é[a][]".toList = m.replace ['é', 'a'] ['[', '$', '0', ']'] := by decide
    have splices := (replace_splices_matches m bounded ['é', 'a'] ['[', '$', '0', ']']).2.1
    rw [found] at splices
    exact (splices _).mpr written
  · obtain ⟨m, compiled⟩ : ∃ m, (letterRuns.compile Regex.build).result = .ok m := ⟨_, rfl⟩
    have built := Regex.compile_bounded compiled
    exact ⟨m, compiled, built, (replace_splices_matches m built ['é', 'a'] ['$', '0']).2.2.2⟩

end Matcher

end PatternKit
