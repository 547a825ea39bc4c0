import PatternKit.Proofs.GaplessHead
import PatternKit.Proofs.Replacement

/-!
Division of a text. A text is split at all matches of its pattern: what stands before, between and behind them are the
pieces, one more than there are matches, and pieces and matches in turn make up the text again. Whether a pattern is
sticky makes no difference to how it splits, so that a sticky pattern is split at matches which it does not have.
-/

set_option autoImplicit false

namespace PatternKit

namespace Text

variable {h : Text} {p : Nat} {m : Match} {ms : List Match} {parts : List Text}

/-- `Divided h p ms parts`: the parts of a text `h` before, between and behind matches, from the cut `p` on. A match covers
a part of the text behind a gap, and the gap is a part. -/
inductive Divided (h : Text) : Nat → List Match → List Text → Prop
  | rest {s u : Text} (split : h = s ++ u) : Divided h s.byteSize [] [u]
  | next {s gap covered u : Text} {m : Match} {ms : List Match} {parts : List Text}
      (split : h = s ++ (gap ++ (covered ++ u))) (starts : m.whole.start = s.byteSize + Text.byteSize gap)
      (stops : m.whole.stop = m.whole.start + Text.byteSize covered) (more : Divided h m.whole.stop ms parts) :
      Divided h s.byteSize (m :: ms) (gap :: parts)

/-- Texts of two lists in turn, the first list beginning. -/
def weave : List Text → List Text → Text
  | [], others => others.flatten
  | t :: ts, [] => t ++ ts.flatten
  | t :: ts, other :: others => t ++ other ++ weave ts others

/-- The parts are those that are cut out between the offsets of the matches. -/
theorem Divided.eq_pieces (divided : Divided h p ms parts) : parts = h.pieces p ms := by
  induction divided with
  | rest split => rw [Text.pieces, split, dropBytes_byteSize_append]
  | @next s gap covered u m ms parts split starts stops more ih =>
    have cut : h.slice s.byteSize m.whole.start = gap := by rw [split, starts, slice_append]
    rw [Text.pieces, cut, ← ih]

/-- Matches that are in order divide a text. -/
theorem divided_pieces (ordered : h.InOrder p ms) : Divided h p ms (h.pieces p ms) := by
  induction ms generalizing p with
  | nil =>
    obtain ⟨s, u, split, rfl⟩ := ordered
    have left : h.dropBytes s.byteSize = u := by rw [split, dropBytes_byteSize_append]
    rw [pieces, left]
    exact .rest split
  | cons m ms ih =>
    obtain ⟨s, gap, covered, u, split, rfl, starts, stops, rest⟩ := ordered.uncons
    have cut : h.slice s.byteSize m.whole.start = gap := by rw [split, starts, slice_append]
    rw [pieces, cut]
    exact .next split starts stops (ih rest)

/-- A division by matches that are in order is unique. -/
theorem divided_iff (ordered : h.InOrder p ms) : Divided h p ms parts ↔ parts = h.pieces p ms := by
  constructor
  · exact Divided.eq_pieces
  · rintro rfl
    exact divided_pieces ordered

theorem Divided.length (divided : Divided h p ms parts) : parts.length = ms.length + 1 := by
  induction divided with
  | rest split => rfl
  | next split starts stops more ih => rw [List.length_cons, List.length_cons, ih]

/-- Parts and what the matches cover, in turn, are the text from the cut on. -/
theorem Divided.weave_eq (divided : Divided h p ms parts) :
    weave parts (ms.map fun m => m.whole.textIn h) = h.dropBytes p := by
  induction divided with
  | @rest s u split =>
    rw [split, dropBytes_byteSize_append]
    exact List.append_nil u
  | @next s gap covered u m ms parts split starts stops more ih =>
    have start : m.whole.start = Text.byteSize (s ++ gap) := by rw [starts, byteSize_append]
    have stop : m.whole.stop = Text.byteSize (s ++ gap ++ covered) := by rw [stops, start, byteSize_append _ covered]
    have behind : h = (s ++ gap) ++ (covered ++ u) := by rw [split, List.append_assoc]
    have own : m.whole.textIn h = covered := by rw [Span.textIn, stops, start, behind, slice_append]
    have left : h.dropBytes m.whole.stop = u := by
      rw [stop, behind, ← List.append_assoc, dropBytes_byteSize_append]
    rw [List.map_cons, weave, ih, own, left, split, dropBytes_byteSize_append, List.append_assoc]

end Text

namespace Matcher

open Text (Divided weave)

variable {m free : Matcher} {h : Text}

/-- Where a sticky pattern never matches what is empty, its own matches divide a text in this way only if they are all
matches that there are, and then these leave no gap. -/
private theorem divided_sticky_iff (same : free.searcher = m.searcher) (unsticky : free.isSticky = false)
    (bounded : m.searcher.Bounded) (sticky : m.isSticky = true) (full : m.searcher.NeverEmpty h)
    (divided : Divided h 0 (free.all h) (m.split h)) :
    Divided h 0 (m.all h) (m.split h) ↔ Match.Gapless 0 (free.all h) := by
  have everywhere : free.all h = m.searcher.allMatches h := by rw [all_free free unsticky, same]
  have head : IsLongestPrefix (Match.Gapless 0) (m.all h) (free.all h) := by
    rw [everywhere, all_sticky m sticky]
    exact Searcher.chain_isLongestPrefix bounded full
  constructor
  · intro own
    have lengths : (m.all h).length = (free.all h).length := Nat.succ.inj (own.length.symm.trans divided.length)
    rw [← head.isPrefix.eq_of_length lengths]
    exact head.holds
  · intro gapless
    have longer : free.all h <+: m.all h := head.longest (List.prefix_refl _) gapless
    rwa [head.isPrefix.eq_of_length_le longer.length_le]

/-- A text is split at all matches that the pattern has without the option sticky, whether or not it is sticky: the pieces
are what stands before, between and behind them. There is one piece more than there are matches, and pieces and matches
in turn are the text. For a pattern that is not sticky these are the matches that it has itself. For one that is, they
are not unless no match leaves a gap behind the one before it. -/
theorem split_divides_at_free_matches (m free : Matcher) (same : free.searcher = m.searcher)
    (unsticky : free.isSticky = false) (bounded : m.searcher.Bounded) (h : Text) :
    (∀ parts, Divided h 0 (free.all h) parts ↔ parts = m.split h) ∧
      (m.split h).length = (free.all h).length + 1 ∧
      weave (m.split h) ((free.all h).map fun found => found.whole.textIn h) = h ∧
      (m.isSticky = false → free.all h = m.all h) ∧
      (m.isSticky = true → m.searcher.NeverEmpty h →
        (Divided h 0 (m.all h) (m.split h) ↔ Match.Gapless 0 (free.all h))) := by
  have everywhere : free.all h = m.searcher.allMatches h := by rw [all_free free unsticky, same]
  have ordered : h.InOrder 0 (free.all h) := all_inOrder (by rwa [same]) h
  have pieces : m.split h = h.pieces 0 (free.all h) := by rw [split, everywhere]
  have divided : Divided h 0 (free.all h) (m.split h) := (Text.divided_iff ordered).mpr pieces
  refine ⟨fun parts => ?_, divided.length, ?_, fun unsticky_ => ?_, fun sticky full => ?_⟩
  · rw [pieces]
    exact Text.divided_iff ordered
  · rw [divided.weave_eq, Text.dropBytes_zero]
  · rw [everywhere, all_free m unsticky_]
  · exact divided_sticky_iff same unsticky bounded sticky full divided

/-- A letter that is searched for without a gap. -/
def stickyLetter : Draft := { components := [.literal ['a']], flags := .of .sticky }

private theorem stickyLetter_seeks {m : Matcher} (compiled : (stickyLetter.compile Regex.build).result = .ok m) :
    m.searcher.Seeks ['a'] ∧ m.isSticky = true := by
  have text : stickyLetter.components = [['a']].map Component.literal := rfl
  rw [Draft.compile_of_texts text (by decide) compiled]
  exact ⟨Regex.searcher_seeks _ _, (by decide : (Flags.of .sticky).has .sticky = true)⟩

/-- Runs of a letter, the empty one before a letter of two bytes included, divide a text. A sticky pattern for the letter
divides any text as the same one does that is not sticky. -/
theorem letterRuns_divide_text :
    (Searcher.runsOf 'a').Bounded ∧
      Divided ['é', 'a', 'b'] 0 [⟨⟨0, 0⟩, []⟩, ⟨⟨2, 3⟩, []⟩, ⟨⟨4, 4⟩, []⟩] [[], ['é'], ['b'], []] ∧
      ∃ m, (stickyLetter.compile Regex.build).result = .ok m ∧ m.searcher.Bounded ∧ m.isSticky = true ∧
        Matcher.isSticky ⟨m.searcher, .empty⟩ = false ∧ ∀ h, m.searcher.NeverEmpty h ∧
          (m.split h).length = (Matcher.all ⟨m.searcher, .empty⟩ h).length + 1 ∧
          (Divided h 0 (m.all h) (m.split h) ↔ Match.Gapless 0 (Matcher.all ⟨m.searcher, .empty⟩ h)) := by
  have bounded : (Searcher.runsOf 'a').Bounded := Searcher.runsOf_bounded 'a'
  refine ⟨bounded, ?_, ?_⟩
  · let m : Matcher := ⟨Searcher.runsOf 'a', .empty⟩
    have found : m.all ['é', 'a', 'b'] = [⟨⟨0, 0⟩, []⟩, ⟨⟨2, 3⟩, []⟩, ⟨⟨4, 4⟩, []⟩] := by decide
    have divided := (split_divides_at_free_matches m m rfl (by decide) bounded ['é', 'a', 'b']).1
    rw [found] at divided
    exact (divided _).mpr (by decide)
  · obtain ⟨m, compiled⟩ : ∃ m, (stickyLetter.compile Regex.build).result = .ok m := ⟨_, rfl⟩
    obtain ⟨seeks, sticky⟩ := stickyLetter_seeks compiled
    have unsticky : Matcher.isSticky ⟨m.searcher, .empty⟩ = false := (by decide : Flags.has .empty .sticky = false)
    have built := Regex.compile_bounded compiled
    refine ⟨m, compiled, built, sticky, unsticky, fun h => ?_⟩
    have full : m.searcher.NeverEmpty h := seeks.neverEmpty (List.cons_ne_nil _ _) h
    obtain ⟨-, length, -, -, own⟩ := split_divides_at_free_matches m ⟨m.searcher, .empty⟩ rfl unsticky built h
    exact ⟨full, length, own sticky full⟩

/-- A sticky pattern without a match in a text is split all the same, at a match that it does not have. -/
theorem sticky_letter_splits_behind_gap :
    ∃ m, (stickyLetter.compile Regex.build).result = .ok m ∧ m.isSticky = true ∧ m.all ['b', 'a'] = [] ∧
      m.split ['b', 'a'] = [['b'], []] ∧ ¬ Divided ['b', 'a'] 0 (m.all ['b', 'a']) (m.split ['b', 'a']) ∧
      (m.split ['b', 'a']).length ≠ (m.all ['b', 'a']).length + 1 := by
  obtain ⟨m, compiled⟩ : ∃ m, (stickyLetter.compile Regex.build).result = .ok m := ⟨_, rfl⟩
  obtain ⟨seeks, sticky⟩ := stickyLetter_seeks compiled
  have some : ['a'] ≠ [] := List.cons_ne_nil _ _
  -- the text does not begin with the letter, so that the chain of matches does not begin
  have none_ : m.all ['b', 'a'] = [] := by
    have starts := (seeks.length_chain some ['b', 'a']).1
    rw [← all_sticky m sticky] at starts
    cases found : m.all ['b', 'a'] with
    | nil => rfl
    | cons first more =>
      rw [found] at starts
      obtain ⟨w, same⟩ := starts
      cases same
  have split_ : m.split ['b', 'a'] = [['b'], []] := by
    have first : Text.FirstBetween ['a'] ['b'] [] := fun v w same => by
      cases v with
      | nil => cases same
      | cons c v => exact Nat.succ_le_succ (Nat.zero_le _)
    have hit : m.searcher.findAt ['b', 'a'] 0 = Option.some (Text.matchBehind ['b'] ['a']) :=
      (seeks.find_eq_some_iff [] ['b', 'a'] _).mpr ⟨['b'], [], rfl, first, rfl⟩
    have behind : m.searcher.findAt ['b', 'a'] 2 = none :=
      Option.not_isSome_iff_eq_none.mp fun some_ => by
        obtain ⟨v, w, same⟩ := (seeks.find_isSome ['b', 'a'] []).mp some_
        simp at same
    have found : m.searcher.allMatches ['b', 'a'] = [Text.matchBehind ['b'] ['a']] := by
      have stop : (Text.matchBehind ['b'] ['a']).whole.stop = 2 := rfl
      simp [Searcher.allMatches, Searcher.matchesFrom, Searcher.next?, hit, stop, behind]
    rw [split, found]
    rfl
  refine ⟨m, compiled, sticky, none_, split_, fun divided => ?_, ?_⟩
  · have length := divided.length
    rw [none_, split_] at length
    cases length
  · rw [none_, split_]
    decide

end Matcher

end PatternKit
