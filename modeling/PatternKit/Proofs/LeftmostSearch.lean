import PatternKit.Searcher

/-!
Leftmost search. What a searcher finds is described by the matches preferred at each offset, whether or not
it would find them from there first.
-/

set_option autoImplicit false

namespace PatternKit

/-- An offset between two characters of a text, or at one of its ends. -/
def Text.IsBoundary (t : Text) (n : Nat) : Prop := ∃ s u, t = s ++ u ∧ n = s.byteSize

namespace Text

theorem IsBoundary.le_byteSize {t : Text} {n : Nat} (h : t.IsBoundary n) : n ≤ t.byteSize := by
  obtain ⟨s, u, rfl, rfl⟩ := h
  rw [byteSize_append]
  omega

@[simp] theorem after_byteSize_append_cons (s : Text) (c : Char) (u : Text) :
    after (s ++ c :: u) s.byteSize = s.byteSize + c.utf8Size := by
  simp [after]

@[simp] theorem after_byteSize (t : Text) : after t t.byteSize = t.byteSize + 1 := by
  have cut : dropBytes t.byteSize (t ++ []) = [] := dropBytes_byteSize_append t []
  rw [List.append_nil] at cut
  simp [after, cut]

theorem byteSize_pos {s : Text} (some : s ≠ []) : 0 < s.byteSize := by
  obtain ⟨c, s, rfl⟩ := List.exists_cons_of_ne_nil some
  exact Nat.add_pos_left c.utf8Size_pos _

/-- Of two cuts of a text, the later one leaves a part of what the earlier one leaves. -/
theorem suffix_of_byteSize_lt {s u s' u' : Text} (same : s ++ u = s' ++ u')
    (later : s.byteSize < s'.byteSize) : ∃ a, a ≠ [] ∧ s' = s ++ a ∧ u = a ++ u' := by
  rcases List.append_eq_append_iff.mp same with ⟨a, rfl, rfl⟩ | ⟨a, rfl, rfl⟩
  · refine ⟨a, ?_, rfl, rfl⟩
    rintro rfl
    simp at later
  · rw [byteSize_append] at later
    omega

end Text

/-- A searcher finds the leftmost match: `preferred h p` is the match it prefers among those that start at
the offset `p` of the text `h`. -/
structure Searcher.Leftmost (s : Searcher) (preferred : Text → Nat → Option Match) : Prop where
  span {h : Text} {p : Nat} {m : Match} (at_ : preferred h p = some m) :
    m.whole.start = p ∧ p ≤ m.whole.stop ∧ h.IsBoundary p ∧ h.IsBoundary m.whole.stop
  found {h : Text} {p : Nat} {m : Match} (cut : h.IsBoundary p) (found : s.findAt h p = some m) :
    p ≤ m.whole.start ∧ preferred h m.whole.start = some m ∧
      ∀ q, p ≤ q → q < m.whole.start → preferred h q = none
  absent {h : Text} {p : Nat} (cut : h.IsBoundary p) (absent : s.findAt h p = none) :
    ∀ q, p ≤ q → preferred h q = none

namespace Searcher.Leftmost

variable {s : Searcher} {preferred : Text → Nat → Option Match} {h : Text} {p : Nat} {m : Match}

/-- A match at the offset where the search begins is found. -/
theorem findAt_of_preferred (l : s.Leftmost preferred) (there : preferred h p = some m) :
    s.findAt h p = some m := by
  have cut := (l.span there).2.2.1
  cases hit : s.findAt h p with
  | none => rw [l.absent cut hit p (Nat.le_refl _)] at there; cases there
  | some m' =>
    obtain ⟨le, here, before⟩ := l.found cut hit
    rcases Nat.lt_or_ge p m'.whole.start with lt | ge
    · rw [before p (Nat.le_refl _) lt] at there
      cases there
    · rw [Nat.le_antisymm ge le, there] at here
      exact here.symm

/-- Where no match starts, what is found starts later. -/
theorem start_ne_of_preferred_eq_none (l : s.Leftmost preferred) (cut : h.IsBoundary p)
    (there : preferred h p = none) (hit : s.findAt h p = some m) : m.whole.start ≠ p := by
  rintro rfl
  rw [(l.found cut hit).2.1] at there
  cases there

end Searcher.Leftmost

/-- The run of a character that starts at an offset between two characters. -/
def Text.runAt (c : Char) (h : Text) (p : Nat) : Option Match :=
  if (h.takeBytes p).byteSize = p then
    some ⟨⟨p, p + Text.byteSize ((h.dropBytes p).takeWhile (· == c))⟩, []⟩
  else none

/-- The searcher for runs of a character, the empty one included. There is one at every offset between two
characters, so none is looked for further on. -/
def Searcher.runsOf (c : Char) : Searcher := ⟨[c, '*'], [], Text.runAt c⟩

theorem Searcher.runsOf_leftmost (c : Char) : (runsOf c).Leftmost (Text.runAt c) where
  span := by
    intro h p m there
    unfold Text.runAt at there
    split at there
    · rename_i cut
      obtain rfl := Option.some.inj there
      have parts := Text.takeBytes_append_dropBytes p h
      refine ⟨rfl, Nat.le_add_right _ _, ⟨_, _, parts.symm, cut.symm⟩,
        h.takeBytes p ++ (h.dropBytes p).takeWhile (· == c), (h.dropBytes p).dropWhile (· == c), ?_, ?_⟩
      · rw [List.append_assoc, List.takeWhile_append_dropWhile, parts]
      · rw [Text.byteSize_append, cut]
    · cases there
  found := by
    intro h p m _ there
    have starts : m.whole.start = p := by
      simp only [runsOf, Text.runAt] at there
      split at there
      · rw [← Option.some.inj there]
      · cases there
    refine ⟨Nat.le_of_eq starts.symm, by rw [starts]; exact there, fun q le lt => ?_⟩
    omega
  absent := by
    rintro h p ⟨s, u, rfl, rfl⟩ nowhere
    simp [runsOf, Text.runAt] at nowhere

end PatternKit
