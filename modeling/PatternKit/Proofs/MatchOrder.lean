import PatternKit.Matcher
import PatternKit.Proofs.LeftmostSearch

/-!
The order of matches. Where a searcher finds only what lies between cuts of the text, behind the offset it
searches from, the matches of a pattern follow each other in the text, whether or not they leave gaps. The first
of them is the one that is found when only the first is asked for.
-/

set_option autoImplicit false

namespace PatternKit

namespace Text

variable {h : Text} {p q : Nat}

theorem IsBoundary.zero (h : Text) : h.IsBoundary 0 := ⟨[], h, rfl, rfl⟩

/-- A later cut of a text divides what an earlier one leaves. -/
theorem IsBoundary.beyond {s u : Text} (cut : h.IsBoundary q) (split : h = s ++ u) (le : s.byteSize ≤ q) :
    ∃ a v, u = a ++ v ∧ q = s.byteSize + Text.byteSize a := by
  obtain ⟨s', v, split', rfl⟩ := cut
  rcases Nat.eq_or_lt_of_le le with same | later
  · exact ⟨[], u, rfl, same.symm⟩
  · obtain ⟨a, -, rfl, rest⟩ := suffix_of_byteSize_lt (split.symm.trans split') later
    exact ⟨a, v, rest, byteSize_append s a⟩

/-- The offset behind the character at a cut is a cut, or past the text. -/
theorem IsBoundary.after (cut : h.IsBoundary p) :
    p < h.after p ∧ (h.IsBoundary (h.after p) ∨ h.byteSize < h.after p) := by
  obtain ⟨s, u, rfl, rfl⟩ := cut
  cases u with
  | nil =>
    rw [List.append_nil, after_byteSize]
    exact ⟨Nat.lt_succ_self _, .inr (Nat.lt_succ_self _)⟩
  | cons c u =>
    rw [after_byteSize_append_cons]
    have size := c.utf8Size_pos
    exact ⟨by omega, .inl ⟨s ++ [c], u, by simp, by simp⟩⟩

/-- Whether matches are in order in a text: each lies between cuts, and starts no earlier than the one before
stops, the first no earlier than an offset `p`. -/
def InOrder (h : Text) (p : Nat) : List Match → Prop
  | [] => h.IsBoundary p
  | m :: ms =>
    h.IsBoundary p ∧ h.IsBoundary m.whole.start ∧ p ≤ m.whole.start ∧ m.whole.start ≤ m.whole.stop ∧
      InOrder h m.whole.stop ms

theorem InOrder.boundary {ms : List Match} (ordered : h.InOrder p ms) : h.IsBoundary p := by
  cases ms with
  | nil => exact ordered
  | cons m ms => exact ordered.1

/-- Before the first of matches that are in order there is a gap, and it covers a part of the text behind that. -/
theorem InOrder.uncons {m : Match} {ms : List Match} (ordered : h.InOrder p (m :: ms)) :
    ∃ s gap covered u, h = s ++ (gap ++ (covered ++ u)) ∧ p = Text.byteSize s ∧
      m.whole.start = Text.byteSize s + Text.byteSize gap ∧ m.whole.stop = m.whole.start + Text.byteSize covered ∧
      h.InOrder m.whole.stop ms := by
  obtain ⟨⟨s, v, split, rfl⟩, start, later, forward, rest⟩ := ordered
  obtain ⟨gap, v', rfl, starts⟩ := start.beyond split later
  have split' : h = (s ++ gap) ++ v' := by rw [split, List.append_assoc]
  have starts' : m.whole.start = Text.byteSize (s ++ gap) := by rw [starts, byteSize_append]
  obtain ⟨covered, u, rfl, stops⟩ := rest.boundary.beyond split' (by omega)
  exact ⟨s, gap, covered, u, split, rfl, starts, by omega, rest⟩

theorem InOrder.take_one {ms : List Match} (ordered : h.InOrder p ms) : h.InOrder p (ms.take 1) := by
  cases ms with
  | nil => exact ordered
  | cons m ms =>
    obtain ⟨cut, start, later, forward, rest⟩ := ordered
    exact ⟨cut, start, later, forward, rest.boundary⟩

end Text

namespace Searcher

/-- A searcher that stays in bounds: what it finds from a cut of a text lies between cuts, and not before the
one it searches from, and past the text it finds nothing. -/
structure Bounded (s : Searcher) : Prop where
  within {h : Text} {p : Nat} {m : Match} (cut : h.IsBoundary p) (found : s.findAt h p = some m) :
    p ≤ m.whole.start ∧ m.whole.start ≤ m.whole.stop ∧ h.IsBoundary m.whole.start ∧ h.IsBoundary m.whole.stop
  past {h : Text} {p : Nat} (outside : h.byteSize < p) : s.findAt h p = none

theorem runsOf_bounded (c : Char) : (runsOf c).Bounded where
  within := by
    intro h p m _ found
    obtain ⟨starts, forward, start, stop⟩ := (runsOf_leftmost c).span found
    rw [starts]
    exact ⟨Nat.le_refl p, forward, start, stop⟩
  past := by
    intro h p outside
    have parts := congrArg Text.byteSize (h.takeBytes_append_dropBytes p)
    rw [Text.byteSize_append] at parts
    exact if_neg (by omega)

namespace Bounded

variable {s : Searcher} {h : Text} {p : Nat} {m : Match}

/-- A match that is found comes next, if those behind it are in order. -/
private theorem inOrder_cons (bounded : s.Bounded) {q : Nat} (cut : h.IsBoundary p) (from_ : h.IsBoundary q)
    (le : p ≤ q) (found : s.findAt h q = some m) {ms : List Match}
    (rest : h.IsBoundary m.whole.stop → h.InOrder m.whole.stop ms) : h.InOrder p (m :: ms) := by
  obtain ⟨later, ordered, start, stop⟩ := bounded.within from_ found
  exact ⟨cut, start, Nat.le_trans le later, ordered, rest stop⟩

/-- The next match is what is found from the offset, or from the one behind the next character. -/
private theorem of_next? (bounded : s.Bounded) (cut : h.IsBoundary p) {previous : Option Nat}
    (next : s.next? h p previous = some m) : ∃ q, p ≤ q ∧ h.IsBoundary q ∧ s.findAt h q = some m := by
  rw [next?] at next
  cases here : s.findAt h p with
  | none =>
    rw [here] at next
    cases next
  | some found =>
    simp only [here] at next
    split at next
    · obtain ⟨lt, after | past⟩ := cut.after
      · exact ⟨_, Nat.le_of_lt lt, after, next⟩
      · rw [bounded.past past] at next
        cases next
    · rw [next] at here
      exact ⟨p, Nat.le_refl p, cut, here⟩

theorem matchesFrom_inOrder (bounded : s.Bounded) (fuel : Nat) (cut : h.IsBoundary p) (previous : Option Nat) :
    h.InOrder p (s.matchesFrom h fuel p previous) := by
  induction fuel generalizing p previous with
  | zero => exact cut
  | succ fuel ih =>
    rw [matchesFrom]
    cases next : s.next? h p previous with
    | none => exact cut
    | some m =>
      obtain ⟨q, le, from_, found⟩ := bounded.of_next? cut next
      exact bounded.inOrder_cons cut from_ le found fun stop => ih stop _

/-- The chain goes on behind an empty match, which may be past the text, while its matches are in order from
where the match stops. -/
theorem chainFrom_inOrder (bounded : s.Bounded) (fuel : Nat) {q : Nat} (cut : h.IsBoundary p) (le : p ≤ q)
    (next : h.IsBoundary q ∨ h.byteSize < q) : h.InOrder p (s.chainFrom h fuel q) := by
  induction fuel generalizing p q with
  | zero => exact cut
  | succ fuel ih =>
    rw [chainFrom]
    split
    · exact cut
    · rename_i inside
      have from_ : h.IsBoundary q := next.resolve_right inside
      cases found : s.findAt h q with
      | none => exact cut
      | some m =>
        dsimp only
        split
        · rename_i starts
          refine bounded.inOrder_cons cut from_ le found fun stop => ?_
          split
          · rename_i empty
            have stops : m.whole.stop ≤ q := by
              rw [← starts]
              simpa [Span.isEmpty] using empty
            obtain ⟨lt, after⟩ := from_.after
            exact ih stop (by omega) after
          · exact ih stop (Nat.le_refl _) (.inl stop)
        · exact cut

end Bounded

/-- Iteration begins with the leftmost match. -/
theorem head?_allMatches (s : Searcher) (h : Text) : (s.allMatches h).head? = s.findAt h 0 := by
  have next : s.next? h 0 none = s.findAt h 0 := by
    rw [next?]
    cases s.findAt h 0 with
    | none => rfl
    | some m => simp
  rw [allMatches, matchesFrom, next]
  cases s.findAt h 0 <;> rfl

/-- A chain begins with the leftmost match if that starts with the text. -/
theorem head?_chain (s : Searcher) (h : Text) :
    (s.chain h).head? = (s.findAt h 0).filter fun m => m.whole.start == 0 := by
  have inside : ¬ h.byteSize < 0 := Nat.not_lt_zero _
  rw [chain, chainFrom, if_neg inside]
  cases s.findAt h 0 with
  | none => rfl
  | some m =>
    by_cases starts : m.whole.start = 0
    · simp [starts, Option.filter]
    · simp [starts, Option.filter]

end Searcher

namespace Matcher

variable {m : Matcher}

/-- Asking for the first match, sticky or not, finds the first of all. -/
theorem first?_eq_head?_all (m : Matcher) (h : Text) : m.first? h = (m.all h).head? := by
  rw [first?, all]
  by_cases sticky : m.isSticky = true
  · rw [if_pos sticky, Searcher.head?_chain, Searcher.captures?]
    cases m.searcher.findAt h 0 with
    | none => rfl
    | some found =>
      by_cases starts : found.whole.start = 0
      · simp [starts, Option.filter]
      · simp [sticky, starts, Option.filter]
  · rw [if_neg sticky, Searcher.head?_allMatches, Searcher.captures?]
    cases m.searcher.findAt h 0 with
    | none => rfl
    | some found => simp [sticky]

/-- The three ways of matching agree: the first match is the first of all matches, so that there is one exactly
where there are any, and there is one exactly where the pattern is said to match. -/
theorem entry_points_agree (m : Matcher) (h : Text) :
    m.first? h = (m.all h).head? ∧ (m.first? h = none ↔ m.all h = []) ∧
      (m.isMatch h = true ↔ ∃ found, m.first? h = some found) := by
  have first := m.first?_eq_head?_all h
  refine ⟨first, by rw [first, List.head?_eq_none_iff], ?_⟩
  rw [isMatch, first?, Searcher.find?, Searcher.captures?, Searcher.isMatch]
  by_cases sticky : m.isSticky = true
  · rw [if_pos sticky]
    cases m.searcher.findAt h 0 with
    | none => simp
    | some found =>
      by_cases starts : found.whole.start = 0
      · simp [starts]
      · simp [sticky, starts]
  · rw [if_neg sticky]
    cases m.searcher.findAt h 0 with
    | none => simp
    | some found => simp [sticky]

theorem all_inOrder (bounded : m.searcher.Bounded) (h : Text) : h.InOrder 0 (m.all h) := by
  have start : h.IsBoundary 0 := .zero h
  rw [all]
  split
  · exact bounded.chainFrom_inOrder _ start (Nat.le_refl 0) (.inl start)
  · exact bounded.matchesFrom_inOrder _ start none

theorem replaced_eq (m : Matcher) (h : Text) :
    m.replaced h = if m.isGlobal then m.all h else (m.all h).take 1 := by
  rw [replaced, first?_eq_head?_all, List.take_one]

theorem replaced_inOrder (bounded : m.searcher.Bounded) (h : Text) : h.InOrder 0 (m.replaced h) := by
  rw [replaced_eq]
  split
  · exact all_inOrder bounded h
  · exact (all_inOrder bounded h).take_one

end Matcher

end PatternKit
