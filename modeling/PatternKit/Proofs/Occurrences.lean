import Mathlib.Order.Bounds.Defs
import PatternKit.Matcher
import PatternKit.Proofs.LeftmostSearch

/-!
Occurrences of a text in another one. A searcher that seeks a text finds its first occurrence from a place on; all its
matches are then the occurrences from left to right, none of them overlapping the one before, and the chain of its matches
goes on as long as the text is repeated.
-/

set_option autoImplicit false

namespace PatternKit

namespace Text

/-- Whether a text that stands between `v` and `w` stands nowhere before that. -/
def FirstBetween (s v w : Text) : Prop := ∀ v' w', v ++ s ++ w = v' ++ s ++ w' → v.length ≤ v'.length

/-- The match that covers a text behind another one. -/
def matchBehind (a s : Text) : Match := ⟨⟨a.byteSize, (a ++ s).byteSize⟩, []⟩

theorem matchBehind_not_isEmpty {s : Text} (some : s ≠ []) (a : Text) : (matchBehind a s).whole.isEmpty = false := by
  have positive := byteSize_pos some
  refine decide_eq_false ?_
  show ¬ (a ++ s).byteSize ≤ a.byteSize
  rw [byteSize_append]
  omega

/-- The occurrences of a text `s` in what stands behind `before`, from left to right, with the parts between them: each
one is the first behind the one before it, and behind the last there is no other. -/
inductive Occurrences (s : Text) : (before rest : Text) → List Match → List Text → Prop
  | none {before rest : Text} (absent : ¬ s <:+: rest) : Occurrences s before rest [] [rest]
  | next {before v w : Text} {found : List Match} {parts : List Text} (first : FirstBetween s v w)
      (more : Occurrences s (before ++ v ++ s) w found parts) :
      Occurrences s before (v ++ s ++ w) (matchBehind (before ++ v) s :: found) (v :: parts)

end Text

namespace Searcher

open Text (FirstBetween matchBehind matchBehind_not_isEmpty Occurrences)

theorem matchesFrom_of_none {r : Searcher} {h : Text} {p : Nat} (none : r.findAt h p = none) (fuel : Nat)
    (previous : Option Nat) : r.matchesFrom h (fuel + 1) p previous = [] := by
  rw [matchesFrom, next?, none]

/-- Behind a match that is not empty the iteration goes on where that match stops. -/
theorem matchesFrom_of_some {r : Searcher} {h : Text} {p : Nat} {m : Match} (hit : r.findAt h p = some m)
    (some_ : m.whole.isEmpty = false) (fuel : Nat) (previous : Option Nat) :
    r.matchesFrom h (fuel + 1) p previous = m :: r.matchesFrom h fuel m.whole.stop (some m.whole.stop) := by
  rw [matchesFrom, next?, hit]
  simp only [some_, Bool.false_and, Bool.false_eq_true, if_false]

/-- Whether a searcher finds the first occurrence of a text from a place on. -/
structure Seeks (r : Searcher) (s : Text) : Prop where
  found {a u : Text} {m : Match} (hit : r.findAt (a ++ u) a.byteSize = some m) :
    ∃ v w, u = v ++ s ++ w ∧ FirstBetween s v w ∧ m = matchBehind (a ++ v) s
  absent {a u : Text} (none : r.findAt (a ++ u) a.byteSize = none) : ¬ s <:+: u

namespace Seeks

variable {r : Searcher} {s h a u : Text} {m : Match}

theorem find_isSome (seeks : r.Seeks s) (a u : Text) : (r.findAt (a ++ u) a.byteSize).isSome = true ↔ s <:+: u := by
  cases hit : r.findAt (a ++ u) a.byteSize with
  | none => simpa using seeks.absent hit
  | some m =>
    obtain ⟨v, w, rfl, -, -⟩ := seeks.found hit
    exact iff_of_true rfl ⟨v, w, rfl⟩

/-- Of two first occurrences each is as early as the other. -/
theorem find_eq_some_iff (seeks : r.Seeks s) (a u : Text) (m : Match) :
    r.findAt (a ++ u) a.byteSize = some m ↔
      ∃ v w, u = v ++ s ++ w ∧ FirstBetween s v w ∧ m = matchBehind (a ++ v) s := by
  refine ⟨seeks.found, ?_⟩
  rintro ⟨v, w, rfl, first, rfl⟩
  cases hit : r.findAt (a ++ (v ++ s ++ w)) a.byteSize with
  | none => exact absurd ⟨v, w, rfl⟩ (seeks.absent hit)
  | some m =>
    obtain ⟨v', w', same, first', rfl⟩ := seeks.found hit
    have as_early : v.length = v'.length := Nat.le_antisymm (first v' w' same) (first' v w same.symm)
    rw [List.append_assoc, List.append_assoc] at same
    rw [(List.append_inj same as_early).1]

/-- An occurrence at the place itself is found there. -/
theorem find_of_prefix (seeks : r.Seeks s) (a w : Text) : r.findAt (a ++ (s ++ w)) a.byteSize = some (matchBehind a s) := by
  refine (seeks.find_eq_some_iff a (s ++ w) _).mpr ⟨[], w, rfl, fun _ _ _ => Nat.zero_le _, ?_⟩
  rw [List.append_nil]

theorem prefix_of_find (seeks : r.Seeks s) (hit : r.findAt (a ++ u) a.byteSize = some m)
    (here : m.whole.start = a.byteSize) : s <+: u := by
  obtain ⟨v, w, rfl, -, rfl⟩ := seeks.found hit
  have size : (a ++ v).byteSize = a.byteSize := here
  have nothing : v = [] := by
    cases v with
    | nil => rfl
    | cons c v =>
      have some := c.utf8Size_pos
      rw [Text.byteSize_append, Text.byteSize_cons] at size
      omega
  exact ⟨w, by rw [nothing]; rfl⟩

/-- All matches from a place on are the occurrences behind it, and the pieces are the parts between them. By induction
on the number of matches that are still allowed, as each takes a character at least. -/
theorem matchesFrom_occurrences (seeks : r.Seeks s) (some : s ≠ []) {fuel : Nat} (a u : Text) (previous : Option Nat)
    (enough : u.length < fuel) :
    Occurrences s a u (r.matchesFrom (a ++ u) fuel a.byteSize previous)
      ((a ++ u).pieces a.byteSize (r.matchesFrom (a ++ u) fuel a.byteSize previous)) := by
  induction fuel generalizing a u previous with
  | zero => omega
  | succ fuel ih =>
    have positive : 0 < s.length := List.length_pos_iff.mpr some
    cases hit : r.findAt (a ++ u) a.byteSize with
    | none =>
      rw [matchesFrom_of_none hit, Text.pieces, Text.dropBytes_byteSize_append]
      exact .none (seeks.absent hit)
    | some m =>
      obtain ⟨v, w, rfl, first, rfl⟩ := seeks.found hit
      have goes : r.matchesFrom (a ++ (v ++ s ++ w)) (fuel + 1) a.byteSize previous =
          matchBehind (a ++ v) s ::
            r.matchesFrom (a ++ v ++ s ++ w) fuel (a ++ v ++ s).byteSize (Option.some (a ++ v ++ s).byteSize) := by
        rw [matchesFrom_of_some hit (matchBehind_not_isEmpty some (a ++ v))]
        simp only [matchBehind, List.append_assoc]
      have shorter : w.length < fuel := by
        rw [List.length_append, List.length_append] at enough
        omega
      have piece : (a ++ (v ++ s ++ w)).slice a.byteSize (a ++ v).byteSize = v := by
        rw [Text.byteSize_append, List.append_assoc, Text.slice_append]
      have more := ih (a ++ v ++ s) w (Option.some (a ++ v ++ s).byteSize) shorter
      rw [goes, Text.pieces]
      show Occurrences s a (v ++ s ++ w) _ ((a ++ (v ++ s ++ w)).slice a.byteSize (a ++ v).byteSize :: _)
      rw [piece]
      refine .next first ?_
      have whole : a ++ (v ++ s ++ w) = a ++ v ++ s ++ w := by simp
      rw [whole]
      exact more

/-- The chain of matches from a place on goes over the text repeated, and ends where it stands no more. -/
theorem chainFrom_repeats (seeks : r.Seeks s) (some : s ≠ []) {fuel : Nat} (a u : Text) (enough : u.length < fuel) :
    ∃ v, u = (List.replicate (r.chainFrom (a ++ u) fuel a.byteSize).length s).flatten ++ v ∧ ¬ s <+: v := by
  induction fuel generalizing a u with
  | zero => omega
  | succ fuel ih =>
    have inside : ¬ (a ++ u).byteSize < a.byteSize := by
      rw [Text.byteSize_append]
      omega
    by_cases starts : s <+: u
    · obtain ⟨w, rfl⟩ := starts
      have goes : r.chainFrom (a ++ (s ++ w)) (fuel + 1) a.byteSize =
          matchBehind a s :: r.chainFrom (a ++ s ++ w) fuel (a ++ s).byteSize := by
        have start : (matchBehind a s).whole.start = a.byteSize := rfl
        rw [Searcher.chainFrom, if_neg inside, seeks.find_of_prefix]
        simp only [matchBehind_not_isEmpty some, Bool.false_eq_true, if_false, start, if_true]
        simp only [matchBehind, List.append_assoc]
      have shorter : w.length < fuel := by
        have positive : 0 < s.length := List.length_pos_iff.mpr some
        rw [List.length_append] at enough
        omega
      obtain ⟨v, split, ends⟩ := ih (a ++ s) w shorter
      refine ⟨v, ?_, ends⟩
      rw [goes, List.length_cons, List.replicate_succ, List.flatten_cons, List.append_assoc, ← split]
    · have stops : r.chainFrom (a ++ u) (fuel + 1) a.byteSize = [] := by
        rw [Searcher.chainFrom, if_neg inside]
        cases hit : r.findAt (a ++ u) a.byteSize with
        | none => rfl
        | some m =>
          have later : m.whole.start ≠ a.byteSize := fun here => starts (seeks.prefix_of_find hit here)
          dsimp only
          rw [if_neg later]
      exact ⟨u, by rw [stops]; rfl, starts⟩

/-- A text that begins with `s` as often as `j` times does so no more often than it is cut from it. -/
private theorem le_of_replicate_prefix {v : Text} (ends : ¬ s <+: v) {j k : Nat}
    (starts : (List.replicate j s).flatten <+: (List.replicate k s).flatten ++ v) : j ≤ k := by
  induction k generalizing j with
  | zero =>
    cases j with
    | zero => exact Nat.le_refl 0
    | succ j =>
      rw [List.replicate_succ, List.flatten_cons] at starts
      exact absurd ((List.prefix_append _ _).trans starts) ends
  | succ k ih =>
    cases j with
    | zero => exact Nat.zero_le _
    | succ j =>
      rw [List.replicate_succ, List.replicate_succ, List.flatten_cons, List.flatten_cons, List.append_assoc,
        List.prefix_append_right_inj] at starts
      exact Nat.succ_le_succ (ih starts)

/-- The chain of matches has as many as the text stands repeated at the beginning. -/
theorem length_chain (seeks : r.Seeks s) (some : s ≠ []) (h : Text) :
    IsGreatest {k | (List.replicate k s).flatten <+: h} (r.chain h).length := by
  have enough : h.length < h.length + 2 := by omega
  obtain ⟨v, split, ends⟩ := seeks.chainFrom_repeats some [] h enough
  refine ⟨⟨v, split.symm⟩, fun j starts => le_of_replicate_prefix ends ?_⟩
  have starts : (List.replicate j s).flatten <+: h := starts
  rwa [split] at starts

theorem allMatches_occurrences (seeks : r.Seeks s) (some : s ≠ []) (h : Text) :
    Occurrences s [] h (r.allMatches h) (h.pieces 0 (r.allMatches h)) :=
  seeks.matchesFrom_occurrences some [] h none (by omega)

end Seeks

end Searcher

namespace Matcher

variable {m : Matcher} {s h : Text}

theorem isMatch_free (m : Matcher) (free : m.isSticky = false) (h : Text) : m.isMatch h = m.searcher.isMatch h := by
  rw [isMatch, free]
  rfl

theorem first?_free (m : Matcher) (free : m.isSticky = false) (h : Text) : m.first? h = m.searcher.findAt h 0 := by
  rw [first?, free, Searcher.captures?]
  cases m.searcher.findAt h 0 <;> rfl

theorem all_free (m : Matcher) (free : m.isSticky = false) (h : Text) : m.all h = m.searcher.allMatches h := by
  rw [all, free]
  rfl

theorem all_sticky (m : Matcher) (sticky : m.isSticky = true) (h : Text) : m.all h = m.searcher.chain h := by
  rw [all, sticky]
  rfl

/-- A first occurrence is at the beginning if the text begins with it. -/
theorem isMatch_sticky (seeks : m.searcher.Seeks s) (sticky : m.isSticky = true) (h : Text) :
    m.isMatch h = true ↔ s <+: h := by
  rw [isMatch, sticky, if_pos rfl, Searcher.find?]
  constructor
  · intro matches_
    cases hit : m.searcher.findAt h 0 with
    | none =>
      rw [hit] at matches_
      cases matches_
    | some found =>
      rw [hit] at matches_
      have start : found.whole.start = Text.byteSize [] := beq_iff_eq.mp matches_
      exact seeks.prefix_of_find (a := []) hit start
  · rintro ⟨w, rfl⟩
    have hit : m.searcher.findAt (s ++ w) 0 = some (Text.matchBehind [] s) := seeks.find_of_prefix [] w
    rw [hit]
    rfl

end Matcher

end PatternKit
