import PatternKit.Proofs.Occurrences
import PatternKit.Proofs.SearchMeaning

/-!
Texts that a searcher picks out of another one. Whether it picks a text may depend on what stands around that text. If the
texts it may pick do not overlap, it finds all of them, from left to right, and nothing else.
-/

set_option autoImplicit false

namespace PatternKit

namespace Text

/-- Whether texts with a property are not empty and stand apart: of two of them in one text the second is the first one
again, or stands behind it. `P a w b` says that `w` has the property between `a` and `b`. -/
structure Apart (P : Text → Text → Text → Prop) : Prop where
  some_ {a w b : Text} (holds : P a w b) : w ≠ []
  apart {a w b a' w' b' : Text} (holds : P a w b) (holds' : P a' w' b') (same : a ++ (w ++ b) = a' ++ (w' ++ b'))
    (order : a.length ≤ a'.length) : a' = a ∧ w' = w ∨ (a ++ w).length ≤ a'.length

end Text

namespace Searcher

open Text (matchBehind matchBehind_not_isEmpty Apart)

/-- Whether a searcher finds from a place on the first text that has a property where it stands. -/
structure Picks (r : Searcher) (P : Text → Text → Text → Prop) : Prop where
  found {a u : Text} {m : Match} (hit : r.findAt (a ++ u) a.byteSize = some m) :
    ∃ v w b, u = v ++ (w ++ b) ∧ P (a ++ v) w b ∧ m = matchBehind (a ++ v) w ∧
      ∀ v' w' b', u = v' ++ (w' ++ b') → P (a ++ v') w' b' → v.length ≤ v'.length
  absent {a u v w b : Text} (none : r.findAt (a ++ u) a.byteSize = none) (split : u = v ++ (w ++ b)) :
    ¬ P (a ++ v) w b

namespace Picks

variable {r : Searcher} {P : Text → Text → Text → Prop} {fuel : Nat} {a u v w b : Text} {m : Match}

/-- What is picked behind a text that has been picked is all that can be picked, but for that text. -/
private theorem behind_iff (apart : Apart P) (holds : P (a ++ v) w b)
    (first : ∀ v' w' b', v ++ (w ++ b) = v' ++ (w' ++ b') → P (a ++ v') w' b' → v.length ≤ v'.length) :
    (∃ v' w' b', v ++ (w ++ b) = v' ++ (w' ++ b') ∧ P (a ++ v') w' b' ∧ m = matchBehind (a ++ v') w') ↔
      m = matchBehind (a ++ v) w ∨
        ∃ v' w' b', b = v' ++ (w' ++ b') ∧ P (a ++ v ++ w ++ v') w' b' ∧ m = matchBehind (a ++ v ++ w ++ v') w' := by
  constructor
  · rintro ⟨v', w', b', split, holds', rfl⟩
    have same : a ++ v ++ (w ++ b) = a ++ v' ++ (w' ++ b') := by
      rw [List.append_assoc, split, List.append_assoc]
    have order : (a ++ v).length ≤ (a ++ v').length := by
      rw [List.length_append, List.length_append]
      exact Nat.add_le_add_left (first v' w' b' split holds') _
    rcases apart.apart holds holds' same order with ⟨place, rfl⟩ | behind
    · exact .inl (by rw [place])
    · rw [← List.append_assoc] at same
      obtain ⟨x, grown⟩ : a ++ v ++ w <+: a ++ v' := List.prefix_of_prefix_length_le ⟨b, same⟩ ⟨w' ++ b', rfl⟩ behind
      rw [← grown, List.append_assoc (a ++ v ++ w)] at same
      rw [← grown] at holds' ⊢
      exact .inr ⟨x, w', b', List.append_cancel_left same, holds', rfl⟩
  · rintro (rfl | ⟨v', w', b', rfl, holds', rfl⟩)
    · exact ⟨v, w, b, rfl, holds, rfl⟩
    · have place : a ++ v ++ w ++ v' = a ++ (v ++ w ++ v') := by simp
      rw [place] at holds' ⊢
      exact ⟨v ++ w ++ v', w', b', by simp, holds', rfl⟩

/-- All matches from a place on come from left to right, and are those of the texts that may be picked behind it. By
induction on the number of matches that are still allowed, as each takes a character at least. -/
theorem matchesFrom (picks : r.Picks P) (apart : Apart P) (a u : Text) (previous : Option Nat) (enough : u.length < fuel) :
    ((r.matchesFrom (a ++ u) fuel a.byteSize previous).Pairwise fun m m' => m.whole.start < m'.whole.start) ∧
      ∀ m, m ∈ r.matchesFrom (a ++ u) fuel a.byteSize previous ↔
        ∃ v w b, u = v ++ (w ++ b) ∧ P (a ++ v) w b ∧ m = matchBehind (a ++ v) w := by
  induction fuel generalizing a u previous with
  | zero => omega
  | succ fuel ih =>
    cases hit : r.findAt (a ++ u) a.byteSize with
    | none =>
      rw [matchesFrom_of_none hit]
      refine ⟨.nil, fun m => iff_of_false List.not_mem_nil ?_⟩
      rintro ⟨v, w, b, split, holds, -⟩
      exact picks.absent hit split holds
    | some found =>
      obtain ⟨v, w, b, rfl, holds, rfl, first⟩ := picks.found hit
      have some_ := apart.some_ holds
      have goes : r.matchesFrom (a ++ (v ++ (w ++ b))) (fuel + 1) a.byteSize previous = matchBehind (a ++ v) w ::
          r.matchesFrom (a ++ v ++ w ++ b) fuel (a ++ v ++ w).byteSize (some (a ++ v ++ w).byteSize) := by
        rw [matchesFrom_of_some hit (matchBehind_not_isEmpty some_ (a ++ v))]
        simp only [matchBehind, List.append_assoc]
      have shorter : b.length < fuel := by
        have positive := List.length_pos_iff.mpr some_
        rw [List.length_append, List.length_append] at enough
        omega
      obtain ⟨ordered, members⟩ := ih (a ++ v ++ w) b (some (a ++ v ++ w).byteSize) shorter
      rw [goes]
      refine ⟨.cons (fun m later => ?_) ordered, fun m => ?_⟩
      · obtain ⟨v', w', b', -, -, rfl⟩ := (members m).mp later
        have positive := Text.byteSize_pos some_
        show (a ++ v).byteSize < (a ++ v ++ w ++ v').byteSize
        rw [Text.byteSize_append (a ++ v ++ w), Text.byteSize_append (a ++ v)]
        omega
      · rw [List.mem_cons, members, behind_iff apart holds first]

theorem allMatches (picks : r.Picks P) (apart : Apart P) (h : Text) :
    ((r.allMatches h).Pairwise fun m m' => m.whole.start < m'.whole.start) ∧
      ∀ m, m ∈ r.allMatches h ↔ ∃ a w b, h = a ++ (w ++ b) ∧ P a w b ∧ m = matchBehind a w :=
  picks.matchesFrom apart [] h none (by omega)

end Picks

end Searcher

/-- The searcher for an expression without groups picks the texts that its program accepts behind. -/
theorem Regex.searcher_picks {e : Expr} {P : Text → Text → Text → Prop} (accepts : (Program.ofExpr e).Accepts P)
    (noGroups : e.groupNames = []) (text : Text) : (searcher text e).Picks P where
  found := by
    intro a u m hit
    obtain ⟨⟨start, t⟩, found, rfl⟩ := Option.map_eq_some_iff.mp hit
    obtain ⟨v, x, rfl, rfl, first⟩ := Program.find?_eq_some (Program.ofExpr_closed _) found
    obtain ⟨w, b, rfl, holds, place⟩ := accepts.of_firstFound first
    refine ⟨v, w, b, rfl, holds, ?_, fun v' w' b' split holds' => ?_⟩
    · dsimp only
      rw [noGroups, matchOf, place]
      rfl
    · refine Nat.le_of_not_lt fun earlier => ?_
      exact first.before v' (w' ++ b') split earlier (accepts.acceptsAt.mpr ⟨w', b', rfl, holds'⟩)
  absent := by
    intro a u v w b hit split holds
    have absent := Program.find?_eq_none (Program.ofExpr_closed _) (Option.map_eq_none_iff.mp hit) split
    exact absent (accepts.acceptsAt.mpr ⟨w, b, rfl, holds⟩)

end PatternKit
