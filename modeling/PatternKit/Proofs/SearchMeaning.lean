import Mathlib.Logic.Relation
import PatternKit.Proofs.RunMeaning

/-!
What searches find. A run that fails has visited nothing that lies on a way to the end of the program. So the next run
misses nothing by passing over what has been visited, and the search comes to the first place from which there is a way
to the end. For an expression without conditions these are the places where a text begins that it matches.
-/

set_option autoImplicit false

namespace PatternKit.Regex

namespace Cursor

/-- Seeking comes to the place behind a part of the text. -/
private theorem seek_between (r s u : Text) :
    seek (r ++ s).byteSize r.getLast? r.byteSize (s ++ u) = some (between (r ++ s) u) := by
  induction s generalizing r with
  | nil =>
    rw [List.append_nil]
    cases u <;> exact if_pos (Nat.le_refl _)
  | cons c s ih =>
    have before : ¬ (r ++ c :: s).byteSize ≤ r.byteSize := by
      have some := c.utf8Size_pos
      rw [Text.byteSize_append, Text.byteSize_cons]
      omega
    have size : (r ++ [c]).byteSize = r.byteSize + c.utf8Size := by simp
    have next := ih (r ++ [c])
    rw [List.append_assoc, List.getLast?_concat, size] at next
    rw [List.cons_append, seek, if_neg before]
    exact next

theorem at?_between (s u : Text) : at? (s ++ u) s.byteSize = some (between s u) := seek_between [] s u

end Cursor

namespace Program

variable {p : Program} {h s u : Text} {visited visited' : Visited} {t t' : Thread}

/-- Whether an instruction leads from one thread to another. -/
def Step (p : Program) (t t' : Thread) : Prop := ∃ i, p.code[t.address]? = some i ∧ t' ∈ t.step i

/-- Whether a run from a place may come to the end of a program. -/
def AcceptsAt (p : Program) (s u : Text) : Prop := ∃ goal n, p.AcceptsIn goal n 0 (.between s u)

/-- Whether all ways to the end that there are lead past what has been visited. -/
def Spares (p : Program) (h : Text) (visited : Visited) : Prop :=
  ∀ t, p.Stands h t → p.Escapes {} t → p.Escapes visited t

/-- What a run accepts has come from one of the threads that it begins with. -/
theorem explore_leads {fuel : Nat} {ts : List Thread} (accepted : (p.explore fuel visited ts).1 = some t) :
    p.code[t.address]? = none ∧ ∃ first ∈ ts, Relation.ReflTransGen p.Step first t := by
  induction fuel generalizing visited ts with
  | zero => cases accepted
  | succ fuel ih =>
    cases ts with
    | nil => cases accepted
    | cons first ts =>
      rw [explore] at accepted
      split at accepted
      · obtain ⟨ended, origin, member, leads⟩ := ih accepted
        exact ⟨ended, origin, List.mem_cons_of_mem _ member, leads⟩
      · cases there : p.code[first.address]? with
        | none =>
          rw [there] at accepted
          obtain rfl := Option.some.inj accepted
          exact ⟨there, first, List.mem_cons_self, .refl⟩
        | some i =>
          rw [there] at accepted
          obtain ⟨ended, origin, member, leads⟩ := ih accepted
          refine ⟨ended, ?_⟩
          rcases List.mem_append.mp member with next | waiting
          · exact ⟨first, List.mem_cons_self, .head ⟨i, there, next⟩ leads⟩
          · exact ⟨origin, List.mem_cons_of_mem _ waiting, leads⟩

/-- A run that fails leaves all ways open that were so before it. By induction on its steps: a way that comes to the
thread that is visited next would be found from there. -/
theorem escapes_of_explore_eq_none (closed : p.Closed) (split : h = s ++ u) {fuel : Nat} {ts : List Thread}
    (stands : ∀ t ∈ ts, p.Stands h t ∧ s.byteSize ≤ t.cursor.offset)
    (enough : ts.length + 2 * ((p.keysFrom s u).countP fun k => !visited.contains k) < fuel)
    (failed : p.explore fuel visited ts = (none, visited')) (there : p.Stands h t) (escapes : p.Escapes visited t) :
    p.Escapes visited' t := by
  induction fuel generalizing visited ts with
  | zero => omega
  | succ fuel ih =>
    cases ts with
    | nil =>
      obtain ⟨-, rfl⟩ := Prod.mk.inj failed
      exact escapes
    | cons first ts =>
      obtain ⟨here, ahead⟩ := stands first List.mem_cons_self
      have others : ∀ t ∈ ts, p.Stands h t ∧ s.byteSize ≤ t.cursor.offset := fun t member =>
        stands t (List.mem_cons_of_mem _ member)
      rw [explore] at failed
      rw [List.length_cons] at enough
      by_cases been : visited.contains (p.key first) = true
      · rw [if_pos been] at failed
        exact ih others (by omega) failed escapes
      · have fresh : visited.contains (p.key first) = false := by simpa using been
        rw [if_neg been] at failed
        cases at_ : p.code[first.address]? with
        | none =>
          rw [at_] at failed
          cases (Prod.mk.inj failed).1
        | some i =>
          rw [at_] at failed
          dsimp only at failed
          obtain ⟨next, less⟩ := explore_next closed split here ahead others fresh at_ (by omega)
          rcases escapes.insert closed there here at_ with onward | ⟨w, new, onward⟩
          · exact ih next less failed onward
          · have found := (explore_isSome closed split next less).mpr ⟨w, List.mem_append_left _ new, onward⟩
            rw [failed] at found
            cases found

theorem spares_nothing (p : Program) (h : Text) : p.Spares h {} := fun _ _ escapes => escapes

theorem Spares.after_runAt (spares : p.Spares (s ++ u) visited) (closed : p.Closed)
    (failed : p.runAt visited (.between s u) = (none, visited')) : p.Spares (s ++ u) visited' := by
  intro t stands escapes
  exact escapes_of_explore_eq_none closed rfl (p.stands_first s u) (p.fresh_lt_steps s u visited) failed stands
    (spares t stands escapes)

theorem Escapes.of_visited (escapes : p.Escapes visited t) : p.Escapes {} t := by
  induction escapes with
  | stop _ ended => exact .stop (by simp) ended
  | step _ there next _ ih => exact .step (by simp) there next ih

/-- Past what failed runs have visited a run accepts from the same places as without them. -/
theorem Spares.runAt_isSome (spares : p.Spares (s ++ u) visited) (closed : p.Closed) :
    (p.runAt visited (.between s u)).1.isSome = true ↔ p.AcceptsAt s u := by
  rw [runAt_escapes closed]
  refine ⟨fun escapes => (escapes_iff p _).mp escapes.of_visited, fun accepts => ?_⟩
  exact spares _ (p.stands_first s u _ List.mem_cons_self).1 ((escapes_iff p _).mpr accepts)

/-- Whether a thread ends a run from a place, and from no place before that one, but not before `s`, a run could come
to an end. `v` is what is passed over. -/
structure FirstFound (p : Program) (s v w : Text) (t : Thread) : Prop where
  accepts : p.AcceptsAt (s ++ v) w
  before : ∀ v' w', v ++ w = v' ++ w' → v'.length < v.length → ¬ p.AcceptsAt (s ++ v') w'
  ended : p.code[t.address]? = none
  leads : Relation.ReflTransGen p.Step ⟨0, .between (s ++ v) w, []⟩ t

/-- What a run accepts from where a search begins is what the search finds. -/
private theorem Spares.firstFound (spares : p.Spares (s ++ u) visited) (closed : p.Closed)
    (accepted : (p.runAt visited (.between s u)).1 = some t) : p.FirstFound s [] u t := by
  obtain ⟨ended, first, member, leads⟩ := explore_leads accepted
  rw [List.mem_singleton.mp member] at leads
  have accepts : p.AcceptsAt s u := (spares.runAt_isSome closed).mp (by rw [accepted]; rfl)
  refine ⟨?_, fun _ _ _ less => absurd less (Nat.not_lt_zero _), ended, ?_⟩
  · rwa [List.append_nil]
  · rwa [List.append_nil]

/-- Passing over one character, from where no run comes to an end. -/
private theorem FirstFound.cons {c : Char} {v w : Text} (found : p.FirstFound (s ++ [c]) v w t)
    (not : ¬ p.AcceptsAt s (c :: (v ++ w))) : p.FirstFound s (c :: v) w t := by
  have same : s ++ [c] ++ v = s ++ c :: v := by simp
  refine ⟨same ▸ found.accepts, fun v' w' split less => ?_, found.ended, same ▸ found.leads⟩
  cases v' with
  | nil =>
    obtain rfl : c :: (v ++ w) = w' := split
    rwa [List.append_nil]
  | cons d v' =>
    obtain ⟨rfl, rest⟩ := List.cons.inj split
    have earlier := found.before v' w' rest (Nat.lt_of_succ_lt_succ less)
    rwa [List.append_assoc] at earlier

/-- Where no run comes to an end, the search goes on behind the next character, and all ways are still open. -/
private theorem Spares.search_cons (spares : p.Spares (s ++ u) visited) (closed : p.Closed) {c : Char} {cs : Text}
    (split : u = c :: cs) (refused : p.runAt visited (.between s u) = (none, visited')) :
    p.Spares (s ++ [c] ++ cs) visited' ∧ ¬ p.AcceptsAt s u ∧
      p.search visited' (some c) (s.byteSize + c.utf8Size) cs =
        p.search visited' (s ++ [c]).getLast? (s ++ [c]).byteSize cs := by
  subst split
  have size : (s ++ [c]).byteSize = s.byteSize + c.utf8Size := by simp
  refine ⟨?_, ?_, by rw [List.getLast?_concat, size]⟩
  · rw [List.append_assoc]
    exact spares.after_runAt closed refused
  · rw [← spares.runAt_isSome closed, refused]
    exact Bool.false_ne_true

/-- A search goes over the text character by character, and stops at the first place from where a run comes to an
end. -/
theorem search_eq_some (closed : p.Closed) {start : Nat} (spares : p.Spares (s ++ u) visited)
    (found : p.search visited s.getLast? s.byteSize u = some (start, t)) :
    ∃ v w, u = v ++ w ∧ start = (s ++ v).byteSize ∧ p.FirstFound s v w t := by
  induction u generalizing s visited with
  | nil =>
    rw [search] at found
    obtain ⟨t', accepted, same⟩ := Option.map_eq_some_iff.mp found
    obtain ⟨rfl, rfl⟩ := Prod.mk.inj same
    exact ⟨[], [], rfl, by rw [List.append_nil], spares.firstFound closed accepted⟩
  | cons c cs ih =>
    rw [search] at found
    split at found
    · rename_i t' visited' accepted
      obtain ⟨rfl, rfl⟩ := Prod.mk.inj (Option.some.inj found)
      have first : (p.runAt visited (.between s (c :: cs))).1 = some t' := congrArg Prod.fst accepted
      exact ⟨[], c :: cs, rfl, by rw [List.append_nil], spares.firstFound closed first⟩
    · rename_i visited' refused
      obtain ⟨further, not, same⟩ := spares.search_cons closed rfl refused
      rw [same] at found
      obtain ⟨v, w, rfl, rfl, first⟩ := ih further found
      exact ⟨c :: v, w, rfl, by simp, first.cons not⟩

/-- A search that finds nothing has come by no place from where a run comes to an end. -/
theorem search_eq_none (closed : p.Closed) (spares : p.Spares (s ++ u) visited)
    (absent : p.search visited s.getLast? s.byteSize u = none) {v w : Text} (split : u = v ++ w) :
    ¬ p.AcceptsAt (s ++ v) w := by
  induction u generalizing s visited v with
  | nil =>
    obtain ⟨rfl, rfl⟩ := List.nil_eq_append_iff.mp split
    rw [search, Option.map_eq_none_iff] at absent
    have refused : (p.runAt visited (.between s [])).1 = none := absent
    rw [List.append_nil, ← spares.runAt_isSome closed, refused]
    exact Bool.false_ne_true
  | cons c cs ih =>
    rw [search] at absent
    split at absent
    · cases absent
    · rename_i visited' refused
      obtain ⟨further, not, same⟩ := spares.search_cons closed rfl refused
      rw [same] at absent
      cases v with
      | nil =>
        obtain rfl : c :: cs = w := split
        rwa [List.append_nil]
      | cons d v =>
        obtain ⟨rfl, rest⟩ := List.cons.inj split
        have later := ih further absent rest
        rwa [List.append_assoc] at later

theorem find?_eq_some (closed : p.Closed) {start : Nat} (found : p.find? (s ++ u) s.byteSize = some (start, t)) :
    ∃ v w, u = v ++ w ∧ start = (s ++ v).byteSize ∧ p.FirstFound s v w t := by
  rw [find?, Cursor.at?_between] at found
  exact search_eq_some closed (p.spares_nothing _) found

theorem find?_eq_none (closed : p.Closed) (absent : p.find? (s ++ u) s.byteSize = none) {v w : Text}
    (split : u = v ++ w) : ¬ p.AcceptsAt (s ++ v) w := by
  rw [find?, Cursor.at?_between] at absent
  exact search_eq_none closed (p.spares_nothing _) absent split

/-- A way to the end of a program is a run that accepts where the way ends. -/
theorem acceptsIn_of_leads (leads : Relation.ReflTransGen p.Step t t') (ended : p.code[t'.address]? = none) :
    ∃ n, p.AcceptsIn t'.cursor n t.address t.cursor := by
  induction leads using Relation.ReflTransGen.head_induction_on with
  | refl => exact ⟨0, ended, rfl⟩
  | head step _ ih =>
    obtain ⟨i, there, next⟩ := step
    obtain ⟨n, accepts⟩ := ih
    exact ⟨n + 1, accepts.after there next⟩

namespace Accepts

variable {P : Text → Text → Text → Prop} {v w : Text}

/-- A program comes to its end from the places where a text begins that it accepts behind. -/
theorem acceptsAt (accepts : p.Accepts P) : p.AcceptsAt s u ↔ ∃ v w, u = v ++ w ∧ P s v w := by
  constructor
  · rintro ⟨goal, run⟩
    obtain ⟨v, w, split, holds, -⟩ := (accepts s u goal).mp run
    exact ⟨v, w, split, holds⟩
  · rintro ⟨v, w, split, holds⟩
    exact ⟨_, (accepts s u _).mpr ⟨v, w, split, holds, rfl⟩⟩

/-- What a search finds ends behind such a text. -/
theorem of_firstFound (accepts : p.Accepts P) (first : p.FirstFound s v u t) :
    ∃ w w', u = w ++ w' ∧ P (s ++ v) w w' ∧ t.cursor = .between (s ++ v ++ w) w' :=
  (accepts _ _ _).mp (acceptsIn_of_leads first.leads first.ended)

end Accepts

end Program

/-- The searcher for an expression without conditions finds something in the texts that hold a text which the expression
matches. -/
theorem searcher_isMatch {e : Expr} (plain : e.Unconditional) (text h : Text) :
    (searcher text e).isMatch h = true ↔ ∃ s v w, h = s ++ (v ++ w) ∧ e.Matches v := by
  have closed := Program.ofExpr_closed e
  have found : (searcher text e).isMatch h = ((Program.ofExpr e).find? ([] ++ h) (Text.byteSize [])).isSome :=
    Option.isSome_map
  rw [found]
  constructor
  · intro some_
    obtain ⟨⟨start, t⟩, hit⟩ := Option.isSome_iff_exists.mp some_
    obtain ⟨s, u, rfl, -, first⟩ := Program.find?_eq_some closed hit
    obtain ⟨v, w, rfl, matched⟩ := (Program.accepts_ofExpr plain).acceptsAt.mp first.accepts
    exact ⟨s, v, w, rfl, matched⟩
  · rintro ⟨s, v, w, rfl, matched⟩
    cases hit : (Program.ofExpr e).find? ([] ++ (s ++ (v ++ w))) (Text.byteSize []) with
    | some result => rfl
    | none =>
      have accepts : (Program.ofExpr e).AcceptsAt s (v ++ w) :=
        (Program.accepts_ofExpr plain).acceptsAt.mpr ⟨v, w, rfl, matched⟩
      exact absurd accepts (Program.find?_eq_none closed hit rfl)

end PatternKit.Regex
