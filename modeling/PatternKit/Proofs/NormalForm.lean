import PatternKit.Proofs.CodeMeaning

/-!
Normal forms. Sequences, alternatives and repetitions are brought into a normal form as they are made. Making them adds
no condition; and a sequence matches what its members match one after the other, a repetition as many texts as it
allows.
-/

set_option autoImplicit false

namespace PatternKit.Regex

variable {P : Text → Prop} {counts : Nat → Prop} {w : Text}

/-- Any allowed number of empty texts is an empty text. -/
theorem Repeats.empty_iff (only : ∀ u, P u ↔ u = []) {n : Nat} (allowed : counts n) : Repeats P counts w ↔ w = [] := by
  constructor
  · rintro ⟨parts, -, rfl, all⟩
    exact List.flatten_eq_nil_iff.mpr fun u member => (only u).mp (all u member)
  · rintro rfl
    refine ⟨List.replicate n [], by rwa [List.length_replicate], by simp, fun u member => ?_⟩
    exact (only u).mpr (List.eq_of_mem_replicate member)

theorem Repeats.congr {Q : Text → Prop} {counts' : Nat → Prop} (same : ∀ u, P u ↔ Q u)
    (sameCounts : ∀ n, counts n ↔ counts' n) : Repeats P counts w ↔ Repeats Q counts' w := by
  obtain rfl : P = Q := funext fun u => propext (same u)
  obtain rfl : counts = counts' := funext fun n => propext (sameCounts n)
  rfl

namespace Expr

variable {e : Expr} {es fs : List Expr} {min : Nat} {max : Option Nat}

theorem unconditionalAll_iff : UnconditionalAll es ↔ ∀ e ∈ es, e.Unconditional := by
  induction es with
  | nil => simp [UnconditionalAll]
  | cons e es ih => simp [UnconditionalAll, ih]

/-! Sequences. -/

theorem matchesAll_append : MatchesAll (es ++ fs) w ↔ ∃ u v, w = u ++ v ∧ MatchesAll es u ∧ MatchesAll fs v := by
  induction es generalizing w with
  | nil =>
    constructor
    · intro all
      exact ⟨[], w, rfl, rfl, all⟩
    · rintro ⟨_, v, rfl, rfl, all⟩
      exact all
  | cons e es ih =>
    rw [List.cons_append, MatchesAll]
    constructor
    · rintro ⟨u, _, rfl, first, rest⟩
      obtain ⟨v, t, rfl, more, further⟩ := ih.mp rest
      exact ⟨u ++ v, t, (List.append_assoc _ _ _).symm, ⟨u, v, rfl, first, more⟩, further⟩
    · rintro ⟨_, t, rfl, ⟨u, v, rfl, first, more⟩, further⟩
      exact ⟨u, v ++ t, List.append_assoc _ _ _, first, ih.mpr ⟨v, t, rfl, more, further⟩⟩

theorem matchesAll_nil : MatchesAll [] w ↔ w = [] := Iff.rfl

theorem matchesAll_singleton : MatchesAll [e] w ↔ e.Matches w := by
  simp [MatchesAll]

theorem matchesAll_literal {text : Text} :
    MatchesAll (.literal text :: es) w ↔ ∃ u, w = text ++ u ∧ MatchesAll es u := by
  constructor
  · rintro ⟨_, u, rfl, rfl, rest⟩
    exact ⟨u, rfl, rest⟩
  · rintro ⟨u, rfl, rest⟩
    exact ⟨text, u, rfl, rfl, rest⟩

theorem matchesAll_set {ascii : Bool} {s : CharSet} :
    MatchesAll (.set ascii s :: es) w ↔ ∃ c u, w = c :: u ∧ s.contains c = true ∧ MatchesAll es u := by
  constructor
  · rintro ⟨_, u, rfl, ⟨c, rfl, member⟩, rest⟩
    exact ⟨c, u, rfl, member, rest⟩
  · rintro ⟨c, u, rfl, member, rest⟩
    exact ⟨[c], u, rfl, ⟨c, rfl, member⟩, rest⟩

private theorem matchesAll_parts (e : Expr) (es : List Expr) :
    MatchesAll (parts e ++ es) w ↔ MatchesAll (e :: es) w := by
  rw [matchesAll_append, MatchesAll]
  have own (u : Text) : MatchesAll (parts e) u ↔ Matches e u := by
    cases e with
    | empty => rfl
    | sequence items => rfl
    | _ => exact matchesAll_singleton
  simp only [own]

private theorem matchesAll_consPart (e : Expr) (es : List Expr) :
    MatchesAll (consPart e es) w ↔ MatchesAll (e :: es) w := by
  unfold consPart
  split
  · rename_i s t rest
    -- the two literals are one, which is split where they meet
    simp only [MatchesAll, Matches]
    constructor
    · rintro ⟨u, v, rfl, rfl, all⟩
      exact ⟨s, t ++ v, List.append_assoc _ _ _, rfl, t, v, rfl, rfl, all⟩
    · rintro ⟨s, _, rfl, rfl, t, v, rfl, rfl, all⟩
      exact ⟨s ++ t, v, (List.append_assoc _ _ _).symm, rfl, all⟩
  · rfl

/-- A sequence matches what its members match one after the other. -/
theorem matches_ofList (es : List Expr) (w : Text) : (ofList es).Matches w ↔ MatchesAll es w := by
  have flat : MatchesAll (es.flatMap parts) w ↔ MatchesAll es w := by
    induction es generalizing w with
    | nil => rfl
    | cons e es ih => rw [List.flatMap_cons, matchesAll_parts, MatchesAll, MatchesAll]; simp only [ih]
  have joined (es : List Expr) (w : Text) : MatchesAll (es.foldr consPart []) w ↔ MatchesAll es w := by
    induction es generalizing w with
    | nil => rfl
    | cons e es ih => rw [List.foldr_cons, matchesAll_consPart, MatchesAll, MatchesAll]; simp only [ih]
  rw [← flat, ← joined]
  unfold ofList
  split
  · rename_i none
    rw [none]
    rfl
  · rename_i e one
    rw [one]
    exact matchesAll_singleton.symm
  · rfl

theorem Unconditional.ofList (plain : ∀ e ∈ es, e.Unconditional) : (Expr.ofList es).Unconditional := by
  have flat : ∀ e ∈ es.flatMap parts, e.Unconditional := by
    intro x member
    obtain ⟨e, there, member⟩ := List.mem_flatMap.mp member
    have whole := plain e there
    cases e with
    | empty => cases member
    | sequence items => exact unconditionalAll_iff.mp whole x member
    | _ => rwa [List.mem_singleton.mp member]
  have cons (e : Expr) (es : List Expr) (first : e.Unconditional) (rest : ∀ e ∈ es, e.Unconditional) :
      ∀ x ∈ consPart e es, x.Unconditional := by
    unfold consPart
    split
    · exact List.forall_mem_cons.mpr ⟨trivial, fun x member => rest x (List.mem_cons_of_mem _ member)⟩
    · exact List.forall_mem_cons.mpr ⟨first, rest⟩
  have joined (es : List Expr) (plain : ∀ e ∈ es, e.Unconditional) : ∀ x ∈ es.foldr consPart [], x.Unconditional := by
    induction es with
    | nil => simp
    | cons e es ih =>
      obtain ⟨first, rest⟩ := List.forall_mem_cons.mp plain
      exact cons e _ first (ih rest)
  have all := joined _ flat
  unfold Expr.ofList
  split
  · trivial
  · rename_i e one
    exact all e (by rw [one]; exact List.mem_cons_self)
  · exact unconditionalAll_iff.mpr all

/-! Alternatives. -/

theorem Unconditional.ofSet (ascii : Bool) (s : CharSet) : (Expr.ofSet ascii s).Unconditional := by
  unfold Expr.ofSet
  split
  · trivial
  · split <;> trivial

theorem Unconditional.oneOf (plain : ∀ e ∈ es, e.Unconditional) : (Expr.oneOf es).Unconditional := by
  have flat : ∀ e ∈ es.flatMap branches, e.Unconditional := by
    intro x member
    obtain ⟨e, there, member⟩ := List.mem_flatMap.mp member
    have whole := plain e there
    cases e with
    | alternatives items => exact unconditionalAll_iff.mp whole.2 x member
    | _ => rwa [List.mem_singleton.mp member]
  unfold Expr.oneOf
  split
  · trivial
  · rename_i e one
    exact flat e (by rw [one]; exact List.mem_cons_self)
  · rename_i some _
    split
    · exact .ofSet _ _
    · split
      · exact .ofSet _ _
      · exact ⟨some, unconditionalAll_iff.mpr flat⟩

private theorem mem_of_mem_commonStart {x : Expr} (member : x ∈ commonStart es fs) : x ∈ es := by
  fun_induction commonStart es fs with
  | case1 e es f fs same ih =>
    rcases List.mem_cons.mp member with rfl | member
    · exact List.mem_cons_self
    · exact List.mem_cons_of_mem e (ih member)
  | case2 => cases member
  | case3 => cases member

private theorem mem_of_mem_foldl_commonStart {x : Expr} {more : List (List Expr)}
    (member : x ∈ more.foldl commonStart es) : x ∈ es := by
  induction more generalizing es with
  | nil => exact member
  | cons fs more ih => exact mem_of_mem_commonStart (ih member)

/-- The parts of sequences without conditions have none. -/
private theorem unconditional_of_mapM_sequence? {branches : List Expr} {rows : List (List Expr)}
    (plain : ∀ e ∈ branches, e.Unconditional) (made : branches.mapM sequence? = some rows) :
    ∀ es ∈ rows, ∀ e ∈ es, e.Unconditional := by
  induction branches generalizing rows with
  | nil =>
    obtain rfl := Option.some.inj made
    simp
  | cons b branches ih =>
    obtain ⟨first, rest⟩ := List.forall_mem_cons.mp plain
    simp only [List.mapM_cons, Option.bind_eq_bind, Option.bind_eq_some_iff] at made
    obtain ⟨row, sequence, more, made, all⟩ := made
    obtain rfl := Option.some.inj all
    refine List.forall_mem_cons.mpr ⟨?_, ih rest made⟩
    cases b with
    | sequence items =>
      obtain rfl : items = row := Option.some.inj sequence
      exact unconditionalAll_iff.mp first
    | _ => cases sequence

theorem Unconditional.ofBranches (plain : ∀ e ∈ es, e.Unconditional) : (Expr.ofBranches es).Unconditional := by
  have one := Unconditional.oneOf plain
  unfold Expr.ofBranches
  split
  · rename_i branches same
    rw [same] at one
    have inside := unconditionalAll_iff.mp one.2
    split
    · rename_i first more made
      have rows := unconditional_of_mapM_sequence? inside made
      dsimp only
      split
      · exact one
      · refine .ofList fun e member => ?_
        rcases List.mem_append.mp member with front | rest
        · exact rows first List.mem_cons_self e (mem_of_mem_foldl_commonStart front)
        · rw [List.mem_singleton.mp rest]
          refine .oneOf fun e member => ?_
          obtain ⟨es, there, rfl⟩ := List.mem_map.mp member
          exact .ofList fun e member => rows es there e (List.mem_of_mem_drop member)
    · exact one
  · exact one

/-! Repetitions. -/

theorem Unconditional.repeated (plain : e.Unconditional) (min : Nat) (max : Option Nat) (greedy : Bool) :
    (Expr.repeated min max greedy e).Unconditional := by
  unfold Expr.repeated
  generalize (if e.onlyEmpty then _ else _ : Nat × Option Nat) = bound
  dsimp only
  split
  · trivial
  · split <;> exact plain

private theorem allows_least (min : Nat) (max : Option Nat) : Allows min max min :=
  ⟨Nat.le_refl min, fun m _ => Nat.le_add_right min (m - min)⟩

theorem allows_times (n k : Nat) : Allows n (some n) k ↔ k = n := by
  simp only [Allows, Option.mem_some_iff, forall_eq']
  omega

/-- A repetition with a single bound has this many parts. -/
theorem matches_times {n : Nat} {greedy : Bool} :
    (repetition n (some n) greedy e).Matches w ↔ Repeats e.Matches (· = n) w :=
  Repeats.congr (fun _ => Iff.rfl) (allows_times n)

/-- A repetition of a set matches the texts of members that have one of the lengths. -/
theorem matches_repetition_set {ascii greedy : Bool} {s : CharSet} {min : Nat} {max : Option Nat} :
    (repetition min max greedy (.set ascii s)).Matches w ↔ Allows min max w.length ∧ ∀ c ∈ w, s.contains c = true := by
  have joined (w : Text) : (w.map fun c => [c]).flatten = w := by
    rw [← List.flatMap_def]
    exact List.flatMap_singleton' w
  constructor
  · rintro ⟨parts, allowed, rfl, each⟩
    obtain ⟨w, rfl, members⟩ : ∃ w : Text, parts = w.map (fun c => [c]) ∧ ∀ c ∈ w, s.contains c = true := by
      clear allowed
      induction parts with
      | nil => exact ⟨[], rfl, by simp⟩
      | cons part parts ih =>
        obtain ⟨⟨c, rfl, member⟩, rest⟩ := List.forall_mem_cons.mp each
        obtain ⟨w, rfl, members⟩ := ih rest
        exact ⟨c :: w, rfl, List.forall_mem_cons.mpr ⟨member, members⟩⟩
    rw [joined]
    rw [List.length_map] at allowed
    exact ⟨allowed, members⟩
  · rintro ⟨allowed, members⟩
    refine ⟨w.map fun c => [c], by rwa [List.length_map], (joined w).symm, fun part member => ?_⟩
    obtain ⟨c, inText, rfl⟩ := List.mem_map.mp member
    exact ⟨c, rfl, members c inText⟩

theorem matches_optional {greedy : Bool} : (repetition 0 (some 1) greedy e).Matches w ↔ w = [] ∨ e.Matches w := by
  have counts (k : Nat) : Allows 0 (some 1) k ↔ k = 0 ∨ k = 1 := by
    simp only [Allows, Option.mem_some_iff, forall_eq']
    omega
  rw [← Repeats.none_iff (P := e.Matches), ← Repeats.one_iff (P := e.Matches), Repeats.or_iff]
  exact Repeats.congr (fun _ => Iff.rfl) counts

mutual

private theorem matches_of_onlyEmpty (e : Expr) (plain : e.Unconditional) (only : e.onlyEmpty = true) (w : Text) :
    e.Matches w ↔ w = [] := by
  cases e with
  | empty => rfl
  | literal text => cases only
  | set ascii s => cases only
  | look l => exact plain.elim
  | repetition min max greedy e => exact Repeats.empty_iff (matches_of_onlyEmpty e plain only) (allows_least min max)
  | capture index name e => exact matches_of_onlyEmpty e plain only w
  | sequence es => exact matchesAll_of_onlyEmpty es plain only w
  | alternatives es => exact matchesAny_of_onlyEmpty es plain.1 plain.2 only w

private theorem matchesAll_of_onlyEmpty (es : List Expr) (plain : UnconditionalAll es) (only : allOnlyEmpty es = true)
    (w : Text) : MatchesAll es w ↔ w = [] := by
  cases es with
  | nil => rfl
  | cons e es =>
    obtain ⟨first, rest⟩ := Bool.and_eq_true_iff.mp only
    simp only [MatchesAll, matches_of_onlyEmpty e plain.1 first, matchesAll_of_onlyEmpty es plain.2 rest]
    simp

private theorem matchesAny_of_onlyEmpty (es : List Expr) (some : es ≠ []) (plain : UnconditionalAll es)
    (only : allOnlyEmpty es = true) (w : Text) : MatchesAny es w ↔ w = [] := by
  cases es with
  | nil => exact absurd rfl some
  | cons e es =>
    obtain ⟨first, rest⟩ := Bool.and_eq_true_iff.mp only
    rw [MatchesAny, matches_of_onlyEmpty e plain.1 first]
    cases es with
    | nil => exact or_iff_left id
    | cons second es =>
      rw [matchesAny_of_onlyEmpty (second :: es) (List.cons_ne_nil _ _) plain.2 rest, or_self]

end

/-- A repetition matches as many texts one after the other as its bounds allow, if these are in order. -/
theorem matches_repeated (plain : e.Unconditional) (ordered : ∀ m ∈ max, min ≤ m) (greedy : Bool) (w : Text) :
    (repeated min max greedy e).Matches w ↔ Repeats e.Matches (Allows min max) w := by
  unfold repeated
  by_cases only : e.onlyEmpty = true
  · -- however often an empty text is repeated, it is an empty text
    have empty := matches_of_onlyEmpty e plain only
    rw [Repeats.empty_iff empty (allows_least min max), if_pos only]
    dsimp only
    split
    · rfl
    · split
      · exact empty w
      · exact Repeats.empty_iff empty (allows_least _ _)
  · rw [if_neg only]
    dsimp only
    split
    · rename_i none
      subst none
      obtain rfl : min = 0 := Nat.le_zero.mp (ordered 0 rfl)
      exact Repeats.none_iff.symm.trans (Repeats.congr (fun _ => Iff.rfl) fun n => (allows_times 0 n).symm)
    · split
      · rename_i one
        obtain ⟨rfl, rfl⟩ := Prod.mk.inj one
        refine Repeats.one_iff.symm.trans (Repeats.congr (fun _ => Iff.rfl) fun n => ?_)
        simp only [Allows, Option.mem_some_iff, forall_eq']
        omega
      · rfl

end Expr

end PatternKit.Regex
