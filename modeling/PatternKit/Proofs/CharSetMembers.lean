import PatternKit.CharSet

/-!
The members of sets of characters. Bringing intervals into order, and joining those that meet, keeps the members. The
complement of a set has the characters that the set does not have; only where one interval ends at U+D7FF and another
one begins at U+E000, with nothing but surrogates between them, it has these two characters as well.
-/

set_option autoImplicit false

namespace PatternKit.CharSet

variable {n : Nat} {r : CodeRange} {rs : List CodeRange}

/-- Whether a number is the code of a character: there are none for surrogates. -/
def IsCode (n : Nat) : Prop := n ≤ 0xd7ff ∨ 0xe000 ≤ n ∧ n ≤ lastCode

theorem isCode_toNat (c : Char) : IsCode c.toNat := by
  have valid : c.toNat < 0xd800 ∨ 0xdfff < c.toNat ∧ c.toNat < 0x110000 := c.valid
  show c.toNat ≤ 0xd7ff ∨ 0xe000 ≤ c.toNat ∧ c.toNat ≤ 0x10ffff
  omega

theorem IsCode.le_lastCode (code : IsCode n) : n ≤ lastCode := by
  rcases code with low | high
  · exact Nat.le_trans low (by decide)
  · exact high.2

/-- Whether a code lies in one of some intervals. -/
def Covers (rs : List CodeRange) (n : Nat) : Prop := ∃ r ∈ rs, r.lo ≤ n ∧ n ≤ r.hi

theorem covers_nil (n : Nat) : ¬ Covers [] n := by simp [Covers]

theorem covers_cons : Covers (r :: rs) n ↔ r.lo ≤ n ∧ n ≤ r.hi ∨ Covers rs n := by
  simp only [Covers, List.mem_cons, exists_eq_or_imp]

theorem covers_append {ss : List CodeRange} : Covers (rs ++ ss) n ↔ Covers rs n ∨ Covers ss n := by
  simp only [Covers, List.mem_append, or_and_right, exists_or]

/-- Whether intervals are ordered by their lower ends. -/
def Ordered (rs : List CodeRange) : Prop := rs.Pairwise fun r s => r.lo ≤ s.lo

/-- The search in ordered intervals misses none. -/
theorem containsCode_iff (ordered : Ordered rs) : containsCode n rs = true ↔ Covers rs n := by
  induction rs with
  | nil => simp [containsCode, Covers]
  | cons r rs ih =>
    obtain ⟨first, rest⟩ := List.pairwise_cons.mp ordered
    rw [containsCode, covers_cons]
    split
    · rename_i below
      refine iff_of_false (by decide) ?_
      rintro (⟨lo, -⟩ | ⟨s, later, lo, -⟩)
      · omega
      · have := first s later
        omega
    · rename_i above
      rw [Bool.or_eq_true, ih rest, decide_eq_true_eq]
      simp only [Nat.not_lt.mp above, true_and]

/-- Whether the ends of an interval are characters, in order. -/
structure Proper (r : CodeRange) : Prop where
  le : r.lo ≤ r.hi
  lo : IsCode r.lo
  hi : IsCode r.hi

/-- Whether intervals are those of a set: from each to the next one there is a gap. -/
structure Canonical (rs : List CodeRange) : Prop where
  proper : ∀ r ∈ rs, Proper r
  apart : rs.Pairwise fun r s => r.hi + 1 < s.lo

theorem Canonical.ordered (canonical : Canonical rs) : Ordered rs := by
  refine canonical.apart.imp_of_mem fun first _ gap => ?_
  have := (canonical.proper _ first).le
  omega

/-! Joining intervals. -/

theorem le_lo_of_mem_go {x : CodeRange} (ordered : Ordered (r :: rs)) (member : x ∈ coalesce.go r rs) :
    r.lo ≤ x.lo := by
  induction rs generalizing r with
  | nil =>
    obtain rfl := List.mem_singleton.mp member
    exact Nat.le_refl _
  | cons s rs ih =>
    obtain ⟨first, rest⟩ := List.pairwise_cons.mp ordered
    rw [coalesce.go] at member
    split at member
    · have joined : Ordered (⟨r.lo, max r.hi s.hi⟩ :: rs) :=
        List.pairwise_cons.mpr ⟨fun x later => first x (List.mem_cons_of_mem s later), (List.pairwise_cons.mp rest).2⟩
      have start : (⟨r.lo, max r.hi s.hi⟩ : CodeRange).lo ≤ x.lo := ih joined member
      exact start
    · rcases List.mem_cons.mp member with rfl | later
      · exact Nat.le_refl _
      · exact Nat.le_trans (first s List.mem_cons_self) (ih rest later)

/-- From the interval under construction on, joining keeps the members and leaves gaps. By induction on the intervals
that are left. -/
theorem go_spec (ordered : Ordered (r :: rs)) (proper : ∀ s ∈ r :: rs, Proper s) :
    Canonical (coalesce.go r rs) ∧ ∀ n, Covers (coalesce.go r rs) n ↔ Covers (r :: rs) n := by
  induction rs generalizing r with
  | nil => exact ⟨⟨proper, List.pairwise_singleton _ _⟩, fun _ => Iff.rfl⟩
  | cons s rs ih =>
    obtain ⟨first, rest⟩ := List.pairwise_cons.mp ordered
    have before : r.lo ≤ s.lo := first s List.mem_cons_self
    have r_ : Proper r := proper r List.mem_cons_self
    have s_ : Proper s := proper s (List.mem_cons_of_mem r List.mem_cons_self)
    have later (x : CodeRange) (member : x ∈ rs) : Proper x :=
      proper x (List.mem_cons_of_mem r (List.mem_cons_of_mem s member))
    rw [coalesce.go]
    split
    · rename_i meets
      have joined : Proper ⟨r.lo, max r.hi s.hi⟩ := by
        refine ⟨Nat.le_trans r_.le (Nat.le_max_left _ _), r_.lo, ?_⟩
        show IsCode (max r.hi s.hi)
        rcases Nat.le_total r.hi s.hi with le | le
        · rw [Nat.max_eq_right le]
          exact s_.hi
        · rw [Nat.max_eq_left le]
          exact r_.hi
      have ordered' : Ordered (⟨r.lo, max r.hi s.hi⟩ :: rs) :=
        List.pairwise_cons.mpr ⟨fun x later => first x (List.mem_cons_of_mem s later), (List.pairwise_cons.mp rest).2⟩
      obtain ⟨canonical, covers⟩ := ih ordered' (List.forall_mem_cons.mpr ⟨joined, later⟩)
      refine ⟨canonical, fun n => ?_⟩
      rw [covers n, covers_cons, covers_cons, covers_cons, ← or_assoc]
      refine or_congr_left ?_
      have := r_.le
      have := s_.le
      show r.lo ≤ n ∧ n ≤ max r.hi s.hi ↔ _
      omega
    · rename_i apart
      obtain ⟨canonical, covers⟩ := ih rest (List.forall_mem_cons.mpr ⟨s_, later⟩)
      have gap (x : CodeRange) (member : x ∈ coalesce.go s rs) : r.hi + 1 < x.lo := by
        have := le_lo_of_mem_go rest member
        omega
      refine ⟨⟨List.forall_mem_cons.mpr ⟨r_, canonical.proper⟩, List.pairwise_cons.mpr ⟨gap, canonical.apart⟩⟩,
        fun n => ?_⟩
      rw [covers_cons, covers n, covers_cons (r := r)]

theorem ordered_mergeSort (rs : List CodeRange) : Ordered (rs.mergeSort fun r s => r.lo ≤ s.lo) := by
  refine (List.pairwise_mergeSort (fun r s x first second => ?_) (fun r s => ?_) rs).imp of_decide_eq_true
  · exact decide_eq_true (Nat.le_trans (of_decide_eq_true first) (of_decide_eq_true second))
  · rw [Bool.or_eq_true, decide_eq_true_eq, decide_eq_true_eq]
    exact Nat.le_total r.lo s.lo

theorem covers_mergeSort (rs : List CodeRange) (n : Nat) :
    Covers (rs.mergeSort fun r s => r.lo ≤ s.lo) n ↔ Covers rs n := by
  simp only [Covers, List.mem_mergeSort]

/-- Intervals in order need not be sorted. -/
theorem normalize_of_ordered (ordered : Ordered rs) : normalize rs = ⟨coalesce rs⟩ := by
  rw [normalize, List.mergeSort_of_pairwise (ordered.imp decide_eq_true)]

/-- The intervals of a normal form have the members of the intervals it is made of. -/
theorem normalize_spec (proper : ∀ r ∈ rs, Proper r) :
    Canonical (normalize rs).ranges ∧ ∀ n, Covers (normalize rs).ranges n ↔ Covers rs n := by
  have same := covers_mergeSort rs
  have ordered := ordered_mergeSort rs
  have proper' : ∀ r ∈ rs.mergeSort fun r s => r.lo ≤ s.lo, Proper r := fun r member =>
    proper r (List.mem_mergeSort.mp member)
  rw [normalize]
  cases sorted : rs.mergeSort fun r s => r.lo ≤ s.lo with
  | nil =>
    rw [sorted] at same
    exact ⟨⟨by simp [coalesce], List.Pairwise.nil⟩, same⟩
  | cons r more =>
    rw [sorted] at same ordered proper'
    obtain ⟨canonical, covers⟩ := go_spec ordered proper'
    exact ⟨canonical, fun n => (covers n).trans (same n)⟩

/-! Complements. -/

/-- Whether one interval ends where the surrogates begin and another one begins where they end. -/
def Straddles (rs : List CodeRange) : Prop := (∃ r ∈ rs, r.hi = 0xd7ff) ∧ ∃ r ∈ rs, r.lo = 0xe000

/-- The gap between an interval and the next one has the characters between them; where there are none, it has the ends
of the two. -/
theorem between_covers {last : Nat} (code : IsCode last) (proper : Proper r) (apart : last + 1 < r.lo) (n_ : IsCode n) :
    (CodeRange.between (CodeRange.next last) (CodeRange.previous r.lo)).lo ≤ n ∧
        n ≤ (CodeRange.between (CodeRange.next last) (CodeRange.previous r.lo)).hi ↔
      last < n ∧ n < r.lo ∨ (last = 0xd7ff ∧ r.lo = 0xe000) ∧ (n = 0xd7ff ∨ n = 0xe000) := by
  have lo := proper.lo
  simp only [IsCode, lastCode] at code lo n_
  show min _ _ ≤ n ∧ n ≤ max _ _ ↔ _
  unfold CodeRange.next CodeRange.previous
  split <;> split <;> omega

/-- The gap between an interval and the next one begins with a character, behind the beginning of the one and before that
of the other. -/
theorem between_lo {q : CodeRange} (one : Proper q) (other : Proper r) (apart : q.hi + 1 < r.lo) :
    q.lo ≤ (CodeRange.between (CodeRange.next q.hi) (CodeRange.previous r.lo)).lo ∧
      IsCode (CodeRange.between (CodeRange.next q.hi) (CodeRange.previous r.lo)).lo ∧
        (CodeRange.between (CodeRange.next q.hi) (CodeRange.previous r.lo)).lo ≤ r.lo := by
  have le := one.le
  have hi := one.hi
  have lo := other.lo
  simp only [IsCode, lastCode] at hi lo
  show q.lo ≤ min _ _ ∧ IsCode (min _ _) ∧ min _ _ ≤ r.lo
  unfold CodeRange.next CodeRange.previous IsCode lastCode
  split <;> split <;> omega

theorem Canonical.tail (canonical : Canonical (r :: rs)) : Canonical rs where
  proper s member := canonical.proper s (List.mem_cons_of_mem r member)
  apart := (List.pairwise_cons.mp canonical.apart).2

theorem Canonical.head (canonical : Canonical (r :: rs)) : Proper r := canonical.proper r List.mem_cons_self

theorem Canonical.gap (canonical : Canonical (r :: rs)) {s : CodeRange} (member : s ∈ rs) : r.hi + 1 < s.lo :=
  (List.pairwise_cons.mp canonical.apart).1 s member

/-- What later intervals cover is behind the first one. -/
theorem Canonical.lt_of_covers (canonical : Canonical (r :: rs)) (covers : Covers rs n) : r.hi < n := by
  obtain ⟨s, later, lo, -⟩ := covers
  have := canonical.gap later
  omega

/-- Only between neighbours there can be nothing but surrogates. -/
theorem straddles_cons {q : CodeRange} (canonical : Canonical (q :: r :: rs)) :
    Straddles (q :: r :: rs) ↔ (q.hi = 0xd7ff ∧ r.lo = 0xe000) ∨ Straddles (r :: rs) := by
  have q_ := canonical.head.le
  have r_ := canonical.tail.head.le
  have lo := canonical.tail.head.lo
  simp only [IsCode, lastCode] at lo
  have first := canonical.gap List.mem_cons_self
  constructor
  · rintro ⟨⟨x, inX, ends⟩, y, inY, begins⟩
    rcases List.mem_cons.mp inX with same | laterX
    · subst same
      rcases List.mem_cons.mp inY with same | laterY
      · subst same
        omega
      · rcases List.mem_cons.mp laterY with same | laterY
        · subst same
          exact .inl ⟨ends, begins⟩
        · have := canonical.tail.gap laterY
          omega
    · rcases List.mem_cons.mp inY with same | laterY
      · subst same
        have := canonical.gap laterX
        have := (canonical.tail.proper x laterX).le
        omega
      · exact .inr ⟨⟨x, laterX, ends⟩, y, laterY, begins⟩
  · rintro (⟨ends, begins⟩ | ⟨⟨x, inX, ends⟩, y, inY, begins⟩)
    · exact ⟨⟨q, List.mem_cons_self, ends⟩, r, List.mem_cons_of_mem q List.mem_cons_self, begins⟩
    · exact ⟨⟨x, List.mem_cons_of_mem q inX, ends⟩, y, List.mem_cons_of_mem q inY, begins⟩

theorem not_straddles_singleton (proper : Proper r) : ¬ Straddles [r] := by
  rintro ⟨⟨x, inX, ends⟩, y, inY, begins⟩
  obtain rfl := List.mem_singleton.mp inX
  obtain rfl := List.mem_singleton.mp inY
  have := proper.le
  omega

/-- The gaps behind an interval have the characters behind it that no later one has. By induction on the later ones. -/
theorem gaps_spec {q : CodeRange} (canonical : Canonical (q :: rs)) :
    Ordered (gaps q.hi rs) ∧ (∀ g ∈ gaps q.hi rs, q.lo ≤ g.lo ∧ IsCode g.lo) ∧
      ∀ n, IsCode n → (Covers (gaps q.hi rs) n ↔
        q.hi < n ∧ ¬ Covers rs n ∨ Straddles (q :: rs) ∧ (n = 0xd7ff ∨ n = 0xe000)) := by
  have le := canonical.head.le
  have hi := canonical.head.hi
  simp only [IsCode, lastCode] at hi
  induction rs generalizing q with
  | nil =>
    have none_ : ¬ Straddles [q] := not_straddles_singleton canonical.head
    rw [gaps]
    split
    · rename_i less
      simp only [lastCode] at less
      refine ⟨List.pairwise_singleton _ _, fun g member => ?_, fun n code => ?_⟩
      · obtain rfl := List.mem_singleton.mp member
        show q.lo ≤ CodeRange.next q.hi ∧ IsCode (CodeRange.next q.hi)
        unfold CodeRange.next IsCode lastCode
        split <;> omega
      · simp only [IsCode, lastCode] at code
        simp only [covers_cons, covers_nil, none_, CodeRange.next, lastCode, false_and, or_false, not_false_eq_true,
          and_true]
        split <;> omega
    · rename_i last
      simp only [lastCode] at last
      refine ⟨List.Pairwise.nil, fun g member => absurd member List.not_mem_nil, fun n code => ?_⟩
      have le_last := code.le_lastCode
      simp only [lastCode] at le_last
      simp only [covers_nil, none_, false_and, or_false, not_false_eq_true, and_true, false_iff]
      omega
  | cons r rs ih =>
    have apart := canonical.gap List.mem_cons_self
    have le' := canonical.tail.head.le
    have hi' := canonical.tail.head.hi
    simp only [IsCode, lastCode] at hi'
    obtain ⟨ordered, behind, covers⟩ := ih canonical.tail le' hi'
    obtain ⟨above, code_, below⟩ := between_lo canonical.head canonical.tail.head apart
    refine ⟨List.pairwise_cons.mpr ⟨fun g member => Nat.le_trans below (behind g member).1, ordered⟩,
      List.forall_mem_cons.mpr ⟨⟨above, code_⟩, fun g member => ⟨?_, (behind g member).2⟩⟩, fun n code => ?_⟩
    · have := (behind g member).1
      omega
    · have later : Covers rs n → r.hi < n := canonical.tail.lt_of_covers
      rw [gaps, covers_cons, between_covers canonical.head.hi canonical.tail.head apart code, covers n code,
        straddles_cons canonical, covers_cons]
      -- Whether a later interval has the code, and whether later ones straddle, is all that matters of them.
      by_cases covered : Covers rs n <;> by_cases straddles : Straddles (r :: rs)
      all_goals
        simp only [covered, straddles, not_true_eq_false, not_false_eq_true, true_and, false_and, and_true, and_false,
          or_true, or_false, false_or, forall_const] at later ⊢
        omega

/-- The intervals of a complement are ordered, and have the characters that the set does not have. -/
theorem complement_spec {s : CharSet} (canonical : Canonical s.ranges) :
    Ordered s.complement.ranges ∧ (∀ g ∈ s.complement.ranges, IsCode g.lo) ∧
      ∀ n, IsCode n → (Covers s.complement.ranges n ↔
        ¬ Covers s.ranges n ∨ Straddles s.ranges ∧ (n = 0xd7ff ∨ n = 0xe000)) := by
  obtain ⟨_ | ⟨r, rs⟩⟩ := s
  · refine ⟨List.pairwise_singleton _ _, List.forall_mem_singleton.mpr (.inl (Nat.zero_le _)), fun n code => ?_⟩
    have le_last := code.le_lastCode
    simp only [complement, all, covers_cons, covers_nil, Nat.zero_le, le_last, true_and, true_or, not_false_eq_true]
  · obtain ⟨ordered, behind, covers⟩ := gaps_spec canonical
    have lo := canonical.head.lo
    have le := canonical.head.le
    simp only [IsCode, lastCode] at lo
    let below := if 0 < r.lo then [(⟨0, CodeRange.previous r.lo⟩ : CodeRange)] else []
    have below_ (x : CodeRange) (member : x ∈ below) : x.lo = 0 := by
      have member : x ∈ if 0 < r.lo then [(⟨0, CodeRange.previous r.lo⟩ : CodeRange)] else [] := member
      split at member
      · rw [List.mem_singleton.mp member]
      · cases member
    have below_covers (n : Nat) (code : IsCode n) : Covers below n ↔ n < r.lo := by
      simp only [IsCode, lastCode] at code
      show Covers (if 0 < r.lo then _ else _) n ↔ _
      split
      · simp only [covers_cons, covers_nil, CodeRange.previous, or_false, Nat.zero_le, true_and]
        split <;> omega
      · simp only [covers_nil, false_iff]
        omega
    have ordered' : Ordered (below ++ gaps r.hi rs) := by
      refine List.pairwise_append.mpr ⟨?_, ordered, fun x inX g _ => by rw [below_ x inX]; exact Nat.zero_le _⟩
      refine List.pairwise_of_forall_mem_list fun x inX y _ => ?_
      rw [below_ x inX]
      exact Nat.zero_le _
    refine ⟨ordered', fun g member => ?_, fun n code => ?_⟩
    · rcases List.mem_append.mp member with first | gap
      · rw [below_ g first]
        exact .inl (Nat.zero_le _)
      · exact (behind g gap).2
    · have later : Covers rs n → r.hi < n := canonical.lt_of_covers
      show Covers (below ++ gaps r.hi rs) n ↔ _
      rw [covers_append, below_covers n code, covers n code, covers_cons]
      by_cases covered : Covers rs n <;> by_cases straddles : Straddles (r :: rs)
      all_goals
        simp only [covered, straddles, not_true_eq_false, not_false_eq_true, true_and, false_and, and_true, and_false,
          or_true, or_false, false_or, iff_false, forall_const] at later ⊢
        omega

/-- Where no surrogate is covered, the characters on both sides of them are ends of intervals. -/
theorem straddles_iff (canonical : Canonical rs) (none_ : ¬ Covers rs 0xd800) :
    Straddles rs ↔ Covers rs 0xd7ff ∧ Covers rs 0xe000 := by
  constructor
  · rintro ⟨⟨x, inX, ends⟩, y, inY, begins⟩
    have x_ := (canonical.proper x inX).le
    have y_ := (canonical.proper y inY).le
    exact ⟨⟨x, inX, by omega, by omega⟩, y, inY, by omega, by omega⟩
  · rintro ⟨⟨x, inX, lo, hi⟩, y, inY, lo', hi'⟩
    -- An interval that went on beyond one of the two would have U+D800, as it ends with a character.
    have x_ := (canonical.proper x inX).hi
    have y_ := (canonical.proper y inY).lo
    simp only [IsCode, lastCode] at x_ y_
    have outX : ¬ (x.lo ≤ 0xd800 ∧ 0xd800 ≤ x.hi) := fun within => none_ ⟨x, inX, within⟩
    have outY : ¬ (y.lo ≤ 0xd800 ∧ 0xd800 ≤ y.hi) := fun within => none_ ⟨y, inY, within⟩
    exact ⟨⟨x, inX, by omega⟩, y, inY, by omega⟩

/-- A set has the characters whose codes its intervals cover. -/
theorem contains_iff {s : CharSet} (ordered : Ordered s.ranges) (c : Char) :
    s.contains c = true ↔ Covers s.ranges c.toNat := containsCode_iff ordered

theorem contains_interval (lo hi c : Char) :
    (interval lo hi).contains c = true ↔ lo.toNat ≤ c.toNat ∧ c.toNat ≤ hi.toNat :=
  (contains_iff (List.pairwise_singleton _ _) c).trans (covers_cons.trans (or_iff_left (covers_nil _)))

/-- The complement of a set of characters has the characters that are not in the set, and sometimes two more. -/
theorem contains_complement {s : CharSet} (canonical : Canonical s.ranges) (c : Char) :
    s.complement.contains c = true ↔
      ¬ Covers s.ranges c.toNat ∨ Straddles s.ranges ∧ (c = '\ud7ff' ∨ c = '\ue000') := by
  obtain ⟨ordered, -, covers⟩ := complement_spec canonical
  have same (d : Char) : c.toNat = d.toNat ↔ c = d := Char.toNat_inj
  rw [contains_iff ordered, covers c.toNat (isCode_toNat c), ← same, ← same]
  rfl

/-- The only member of a set is a member, and there is no other. -/
theorem contains_of_only? {s : CharSet} {c : Char} (codes : ∀ r ∈ s.ranges, IsCode r.lo) (only : s.only? = some c)
    (d : Char) : s.contains d = true ↔ d = c := by
  obtain ⟨ranges⟩ := s
  unfold only? at only
  split at only
  · rename_i r one
    obtain rfl : ranges = [r] := one
    split at only
    · rename_i same
      obtain rfl := Option.some.inj only
      have code : r.lo.isValidChar := by
        have code := codes r List.mem_cons_self
        simp only [IsCode, lastCode] at code
        show r.lo < 0xd800 ∨ 0xdfff < r.lo ∧ r.lo < 0x110000
        omega
      have made : (Char.ofNat r.lo).toNat = r.lo := by
        rw [Char.ofNat, dif_pos code]
        rfl
      rw [contains_iff (List.pairwise_singleton _ _), covers_cons, ← Char.toNat_inj, made, ← same]
      simp only [covers_nil, or_false]
      omega
    · cases only
  · cases only

end PatternKit.CharSet
