import PatternKit.Proofs.AnchoredExpression

/-!
What code reads. An expression without conditions on places matches a text or not, wherever that stands. Its code reads
just the texts that it matches: a run that enters the code and accepts leaves it behind such a text, and goes on to
accept from there; and for every such text there is a run through the code.
-/

set_option autoImplicit false

namespace PatternKit.Regex

/-- The place between two parts of a text. -/
def Cursor.between (s t : Text) : Cursor := ⟨s.getLast?, s.byteSize, t⟩

/-- Whether a text consists of parts with a property, as many as are allowed. -/
def Repeats (P : Text → Prop) (counts : Nat → Prop) (w : Text) : Prop :=
  ∃ parts : List Text, counts parts.length ∧ w = parts.flatten ∧ ∀ u ∈ parts, P u

namespace Repeats

variable {P : Text → Prop} {counts counts' : Nat → Prop} {w : Text}

theorem none_iff : Repeats P (· = 0) w ↔ w = [] := by
  constructor
  · rintro ⟨parts, none, rfl, -⟩
    rw [List.length_eq_zero_iff.mp none]
    rfl
  · rintro rfl
    exact ⟨[], rfl, rfl, by simp⟩

theorem one_iff : Repeats P (· = 1) w ↔ P w := by
  constructor
  · rintro ⟨parts, one, rfl, all⟩
    obtain ⟨u, rfl⟩ := List.length_eq_one_iff.mp one
    rw [List.flatten_singleton]
    exact all u List.mem_cons_self
  · intro holds
    exact ⟨[w], rfl, List.flatten_singleton.symm, by simpa using holds⟩

theorem or_iff : Repeats P counts w ∨ Repeats P counts' w ↔ Repeats P (fun n => counts n ∨ counts' n) w := by
  constructor
  · rintro (⟨parts, allowed, parts_⟩ | ⟨parts, allowed, parts_⟩)
    · exact ⟨parts, .inl allowed, parts_⟩
    · exact ⟨parts, .inr allowed, parts_⟩
  · rintro ⟨parts, allowed | allowed, parts_⟩
    · exact .inl ⟨parts, allowed, parts_⟩
    · exact .inr ⟨parts, allowed, parts_⟩

/-- Parts behind other parts. -/
theorem append_iff : (∃ u v, w = u ++ v ∧ Repeats P counts u ∧ Repeats P counts' v) ↔
    Repeats P (fun n => ∃ k l, n = k + l ∧ counts k ∧ counts' l) w := by
  constructor
  · rintro ⟨u, v, rfl, ⟨parts, allowed, rfl, all⟩, ⟨parts', allowed', rfl, all'⟩⟩
    refine ⟨parts ++ parts', ⟨_, _, List.length_append, allowed, allowed'⟩, List.flatten_append.symm, ?_⟩
    intro u member
    exact (List.mem_append.mp member).elim (all u) (all' u)
  · rintro ⟨parts, ⟨k, l, total, allowed, allowed'⟩, rfl, all⟩
    have first : (parts.take k).length = k := by rw [List.length_take]; omega
    have rest : (parts.drop k).length = l := by rw [List.length_drop]; omega
    refine ⟨(parts.take k).flatten, (parts.drop k).flatten, ?_, ⟨_, by rwa [first], rfl, fun u member => ?_⟩,
      ⟨_, by rwa [rest], rfl, fun u member => ?_⟩⟩
    · rw [← List.flatten_append, List.take_append_drop]
    · exact all u (List.mem_of_mem_take member)
    · exact all u (List.mem_of_mem_drop member)

end Repeats

namespace Expr

/-- Whether a repetition may have a number of parts. With bounds the wrong way round it has the least number. -/
def Allows (min : Nat) (max : Option Nat) (n : Nat) : Prop := min ≤ n ∧ ∀ m ∈ max, n ≤ min + (m - min)

mutual

/-- Whether an expression matches a text. Conditions are about places, and match no text. -/
def Matches : Expr → Text → Prop
  | .empty, w => w = []
  | .literal text, w => w = text
  | .set _ s, w => ∃ c, w = [c] ∧ s.contains c = true
  | .look _, _ => False
  | .repetition min max _ e, w => Repeats (fun u => Matches e u) (Allows min max) w
  | .capture _ _ e, w => Matches e w
  | .sequence es, w => MatchesAll es w
  | .alternatives es, w => MatchesAny es w

/-- Whether expressions match a text one after the other. -/
def MatchesAll : List Expr → Text → Prop
  | [], w => w = []
  | e :: es, w => ∃ u v, w = u ++ v ∧ Matches e u ∧ MatchesAll es v

/-- Whether one of some expressions matches a text. -/
def MatchesAny : List Expr → Text → Prop
  | [], _ => False
  | e :: es, w => Matches e w ∨ MatchesAny es w

end

mutual

/-- Whether an expression has no conditions in it, and every choice in it has branches. -/
def Unconditional : Expr → Prop
  | .empty | .literal _ | .set _ _ => True
  | .look _ => False
  | .repetition _ _ _ e | .capture _ _ e => Unconditional e
  | .sequence es => UnconditionalAll es
  | .alternatives es => es ≠ [] ∧ UnconditionalAll es

def UnconditionalAll : List Expr → Prop
  | [] => True
  | e :: es => Unconditional e ∧ UnconditionalAll es

end

end Expr

namespace Program

/-- Whether a run from an address and a place accepts at the place `goal` after a number of steps. -/
def AcceptsIn (p : Program) (goal : Cursor) : Nat → Nat → Cursor → Prop
  | 0, a, c => p.code[a]? = none ∧ c = goal
  | n + 1, a, c => ∃ i, p.code[a]? = some i ∧ ∃ t ∈ Thread.step ⟨a, c, []⟩ i, p.AcceptsIn goal n t.address t.cursor

/-- Whether instructions stand in a program from an address on. -/
def At (p : Program) (base : Nat) (is : List Instruction) : Prop := ∀ j < is.length, p.code[base + j]? = is[j]?

variable {p : Program} {a b n : Nat} {i : Instruction} {is js : List Instruction} {c goal : Cursor}

theorem at_cons : p.At a (i :: is) ↔ p.code[a]? = some i ∧ p.At (a + 1) is := by
  constructor
  · intro whole
    refine ⟨whole 0 (Nat.succ_pos _), fun j less => ?_⟩
    have next := whole (j + 1) (Nat.succ_lt_succ less)
    rwa [Nat.add_comm j 1, ← Nat.add_assoc, Nat.add_comm 1 j, List.getElem?_cons_succ] at next
  · rintro ⟨first, rest⟩ j less
    cases j with
    | zero => exact first
    | succ j =>
      rw [Nat.add_comm j 1, ← Nat.add_assoc, Nat.add_comm 1 j, List.getElem?_cons_succ]
      exact rest j (Nat.lt_of_succ_lt_succ less)

theorem at_append : p.At a (is ++ js) ↔ p.At a is ∧ p.At (a + is.length) js := by
  induction is generalizing a with
  | nil => simp [At]
  | cons i is ih =>
    rw [List.cons_append, at_cons, at_cons, ih, and_assoc, List.length_cons, Nat.add_assoc, Nat.add_comm 1]

/-! Acceptance, one instruction at a time. -/

private theorem acceptsIn_step (there : p.code[a]? = some i) :
    p.AcceptsIn goal n a c ↔
      ∃ m, n = m + 1 ∧ ∃ t ∈ Thread.step ⟨a, c, []⟩ i, p.AcceptsIn goal m t.address t.cursor := by
  cases n with
  | zero => simp [AcceptsIn, there]
  | succ n => simp [AcceptsIn, there]

private theorem acceptsIn_read {accepts : Char → Bool} (there : p.code[a]? = some i)
    (reads : ∀ t : Thread, t.step i = t.read accepts) {s t : Text} :
    p.AcceptsIn goal n a (.between s t) ↔
      ∃ m d u, n = m + 1 ∧ t = d :: u ∧ accepts d = true ∧ p.AcceptsIn goal m (a + 1) (.between (s ++ [d]) u) := by
  have next (d : Char) (u : Text) :
      (⟨some d, (Cursor.between s (d :: u)).offset + d.utf8Size, u⟩ : Cursor) = .between (s ++ [d]) u := by
    simp [Cursor.between]
  rw [acceptsIn_step there, reads]
  unfold Thread.read
  cases t with
  | nil => simp [Cursor.between]
  | cons d u =>
    have rest : (Cursor.between s (d :: u)).rest = d :: u := rfl
    simp only [rest, next]
    by_cases accepted : accepts d = true
    · simp only [accepted, if_true, List.mem_singleton]
      constructor
      · rintro ⟨m, rfl, -, rfl, further⟩
        exact ⟨m, d, u, rfl, rfl, accepted, further⟩
      · rintro ⟨m, d', u', rfl, same, -, further⟩
        obtain ⟨rfl, rfl⟩ := List.cons.inj same
        exact ⟨m, rfl, _, rfl, further⟩
    · simp only [accepted]
      constructor
      · rintro ⟨m, -, t, member, -⟩
        cases member
      · rintro ⟨m, d', u', -, same, read, -⟩
        obtain ⟨rfl, -⟩ := List.cons.inj same
        exact absurd read accepted

theorem acceptsIn_look {l : Look} (there : p.code[a]? = some (.look l)) :
    p.AcceptsIn goal n a c ↔ ∃ m, n = m + 1 ∧ l.holds c = true ∧ p.AcceptsIn goal m (a + 1) c := by
  rw [acceptsIn_step there, Thread.step]
  by_cases holds : l.holds c = true
  · simp [holds, Thread.goto]
  · simp [holds]

private theorem acceptsIn_save {slot : Nat} (there : p.code[a]? = some (.save slot)) :
    p.AcceptsIn goal n a c ↔ ∃ m, n = m + 1 ∧ p.AcceptsIn goal m (a + 1) c := by
  rw [acceptsIn_step there, Thread.step]
  simp

private theorem acceptsIn_jump {target : Nat} (there : p.code[a]? = some (.jump target)) :
    p.AcceptsIn goal n a c ↔ ∃ m, n = m + 1 ∧ p.AcceptsIn goal m target c := by
  rw [acceptsIn_step there, Thread.step]
  simp [Thread.goto]

private theorem acceptsIn_fork {greedy : Bool} {into out : Nat}
    (there : p.code[a]? = some (Expr.fork greedy into out)) :
    p.AcceptsIn goal n a c ↔ ∃ m, n = m + 1 ∧ (p.AcceptsIn goal m into c ∨ p.AcceptsIn goal m out c) := by
  rw [acceptsIn_step there]
  cases greedy with
  | true => simp [Expr.fork, Thread.step, Thread.goto]
  | false => simp [Expr.fork, Thread.step, Thread.goto, or_comm]

/-! Code that reads texts. -/

/-- Whether runs from one address to another read just the texts with a property: a run that accepts from the first
accepts from the second behind such a text, at the same place and in no more steps, and the other way round in some number
of steps. -/
structure Reads (p : Program) (a b : Nat) (P : Text → Prop) : Prop where
  sound {goal : Cursor} (n : Nat) (s t : Text) (accepts : p.AcceptsIn goal n a (.between s t)) :
    ∃ w u m, m ≤ n ∧ t = w ++ u ∧ P w ∧ p.AcceptsIn goal m b (.between (s ++ w) u)
  complete {goal : Cursor} (n : Nat) (s w u : Text) (reads : P w)
    (accepts : p.AcceptsIn goal n b (.between (s ++ w) u)) : ∃ m, p.AcceptsIn goal m a (.between s (w ++ u))

namespace Reads

variable {P Q R : Text → Prop} {into out stop : Nat} {greedy : Bool}

theorem congr (reads : p.Reads a b P) (same : ∀ w, P w ↔ Q w) : p.Reads a b Q := by
  rw [← funext fun w => propext (same w)]
  exact reads

theorem nothing : p.Reads a a (· = []) where
  sound n s t accepts := ⟨[], t, n, Nat.le_refl n, rfl, rfl, by rwa [List.append_nil]⟩
  complete n s w u reads accepts := by
    subst reads
    rw [List.append_nil] at accepts
    exact ⟨n, accepts⟩

/-- Code behind other code. -/
theorem append (first : p.Reads a b P) (second : p.Reads b stop Q) :
    p.Reads a stop fun w => ∃ u v, w = u ++ v ∧ P u ∧ Q v where
  sound n s t accepts := by
    obtain ⟨u, t, m, less, rfl, read, accepts⟩ := first.sound n s t accepts
    obtain ⟨v, t, k, less', rfl, read', accepts⟩ := second.sound m _ t accepts
    rw [List.append_assoc] at accepts
    exact ⟨u ++ v, t, k, Nat.le_trans less' less, (List.append_assoc _ _ _).symm, ⟨u, v, rfl, read, read'⟩, accepts⟩
  complete n s w t reads accepts := by
    obtain ⟨u, v, rfl, read, read'⟩ := reads
    rw [← List.append_assoc] at accepts
    obtain ⟨m, accepts⟩ := second.complete n _ v t read' accepts
    rw [List.append_assoc]
    exact first.complete m s u _ read accepts

theorem char {accepts : Char → Bool} (there : p.code[a]? = some i) (reads : ∀ t : Thread, t.step i = t.read accepts) :
    p.Reads a (a + 1) fun w => ∃ d, w = [d] ∧ accepts d = true where
  sound n s t run := by
    obtain ⟨m, d, u, rfl, rfl, accepted, run⟩ := (acceptsIn_read there reads).mp run
    exact ⟨[d], u, m, Nat.le_succ m, rfl, ⟨d, rfl, accepted⟩, run⟩
  complete n s w u read run := by
    obtain ⟨d, rfl, accepted⟩ := read
    exact ⟨n + 1, (acceptsIn_read there reads).mpr ⟨n, d, u, rfl, rfl, accepted, run⟩⟩

theorem save {slot : Nat} (there : p.code[a]? = some (.save slot)) : p.Reads a (a + 1) (· = []) where
  sound n s t run := by
    obtain ⟨m, rfl, run⟩ := (acceptsIn_save there).mp run
    exact ⟨[], t, m, Nat.le_succ m, rfl, rfl, by rwa [List.append_nil]⟩
  complete n s w u read run := by
    subst read
    rw [List.append_nil] at run
    exact ⟨n + 1, (acceptsIn_save there).mpr ⟨n, rfl, run⟩⟩

theorem jump {target : Nat} (there : p.code[a]? = some (.jump target)) : p.Reads a target (· = []) where
  sound n s t run := by
    obtain ⟨m, rfl, run⟩ := (acceptsIn_jump there).mp run
    exact ⟨[], t, m, Nat.le_succ m, rfl, rfl, by rwa [List.append_nil]⟩
  complete n s w u read run := by
    subst read
    rw [List.append_nil] at run
    exact ⟨n + 1, (acceptsIn_jump there).mpr ⟨n, rfl, run⟩⟩

/-- Code that reads nothing makes no difference. -/
theorem andNothing (first : p.Reads a b P) (second : p.Reads b stop (· = [])) : p.Reads a stop P :=
  (first.append second).congr fun w => by simp

theorem afterNothing (first : p.Reads a b (· = [])) (second : p.Reads b stop P) : p.Reads a stop P :=
  (first.append second).congr fun w => by
    constructor
    · rintro ⟨_, v, rfl, rfl, read⟩
      exact read
    · intro read
      exact ⟨[], w, rfl, rfl, read⟩

/-- Two ways to go on. -/
theorem fork (there : p.code[a]? = some (Expr.fork greedy into out)) (first : p.Reads into stop P)
    (second : p.Reads out stop Q) : p.Reads a stop fun w => P w ∨ Q w where
  sound n s t run := by
    obtain ⟨m, rfl, run | run⟩ := (acceptsIn_fork there).mp run
    · obtain ⟨w, u, k, less, rfl, read, run⟩ := first.sound m s t run
      exact ⟨w, u, k, Nat.le_succ_of_le less, rfl, .inl read, run⟩
    · obtain ⟨w, u, k, less, rfl, read, run⟩ := second.sound m s t run
      exact ⟨w, u, k, Nat.le_succ_of_le less, rfl, .inr read, run⟩
  complete n s w u read run := by
    rcases read with read | read
    · obtain ⟨m, run⟩ := first.complete n s w u read run
      exact ⟨m + 1, (acceptsIn_fork there).mpr ⟨m, rfl, .inl run⟩⟩
    · obtain ⟨m, run⟩ := second.complete n s w u read run
      exact ⟨m + 1, (acceptsIn_fork there).mpr ⟨m, rfl, .inr run⟩⟩

/-- A way that leads back to where it began may be gone any number of times. By induction on the number of steps that
are left, as each time the fork takes one. -/
theorem loop (there : p.code[a]? = some (Expr.fork greedy into out)) (body : p.Reads into a P) :
    p.Reads a out (Repeats P fun _ => True) where
  sound n s t run := by
    induction n using Nat.strongRecOn generalizing s t with
    | ind n ih =>
      obtain ⟨m, rfl, run | run⟩ := (acceptsIn_fork there).mp run
      · obtain ⟨w, u, k, less, rfl, read, run⟩ := body.sound m s t run
        obtain ⟨w', u, l, less', rfl, ⟨parts, -, rfl, all⟩, run⟩ := ih k (Nat.lt_succ_of_le less) _ u run
        rw [List.append_assoc] at run
        refine ⟨w ++ parts.flatten, u, l, by omega, (List.append_assoc _ _ _).symm, ⟨w :: parts, trivial, rfl, ?_⟩, run⟩
        exact List.forall_mem_cons.mpr ⟨read, all⟩
      · exact ⟨[], t, m, Nat.le_succ m, rfl, ⟨[], trivial, rfl, by simp⟩, by rwa [List.append_nil]⟩
  complete n s w u read run := by
    obtain ⟨parts, -, rfl, all⟩ := read
    induction parts generalizing s with
    | nil =>
      rw [List.flatten_nil, List.append_nil] at run
      exact ⟨n + 1, (acceptsIn_fork there).mpr ⟨n, rfl, .inr run⟩⟩
    | cons w parts ih =>
      obtain ⟨read, all⟩ := List.forall_mem_cons.mp all
      rw [List.flatten_cons, ← List.append_assoc] at run
      obtain ⟨m, run⟩ := ih (s ++ w) all run
      obtain ⟨k, run⟩ := body.complete m s w _ read run
      rw [List.flatten_cons, List.append_assoc]
      exact ⟨k + 1, (acceptsIn_fork there).mpr ⟨k, rfl, .inl run⟩⟩

/-! Code that reads parts. -/

variable {counts counts' : Nat → Prop}

theorem none : p.Reads a a (Repeats P (· = 0)) := nothing.congr fun _ => Repeats.none_iff.symm

theorem once (reads : p.Reads a b P) : p.Reads a b (Repeats P (· = 1)) := reads.congr fun _ => Repeats.one_iff.symm

theorem times (reads : p.Reads a b (Repeats P counts)) (same : ∀ n, counts n ↔ counts' n) :
    p.Reads a b (Repeats P counts') := by
  rw [← funext fun n => propext (same n)]
  exact reads

theorem more (first : p.Reads a b (Repeats P counts)) (second : p.Reads b stop (Repeats P counts')) :
    p.Reads a stop (Repeats P fun n => ∃ k l, n = k + l ∧ counts k ∧ counts' l) :=
  (first.append second).congr fun _ => Repeats.append_iff

theorem either (there : p.code[a]? = some (Expr.fork greedy into out)) (first : p.Reads into stop (Repeats P counts))
    (second : p.Reads out stop (Repeats P counts')) : p.Reads a stop (Repeats P fun n => counts n ∨ counts' n) :=
  (fork there first second).congr fun _ => Repeats.or_iff

end Reads

end Program

namespace Expr

open Program (Reads at_cons at_append)

variable {p : Program} {P : Text → Prop} {block : Nat → List Instruction} {size base : Nat} {greedy : Bool}

private theorem reads_copies (length : ∀ base, (block base).length = size)
    (body : ∀ base, p.At base (block base) → p.Reads base (base + size) P) (n : Nat)
    (code : p.At base (copies block size n base)) : p.Reads base (base + n * size) (Repeats P (· = n)) := by
  induction n generalizing base with
  | zero =>
    rw [Nat.zero_mul]
    exact .none
  | succ n ih =>
    rw [copies, at_append, length] at code
    have stop : base + (n + 1) * size = base + size + n * size := by rw [Nat.succ_mul]; omega
    rw [stop]
    refine ((body base code.1).once.more (ih code.2)).times fun m => ?_
    constructor
    · rintro ⟨k, l, rfl, rfl, rfl⟩
      exact Nat.add_comm 1 l
    · rintro rfl
      exact ⟨1, n, Nat.add_comm n 1, rfl, rfl⟩

private theorem reads_optionals (length : ∀ base, (block base).length = size)
    (body : ∀ base, p.At base (block base) → p.Reads base (base + size) P) (n stop : Nat)
    (last : stop = base + n * (size + 1)) (code : p.At base (optionals block size greedy stop n base)) :
    p.Reads base stop (Repeats P (· ≤ n)) := by
  induction n generalizing base with
  | zero =>
    rw [last, Nat.zero_mul]
    exact Reads.none.times fun _ => Nat.le_zero.symm
  | succ n ih =>
    rw [optionals, at_cons, at_append, length] at code
    obtain ⟨leave, here, rest⟩ := code
    have further : stop = base + 1 + size + n * (size + 1) := by rw [last, Nat.succ_mul]; omega
    refine (Reads.either leave ((body _ here).once.more (ih further rest)) .none).times fun m => ?_
    constructor
    · rintro (⟨k, l, rfl, rfl, less⟩ | rfl)
      · omega
      · exact Nat.zero_le _
    · intro less
      cases m with
      | zero => exact .inr rfl
      | succ m => exact .inl ⟨1, m, Nat.add_comm m 1, rfl, Nat.le_of_succ_le_succ less⟩

/-- Any number of blocks, each entered by the fork before it or by the one behind the last. -/
private theorem reads_unbounded {nullable : Bool} (body : ∀ base, p.At base (block base) → p.Reads base (base + size) P)
    (length : ∀ base, (block base).length = size)
    (code : p.At base (repetitionCode block size nullable 0 none greedy base)) :
    p.Reads base (base + size + 2) (Repeats P fun _ => True) := by
  rw [repetitionCode, at_cons, at_append, length, at_cons] at code
  obtain ⟨enter, here, back, -⟩ := code
  have inside : p.Reads (base + 1) (base + 1 + size) P := body _ here
  cases nullable with
  | true =>
    rw [if_pos rfl] at back
    refine (Reads.either enter (inside.once.more (.loop back inside)) .none).times fun n => ?_
    simp only [iff_true]
    cases n with
    | zero => exact .inr rfl
    | succ n => exact .inl ⟨1, n, Nat.add_comm n 1, rfl, trivial⟩
  | false =>
    rw [if_neg Bool.false_ne_true] at back
    exact .loop enter (inside.andNothing (.jump back))

private theorem reads_repetitionCode {nullable : Bool}
    (body : ∀ base, p.At base (block base) → p.Reads base (base + size) P)
    (length : ∀ base, (block base).length = size) (min : Nat) (max : Option Nat) :
    p.At base (repetitionCode block size nullable min max greedy base) →
      p.Reads base
        (base + match max with
          | some max => min * size + (max - min) * (size + 1)
          | none => if min = 0 then size + 2 else min * size + 1)
        (Repeats P (Allows min max)) := by
  intro code
  have copied (n : Nat) (base : Nat) : (copies block size n base).length = n * size := by
    induction n generalizing base with
    | zero => simp [copies]
    | succ n ih => rw [copies, List.length_append, ih, length, Nat.succ_mul, Nat.add_comm]
  cases max with
  | some max =>
    rw [repetitionCode, at_append, copied] at code
    have first := reads_copies length body min code.1
    have rest := reads_optionals length body (max - min) _ rfl code.2
    rw [Nat.add_assoc] at rest
    refine (first.more rest).times fun n => ?_
    constructor
    · rintro ⟨k, l, rfl, rfl, less⟩
      exact ⟨Nat.le_add_right _ _, by rintro _ ⟨⟩; omega⟩
    · rintro ⟨least, most⟩
      have most := most max rfl
      exact ⟨min, n - min, by omega, rfl, by omega⟩
  | none =>
    cases min with
    | zero =>
      exact (reads_unbounded body length code).times fun n => by simp [Allows]
    | succ min =>
      rw [repetitionCode, at_append, at_append, List.length_append, copied, length, at_cons] at code
      obtain ⟨⟨first, last⟩, back, -⟩ := code
      have copies_ := reads_copies length body min first
      have inside : p.Reads (base + min * size) (base + min * size + size) P := body _ last
      rw [← Nat.add_assoc] at back
      have rest := copies_.more (inside.once.more (.loop back inside))
      have stop : base + min * size + size + 1 = base + ((min + 1) * size + 1) := by rw [Nat.succ_mul]; omega
      rw [stop] at rest
      refine rest.times fun n => ?_
      constructor
      · rintro ⟨k, l, rfl, rfl, k, l, rfl, rfl, -⟩
        exact ⟨by omega, fun _ none => by cases none⟩
      · rintro ⟨least, -⟩
        exact ⟨min, n - min, by omega, rfl, 1, n - min - 1, by omega, rfl, trivial⟩

private theorem reads_literal (text : Text) (there : p.At base (text.map .char)) :
    p.Reads base (base + text.length) (· = text) := by
  induction text generalizing base with
  | nil => exact .nothing
  | cons c text ih =>
    obtain ⟨first, rest⟩ := at_cons.mp there
    have stop : base + (c :: text).length = base + 1 + text.length := by rw [List.length_cons]; omega
    have reads : p.Reads base (base + 1) fun w => ∃ d, w = [d] ∧ (d == c) = true := .char first fun _ => rfl
    rw [stop]
    refine (reads.append (ih rest)).congr fun w => ?_
    constructor
    · rintro ⟨_, v, rfl, ⟨d, rfl, same⟩, rfl⟩
      rw [beq_iff_eq.mp same]
      rfl
    · rintro rfl
      exact ⟨[c], text, rfl, ⟨c, rfl, beq_self_eq_true c⟩, rfl⟩

mutual

/-- The code of an expression reads what the expression matches. -/
theorem reads_code (e : Expr) (plain : e.Unconditional) (base : Nat) (there : p.At base (e.code base)) :
    p.Reads base (base + e.codeSize) e.Matches := by
  cases e with
  | empty => exact .nothing
  | literal text => exact reads_literal text there
  | set ascii s => exact .char (at_cons.mp there).1 fun _ => rfl
  | look l => exact plain.elim
  | capture index name e =>
    obtain ⟨opening, inside⟩ := at_cons.mp there
    obtain ⟨inside, closing⟩ := at_append.mp inside
    rw [(code_isBlock e).length] at closing
    have body := reads_code e plain (base + 1) inside
    have stop : base + (capture index name e).codeSize = base + 1 + e.codeSize + 1 := by rw [codeSize]; omega
    rw [stop]
    exact (Reads.save opening).afterNothing (body.andNothing (.save (at_cons.mp closing).1))
  | sequence es => exact reads_codes es plain base there
  | alternatives es => exact reads_branchCode es plain.1 plain.2 base there
  | repetition min max greedy e =>
    exact reads_repetitionCode (fun base there => reads_code e plain base there) (code_isBlock e).length min max there

theorem reads_codes (es : List Expr) (plain : UnconditionalAll es) (base : Nat) (there : p.At base (codes base es)) :
    p.Reads base (base + codeSizes es) (MatchesAll es) := by
  cases es with
  | nil => exact .nothing
  | cons e es =>
    obtain ⟨first, rest⟩ := at_append.mp there
    rw [(code_isBlock e).length] at rest
    rw [codeSizes, ← Nat.add_assoc]
    exact (reads_code e plain.1 base first).append (reads_codes es plain.2 _ rest)

theorem reads_branchCode (es : List Expr) (some : es ≠ []) (plain : UnconditionalAll es) (base : Nat)
    (there : p.At base (branchCode base (base + branchSizes es) es)) :
    p.Reads base (base + branchSizes es) (MatchesAny es) := by
  cases es with
  | nil => exact absurd rfl some
  | cons e es =>
    cases es with
    | nil => exact (reads_code e plain.1 base there).congr fun w => (or_iff_left id).symm
    | cons second es =>
      have more : second :: es ≠ [] := List.cons_ne_nil _ _
      have stop : base + branchSizes (e :: second :: es) =
          base + e.codeSize + 2 + branchSizes (second :: es) := by
        show base + (e.codeSize + 2 + branchSizes (second :: es)) = _
        omega
      rw [stop] at there ⊢
      obtain ⟨choice, first⟩ := at_cons.mp there
      replace choice : p.code[base]? = Option.some (fork true (base + 1) (base + e.codeSize + 2)) := choice
      obtain ⟨first, rest⟩ := at_append.mp first
      rw [(code_isBlock e).length] at rest
      obtain ⟨leave, rest⟩ := at_cons.mp rest
      have next : base + 1 + e.codeSize + 1 = base + e.codeSize + 2 := by omega
      rw [next] at rest
      have here := (reads_code e plain.1 (base + 1) first).andNothing (.jump leave)
      exact .fork choice here (reads_branchCode (second :: es) more plain.2 _ rest)

end

end Expr

end PatternKit.Regex
