import PatternKit.Proofs.EscapedPlaces

/-!
What the two counts of balance accept. Parentheses are balanced just if those that are not escaped make a word of a
grammar; brackets are balanced just if behind every opening one that is not escaped there is a closing one that is not
escaped either.
-/

set_option autoImplicit false

namespace PatternKit.Balance

variable {s t u v w : Text} {depth : Nat}

/-! Words of parentheses. -/

/-- The words of parentheses that the grammar `S → ε | ( S ) S` generates. -/
inductive Generated : Text → Prop
  | empty : Generated []
  | group {s t : Text} (inner : Generated s) (rest : Generated t) : Generated ('(' :: (s ++ ')' :: t))

/-- Words that close a number of groups which have been opened before them, and between these closings are generated by
the grammar. -/
inductive Closing : Nat → Text → Prop
  | rest {s : Text} (own : Generated s) : Closing 0 s
  | close {depth : Nat} {s t : Text} (own : Generated s) (outer : Closing depth t) : Closing (depth + 1) (s ++ ')' :: t)

theorem Closing.group (inner : Generated s) (outer : Closing depth t) : Closing depth ('(' :: (s ++ ')' :: t)) := by
  cases outer with
  | rest own => exact .rest (.group inner own)
  | @close depth s' t' own outer =>
    have whole : Closing (depth + 1) (('(' :: (s ++ ')' :: s')) ++ ')' :: t') := .close (.group inner own) outer
    simpa only [List.cons_append, List.append_assoc] using whole

/-- A walk over parentheses that ends with no group open closes those that were open before it. By induction on the
word, for every number of open groups: an opening one is put together with the closing one that the rest of the word
begins with. -/
theorem closing_of_foldl (only : ∀ c ∈ w, c = '(' ∨ c = ')') (walk : w.foldl groupStep (some depth) = some 0) :
    Closing depth w := by
  induction w generalizing depth with
  | nil =>
    obtain rfl : depth = 0 := Option.some.inj walk
    exact .rest .empty
  | cons c w ih =>
    have later : ∀ c ∈ w, c = '(' ∨ c = ')' := fun c' member => only c' (List.mem_cons_of_mem c member)
    rw [List.foldl_cons] at walk
    rcases only c List.mem_cons_self with rfl | rfl
    · cases ih later walk with
      | close own outer => exact .group own outer
    · cases depth with
      | zero =>
        have stuck : w.foldl groupStep (groupStep (some 0) ')') = none := foldl_groupStep_none w
        rw [stuck] at walk
        cases walk
      | succ depth => exact .close .empty (ih later walk)

/-- A word of the grammar brings every number of open groups back. -/
theorem Generated.foldl (word : Generated w) (depth : Nat) : w.foldl groupStep (some depth) = some depth := by
  induction word generalizing depth with
  | empty => rfl
  | @group s t _ _ inner rest =>
    have opened : groupStep (some depth) '(' = some (depth + 1) := rfl
    have closed : groupStep (some (depth + 1)) ')' = some depth := rfl
    rw [List.foldl_cons, opened, List.foldl_append, inner, List.foldl_cons, closed, rest]

theorem foldl_groupStep_iff (only : ∀ c ∈ w, c = '(' ∨ c = ')') :
    w.foldl groupStep (some 0) = some 0 ↔ Generated w := by
  constructor
  · intro walk
    cases closing_of_foldl only walk with
    | rest own => exact own
  · exact fun word => word.foldl 0

/-- Other characters than parentheses leave the walk where it is. -/
theorem foldl_groupStep_filter (t : Text) (depth : Option Nat) :
    (t.filter fun c => decide (c ∈ ['(', ')'])).foldl groupStep depth = t.foldl groupStep depth := by
  rw [List.foldl_filter]
  congr 1
  funext depth c
  by_cases sign : c ∈ ['(', ')']
  · rw [decide_eq_true sign, if_pos rfl]
  · have other : c ≠ '(' ∧ c ≠ ')' := by simpa using sign
    rw [decide_eq_false sign, if_neg Bool.false_ne_true, groupStep_plain other.1 other.2]

/-- Parentheses are balanced in a text if and only if those of them that are not escaped, in the order in which they
stand there, are a word of the grammar. -/
theorem parentheses_balance_iff_generated (p : Text) : parentheses p = true ↔ Generated (freeSigns ['(', ')'] p) := by
  have only : ∀ c ∈ freeSigns ['(', ')'] p, c = '(' ∨ c = ')' := by
    intro c member
    rw [freeSigns_eq (by decide)] at member
    simpa using (List.mem_filter.mp member).2
  rw [← foldl_groupStep_iff only, freeSigns_eq (by decide), foldl_groupStep_filter, parentheses, groupsClose_eq,
    beq_iff_eq]

/-! Brackets. -/

/-- Whether every opening bracket of a word has a closing one behind it. -/
def EachCloses (w : Text) : Prop := ∀ u v, w = u ++ '[' :: v → ']' ∈ v

theorem eachCloses_cons {c : Char} : EachCloses (c :: w) ↔ (c = '[' → ']' ∈ w) ∧ EachCloses w := by
  constructor
  · intro closes
    refine ⟨fun opens => closes [] w (by rw [opens]; rfl), fun u v split => closes (c :: u) v (by rw [split]; rfl)⟩
  · rintro ⟨first, later⟩ u v split
    cases u with
    | nil =>
      obtain ⟨rfl, rfl⟩ := List.cons.inj split
      exact first rfl
    | cons d u =>
      obtain ⟨rfl, behind⟩ := List.cons.inj split
      exact later u v behind

/-- The walk ends outside sets if a set that is open before it is closed in it, and every bracket that opens in it. By
induction on the word; whether a set is open tells that the last opening bracket has no closing one behind it yet. -/
theorem foldl_setStep_iff (inSet : Bool) (w : Text) :
    w.foldl setStep inSet = false ↔ (inSet = true → ']' ∈ w) ∧ EachCloses w := by
  induction w generalizing inSet with
  | nil => simp [EachCloses]
  | cons c w ih =>
    rw [List.foldl_cons, ih, eachCloses_cons]
    by_cases opens : c = '['
    · simpa [setStep, opens] using fun there _ _ => there
    · by_cases closes : c = ']'
      · simp [setStep, closes]
      · have notThere : ']' ≠ c := fun same => closes same.symm
        simp [setStep, opens, closes, notThere]

theorem brackets_iff_eachCloses (p : Text) : brackets p = true ↔ EachCloses (unescaped p) := by
  rw [brackets, setsClose_eq, Bool.not_eq_true', foldl_setStep_iff]
  simp

/-- What is not escaped behind an opening bracket is what is not escaped in the text behind it. -/
theorem eachCloses_unescaped_iff (p : Text) :
    EachCloses (unescaped p) ↔ ∀ i, FreeAt p '[' i → ∃ j, i < j ∧ FreeAt p ']' j := by
  have opened (a : Text) (complete : isPending a = false) : isPending (a ++ ['[']) = false := by
    rw [isPending_append _ complete]
    rfl
  constructor
  · intro closes i opens
    obtain ⟨a, b, rfl, rfl, complete⟩ := freeAt_iff.mp opens
    have there : ']' ∈ unescaped b :=
      closes _ _ ((unescaped_eq_append_cons_iff (by decide)).mpr ⟨a, b, rfl, complete, rfl, rfl⟩)
    obtain ⟨k, free⟩ := (mem_unescaped_iff (by decide)).mp there
    have behind : FreeAt (a ++ ['['] ++ b) ']' ((a ++ ['[']).length + k) := (freeAt_append (opened a complete)).mpr free
    rw [List.append_assoc] at behind
    exact ⟨_, by simp; omega, behind⟩
  · intro closes u v split
    obtain ⟨a, b, rfl, complete, -, rfl⟩ := (unescaped_eq_append_cons_iff (by decide)).mp split
    obtain ⟨j, later, there⟩ := closes a.length (freeAt_iff.mpr ⟨a, b, rfl, rfl, complete⟩)
    have behind : (a ++ ['[']).length ≤ j := by simpa [Nat.add_one_le_iff] using later
    obtain ⟨k, rfl⟩ := Nat.exists_eq_add_of_le behind
    rw [List.append_cons] at there
    exact (mem_unescaped_iff (by decide)).mpr ⟨k, (freeAt_append (opened a complete)).mp there⟩

/-- Behind a cut that takes no escape apart, what is left of a balanced text is balanced. -/
theorem brackets_of_append {a b : Text} (free : ¬ Escapes a) (balanced : brackets (a ++ b) = true) :
    brackets b = true := by
  have complete : isPending a = false := (isPending_eq_false_iff a).mpr free
  rw [brackets, setsClose_eq, Bool.not_eq_true', unescaped_append _ complete, List.foldl_append,
    foldl_setStep_iff] at balanced
  exact (brackets_iff_eachCloses b).mpr balanced.2

/-- Behind a closing bracket that is not escaped, it does not matter what stands before it. -/
theorem brackets_behind_close {a : Text} (free : ¬ Escapes a) (b : Text) : brackets (a ++ ']' :: b) = brackets b := by
  have complete : isPending a = false := (isPending_eq_false_iff a).mpr free
  have closed : setStep ((unescaped a).foldl setStep false) ']' = false := rfl
  rw [brackets, brackets, setsClose_eq, setsClose_eq, unescaped_append _ complete, unescaped_cons (by decide),
    List.foldl_append, List.foldl_cons, closed]

/-- Where a set opens, nothing is pending. -/
private theorem not_escapes_opening {a opening : Text} (free : ¬ Escapes a) (is : opening ∈ [['['], ['[', '^']]) :
    ¬ Escapes (a ++ opening) := by
  rw [← isPending_eq_false_iff] at free ⊢
  rw [isPending_append _ free]
  rcases List.mem_pair.mp is with rfl | rfl <;> rfl

/-- Brackets are balanced in a text if and only if every opening one that is not escaped has a closing one that is not
escaped somewhere behind it. So a closing one more never makes a text fail, be there a set that it closes or none, and
be it the first thing in a set; and before a closing one, an opening one more makes no difference. -/
theorem brackets_balance_iff_each_closes :
    (∀ p, brackets p = true ↔ ∀ i, FreeAt p '[' i → ∃ j, i < j ∧ FreeAt p ']' j) ∧
      (∀ a b, ¬ Escapes a → brackets (a ++ b) = true → brackets (a ++ ']' :: b) = true) ∧
      (∀ a opening b, ¬ Escapes a → opening ∈ [['['], ['[', '^']] → brackets (a ++ opening ++ b) = true →
        brackets (a ++ opening ++ ']' :: b) = true) ∧
      ∀ a m b, ¬ Escapes a → ¬ Escapes (a ++ m) →
        brackets (a ++ '[' :: (m ++ ']' :: b)) = brackets (a ++ (m ++ ']' :: b)) := by
  have oneMore (a b : Text) (free : ¬ Escapes a) (balanced : brackets (a ++ b) = true) :
      brackets (a ++ ']' :: b) = true := by
    rw [brackets_behind_close free]
    exact brackets_of_append free balanced
  refine ⟨fun p => (brackets_iff_eachCloses p).trans (eachCloses_unescaped_iff p), oneMore, ?_, ?_⟩
  · intro a opening b free is
    exact oneMore _ b (not_escapes_opening free is)
  · intro a m b free freeBehind
    have freeInside : ¬ Escapes (a ++ '[' :: m) := by
      rw [← isPending_eq_false_iff] at free freeBehind ⊢
      rwa [isPending_append _ free, isPending_cons (by decide), ← isPending_append m free]
    have inside := brackets_behind_close freeInside b
    have outside := brackets_behind_close freeBehind b
    rw [List.append_assoc] at inside outside
    exact inside.trans outside.symm

/-- Two backslashes, which take each other out, then a set whose last character is an escaped bracket; one more bracket
before that set, at its beginning, and in it. -/
theorem brackets_balance_behind_backslashes :
    brackets ['\\', '\\', '[', '\\', ']', ']'] = true ∧
      brackets ['\\', '\\', ']', '[', '\\', ']', ']'] = true ∧
      brackets ['\\', '\\', '[', ']', '\\', ']', ']'] = true ∧
      brackets ['\\', '\\', '[', '[', '\\', ']', ']'] = true := by
  obtain ⟨-, stray, first, again⟩ := brackets_balance_iff_each_closes
  have free : ¬ Escapes ['\\', '\\'] := by decide
  have freeBehind : ¬ Escapes ['\\', '\\', '[', '\\', ']'] := by decide
  have balanced : brackets ['\\', '\\', '[', '\\', ']', ']'] = true := by decide
  refine ⟨balanced, ?_, ?_, ?_⟩
  · exact stray ['\\', '\\'] ['[', '\\', ']', ']'] free balanced
  · exact first ['\\', '\\'] ['['] ['\\', ']', ']'] free List.mem_cons_self balanced
  · exact (again ['\\', '\\', '['] ['\\', ']'] [] (by decide) freeBehind).trans balanced

end PatternKit.Balance
