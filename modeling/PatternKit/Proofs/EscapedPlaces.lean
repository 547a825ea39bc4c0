import Mathlib.Data.List.DropRight
import PatternKit.Proofs.Unescaped

/-!
Escaped places. Whether the character at a place of a text is escaped can be told from the backslashes right before
it: it is, just if they are odd in number. The characters that no backslash takes out are those that stand at the
other places.
-/

set_option autoImplicit false

namespace PatternKit.Balance

variable {a b s t u v : Text} {c : Char} {i : Nat}

/-- The number of backslashes at the end of a text, up to the last character that is none. -/
def backslashRun (t : Text) : Nat := (t.rtakeWhile (· == '\\')).length

/-- Whether a character is escaped that stands right behind a text. -/
def Escapes (before : Text) : Prop := backslashRun before % 2 = 1

instance : DecidablePred Escapes := fun before => inferInstanceAs (Decidable (backslashRun before % 2 = 1))

/-- Whether a character stands at a place of a text, and is not escaped there. -/
def FreeAt (t : Text) (c : Char) (i : Nat) : Prop := t[i]? = some c ∧ ¬ Escapes (t.take i)

/-- Those of some signs that are not escaped in a text, in order. -/
def freeSigns (signs t : Text) : Text :=
  (t.zipIdx.filter fun (c, i) => decide (c ∈ signs ∧ ¬ Escapes (t.take i))).map Prod.fst

/-! The length of a run, and the walk that takes characters out. -/

theorem backslashRun_concat (t : Text) (c : Char) :
    backslashRun (t ++ [c]) = if c = '\\' then backslashRun t + 1 else 0 := by
  by_cases backslash : c = '\\'
  · have counted : (t ++ [c]).rtakeWhile (· == '\\') = t.rtakeWhile (· == '\\') ++ [c] :=
      List.rtakeWhile_concat_pos _ t c (by simpa using backslash)
    rw [backslashRun, counted, List.length_append, if_pos backslash]
    rfl
  · have none_ : (t ++ [c]).rtakeWhile (· == '\\') = [] := List.rtakeWhile_concat_neg _ t c (by simpa using backslash)
    rw [backslashRun, none_, if_neg backslash]
    rfl

/-- A backslash is pending behind a text if it ends with one that is not taken out itself. -/
theorem isPending_concat (t : Text) (c : Char) : isPending (t ++ [c]) = (!isPending t && decide (c = '\\')) := by
  fun_induction isPending t with
  | case1 => by_cases backslash : c = '\\' <;> simp [isPending, backslash]
  | case2 => simp [isPending]
  | case3 skipped rest ih => simpa [isPending] using ih
  | case4 d cs plain ih => rw [List.cons_append, isPending_cons plain, ih]

/-- By induction on the text from its end, as a run is counted from there. -/
theorem isPending_iff (t : Text) : isPending t = true ↔ Escapes t := by
  induction t using List.reverseRecOn with
  | nil => simp [isPending, Escapes, backslashRun]
  | append_singleton t c ih =>
    rw [isPending_concat, Escapes, backslashRun_concat]
    rw [Escapes] at ih
    by_cases backslash : c = '\\'
    · have flips : isPending t = false ↔ (backslashRun t + 1) % 2 = 1 := by
        rw [← Bool.not_eq_true, ih]
        omega
      simpa [backslash] using flips
    · simp [backslash]

theorem isPending_eq_false_iff (t : Text) : isPending t = false ↔ ¬ Escapes t := by
  rw [← isPending_iff, Bool.not_eq_true]

/-! The characters that are not taken out, and where they stand. -/

/-- A character that is not taken out divides the text, and what is not taken out of it. -/
theorem unescaped_eq_append_cons_iff (plain : c ≠ '\\') :
    unescaped t = u ++ c :: v ↔
      ∃ a b, t = a ++ c :: b ∧ isPending a = false ∧ unescaped a = u ∧ unescaped b = v := by
  constructor
  · intro split
    fun_induction unescaped t generalizing u with
    | case1 => simp at split
    | case2 => simp at split
    | case3 skipped rest ih =>
      obtain ⟨a, b, rfl, complete, before, behind⟩ := ih split
      refine ⟨'\\' :: skipped :: a, b, rfl, ?_, ?_, behind⟩
      · simpa [isPending] using complete
      · simpa [unescaped] using before
    | case4 d cs notBackslash ih =>
      cases u with
      | nil =>
        obtain ⟨rfl, rfl⟩ := List.cons.inj split
        exact ⟨[], cs, rfl, rfl, rfl, rfl⟩
      | cons e u =>
        obtain ⟨rfl, later⟩ := List.cons.inj split
        obtain ⟨a, b, rfl, complete, before, behind⟩ := ih later
        refine ⟨d :: a, b, rfl, ?_, ?_, behind⟩
        · rwa [isPending_cons notBackslash]
        · rw [unescaped_cons notBackslash, before]
  · rintro ⟨a, b, rfl, complete, rfl, rfl⟩
    rw [unescaped_append _ complete, unescaped_cons plain]

theorem freeAt_iff : FreeAt t c i ↔ ∃ a b, t = a ++ c :: b ∧ a.length = i ∧ isPending a = false := by
  constructor
  · rintro ⟨there, free⟩
    obtain ⟨inside, rfl⟩ := List.getElem?_eq_some_iff.mp there
    refine ⟨t.take i, t.drop (i + 1), ?_, List.length_take_of_le (Nat.le_of_lt inside), ?_⟩
    · rw [List.getElem_cons_drop, List.take_append_drop]
    · exact (isPending_eq_false_iff _).mpr free
  · rintro ⟨a, b, rfl, rfl, complete⟩
    refine ⟨by simp, ?_⟩
    rw [List.take_left]
    exact (isPending_eq_false_iff a).mp complete

/-- A character is among those that are not taken out if it is not escaped at some place. -/
theorem mem_unescaped_iff (plain : c ≠ '\\') : c ∈ unescaped t ↔ ∃ i, FreeAt t c i := by
  rw [List.mem_iff_append]
  constructor
  · rintro ⟨u, v, split⟩
    obtain ⟨a, b, same, complete, -, -⟩ := (unescaped_eq_append_cons_iff plain).mp split
    exact ⟨a.length, freeAt_iff.mpr ⟨a, b, same, rfl, complete⟩⟩
  · rintro ⟨i, there⟩
    obtain ⟨a, b, same, -, complete⟩ := freeAt_iff.mp there
    exact ⟨unescaped a, unescaped b, (unescaped_eq_append_cons_iff plain).mpr ⟨a, b, same, complete, rfl, rfl⟩⟩

/-- A part with nothing pending escapes nothing behind it. -/
theorem freeAt_append (complete : isPending a = false) : FreeAt (a ++ b) c (a.length + i) ↔ FreeAt b c i := by
  have there : (a ++ b)[a.length + i]? = b[i]? := by
    rw [List.getElem?_append_right (Nat.le_add_right _ _), Nat.add_sub_cancel_left]
  rw [FreeAt, FreeAt, there, List.take_length_add_append, ← isPending_eq_false_iff, ← isPending_eq_false_iff,
    isPending_append _ complete]

/-- Behind a part with nothing pending, signs are found as the walk finds them. -/
private theorem filter_zipIdx (signs a t : Text) (noBackslash : '\\' ∉ signs) (complete : isPending a = false) :
    ((t.zipIdx a.length).filter fun (c, i) => decide (c ∈ signs ∧ ¬ Escapes ((a ++ t).take i))).map Prod.fst =
      (unescaped t).filter fun c => decide (c ∈ signs) := by
  fun_induction unescaped t generalizing a with
  | case1 => rfl
  | case2 => simp [noBackslash]
  | case3 skipped rest ih =>
    have escaped : Escapes (a ++ ['\\']) := by
      rw [← isPending_iff, isPending_concat, complete]
      rfl
    have later := ih (a ++ ['\\', skipped]) (by rw [isPending_append _ complete]; rfl)
    have here : (a ++ '\\' :: skipped :: rest).take (a.length + 1) = a ++ ['\\'] := by
      rw [List.append_cons]
      exact List.take_left' (by simp)
    rw [List.append_assoc, List.length_append] at later
    simpa [List.zipIdx_cons, noBackslash, here, escaped] using later
  | case4 c cs plain ih =>
    have free : ¬ Escapes a := (isPending_eq_false_iff a).mp complete
    have later := ih (a ++ [c]) (by rw [isPending_append _ complete, isPending_cons plain]; rfl)
    rw [List.append_assoc, List.length_append] at later
    by_cases sign : c ∈ signs
    · simpa [List.zipIdx_cons, sign, free] using later
    · simpa [List.zipIdx_cons, sign] using later

theorem freeSigns_eq {signs : Text} (noBackslash : '\\' ∉ signs) (t : Text) :
    freeSigns signs t = (unescaped t).filter fun c => decide (c ∈ signs) :=
  filter_zipIdx signs [] t noBackslash rfl

end PatternKit.Balance
