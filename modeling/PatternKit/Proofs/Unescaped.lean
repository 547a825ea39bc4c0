import PatternKit.Balance
import PatternKit.Escape

/-!
Unescaped characters. Both counts of balance look at those characters only that no backslash takes out. They go
through these with a state: whether a set is open, or how many groups are open. A text that brings each state
back to where it was can be put anywhere.
-/

set_option autoImplicit false

namespace PatternKit.Balance

/-- The characters of a text that no backslash takes out; backslashes are not among them. -/
def unescaped : Text → Text
  | [] => []
  | c :: cs =>
    if c = '\\' then
      match cs with
      | [] => []
      | _ :: rest => unescaped rest
    else c :: unescaped cs

/-- Whether a text ends with a backslash that takes out the character after it. -/
def isPending : Text → Bool
  | [] => false
  | c :: cs =>
    if c = '\\' then
      match cs with
      | [] => true
      | _ :: rest => isPending rest
    else isPending cs

/-- Whether a set is open after an unescaped character. -/
def setStep (inSet : Bool) (c : Char) : Bool :=
  if c = '[' then true else if c = ']' then false else inSet

/-- How many groups are open after an unescaped character, unless one has been closed that was not open. -/
def groupStep (depth : Option Nat) (c : Char) : Option Nat :=
  match depth with
  | none => none
  | some d =>
    if c = '(' then some (d + 1)
    else if c = ')' then
      match d with
      | 0 => none
      | d + 1 => some d
    else some d

theorem unescaped_cons {c : Char} (plain : c ≠ '\\') (t : Text) : unescaped (c :: t) = c :: unescaped t := by
  cases t <;> simp [unescaped, plain]

theorem isPending_cons {c : Char} (plain : c ≠ '\\') (t : Text) : isPending (c :: t) = isPending t := by
  cases t <;> simp [isPending, plain]

/-! A text with nothing pending does not reach into what is behind it. -/

theorem unescaped_append {s : Text} (t : Text) (complete : isPending s = false) :
    unescaped (s ++ t) = unescaped s ++ unescaped t := by
  fun_induction unescaped s with
  | case1 => rfl
  | case2 => simp [isPending] at complete
  | case3 skipped rest ih =>
    have later : isPending rest = false := by simpa [isPending] using complete
    simp [unescaped, ih later]
  | case4 c cs plain ih =>
    have later : isPending cs = false := by rwa [isPending_cons plain] at complete
    rw [List.cons_append, unescaped_cons plain, ih later, List.cons_append]

theorem isPending_append {s : Text} (t : Text) (complete : isPending s = false) :
    isPending (s ++ t) = isPending t := by
  fun_induction unescaped s with
  | case1 => rfl
  | case2 => simp [isPending] at complete
  | case3 skipped rest ih =>
    have later : isPending rest = false := by simpa [isPending] using complete
    simp [isPending, ih later]
  | case4 c cs plain ih =>
    have later : isPending cs = false := by rwa [isPending_cons plain] at complete
    rw [List.cons_append, isPending_cons plain, ih later]

/-- Escaping leaves nothing pending, and those characters unescaped that have no meaning. -/
theorem unescaped_escape {metas : List Char} (backslash : '\\' ∈ metas) (t : Text) :
    isPending (Escape.escape metas t) = false ∧
      unescaped (Escape.escape metas t) = t.filter fun c => decide (c ∉ metas) := by
  induction t with
  | nil => exact ⟨rfl, rfl⟩
  | cons c t ih =>
    by_cases special : c ∈ metas
    · simp [Escape.escape, isPending, unescaped, special, ih]
    · have plain : c ≠ '\\' := by
        rintro rfl
        exact special backslash
      simp [Escape.escape, isPending_cons plain, unescaped_cons plain, special, ih]

/-! The two counts as walks over the unescaped characters. -/

theorem setStep_plain {c : Char} (notOpen : c ≠ '[') (notClose : c ≠ ']') (inSet : Bool) :
    setStep inSet c = inSet := by
  simp [setStep, notOpen, notClose]

theorem groupStep_plain {c : Char} (notOpen : c ≠ '(') (notClose : c ≠ ')') (depth : Option Nat) :
    groupStep depth c = depth := by
  cases depth <;> simp [groupStep, notOpen, notClose]

theorem setsClose_eq (inSet : Bool) (t : Text) : setsClose inSet t = !(unescaped t).foldl setStep inSet := by
  fun_induction setsClose inSet t with
  | case1 inSet => rfl
  | case2 inSet => rfl
  | case3 inSet skipped rest ih => exact ih
  | case4 inSet cs plain ih => rw [ih, unescaped_cons plain]; rfl
  | case5 inSet cs plain other ih => rw [ih, unescaped_cons plain]; rfl
  | case6 inSet c cs plain notOpen notClose ih =>
    rw [ih, unescaped_cons plain, List.foldl_cons, setStep_plain notOpen notClose]

theorem foldl_groupStep_none (t : Text) : t.foldl groupStep none = none := by
  induction t with
  | nil => rfl
  | cons c t ih => exact ih

theorem groupsClose_eq (depth : Nat) (t : Text) :
    groupsClose depth t = ((unescaped t).foldl groupStep (some depth) == some 0) := by
  fun_induction groupsClose depth t with
  | case1 depth => simp [unescaped]
  | case2 depth => simp [unescaped]
  | case3 depth skipped rest ih => exact ih
  | case4 depth cs plain ih => rw [ih, unescaped_cons plain]; rfl
  | case5 cs plain other =>
    rw [unescaped_cons plain, List.foldl_cons]
    show false = (List.foldl groupStep none (unescaped cs) == some 0)
    rw [foldl_groupStep_none]
    rfl
  | case6 cs d plain other ih => rw [ih, unescaped_cons plain]; rfl
  | case7 depth c cs plain notOpen notClose ih =>
    rw [ih, unescaped_cons plain, List.foldl_cons, groupStep_plain notOpen notClose]

/-! Texts that bring a state back. -/

/-- A text with nothing pending at its end, behind which a walk is in the state in which it has come, if that is
one of a class. -/
structure Neutral {State : Type} (step : State → Char → State) (rest : State → Prop) (t : Text) : Prop where
  complete : isPending t = false
  back : ∀ s, rest s → (unescaped t).foldl step s = s

namespace Neutral

variable {State : Type} {step : State → Char → State} {rest : State → Prop} {t u : Text}

theorem nil : Neutral step rest [] := ⟨rfl, fun _ _ => rfl⟩

theorem append (first : Neutral step rest t) (second : Neutral step rest u) : Neutral step rest (t ++ u) where
  complete := by rw [isPending_append u first.complete, second.complete]
  back := by
    intro s atRest
    rw [unescaped_append u first.complete, List.foldl_append, first.back s atRest, second.back s atRest]

private theorem foldl_idle (idle : ∀ c ∈ t, ∀ s, step s c = s) (s : State) : t.foldl step s = s := by
  induction t with
  | nil => rfl
  | cons c t ih =>
    rw [List.foldl_cons, idle c List.mem_cons_self]
    exact ih fun c' member => idle c' (List.mem_cons_of_mem _ member)

/-- Characters that change no state, none of them a backslash, are neutral together. -/
theorem of_idle (idle : ∀ c ∈ t, c ≠ '\\' ∧ ∀ s, step s c = s) : Neutral step rest t := by
  have same : isPending t = false ∧ unescaped t = t := by
    induction t with
    | nil => exact ⟨rfl, rfl⟩
    | cons c t ih =>
      have plain : c ≠ '\\' := (idle c List.mem_cons_self).1
      obtain ⟨complete, all⟩ := ih fun c' member => idle c' (List.mem_cons_of_mem _ member)
      rw [isPending_cons plain, unescaped_cons plain, complete, all]
      exact ⟨rfl, rfl⟩
  refine ⟨same.1, fun s _ => ?_⟩
  rw [same.2]
  exact foldl_idle (fun c member => (idle c member).2) s

/-- Escaped text is neutral if the characters that stand in it without a backslash change no state. -/
theorem escape {metas : List Char} (backslash : '\\' ∈ metas)
    (idle : ∀ c ∈ t, c ∉ metas → ∀ s, step s c = s) : Neutral step rest (Escape.escape metas t) := by
  obtain ⟨complete, plain⟩ := unescaped_escape backslash t
  refine ⟨complete, fun s _ => ?_⟩
  rw [plain]
  apply foldl_idle
  intro c member
  obtain ⟨there, notMeta⟩ := List.mem_filter.mp member
  exact idle c there (by simpa using notMeta)

/-- Between two characters of which the second undoes what the first does, neutral text is neutral. -/
theorem enclosed {within : State → Prop} (body : Neutral step within t) {first last : Char} (notFirst : first ≠ '\\')
    (notLast : last ≠ '\\') (undoes : ∀ s, rest s → within (step s first) ∧ step (step s first) last = s) :
    Neutral step rest (first :: t ++ [last]) where
  complete := by
    rw [List.cons_append, isPending_cons notFirst, isPending_append _ body.complete, isPending_cons notLast]
    rfl
  back := by
    intro s atRest
    obtain ⟨inside, outside⟩ := undoes s atRest
    have end_ : unescaped [last] = [last] := unescaped_cons notLast []
    rw [List.cons_append, unescaped_cons notFirst, unescaped_append _ body.complete, end_, List.foldl_cons,
      List.foldl_append, body.back _ inside]
    exact outside

/-- Where nothing is pending, and the state is one of the class, neutral text makes no difference. -/
theorem foldl_insert {a c : Text} (neutral : Neutral step rest c) (complete : isPending a = false) {start : State}
    (atRest : rest ((unescaped a).foldl step start)) (b : Text) :
    (unescaped (a ++ c ++ b)).foldl step start = (unescaped (a ++ b)).foldl step start := by
  rw [List.append_assoc, unescaped_append _ complete, unescaped_append b complete,
    unescaped_append b neutral.complete]
  rw [List.foldl_append, List.foldl_append, List.foldl_append, neutral.back _ atRest]

end Neutral

/-- Whether a text leaves no set open, where none has been open before it. -/
abbrev KeepsSets : Text → Prop := Neutral setStep (· = false)

/-- Whether as many groups are open behind a text as before it. -/
abbrev KeepsGroups : Text → Prop := Neutral groupStep fun _ => True

theorem keepsSets_iff {t : Text} : KeepsSets t ↔ isPending t = false ∧ brackets t = true := by
  constructor
  · rintro ⟨complete, back⟩
    rw [brackets, setsClose_eq, back false rfl]
    exact ⟨complete, rfl⟩
  · rintro ⟨complete, closed⟩
    rw [brackets, setsClose_eq] at closed
    refine ⟨complete, ?_⟩
    rintro _ rfl
    simpa using closed

private theorem groupStep_add {c : Char} {depth depth' : Nat} (more : Nat)
    (step : groupStep (some depth) c = some depth') :
    groupStep (some (depth + more)) c = some (depth' + more) := by
  by_cases opens : c = '('
  · subst opens
    obtain rfl : depth + 1 = depth' := Option.some.inj step
    show some (depth + more + 1) = some (depth + 1 + more)
    rw [Nat.add_right_comm]
  · by_cases closes : c = ')'
    · subst closes
      cases depth with
      | zero => cases step
      | succ depth =>
        obtain rfl : depth = depth' := Option.some.inj step
        rw [Nat.add_right_comm]
        rfl
    · rw [groupStep_plain opens closes] at step ⊢
      rw [Option.some.inj step]

/-- Groups that are open around a walk which closes none of them stay open. -/
private theorem foldl_groupStep_add {t : Text} {depth depth' : Nat} (more : Nat)
    (walk : t.foldl groupStep (some depth) = some depth') :
    t.foldl groupStep (some (depth + more)) = some (depth' + more) := by
  induction t generalizing depth with
  | nil =>
    obtain rfl : depth = depth' := Option.some.inj walk
    rfl
  | cons c t ih =>
    rw [List.foldl_cons] at walk ⊢
    cases step : groupStep (some depth) c with
    | none =>
      rw [step, foldl_groupStep_none] at walk
      cases walk
    | some d =>
      rw [step] at walk
      rw [groupStep_add more step]
      exact ih walk

theorem keepsGroups_iff {t : Text} : KeepsGroups t ↔ isPending t = false ∧ parentheses t = true := by
  constructor
  · rintro ⟨complete, back⟩
    rw [parentheses, groupsClose_eq, back (some 0) trivial]
    exact ⟨complete, rfl⟩
  · rintro ⟨complete, closed⟩
    rw [parentheses, groupsClose_eq] at closed
    have walk : (unescaped t).foldl groupStep (some 0) = some 0 := by simpa using closed
    refine ⟨complete, fun s _ => ?_⟩
    cases s with
    | none => exact foldl_groupStep_none _
    | some depth =>
      have further := foldl_groupStep_add depth walk
      rwa [Nat.zero_add] at further

end PatternKit.Balance
