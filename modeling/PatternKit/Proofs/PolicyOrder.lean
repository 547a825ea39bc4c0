import PatternKit.Proofs.RepetitionMarkers
import PatternKit.Validation

/-!
The order of the policies. On one line the scan for nested repetitions finds nothing that the scan for markers in
sequence does not find. So the faults that a stricter policy finds are those that a laxer one finds, and perhaps
one more behind them.
-/

set_option autoImplicit false

namespace PatternKit

namespace Backtracking

variable {t : Text}

/-- What the scan for nested repetitions flags holds two markers in sequence, or one behind a marker that was seen
before it in a group that is still open. By induction on the scan: a step over one character keeps what is in
sight behind it, and where a step notes a marker, the one in sight comes second. -/
private theorem sequential_of_nestedFrom {inSet : Bool} {open_ : List Bool} (line : OneLine t)
    (flagged : nestedFrom inSet open_ t = true) :
    hasSequentialRepetition t = true ∨ true ∈ open_ ∧ markerOnLine t = true := by
  -- a step that leaves no more groups with a marker in them than there were
  have step {c : Char} {t : Text} {before after : List Bool} (line : OneLine (c :: t))
      (fewer : true ∈ after → true ∈ before)
      (later : hasSequentialRepetition t = true ∨ true ∈ after ∧ markerOnLine t = true) :
      hasSequentialRepetition (c :: t) = true ∨ true ∈ before ∧ markerOnLine (c :: t) = true := by
    rcases later with sequential | ⟨seen, marked⟩
    · exact .inl (sequential_cons _ sequential)
    · exact .inr ⟨fewer seen, markerOnLine_cons line marked⟩
  fun_induction nestedFrom inSet open_ t with
  | case1 inSet open_ => cases flagged
  | case2 inSet open_ => cases flagged
  | case3 inSet open_ skipped rest ih =>
    have rest' := step line.tail id (ih line.tail.tail flagged)
    exact step line id rest'
  | case4 open_ c cs plain ih => exact step line id (ih line.tail flagged)
  | case5 inSet open_ cs outside plain ih => exact step line id (ih line.tail flagged)
  | case6 inSet open_ cs outside plain notSet ih =>
    exact step line (by simp) (ih line.tail flagged)
  | case7 inSet cs outside outer plain notSet notOpen ih =>
    rcases Bool.or_eq_true_iff.mp flagged with repeated | flagged
    · have marked : markerOnLine cs = true := markerOnLine_of_startsRepetition repeated
      exact .inr ⟨List.mem_cons_self, markerOnLine_cons line marked⟩
    · exact step line (fun _ => List.mem_cons_self) (ih line.tail flagged)
  | case8 inSet cs outside outer plain notSet notOpen ih =>
    exact step line (List.mem_cons_of_mem false) (ih line.tail flagged)
  | case9 inSet cs outside plain notSet notOpen ih => exact step line id (ih line.tail flagged)
  | case10 inSet open_ c cs plain outside notSet notOpen notClose star ih =>
    rcases ih line.tail flagged with sequential | ⟨-, marked⟩
    · exact .inl (sequential_cons _ sequential)
    · have marker : afterMarker? c cs = some cs := by rw [afterMarker?, if_pos star]
      exact .inl (sequential_of_marker marker marked)
  | case11 inSet open_ c cs plain outside notSet notOpen notClose notStar counts ih =>
    have parts : c = '{' ∧ (counted? cs).any (·.2) = true := by simpa using counts
    obtain ⟨rfl, unbounded⟩ := parts
    rcases ih line.tail flagged with sequential | ⟨-, marked⟩
    · exact .inl (sequential_cons _ sequential)
    · cases read : counted? cs with
      | none =>
        rw [read] at unbounded
        cases unbounded
      | some behind =>
        have second : markerOnLine behind.1 = true := markerOnLine_behind_count read marked
        exact .inl (sequential_of_marker (afterMarker?_of_counted? read) second)
  | case12 inSet open_ c cs plain outside notSet notOpen notClose notStar notCount ih =>
    exact step line id (ih line.tail flagged)

/-- On one line, repetitions that are nested are in sequence. -/
theorem sequential_of_nested (line : OneLine t) (flagged : hasNestedRepetition t = true) :
    hasSequentialRepetition t = true := by
  rcases sequential_of_nestedFrom line flagged with sequential | ⟨seen, -⟩
  · exact sequential
  · cases seen

end Backtracking

/-- Whether an engine answers the same under every policy, as it is asked for limits only. -/
def Engine.IgnoresPolicy (engine : Engine) : Prop :=
  ∀ (limits : Limits) (policy : BacktrackPolicy) (sw : Regex.Switches) (pattern : Text),
    engine { limits with policy := policy } sw pattern = engine limits sw pattern

theorem Regex.build_ignoresPolicy : Engine.IgnoresPolicy Regex.build := fun _ _ _ _ => rfl

namespace Validation

/-- Whether a list of faults is another one, or that one with a fault for backtracking behind it. -/
def AtMostBacktracking (laxer stricter : List Issue) : Prop :=
  stricter = laxer ∨ stricter = laxer ++ [.catastrophicBacktracking]

theorem AtMostBacktracking.isPrefix {laxer stricter : List Issue} (more : AtMostBacktracking laxer stricter) :
    laxer <+: stricter := by
  rcases more with rfl | rfl
  · exact List.prefix_refl _
  · exact List.prefix_append _ _

/-- The faults of a text under a policy, within given limits. -/
def faults (engine : Engine) (limits : Limits) (policy : BacktrackPolicy) (pattern : Text) : List Issue :=
  (check engine { limits with policy := policy } pattern).result

variable {laxer stricter : BacktrackPolicy} {pattern : Text}

/-- A policy that refuses more adds one fault at most, and that one comes last. -/
private theorem structuralIssues_atMostBacktracking
    (more : Backtracking.refuses laxer pattern = true → Backtracking.refuses stricter pattern = true) :
    AtMostBacktracking (structuralIssues laxer pattern) (structuralIssues stricter pattern) := by
  cases refusedFirst : Backtracking.refuses laxer pattern with
  | true =>
    have refusedThen := more refusedFirst
    left
    rw [structuralIssues, structuralIssues, refusedFirst, refusedThen]
  | false =>
    cases refusedThen : Backtracking.refuses stricter pattern with
    | true =>
      right
      rw [structuralIssues, structuralIssues, refusedFirst, refusedThen]
      simp
    | false =>
      left
      rw [structuralIssues, structuralIssues, refusedFirst, refusedThen]

/-- The engine is asked first, and answers the same under both policies. -/
private theorem faults_atMostBacktracking {engine : Engine} (ignores : engine.IgnoresPolicy) (limits : Limits)
    (more : Backtracking.refuses laxer pattern = true → Backtracking.refuses stricter pattern = true) :
    AtMostBacktracking (faults engine limits laxer pattern) (faults engine limits stricter pattern) := by
  unfold faults check
  rw [ignores limits laxer, ignores limits stricter]
  cases engine limits {} pattern with
  | error reason => exact .inl rfl
  | ok searcher => exact structuralIssues_atMostBacktracking more

/-- On a text of one line the policies are ordered. What is nested is in sequence; so the faults under no policy are
a beginning of those under the nested one, and these of those under the sequential one, each time with a fault for
backtracking in the end at most. A text that is valid under the sequential policy is valid under the others. -/
theorem policies_are_ordered (engine : Engine) (ignores : engine.IgnoresPolicy) (limits : Limits) (pattern : Text)
    (line : ∀ c ∈ pattern, Backtracking.isLineBreak c = false) :
    (Backtracking.hasNestedRepetition pattern = true → Backtracking.hasSequentialRepetition pattern = true) ∧
      faults engine limits .disabled pattern <+: faults engine limits .nested pattern ∧
      faults engine limits .nested pattern <+: faults engine limits .sequential pattern ∧
      AtMostBacktracking (faults engine limits .disabled pattern) (faults engine limits .nested pattern) ∧
      AtMostBacktracking (faults engine limits .nested pattern) (faults engine limits .sequential pattern) ∧
      AtMostBacktracking (faults engine limits .disabled pattern) (faults engine limits .sequential pattern) ∧
      (faults engine limits .sequential pattern = [] →
        faults engine limits .nested pattern = [] ∧ faults engine limits .disabled pattern = []) := by
  have ordered :
      Backtracking.hasNestedRepetition pattern = true → Backtracking.hasSequentialRepetition pattern = true :=
    Backtracking.sequential_of_nested line
  have none {policy : BacktrackPolicy} : Backtracking.refuses .disabled pattern = true →
      Backtracking.refuses policy pattern = true := fun refused => by cases refused
  have first : AtMostBacktracking (faults engine limits .disabled pattern) (faults engine limits .nested pattern) :=
    faults_atMostBacktracking ignores limits none
  have second : AtMostBacktracking (faults engine limits .nested pattern) (faults engine limits .sequential pattern) :=
    faults_atMostBacktracking ignores limits ordered
  refine ⟨ordered, first.isPrefix, second.isPrefix, first, second, faults_atMostBacktracking ignores limits none, ?_⟩
  intro valid
  have nested : faults engine limits .nested pattern = [] := by simpa [valid] using second.isPrefix
  have disabled : faults engine limits .disabled pattern = [] := by simpa [nested] using first.isPrefix
  exact ⟨nested, disabled⟩

/-- A counted group with a count inside it, behind a set whose member the count of parentheses takes for one. -/
def countInGroup : Text := "(?:[)]x\x7b2,\x7d)\x7b3\x7d".toList

theorem countInGroup_under_policies :
    Engine.IgnoresPolicy Regex.build ∧ (∀ c ∈ countInGroup, Backtracking.isLineBreak c = false) ∧
      Backtracking.hasNestedRepetition countInGroup = true ∧
      Backtracking.hasSequentialRepetition countInGroup = true ∧
      faults Regex.build {} .disabled countInGroup = [.unbalancedParentheses] ∧
      faults Regex.build {} .nested countInGroup = [.unbalancedParentheses, .catastrophicBacktracking] ∧
      faults Regex.build {} .nested countInGroup <+: faults Regex.build {} .sequential countInGroup := by
  have line : ∀ c ∈ countInGroup, Backtracking.isLineBreak c = false := by
    have all : (countInGroup.all fun c => Backtracking.isLineBreak c == false) = true := by decide +kernel
    intro c member
    exact eq_of_beq (List.all_eq_true.mp all c member)
  have nested : Backtracking.hasNestedRepetition countInGroup = true := by decide +kernel
  have underNone : faults Regex.build {} .disabled countInGroup = [.unbalancedParentheses] := by decide +kernel
  have underNested : faults Regex.build {} .nested countInGroup =
      [.unbalancedParentheses, .catastrophicBacktracking] := by decide +kernel
  obtain ⟨ordered, -, second, -⟩ := policies_are_ordered Regex.build Regex.build_ignoresPolicy {} countInGroup line
  exact ⟨Regex.build_ignoresPolicy, line, nested, ordered nested, underNone, underNested, second⟩

end Validation

end PatternKit
