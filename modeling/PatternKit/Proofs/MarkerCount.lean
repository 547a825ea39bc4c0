import PatternKit.Proofs.CompileOutcome
import PatternKit.Proofs.NestedRepetition

/-!
How many markers the text of a tree holds. Each repetition in it writes one, by the suffix of its quantifier, unless
that is `?`, and nothing else writes any if the characters that are given are no signs of markers themselves. So the
scan for markers in sequence counts the repetitions of the tree up to two, wherever these stand.
-/

set_option autoImplicit false

namespace PatternKit

namespace Backtracking

variable {s t : Text} {m n : Nat} {c : Char}

/-- Whether a character is no sign of a marker, and ends no line. -/
def Unmarked (c : Char) : Prop := c ∉ ['*', '+', '{'] ∧ isLineBreak c = false

instance : DecidablePred Unmarked :=
  fun c => inferInstanceAs (Decidable (c ∉ ['*', '+', '{'] ∧ isLineBreak c = false))

/-- Whether a text, whatever stands behind it, is to the scan a line with some number of markers: there is one in sight
from its beginning just if it holds one itself or else there is one in sight from its end, and two of them are in
sequence just if it holds two, or the one that it holds and one in sight from its end, or two behind it. -/
structure HoldsMarkers (t : Text) (n : Nat) : Prop where
  inSight (rest : Text) : markerOnLine (t ++ rest) = true ↔ 0 < n ∨ markerOnLine rest = true
  inSequence (rest : Text) : hasSequentialRepetition (t ++ rest) = true ↔
    1 < n ∨ (0 < n ∧ markerOnLine rest = true) ∨ hasSequentialRepetition rest = true

namespace HoldsMarkers

theorem nil : HoldsMarkers [] 0 := ⟨by simp, by simp⟩

theorem append (first : HoldsMarkers s m) (second : HoldsMarkers t n) : HoldsMarkers (s ++ t) (m + n) where
  inSight rest := by
    have some_ : 0 < m + n ↔ 0 < m ∨ 0 < n := by omega
    rw [List.append_assoc, first.inSight, second.inSight, some_, or_assoc]
  inSequence rest := by
    have some_ : 0 < m + n ↔ 0 < m ∨ 0 < n := by omega
    have two : 1 < m + n ↔ 1 < m ∨ (0 < m ∧ 0 < n) ∨ 1 < n := by omega
    rw [List.append_assoc, first.inSequence, second.inSight, second.inSequence, some_, two]
    grind

/-- A character that is no sign counts for nothing. -/
theorem unmarked (plain : Unmarked c) : HoldsMarkers [c] 0 := by
  obtain ⟨noSign, noBreak⟩ := plain
  simp only [List.mem_cons, List.not_mem_nil, or_false, not_or] at noSign
  have none_ (rest : Text) : afterMarker? c rest = none := afterMarker?_plain noSign.1 noSign.2.1 noSign.2.2 rest
  constructor
  · intro rest
    simp [markerOnLine, none_, noBreak]
  · intro rest
    simp [hasSequentialRepetition, none_]

theorem of_unmarked (plain : ∀ c ∈ t, Unmarked c) : HoldsMarkers t 0 := by
  induction t with
  | nil => exact .nil
  | cons c t ih =>
    have first : HoldsMarkers [c] 0 := .unmarked (plain c List.mem_cons_self)
    exact first.append (ih fun d member => plain d (List.mem_cons_of_mem c member))

/-- A marker that begins with its first character, and in which no other one begins, counts for one. -/
theorem marker (reads : ∀ rest, afterMarker? c (t ++ rest) = some rest) (within : HoldsMarkers t 0) :
    HoldsMarkers (c :: t) 1 where
  inSight rest := by simp [markerOnLine, reads]
  inSequence rest := by simp [hasSequentialRepetition, reads, within.inSequence]

end HoldsMarkers

theorem IsCountChar.unmarked (count : IsCountChar c) : Unmarked c := by
  constructor
  · intro sign
    simp only [List.mem_cons, List.not_mem_nil, or_false] at sign
    rcases sign with rfl | rfl | rfl <;> exact count.ne (by decide) (by decide) rfl
  · have breaks : isLineBreak c = true ↔ c ∈ ['\n', '\r', '\u2028', '\u2029'] := by simp [isLineBreak, or_assoc]
    rw [← Bool.not_eq_true, breaks]
    intro ends
    simp only [List.mem_cons, List.not_mem_nil, or_false] at ends
    rcases ends with rfl | rfl | rfl | rfl <;> exact count.ne (by decide) (by decide) rfl

/-- The suffix of a quantifier is one marker, unless it is a question mark. -/
theorem holdsMarkers_suffix (q : Quantifier) : HoldsMarkers q.suffix (if q = .optional then 0 else 1) := by
  rcases suffix_cases q with (rfl | rfl | rfl) | ⟨repeats, body, text, count⟩
  · exact .unmarked (by decide)
  · exact .marker (fun _ => rfl) .nil
  · exact .marker (fun _ => rfl) .nil
  · have plain : ∀ c ∈ body ++ ['}'], Unmarked c := by
      intro c member
      rcases List.mem_append.mp member with inBody | last
      · exact (count.countChars c inBody).unmarked
      · obtain rfl := List.mem_singleton.mp last
        decide
    rw [if_neg repeats, text]
    refine .marker (fun rest => ?_) (.of_unmarked plain)
    rw [List.append_assoc, List.singleton_append]
    exact afterMarker?_of_counted? (count.counted? rest)

end Backtracking

namespace Component

open Backtracking (Unmarked HoldsMarkers hasSequentialRepetition)

/-- Whether a node is a repetition by another quantifier than `?`. -/
def isRepetition : Component → Bool
  | .quantified _ q => decide (q ≠ .optional)
  | _ => false

/-- Whether a fragment is what stands for given text, for a set of given characters, or for a range, and all characters
that are given are members of a class. -/
def IsEscapedFrom (member : Char → Prop) (fragment : Text) : Prop :=
  (∃ value, (∀ c ∈ value, member c) ∧ text fragment = literal value) ∨
    (∃ chars negated, (∀ c ∈ chars, member c) ∧ text fragment = set chars negated) ∨
    ∃ lo hi, (member lo ∧ member hi) ∧ text fragment = range lo hi

mutual

/-- Whether all fragments in a component are escaped from members of a class. -/
def EscapedFrom (member : Char → Prop) : Component → Prop
  | .text fragment => IsEscapedFrom member fragment
  | .shorthand _ => True
  | .group children _ => EscapedFromAll member children
  | .alternation branches => EscapedFromAll member branches
  | .quantified inner _ => EscapedFrom member inner

def EscapedFromAll (member : Char → Prop) : List Component → Prop
  | [] => True
  | c :: cs => EscapedFrom member c ∧ EscapedFromAll member cs

end

end Component

namespace Backtracking

open Component (EscapedFrom EscapedFromAll IsEscapedFrom isRepetition nodesAll renderAll renderBranches renderFurther)

theorem unmarked_escape {metas value : Text} (plain : ∀ c ∈ value, Unmarked c) :
    ∀ c ∈ Escape.escape metas value, Unmarked c := by
  have backslash : Unmarked '\\' := by decide
  induction value with
  | nil => simp [Escape.escape]
  | cons c value ih =>
    obtain ⟨first, later⟩ := List.forall_mem_cons.mp plain
    by_cases special : c ∈ metas
    · rw [Escape.escape, if_pos special]
      exact List.forall_mem_cons.mpr ⟨backslash, List.forall_mem_cons.mpr ⟨first, ih later⟩⟩
    · rw [Escape.escape, if_neg special]
      exact List.forall_mem_cons.mpr ⟨first, ih later⟩

/-- No marker is held by what is written for groups, branches, sets and ranges around what is in them. -/
theorem holdsMarkers_signs {t : Text} (signs : t ⊆ ['(', '?', ':', ')', '|', '[', '^', '-', ']']) :
    HoldsMarkers t 0 := by
  have plain : ∀ c ∈ ['(', '?', ':', ')', '|', '[', '^', '-', ']'], Unmarked c := by simp [Unmarked, isLineBreak]
  exact .of_unmarked fun c member => plain c (signs member)

/-- Escaped text holds no marker, nor do the signs of sets and ranges around it. -/
theorem holdsMarkers_escaped {fragment : Text} (escaped : IsEscapedFrom Unmarked fragment) :
    HoldsMarkers fragment 0 := by
  have closing : HoldsMarkers [']'] 0 := holdsMarkers_signs (by simp)
  have given {metas value : Text} (plain : ∀ c ∈ value, Unmarked c) : HoldsMarkers (Escape.escape metas value) 0 :=
    .of_unmarked (unmarked_escape plain)
  rcases escaped with ⟨value, plain, same⟩ | ⟨chars, negated, plain, same⟩ | ⟨lo, hi, ⟨first, last⟩, same⟩
  · obtain rfl := Component.text.inj same
    exact given plain
  · obtain rfl := Component.text.inj same
    have opening : HoldsMarkers (if negated then ['[', '^'] else ['[']) 0 := by
      cases negated <;> exact holdsMarkers_signs (by simp)
    exact (opening.append (given plain)).append closing
  · obtain rfl := Component.text.inj same
    have opening : HoldsMarkers ['['] 0 := holdsMarkers_signs (by simp)
    have dash : HoldsMarkers ['-'] 0 := holdsMarkers_signs (by simp)
    have start : HoldsMarkers (Escape.setMember [lo]) 0 := given (by simpa using first)
    have stop : HoldsMarkers (Escape.setMember [hi]) 0 := given (by simpa using last)
    exact ((opening.append start).append (dash.append stop)).append closing

theorem holdsMarkers_shorthand (class_ : Shorthand) : HoldsMarkers class_.token 0 := by
  cases class_ <;> exact .of_unmarked (by simp [Shorthand.token, Unmarked, isLineBreak])

/-- What is written for a group around its children holds no marker. -/
theorem holdsMarkers_group {t : Text} {n : Nat} (body : HoldsMarkers t n) (capturing : Bool) :
    HoldsMarkers ((if capturing then ['('] else ['(', '?', ':']) ++ t ++ [')']) n := by
  have opening : HoldsMarkers (if capturing then ['('] else ['(', '?', ':']) 0 := by
    cases capturing <;> exact holdsMarkers_signs (by simp)
  have closing : HoldsMarkers [')'] 0 := holdsMarkers_signs (by simp)
  simpa using (opening.append body).append closing

mutual

/-- The text of a component holds as many markers as there are repetitions in it. By the structure of the component. -/
theorem holdsMarkers_render (c : Component) (escaped : c.EscapedFrom Unmarked) :
    HoldsMarkers c.render (c.nodes.countP isRepetition) := by
  cases c with
  | text fragment => exact holdsMarkers_escaped escaped
  | shorthand class_ => exact holdsMarkers_shorthand class_
  | group children capturing =>
    rw [Component.render, Component.nodes]
    exact holdsMarkers_group (holdsMarkers_renderAll children escaped) capturing
  | alternation branches =>
    rw [Component.render, Component.nodes]
    cases branches with
    | nil => exact .nil
    | cons first further =>
      have branches := (holdsMarkers_render first escaped.1).append (holdsMarkers_renderFurther further escaped.2)
      rw [← List.countP_append] at branches
      exact branches
  | quantified inner q =>
    have written := (holdsMarkers_render inner escaped).append (holdsMarkers_suffix q)
    have counted : (Component.quantified inner q).nodes.countP isRepetition =
        inner.nodes.countP isRepetition + if q = .optional then 0 else 1 := by
      by_cases optional : q = .optional <;> simp [Component.nodes, isRepetition, optional]
    rw [counted]
    exact written

theorem holdsMarkers_renderAll (cs : List Component) (escaped : EscapedFromAll Unmarked cs) :
    HoldsMarkers (renderAll cs) ((nodesAll cs).countP isRepetition) := by
  cases cs with
  | nil => exact .nil
  | cons c cs =>
    rw [nodesAll, List.countP_append]
    exact (holdsMarkers_render c escaped.1).append (holdsMarkers_renderAll cs escaped.2)

theorem holdsMarkers_renderFurther (cs : List Component) (escaped : EscapedFromAll Unmarked cs) :
    HoldsMarkers (renderFurther cs) ((nodesAll cs).countP isRepetition) := by
  cases cs with
  | nil => exact .nil
  | cons c cs =>
    have bar : HoldsMarkers ['|'] 0 := holdsMarkers_signs (by simp)
    have branches := (holdsMarkers_render c escaped.1).append (holdsMarkers_renderFurther cs escaped.2)
    have whole := bar.append branches
    rw [Nat.zero_add, ← List.countP_append] at whole
    exact whole

end

/-- Where no character that is given to a text, a set or a range is a sign of a marker or ends a line, the scan for
markers in sequence flags the text of a sequence if and only if two repetitions at least, by other quantifiers than `?`,
stand somewhere in the tree. So these are the texts that the default policy refuses. -/
theorem sequential_scan_counts_repetitions (d : Draft) (escaped : EscapedFromAll Unmarked d.components) :
    (hasSequentialRepetition d.render = true ↔ 2 ≤ (nodesAll d.components).countP isRepetition) ∧
      (Issue.catastrophicBacktracking ∈ Validation.structuralIssues ({} : Limits).policy d.render ↔
        2 ≤ (nodesAll d.components).countP isRepetition) := by
  have scan := (holdsMarkers_renderAll d.components escaped).inSequence []
  have flagged : hasSequentialRepetition d.render = true ↔ 2 ≤ (nodesAll d.components).countP isRepetition := by
    have atEnd : markerOnLine [] = false ∧ hasSequentialRepetition [] = false := ⟨rfl, rfl⟩
    rw [List.append_nil, atEnd.1, atEnd.2] at scan
    rw [Draft.render_eq_renderAll, scan]
    simp [Nat.lt_iff_add_one_le]
  refine ⟨flagged, ?_⟩
  rw [Validation.mem_structuralIssues, ← Validation.refuses_iff]
  exact flagged

/-- A count in one branch and a question mark in the other, between braces that are given. -/
def countedBranch : Draft :=
  { components :=
      [.literal ['}', '?'],
        .alternatives
          [[.quantified (.set ['}', ','] true) (.between 2 4 (by decide))], [.quantified (.range 'a' '}') .optional]]] }

/-- A count with a question mark and a plus sign stacked on it. -/
def stackedCount : Draft :=
  { components := [.quantified (.quantified (.quantified (.shorthand .digit) (.exactly 2)) .optional) .oneOrMore] }

theorem countedBranch_scan :
    EscapedFromAll Unmarked countedBranch.components ∧ hasSequentialRepetition countedBranch.render = false ∧
      EscapedFromAll Unmarked stackedCount.components ∧ hasSequentialRepetition stackedCount.render = true := by
  have literal : IsEscapedFrom Unmarked (Escape.literal ['}', '?']) :=
    .inl ⟨['}', '?'], by simp [Unmarked, isLineBreak], rfl⟩
  have counted : (Component.set ['}', ','] true).EscapedFrom Unmarked :=
    .inr (.inl ⟨['}', ','], true, by simp [Unmarked, isLineBreak], rfl⟩)
  have optional : (Component.range 'a' '}').EscapedFrom Unmarked := .inr (.inr ⟨'a', '}', by decide, rfl⟩)
  have escaped : EscapedFromAll Unmarked countedBranch.components :=
    ⟨literal, ⟨⟨counted, trivial⟩, ⟨optional, trivial⟩, trivial⟩, trivial⟩
  have stacked : EscapedFromAll Unmarked stackedCount.components := ⟨trivial, trivial⟩
  have one : (nodesAll countedBranch.components).countP isRepetition = 1 := by decide
  have two : (nodesAll stackedCount.components).countP isRepetition = 2 := by decide
  refine ⟨escaped, ?_, stacked, ?_⟩
  · refine Bool.eq_false_iff.mpr fun flagged => ?_
    have least := (sequential_scan_counts_repetitions countedBranch escaped).1.mp flagged
    omega
  · exact (sequential_scan_counts_repetitions stackedCount stacked).1.mpr (by omega)

end Backtracking

end PatternKit
