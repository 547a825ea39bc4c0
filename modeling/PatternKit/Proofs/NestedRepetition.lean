import PatternKit.Draft
import PatternKit.Proofs.RepetitionMarkers
import PatternKit.Proofs.SuffixReading

/-!
Nested repetitions in text and in trees. The scan of pattern text goes through the text of a tree as one goes through
the tree: it notes a repetition without bound where a node is one, and it flags a group where a node repeats that group
and the group holds such a repetition.
-/

set_option autoImplicit false

namespace PatternKit

namespace Component

mutual

/-- The nodes of a component: itself, then those below it. -/
def nodes : Component → List Component
  | .text fragment => [.text fragment]
  | .shorthand class_ => [.shorthand class_]
  | .group children capturing => .group children capturing :: nodesAll children
  | .alternation branches => .alternation branches :: nodesAll branches
  | .quantified inner q => .quantified inner q :: nodes inner

/-- The nodes of a sequence. -/
def nodesAll : List Component → List Component
  | [] => []
  | c :: cs => nodes c ++ nodesAll cs

end

theorem nodesAll_append (cs ds : List Component) : nodesAll (cs ++ ds) = nodesAll cs ++ nodesAll ds := by
  induction cs with
  | nil => rfl
  | cons c cs ih => rw [List.cons_append, nodesAll, nodesAll, ih, List.append_assoc]

/-- Whether somewhere in a sequence a component is repeated without bound. -/
def HoldsUnbounded (cs : List Component) : Prop :=
  ∃ inner q, .quantified inner q ∈ nodesAll cs ∧ q.isUnbounded = true

/-- Whether somewhere in a sequence a group is repeated that holds a repetition without bound. -/
def NestsRepetition (cs : List Component) : Prop :=
  ∃ children capturing q, .quantified (.group children capturing) q ∈ nodesAll cs ∧ q ≠ .optional ∧
    HoldsUnbounded children

/-- Whether a node is a repetition without bound. -/
def isUnbounded : Component → Bool
  | .quantified _ q => q.isUnbounded
  | _ => false

/-- Whether a node is a group that holds a repetition without bound. -/
def isLoose : Component → Bool
  | .group children _ => (nodesAll children).any isUnbounded
  | _ => false

/-- Whether a node repeats a group that holds a repetition without bound. -/
def isNested : Component → Bool
  | .quantified inner q => decide (q ≠ .optional) && inner.isLoose
  | _ => false

variable {c : Component} {cs : List Component}

theorem holdsUnbounded_iff : HoldsUnbounded cs ↔ (nodesAll cs).any isUnbounded = true := by
  rw [List.any_eq_true]
  constructor
  · rintro ⟨inner, q, member, unbounded⟩
    exact ⟨_, member, unbounded⟩
  · rintro ⟨node, member, unbounded⟩
    cases node with
    | quantified inner q => exact ⟨inner, q, member, unbounded⟩
    | _ => cases unbounded

theorem isLoose_group {children : List Component} {capturing : Bool} :
    (group children capturing).isLoose = true ↔ HoldsUnbounded children :=
  holdsUnbounded_iff.symm

theorem nestsRepetition_iff : NestsRepetition cs ↔ (nodesAll cs).any isNested = true := by
  rw [List.any_eq_true]
  constructor
  · rintro ⟨children, capturing, q, member, repeats, holds⟩
    have loose : (group children capturing).isLoose = true := isLoose_group.mpr holds
    refine ⟨_, member, ?_⟩
    rw [isNested, loose, decide_eq_true repeats]
    rfl
  · rintro ⟨node, member, nested⟩
    cases node with
    | quantified inner q =>
      obtain ⟨repeats, loose⟩ : q ≠ .optional ∧ inner.isLoose = true := by simpa [isNested] using nested
      cases inner with
      | group children capturing => exact ⟨children, capturing, q, member, repeats, isLoose_group.mp loose⟩
      | _ => cases loose
    | _ => cases nested

instance : Decidable (NestsRepetition cs) := decidable_of_iff _ nestsRepetition_iff.symm

theorem any_isNested_quantified (inner : Component) (q : Quantifier) :
    (quantified inner q).nodes.any isNested =
      (inner.nodes.any isNested || (inner.isLoose && decide (q ≠ .optional))) := by
  rw [Bool.or_comm, Bool.and_comm]
  rfl

theorem any_isUnbounded_quantified (inner : Component) (q : Quantifier) :
    (quantified inner q).nodes.any isUnbounded = (inner.nodes.any isUnbounded || q.isUnbounded) :=
  Bool.or_comm _ _

/-- Whether a component is a choice between others. -/
def isAlternation : Component → Bool
  | .alternation _ => true
  | _ => false

/-- Whether a fragment is what stands for given text, for a set of given characters, or for a range. -/
def IsEscaped (fragment : Text) : Prop :=
  (∃ value, text fragment = literal value) ∨ (∃ chars negated, text fragment = set chars negated) ∨
    ∃ lo hi, text fragment = range lo hi

mutual

/-- Whether a component consists of escaped fragments, and every repetition in it has something to repeat: a
component that is not empty, and not a choice, which would be repeated in its last branch only. -/
def WellMade : Component → Prop
  | .text fragment => IsEscaped fragment
  | .shorthand _ => True
  | .group children _ => WellMadeAll children
  | .alternation branches => WellMadeAll branches
  | .quantified inner _ => WellMade inner ∧ inner.render ≠ [] ∧ inner.isAlternation = false

def WellMadeAll : List Component → Prop
  | [] => True
  | c :: cs => WellMade c ∧ WellMadeAll cs

end

end Component

namespace Backtracking

variable {t : Text} {c : Char} {inSet : Bool} {open_ : List Bool}

/-! What the scan does with a character. -/

theorem nestedFrom_skip (inSet : Bool) (open_ : List Bool) (c : Char) (t : Text) :
    nestedFrom inSet open_ ('\\' :: c :: t) = nestedFrom inSet open_ t := by
  rw [nestedFrom.eq_def]
  rfl

theorem nestedFrom_inSet (plain : c ≠ '\\') (open_ : List Bool) (t : Text) :
    nestedFrom true open_ (c :: t) = nestedFrom (c != ']') open_ t := by
  rw [nestedFrom.eq_def]
  simp only [if_neg plain, if_true]

theorem nestedFrom_member (plain : c ≠ '\\') (notClose : c ≠ ']') (open_ : List Bool) (t : Text) :
    nestedFrom true open_ (c :: t) = nestedFrom true open_ t := by
  have inside : (c != ']') = true := by simpa using notClose
  rw [nestedFrom_inSet plain, inside]

theorem nestedFrom_closeSet (open_ : List Bool) (t : Text) :
    nestedFrom true open_ (']' :: t) = nestedFrom false open_ t :=
  nestedFrom_inSet (by decide) open_ t

theorem nestedFrom_openSet (open_ : List Bool) (t : Text) :
    nestedFrom false open_ ('[' :: t) = nestedFrom true open_ t := by
  rw [nestedFrom.eq_def]
  rfl

theorem nestedFrom_open (open_ : List Bool) (t : Text) :
    nestedFrom false open_ ('(' :: t) = nestedFrom false (false :: open_) t := by
  rw [nestedFrom.eq_def]
  rfl

/-- Notes a repetition without bound, if there is one. -/
def noteIf (unbounded : Bool) (open_ : List Bool) : List Bool := if unbounded then noteUnbounded open_ else open_

theorem noteIf_noteIf (first second : Bool) (open_ : List Bool) :
    noteIf second (noteIf first open_) = noteIf (first || second) open_ := by
  cases open_ with
  | nil => cases first <;> cases second <;> rfl
  | cons seen outer => cases first <;> cases second <;> rfl

/-- Where a group closes, what has been noted in it counts if the group is repeated, and is noted around it. -/
theorem nestedFrom_close (seen : Bool) (outer : List Bool) (t : Text) :
    nestedFrom false (seen :: outer) (')' :: t) =
      ((seen && startsRepetition t) || nestedFrom false (noteIf seen outer) t) := by
  rw [nestedFrom.eq_def]
  cases seen <;> rfl

/-- Characters that mean nothing to the scan outside sets. -/
theorem nestedFrom_plain (plain : c ∉ ['\\', '[', '(', ')', '*', '+', '{']) (open_ : List Bool) (t : Text) :
    nestedFrom false open_ (c :: t) = nestedFrom false open_ t := by
  simp only [List.mem_cons, List.not_mem_nil, or_false, not_or] at plain
  obtain ⟨notEscape, notSet, notOpen, notClose, notStar, notPlus, notBrace⟩ := plain
  rw [nestedFrom.eq_def]
  simp [notEscape, notSet, notOpen, notClose, notStar, notPlus, notBrace]

/-! What it does with the text of a leaf. -/

theorem nestedFrom_literal (value : Text) (open_ : List Bool) (t : Text) :
    nestedFrom false open_ (Escape.literal value ++ t) = nestedFrom false open_ t := by
  unfold Escape.literal
  induction value with
  | nil => rfl
  | cons c value ih =>
    by_cases special : c ∈ Escape.literalMetas
    · rw [Escape.escape, if_pos special, List.cons_append, List.cons_append, nestedFrom_skip, ih]
    · have known : ['\\', '[', '(', ')', '*', '+', '{'] ⊆ Escape.literalMetas := by simp [Escape.literalMetas]
      have plain : c ∉ ['\\', '[', '(', ')', '*', '+', '{'] := fun member => special (known member)
      rw [Escape.escape, if_neg special, List.cons_append, nestedFrom_plain plain, ih]

/-- A set stays open until its own bracket comes. -/
private theorem nestedFrom_setMember (chars : Text) (open_ : List Bool) (t : Text) :
    nestedFrom true open_ (Escape.setMember chars ++ t) = nestedFrom true open_ t := by
  unfold Escape.setMember
  induction chars with
  | nil => rfl
  | cons c chars ih =>
    by_cases special : c ∈ Escape.setMetas
    · rw [Escape.escape, if_pos special, List.cons_append, List.cons_append, nestedFrom_skip, ih]
    · have plain : c ≠ '\\' := by
        rintro rfl
        exact special (by decide)
      have notClose : c ≠ ']' := by
        rintro rfl
        exact special (by decide)
      rw [Escape.escape, if_neg special, List.cons_append, nestedFrom_member plain notClose, ih]

theorem nestedFrom_set (chars : Text) (negated : Bool) (open_ : List Bool) (t : Text) :
    nestedFrom false open_ ((Component.set chars negated).render ++ t) = nestedFrom false open_ t := by
  have closes : nestedFrom true open_ (Escape.setMember chars ++ ']' :: t) = nestedFrom false open_ t := by
    rw [nestedFrom_setMember, nestedFrom_closeSet]
  cases negated with
  | false =>
    have text : (Component.set chars false).render ++ t = '[' :: (Escape.setMember chars ++ ']' :: t) := by
      simp [Component.set, Component.render]
    rw [text, nestedFrom_openSet, closes]
  | true =>
    have text : (Component.set chars true).render ++ t = '[' :: '^' :: (Escape.setMember chars ++ ']' :: t) := by
      simp [Component.set, Component.render]
    rw [text, nestedFrom_openSet, nestedFrom_member (by decide) (by decide), closes]

theorem nestedFrom_range (lo hi : Char) (open_ : List Bool) (t : Text) :
    nestedFrom false open_ ((Component.range lo hi).render ++ t) = nestedFrom false open_ t := by
  have text : (Component.range lo hi).render ++ t =
      '[' :: (Escape.setMember [lo] ++ '-' :: (Escape.setMember [hi] ++ ']' :: t)) := by
    simp [Component.range, Component.render]
  rw [text, nestedFrom_openSet, nestedFrom_setMember, nestedFrom_member (by decide) (by decide), nestedFrom_setMember,
    nestedFrom_closeSet]

theorem nestedFrom_shorthand (class_ : Shorthand) (open_ : List Bool) (t : Text) :
    nestedFrom false open_ (class_.token ++ t) = nestedFrom false open_ t := by
  cases class_ with
  | any => exact nestedFrom_plain (by decide) open_ t
  | _ => exact nestedFrom_skip false open_ _ t

private theorem nestedFrom_escaped {fragment : Text} (escaped : Component.IsEscaped fragment) (open_ : List Bool)
    (t : Text) : nestedFrom false open_ (fragment ++ t) = nestedFrom false open_ t := by
  rcases escaped with ⟨value, same⟩ | ⟨chars, negated, same⟩ | ⟨lo, hi, same⟩
  · obtain rfl := Component.text.inj same
    exact nestedFrom_literal value open_ t
  · have text : fragment = (Component.set chars negated).render := by rw [← same, Component.render]
    rw [text, nestedFrom_set]
  · have text : fragment = (Component.range lo hi).render := by rw [← same, Component.render]
    rw [text, nestedFrom_range]

/-! What it does with a suffix. -/

private theorem nestedFrom_countChars {body : Text} (count : ∀ c ∈ body, IsCountChar c) (open_ : List Bool) (t : Text) :
    nestedFrom false open_ (body ++ t) = nestedFrom false open_ t := by
  induction body with
  | nil => rfl
  | cons c body ih =>
    have here : IsCountChar c := count c List.mem_cons_self
    have plain : c ∉ ['\\', '[', '(', ')', '*', '+', '{'] := by
      intro special
      simp only [List.mem_cons, List.not_mem_nil, or_false] at special
      rcases special with rfl | rfl | rfl | rfl | rfl | rfl | rfl <;> exact here.ne (by decide) (by decide) rfl
    rw [List.cons_append, nestedFrom_plain plain]
    exact ih fun c' member => count c' (List.mem_cons_of_mem c member)

/-- A brace is noted where it begins a count without an upper bound, and the scan goes on behind it. -/
theorem nestedFrom_openBrace (open_ : List Bool) (t : Text) :
    nestedFrom false open_ ('{' :: t) = nestedFrom false (noteIf ((counted? t).any (·.2)) open_) t := by
  rw [nestedFrom.eq_def]
  cases unbounded : (counted? t).any (·.2) <;> simp [unbounded, noteIf]

/-- A count between braces is noted if it has no upper bound, and passed over. -/
theorem nestedFrom_count {body : Text} {unbounded : Bool} (count : IsCount body unbounded) (open_ : List Bool) (t : Text) :
    nestedFrom false open_ ('{' :: (body ++ '}' :: t)) = nestedFrom false (noteIf unbounded open_) t := by
  rw [nestedFrom_openBrace, count.counted?, nestedFrom_countChars count.countChars, nestedFrom_plain (by decide)]
  rfl

theorem isNumber_ofNat (n : Nat) : IsNumber (Text.ofNat n) where
  some_ := by
    obtain ⟨d, ds, digits, -⟩ := Regex.Repetition.ofNat_eq_cons n
    rw [digits]
    exact List.cons_ne_nil d ds
  all _ := Text.isDigit_of_mem_ofNat

/-- The suffix of a quantifier is a single sign or a count between braces. -/
theorem suffix_cases (q : Quantifier) :
    (q = .optional ∨ q = .oneOrMore ∨ q = .zeroOrMore) ∨
      q ≠ .optional ∧ ∃ body, q.suffix = '{' :: (body ++ ['}']) ∧ IsCount body q.isUnbounded := by
  cases q with
  | optional => exact .inl (.inl rfl)
  | oneOrMore => exact .inl (.inr (.inl rfl))
  | zeroOrMore => exact .inl (.inr (.inr rfl))
  | exactly n => exact .inr ⟨by simp, _, by simp [Quantifier.suffix], .exactly (isNumber_ofNat n)⟩
  | atLeast n =>
    exact .inr ⟨by simp, Text.ofNat n ++ [','], by simp [Quantifier.suffix], .atLeast (isNumber_ofNat n)⟩
  | between min max ordered =>
    exact .inr ⟨by simp, Text.ofNat min ++ ',' :: Text.ofNat max, by simp [Quantifier.suffix],
      .between (isNumber_ofNat min) (isNumber_ofNat max)⟩

/-- The scan of a suffix notes it if it has no upper bound. -/
theorem nestedFrom_suffix (q : Quantifier) (open_ : List Bool) (t : Text) :
    nestedFrom false open_ (q.suffix ++ t) = nestedFrom false (noteIf q.isUnbounded open_) t := by
  rcases suffix_cases q with (rfl | rfl | rfl) | ⟨-, body, text, count⟩
  · exact nestedFrom_plain (by decide) open_ t
  · rw [Quantifier.suffix, List.singleton_append, nestedFrom.eq_def]
    rfl
  · rw [Quantifier.suffix, List.singleton_append, nestedFrom.eq_def]
    rfl
  · rw [text, List.cons_append, List.append_assoc, List.singleton_append, nestedFrom_count count]

theorem startsRepetition_suffix (q : Quantifier) (t : Text) :
    startsRepetition (q.suffix ++ t) = decide (q ≠ .optional) := by
  rcases suffix_cases q with (rfl | rfl | rfl) | ⟨repeats, body, text, count⟩
  · rfl
  · rfl
  · rfl
  · rw [text, List.cons_append, List.append_assoc, List.singleton_append, startsRepetition, count.counted?]
    simp [repeats]

/-! No component that has a text begins with a repetition. -/

private theorem startsRepetition_cons (plain : c ∉ ['*', '+', '{']) (t : Text) : startsRepetition (c :: t) = false := by
  simp only [List.mem_cons, List.not_mem_nil, or_false, not_or] at plain
  obtain ⟨notStar, notPlus, notBrace⟩ := plain
  simp [startsRepetition, notStar, notPlus, notBrace]

private theorem startsRepetition_escaped {fragment : Text} (escaped : Component.IsEscaped fragment)
    (some : fragment ≠ []) (t : Text) : startsRepetition (fragment ++ t) = false := by
  rcases escaped with ⟨value, same⟩ | ⟨chars, negated, same⟩ | ⟨lo, hi, same⟩
  · obtain rfl := Component.text.inj same
    cases value with
    | nil => exact absurd rfl some
    | cons c value =>
      by_cases special : c ∈ Escape.literalMetas
      · rw [Escape.literal, Escape.escape, if_pos special]
        exact startsRepetition_cons (by decide) _
      · have known : ['*', '+', '{'] ⊆ Escape.literalMetas := by simp [Escape.literalMetas]
        have plain : c ∉ ['*', '+', '{'] := fun member => special (known member)
        rw [Escape.literal, Escape.escape, if_neg special]
        exact startsRepetition_cons plain _
  · obtain rfl := Component.text.inj same
    cases negated <;> exact startsRepetition_cons (by decide) _
  · obtain rfl := Component.text.inj same
    exact startsRepetition_cons (by decide) _

private theorem startsRepetition_render (c : Component) (made : c.WellMade) (some : c.render ≠ []) (t : Text) :
    startsRepetition (c.render ++ t) = false := by
  cases c with
  | text fragment => exact startsRepetition_escaped made some t
  | shorthand class_ => cases class_ <;> exact startsRepetition_cons (by decide) _
  | group children capturing =>
    rw [Component.render]
    cases capturing <;> exact startsRepetition_cons (by decide) _
  | alternation branches =>
    cases branches with
    | nil => exact absurd rfl some
    | cons first further =>
      rw [Component.render, Component.renderBranches] at some ⊢
      by_cases empty : first.render = []
      · rw [empty, List.nil_append] at some ⊢
        cases further with
        | nil => exact absurd rfl some
        | cons second further => exact startsRepetition_cons (by decide) _
      · rw [List.append_assoc]
        exact startsRepetition_render first made.1 empty _
  | quantified inner q =>
    rw [Component.render, List.append_assoc]
    exact startsRepetition_render inner made.1 made.2.1 _

private theorem startsRepetition_renderAll {cs : List Component} (made : Component.WellMadeAll cs)
    (apart : startsRepetition t = false) : startsRepetition (Component.renderAll cs ++ t) = false := by
  induction cs with
  | nil => exact apart
  | cons c cs ih =>
    rw [Component.renderAll, List.append_assoc]
    by_cases empty : c.render = []
    · rw [empty, List.nil_append]
      exact ih made.2
    · exact startsRepetition_render c made.1 empty _

/-! The scan of a tree. -/

open Component (isUnbounded isNested nodesAll renderAll renderBranches renderFurther)

theorem noteIf_cons (unbounded seen : Bool) (outer : List Bool) :
    noteIf unbounded (seen :: outer) = (seen || unbounded) :: outer := by
  cases seen <;> cases unbounded <;> rfl

/-- The scan goes from the beginning of a group to its children. -/
theorem nestedFrom_group (children : List Component) (capturing : Bool) (open_ : List Bool) (t : Text) :
    nestedFrom false open_ ((Component.group children capturing).render ++ t) =
      nestedFrom false (false :: open_) (renderAll children ++ ')' :: t) := by
  rw [Component.render, List.append_assoc, List.append_assoc]
  cases capturing with
  | true => exact nestedFrom_open open_ _
  | false =>
    show nestedFrom false open_ ('(' :: '?' :: ':' :: (renderAll children ++ ')' :: t)) = _
    rw [nestedFrom_open, nestedFrom_plain (by decide), nestedFrom_plain (by decide)]

/-- A bar in front of branches means nothing to the scan. -/
theorem nestedFrom_bar (branches : List Component) (open_ : List Bool) (t : Text) :
    nestedFrom false open_ (renderBranches branches ++ t) = nestedFrom false open_ (renderFurther branches ++ t) := by
  cases branches with
  | nil => rfl
  | cons first further => rw [renderFurther, renderBranches, List.cons_append, nestedFrom_plain (by decide)]

mutual

/-- By the structure of the component, for all that may be open before it and stand behind it. A repetition right
behind a choice would count for its last branch. -/
private theorem nestedFrom_render (c : Component) (made : c.WellMade) (open_ : List Bool) (t : Text)
    (apart : c.isAlternation = true → startsRepetition t = false) :
    nestedFrom false open_ (c.render ++ t) =
      (c.nodes.any isNested || (c.isLoose && startsRepetition t) ||
        nestedFrom false (noteIf (c.nodes.any isUnbounded) open_) t) := by
  cases c with
  | text fragment =>
    rw [Component.render, nestedFrom_escaped made]
    rfl
  | shorthand class_ =>
    rw [Component.render, nestedFrom_shorthand]
    rfl
  | group children capturing =>
    have within := nestedFrom_renderAll children made (false :: open_) (')' :: t) rfl
    rw [noteIf_cons, nestedFrom_close, ← Bool.or_assoc] at within
    rw [nestedFrom_group, within]
    rfl
  | alternation branches =>
    have within := nestedFrom_renderFurther branches made open_ t (apart rfl)
    have notLoose : (Component.alternation branches).isLoose = false := rfl
    rw [Component.render, nestedFrom_bar, within, notLoose, Bool.false_and, Bool.or_false]
    rfl
  | quantified inner q =>
    obtain ⟨innerMade, -, notChoice⟩ := made
    have within := nestedFrom_render inner innerMade open_ (q.suffix ++ t) fun choice => by
      rw [notChoice] at choice
      cases choice
    rw [startsRepetition_suffix, nestedFrom_suffix, noteIf_noteIf] at within
    have notLoose : (Component.quantified inner q).isLoose = false := rfl
    rw [Component.render, List.append_assoc, within, notLoose, Component.any_isNested_quantified,
      Component.any_isUnbounded_quantified, Bool.false_and, Bool.or_false]

private theorem nestedFrom_renderAll (cs : List Component) (made : Component.WellMadeAll cs) (open_ : List Bool)
    (t : Text) (apart : startsRepetition t = false) :
    nestedFrom false open_ (renderAll cs ++ t) =
      ((nodesAll cs).any isNested || nestedFrom false (noteIf ((nodesAll cs).any isUnbounded) open_) t) := by
  cases cs with
  | nil => rfl
  | cons c cs =>
    have behind : startsRepetition (renderAll cs ++ t) = false := startsRepetition_renderAll made.2 apart
    have first := nestedFrom_render c made.1 open_ (renderAll cs ++ t) fun _ => behind
    rw [behind, Bool.and_false, Bool.or_false] at first
    rw [renderAll, List.append_assoc, first, nestedFrom_renderAll cs made.2 _ t apart, noteIf_noteIf, nodesAll,
      List.any_append, List.any_append, Bool.or_assoc]

/-- The same of branches, with a bar before each of them. -/
private theorem nestedFrom_renderFurther (cs : List Component) (made : Component.WellMadeAll cs) (open_ : List Bool)
    (t : Text) (apart : startsRepetition t = false) :
    nestedFrom false open_ (renderFurther cs ++ t) =
      ((nodesAll cs).any isNested || nestedFrom false (noteIf ((nodesAll cs).any isUnbounded) open_) t) := by
  cases cs with
  | nil => rfl
  | cons c cs =>
    have behind : startsRepetition (renderFurther cs ++ t) = false := by
      cases cs with
      | nil => exact apart
      | cons second cs => exact startsRepetition_cons (by decide) _
    have first := nestedFrom_render c made.1 open_ (renderFurther cs ++ t) fun _ => behind
    rw [behind, Bool.and_false, Bool.or_false] at first
    rw [renderFurther, List.cons_append, List.append_assoc, nestedFrom_plain (by decide), first,
      nestedFrom_renderFurther cs made.2 _ t apart, noteIf_noteIf, nodesAll, List.any_append, List.any_append,
      Bool.or_assoc]

end

/-- On the text of well-made components the scan is exact: it flags the text if and only if a group in the tree is
repeated, by any quantifier but `?`, and somewhere in that group a component is repeated without bound. -/
theorem nested_scan_is_exact (d : Draft) (made : Component.WellMadeAll d.components) :
    hasNestedRepetition d.render = true ↔ Component.NestsRepetition d.components := by
  have scan : nestedFrom false [] (renderAll d.components ++ []) =
      ((nodesAll d.components).any isNested || nestedFrom false _ []) :=
    nestedFrom_renderAll d.components made [] [] rfl
  have done (open_ : List Bool) : nestedFrom false open_ [] = false := rfl
  rw [List.append_nil, done, Bool.or_false] at scan
  rw [hasNestedRepetition, Draft.render_eq_renderAll, scan, Component.nestsRepetition_iff]

/-- A group in a choice, repeated twice over, that holds a set without bound; before it are signs that are escaped. -/
def countedSets : Draft :=
  { components :=
      [.literal ['(', '*', ')', '+'],
        .alternation
          [.shorthand .digit,
            .quantified (.quantified (.group [.range '(' ')', .quantified (.set ['+', ')'] true) (.atLeast 2)] false)
              (.exactly 3)) .optional]] }

/-- The same group, with a repetition behind its question mark only. -/
def countedSetsApart : Draft :=
  { components :=
      [.quantified (.quantified (.group [.quantified (.set ['+', ')'] true) (.atLeast 2)] false) .optional)
        .oneOrMore] }

theorem countedSets_scan :
    Component.WellMadeAll countedSets.components ∧ hasNestedRepetition countedSets.render = true ∧
      Component.WellMadeAll countedSetsApart.components ∧ hasNestedRepetition countedSetsApart.render = false := by
  have literal (value : Text) : (Component.literal value).WellMade := .inl ⟨value, rfl⟩
  have set (chars : Text) (negated : Bool) : (Component.set chars negated).WellMade := .inr (.inl ⟨chars, negated, rfl⟩)
  have range (lo hi : Char) : (Component.range lo hi).WellMade := .inr (.inr ⟨lo, hi, rfl⟩)
  have loop : (Component.quantified (.set ['+', ')'] true) (.atLeast 2)).WellMade := ⟨set _ _, by decide, rfl⟩
  have made : Component.WellMadeAll countedSets.components := by
    refine ⟨literal _, ⟨trivial, ⟨⟨?_, by decide, rfl⟩, by decide, rfl⟩, trivial⟩, trivial⟩
    exact ⟨range _ _, loop, trivial⟩
  have madeApart : Component.WellMadeAll countedSetsApart.components := by
    refine ⟨⟨⟨?_, by decide, rfl⟩, by decide, rfl⟩, trivial⟩
    exact ⟨loop, trivial⟩
  have nests : Component.NestsRepetition countedSets.components := by decide +kernel
  have noNest : ¬ Component.NestsRepetition countedSetsApart.components := by decide +kernel
  refine ⟨made, (nested_scan_is_exact countedSets made).mpr nests, madeApart, ?_⟩
  exact Bool.eq_false_iff.mpr fun flagged => noNest ((nested_scan_is_exact countedSetsApart madeApart).mp flagged)

end Backtracking

end PatternKit
