import PatternKit.Proofs.Authored
import PatternKit.Proofs.CompileOutcome
import PatternKit.Proofs.NestedRepetition

/-!
What the policy against nested repetitions lets through. Whatever an authored text consists of, the scan misses no
repetition that stands right behind a group. A group that holds a repetition without bound is let through only with a
question mark behind it; what stands behind the question mark is not looked at.
-/

set_option autoImplicit false

namespace PatternKit

namespace Backtracking

variable {t rest : Text} {inSet : Bool} {open_ more outer : List Bool}

/-! More noted, more flagged. -/

/-- Whether the open groups of a state are among those of another one, and what is noted of them is noted there too.
There may be others around them. -/
def Covers : List Bool → List Bool → Prop
  | [], _ => True
  | _ :: _, [] => False
  | seen :: outer, seen' :: outer' => (seen = true → seen' = true) ∧ Covers outer outer'

namespace Covers

theorem refl (open_ : List Bool) : Covers open_ open_ := by
  induction open_ with
  | nil => trivial
  | cons seen outer ih => exact ⟨id, ih⟩

/-- A note in the one that covers. -/
theorem noteIf (covers : Covers open_ more) (unbounded : Bool) : Covers open_ (noteIf unbounded more) := by
  cases unbounded with
  | false => exact covers
  | true =>
    cases open_ with
    | nil => trivial
    | cons seen outer =>
      cases more with
      | nil => exact covers
      | cons seen' outer' => exact ⟨fun _ => rfl, covers.2⟩

/-- The same note in both. -/
theorem noteUnbounded (covers : Covers open_ more) : Covers (noteUnbounded open_) (noteUnbounded more) := by
  cases open_ with
  | nil => trivial
  | cons seen outer =>
    cases more with
    | nil => exact covers
    | cons seen' outer' => exact ⟨fun _ => rfl, covers.2⟩

end Covers

/-- Where more is noted at the beginning, the scan flags no less. By induction on the scan. -/
theorem nestedFrom_mono (covers : Covers open_ more) (flagged : nestedFrom inSet open_ t = true) :
    nestedFrom inSet more t = true := by
  fun_induction nestedFrom inSet open_ t generalizing more with
  | case1 inSet open_ => cases flagged
  | case2 inSet open_ => cases flagged
  | case3 inSet open_ skipped rest ih =>
    rw [nestedFrom_skip]
    exact ih covers flagged
  | case4 open_ c cs plain ih =>
    rw [nestedFrom_inSet plain]
    exact ih covers flagged
  | case5 inSet open_ cs outside plain ih =>
    obtain rfl : inSet = false := by simpa using outside
    rw [nestedFrom_openSet]
    exact ih covers flagged
  | case6 inSet open_ cs outside plain notSet ih =>
    obtain rfl : inSet = false := by simpa using outside
    rw [nestedFrom_open]
    exact ih ⟨id, covers⟩ flagged
  | case7 inSet cs outside outer plain notSet notOpen ih =>
    obtain rfl : inSet = false := by simpa using outside
    cases more with
    | nil => exact covers.elim
    | cons seen outer' =>
      obtain rfl : seen = true := covers.1 rfl
      rw [nestedFrom_close, Bool.true_and, Bool.or_eq_true]
      rcases Bool.or_eq_true_iff.mp flagged with repeated | flagged
      · exact .inl repeated
      · exact .inr (ih covers.2.noteUnbounded flagged)
  | case8 inSet cs outside outer plain notSet notOpen ih =>
    obtain rfl : inSet = false := by simpa using outside
    cases more with
    | nil => exact covers.elim
    | cons seen outer' =>
      rw [nestedFrom_close, Bool.or_eq_true]
      exact .inr (ih (covers.2.noteIf seen) flagged)
  | case9 inSet cs outside plain notSet notOpen ih =>
    obtain rfl : inSet = false := by simpa using outside
    cases more with
    | nil =>
      have later : nestedFrom false [] cs = true := ih trivial flagged
      rw [nestedFrom.eq_def]
      exact later
    | cons seen outer' =>
      rw [nestedFrom_close, Bool.or_eq_true]
      exact .inr (ih trivial flagged)
  | case10 inSet open_ c cs plain outside notSet notOpen notClose star ih =>
    have later := ih covers.noteUnbounded flagged
    rw [nestedFrom.eq_def]
    simpa [plain, outside, notSet, notOpen, notClose, star] using later
  | case11 inSet open_ c cs plain outside notSet notOpen notClose notStar counts ih =>
    have later := ih covers.noteUnbounded flagged
    rw [nestedFrom.eq_def]
    simpa [plain, outside, notSet, notOpen, notClose, notStar, counts] using later
  | case12 inSet open_ c cs plain outside notSet notOpen notClose notStar notCount ih =>
    have later := ih covers flagged
    rw [nestedFrom.eq_def]
    simpa [plain, outside, notSet, notOpen, notClose, notStar, notCount] using later

/-! Texts over which the scan passes. -/

/-- Whether the scan flags whatever it would flag without a text, when the text stands before it. -/
def Passes (t : Text) : Prop :=
  ∀ open_ rest, nestedFrom false open_ rest = true → nestedFrom false open_ (t ++ rest) = true

theorem Passes.of_eq (idle : ∀ open_ rest, nestedFrom false open_ (t ++ rest) = nestedFrom false open_ rest) :
    Passes t := by
  intro open_ rest flagged
  rw [idle]
  exact flagged

/-- Whether a text closes the sets and the groups that it opens, and no others. `depth` is the number of those groups
that are open. -/
def settles (inSet : Bool) (depth : Nat) : Text → Bool
  | [] => !inSet && depth == 0
  | c :: cs =>
    if c = '\\' then
      match cs with
      | [] => false
      | _ :: rest => settles inSet depth rest
    else if inSet then settles (c != ']') depth cs
    else if c = '[' then settles true depth cs
    else if c = '(' then settles false (depth + 1) cs
    else if c = ')' then
      match depth with
      | 0 => false
      | depth + 1 => settles false depth cs
    else settles false depth cs

/-- What a character notes that opens and closes nothing. -/
private theorem nestedFrom_other {c : Char} (plain : c ∉ ['\\', '[', '(', ')']) (open_ : List Bool) (t : Text) :
    ∃ unbounded, nestedFrom false open_ (c :: t) = nestedFrom false (noteIf unbounded open_) t := by
  simp only [List.mem_cons, List.not_mem_nil, or_false, not_or] at plain
  obtain ⟨notEscape, notSet, notOpen, notClose⟩ := plain
  rw [nestedFrom.eq_def]
  simp only [notEscape, notSet, notOpen, notClose, if_false, Bool.false_eq_true]
  split
  · exact ⟨true, rfl⟩
  · split
    · exact ⟨true, rfl⟩
    · exact ⟨false, rfl⟩

private theorem noteIf_append (unbounded : Bool) (frames outer : List Bool) :
    ∃ frames' unbounded', noteIf unbounded (frames ++ outer) = frames' ++ noteIf unbounded' outer ∧
      frames'.length = frames.length := by
  cases frames with
  | nil => exact ⟨[], unbounded, rfl, rfl⟩
  | cons seen frames =>
    cases unbounded with
    | false => exact ⟨seen :: frames, false, rfl, rfl⟩
    | true => exact ⟨true :: frames, false, rfl, rfl⟩

/-- A text that closes what it opens leaves the groups around it open, with no less noted of them. -/
private theorem nestedFrom_of_settles {depth : Nat} {frames : List Bool} (settled : settles inSet depth t = true)
    (length : frames.length = depth) (covers : Covers open_ outer) (flagged : nestedFrom false open_ rest = true) :
    nestedFrom inSet (frames ++ outer) (t ++ rest) = true := by
  fun_induction settles inSet depth t generalizing frames outer with
  | case1 inSet depth =>
    obtain ⟨rfl, rfl⟩ : inSet = false ∧ depth = 0 := by simpa using settled
    rw [List.eq_nil_of_length_eq_zero length]
    exact nestedFrom_mono covers flagged
  | case2 inSet depth => cases settled
  | case3 inSet depth skipped cs ih =>
    rw [List.cons_append, List.cons_append, nestedFrom_skip]
    exact ih settled length covers
  | case4 depth c cs plain ih =>
    rw [List.cons_append, nestedFrom_inSet plain]
    exact ih settled length covers
  | case5 inSet depth cs outside plain ih =>
    obtain rfl : inSet = false := by simpa using outside
    rw [List.cons_append, nestedFrom_openSet]
    exact ih settled length covers
  | case6 inSet depth cs outside plain notSet ih =>
    obtain rfl : inSet = false := by simpa using outside
    rw [List.cons_append, nestedFrom_open]
    have length' : (false :: frames).length = depth + 1 := by rw [List.length_cons, length]
    exact ih settled length' covers
  | case7 inSet cs outside plain notSet notOpen => cases settled
  | case8 inSet cs outside depth plain notSet notOpen ih =>
    obtain rfl : inSet = false := by simpa using outside
    cases frames with
    | nil => cases length
    | cons seen frames =>
      obtain ⟨frames', unbounded, noted, length'⟩ := noteIf_append seen frames outer
      rw [List.cons_append, List.cons_append, nestedFrom_close, noted, Bool.or_eq_true]
      have inner : frames'.length = depth := length'.trans (Nat.succ.inj length)
      exact .inr (ih settled inner (covers.noteIf unbounded))
  | case9 inSet depth c cs plain outside notSet notOpen notClose ih =>
    obtain rfl : inSet = false := by simpa using outside
    have other : c ∉ ['\\', '[', '(', ')'] := by simp [plain, notSet, notOpen, notClose]
    obtain ⟨unbounded, step⟩ := nestedFrom_other other (frames ++ outer) (cs ++ rest)
    obtain ⟨frames', unbounded', noted, length'⟩ := noteIf_append unbounded frames outer
    rw [List.cons_append, step, noted]
    exact ih settled (length'.trans length) (covers.noteIf unbounded')

theorem Passes.of_settles (settled : settles false 0 t = true) : Passes t := by
  intro open_ rest flagged
  have none : ([] : List Bool).length = 0 := rfl
  exact nestedFrom_of_settles settled none (Covers.refl open_) flagged

/-- The scan passes over all authored text. -/
theorem passLaw : TextLaw (fun _ => True) Passes where
  nil := fun _ _ => id
  append {s t} first second := by
    intro open_ rest flagged
    rw [List.append_assoc]
    exact first open_ _ (second open_ rest flagged)
  literal value := .of_eq (nestedFrom_literal value)
  shorthand class_ := .of_eq (nestedFrom_shorthand class_)
  set _ negated := .of_eq (nestedFrom_set _ negated)
  range _ _ := .of_eq (nestedFrom_range _ _)
  common format := by
    cases format <;> exact .of_settles (by decide +kernel)
  own is := by
    rcases Recipe.mem_own.mp is with rfl | rfl | rfl | rfl | rfl <;> exact .of_settles (by decide +kernel)
  group {t} body capturing := by
    intro open_ rest flagged
    have within : nestedFrom false (false :: open_) (t ++ ')' :: rest) = true := by
      apply body
      rw [nestedFrom_close]
      exact flagged
    rw [List.append_assoc, List.append_assoc]
    cases capturing with
    | true => exact (nestedFrom_open open_ _).trans within
    | false =>
      show nestedFrom false open_ ('(' :: '?' :: ':' :: (t ++ ')' :: rest)) = true
      rw [nestedFrom_open, nestedFrom_plain (by decide), nestedFrom_plain (by decide)]
      exact within
  bar := .of_eq fun open_ rest => nestedFrom_plain (by decide) open_ rest
  suffix q := by
    intro open_ rest flagged
    rw [nestedFrom_suffix]
    exact nestedFrom_mono ((Covers.refl open_).noteIf q.isUnbounded) flagged

end Backtracking

/-! Repetitions of repetitions. -/

namespace Component

/-- What a component repeats in the end: the component without the quantifiers that stand behind it. -/
def core : Component → Component
  | .quantified inner _ => inner.core
  | c => c

/-- The quantifiers behind the core of a component, in the order in which they stand there. -/
def quantifiers : Component → List Quantifier
  | .quantified inner q => inner.quantifiers ++ [q]
  | _ => []

/-- Whether somewhere in a sequence there is a repetition, not only by `?`, of a group that holds a repetition without
bound. Other quantifiers may stand between. -/
def RepeatsLooseGroup (cs : List Component) : Prop :=
  ∃ inner q children capturing, .quantified inner q ∈ nodesAll cs ∧ q ≠ .optional ∧
    inner.core = .group children capturing ∧ HoldsUnbounded children

theorem mem_nodes_self (c : Component) : c ∈ c.nodes := by
  cases c <;> exact List.mem_cons_self

mutual

private theorem mem_nodes_of_quantified {inner : Component} {q : Quantifier} (c : Component)
    (member : .quantified inner q ∈ c.nodes) : inner ∈ c.nodes := by
  cases c with
  | text fragment => cases List.mem_singleton.mp member
  | shorthand class_ => cases List.mem_singleton.mp member
  | group children capturing =>
    rcases List.mem_cons.mp member with same | below
    · cases same
    · exact List.mem_cons_of_mem _ (mem_nodesAll_of_quantified children below)
  | alternation branches =>
    rcases List.mem_cons.mp member with same | below
    · cases same
    · exact List.mem_cons_of_mem _ (mem_nodesAll_of_quantified branches below)
  | quantified c r =>
    rcases List.mem_cons.mp member with same | below
    · obtain ⟨rfl, rfl⟩ := Component.quantified.inj same
      exact List.mem_cons_of_mem _ (mem_nodes_self inner)
    · exact List.mem_cons_of_mem _ (mem_nodes_of_quantified c below)

/-- What is repeated in a sequence is a node of the sequence. -/
private theorem mem_nodesAll_of_quantified {inner : Component} {q : Quantifier} (cs : List Component)
    (member : .quantified inner q ∈ nodesAll cs) : inner ∈ nodesAll cs := by
  cases cs with
  | nil => cases member
  | cons c cs =>
    rcases List.mem_append.mp member with here | later
    · exact List.mem_append_left _ (mem_nodes_of_quantified c here)
    · exact List.mem_append_right _ (mem_nodesAll_of_quantified cs later)

end

/-- The first quantifier behind the core of a node repeats that core. -/
private theorem quantified_core_mem {cs : List Component} {q : Quantifier} (node : Component)
    (member : node ∈ nodesAll cs) (first : node.quantifiers.head? = some q) :
    .quantified node.core q ∈ nodesAll cs := by
  cases node with
  | quantified inner r =>
    have below : inner ∈ nodesAll cs := mem_nodesAll_of_quantified cs member
    cases more : inner.quantifiers with
    | nil =>
      have bare : inner.core = inner := by
        cases inner with
        | quantified inner' r' => simp [quantifiers] at more
        | _ => rfl
      obtain rfl : r = q := by simpa [quantifiers, more] using first
      rw [core, bare]
      exact member
    | cons q' further =>
      obtain rfl : q' = q := by simpa [quantifiers, more] using first
      exact quantified_core_mem inner below (by rw [more]; rfl)
  | _ => cases first

end Component

/-! The fragments in a tree. -/

namespace Component

/-- Whether all fragments of pattern text in a sequence have a property. -/
def Fragments (P : Text → Prop) (cs : List Component) : Prop := ∀ fragment, .text fragment ∈ nodesAll cs → P fragment

variable {P : Text → Prop} {c : Component} {cs ds : List Component}

theorem fragments_append : Fragments P (cs ++ ds) ↔ Fragments P cs ∧ Fragments P ds := by
  constructor
  · intro both
    refine ⟨fun fragment member => both fragment ?_, fun fragment member => both fragment ?_⟩
    · rw [nodesAll_append]
      exact List.mem_append_left _ member
    · rw [nodesAll_append]
      exact List.mem_append_right _ member
  · rintro ⟨first, second⟩ fragment member
    rw [nodesAll_append] at member
    rcases List.mem_append.mp member with before | behind
    · exact first fragment before
    · exact second fragment behind

theorem fragments_cons : Fragments P (c :: cs) ↔ Fragments P [c] ∧ Fragments P cs := by
  rw [← List.singleton_append, fragments_append]

theorem fragments_nil : Fragments P [] := fun _ member => by cases member

theorem fragments_text {fragment : Text} : Fragments P [.text fragment] ↔ P fragment := by
  simp [Fragments, nodesAll, nodes]

theorem fragments_shorthand (class_ : Shorthand) : Fragments P [.shorthand class_] := by
  simp [Fragments, nodesAll, nodes]

theorem fragments_group {capturing : Bool} : Fragments P [.group cs capturing] ↔ Fragments P cs := by
  simp [Fragments, nodesAll, nodes]

theorem fragments_alternation : Fragments P [.alternation cs] ↔ Fragments P cs := by
  simp [Fragments, nodesAll, nodes]

theorem fragments_quantified {q : Quantifier} : Fragments P [.quantified c q] ↔ Fragments P [c] := by
  simp [Fragments, nodesAll, nodes]

end Component

namespace TextLaw

open Component (Fragments fragments_append fragments_cons fragments_nil fragments_text fragments_group
  fragments_alternation fragments_quantified)

variable {member : Char → Prop} {P : Text → Prop}

mutual

/-- The fragments in what an authored recipe makes are under the law of its text. -/
private theorem fragments_of_recipe (law : TextLaw member P) (r : Recipe) {c : Component} (authored : r.Authored member)
    (made : r.build = .ok c) : Fragments P [c] := by
  cases r with
  | shorthand class_ =>
    obtain rfl := Except.ok.inj made
    exact Component.fragments_shorthand class_
  | group children capturing =>
    obtain ⟨cs, parts, rfl⟩ := Recipe.build_group_eq_ok made
    exact fragments_group.mpr (law.fragments_of_recipes children authored parts)
  | alternatives branches =>
    obtain ⟨css, parts, rfl⟩ := Recipe.build_alternatives_eq_ok made
    exact fragments_alternation.mpr (law.fragments_of_branches branches authored parts)
  | quantified inner request =>
    obtain ⟨c', q, part, -, rfl⟩ := Recipe.build_quantified_eq_ok made
    exact fragments_quantified.mpr (law.fragments_of_recipe inner authored part)
  | literal value =>
    obtain rfl := Except.ok.inj made
    exact fragments_text.mpr (law.literal value)
  | raw fragment =>
    obtain rfl := Except.ok.inj made
    exact fragments_text.mpr (law.own authored)
  | set chars negated =>
    obtain rfl := Except.ok.inj made
    exact fragments_text.mpr (law.set authored negated)
  | range lo hi =>
    obtain rfl := Except.ok.inj made
    exact fragments_text.mpr (law.range authored.1 authored.2)
  | common format =>
    obtain rfl := Except.ok.inj made
    exact fragments_text.mpr (law.common format)

private theorem fragments_of_recipes (law : TextLaw member P) (rs : List Recipe) {cs : List Component}
    (authored : Recipe.AuthoredAll member rs) (made : Recipe.buildAll rs = .ok cs) : Fragments P cs := by
  cases rs with
  | nil =>
    obtain rfl := Except.ok.inj made
    exact fragments_nil
  | cons r rs =>
    obtain ⟨c, more, first, rest, rfl⟩ := Recipe.buildAll_cons_eq_ok made
    exact fragments_cons.mpr ⟨law.fragments_of_recipe r authored.1 first, law.fragments_of_recipes rs authored.2 rest⟩

private theorem fragments_of_branches (law : TextLaw member P) (branches : List (List Recipe))
    {css : List (List Component)} (authored : Recipe.AuthoredBranches member branches)
    (made : Recipe.buildBranches branches = .ok css) :
    Fragments P (css.map fun branch => .group branch false) := by
  cases branches with
  | nil =>
    obtain rfl := Except.ok.inj made
    exact fragments_nil
  | cons rs branches =>
    obtain ⟨cs, more, first, rest, rfl⟩ := Recipe.buildBranches_cons_eq_ok made
    refine fragments_cons.mpr ⟨fragments_group.mpr ?_, law.fragments_of_branches branches authored.2 rest⟩
    exact law.fragments_of_recipes rs authored.1 first

end

/-- A law of the text is one of the fragments in the tree of a draft. -/
theorem fragmentsLaw (law : TextLaw member P) : DraftLaw member fun d => Fragments P d.components where
  start := fragments_nil
  push holds authored made := fragments_append.mpr ⟨holds, law.fragments_of_recipe _ authored made⟩
  enclose holds body _ := fragments_append.mpr ⟨holds, fragments_group.mpr body⟩
  alternate holds body := by
    refine fragments_alternation.mpr (fragments_cons.mpr ⟨fragments_group.mpr holds, ?_⟩)
    exact fragments_group.mpr body
  repeatLast {d} holds operation q := by
    rcases List.eq_nil_or_concat d.components with empty | ⟨before, last, split⟩
    · rw [Draft.repeatLast_nil empty]
      exact holds
    · rw [List.concat_eq_append] at split
      rw [Draft.repeatLast_append split]
      rw [split] at holds
      obtain ⟨first, final⟩ := fragments_append.mp holds
      exact fragments_append.mpr ⟨first, fragments_quantified.mpr final⟩
  addFlags holds _ := holds
  setLimits holds _ := holds

end TextLaw

namespace Backtracking

open Component (Fragments fragments_cons fragments_text fragments_group fragments_alternation fragments_quantified
  isUnbounded isNested nodesAll renderAll renderFurther)

mutual

/-- The scan misses nothing of a component whose fragments it passes over: no nested repetition in it, no repetition
right behind it if it is a group, and nothing of what it would flag behind it. By the structure of the component. -/
private theorem flagged_render (c : Component) (passes : Fragments Passes [c]) (open_ : List Bool) {t : Text}
    (found : (c.nodes.any isNested || (c.isLoose && startsRepetition t) ||
      nestedFrom false (noteIf (c.nodes.any isUnbounded) open_) t) = true) :
    nestedFrom false open_ (c.render ++ t) = true := by
  cases c with
  | text fragment => exact fragments_text.mp passes open_ t found
  | shorthand class_ => exact passLaw.shorthand class_ open_ t found
  | group children capturing =>
    rw [nestedFrom_group]
    apply flagged_renderAll children (fragments_group.mp passes)
    rw [noteIf_cons, nestedFrom_close, ← Bool.or_assoc]
    exact found
  | alternation branches =>
    have notLoose : (Component.alternation branches).isLoose = false := rfl
    rw [notLoose, Bool.false_and, Bool.or_false] at found
    rw [Component.render, nestedFrom_bar]
    exact flagged_renderFurther branches (fragments_alternation.mp passes) open_ found
  | quantified inner q =>
    rw [Component.render, List.append_assoc]
    apply flagged_render inner (fragments_quantified.mp passes)
    have notLoose : (Component.quantified inner q).isLoose = false := rfl
    rw [notLoose, Component.any_isNested_quantified, Component.any_isUnbounded_quantified, Bool.false_and,
      Bool.or_false] at found
    rw [startsRepetition_suffix, nestedFrom_suffix, noteIf_noteIf]
    exact found

private theorem flagged_renderAll (cs : List Component) (passes : Fragments Passes cs) (open_ : List Bool) {t : Text}
    (found : ((nodesAll cs).any isNested || nestedFrom false (noteIf ((nodesAll cs).any isUnbounded) open_) t) = true) :
    nestedFrom false open_ (renderAll cs ++ t) = true := by
  cases cs with
  | nil => exact found
  | cons c cs =>
    obtain ⟨first, rest⟩ := fragments_cons.mp passes
    rw [nodesAll, List.any_append, List.any_append, ← noteIf_noteIf, Bool.or_assoc] at found
    rw [renderAll, List.append_assoc]
    apply flagged_render c first
    rcases Bool.or_eq_true_iff.mp found with here | later
    · simp [here]
    · simp [flagged_renderAll cs rest _ later]

private theorem flagged_renderFurther (cs : List Component) (passes : Fragments Passes cs) (open_ : List Bool)
    {t : Text}
    (found : ((nodesAll cs).any isNested || nestedFrom false (noteIf ((nodesAll cs).any isUnbounded) open_) t) = true) :
    nestedFrom false open_ (renderFurther cs ++ t) = true := by
  cases cs with
  | nil => exact found
  | cons c cs =>
    obtain ⟨first, rest⟩ := fragments_cons.mp passes
    rw [nodesAll, List.any_append, List.any_append, ← noteIf_noteIf, Bool.or_assoc] at found
    rw [renderFurther, List.cons_append, List.append_assoc, nestedFrom_plain (by decide)]
    apply flagged_render c first
    rcases Bool.or_eq_true_iff.mp found with here | later
    · simp [here]
    · simp [flagged_renderFurther cs rest _ later]

end

/-- Where the scan passes over all fragments, it finds every nested repetition. -/
theorem nested_of_nestsRepetition {d : Draft} (passes : Fragments Passes d.components)
    (nests : Component.NestsRepetition d.components) : hasNestedRepetition d.render = true := by
  have found : (nodesAll d.components).any isNested = true := Component.nestsRepetition_iff.mp nests
  have flagged : nestedFrom false [] (renderAll d.components ++ []) = true := by
    apply flagged_renderAll _ passes
    rw [found, Bool.true_or]
  rw [List.append_nil] at flagged
  rw [hasNestedRepetition, Draft.render_eq_renderAll]
  exact flagged

end Backtracking

namespace Command

open Component (nodesAll HoldsUnbounded RepeatsLooseGroup)

/-- What the policy against nested repetitions lets through. If a draft of an authored script compiles under it, then
in the tree every group that holds a repetition without bound has no quantifier behind it, or `?` is the first one. -/
theorem nested_policy_lets_through (engine other : Engine) (script : List Command)
    (authored : AuthoredAll (fun _ => True) script) (d : Draft)
    (shown : d ∈ Entry.draftsAll (runAll engine {} script).entries) (policy : d.limits.policy = .nested) (m : Matcher)
    (compiled : (d.compile other).result = .ok m) :
    ∀ node ∈ nodesAll d.components, ∀ children capturing, node.core = .group children capturing →
      HoldsUnbounded children → ∀ q ∈ node.quantifiers.head?, q = .optional := by
  intro node member children capturing group holds q first
  have passes : Component.Fragments Backtracking.Passes d.components :=
    (runAll_keepsLaw Backtracking.passLaw.fragmentsLaw engine script Component.fragments_nil authored).shown d shown
  have quiet : Backtracking.hasNestedRepetition d.render = false := by
    have accepted := Draft.not_finds_of_compile compiled .catastrophicBacktracking
    exact Bool.eq_false_iff.mpr fun flagged => accepted (.inr ⟨policy, flagged⟩)
  have repeated : .quantified (.group children capturing) q ∈ nodesAll d.components := by
    rw [← group]
    exact Component.quantified_core_mem node member first
  refine Decidable.byContradiction fun notOptional => ?_
  have nests : Component.NestsRepetition d.components := ⟨children, capturing, q, repeated, notOptional, holds⟩
  rw [Backtracking.nested_of_nestsRepetition passes nests] at quiet
  cases quiet

/-- A group with a repeated letter at the beginning of a line, made optional and then repeated. -/
def optionalThenRepeated : List Command :=
  [.setLimits { policy := .nested }, .push .startOfLine,
    .compose .group [.push (.literal ['a']), .repeatLast .oneOrMore], .repeatLast .optional, .repeatLast .oneOrMore]

/-- The draft that this leads to. -/
def optionalThenRepeatedDraft : Draft :=
  { components :=
      [.text ['^'],
        .quantified (.quantified (.group [.quantified (.literal ['a']) .oneOrMore] true) .optional) .oneOrMore]
    limits := { policy := .nested } }

private theorem optionalThenRepeated_authored : AuthoredAll (fun _ => True) optionalThenRepeated := by
  have anchor : Recipe.startOfLine.Authored fun _ => True := Recipe.mem_own.mpr (.inr (.inr (.inl rfl)))
  exact ⟨trivial, anchor, ⟨trivial, trivial, trivial⟩, trivial, trivial, trivial⟩

private theorem optionalThenRepeated_shown :
    optionalThenRepeatedDraft ∈ Entry.draftsAll (runAll Regex.build {} optionalThenRepeated).entries :=
  List.mem_of_getElem? (i := 6) rfl

private theorem optionalThenRepeated_compiles :
    ∃ m, (optionalThenRepeatedDraft.compile Regex.build).result = .ok m := by
  have accepted : (optionalThenRepeatedDraft.compile Regex.build).result.toBool = true := by decide +kernel
  cases compiled : (optionalThenRepeatedDraft.compile Regex.build).result with
  | error e =>
    rw [compiled] at accepted
    cases accepted
  | ok m => exact ⟨m, rfl⟩

/-- The `+` behind the `?` is not seen. -/
theorem optionalThenRepeated_quantifiers :
    AuthoredAll (fun _ => True) optionalThenRepeated ∧
      optionalThenRepeatedDraft ∈ Entry.draftsAll (runAll Regex.build {} optionalThenRepeated).entries ∧
      optionalThenRepeatedDraft.limits.policy = .nested ∧
      (∃ m, (optionalThenRepeatedDraft.compile Regex.build).result = .ok m) ∧
      ∀ node ∈ nodesAll optionalThenRepeatedDraft.components, ∀ children capturing,
        node.core = .group children capturing → HoldsUnbounded children →
          ∀ q ∈ node.quantifiers.head?, q = .optional := by
  obtain ⟨m, compiled⟩ := optionalThenRepeated_compiles
  refine ⟨optionalThenRepeated_authored, optionalThenRepeated_shown, rfl, ⟨m, compiled⟩, ?_⟩
  exact nested_policy_lets_through Regex.build Regex.build optionalThenRepeated optionalThenRepeated_authored
    optionalThenRepeatedDraft optionalThenRepeated_shown rfl m compiled

/-- So a group that holds a repetition without bound is repeated without bound itself. -/
theorem optionalThenRepeated_repeats_loose_group :
    AuthoredAll (fun _ => True) optionalThenRepeated ∧
      optionalThenRepeatedDraft ∈ Entry.draftsAll (runAll Regex.build {} optionalThenRepeated).entries ∧
      optionalThenRepeatedDraft.limits.policy = .nested ∧
      (∃ m, (optionalThenRepeatedDraft.compile Regex.build).result = .ok m) ∧
      RepeatsLooseGroup optionalThenRepeatedDraft.components := by
  refine ⟨optionalThenRepeated_authored, optionalThenRepeated_shown, rfl, optionalThenRepeated_compiles, ?_⟩
  refine ⟨_, .oneOrMore, _, true, List.mem_cons_of_mem _ List.mem_cons_self, by decide, rfl, ?_⟩
  exact ⟨_, .oneOrMore, List.mem_cons_self, rfl⟩

end Command

end PatternKit
