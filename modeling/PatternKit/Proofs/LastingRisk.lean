import PatternKit.Proofs.NestedPolicy

/-!
Risk that lasts. A text that one of the heuristics flags is flagged with any text behind it, and with the beginning of
a group before it. Operations on a draft do nothing else to its text; so a draft that is refused for its risk is
refused after whatever is done to it, as long as the policy is the same.
-/

set_option autoImplicit false

namespace PatternKit

namespace Backtracking

variable {t rest : Text} {c : Char} {inSet unbounded : Bool} {open_ : List Bool}

/-! Markers in sequence. -/

private theorem afterBrace?_of_append (closes : afterBrace? t = some rest) (u : Text) :
    afterBrace? (t ++ u) = some (rest ++ u) := by
  induction t with
  | nil => cases closes
  | cons c t ih =>
    rw [afterBrace?] at closes
    rw [List.cons_append, afterBrace?]
    split at closes
    · rename_i close
      obtain rfl := Option.some.inj closes
      rw [if_pos close]
    · rename_i other
      rw [if_neg other]
      exact ih closes

/-- A marker ends where it ends without the text behind. That text may close a brace that nothing closed before, but
this makes one marker more. -/
private theorem afterMarker?_of_append (marker : afterMarker? c t = some rest) (u : Text) :
    afterMarker? c (t ++ u) = some (rest ++ u) := by
  unfold afterMarker? at marker ⊢
  split at marker
  · rename_i single
    obtain rfl := Option.some.inj marker
    rw [if_pos single]
  · rename_i other
    rw [if_neg other]
    split at marker
    · rename_i brace
      rw [if_pos brace]
      exact afterBrace?_of_append marker u
    · cases marker

private theorem markerOnLine_of_append (marked : markerOnLine t = true) (u : Text) : markerOnLine (t ++ u) = true := by
  induction t with
  | nil => cases marked
  | cons c t ih =>
    rw [markerOnLine, Bool.or_eq_true] at marked
    rw [List.cons_append, markerOnLine, Bool.or_eq_true]
    rcases marked with here | later
    · left
      obtain ⟨rest, marker⟩ := Option.isSome_iff_exists.mp here
      rw [afterMarker?_of_append marker u]
      rfl
    · right
      obtain ⟨line, later⟩ := Bool.and_eq_true_iff.mp later
      rw [line, ih later]
      rfl

theorem sequential_append (flagged : hasSequentialRepetition t = true) (u : Text) :
    hasSequentialRepetition (t ++ u) = true := by
  induction t with
  | nil => cases flagged
  | cons c t ih =>
    rw [hasSequentialRepetition, Bool.or_eq_true] at flagged
    rw [List.cons_append]
    rcases flagged with here | later
    · cases marker : afterMarker? c t with
      | none =>
        rw [marker] at here
        cases here
      | some rest =>
        rw [marker] at here
        have second : markerOnLine (rest ++ u) = true := markerOnLine_of_append here u
        exact sequential_of_marker (afterMarker?_of_append marker u) second
    · exact sequential_cons c (ih later)

/-! Nested repetitions. -/

private theorem dropWhile_of_append {cs : Text} (stops : t.dropWhile Char.isDigit = c :: cs) (u : Text) :
    (t ++ u).dropWhile Char.isDigit = c :: (cs ++ u) := by
  rw [List.dropWhile_append, stops]
  rfl

/-- A count that can be read is read the same with any text behind it. -/
theorem counted?_append (read : counted? t = some (rest, unbounded)) (u : Text) :
    counted? (t ++ u) = some (rest ++ u, unbounded) := by
  cases t with
  | nil => cases read
  | cons d ds =>
    rw [counted?] at read
    rw [List.cons_append, counted?, ← List.cons_append]
    split at read
    · rename_i digit
      rw [if_pos digit]
      split at read
      · rename_i behind closed
        obtain ⟨rfl, rfl⟩ := Prod.mk.inj (Option.some.inj read)
        rw [dropWhile_of_append closed u]
        rfl
      · rename_i more comma
        rw [dropWhile_of_append comma u]
        split at read
        · obtain ⟨rfl, rfl⟩ := Prod.mk.inj (Option.some.inj read)
          rfl
        · rename_i notClosed
          split at read
          · rename_i behind closed
            obtain ⟨rfl, rfl⟩ := Prod.mk.inj (Option.some.inj read)
            have later := dropWhile_of_append closed u
            cases more with
            | nil => cases closed
            | cons e more =>
              have other : e ≠ '}' := fun close => notClosed more (close ▸ rfl)
              rw [List.cons_append] at later ⊢
              simp only [later]
              split
              · rename_i same
                exact absurd (List.cons.inj same).1 other
              · rfl
          · cases read
      · cases read
    · cases read

theorem startsRepetition_append (starts : startsRepetition t = true) (u : Text) :
    startsRepetition (t ++ u) = true := by
  cases t with
  | nil => cases starts
  | cons c t =>
    rw [List.cons_append]
    rw [startsRepetition, Bool.or_eq_true, Bool.and_eq_true] at starts ⊢
    rcases starts with single | ⟨brace, counts⟩
    · exact .inl single
    · obtain ⟨⟨rest, unbounded⟩, read⟩ := Option.isSome_iff_exists.mp counts
      rw [counted?_append read u]
      exact .inr ⟨brace, rfl⟩

/-- With more text behind it the scan flags no less. By induction on the scan: only a brace can be read otherwise, which
may be a count without bound once it is closed, and then more is noted. -/
theorem nestedFrom_append (flagged : nestedFrom inSet open_ t = true) (u : Text) :
    nestedFrom inSet open_ (t ++ u) = true := by
  fun_induction nestedFrom inSet open_ t with
  | case1 inSet open_ => cases flagged
  | case2 inSet open_ => cases flagged
  | case3 inSet open_ skipped rest ih =>
    rw [List.cons_append, List.cons_append, nestedFrom_skip]
    exact ih flagged
  | case4 open_ c cs plain ih =>
    rw [List.cons_append, nestedFrom_inSet plain]
    exact ih flagged
  | case5 inSet open_ cs outside plain ih =>
    obtain rfl : inSet = false := by simpa using outside
    rw [List.cons_append, nestedFrom_openSet]
    exact ih flagged
  | case6 inSet open_ cs outside plain notSet ih =>
    obtain rfl : inSet = false := by simpa using outside
    rw [List.cons_append, nestedFrom_open]
    exact ih flagged
  | case7 inSet cs outside outer plain notSet notOpen ih =>
    obtain rfl : inSet = false := by simpa using outside
    rw [List.cons_append, nestedFrom_close, Bool.true_and, Bool.or_eq_true]
    rcases Bool.or_eq_true_iff.mp flagged with repeated | later
    · exact .inl (startsRepetition_append repeated u)
    · exact .inr (ih later)
  | case8 inSet cs outside outer plain notSet notOpen ih =>
    obtain rfl : inSet = false := by simpa using outside
    rw [List.cons_append, nestedFrom_close, Bool.or_eq_true]
    exact .inr (ih flagged)
  | case9 inSet cs outside plain notSet notOpen ih =>
    obtain rfl : inSet = false := by simpa using outside
    rw [List.cons_append, nestedFrom.eq_def]
    exact ih flagged
  | case10 inSet open_ c cs plain outside notSet notOpen notClose star ih =>
    have later := ih flagged
    rw [List.cons_append, nestedFrom.eq_def]
    simpa [plain, outside, notSet, notOpen, notClose, star] using later
  | case11 inSet open_ c cs plain outside notSet notOpen notClose notStar counts ih =>
    obtain ⟨rfl, unbounded⟩ : c = '{' ∧ (counted? cs).any (·.2) = true := by simpa using counts
    obtain rfl : inSet = false := by simpa using outside
    have unbounded' : (counted? (cs ++ u)).any (·.2) = true := by
      cases read : counted? cs with
      | none =>
        rw [read] at unbounded
        cases unbounded
      | some behind =>
        rw [read] at unbounded
        rw [counted?_append read u]
        exact unbounded
    rw [List.cons_append, nestedFrom_openBrace, unbounded']
    exact ih flagged
  | case12 inSet open_ c cs plain outside notSet notOpen notClose notStar notCount ih =>
    obtain rfl : inSet = false := by simpa using outside
    have later := ih flagged
    rw [List.cons_append]
    by_cases brace : c = '{'
    · subst brace
      rw [nestedFrom_openBrace]
      exact nestedFrom_mono ((Covers.refl open_).noteIf _) later
    · rw [nestedFrom.eq_def]
      simpa [plain, outside, notSet, notOpen, notClose, notStar, brace] using later

/-- A group around a text closes nothing in it, and notes what nothing noted before. -/
theorem nestedFrom_behind_group (flagged : nestedFrom false [] t = true) :
    nestedFrom false [] ('(' :: '?' :: ':' :: t) = true := by
  have covers : Covers [] [false] := trivial
  rw [nestedFrom_open, nestedFrom_plain (by decide), nestedFrom_plain (by decide)]
  exact nestedFrom_mono covers flagged

end Backtracking

/-- Whether a text comes of another one by writing behind it, and by opening groups before it. -/
inductive Text.Grows (t : Text) : Text → Prop
  | same : t.Grows t
  | behind {u : Text} (grown : t.Grows u) (more : Text) : t.Grows (u ++ more)
  | group {u : Text} (grown : t.Grows u) : t.Grows ('(' :: '?' :: ':' :: u)

namespace Text.Grows

variable {s t u : Text}

theorem trans (first : s.Grows t) (second : t.Grows u) : s.Grows u := by
  induction second with
  | same => exact first
  | behind _ more ih => exact .behind ih more
  | group _ ih => exact .group ih

theorem sequential (grown : t.Grows u) (flagged : Backtracking.hasSequentialRepetition t = true) :
    Backtracking.hasSequentialRepetition u = true := by
  induction grown with
  | same => exact flagged
  | behind _ more ih => exact Backtracking.sequential_append ih more
  | group _ ih => exact Backtracking.sequential_behind ['(', '?', ':'] ih

theorem nested (grown : t.Grows u) (flagged : Backtracking.hasNestedRepetition t = true) :
    Backtracking.hasNestedRepetition u = true := by
  induction grown with
  | same => exact flagged
  | behind _ more ih => exact Backtracking.nestedFrom_append ih more
  | group _ ih => exact Backtracking.nestedFrom_behind_group ih

end Text.Grows

/-! What operations on a draft do to its text. -/

namespace Draft

theorem grows_push (d : Draft) (c : Component) : d.render.Grows (d.push c).render := by
  rw [render_push]
  exact .behind .same _

theorem grows_enclose (d : Draft) (cs : List Component) (capturing : Bool) :
    d.render.Grows (d.enclose cs capturing).render :=
  d.grows_push _

theorem grows_alternate (d : Draft) (cs : List Component) : d.render.Grows (d.alternate cs).render := by
  rw [render_alternate, List.append_assoc, List.append_assoc]
  exact .group (.behind .same _)

theorem grows_repeatLast (d : Draft) (operation : String) (q : Quantifier) :
    d.render.Grows (d.repeatLast operation q).draft.render := by
  rcases List.eq_nil_or_concat d.components with empty | ⟨before, last, split⟩
  · rw [repeatLast_nil empty]
    exact .same
  · rw [List.concat_eq_append] at split
    have done : (d.repeatLast operation q).result = .ok q := by rw [repeatLast_append split]
    rw [render_of_repeatLast done]
    exact .behind .same _

theorem grows_repeatAs (d : Draft) (request : Quantifier.Request) :
    d.render.Grows (d.repeatAs request).draft.render := by
  by_cases empty : d.components = []
  · rw [repeatAs_nil empty]
    exact .same
  · rw [repeatAs_of_ne_nil empty]
    cases request.build with
    | error e => exact .same
    | ok q => exact d.grows_repeatLast _ q

end Draft

/-- The draft that a run leaves, and those after each of its commands. The drafts of scripts inside are not among
them. -/
def Progress.drafts (p : Progress) : List Draft := p.draft :: p.entries.map Entry.draft

/-- Whether the text of a draft has grown in all drafts of a run. -/
def Progress.GrowsFrom (d : Draft) (p : Progress) : Prop := ∀ d' ∈ p.drafts, d.render.Grows d'.render

namespace Progress.GrowsFrom

variable {d d' : Draft}

theorem plain (grown : d.render.Grows d'.render) (result : Except PatternError Reply) (log : List LogEvent)
    (failure : Option PatternError) (body : Option (List Entry)) :
    GrowsFrom d ⟨d', [.mk result d' body], log, failure⟩ := by
  intro shown member
  obtain rfl : shown = d' := by simpa [drafts, Entry.draft] using member
  exact grown

theorem answered (reply : Logged (Except PatternError Reply)) : GrowsFrom d (.answered d reply) := by
  obtain ⟨result, log⟩ := reply
  cases result <;> exact plain .same _ _ _ _

theorem repeated {outcome : Draft.Outcome Quantifier} (grown : d.render.Grows outcome.draft.render)
    (operation : String) : GrowsFrom d (.repeated operation outcome) := by
  obtain ⟨result, left⟩ := outcome
  cases result <;> exact plain grown _ _ _ _

/-- Whatever the script of a composition has made, and also where it has failed. -/
theorem composed (d : Draft) (composition : Composition) (child : Progress) :
    GrowsFrom d (.composed d composition child) := by
  obtain ⟨made, entries, log, failure⟩ := child
  cases failure with
  | some e => exact plain .same _ _ _ _
  | none =>
    cases composition with
    | group => exact plain (d.grows_enclose _ true) _ _ _ _
    | nonCapturingGroup => exact plain (d.grows_enclose _ false) _ _ _ _
    | alternative => exact plain (d.grows_alternate _) _ _ _ _

end Progress.GrowsFrom

namespace Command

/-- A command makes the text grow. -/
private theorem run_grows (engine : Engine) (d : Draft) (c : Command) : (c.run engine d).GrowsFrom d := by
  cases c with
  | push recipe =>
    rw [run]
    cases recipe.build with
    | error e => exact .plain .same _ _ _ _
    | ok c => exact .plain (d.grows_push c) _ _ _ _
  | repeatLast request => exact .repeated (d.grows_repeatAs request) _
  | quantify request =>
    rw [run]
    cases request.build with
    | error e => exact .plain .same _ _ _ _
    | ok q => exact .repeated (d.grows_repeatLast _ q) _
  | compose composition body => exact .composed d composition _
  | attempt command => exact run_grows engine d command
  | addFlags flags => exact .plain .same _ _ _ _
  | setLimits limits => exact .plain .same _ _ _ _
  | compile questions => exact .answered _
  | ask question => exact .answered _
  | _ => exact .plain .same _ _ _ _

/-- By induction on the script: what the first command has left goes on growing. -/
private theorem runAll_grows (engine : Engine) (script : List Command) (d : Draft) :
    (runAll engine d script).GrowsFrom d := by
  induction script generalizing d with
  | nil =>
    intro d' member
    obtain rfl : d' = d := by simpa [runAll, Progress.drafts] using member
    exact .same
  | cons c cs ih =>
    have first := run_grows engine d c
    rw [runAll]
    cases failure : (c.run engine d).failure with
    | some e => exact first
    | none =>
      have left : d.render.Grows (c.run engine d).draft.render := first _ List.mem_cons_self
      have rest : ∀ d' ∈ (runAll engine (c.run engine d).draft cs).drafts, d.render.Grows d'.render :=
        fun d' member => left.trans (ih _ d' member)
      intro d' member
      rcases List.mem_cons.mp member with last | member
      · exact rest d' (last ▸ List.mem_cons_self)
      · rw [List.map_append, List.mem_append] at member
        rcases member with here | later
        · exact first d' (List.mem_cons_of_mem _ here)
        · exact rest d' (List.mem_cons_of_mem _ later)

/-- Once a text is flagged it stays so, by either heuristic, in all drafts that a script leads to, whatever the
scripts inside it do and whether or not they fail. Therefore a draft that is refused for backtracking is not compiled
later either, by any engine, while the policy is the same. -/
theorem risk_lasts (engine : Engine) (d : Draft) (script : List Command) :
    ∀ d' ∈ (runAll engine d script).drafts,
      (Backtracking.hasSequentialRepetition d.render = true → Backtracking.hasSequentialRepetition d'.render = true) ∧
      (Backtracking.hasNestedRepetition d.render = true → Backtracking.hasNestedRepetition d'.render = true) ∧
      ∀ (before after : Engine) (pattern : Text) (issues : List Issue),
        (d.compile before).result = .error (.invalidPattern pattern issues) → .catastrophicBacktracking ∈ issues →
          d'.limits.policy = d.limits.policy → ∀ m, (d'.compile after).result ≠ .ok m := by
  intro d' member
  have grown : d.render.Grows d'.render := runAll_grows engine script d d' member
  refine ⟨grown.sequential, grown.nested, ?_⟩
  intro before after pattern issues refused found policy m compiled
  have faultless := Draft.not_finds_of_compile compiled .catastrophicBacktracking
  rw [policy] at faultless
  rcases Draft.finds_of_compile refused found (by simp) with ⟨sequential, flagged⟩ | ⟨nested, flagged⟩
  · exact faultless (.inl ⟨sequential, grown.sequential flagged⟩)
  · exact faultless (.inr ⟨nested, grown.nested flagged⟩)

/-- A group repeated with a repetition in it. -/
def looseGroup : Draft := { components := [.text "(a+)+".toList], limits := { policy := .nested } }

/-- An alternative with a brace that is not closed, a group that fails after it has written something, what closes the
brace, and a repetition. -/
def laterChanges : List Command :=
  [.compose .alternative [.push (.raw ")[\x7b2".toList)],
    .attempt (.compose .group [.push (.raw ['?']), .repeatLast (.between 3 2)]), .push (.raw ['}']),
    .repeatLast .optional]

theorem looseGroup_is_not_mended :
    (looseGroup.compile Regex.build).result =
        .error (.invalidPattern "(a+)+".toList [.catastrophicBacktracking]) ∧
      ∀ d' ∈ (runAll Regex.build looseGroup laterChanges).drafts,
        Backtracking.hasNestedRepetition d'.render = true ∧ ∀ m, (d'.compile Regex.build).result ≠ .ok m := by
  have refused : (looseGroup.compile Regex.build).result =
      .error (.invalidPattern "(a+)+".toList [.catastrophicBacktracking]) := by
    have issues : (Validation.check Regex.build looseGroup.limits looseGroup.render).result =
        [.catastrophicBacktracking] := by decide +kernel
    rw [Draft.compile_of_positive (Limits.check_eq_ok_iff.mp rfl), Draft.compileText_of_faults (by simp [issues]), issues]
    rfl
  have policies : ∀ d' ∈ (runAll Regex.build looseGroup laterChanges).drafts, d'.limits.policy = .nested := by
    decide
  refine ⟨refused, fun d' member => ?_⟩
  obtain ⟨-, nested, lasting⟩ := risk_lasts Regex.build looseGroup laterChanges d' member
  exact ⟨nested (by decide +kernel), lasting _ _ _ _ refused List.mem_cons_self (policies d' member)⟩

end Command

end PatternKit
