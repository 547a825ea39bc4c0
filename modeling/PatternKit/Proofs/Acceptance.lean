import PatternKit.Proofs.Passage
import PatternKit.Proofs.PlainStructure
import PatternKit.Proofs.RecipeTokens

/-!
Careful scripts. A script that brings in no pattern text of its own, and repeats nothing empty, passes only
through drafts whose text the engine can read.
-/

set_option autoImplicit false

namespace PatternKit

open Regex (OnlyTooDeep Token)

/-- Whether the text of a component is that of tokens that can stand where a sequence begins. -/
def Component.Readable (c : Component) : Prop := ∃ ts, Token.textAll ts = c.render ∧ Token.Whole ts

namespace Component

variable {c : Component} {cs ds : List Component}

theorem readable_of_clean {recipe : Recipe} (clean : recipe.Clean) (made : recipe.build = .ok c) : c.Readable :=
  ⟨recipe.tokens, recipe.tokens_spec clean made⟩

private theorem readableAll (each : ∀ c ∈ cs, c.Readable) :
    ∃ ts, Token.textAll ts = renderAll cs ∧ Token.Whole ts := by
  induction cs with
  | nil => exact ⟨[], rfl, .nil⟩
  | cons c cs ih =>
    obtain ⟨ts, text, whole⟩ := each c List.mem_cons_self
    obtain ⟨us, texts, wholes⟩ := ih fun c member => each c (List.mem_cons_of_mem _ member)
    exact ⟨ts ++ us, by rw [Token.textAll_append, text, texts, renderAll], whole.append wholes⟩

theorem readable_group (each : ∀ c ∈ cs, c.Readable) (capturing : Bool) : (group cs capturing).Readable := by
  obtain ⟨ts, text, whole⟩ := readableAll each
  refine ⟨[.group capturing ts], ?_, .group capturing whole⟩
  simp [Token.textAll, Token.text, Token.opening, text, render]

theorem readable_alternatives (first : ∀ c ∈ cs, c.Readable) (second : ∀ c ∈ ds, c.Readable) :
    (alternatives [cs, ds]).Readable := by
  obtain ⟨ts, text, whole⟩ := readable_group first false
  obtain ⟨us, text', whole'⟩ := readable_group second false
  have some : us ≠ [] := by
    rintro rfl
    simp [Token.textAll, render] at text'
  refine ⟨ts ++ .bar :: us, ?_, whole.bar whole' some⟩
  simp [Token.textAll, Token.text, text, text', alternatives, render, renderBranches, renderFurther]

theorem Readable.quantified (readable : c.Readable) (some : c.render ≠ []) {q : Quantifier} (fits : q.Fits) :
    (quantified c q).Readable := by
  obtain ⟨ts, text, whole⟩ := readable
  have nonempty : ts ≠ [] := by
    rintro rfl
    exact some text.symm
  exact ⟨ts ++ [.suffix q], by simp [Token.textAll, Token.text, text, render], whole.suffix nonempty fits⟩

end Component

namespace Draft

/-- Whether the components of a draft are readable. -/
def Readable (d : Draft) : Prop := ∀ c ∈ d.components, c.Readable

/-- Whether the last component, if a repetition is made of it, is not empty. -/
def CanRepeat (d : Draft) (request : Quantifier.Request) : Prop :=
  request.Fits ∧
    ∀ q last, request.build = .ok q → d.components.getLast? = some last → last.render ≠ []

variable {d : Draft}

/-- The text of a readable draft is refused for its depth or not at all. -/
theorem Readable.onlyTooDeep (readable : d.Readable) (nest : Nat) :
    OnlyTooDeep nest (Regex.parse nest {} d.render) := by
  obtain ⟨ts, text, whole⟩ := Component.readableAll readable
  rw [render_eq_renderAll, ← text]
  exact Token.parse_textAll whole.fit nest

theorem Readable.push (readable : d.Readable) {c : Component} (new : c.Readable) : (d.push c).Readable := by
  intro c' member
  rcases List.mem_append.mp member with member | member
  · exact readable c' member
  · rw [List.mem_singleton.mp member]
    exact new

theorem Readable.repeatLast (readable : d.Readable) {q : Quantifier} (fits : q.Fits)
    (some : ∀ last, d.components.getLast? = some last → last.render ≠ []) (operation : String) :
    (d.repeatLast operation q).draft.Readable := by
  rcases List.eq_nil_or_concat d.components with empty | ⟨before, last, split⟩
  · rw [repeatLast_nil empty]
    exact readable
  · rw [List.concat_eq_append] at split
    have each : ∀ c ∈ before ++ [last], c.Readable := split ▸ readable
    have nonempty : last.render ≠ [] := some last (by simp [split])
    rw [repeatLast_append split]
    intro c member
    rcases List.mem_append.mp member with member | member
    · exact each c (List.mem_append_left _ member)
    · rw [List.mem_singleton.mp member]
      exact (each last (List.mem_append_right _ List.mem_cons_self)).quantified nonempty fits

theorem Readable.repeatAs (readable : d.Readable) {request : Quantifier.Request} (can : d.CanRepeat request) :
    (d.repeatAs request).draft.Readable := by
  by_cases empty : d.components = []
  · rw [repeatAs_nil empty]
    exact readable
  · rw [repeatAs_of_ne_nil empty]
    cases made : request.build with
    | error e => exact readable
    | ok q => exact readable.repeatLast (can.1.build made) (fun last => can.2 q last made) _

end Draft

namespace Command

mutual

/-- Whether a command on a draft appends only clean components, and repeats nothing empty, also in the script
inside it. -/
def Careful (engine : Engine) (d : Draft) : Command → Prop
  | .push recipe => recipe.Clean
  | .repeatLast request | .quantify request => d.CanRepeat request
  | .compose _ body => CarefulAll engine {} body
  | .attempt command => Careful engine d command
  | .addFlags _ | .setLimits _ | .raise _ | .render | .inspect | .components | .compile _ | .ask _ => True

/-- Whether all commands of a script that are run are careful. -/
def CarefulAll (engine : Engine) (d : Draft) : List Command → Prop
  | [] => True
  | c :: cs =>
    Careful engine d c ∧
      ((run engine d c).failure = none → CarefulAll engine (run engine d c).draft cs)

end

mutual

/-- A careful command on a readable draft leads to readable drafts only. -/
private theorem run_readable (engine : Engine) (c : Command) {d : Draft} (readable : d.Readable)
    (careful : Careful engine d c) : (run engine d c).Keeps Draft.Readable := by
  cases c with
  | push recipe =>
    rw [run]
    cases made : recipe.build with
    | ok c => exact .plain (readable.push (Component.readable_of_clean careful made)) _ _ _
    | error e => exact .plain readable _ _ _
  | repeatLast request => exact .repeated (readable.repeatAs careful) _
  | quantify request =>
    rw [run]
    cases made : request.build with
    | ok q =>
      refine .repeated ?_ _
      exact readable.repeatLast (careful.1.build made) (fun last => careful.2 q last made) _
    | error e => exact .plain readable _ _ _
  | compose composition body =>
    have child := runAll_readable engine body (by simp [Draft.Readable]) careful
    have parts : ∀ c ∈ (runAll engine {} body).draft.components, c.Readable := child.draft
    refine .composed readable child (fun capturing => ?_) (fun c member => ?_) composition
    · exact readable.push (Component.readable_group parts capturing)
    · rw [List.mem_singleton.mp member]
      exact Component.readable_alternatives readable parts
  | attempt command =>
    obtain ⟨draft, shown⟩ := run_readable engine command readable careful
    exact ⟨draft, shown⟩
  | addFlags flags => exact .plain (d := d.addFlags flags) readable _ _ _
  | setLimits limits => exact .plain (d := d.setLimits limits) readable _ _ _
  | compile questions => exact .answered readable _
  | ask question => exact .answered readable _
  | _ => exact .plain readable _ _ _

/-- A careful script on a readable draft leads to readable drafts only. -/
private theorem runAll_readable (engine : Engine) (script : List Command) {d : Draft} (readable : d.Readable)
    (careful : CarefulAll engine d script) : (runAll engine d script).Keeps Draft.Readable := by
  cases script with
  | nil => exact ⟨readable, by simp [runAll, Entry.draftsAll]⟩
  | cons c cs =>
    have first := run_readable engine c readable careful.1
    exact .runAll_cons first fun passes => runAll_readable engine cs first.draft (careful.2 passes)

end

/-- The text of every draft that a careful script passes through, at any depth, is refused by the engine for
its depth or not at all. -/
theorem careful_script_is_accepted (engine : Engine) (script : List Command)
    (careful : CarefulAll engine {} script) (nest : Nat) :
    ∀ d ∈ Entry.draftsAll (runAll engine {} script).entries,
      OnlyTooDeep nest (Regex.parse nest {} d.render) :=
  fun d member => ((runAll_readable engine script (by simp [Draft.Readable]) careful).shown d member).onlyTooDeep nest

/-- Repetitions of a repetition, of a condition, and of an alternation. -/
def stackedRepetitions : List Command :=
  [.push (.literal ['x']), .repeatLast .oneOrMore, .repeatLast .optional,
    .compose .alternative [.push .wordBoundary, .repeatLast (.exactly 2)], .quantify .zeroOrMore,
    .push .startOfLine, .repeatLast (.between 0 3)]

theorem stackedRepetitions_are_accepted :
    CarefulAll Regex.build {} stackedRepetitions ∧
      ∀ d ∈ Entry.draftsAll (runAll Regex.build {} stackedRepetitions).entries,
        OnlyTooDeep 250 (Regex.parse 250 {} d.render) := by
  have careful : CarefulAll Regex.build {} stackedRepetitions := by
    have repeats {d : Draft} {request : Quantifier.Request} (fits : request.Fits) {last : Component}
        (there : d.components.getLast? = some last) (nonempty : last.render ≠ []) : d.CanRepeat request := by
      refine ⟨fits, fun q last' _ found => ?_⟩
      rw [there] at found
      exact Option.some.inj found ▸ nonempty
    refine ⟨trivial, fun _ => ⟨repeats trivial rfl (by decide), fun _ => ⟨repeats trivial rfl (by decide), fun _ =>
      ⟨⟨?_, fun _ => ⟨repeats ?_ rfl (by decide), fun _ => trivial⟩⟩, fun _ =>
        ⟨repeats trivial rfl (by decide), fun _ => ⟨?_, fun _ => ⟨repeats ?_ rfl (by decide), fun _ => trivial⟩⟩⟩⟩⟩⟩⟩
    · show Recipe.wordBoundary ∈ Recipe.own
      simp [Recipe.own]
    · show 2 < 0x100000000
      decide
    · show Recipe.startOfLine ∈ Recipe.own
      simp [Recipe.own]
    · show 0 < 0x100000000 ∧ 3 < 0x100000000
      decide
  exact ⟨careful, careful_script_is_accepted Regex.build stackedRepetitions careful 250⟩

end Command

end PatternKit
