import PatternKit.Proofs.Passage

/-!
Authored text. Who brings in no pattern text of his own puts pattern text together from pieces of few kinds. What
holds of the pieces, and is kept where texts are put together, holds of all text that recipes make and of the
text of every draft that scripts lead to. In the same way what is kept by every operation that brings in an authored
component holds of every such draft.
-/

set_option autoImplicit false

namespace PatternKit

/-- A property of pattern text that all pieces have, and that is kept where texts are put together. The
characters that are given to sets and ranges are members of a class. -/
structure TextLaw (member : Char → Prop) (P : Text → Prop) : Prop where
  nil : P []
  append {s t : Text} (first : P s) (second : P t) : P (s ++ t)
  literal (value : Text) : P (Escape.literal value)
  shorthand (class_ : Shorthand) : P class_.token
  set {chars : Text} (members : ∀ c ∈ chars, member c) (negated : Bool) : P (Component.set chars negated).render
  range {lo hi : Char} (first : member lo) (last : member hi) : P (Component.range lo hi).render
  common (format : CommonFormat) : P format.fragment
  own {fragment : Text} (is : Recipe.raw fragment ∈ Recipe.own) : P fragment
  group {t : Text} (body : P t) (capturing : Bool) :
    P ((if capturing then ['('] else ['(', '?', ':']) ++ t ++ [')'])
  bar : P ['|']
  suffix (q : Quantifier) : P q.suffix

namespace Recipe

mutual

/-- Whether a recipe uses no pattern text but the ready-made fragments, and gives only members of a class to its
sets and ranges. -/
def Authored (member : Char → Prop) : Recipe → Prop
  | .literal _ | .shorthand _ | .common _ => True
  | .raw fragment => Recipe.raw fragment ∈ own
  | .set chars _ => ∀ c ∈ chars, member c
  | .range lo hi => member lo ∧ member hi
  | .group children _ => AuthoredAll member children
  | .alternatives branches => AuthoredBranches member branches
  | .quantified inner _ => Authored member inner

def AuthoredAll (member : Char → Prop) : List Recipe → Prop
  | [] => True
  | r :: rs => Authored member r ∧ AuthoredAll member rs

def AuthoredBranches (member : Char → Prop) : List (List Recipe) → Prop
  | [] => True
  | rs :: more => AuthoredAll member rs ∧ AuthoredBranches member more

end

end Recipe

namespace TextLaw

variable {member member' : Char → Prop} {P : Text → Prop}

/-- Fewer members are under the same law. -/
theorem narrow (law : TextLaw member P) (fewer : ∀ c, member' c → member c) : TextLaw member' P :=
  { law with
    set := fun members negated => law.set (fun c given => fewer c (members c given)) negated
    range := fun first last => law.range (fewer _ first) (fewer _ last) }

mutual

/-- A law holds of the text of what an authored recipe makes, by the structure of the recipe. -/
theorem of_recipe (law : TextLaw member P) (r : Recipe) {c : Component} (authored : r.Authored member)
    (made : r.build = .ok c) : P c.render := by
  cases r with
  | literal value =>
    obtain rfl := Except.ok.inj made
    exact law.literal value
  | raw fragment =>
    obtain rfl := Except.ok.inj made
    exact law.own authored
  | shorthand class_ =>
    obtain rfl := Except.ok.inj made
    exact law.shorthand class_
  | set chars negated =>
    obtain rfl := Except.ok.inj made
    exact law.set authored negated
  | range lo hi =>
    obtain rfl := Except.ok.inj made
    exact law.range authored.1 authored.2
  | common format =>
    obtain rfl := Except.ok.inj made
    exact law.common format
  | group children capturing =>
    obtain ⟨cs, parts, rfl⟩ := Recipe.build_group_eq_ok made
    exact law.group (law.of_recipes children authored parts) capturing
  | alternatives branches =>
    obtain ⟨css, parts, rfl⟩ := Recipe.build_alternatives_eq_ok made
    exact (law.of_branches branches authored parts).1
  | quantified inner request =>
    obtain ⟨c', q, part, -, rfl⟩ := Recipe.build_quantified_eq_ok made
    exact law.append (law.of_recipe inner authored part) (law.suffix q)

theorem of_recipes (law : TextLaw member P) (rs : List Recipe) {cs : List Component}
    (authored : Recipe.AuthoredAll member rs) (made : Recipe.buildAll rs = .ok cs) :
    P (Component.renderAll cs) := by
  cases rs with
  | nil =>
    obtain rfl := Except.ok.inj made
    exact law.nil
  | cons r rs =>
    obtain ⟨c, more, first, rest, rfl⟩ := Recipe.buildAll_cons_eq_ok made
    exact law.append (law.of_recipe r authored.1 first) (law.of_recipes rs authored.2 rest)

/-- Branches are groups with bars between them. Those that follow others begin with a bar. -/
private theorem of_branches (law : TextLaw member P) (branches : List (List Recipe))
    {css : List (List Component)} (authored : Recipe.AuthoredBranches member branches)
    (made : Recipe.buildBranches branches = .ok css) :
    P (Component.alternatives css).render ∧
      P (Component.renderFurther (css.map fun branch => .group branch false)) := by
  cases branches with
  | nil =>
    obtain rfl := Except.ok.inj made
    exact ⟨law.nil, law.nil⟩
  | cons rs branches =>
    obtain ⟨cs, more, first, rest, rfl⟩ := Recipe.buildBranches_cons_eq_ok made
    have branch := law.group (law.of_recipes rs authored.1 first) false
    have further := (law.of_branches branches authored.2 rest).2
    exact ⟨law.append branch further, law.append law.bar (law.append branch further)⟩

end

/-! What operations on a draft do to its text. -/

variable {d : Draft}

theorem of_enclose (law : TextLaw member P) (holds : P d.render) {cs : List Component}
    (body : P (Component.renderAll cs)) (capturing : Bool) : P (d.enclose cs capturing).render := by
  rw [Draft.render_enclose]
  exact law.append holds (law.group body capturing)

theorem of_alternate (law : TextLaw member P) (holds : P d.render) {cs : List Component}
    (body : P (Component.renderAll cs)) : P (d.alternate cs).render := by
  rw [Draft.render_alternate]
  exact law.append (law.group holds false) (law.append law.bar (law.group body false))

theorem of_repeatLast (law : TextLaw member P) (holds : P d.render) (operation : String) (q : Quantifier) :
    P (d.repeatLast operation q).draft.render := by
  by_cases empty : d.components = []
  · rw [Draft.repeatLast_nil empty]
    exact holds
  · obtain ⟨before, last, split⟩ := (List.eq_nil_or_concat d.components).resolve_left empty
    rw [List.concat_eq_append] at split
    have done : (d.repeatLast operation q).result = .ok q := by rw [Draft.repeatLast_append split]
    rw [Draft.render_of_repeatLast done]
    exact law.append holds (law.suffix q)

end TextLaw

namespace Command

mutual

/-- Whether all recipes in a command are authored, also those in the script inside it. -/
def Authored (member : Char → Prop) : Command → Prop
  | .push recipe => recipe.Authored member
  | .compose _ body => AuthoredAll member body
  | .attempt command => Authored member command
  | .addFlags _ | .setLimits _ | .repeatLast _ | .quantify _ | .raise _ | .render | .inspect | .components
  | .compile _ | .ask _ => True

def AuthoredAll (member : Char → Prop) : List Command → Prop
  | [] => True
  | c :: cs => Authored member c ∧ AuthoredAll member cs

end

end Command

/-- A property of drafts that the empty one has, and that every operation keeps, as long as the components that are
brought in are authored. -/
structure DraftLaw (member : Char → Prop) (I : Draft → Prop) : Prop where
  start : I {}
  push {d : Draft} {r : Recipe} {c : Component} (holds : I d) (authored : r.Authored member) (made : r.build = .ok c) :
    I (d.push c)
  enclose {d child : Draft} (holds : I d) (body : I child) (capturing : Bool) :
    I (d.enclose child.components capturing)
  alternate {d child : Draft} (holds : I d) (body : I child) : I (d.alternate child.components)
  repeatLast {d : Draft} (holds : I d) (operation : String) (q : Quantifier) : I (d.repeatLast operation q).draft
  addFlags {d : Draft} (holds : I d) (flags : Flags) : I (d.addFlags flags)
  setLimits {d : Draft} (holds : I d) (limits : Limits) : I (d.setLimits limits)

variable {member : Char → Prop} {P : Text → Prop} {I : Draft → Prop}

theorem DraftLaw.repeatAs (law : DraftLaw member I) {d : Draft} (holds : I d) (request : Quantifier.Request) :
    I (d.repeatAs request).draft := by
  by_cases empty : d.components = []
  · rw [Draft.repeatAs_nil empty]
    exact holds
  · rw [Draft.repeatAs_of_ne_nil empty]
    cases request.build with
    | error e => exact holds
    | ok q => exact law.repeatLast holds _ q

/-- A law of the text is one of the draft. -/
theorem TextLaw.draftLaw (law : TextLaw member P) : DraftLaw member fun d => P d.render where
  start := law.nil
  push {d r c} holds authored made := by
    rw [Draft.render_push]
    exact law.append holds (law.of_recipe r authored made)
  enclose {d child} holds body capturing := by
    rw [Draft.render_eq_renderAll child] at body
    exact law.of_enclose holds body capturing
  alternate {d child} holds body := by
    rw [Draft.render_eq_renderAll child] at body
    exact law.of_alternate holds body
  repeatLast := law.of_repeatLast
  addFlags holds _ := holds
  setLimits holds _ := holds

namespace Command

mutual

/-- An authored command keeps a law of the draft. -/
private theorem run_keepsLaw (law : DraftLaw member I) (engine : Engine) (c : Command) {d : Draft} (holds : I d)
    (authored : c.Authored member) : (c.run engine d).Keeps I := by
  cases c with
  | push recipe =>
    rw [run]
    cases made : recipe.build with
    | error e => exact .plain holds _ _ _
    | ok c => exact .plain (law.push holds authored made) _ _ _
  | repeatLast request => exact .repeated (law.repeatAs holds request) _
  | quantify request =>
    rw [run]
    cases made : request.build with
    | error e => exact .plain holds _ _ _
    | ok q => exact .repeated (law.repeatLast holds _ q) _
  | compose composition body =>
    have child := runAll_keepsLaw law engine body law.start authored
    exact .composed holds child (law.enclose holds child.draft) (law.alternate holds child.draft) composition
  | attempt command =>
    obtain ⟨draft, shown⟩ := run_keepsLaw law engine command holds authored
    exact ⟨draft, shown⟩
  | addFlags flags => exact .plain (law.addFlags holds flags) _ _ _
  | setLimits limits => exact .plain (law.setLimits holds limits) _ _ _
  | compile questions => exact .answered holds _
  | ask question => exact .answered holds _
  | _ => exact .plain holds _ _ _

/-- An authored script keeps a law of the draft. -/
theorem runAll_keepsLaw (law : DraftLaw member I) (engine : Engine) (script : List Command) {d : Draft}
    (holds : I d) (authored : AuthoredAll member script) : (runAll engine d script).Keeps I := by
  cases script with
  | nil => exact ⟨holds, by simp [runAll, Entry.draftsAll]⟩
  | cons c cs =>
    have first := run_keepsLaw law engine c holds authored.1
    exact .runAll_cons first fun _ => runAll_keepsLaw law engine cs first.draft authored.2

end

/-- An authored script keeps a law of the text. -/
theorem runAll_keeps (law : TextLaw member P) (engine : Engine) (script : List Command) {d : Draft}
    (holds : P d.render) (authored : AuthoredAll member script) :
    (runAll engine d script).Keeps fun d => P d.render :=
  runAll_keepsLaw law.draftLaw engine script holds authored

end Command

end PatternKit
