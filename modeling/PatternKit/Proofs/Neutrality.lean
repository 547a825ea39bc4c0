import PatternKit.Proofs.Authored
import PatternKit.Proofs.CompileOutcome
import PatternKit.Proofs.Unescaped

/-!
Neutrality of authored text. Both counts of balance pass over the text of authored components as if it was not
there, the count of groups as long as no set has a parenthesis as a member. So the text of an authored draft is
never refused for its brackets.
-/

set_option autoImplicit false

namespace PatternKit

namespace Balance

/-! What the pieces of authored text do to the two counts. -/

private theorem ne_of_plain {metas : List Char} {c special : Char} (plain : c ∉ metas) (member : special ∈ metas) :
    c ≠ special := by
  rintro rfl
  exact plain member

/-- Whether a text keeps both counts. -/
private abbrev KeepsBoth (t : Text) : Prop := KeepsSets t ∧ KeepsGroups t

/-- Characters that count for nothing keep both counts. -/
private theorem keeps_of_plain {t : Text} (plain : ∀ c ∈ t, c ∉ ['\\', '[', ']', '(', ')']) : KeepsBoth t := by
  have other (c : Char) (member : c ∈ t) : ∀ special ∈ ['\\', '[', ']', '(', ')'], c ≠ special :=
    fun _ => ne_of_plain (plain c member)
  constructor
  · refine .of_idle fun c member => ⟨other c member '\\' (by decide), ?_⟩
    exact setStep_plain (other c member '[' (by decide)) (other c member ']' (by decide))
  · refine .of_idle fun c member => ⟨other c member '\\' (by decide), ?_⟩
    exact groupStep_plain (other c member '(' (by decide)) (other c member ')' (by decide))

private theorem keeps_of_balanced {t : Text}
    (balanced : isPending t = false ∧ brackets t = true ∧ parentheses t = true) : KeepsBoth t := by
  obtain ⟨complete, sets, groups⟩ := balanced
  exact ⟨keepsSets_iff.mpr ⟨complete, sets⟩, keepsGroups_iff.mpr ⟨complete, groups⟩⟩

private theorem keeps_append {s t : Text} (first : KeepsBoth s) (second : KeepsBoth t) : KeepsBoth (s ++ t) :=
  ⟨first.1.append second.1, first.2.append second.2⟩

private theorem keeps_suffix (q : Quantifier) : KeepsBoth q.suffix := by
  have apart : ∀ c ∈ ['\\', '[', ']', '(', ')'], c.isDigit = false ∧ c ∉ ['?', '+', '*', '{', '}', ','] := by simp
  refine keeps_of_plain fun c member special => ?_
  obtain ⟨noDigit, noSign⟩ := apart c special
  rcases q.mem_suffix member with digit | sign
  · rw [noDigit] at digit
    cases digit
  · exact noSign sign

private theorem keeps_shorthand (class_ : Shorthand) : KeepsBoth class_.token := by
  cases class_ <;> exact keeps_of_balanced (by decide)

private theorem keeps_common (format : CommonFormat) : KeepsBoth format.fragment := by
  cases format with
  | url =>
    -- This one is written in three parts, each of which is balanced.
    show KeepsBoth (String.toList (_ ++ _ ++ _))
    rw [String.toList_append, String.toList_append]
    refine keeps_append (keeps_append ?_ ?_) ?_ <;> exact keeps_of_balanced (by decide +kernel)
  | _ => exact keeps_of_balanced (by decide +kernel)

private theorem keeps_own {fragment : Text} (is : Recipe.raw fragment ∈ Recipe.own) : KeepsBoth fragment := by
  rcases Recipe.mem_own.mp is with rfl | rfl | rfl | rfl | rfl <;> exact keeps_of_balanced (by decide +kernel)

/-- Whether a character is no parenthesis. -/
def NoParenthesis (c : Char) : Prop := c ≠ '(' ∧ c ≠ ')'

private theorem setMember_keepsOpen (chars : Text) : Neutral setStep (fun _ => True) (Escape.setMember chars) := by
  refine .escape (by decide) fun c _ plain => ?_
  exact setStep_plain (ne_of_plain plain (by decide)) (ne_of_plain plain (by decide))

private theorem setMember_keepsGroups {chars : Text} (members : ∀ c ∈ chars, NoParenthesis c) :
    KeepsGroups (Escape.setMember chars) :=
  .escape (by decide) fun c member _ => groupStep_plain (members c member).1 (members c member).2

/-- Between brackets any text may stand that does not end the set. -/
private theorem keepsSets_set {body : Text} (keeps : Neutral setStep (fun _ => True) body) :
    KeepsSets ('[' :: body ++ [']']) := by
  refine keeps.enclosed (by decide) (by decide) ?_
  rintro _ rfl
  exact ⟨trivial, rfl⟩

private theorem keepsGroups_set {body : Text} (keeps : KeepsGroups body) : KeepsGroups ('[' :: body ++ [']']) := by
  refine keeps.enclosed (by decide) (by decide) fun depth _ => ⟨trivial, ?_⟩
  rw [groupStep_plain (by decide) (by decide), groupStep_plain (by decide) (by decide)]

/-- Authored text keeps the count of sets, whatever is in these. -/
theorem setLaw : TextLaw (fun _ => True) KeepsSets where
  nil := .nil
  append := .append
  literal value := by
    refine .escape (by decide) fun c _ plain => ?_
    exact setStep_plain (ne_of_plain plain (by decide)) (ne_of_plain plain (by decide))
  shorthand class_ := (keeps_shorthand class_).1
  set {chars} _ negated := by
    cases negated with
    | false => exact keepsSets_set (setMember_keepsOpen chars)
    | true => exact keepsSets_set (.append (t := ['^']) (.of_idle (by simp [setStep])) (setMember_keepsOpen chars))
  range {lo hi} _ _ := by
    have between : Neutral setStep (fun _ => True) ['-'] := .of_idle (by simp [setStep])
    have body := (setMember_keepsOpen [lo]).append (between.append (setMember_keepsOpen [hi]))
    exact keepsSets_set body
  common format := (keeps_common format).1
  own is := (keeps_own is).1
  group body capturing := by
    have opening : KeepsSets (if capturing then ['('] else ['(', '?', ':']) := by
      cases capturing <;> exact .of_idle (by simp [setStep])
    exact (opening.append body).append (.of_idle (by simp [setStep]))
  bar := .of_idle (by simp [setStep])
  suffix q := (keeps_suffix q).1

private theorem keepsGroups_group {body : Text} (keeps : KeepsGroups body) : KeepsGroups ('(' :: body ++ [')']) := by
  refine keeps.enclosed (by decide) (by decide) fun depth _ => ⟨trivial, ?_⟩
  cases depth <;> rfl

/-- Authored text keeps the count of groups if its sets have no parentheses, for these stand there without a
backslash. -/
theorem groupLaw : TextLaw NoParenthesis KeepsGroups where
  nil := .nil
  append := .append
  literal value := by
    refine .escape (by decide) fun c _ plain => ?_
    exact groupStep_plain (ne_of_plain plain (by decide)) (ne_of_plain plain (by decide))
  shorthand class_ := (keeps_shorthand class_).2
  set {chars} members negated := by
    have body := setMember_keepsGroups members
    cases negated with
    | false => exact keepsGroups_set body
    | true => exact keepsGroups_set ((keeps_of_plain (t := ['^']) (by simp)).2.append body)
  range {lo hi} first last := by
    have start : KeepsGroups (Escape.setMember [lo]) := setMember_keepsGroups (by simpa using first)
    have stop : KeepsGroups (Escape.setMember [hi]) := setMember_keepsGroups (by simpa using last)
    exact keepsGroups_set (start.append ((keeps_of_plain (t := ['-']) (by simp)).2.append stop))
  common format := (keeps_common format).2
  own is := (keeps_own is).2
  group body capturing := by
    cases capturing with
    | true => exact keepsGroups_group body
    | false => exact keepsGroups_group ((keeps_of_plain (t := ['?', ':']) (by simp)).2.append body)
  bar := (keeps_of_plain (by simp)).2
  suffix q := (keeps_suffix q).2

/-- Whether a text can be put anywhere outside sets without a difference to the balance of brackets. -/
def BracketNeutral (t : Text) : Prop :=
  ∀ a b, isPending a = false → brackets a = true → brackets (a ++ t ++ b) = brackets (a ++ b)

/-- Whether a text can be put anywhere without a difference to the balance of parentheses. -/
def ParenthesisNeutral (t : Text) : Prop :=
  ∀ a b, isPending a = false → parentheses (a ++ t ++ b) = parentheses (a ++ b)

theorem bracketNeutral_of_keepsSets {t : Text} (keeps : KeepsSets t) : BracketNeutral t := by
  intro a b complete closed
  have outside : (unescaped a).foldl setStep false = false := by
    rw [brackets, setsClose_eq] at closed
    simpa using closed
  rw [brackets, brackets, setsClose_eq, setsClose_eq, keeps.foldl_insert complete outside b]

theorem parenthesisNeutral_of_keepsGroups {t : Text} (keeps : KeepsGroups t) : ParenthesisNeutral t := by
  intro a b complete
  rw [parentheses, parentheses, groupsClose_eq, groupsClose_eq, keeps.foldl_insert complete trivial b]

end Balance

namespace Command

open Balance (NoParenthesis BracketNeutral ParenthesisNeutral)

/-- Authored text is neutral for both balances, for that of parentheses where its sets have none as members; so is
the text of every draft that an authored script leads to. Therefore it passes both checks, and whatever the sets
have as members, compiling it never finds fault with its brackets. -/
theorem authored_text_is_neutral (engine : Engine) :
    (∀ rs cs, Recipe.AuthoredAll (fun _ => True) rs → Recipe.buildAll rs = .ok cs →
      BracketNeutral (Component.renderAll cs)) ∧
    (∀ rs cs, Recipe.AuthoredAll NoParenthesis rs → Recipe.buildAll rs = .ok cs →
      ParenthesisNeutral (Component.renderAll cs)) ∧
    (∀ script, AuthoredAll NoParenthesis script → ∀ d ∈ Entry.draftsAll (runAll engine {} script).entries,
      ParenthesisNeutral d.render ∧ Balance.parentheses d.render = true ∧ Balance.brackets d.render = true) ∧
    (∀ script, AuthoredAll (fun _ => True) script → ∀ d ∈ Entry.draftsAll (runAll engine {} script).entries,
      BracketNeutral d.render ∧
      ∀ (other : Engine) (pattern : Text) (issues : List Issue), .unbalancedBrackets ∈ issues →
        (d.compile other).result ≠ .error (.invalidPattern pattern issues) ∧
        ∀ question, (d.ask other question).result ≠ .error (.invalidPattern pattern issues)) := by
  refine ⟨fun rs cs authored made => ?_, fun rs cs authored made => ?_, fun script authored d member => ?_,
    fun script authored d member => ?_⟩
  · exact Balance.bracketNeutral_of_keepsSets (Balance.setLaw.of_recipes rs authored made)
  · exact Balance.parenthesisNeutral_of_keepsGroups (Balance.groupLaw.of_recipes rs authored made)
  · have groups := (runAll_keeps Balance.groupLaw engine script .nil authored).shown d member
    have sets := (runAll_keeps (Balance.setLaw.narrow fun _ _ => trivial) engine script .nil authored).shown d member
    refine ⟨Balance.parenthesisNeutral_of_keepsGroups groups, ?_, ?_⟩
    · exact (Balance.keepsGroups_iff.mp groups).2
    · exact (Balance.keepsSets_iff.mp sets).2
  · have sets := (runAll_keeps Balance.setLaw engine script .nil authored).shown d member
    refine ⟨Balance.bracketNeutral_of_keepsSets sets, fun other pattern issues found => ?_⟩
    have compiles : (d.compile other).result ≠ .error (.invalidPattern pattern issues) := by
      intro refused
      have balanced : Balance.brackets d.render = true := (Balance.keepsSets_iff.mp sets).2
      have unbalanced := Draft.finds_of_compile refused found (by simp)
      exact Bool.false_ne_true (unbalanced.symm.trans balanced)
    exact ⟨compiles, fun question refused => compiles (Draft.ask_eq_invalidPattern refused)⟩

/-- Pieces that are full of what the counts look at. -/
def bracketedPieces : List Recipe :=
  [.literal ['(', '\\', '['],
    .alternatives [[.set [']', '\\'] true], [.group [.common .phone, .letters] true]],
    .quantified (.range '[' '~') .oneOrMore]

/-- A group of these pieces, and a set with a parenthesis. -/
def bracketedScript : List Command :=
  [.compose .group (bracketedPieces.map .push), .push (.set ['('] false)]

theorem bracketedPieces_are_neutral :
    (∃ cs, Recipe.AuthoredAll NoParenthesis bracketedPieces ∧ Recipe.buildAll bracketedPieces = .ok cs ∧
      BracketNeutral (Component.renderAll cs) ∧ ParenthesisNeutral (Component.renderAll cs)) ∧
    (∀ d ∈ Entry.draftsAll (runAll Regex.build {} (bracketedScript.take 1)).entries,
      Balance.parentheses d.render = true ∧ Balance.brackets d.render = true) ∧
    (∀ d ∈ Entry.draftsAll (runAll Regex.build {} bracketedScript).entries,
      ∀ pattern, (d.compile Regex.build).result ≠ .error (.invalidPattern pattern [.unbalancedBrackets])) := by
  obtain ⟨brackets, parentheses, passes, refuses⟩ := authored_text_is_neutral Regex.build
  have letters {member : Char → Prop} : Recipe.letters.Authored member := Recipe.mem_own.mpr (.inr (.inl rfl))
  have narrow : Recipe.AuthoredAll NoParenthesis bracketedPieces := by
    simp [bracketedPieces, Recipe.AuthoredAll, Recipe.Authored, Recipe.AuthoredBranches, NoParenthesis, letters]
  have wide : Recipe.AuthoredAll (fun _ => True) bracketedPieces := by
    simp [bracketedPieces, Recipe.AuthoredAll, Recipe.Authored, Recipe.AuthoredBranches, letters]
  refine ⟨⟨_, narrow, rfl, brackets _ _ wide rfl, parentheses _ _ narrow rfl⟩, fun d member => ?_, ?_⟩
  · exact (passes (bracketedScript.take 1) ⟨narrow, trivial⟩ d member).2
  · intro d member pattern
    have anySet : ∀ c ∈ ['('], True := fun _ _ => trivial
    exact ((refuses bracketedScript ⟨wide, anySet, trivial⟩ d member).2 Regex.build pattern _ List.mem_cons_self).1

end Command

end PatternKit
