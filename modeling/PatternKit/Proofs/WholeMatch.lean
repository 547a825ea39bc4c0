import PatternKit.Proofs.NormalForm
import PatternKit.Proofs.PlainStructure
import PatternKit.Proofs.RunMeaning
import PatternKit.Proofs.StickyAnchor

/-!
Matching the whole of a text. Pattern text matches the whole of a text if it does so in a plain group between `\A` and
`\z`. For the text of tokens without conditions these are the texts that the expression for its structure matches.
-/

set_option autoImplicit false

namespace PatternKit

/-- A pattern text in a plain group between `\A` and `\z`. -/
def Text.whole (t : Text) : Text := t.anchored ++ ['\\', 'z']

namespace Regex

/-- Whether the engine, under some limits, builds a searcher that finds a pattern text to match the whole of a text. -/
def FullyMatches (sw : Switches) (t h : Text) : Prop :=
  ∃ limits s, build limits sw t.whole = .ok s ∧ s.isMatch h = true

/-! Depth. -/

/-- Whether a check passes under every limit that is large enough. -/
def PassesAtLast (check : Nat → Except Diagnosis Unit) : Prop := ∃ n, ∀ limit, n ≤ limit → check limit = .ok ()

namespace PassesAtLast

variable {first second : Nat → Except Diagnosis Unit}

theorem always (passes : ∀ limit, first limit = .ok ()) : PassesAtLast first := ⟨0, fun limit _ => passes limit⟩

theorem bind (one : PassesAtLast first) (other : PassesAtLast second) :
    PassesAtLast fun limit => first limit >>= fun _ => second limit := by
  obtain ⟨n, enough⟩ := one
  obtain ⟨n', enough'⟩ := other
  refine ⟨max n n', fun limit large => ?_⟩
  dsimp only
  rw [enough limit (by omega), enough' limit (by omega)]
  rfl

theorem enterLevel (depth : Nat) (span : Span) : PassesAtLast fun limit => Regex.enterLevel limit depth span :=
  ⟨depth + 1, fun _ large => if_neg (Nat.not_lt.mpr large)⟩

end PassesAtLast

mutual

theorem ClassSet.checkDepth_passesAtLast (depth : Nat) (s : ClassSet) :
    PassesAtLast fun limit => s.checkDepth limit depth := by
  cases s with
  | bracketed span _ inner =>
    exact (PassesAtLast.enterLevel depth span).bind (ClassSet.checkDepth_passesAtLast (depth + 1) inner)
  | union span items =>
    exact (PassesAtLast.enterLevel depth span).bind (ClassSet.checkDepths_passesAtLast (depth + 1) items)
  | operation span _ lhs rhs =>
    exact (PassesAtLast.enterLevel depth span).bind
      ((ClassSet.checkDepth_passesAtLast (depth + 1) lhs).bind (ClassSet.checkDepth_passesAtLast (depth + 1) rhs))
  | _ => exact .always fun _ => rfl

theorem ClassSet.checkDepths_passesAtLast (depth : Nat) (items : List ClassSet) :
    PassesAtLast fun limit => ClassSet.checkDepths limit depth items := by
  cases items with
  | nil => exact .always fun _ => rfl
  | cons s more =>
    exact (ClassSet.checkDepth_passesAtLast depth s).bind (ClassSet.checkDepths_passesAtLast depth more)

end

mutual

/-- No structure is too deep for every limit. -/
theorem Ast.checkDepth_passesAtLast (depth : Nat) (a : Ast) : PassesAtLast fun limit => a.checkDepth limit depth := by
  cases a with
  | bracketed span _ inner =>
    exact (PassesAtLast.enterLevel depth span).bind (ClassSet.checkDepth_passesAtLast (depth + 1) inner)
  | repetition span _ _ _ inner =>
    exact (PassesAtLast.enterLevel depth span).bind (Ast.checkDepth_passesAtLast (depth + 1) inner)
  | group span _ inner =>
    exact (PassesAtLast.enterLevel depth span).bind (Ast.checkDepth_passesAtLast (depth + 1) inner)
  | alternation span branches =>
    exact (PassesAtLast.enterLevel depth span).bind (Ast.checkDepths_passesAtLast (depth + 1) branches)
  | concat span items =>
    exact (PassesAtLast.enterLevel depth span).bind (Ast.checkDepths_passesAtLast (depth + 1) items)
  | _ => exact .always fun _ => rfl

theorem Ast.checkDepths_passesAtLast (depth : Nat) (items : List Ast) :
    PassesAtLast fun limit => Ast.checkDepths limit depth items := by
  cases items with
  | nil => exact .always fun _ => rfl
  | cons a more => exact (Ast.checkDepth_passesAtLast depth a).bind (Ast.checkDepths_passesAtLast depth more)

end

section

variable {sw sw' : Switches} {t : Text} {a : Ast} {e : Expr}

/-- What is built depends on the limits only in that there is something. -/
theorem searcher_of_build (read : Ast.ofText t = .ok a) (means : Expr.ofAst sw a = .ok (e, sw')) {limits : Limits}
    {s : Searcher} (built : build limits sw t = .ok s) : s = searcher t e := by
  obtain ⟨e', parsed, rfl⟩ := build_eq_ok built
  obtain ⟨a', sw'', read', means'⟩ := parse_eq_ok parsed
  obtain rfl := Except.ok.inj (read.symm.trans read')
  obtain ⟨rfl, -⟩ := Prod.mk.inj (Except.ok.inj (means.symm.trans means'))
  rfl

theorem parse_of_ofAst (read : Ast.ofText t = .ok a) {nest : Nat} (shallow : a.checkDepth nest 0 = .ok ())
    (means : Expr.ofAst sw a = .ok (e, sw')) : parse nest sw t = .ok e := by
  rw [parse, read]
  show (a.checkDepth nest 0 >>= _) = _
  rw [shallow]
  show (Expr.ofAst sw a >>= _) = _
  rw [means]
  rfl

/-- What has a meaning is built under limits that are large enough. -/
theorem build_of_ofAst (read : Ast.ofText t = .ok a) (means : Expr.ofAst sw a = .ok (e, sw')) :
    ∃ limits, build limits sw t = .ok (searcher t e) := by
  obtain ⟨n, enough⟩ := Ast.checkDepth_passesAtLast 0 a
  refine ⟨⟨e.programWeight, 0, n, .disabled⟩, ?_⟩
  rw [build, parse_of_ofAst read (enough n (Nat.le_refl n)) means]
  exact if_neg (Nat.lt_irrefl _)

end

/-! Structures without conditions. -/

mutual

/-- Whether a structure has no assertions in it. -/
def Ast.Unconditional : Ast → Prop
  | .assertion .. => False
  | .repetition _ _ _ _ inner | .group _ _ inner => inner.Unconditional
  | .alternation _ branches => Ast.UnconditionalAll branches
  | .concat _ items => Ast.UnconditionalAll items
  | .empty _ | .flags .. | .literal _ | .dot _ | .property .. | .perl .. | .bracketed .. => True

def Ast.UnconditionalAll : List Ast → Prop
  | [] => True
  | a :: more => a.Unconditional ∧ Ast.UnconditionalAll more

end

theorem Ast.unconditionalAll_iff {items : List Ast} : Ast.UnconditionalAll items ↔ ∀ a ∈ items, a.Unconditional := by
  induction items with
  | nil => simp [Ast.UnconditionalAll]
  | cons a items ih => simp [Ast.UnconditionalAll, ih]

theorem Ast.unconditional_composes : Ast.Composes Ast.Unconditional where
  empty _ := trivial
  concat _ _ all := Ast.unconditionalAll_iff.mpr all
  alternation _ _ all := Ast.unconditionalAll_iff.mpr all
  repetition_iff := Iff.rfl
  group _ _ _ _ inner := inner

namespace Expr

mutual

/-- The expression for a structure without assertions has no conditions. -/
theorem Unconditional.ofAst {sw sw' : Switches} {e : Expr} (a : Ast) (free : a.Unconditional)
    (means : Expr.ofAst sw a = .ok (e, sw')) : e.Unconditional := by
  cases a with
  | empty span =>
    cases means
    trivial
  | flags span changes =>
    cases means
    trivial
  | literal l =>
    obtain ⟨e, made, whole⟩ := bind_eq_ok means
    obtain ⟨-, -, made⟩ := bind_eq_ok made
    cases whole
    cases made
    generalize (sw.ignoreCase && if sw.unicode then _ else _ : Bool) = varies
    cases varies with
    | false => trivial
    | true => exact .ofSet _ _
  | dot span =>
    rw [Expr.ofAst] at means
    split at means
    · cases means
      exact .ofSet _ _
    · cases means
  | assertion span kind => exact free.elim
  | property span negated query =>
    obtain ⟨s, -, whole⟩ := bind_eq_ok means
    cases whole
    exact .ofSet _ _
  | perl span negated kind =>
    obtain ⟨s, -, whole⟩ := bind_eq_ok means
    cases whole
    exact .ofSet _ _
  | bracketed span negated inner =>
    obtain ⟨ranges, -, rest⟩ := bind_eq_ok means
    obtain ⟨s, -, whole⟩ := bind_eq_ok rest
    cases whole
    exact .ofSet _ _
  | repetition span min max greedy inner =>
    obtain ⟨⟨e, sw⟩, made, whole⟩ := bind_eq_ok means
    cases whole
    exact (Unconditional.ofAst inner free made).repeated _ _ _
  | group span kind inner =>
    cases kind with
    | capturing index name =>
      obtain ⟨⟨e, sw⟩, made, whole⟩ := bind_eq_ok means
      cases whole
      show e.Unconditional
      exact Unconditional.ofAst inner free made
    | plain changes =>
      obtain ⟨⟨e, sw⟩, made, whole⟩ := bind_eq_ok means
      cases whole
      exact Unconditional.ofAst inner free made
  | alternation span branches =>
    obtain ⟨⟨es, sw⟩, made, whole⟩ := bind_eq_ok means
    cases whole
    exact .ofBranches (Unconditional.ofAsts branches free made)
  | concat span items =>
    obtain ⟨⟨es, sw⟩, made, whole⟩ := bind_eq_ok means
    cases whole
    exact .ofList (Unconditional.ofAsts items free made)

theorem Unconditional.ofAsts {sw sw' : Switches} {es : List Expr} (items : List Ast) (free : Ast.UnconditionalAll items)
    (means : Expr.ofAsts sw items = .ok (es, sw')) : ∀ e ∈ es, e.Unconditional := by
  cases items with
  | nil =>
    cases means
    simp
  | cons a more =>
    obtain ⟨⟨e, sw⟩, made, rest⟩ := bind_eq_ok means
    obtain ⟨⟨es, sw⟩, made', whole⟩ := bind_eq_ok rest
    cases whole
    exact List.forall_mem_cons.mpr ⟨Unconditional.ofAst a free.1 made, Unconditional.ofAsts more free.2 made'⟩

end

end Expr

/-- Whether an atom is a character or stands for one. -/
def Atom.IsCharacter : Atom → Prop
  | .startLine | .endLine | .wordBoundary => False
  | .literal _ | .dot | .perl .. | .set .. => True

theorem Atom.node_unconditional {a : Atom} (is : a.IsCharacter) (p : Nat) : (a.node p).Unconditional := by
  cases a with
  | startLine | endLine | wordBoundary => exact is.elim
  | _ => trivial

namespace Token

open Stage (Reads)

variable {ts : List Token}

theorem feedAll_unconditional (free : EveryIn Atom.IsCharacter ts) : (feedAll (.before {} 0) ts).finish.Unconditional :=
  (feedAll_all Ast.unconditional_composes (fun _ => Atom.node_unconditional) ts free (.before _ _)).finish
    Ast.unconditional_composes

/-- Reading the text of tokens in a group behind `\A` leads to where taking the tokens there leads to. -/
private theorem reads_anchored (fit : fitAll false ts = true) (t : Text) :
    let first := (Stage.before {} 0).push (.assertion ⟨0, 2⟩ .startText) 2
    Reads none (.before {} 0) ((textAll ts).anchored ++ t) (first.leave false (feedAll (first.enter false) ts)) t := by
  intro first
  have text : (textAll ts).anchored ++ t = ['\\', 'A'] ++ (opening false ++ (textAll ts ++ ')' :: t)) := by
    simp [Text.anchored, opening]
  have anchor : Reads none (.before {} 0) (['\\', 'A'] ++ (opening false ++ (textAll ts ++ ')' :: t))) first
      (opening false ++ (textAll ts ++ ')' :: t)) :=
    .step (List.cons_ne_nil _ _) fun _ => rfl
  have inside := reads_textAll ts fit (first.enter false) (fun h => by cases h) (fun h => by cases h) (')' :: t)
    (.inr ⟨t, rfl⟩) (some ⟨first.pos, first.pos + 1⟩)
  rw [text]
  exact anchor.trans (Stage.reads_group (fun h => by cases h) inside)

/-- The structure of the text of tokens between anchors is their own structure between anchors. -/
theorem ofText_whole (fit : fitAll false ts = true) :
    ∃ w, Ast.ofText (textAll ts).whole = .ok w ∧
      w.bare = .concat anywhere [.assertion anywhere .startText,
        .group anywhere (.plain []) (feedAll (.before {} 0) ts).finish.bare, .assertion anywhere .endText] := by
  let first := (Stage.before {} 0).push (.assertion ⟨0, 2⟩ .startText) 2
  let inner := feedAll (first.enter false) ts
  -- the structure does not depend on where it stands
  have same : inner.finish.bare = (feedAll (.before {} 0) ts).finish.bare := by
    have behind := (reads_anchored fit []).ofText
    rw [List.append_nil] at behind
    have shape := Ast.ofText_enclosed (ofText_textAll fit) behind
    injection shape with _ items
    injection items with _ rest
    injection rest with group _
    injection group
  have reads := reads_anchored fit ['\\', 'z']
  have anchor : Reads none (first.leave false inner) ['\\', 'z']
      ((first.leave false inner).push (.assertion ⟨inner.pos + 1, inner.pos + 3⟩ .endText) 2) [] :=
    .step (v := ['\\', 'z']) (List.cons_ne_nil _ _) fun _ => rfl
  refine ⟨_, (reads.trans anchor).ofText, ?_⟩
  rw [← same]
  rfl

/-- The text of tokens without conditions matches the whole of the texts that its expression matches. -/
theorem fullyMatches_iff {sw : Switches} {e : Expr} (fit : fitAll false ts = true)
    (free : EveryIn Atom.IsCharacter ts) (means : Expr.ofAst sw (feedAll (.before {} 0) ts).finish = .ok (e, sw))
    (h : Text) : FullyMatches sw (textAll ts) h ↔ e.Matches h := by
  have plain : e.Unconditional := .ofAst _ (feedAll_unconditional free) means
  obtain ⟨w, read, bare⟩ := ofText_whole fit
  have means' : Expr.ofAst sw w = .ok (e.whole, sw) := by
    have unchanged : sw.change [] = sw := rfl
    rw [← Expr.ofAst_bare_eq_ok_iff] at means ⊢
    rw [bare]
    simp only [Expr.ofAst, Expr.ofAsts, unchanged, means, bind, Except.bind, pure, Except.pure]
    rfl
  constructor
  · rintro ⟨limits, s, built, found⟩
    rw [searcher_of_build read means' built] at found
    exact (searcher_whole plain _ h).mp found
  · intro matched
    obtain ⟨limits, built⟩ := build_of_ofAst read means'
    exact ⟨limits, _, built, (searcher_whole plain _ h).mpr matched⟩

end Token

end Regex

end PatternKit
