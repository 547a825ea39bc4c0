import PatternKit.Proofs.RecipeTokens
import PatternKit.Proofs.TokenReading

/-!
The structure of the text of a tree. Where no part of the text runs into another, the structure of the text is
that of the tree.
-/

set_option autoImplicit false

namespace PatternKit

open Regex (Ast Atom GroupKind GroupTable Stage Token)

namespace Recipe

/-- The number of characters in the text of what a recipe makes. -/
def width (r : Recipe) : Nat :=
  match r.build with
  | .ok c => c.render.length
  | .error _ => 0

/-- The number of characters in the text of what recipes make one after the other. -/
def widthAll (rs : List Recipe) : Nat :=
  match buildAll rs with
  | .ok cs => (Component.renderAll cs).length
  | .error _ => 0

mutual

/-- The number of capturing groups. -/
def groupCount : Recipe → Nat
  | .group children capturing => (if capturing then 1 else 0) + groupCounts children
  | .alternatives branches => groupCountBranches branches
  | .quantified inner _ => groupCount inner
  | .literal _ | .raw _ | .shorthand _ | .set .. | .range .. | .common _ => 0

def groupCounts : List Recipe → Nat
  | [] => 0
  | r :: rs => groupCount r + groupCounts rs

def groupCountBranches : List (List Recipe) → Nat
  | [] => 0
  | rs :: more => groupCounts rs + groupCountBranches more

end

/-- The nodes for text that stands for itself. -/
def literalNodes (pos : Nat) : Text → List Ast
  | [] => []
  | c :: cs =>
    let stop := pos + (Escape.literal [c]).length
    .literal ⟨⟨pos, stop⟩, c, false⟩ :: literalNodes stop cs

/-- The node for a sequence that takes `width` characters, from the nodes in it. -/
def sequenceOf (pos width : Nat) (nodes : List Ast) : Ast :=
  match nodes with
  | [] => .empty ⟨pos, pos + width⟩
  | [a] => a
  | _ => .concat ⟨pos, pos + width⟩ nodes

/-- The node for a group, from the node for the sequence in it, which takes `width` characters. -/
def groupNode (groups pos : Nat) (capturing : Bool) (width : Nat) (inner : Ast) : Ast :=
  .group ⟨pos, pos + (if capturing then 1 else 3) + width + 1⟩
    (if capturing then .capturing (groups + 1) none else .plain []) inner

/-- The node for branches that take `width` characters. -/
def alternationOf (pos width : Nat) (branches : List Ast) : List Ast :=
  match branches with
  | [] => []
  | [a] => [a]
  | _ => [.alternation ⟨pos, pos + width⟩ branches]

mutual

/-- The nodes for a component at an offset, with a number of capturing groups before it. -/
def nodes (groups pos : Nat) : Recipe → List Ast
  | .literal value => literalNodes pos value
  | .raw _ | .common _ => []
  | .shorthand class_ => [class_.atom.node pos]
  | .set chars negated => [(Atom.set negated (chars.map .char)).node pos]
  | .range lo hi => [(Atom.set false [.range lo hi]).node pos]
  | .group children capturing =>
    let start := pos + if capturing then 1 else 3
    let within := nodesAll (groups + if capturing then 1 else 0) start children
    [groupNode groups pos capturing (widthAll children) (sequenceOf start (widthAll children) within)]
  | .alternatives branches =>
    alternationOf pos (width (.alternatives branches)) (branchNodes groups pos branches)
  | .quantified inner request =>
    match request.build with
    | .error _ => []
    | .ok q =>
      let stop := pos + width inner + q.suffix.length
      (nodes groups pos inner).map (.repetition ⟨pos, stop⟩ q.least q.greatest true)

def nodesAll (groups pos : Nat) : List Recipe → List Ast
  | [] => []
  | r :: rs => nodes groups pos r ++ nodesAll (groups + groupCount r) (pos + width r) rs

/-- The nodes for branches, each of which is a group, with a mark between neighbours. -/
def branchNodes (groups pos : Nat) : List (List Recipe) → List Ast
  | [] => []
  | rs :: more =>
    let within := nodesAll groups (pos + 3) rs
    groupNode groups pos false (widthAll rs) (sequenceOf (pos + 3) (widthAll rs) within) ::
      branchNodes (groups + groupCounts rs) (pos + 3 + widthAll rs + 2) more

end

/-- The structure of components one after the other. -/
def tree (groups pos : Nat) (rs : List Recipe) : Ast :=
  sequenceOf pos (widthAll rs) (nodesAll groups pos rs)

/-- Whether a repetition of a component repeats all of it and nothing else. A repetition can be repeated, but
not made optional. -/
def Repeatable (request : Quantifier.Request) : Recipe → Prop
  | .shorthand _ | .set .. | .range .. | .group .. => True
  | .literal value => value.length = 1
  | .quantified .. => request ≠ .optional
  | .raw _ | .common _ | .alternatives _ => False

mutual

/-- Whether the text of a component does not run into its neighbours. `alone` tells that it has none, as only
then it may be an alternation. -/
def Separate (alone : Bool) : Recipe → Prop
  | .literal _ | .shorthand _ => True
  | .raw _ | .common _ => False
  | .set chars _ => chars ≠ []
  | .range lo hi => lo ≤ hi
  | .group children _ => SeparateAll (children.length == 1) children
  | .alternatives branches =>
    branches ≠ [] ∧ (alone = true ∨ branches.length = 1) ∧ SeparateBranches branches
  | .quantified inner request => inner.Repeatable request ∧ Separate false inner ∧ request.Fits

def SeparateAll (alone : Bool) : List Recipe → Prop
  | [] => True
  | r :: rs => Separate alone r ∧ SeparateAll alone rs

def SeparateBranches : List (List Recipe) → Prop
  | [] => True
  | rs :: more => SeparateAll (rs.length == 1) rs ∧ SeparateBranches more

end

private theorem render_ne_nil {r : Recipe} {request : Quantifier.Request} (repeatable : r.Repeatable request)
    {c : Component} (made : r.build = .ok c) : c.render ≠ [] := by
  cases r with
  | literal value =>
    obtain rfl := Except.ok.inj made
    obtain ⟨d, rfl⟩ := List.length_eq_one_iff.mp repeatable
    exact Atom.text_ne_nil (.literal d)
  | shorthand class_ =>
    obtain rfl := Except.ok.inj made
    cases class_ <;> simp [Component.render, Shorthand.token]
  | set chars negated =>
    obtain rfl := Except.ok.inj made
    simp [Component.set, Component.render]
  | range lo hi =>
    obtain rfl := Except.ok.inj made
    simp [Component.range, Component.render]
  | group children capturing =>
    obtain ⟨cs, -, rfl⟩ := build_group_eq_ok made
    simp [Component.render]
  | quantified inner request' =>
    obtain ⟨inner', q, -, -, rfl⟩ := build_quantified_eq_ok made
    simp [Component.render, q.suffix_ne_nil]
  | raw _ => exact repeatable.elim
  | common _ => exact repeatable.elim
  | alternatives _ => exact repeatable.elim

mutual

private theorem clean_of_separate (r : Recipe) {alone : Bool} (separate : r.Separate alone) : r.Clean := by
  cases r with
  | literal _ => trivial
  | shorthand _ => trivial
  | set _ _ => exact separate
  | range _ _ => exact separate
  | group children _ => exact cleanAll_of_separate children separate
  | alternatives branches => exact cleanBranches_of_separate branches separate.2.2
  | quantified inner request =>
    exact ⟨clean_of_separate inner separate.2.1, separate.2.2, fun _ => render_ne_nil separate.1⟩
  | raw _ => exact separate.elim
  | common _ => exact separate.elim

private theorem cleanAll_of_separate (rs : List Recipe) {alone : Bool} (separate : SeparateAll alone rs) :
    CleanAll rs := by
  cases rs with
  | nil => trivial
  | cons r rs => exact ⟨clean_of_separate r separate.1, cleanAll_of_separate rs separate.2⟩

private theorem cleanBranches_of_separate (branches : List (List Recipe)) (separate : SeparateBranches branches) :
    CleanBranches branches := by
  cases branches with
  | nil => trivial
  | cons rs more => exact ⟨cleanAll_of_separate rs separate.1, cleanBranches_of_separate more separate.2⟩

end

private theorem width_eq {r : Recipe} {c : Component} (clean : r.Clean) (made : r.build = .ok c) :
    r.width = (Token.textAll r.tokens).length := by
  rw [width, made, (tokens_spec r clean made).1]

private theorem widthAll_eq {rs : List Recipe} {cs : List Component} (clean : CleanAll rs)
    (made : buildAll rs = .ok cs) : widthAll rs = (Token.textAll (tokensAll rs)).length := by
  rw [widthAll, made, (tokensAll_spec rs clean made).1]

private theorem ofItems_reverse (pos width : Nat) (nodes : List Ast) :
    Ast.ofItems ⟨pos, pos + width⟩ nodes.reverse = sequenceOf pos width nodes := by
  rcases nodes with - | ⟨a, - | ⟨b, nodes⟩⟩
  · rfl
  · rfl
  · have several : ∃ x y more, (a :: b :: nodes).reverse = x :: y :: more := by
      rcases more : (a :: b :: nodes).reverse with - | ⟨x, - | ⟨y, l⟩⟩
      · simp at more
      · have := congrArg List.length more
        simp at this
      · exact ⟨x, y, l, rfl⟩
    obtain ⟨x, y, more, reversed⟩ := several
    rw [reversed]
    show Ast.concat _ (x :: y :: more).reverse = .concat _ (a :: b :: nodes)
    rw [← reversed, List.reverse_reverse]

end Recipe

namespace Regex.Stage

/-- The state before reading goes on, whatever was read last. -/
private def settle (s : Stage) : Stage := { s with greedy := false }

/-- The state after some nodes with a number of groups in them, which take `width` characters. -/
private def add (s : Stage) (nodes : List Ast) (groups width : Nat) : Stage :=
  { groups := { s.groups with count := s.groups.count + groups }
    pending := { s.pending with items := nodes.reverse ++ s.pending.items }
    pos := s.pos + width }

variable {s : Stage}

private theorem add_add (as bs : List Ast) (m n v w : Nat) :
    (s.add as m v).add bs n w = s.add (as ++ bs) (m + n) (v + w) := by
  simp [add, Nat.add_assoc]

private theorem push_eq_add (a : Ast) (w : Nat) : s.push a w = s.add [a] 0 w := rfl

/-- Tokens that can stand where a sequence begins do not see what was read before them. -/
private theorem feedAll_settle {ts : List Token} (fit : Token.fitAll false ts = true) :
    (Token.feedAll s.settle ts).settle = (Token.feedAll s ts).settle := by
  cases ts with
  | nil => rfl
  | cons t ts =>
    have same : Token.feed s.settle t = Token.feed s t := by
      cases t with
      | suffix q => simp [Token.fitAll, Token.fits] at fit
      | _ => rfl
    rw [Token.feedAll, same]
    rfl

private theorem repeatLast_add {a : Ast} (operand : ∀ items, Regex.Repetition.operand? (a :: items) = some (a, items))
    (n w : Nat) (q : Quantifier) :
    ((s.add [a] n w).repeatLast q).settle =
      s.add [.repetition ⟨a.span.start, s.pos + w + q.suffix.length⟩ q.least q.greatest true a] n
        (w + q.suffix.length) := by
  have last : Regex.Repetition.operand? (s.add [a] n w).pending.items = some (a, s.pending.items) :=
    operand s.pending.items
  unfold repeatLast
  rw [last]
  simp [settle, add, Nat.add_assoc]

private theorem repeatLast_settle (q : Quantifier) : (s.settle.repeatLast q).settle = (s.repeatLast q).settle := by
  unfold repeatLast settle
  dsimp only
  split <;> rfl

/-- The branches read so far, the one that is being read included. -/
private def Alternates (s : Stage) (branches : List Ast) : Prop :=
  ∃ a, s.pending.items = [a] ∧ s.pending.branches.reverse ++ [a] = branches

end Regex.Stage

namespace Recipe

/-- Read by itself, the text of a sequence has the structure of the tree. -/
private def ReadsAs (rs : List Recipe) : Prop :=
  ∀ (groups : GroupTable) (p : Nat),
    (Token.feedAll (.before groups p) (tokensAll rs)).finish = tree groups.count p rs ∧
    (Token.feedAll (.before groups p) (tokensAll rs)).groups =
      { groups with count := groups.count + groupCounts rs } ∧
    (Token.feedAll (.before groups p) (tokensAll rs)).pos = p + widthAll rs

private theorem feed_group {rs : List Recipe} (body : ReadsAs rs) (s : Stage) (capturing : Bool) :
    Token.feed s (.group capturing (tokensAll rs)) =
      s.add [groupNode s.groups.count s.pos capturing (widthAll rs)
          (tree (s.groups.count + if capturing then 1 else 0) (s.pos + if capturing then 1 else 3) rs)]
        ((if capturing then 1 else 0) + groupCounts rs)
        ((if capturing then 1 else 3) + widthAll rs + 1) := by
  obtain ⟨finish, groups, pos⟩ := body
    { s.groups with count := s.groups.count + if capturing then 1 else 0 }
    (s.pos + if capturing then 1 else 3)
  have opening : (Token.opening capturing).length = if capturing then 1 else 3 := by cases capturing <;> rfl
  rw [Token.feed, Stage.leave, Stage.enter, opening, finish, groups, pos]
  simp [Regex.Stage.add, groupNode, Stage.groupKind, Ast.Pending.push, Nat.add_assoc]

/-- What can be repeated is one node, at the offset where its text begins. -/
private theorem nodes_of_repeatable (r : Recipe) {c : Component} (made : r.build = .ok c)
    (separate : r.Separate false) {request : Quantifier.Request} (repeatable : r.Repeatable request)
    (groups pos : Nat) :
    ∃ a, r.nodes groups pos = [a] ∧ a.span.start = pos ∧
      ∀ items, Regex.Repetition.operand? (a :: items) = some (a, items) := by
  cases r with
  | literal value =>
    obtain ⟨d, rfl⟩ := List.length_eq_one_iff.mp repeatable
    exact ⟨_, rfl, rfl, fun _ => rfl⟩
  | shorthand class_ => cases class_ <;> exact ⟨_, rfl, rfl, fun _ => rfl⟩
  | set chars negated => exact ⟨_, rfl, rfl, fun _ => rfl⟩
  | range lo hi => exact ⟨_, rfl, rfl, fun _ => rfl⟩
  | group children capturing => exact ⟨_, rfl, rfl, fun _ => rfl⟩
  | quantified inner request' =>
    obtain ⟨inner', q, built, asked, -⟩ := build_quantified_eq_ok made
    obtain ⟨a, single, -, -⟩ := nodes_of_repeatable inner built separate.2.1 separate.1 groups pos
    exact ⟨_, by rw [nodes, asked]; dsimp only; rw [single]; rfl, rfl, fun _ => rfl⟩
  | raw _ => exact repeatable.elim
  | common _ => exact repeatable.elim
  | alternatives _ => exact repeatable.elim

private theorem literalNodes_read (value : Text) (s : Stage) :
    (Token.feedAll s (value.map fun c => .atom (.literal c))).settle =
      s.add (literalNodes s.pos value) 0 (Escape.literal value).length := by
  induction value generalizing s with
  | nil => rfl
  | cons c value ih =>
    rw [List.map_cons, Token.feedAll, Token.feed, ih, Regex.Stage.push_eq_add, Regex.Stage.add_add,
      Escape.literal_cons, List.length_append]
    rfl

/-- After what can be made optional, no repetition has just been read. -/
private theorem greedy_of_repeatable {r : Recipe} {request : Quantifier.Request}
    (repeatable : r.Repeatable request) {q : Quantifier} (asked : request.build = .ok q) (s : Stage) :
    ¬ ((Token.feedAll s r.tokens).greedy = true ∧ q = .optional) := by
  rintro ⟨greedy, rfl⟩
  have optional : request = .optional := by
    cases request with
    | optional => rfl
    | between m n =>
      by_cases ordered : m ≤ n <;> simp [Quantifier.Request.build, Quantifier.between?, ordered] at asked
    | _ => cases asked
  cases r with
  | literal value =>
    obtain ⟨d, rfl⟩ := List.length_eq_one_iff.mp repeatable
    cases greedy
  | quantified _ _ => exact repeatable optional
  | raw _ => exact repeatable.elim
  | common _ => exact repeatable.elim
  | alternatives _ => exact repeatable.elim
  | _ => cases greedy

private theorem atom_read {r : Recipe} {a : Atom} {c : Component} (clean : r.Clean) (made : r.build = .ok c)
    (tokens : r.tokens = [.atom a]) (s : Stage) :
    (Token.feedAll s r.tokens).settle = s.add [a.node s.pos] 0 r.width := by
  have width : r.width = a.text.length := by
    rw [width_eq clean made, tokens]
    simp [Token.textAll, Token.text]
  rw [tokens, width]
  rfl

/-- A repetition of what is one node. -/
private theorem quantified_read {inner : Recipe} {request : Quantifier.Request} {q : Quantifier}
    {c : Component} (made : inner.build = .ok c) (asked : request.build = .ok q)
    (separate : (Recipe.quantified inner request).Separate false) (s : Stage)
    (read : (Token.feedAll s inner.tokens).settle =
      s.add (inner.nodes s.groups.count s.pos) inner.groupCount inner.width) :
    (Token.feedAll s (Recipe.quantified inner request).tokens).settle =
      s.add ((Recipe.quantified inner request).nodes s.groups.count s.pos) inner.groupCount
        (Recipe.quantified inner request).width := by
  have whole : (Recipe.quantified inner request).build = .ok (.quantified c q) := by
    rw [build, made, asked]
    rfl
  have width : (Recipe.quantified inner request).width = inner.width + q.suffix.length := by
    rw [width, whole, Recipe.width, made]
    simp [Component.render]
  obtain ⟨a, single, starts, operand⟩ := nodes_of_repeatable inner made separate.2.1 separate.1
    s.groups.count s.pos
  rw [width, tokens, nodes, asked]
  dsimp only
  rw [Token.feedAll_append, Token.feedAll, Token.feedAll, Token.feed,
    if_neg (greedy_of_repeatable separate.1 asked s), ← Regex.Stage.repeatLast_settle, read, single,
    Regex.Stage.repeatLast_add operand, starts]
  rfl

/-- Only an alternation by itself makes its sequence different from one among others. -/
private theorem separate_cases {rs : List Recipe} (separate : SeparateAll (rs.length == 1) rs) :
    SeparateAll false rs ∨ ∃ branch second more, rs = [.alternatives (branch :: second :: more)] := by
  rcases rs with - | ⟨r, - | ⟨r', rs⟩⟩
  · exact .inl trivial
  · cases r with
    | alternatives branches =>
      rcases branches with - | ⟨branch, - | ⟨second, more⟩⟩
      · exact absurd rfl separate.1.1
      · exact .inl ⟨⟨separate.1.1, .inr rfl, separate.1.2.2⟩, trivial⟩
      · exact .inr ⟨branch, second, more, rfl⟩
    | _ => exact .inl separate
  · exact .inl separate

/-- Behind the branches `bs`, reading the text of further branches adds their nodes. -/
private structure AddsBranches (s : Stage) (bs : List Ast) (branches : List (List Recipe)) : Prop where
  nodes : (Token.feedAll s (tokensFurther branches)).Alternates
    (bs ++ branchNodes s.groups.count (s.pos + 1) branches)
  start : (Token.feedAll s (tokensFurther branches)).pending.start = s.pending.start
  groups : (Token.feedAll s (tokensFurther branches)).groups =
    { s.groups with count := s.groups.count + groupCountBranches branches }
  pos : (Token.feedAll s (tokensFurther branches)).pos =
    s.pos + (Token.textAll (tokensFurther branches)).length

/-- One more branch: the mark before it ends the branch before, and its group is the only item of its own. -/
private theorem AddsBranches.cons {rs : List Recipe} {more : List (List Recipe)} (body : ReadsAs rs)
    (width : widthAll rs = (Token.textAll (tokensAll rs)).length)
    (rest : ∀ s bs, s.Alternates bs → AddsBranches s bs more) {s : Stage} {bs : List Ast}
    (alternates : s.Alternates bs) : AddsBranches s bs (rs :: more) := by
  let g := groupNode s.groups.count (s.pos + 1) false (widthAll rs) (tree s.groups.count (s.pos + 1 + 3) rs)
  let s' := s.endBranch.add [g] (0 + groupCounts rs) (3 + widthAll rs + 1)
  have fed : Token.feedAll s (tokensFurther (rs :: more)) = Token.feedAll s' (tokensFurther more) := by
    rw [tokensFurther, Token.feedAll, Token.feedAll]
    exact congrArg (Token.feedAll · _) (feed_group body s.endBranch false)
  have next : s'.Alternates (bs ++ [g]) := by
    obtain ⟨a, items, branches⟩ := alternates
    refine ⟨g, rfl, ?_⟩
    show (Ast.ofItems _ s.pending.items :: s.pending.branches).reverse ++ [g] = _
    rw [items, List.reverse_cons]
    exact congrArg (· ++ [g]) branches
  obtain ⟨nodes, start, groups, pos⟩ := rest s' (bs ++ [g]) next
  have count : s'.groups.count = s.groups.count + groupCounts rs := by simp [s', Regex.Stage.add, Stage.endBranch]
  have offset : s'.pos + 1 = s.pos + 1 + 3 + widthAll rs + 2 := by
    simp only [s', Regex.Stage.add, Stage.endBranch]
    omega
  refine ⟨?_, by rw [fed, start]; rfl, ?_, ?_⟩
  · rw [fed, branchNodes]
    rw [count, offset, List.append_assoc] at nodes
    exact nodes
  · rw [fed, groups, groupCountBranches, count]
    simp [s', Regex.Stage.add, Stage.endBranch, Nat.add_assoc]
  · rw [fed, pos]
    simp [s', Regex.Stage.add, Stage.endBranch, tokensFurther, Token.textAll, Token.text, Token.opening, width]
    omega

/-- Several branches are one alternation. -/
private theorem finish_of_alternates {s : Stage} {a b : Ast} {bs : List Ast} (h : s.Alternates (a :: b :: bs)) :
    s.finish = .alternation ⟨s.pending.start, s.pos⟩ (a :: b :: bs) := by
  obtain ⟨last, items, branches⟩ := h
  unfold Stage.finish Ast.Pending.finish
  rw [items]
  dsimp only
  split
  · rename_i none
    rw [none] at branches
    cases branches
  · exact congrArg (Ast.alternation _) branches

/-- An alternation by itself is read branch by branch. -/
private theorem alternation_reads {branch second : List Recipe} {more : List (List Recipe)}
    {c : Component} (made : (Recipe.alternatives (branch :: second :: more)).build = .ok c)
    (clean : (Recipe.alternatives (branch :: second :: more)).Clean) (first : ReadsAs branch)
    (widthFirst : widthAll branch = (Token.textAll (tokensAll branch)).length)
    (further : ∀ s bs, s.Alternates bs → AddsBranches s bs (second :: more)) :
    ReadsAs [.alternatives (branch :: second :: more)] := by
  intro groups p
  let g := groupNode groups.count p false (widthAll branch) (tree groups.count (p + 3) branch)
  let s := (Stage.before groups p).add [g] (0 + groupCounts branch) (3 + widthAll branch + 1)
  have tokensEq : tokensAll [.alternatives (branch :: second :: more)] =
      .group false (tokensAll branch) :: tokensFurther (second :: more) := by
    rw [tokensAll, tokensAll, List.append_nil, tokens, tokensBranches]
  have fed : Token.feedAll (.before groups p) (tokensAll [.alternatives (branch :: second :: more)]) =
      Token.feedAll s (tokensFurther (second :: more)) := by
    rw [tokensEq, Token.feedAll]
    exact congrArg (Token.feedAll · _) (feed_group first (.before groups p) false)
  have width : (Recipe.alternatives (branch :: second :: more)).width =
      3 + widthAll branch + 1 + (Token.textAll (tokensFurther (second :: more))).length := by
    rw [width_eq clean made, widthFirst]
    simp [tokens, tokensBranches, Token.textAll, Token.text, Token.opening]
    omega
  have widthWhole : widthAll [.alternatives (branch :: second :: more)] =
      (Recipe.alternatives (branch :: second :: more)).width := by
    simp [widthAll, Recipe.width, buildAll, made, bind, Except.bind, pure, Except.pure, Component.renderAll]
  obtain ⟨nodes, start, groupsAfter, pos⟩ := further s [g] ⟨g, rfl, rfl⟩
  have count : s.groups.count = groups.count + groupCounts branch := by simp [s, Regex.Stage.add, Stage.before]
  have offset : s.pos + 1 = p + 3 + widthAll branch + 2 := by
    simp only [s, Regex.Stage.add, Stage.before]
    omega
  have stop : s.pos + (Token.textAll (tokensFurther (second :: more))).length =
      p + (Recipe.alternatives (branch :: second :: more)).width := by
    rw [width]
    simp only [s, Regex.Stage.add, Stage.before]
    omega
  rw [count, offset] at nodes
  refine ⟨?_, ?_, ?_⟩
  · rw [fed, finish_of_alternates nodes, start, pos, stop, tree, widthWhole]
    rfl
  · rw [fed, groupsAfter, count]
    simp [s, Regex.Stage.add, Stage.before, groupCounts, groupCount, groupCountBranches, Nat.add_assoc]
  · rw [fed, pos, stop, widthWhole]

mutual

/-- Reading the text of a component adds its nodes. -/
private theorem nodes_read (r : Recipe) {c : Component} (made : r.build = .ok c)
    (separate : r.Separate false) (s : Stage) :
    (Token.feedAll s r.tokens).settle = s.add (r.nodes s.groups.count s.pos) r.groupCount r.width := by
  have clean := clean_of_separate r separate
  cases r with
  | literal value =>
    obtain rfl := Except.ok.inj made
    exact literalNodes_read value s
  | shorthand class_ => exact atom_read clean made rfl s
  | set chars negated => exact atom_read clean made rfl s
  | range lo hi => exact atom_read clean made rfl s
  | group children capturing =>
    obtain ⟨cs, built, rfl⟩ := build_group_eq_ok made
    have width : (Recipe.group children capturing).width =
        (if capturing then 1 else 3) + widthAll children + 1 := by
      rw [width_eq clean made, widthAll_eq (cleanAll_of_separate children separate) built]
      cases capturing <;> simp [tokens, Token.textAll, Token.text, Token.opening] <;> omega
    rw [width]
    exact feed_group (tree_read children built separate) s capturing
  | alternatives branches =>
    obtain ⟨-, only, each⟩ := separate
    obtain ⟨branch, rfl⟩ : ∃ branch, branches = [branch] := by
      rcases only with impossible | one
      · cases impossible
      · exact List.length_eq_one_iff.mp one
    obtain ⟨css, built, -⟩ := build_alternatives_eq_ok made
    obtain ⟨cs, -, first, -, -⟩ := buildBranches_cons_eq_ok built
    have width : (Recipe.alternatives [branch]).width = 3 + widthAll branch + 1 := by
      rw [width_eq clean made, widthAll_eq (cleanAll_of_separate branch each.1) first]
      simp [tokens, tokensBranches, tokensFurther, Token.textAll, Token.text, Token.opening]
      omega
    have count : (Recipe.alternatives [branch]).groupCount = 0 + groupCounts branch :=
      Nat.add_comm _ _
    rw [width, count]
    exact feed_group (tree_read branch first each.1) s false
  | quantified inner request =>
    obtain ⟨c', q, built, asked, -⟩ := build_quantified_eq_ok made
    exact quantified_read built asked separate s (nodes_read inner built separate.2.1 s)
  | raw _ => exact separate.elim
  | common _ => exact separate.elim
termination_by (sizeOf r, 0)

private theorem nodesAll_read (rs : List Recipe) {cs : List Component} (made : buildAll rs = .ok cs)
    (separate : SeparateAll false rs) (s : Stage) :
    (Token.feedAll s (tokensAll rs)).settle =
      s.add (nodesAll s.groups.count s.pos rs) (groupCounts rs) (widthAll rs) := by
  cases rs with
  | nil => rfl
  | cons r rs =>
    obtain ⟨c, more, first, rest, -⟩ := buildAll_cons_eq_ok made
    have fit := (tokensAll_spec rs (cleanAll_of_separate rs separate.2) rest).2.fit
    have width : widthAll (r :: rs) = r.width + widthAll rs := by
      simp [widthAll, Recipe.width, buildAll, first, rest, bind, Except.bind, pure, Except.pure,
        Component.renderAll]
    rw [tokensAll, Token.feedAll_append, ← Regex.Stage.feedAll_settle fit, nodes_read r first separate.1 s,
      nodesAll_read rs rest separate.2, Regex.Stage.add_add, width]
    rfl
termination_by (sizeOf rs, 0)

/-- Read by itself, the text of a sequence has the structure of the tree. -/
private theorem tree_read (rs : List Recipe) {cs : List Component} (made : buildAll rs = .ok cs)
    (separate : SeparateAll (rs.length == 1) rs) : ReadsAs rs := by
  rcases separate_cases separate with apart | ⟨branch, second, more, rfl⟩
  · intro groups p
    have read := nodesAll_read rs made apart (.before groups p)
    refine ⟨?_, congrArg Stage.groups read, congrArg Stage.pos read⟩
    have finish : (Token.feedAll (.before groups p) (tokensAll rs)).finish =
        Ast.ofItems ⟨p, p + widthAll rs⟩ ((nodesAll groups.count p rs).reverse ++ []) :=
      congrArg Stage.finish read
    rw [finish, List.append_nil]
    exact ofItems_reverse _ _ _
  · obtain ⟨c, cs', built, -, -⟩ := buildAll_cons_eq_ok made
    obtain ⟨css, branchesBuilt, -⟩ := build_alternatives_eq_ok built
    obtain ⟨first, css', firstBuilt, restBuilt, -⟩ := buildBranches_cons_eq_ok branchesBuilt
    obtain ⟨-, -, firstSeparate, restSeparate⟩ := separate.1
    have clean := cleanAll_of_separate _ separate
    exact alternation_reads built clean.1 (tree_read branch firstBuilt firstSeparate)
      (widthAll_eq (cleanAll_of_separate branch firstSeparate) firstBuilt)
      (further_read (second :: more) restBuilt restSeparate)
termination_by (sizeOf rs, 1)

private theorem further_read (branches : List (List Recipe)) {css : List (List Component)}
    (made : buildBranches branches = .ok css) (separate : SeparateBranches branches) (s : Stage)
    (bs : List Ast) (alternates : s.Alternates bs) : AddsBranches s bs branches := by
  cases branches with
  | nil => exact ⟨by rw [branchNodes, List.append_nil]; exact alternates, rfl, rfl, rfl⟩
  | cons rs more =>
    obtain ⟨cs, css', first, rest, -⟩ := buildBranches_cons_eq_ok made
    have width := widthAll_eq (cleanAll_of_separate rs separate.1) first
    exact .cons (tree_read rs first separate.1) width (further_read more rest separate.2) alternates
termination_by (sizeOf branches, 0)

end

/-- The text of components that do not run into each other has the structure of their tree. -/
theorem structure_of_text_is_tree (rs : List Recipe) (cs : List Component) (made : buildAll rs = .ok cs)
    (separate : SeparateAll (rs.length == 1) rs) :
    Ast.ofText (Component.renderAll cs) = .ok (tree 0 0 rs) := by
  obtain ⟨text, whole⟩ := tokensAll_spec rs (cleanAll_of_separate rs separate) made
  obtain ⟨finish, -, -⟩ := tree_read rs made separate {} 0
  rw [← text, Token.ofText_textAll whole.fit, finish]

/-- Text with a dot in it, a repeated set, a group around an alternation, and a repeated repetition. -/
def dottedWord : List Recipe :=
  [.literal ['a', '.'], .quantified (.set ['-', ']'] true) (.between 2 3),
    .group [.alternatives [[.shorthand .digit], [.literal ['b']]]] true,
    .quantified (.quantified (.range 'a' 'z') .oneOrMore) (.exactly 2)]

theorem structure_of_dottedWord : ∃ cs, buildAll dottedWord = .ok cs ∧
    SeparateAll (dottedWord.length == 1) dottedWord ∧
    Ast.ofText (Component.renderAll cs) = .ok (tree 0 0 dottedWord) := by
  have separate : SeparateAll (dottedWord.length == 1) dottedWord := by
    refine ⟨trivial, ⟨trivial, by simp [Separate], by decide, by decide⟩, ?_, ?_, trivial⟩
    · exact ⟨⟨by simp, .inl rfl, ⟨trivial, trivial⟩, ⟨trivial, trivial⟩, trivial⟩, trivial⟩
    · refine ⟨by simp [Repeatable], ⟨trivial, ?_, trivial⟩, ?_⟩
      · show 'a' ≤ 'z'
        decide
      · show 2 < 0x100000000
        decide
  exact ⟨_, rfl, separate, structure_of_text_is_tree dottedWord _ rfl separate⟩

end Recipe

end PatternKit
