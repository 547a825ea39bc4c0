import PatternKit.Regex.Expr.OfAst

/-!
Bare structures. Where in the text a node stands matters to messages only: the expression for a structure is that for
the structure without its places.
-/

set_option autoImplicit false

namespace PatternKit.Regex

/-- A place that stands for any. -/
def anywhere : Span := ⟨0, 0⟩

/-- A literal without its place. -/
def Literal.bare (l : Literal) : Literal := { l with span := anywhere }

mutual

/-- A set without its places. -/
def ClassSet.bare : ClassSet → ClassSet
  | .empty _ => .empty anywhere
  | .literal l => .literal l.bare
  | .range _ lo hi => .range anywhere lo.bare hi.bare
  | .ascii _ negated kind => .ascii anywhere negated kind
  | .property _ negated query => .property anywhere negated query
  | .perl _ negated kind => .perl anywhere negated kind
  | .bracketed _ negated inner => .bracketed anywhere negated inner.bare
  | .union _ items => .union anywhere (ClassSet.bareAll items)
  | .operation _ operator lhs rhs => .operation anywhere operator lhs.bare rhs.bare

def ClassSet.bareAll : List ClassSet → List ClassSet
  | [] => []
  | s :: more => s.bare :: ClassSet.bareAll more

end

theorem ClassSet.bareAll_eq_map (items : List ClassSet) : ClassSet.bareAll items = items.map ClassSet.bare := by
  induction items with
  | nil => rfl
  | cons s items ih => rw [ClassSet.bareAll, ih, List.map_cons]

mutual

/-- A structure without its places. -/
def Ast.bare : Ast → Ast
  | .empty _ => .empty anywhere
  | .flags _ changes => .flags anywhere changes
  | .literal l => .literal l.bare
  | .dot _ => .dot anywhere
  | .assertion _ kind => .assertion anywhere kind
  | .property _ negated query => .property anywhere negated query
  | .perl _ negated kind => .perl anywhere negated kind
  | .bracketed _ negated inner => .bracketed anywhere negated inner.bare
  | .repetition _ min max greedy inner => .repetition anywhere min max greedy inner.bare
  | .group _ kind inner => .group anywhere kind inner.bare
  | .alternation _ branches => .alternation anywhere (Ast.bareAll branches)
  | .concat _ items => .concat anywhere (Ast.bareAll items)

def Ast.bareAll : List Ast → List Ast
  | [] => []
  | a :: more => a.bare :: Ast.bareAll more

end

theorem Ast.bareAll_eq_map (items : List Ast) : Ast.bareAll items = items.map Ast.bare := by
  induction items with
  | nil => rfl
  | cons a items ih => rw [Ast.bareAll, ih, List.map_cons]

variable {α β : Type}

/-- What comes of two computations one after the other comes of both. -/
theorem bind_eq_ok {x : Except Diagnosis α} {f : α → Except Diagnosis β} {b : β} (whole : x >>= f = .ok b) :
    ∃ a, x = .ok a ∧ f a = .ok b := by
  cases x with
  | error d => cases whole
  | ok a => exact ⟨a, rfl, whole⟩

namespace Expr

variable {sw : Switches}

private theorem toOption_bind (x : Except Diagnosis α) (f : α → Except Diagnosis β) :
    (x >>= f).toOption = x.toOption.bind fun a => (f a).toOption := by
  cases x <;> rfl

/-- If two computations agree but for errors, and so do those that go on from their answers, the whole does. -/
private theorem bind_congr {x y : Except Diagnosis α} {f g : α → Except Diagnosis β} (first : x.toOption = y.toOption)
    (rest : ∀ a, (f a).toOption = (g a).toOption) : (x >>= f).toOption = (y >>= g).toOption := by
  rw [toOption_bind, toOption_bind, first]
  exact congrArg _ (funext rest)

private theorem negate_place (span span' : Span) (negated : Bool) (s : CharSet) :
    (negate sw span negated s).toOption = (negate sw span' negated s).toOption := by
  unfold negate
  generalize (if negated then s.complement else s) = t
  dsimp only
  split <;> rfl

private theorem checkByte_bare (l : Literal) : (checkByte sw l.bare).toOption = (checkByte sw l).toOption := by
  unfold checkByte
  show (if (!sw.unicode && l.isByte && decide (0x80 ≤ l.char.toNat)) = true then _ else _ : Except _ _).toOption = _
  split <;> rfl

private theorem ofLiteral_bare (l : Literal) : (ofLiteral sw l.bare).toOption = (ofLiteral sw l).toOption :=
  bind_congr (checkByte_bare l) fun _ => rfl

private theorem memberChar_bare (l : Literal) : (memberChar sw l.bare).toOption = (memberChar sw l).toOption := by
  refine bind_congr (checkByte_bare l) fun _ => ?_
  show (if (sw.unicode || decide (l.char.toNat < 0x80)) = true then _ else _ : Except _ _).toOption = _
  split <;> rfl

private theorem ofProperty_place (span span' : Span) (negated : Bool) (query : PropertyQuery) :
    (ofProperty sw span negated query).toOption = (ofProperty sw span' negated query).toOption := by
  unfold ofProperty
  split
  · rfl
  · cases Property.resolve query with
    | ok s => exact negate_place span span' negated _
    | error fault => rfl

mutual

private theorem ofClass_bare (s : ClassSet) : (ofClass sw s.bare).toOption = (ofClass sw s).toOption := by
  cases s with
  | empty span => rfl
  | literal l => exact bind_congr (memberChar_bare l) fun _ => rfl
  | range span lo hi => exact bind_congr (memberChar_bare lo) fun _ => bind_congr (memberChar_bare hi) fun _ => rfl
  | ascii span negated kind => exact bind_congr (negate_place _ _ negated _) fun _ => rfl
  | property span negated query => exact bind_congr (ofProperty_place _ _ negated query) fun _ => rfl
  | perl span negated kind => exact bind_congr (negate_place _ _ negated _) fun _ => rfl
  | bracketed span negated inner =>
    exact bind_congr (ofClass_bare inner) fun _ => bind_congr (negate_place _ _ negated _) fun _ => rfl
  | union span items => exact ofClasses_bare items
  | operation span operator lhs rhs =>
    exact bind_congr (ofClass_bare lhs) fun _ => bind_congr (ofClass_bare rhs) fun _ => rfl

private theorem ofClasses_bare (items : List ClassSet) :
    (ofClasses sw (ClassSet.bareAll items)).toOption = (ofClasses sw items).toOption := by
  cases items with
  | nil => rfl
  | cons s more => exact bind_congr (ofClass_bare s) fun _ => bind_congr (ofClasses_bare more) fun _ => rfl

end

mutual

/-- The expression for a structure, if there is one, does not depend on places. -/
theorem ofAst_bare (sw : Switches) (a : Ast) : (ofAst sw a.bare).toOption = (ofAst sw a).toOption := by
  cases a with
  | empty span => rfl
  | flags span changes => rfl
  | literal l => exact bind_congr (ofLiteral_bare l) fun _ => rfl
  | dot span =>
    rw [Ast.bare, ofAst, ofAst]
    split <;> rfl
  | assertion span kind => rfl
  | property span negated query => exact bind_congr (ofProperty_place _ _ negated query) fun _ => rfl
  | perl span negated kind => exact bind_congr (negate_place _ _ negated _) fun _ => rfl
  | bracketed span negated inner =>
    exact bind_congr (ofClass_bare inner) fun _ => bind_congr (negate_place _ _ negated _) fun _ => rfl
  | repetition span min max greedy inner => exact bind_congr (ofAst_bare sw inner) fun _ => rfl
  | group span kind inner =>
    cases kind with
    | capturing index name => exact bind_congr (ofAst_bare sw inner) fun _ => rfl
    | plain changes => exact bind_congr (ofAst_bare (sw.change changes) inner) fun _ => rfl
  | alternation span branches => exact bind_congr (ofAsts_bare sw branches) fun _ => rfl
  | concat span items => exact bind_congr (ofAsts_bare sw items) fun _ => rfl

theorem ofAsts_bare (sw : Switches) (items : List Ast) :
    (ofAsts sw (Ast.bareAll items)).toOption = (ofAsts sw items).toOption := by
  cases items with
  | nil => rfl
  | cons a more =>
    exact bind_congr (ofAst_bare sw a) fun x => bind_congr (ofAsts_bare x.2 more) fun _ => rfl

end

theorem ofAst_bare_eq_ok_iff {sw : Switches} {a : Ast} {x : Expr × Switches} :
    ofAst sw a.bare = .ok x ↔ ofAst sw a = .ok x := by
  have toOption_eq_some (y : Except Diagnosis (Expr × Switches)) : y.toOption = some x ↔ y = .ok x := by
    cases y <;> simp [Except.toOption]
  rw [← toOption_eq_some, ofAst_bare, toOption_eq_some]

end Expr

end PatternKit.Regex
