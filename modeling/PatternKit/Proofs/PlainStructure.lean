import PatternKit.Proofs.TokenReading
import PatternKit.Regex.Engine

/-!
Structures without options and properties of characters. With Unicode on these have a meaning, so all
that a pattern with such a structure can be refused for is its depth.
-/

set_option autoImplicit false

namespace PatternKit.Regex

mutual

/-- Whether a set asks for no property. -/
def ClassSet.Plain : ClassSet → Prop
  | .property .. => False
  | .bracketed _ _ inner => inner.Plain
  | .union _ items => ClassSet.PlainAll items
  | .operation _ _ lhs rhs => lhs.Plain ∧ rhs.Plain
  | .empty _ | .literal _ | .range .. | .ascii .. | .perl .. => True

def ClassSet.PlainAll : List ClassSet → Prop
  | [] => True
  | s :: more => s.Plain ∧ ClassSet.PlainAll more

end

mutual

/-- Whether a structure changes no option and asks for no property. -/
def Ast.Plain : Ast → Prop
  | .flags .. | .property .. => False
  | .bracketed _ _ inner => inner.Plain
  | .repetition _ _ _ _ inner => inner.Plain
  | .group _ (.capturing ..) inner => inner.Plain
  | .group _ (.plain changes) inner => changes = [] ∧ inner.Plain
  | .alternation _ branches => Ast.PlainAll branches
  | .concat _ items => Ast.PlainAll items
  | .empty _ | .literal _ | .dot _ | .assertion .. | .perl .. => True

def Ast.PlainAll : List Ast → Prop
  | [] => True
  | a :: more => a.Plain ∧ Ast.PlainAll more

end

/-- Depth is all that is wrong, if anything is. -/
def OnlyTooDeep {α : Type} (limit : Nat) (x : Except Diagnosis α) : Prop :=
  (∃ a, x = .ok a) ∨ ∃ place, x = .error ⟨.nestLimitExceeded limit, place, none⟩

theorem OnlyTooDeep.bind {α β : Type} {limit : Nat} {x : Except Diagnosis α} {f : α → Except Diagnosis β}
    (first : OnlyTooDeep limit x) (second : ∀ a, OnlyTooDeep limit (f a)) : OnlyTooDeep limit (x >>= f) := by
  rcases first with ⟨a, rfl⟩ | ⟨place, rfl⟩
  · exact second a
  · exact .inr ⟨place, rfl⟩

theorem enterLevel_onlyTooDeep (limit depth : Nat) (span : Span) :
    OnlyTooDeep limit (enterLevel limit depth span) := by
  unfold enterLevel
  split
  · exact .inr ⟨span, rfl⟩
  · exact .inl ⟨(), rfl⟩

mutual

theorem ClassSet.checkDepth_onlyTooDeep (limit depth : Nat) (s : ClassSet) :
    OnlyTooDeep limit (s.checkDepth limit depth) := by
  cases s with
  | bracketed span _ inner =>
    exact (enterLevel_onlyTooDeep limit depth span).bind fun _ =>
      ClassSet.checkDepth_onlyTooDeep limit (depth + 1) inner
  | union span items =>
    exact (enterLevel_onlyTooDeep limit depth span).bind fun _ =>
      ClassSet.checkDepths_onlyTooDeep limit (depth + 1) items
  | operation span _ lhs rhs =>
    exact (enterLevel_onlyTooDeep limit depth span).bind fun _ =>
      (ClassSet.checkDepth_onlyTooDeep limit (depth + 1) lhs).bind fun _ =>
        ClassSet.checkDepth_onlyTooDeep limit (depth + 1) rhs
  | _ => exact .inl ⟨(), rfl⟩

theorem ClassSet.checkDepths_onlyTooDeep (limit depth : Nat) (items : List ClassSet) :
    OnlyTooDeep limit (ClassSet.checkDepths limit depth items) := by
  cases items with
  | nil => exact .inl ⟨(), rfl⟩
  | cons s more =>
    exact (ClassSet.checkDepth_onlyTooDeep limit depth s).bind fun _ =>
      ClassSet.checkDepths_onlyTooDeep limit depth more

end

mutual

theorem Ast.checkDepth_onlyTooDeep (limit depth : Nat) (a : Ast) :
    OnlyTooDeep limit (a.checkDepth limit depth) := by
  cases a with
  | bracketed span _ inner =>
    exact (enterLevel_onlyTooDeep limit depth span).bind fun _ =>
      ClassSet.checkDepth_onlyTooDeep limit (depth + 1) inner
  | repetition span _ _ _ inner =>
    exact (enterLevel_onlyTooDeep limit depth span).bind fun _ =>
      Ast.checkDepth_onlyTooDeep limit (depth + 1) inner
  | group span _ inner =>
    exact (enterLevel_onlyTooDeep limit depth span).bind fun _ =>
      Ast.checkDepth_onlyTooDeep limit (depth + 1) inner
  | alternation span branches =>
    exact (enterLevel_onlyTooDeep limit depth span).bind fun _ =>
      Ast.checkDepths_onlyTooDeep limit (depth + 1) branches
  | concat span items =>
    exact (enterLevel_onlyTooDeep limit depth span).bind fun _ =>
      Ast.checkDepths_onlyTooDeep limit (depth + 1) items
  | _ => exact .inl ⟨(), rfl⟩

theorem Ast.checkDepths_onlyTooDeep (limit depth : Nat) (items : List Ast) :
    OnlyTooDeep limit (Ast.checkDepths limit depth items) := by
  cases items with
  | nil => exact .inl ⟨(), rfl⟩
  | cons a more =>
    exact (Ast.checkDepth_onlyTooDeep limit depth a).bind fun _ =>
      Ast.checkDepths_onlyTooDeep limit depth more

end

namespace Expr

variable {sw : Switches}

theorem negate_of_unicode (unicode : sw.unicode = true) (span : Span) (negated : Bool) (s : CharSet) :
    negate sw span negated s = .ok (if negated then s.complement else s) := by
  rw [negate, unicode]
  rfl

theorem memberChar_of_unicode (unicode : sw.unicode = true) (l : Literal) : memberChar sw l = .ok l.char := by
  rw [memberChar, checkByte, unicode]
  rfl

private theorem ofLiteral_of_unicode (unicode : sw.unicode = true) (l : Literal) : ∃ e, ofLiteral sw l = .ok e := by
  rw [ofLiteral, checkByte, unicode]
  exact ⟨_, rfl⟩

private theorem ofPerl_of_unicode (unicode : sw.unicode = true) (span : Span) (negated : Bool) (kind : PerlClass) :
    ∃ s, ofPerl sw span negated kind = .ok s := by
  rw [ofPerl, negate_of_unicode unicode]
  exact ⟨_, rfl⟩

private theorem ofBrackets_of_unicode (unicode : sw.unicode = true) (span : Span) (negated : Bool)
    (ranges : List CodeRange) : ∃ s, ofBrackets sw span negated ranges = .ok s := by
  rw [ofBrackets, negate_of_unicode unicode]
  exact ⟨_, rfl⟩

mutual

theorem ofClass_of_plain (unicode : sw.unicode = true) (s : ClassSet) (plain : s.Plain) :
    ∃ ranges, ofClass sw s = .ok ranges := by
  cases s with
  | property _ _ _ => exact plain.elim
  | literal l => exact ⟨_, by rw [ofClass, memberChar_of_unicode unicode]; rfl⟩
  | range _ lo hi => exact ⟨_, by rw [ofClass, memberChar_of_unicode unicode, memberChar_of_unicode unicode]; rfl⟩
  | ascii _ _ _ => exact ⟨_, by rw [ofClass, negate_of_unicode unicode]; rfl⟩
  | perl span negated kind =>
    obtain ⟨set, made⟩ := ofPerl_of_unicode unicode span negated kind
    exact ⟨_, by rw [ofClass, made]; rfl⟩
  | bracketed span negated inner =>
    obtain ⟨ranges, made⟩ := ofClass_of_plain unicode inner plain
    obtain ⟨set, bracketed⟩ := ofBrackets_of_unicode unicode span negated ranges
    exact ⟨_, by rw [ofClass, made]; show (ofBrackets sw span negated ranges >>= _) = _; rw [bracketed]; rfl⟩
  | union span items => exact ofClasses_of_plain unicode items plain
  | operation span operator lhs rhs =>
    obtain ⟨left, made⟩ := ofClass_of_plain unicode lhs plain.1
    obtain ⟨right, made'⟩ := ofClass_of_plain unicode rhs plain.2
    exact ⟨_, by rw [ofClass, made, made']; rfl⟩
  | empty _ => exact ⟨_, rfl⟩

theorem ofClasses_of_plain (unicode : sw.unicode = true) (items : List ClassSet) (plain : ClassSet.PlainAll items) :
    ∃ ranges, ofClasses sw items = .ok ranges := by
  cases items with
  | nil => exact ⟨_, rfl⟩
  | cons s more =>
    obtain ⟨first, made⟩ := ofClass_of_plain unicode s plain.1
    obtain ⟨rest, made'⟩ := ofClasses_of_plain unicode more plain.2
    exact ⟨_, by rw [ofClasses, made, made']; rfl⟩

end

mutual

theorem ofAst_of_plain (unicode : sw.unicode = true) (a : Ast) (plain : a.Plain) : ∃ e, ofAst sw a = .ok (e, sw) := by
  cases a with
  | flags _ _ => exact plain.elim
  | property _ _ _ => exact plain.elim
  | literal l =>
    obtain ⟨e, made⟩ := ofLiteral_of_unicode unicode l
    exact ⟨e, by rw [ofAst, made]; rfl⟩
  | dot _ => exact ⟨_, by rw [ofAst, if_pos unicode]⟩
  | perl span negated kind =>
    obtain ⟨set, made⟩ := ofPerl_of_unicode unicode span negated kind
    exact ⟨_, by rw [ofAst, made]; rfl⟩
  | bracketed span negated inner =>
    obtain ⟨ranges, made⟩ := ofClass_of_plain unicode inner plain
    obtain ⟨set, bracketed⟩ := ofBrackets_of_unicode unicode span negated ranges
    exact ⟨_, by rw [ofAst, made]; show (ofBrackets sw span negated ranges >>= _) = _; rw [bracketed]; rfl⟩
  | repetition span min max greedy inner =>
    obtain ⟨e, made⟩ := ofAst_of_plain unicode inner plain
    exact ⟨_, by rw [ofAst, made]; rfl⟩
  | group span kind inner =>
    cases kind with
    | capturing index name =>
      obtain ⟨e, made⟩ := ofAst_of_plain unicode inner plain
      exact ⟨_, by rw [ofAst, made]; rfl⟩
    | plain changes =>
      obtain ⟨rfl, plainInner⟩ := plain
      obtain ⟨e, made⟩ := ofAst_of_plain unicode inner plainInner
      have same : sw.change [] = sw := rfl
      exact ⟨e, by rw [ofAst, same, made]; rfl⟩
  | alternation span branches =>
    obtain ⟨es, made⟩ := ofAsts_of_plain unicode branches plain
    exact ⟨_, by rw [ofAst, made]; rfl⟩
  | concat span items =>
    obtain ⟨es, made⟩ := ofAsts_of_plain unicode items plain
    exact ⟨_, by rw [ofAst, made]; rfl⟩
  | _ => exact ⟨_, rfl⟩

theorem ofAsts_of_plain (unicode : sw.unicode = true) (items : List Ast) (plain : Ast.PlainAll items) :
    ∃ es, ofAsts sw items = .ok (es, sw) := by
  cases items with
  | nil => exact ⟨_, rfl⟩
  | cons a more =>
    obtain ⟨e, made⟩ := ofAst_of_plain unicode a plain.1
    obtain ⟨es, made'⟩ := ofAsts_of_plain unicode more plain.2
    exact ⟨_, by rw [ofAsts, made]; show (ofAsts sw more >>= _) = _; rw [made']; rfl⟩

end

end Expr

/-- A text with a plain structure is refused for its depth or not at all. -/
theorem parse_of_plain {t : Text} {a : Ast} (made : Ast.ofText t = .ok a) (plain : a.Plain) (nest : Nat) :
    OnlyTooDeep nest (parse nest {} t) := by
  have unicode : ({} : Switches).unicode = true := rfl
  obtain ⟨e, meaning⟩ := Expr.ofAst_of_plain unicode a plain
  unfold parse
  rw [made]
  refine (Ast.checkDepth_onlyTooDeep nest 0 a).bind fun _ => .inl ⟨e, ?_⟩
  rw [meaning]
  rfl

theorem ClassSet.plainAll_iff {items : List ClassSet} : ClassSet.PlainAll items ↔ ∀ s ∈ items, s.Plain := by
  induction items with
  | nil => simp [ClassSet.PlainAll]
  | cons s items ih => simp [ClassSet.PlainAll, ih]

theorem Ast.plainAll_iff {items : List Ast} : Ast.PlainAll items ↔ ∀ a ∈ items, a.Plain := by
  induction items with
  | nil => simp [Ast.PlainAll]
  | cons a items ih => simp [Ast.PlainAll, ih]

theorem Bracket.unionOf_plain {items : List ClassSet} (plain : ∀ s ∈ items, s.Plain) (start : Nat) :
    (unionOf start items).Plain := by
  rcases items with - | ⟨s, - | ⟨s', items⟩⟩
  · trivial
  · exact plain s (by simp)
  · have all : ClassSet.PlainAll (s :: s' :: items).reverse :=
      ClassSet.plainAll_iff.mpr fun x member => plain x (List.mem_reverse.mp member)
    obtain ⟨span, several⟩ := unionOf_several start s s' items
    rw [several]
    exact all

theorem SetItem.nodes_plain (items : List SetItem) (p : Nat) : ∀ s ∈ nodes p items, s.Plain := by
  induction items generalizing p with
  | nil => simp [nodes]
  | cons i items ih =>
    intro s member
    rcases List.mem_cons.mp member with rfl | member
    · cases i <;> trivial
    · exact ih _ s member

theorem Atom.node_plain (a : Atom) (p : Nat) : (a.node p).Plain := by
  cases a with
  | set negated items =>
    exact Bracket.unionOf_plain (fun s member => SetItem.nodes_plain items _ s (List.mem_reverse.mp member)) _
  | _ => trivial

/-! Properties of structures that what is composed has if its parts have them. -/

/-- Whether a property passes from parts to what tokens compose of them. -/
structure Ast.Composes (P : Ast → Prop) : Prop where
  empty (span : Span) : P (.empty span)
  concat (span : Span) {items : List Ast} (all : ∀ a ∈ items, P a) : P (.concat span items)
  alternation (span : Span) {branches : List Ast} (all : ∀ a ∈ branches, P a) : P (.alternation span branches)
  repetition_iff {span : Span} {min : Nat} {max : Option Nat} {greedy : Bool} {a : Ast} :
    P (.repetition span min max greedy a) ↔ P a
  group (s : Stage) (capturing : Bool) (span : Span) {a : Ast} (inner : P a) : P (.group span (s.groupKind capturing) a)

namespace Stage

variable {P : Ast → Prop} {s : Stage} {a : Ast}

/-- Whether everything read so far has a property. -/
structure All (P : Ast → Prop) (s : Stage) : Prop where
  items : ∀ a ∈ s.pending.items, P a
  branches : ∀ a ∈ s.pending.branches, P a

theorem All.before (groups : GroupTable) (pos : Nat) : (before groups pos).All P :=
  ⟨by simp [Stage.before, Ast.Pending.from_], by simp [Stage.before, Ast.Pending.from_]⟩

variable (composes : Ast.Composes P) (all : s.All P)
include composes all

private theorem All.ofItems (span : Span) : P (Ast.ofItems span s.pending.items) := by
  have items := all.items
  generalize s.pending.items = new at items ⊢
  rcases new with - | ⟨a, - | ⟨b, more⟩⟩
  · exact composes.empty span
  · exact items a List.mem_cons_self
  · exact composes.concat span fun x member => items x (List.mem_reverse.mp member)

theorem All.finish : P s.finish := by
  have last := all.ofItems composes ⟨s.pending.branchStart, s.pos⟩
  unfold Stage.finish Ast.Pending.finish
  dsimp only
  split
  · exact last
  · refine composes.alternation _ fun a member => ?_
    rcases List.mem_append.mp member with member | member
    · exact all.branches a (List.mem_reverse.mp member)
    · rw [List.mem_singleton.mp member]
      exact last

omit composes in
theorem All.push (new : P a) (width : Nat) : (s.push a width).All P :=
  ⟨List.forall_mem_cons.mpr ⟨new, all.items⟩, all.branches⟩

theorem All.endBranch : s.endBranch.All P :=
  ⟨fun a member => (by cases member), List.forall_mem_cons.mpr ⟨all.ofItems composes _, all.branches⟩⟩

theorem All.repeatLast (q : Quantifier) : (s.repeatLast q).All P := by
  unfold Stage.repeatLast
  split
  · exact all
  · rename_i a items last
    have parts := all.items
    rw [Repetition.operand?_eq_some last] at parts
    obtain ⟨first, rest⟩ := List.forall_mem_cons.mp parts
    exact ⟨List.forall_mem_cons.mpr ⟨composes.repetition_iff.mpr first, rest⟩, all.branches⟩

theorem All.relax : s.relax.All P := by
  unfold Stage.relax
  split
  · rename_i span min max greedy a items last
    have parts := all.items
    rw [last] at parts
    obtain ⟨first, rest⟩ := List.forall_mem_cons.mp parts
    have inner := composes.repetition_iff.mp first
    exact ⟨List.forall_mem_cons.mpr ⟨composes.repetition_iff.mpr inner, rest⟩, all.branches⟩
  · exact all

theorem All.leave (capturing : Bool) {inner : Stage} (within : inner.All P) : (s.leave capturing inner).All P :=
  ⟨List.forall_mem_cons.mpr ⟨composes.group s capturing _ (within.finish composes), all.items⟩, all.branches⟩

end Stage

namespace Token

mutual

/-- Whether all atoms of a token have a property. -/
def Every (Q : Atom → Prop) : Token → Prop
  | .atom a => Q a
  | .group _ body => EveryIn Q body
  | .bar | .suffix _ => True

def EveryIn (Q : Atom → Prop) : List Token → Prop
  | [] => True
  | t :: ts => Every Q t ∧ EveryIn Q ts

end

variable {P : Ast → Prop} {Q : Atom → Prop}

mutual

theorem every_of_forall (holds : ∀ a, Q a) (t : Token) : t.Every Q := by
  cases t with
  | atom a => exact holds a
  | group capturing body => exact everyIn_of_forall holds body
  | bar => trivial
  | suffix q => trivial

theorem everyIn_of_forall (holds : ∀ a, Q a) (ts : List Token) : EveryIn Q ts := by
  cases ts with
  | nil => trivial
  | cons t ts => exact ⟨every_of_forall holds t, everyIn_of_forall holds ts⟩

end

theorem everyIn_append {ts us : List Token} : EveryIn Q (ts ++ us) ↔ EveryIn Q ts ∧ EveryIn Q us := by
  induction ts with
  | nil => simp [EveryIn]
  | cons t ts ih => rw [List.cons_append, EveryIn, EveryIn, ih, and_assoc]

mutual

/-- What all atoms have, everything that is read has. -/
theorem feed_all (composes : Ast.Composes P) (atoms : ∀ a, Q a → ∀ p, P (a.node p)) (t : Token) (every : t.Every Q)
    {s : Stage} (all : s.All P) : (feed s t).All P := by
  cases t with
  | atom a => exact all.push (atoms a every s.pos) _
  | group capturing body => exact all.leave composes capturing (feedAll_all composes atoms body every (.before _ _))
  | bar => exact all.endBranch composes
  | suffix q =>
    rw [feed]
    split
    · exact all.relax composes
    · exact all.repeatLast composes q

theorem feedAll_all (composes : Ast.Composes P) (atoms : ∀ a, Q a → ∀ p, P (a.node p)) (ts : List Token)
    (every : EveryIn Q ts) {s : Stage} (all : s.All P) : (feedAll s ts).All P := by
  cases ts with
  | nil => exact all
  | cons t ts => exact feedAll_all composes atoms ts every.2 (feed_all composes atoms t every.1 all)

end

end Token

theorem Ast.plain_composes : Ast.Composes Ast.Plain where
  empty _ := trivial
  concat _ _ all := Ast.plainAll_iff.mpr all
  alternation _ _ all := Ast.plainAll_iff.mpr all
  repetition_iff := Iff.rfl
  group s capturing _ _ inner := by
    cases capturing with
    | true => exact inner
    | false => exact ⟨rfl, inner⟩

namespace Token

/-- The structure of tokens changes no option and asks for no property. -/
theorem feedAll_plain (ts : List Token) (s : Stage) (all : s.All Ast.Plain) : (feedAll s ts).finish.Plain := by
  have every : EveryIn (fun _ => True) ts := everyIn_of_forall (fun _ => trivial) ts
  exact (feedAll_all Ast.plain_composes (fun a _ p => a.node_plain p) ts every all).finish Ast.plain_composes

/-- The text of tokens that fit is refused for its depth or not at all. -/
theorem parse_textAll {ts : List Token} (fit : fitAll false ts = true) (nest : Nat) :
    OnlyTooDeep nest (parse nest {} (textAll ts)) :=
  parse_of_plain (ofText_textAll fit) (feedAll_plain ts _ (.before _ _)) nest

end Token

end PatternKit.Regex
