import Mathlib.Data.List.ModifyLast
import PatternKit.Proofs.RecipeTokens
import PatternKit.Proofs.WholeMatch

/-!
What a quantifier repeats. Its suffix stands right behind the text of the component, and in pattern text it repeats the
last item before it: all of a component that is a single item, but only the last character of a longer text, and only
the last of several branches.
-/

set_option autoImplicit false

namespace PatternKit

open Regex (Ast Atom Expr FullyMatches Repeats Stage Switches Token)

namespace Quantifier

/-- Whether a quantifier lets what it repeats stand a number of times. -/
def Allows (q : Quantifier) (n : Nat) : Prop := q.least ≤ n ∧ ∀ most ∈ q.greatest, n ≤ most

instance (q : Quantifier) (n : Nat) : Decidable (q.Allows n) := inferInstanceAs (Decidable (_ ∧ _))

theorem least_le_greatest (q : Quantifier) : ∀ most ∈ q.greatest, q.least ≤ most := by
  cases q with
  | between min max ordered =>
    rintro _ ⟨⟩
    exact ordered
  | _ => simp [least, greatest]

theorem allows_iff (q : Quantifier) (n : Nat) : Expr.Allows q.least q.greatest n ↔ q.Allows n := by
  refine and_congr_right fun _ => forall₂_congr fun most greatest => ?_
  have ordered := q.least_le_greatest most greatest
  omega

end Quantifier

namespace Regex

/-! The last item of a structure. -/

namespace Ast

/-- Whether a structure is an item that can be repeated as it stands. -/
def IsSingle : Ast → Prop
  | .empty _ | .flags .. | .concat .. | .alternation .. => False
  | .literal _ | .dot _ | .assertion .. | .property .. | .perl .. | .bracketed .. | .repetition .. | .group .. => True

/-- A structure with its last item repeated, of a text that ends at a place. In a sequence that is the last of its
items, among branches the last of them. -/
def lastRepeated (q : Quantifier) (stop : Nat) : Ast → Ast
  | .concat span items => .concat ⟨span.start, stop⟩ (items.modifyLast repeated)
  | .alternation span branches => .alternation ⟨span.start, stop⟩ (branches.modifyLast repeated)
  | a => repeated a
where
  /-- An item, repeated. -/
  repeated (a : Ast) : Ast := .repetition ⟨a.span.start, stop⟩ q.least q.greatest true a

variable {a : Ast} {q : Quantifier} {stop : Nat}

theorem lastRepeated_of_isSingle (single : a.IsSingle) :
    a.lastRepeated q stop = .repetition ⟨a.span.start, stop⟩ q.least q.greatest true a := by
  cases a with
  | empty | flags | concat | alternation => exact single.elim
  | _ => rfl

theorem operand?_of_isSingle (single : a.IsSingle) (items : List Ast) :
    Repetition.operand? (a :: items) = some (a, items) := by
  cases a with
  | empty | flags | concat | alternation => exact single.elim
  | _ => rfl

end Ast

namespace Stage

variable {s : Stage} {a : Ast} {items : List Ast} {q : Quantifier}

theorem repeatLast_pending (last : s.pending.items = a :: items) (single : a.IsSingle) :
    (s.repeatLast q).pending =
      { s.pending with
        items := .repetition ⟨a.span.start, s.pos + q.suffix.length⟩ q.least q.greatest true a :: items } := by
  rw [repeatLast, last, Ast.operand?_of_isSingle single]

theorem repeatLast_pos (last : s.pending.items = a :: items) (single : a.IsSingle) :
    (s.repeatLast q).pos = s.pos + q.suffix.length := by
  rw [repeatLast, last, Ast.operand?_of_isSingle single]

/-- Where there are no branches yet, or the last branch is one item, a suffix repeats the last item of the structure. -/
theorem finish_repeatLast (last : s.pending.items = a :: items) (single : a.IsSingle)
    (one : s.pending.branches = [] ∨ items = []) :
    (s.repeatLast q).finish = s.finish.lastRepeated q (s.pos + q.suffix.length) := by
  rw [finish, finish, repeatLast_pending last single, repeatLast_pos last single, Ast.Pending.finish,
    Ast.Pending.finish, last]
  cases branches : s.pending.branches with
  | nil =>
    cases items with
    | nil => exact (Ast.lastRepeated_of_isSingle single).symm
    | cons b more =>
      have changed := List.modifyLast_concat (Ast.lastRepeated.repeated q (s.pos + q.suffix.length)) a
        (b :: more).reverse
      rw [← List.reverse_cons] at changed
      show Ast.concat _ (_ :: b :: more).reverse = .concat _ _
      rw [changed, List.reverse_cons]
      rfl
  | cons b more =>
    obtain rfl : items = [] := one.resolve_left (by rw [branches]; exact List.cons_ne_nil b more)
    have changed := List.modifyLast_concat (Ast.lastRepeated.repeated q (s.pos + q.suffix.length)) a
      (b :: more).reverse
    show Ast.alternation _ _ = .alternation _ (List.modifyLast _ ((b :: more).reverse ++ [a]))
    rw [changed]
    rfl

end Stage

/-! What a structure with its last item repeated matches. -/

namespace Expr

variable {sw sw' sw'' : Switches} {items more : List Ast} {es fs : List Expr}

theorem ofAsts_append (first : ofAsts sw items = .ok (es, sw')) (rest : ofAsts sw' more = .ok (fs, sw'')) :
    ofAsts sw (items ++ more) = .ok (es ++ fs, sw'') := by
  induction items generalizing sw es with
  | nil =>
    cases first
    exact rest
  | cons a items ih =>
    obtain ⟨⟨e, sw⟩, made, first⟩ := bind_eq_ok first
    obtain ⟨⟨es, sw⟩, made', whole⟩ := bind_eq_ok first
    cases whole
    rw [List.cons_append, ofAsts, made]
    show (ofAsts _ (items ++ more) >>= _) = _
    rw [ih made']
    rfl

/-- Items make an expression that matches what they match one after the other. -/
theorem ofAst_ofItems (means : ofAsts sw items.reverse = .ok (es, sw)) (span : Span) :
    ∃ e, ofAst sw (Ast.ofItems span items) = .ok (e, sw) ∧ ∀ w, e.Matches w ↔ MatchesAll es w := by
  rcases items with - | ⟨a, - | ⟨b, more⟩⟩
  · cases means
    exact ⟨.empty, rfl, fun _ => Iff.rfl⟩
  · obtain ⟨⟨e, sw⟩, made, rest⟩ := bind_eq_ok means
    cases rest
    exact ⟨e, made, fun _ => matchesAll_singleton.symm⟩
  · refine ⟨ofList es, ?_, matches_ofList es⟩
    show (ofAsts sw (a :: b :: more).reverse >>= _) = _
    rw [means]
    rfl

end Expr

namespace Stage

variable {s : Stage} {a : Ast} {items : List Ast} {q : Quantifier} {sw : Switches} {es : List Expr} {e : Expr}

/-- Behind a suffix the last item is matched any allowed number of times, after all that stands before it. -/
theorem matches_repeatLast (last : s.pending.items = a :: items) (single : a.IsSingle) (flat : s.pending.branches = [])
    (front : Expr.ofAsts sw items.reverse = .ok (es, sw)) (operand : Expr.ofAst sw a = .ok (e, sw))
    (plain : e.Unconditional) :
    ∃ whole, Expr.ofAst sw (s.repeatLast q).finish = .ok (whole, sw) ∧
      ∀ h, whole.Matches h ↔ ∃ u w, h = u ++ w ∧ Expr.MatchesAll es u ∧ Repeats e.Matches q.Allows w := by
  let node : Ast := .repetition ⟨a.span.start, s.pos + q.suffix.length⟩ q.least q.greatest true a
  let rep : Expr := .repeated q.least q.greatest (true != sw.swapGreed) e
  have pending := repeatLast_pending (q := q) last single
  have means : Expr.ofAst sw node = .ok (rep, sw) := by
    rw [Expr.ofAst, operand]
    rfl
  have all : Expr.ofAsts sw (node :: items).reverse = .ok (es ++ [rep], sw) := by
    rw [List.reverse_cons]
    refine Expr.ofAsts_append front ?_
    rw [Expr.ofAsts, means]
    rfl
  obtain ⟨whole, made, matched⟩ := Expr.ofAst_ofItems all ⟨s.pending.branchStart, (s.repeatLast q).pos⟩
  refine ⟨whole, ?_, fun h => ?_⟩
  · rw [finish, Ast.Pending.finish, pending, flat]
    exact made
  · have repeats (w : Text) : Expr.MatchesAll [rep] w ↔ Repeats e.Matches q.Allows w := by
      rw [Expr.matchesAll_singleton, Expr.matches_repeated plain q.least_le_greatest]
      exact Repeats.congr (fun _ => Iff.rfl) q.allows_iff
    rw [matched, Expr.matchesAll_append]
    simp only [repeats]

end Stage

namespace Token

/-- Whether a token is an item by itself. -/
def IsItem : Token → Prop
  | .atom _ | .group .. => True
  | .bar | .suffix _ => False

variable {t : Token} {us : List Token} {q : Quantifier} {sw : Switches}

theorem feed_item (is : t.IsItem) (s : Stage) :
    ∃ a : Ast, (feed s t).pending = s.pending.push a ∧ (feed s t).greedy = false ∧ a.IsSingle := by
  cases t with
  | atom a =>
    refine ⟨a.node s.pos, rfl, rfl, ?_⟩
    cases a <;> trivial
  | group capturing body => exact ⟨_, rfl, rfl, trivial⟩
  | bar => exact is.elim
  | suffix q => exact is.elim

theorem feed_item_suffix (is : t.IsItem) (s : Stage) : feed (feed s t) (.suffix q) = (feed s t).repeatLast q := by
  obtain ⟨a, -, strict, -⟩ := feed_item is s
  rw [feed, strict]
  exact if_neg fun lazy => Bool.false_ne_true lazy.1

/-- An item with a suffix matches the whole of what falls into as many parts as allowed, each matched by the item. -/
theorem fullyMatches_item_suffix (is : t.IsItem) (whole : Whole [t]) (free : t.Every Atom.IsCharacter) (fits : q.Fits)
    (unicode : sw.unicode = true) (h : Text) :
    FullyMatches sw (textAll [t, .suffix q]) h ↔ Repeats (FullyMatches sw (textAll [t])) q.Allows h := by
  obtain ⟨a, pending, -, single⟩ := feed_item is (.before {} 0)
  have last : (feed (.before {} 0) t).pending.items = [a] := by rw [pending]; rfl
  have flat : (feed (.before {} 0) t).pending.branches = [] := by rw [pending]; rfl
  have alone : (feedAll (.before {} 0) [t]).finish = a := by
    show (feed (.before {} 0) t).finish = a
    rw [Stage.finish, pending]
    rfl
  have behind : feedAll (.before {} 0) [t, .suffix q] = (feed (.before {} 0) t).repeatLast q := feed_item_suffix is _
  have plain : a.Plain := alone ▸ feedAll_plain [t] _ (.before _ _)
  obtain ⟨e, operand⟩ := Expr.ofAst_of_plain unicode a plain
  have unconditional : e.Unconditional := .ofAst a (alone ▸ feedAll_unconditional ⟨free, trivial⟩) operand
  obtain ⟨e', means, matched⟩ := Stage.matches_repeatLast (q := q) last single flat rfl operand unconditional
  have each (u : Text) : e.Matches u ↔ FullyMatches sw (textAll [t]) u :=
    (fullyMatches_iff whole.fit ⟨free, trivial⟩ (by rw [alone]; exact operand) u).symm
  have suffixed : Whole [t, .suffix q] := whole.suffix (List.cons_ne_nil _ _) fits
  rw [fullyMatches_iff suffixed.fit ⟨free, trivial, trivial⟩ (by rw [behind]; exact means) h, matched]
  rw [← Repeats.congr each fun _ => Iff.rfl]
  constructor
  · rintro ⟨_, w, rfl, rfl, parts⟩
    exact parts
  · intro parts
    exact ⟨[], h, rfl, rfl, parts⟩

/-- The tokens of text that stands for itself. -/
def literals (v : Text) : List Token := v.map fun c => .atom (.literal c)

theorem literals_whole (v : Text) : Whole (literals v) := (Recipe.literals_spec v).2

theorem literals_free (v : Text) : EveryIn Atom.IsCharacter (literals v) := by
  induction v with
  | nil => trivial
  | cons c v ih => exact ⟨trivial, ih⟩

theorem literals_flat (v : Text) (s : Stage) : (feedAll s (literals v)).pending.branches = s.pending.branches := by
  induction v generalizing s with
  | nil => rfl
  | cons c v ih => exact ih _

/-- Characters with a suffix match what begins with all but the last of them, where the rest consists of the last of
them, as often as allowed. -/
theorem fullyMatches_literals_suffix (v : Text) (x : Char) (fits : q.Fits) (unicode : sw.unicode = true) (h : Text) :
    FullyMatches sw (textAll (literals (v ++ [x]) ++ [.suffix q])) h ↔
      ∃ u w, h = u ++ w ∧ FullyMatches sw (textAll (literals v)) u ∧
        Repeats (FullyMatches sw (textAll (literals [x]))) q.Allows w := by
  let s := feedAll (.before {} 0) (literals v)
  let a : Ast := (Atom.literal x).node s.pos
  have flat : s.pending.branches = [] := literals_flat v _
  have items : s.All Ast.Plain :=
    feedAll_all Ast.plain_composes (fun a _ p => a.node_plain p) (literals v) (literals_free v) (.before _ _)
  obtain ⟨es, front⟩ := Expr.ofAsts_of_plain unicode s.pending.items.reverse
    (Ast.plainAll_iff.mpr fun a member => items.items a (List.mem_reverse.mp member))
  obtain ⟨e, operand⟩ := Expr.ofAst_of_plain unicode a trivial
  have unconditional : e.Unconditional := .ofAst a trivial operand
  obtain ⟨e', means, matched⟩ :=
    Stage.matches_repeatLast (s := feed s (.atom (.literal x))) (q := q) rfl trivial flat front operand unconditional
  obtain ⟨e₀, before, begins⟩ := Expr.ofAst_ofItems front ⟨s.pending.branchStart, s.pos⟩
  have start (u : Text) : Expr.MatchesAll es u ↔ FullyMatches sw (textAll (literals v)) u := by
    refine (begins u).symm.trans (fullyMatches_iff (literals_whole v).fit (literals_free v) ?_ u).symm
    show Expr.ofAst sw (Ast.Pending.finish s.pending s.pos) = _
    rw [Ast.Pending.finish, flat]
    exact before
  have each (u : Text) : e.Matches u ↔ FullyMatches sw (textAll (literals [x])) u := by
    refine (fullyMatches_iff (literals_whole [x]).fit (literals_free [x]) ?_ u).symm
    -- the node stands elsewhere, but that makes no difference to its meaning
    have same : a.bare = ((Atom.literal x).node 0).bare := rfl
    rw [← Expr.ofAst_bare_eq_ok_iff, same] at operand
    exact Expr.ofAst_bare_eq_ok_iff.mp operand
  have behind : feedAll (.before {} 0) (literals (v ++ [x]) ++ [.suffix q]) =
      (feed s (.atom (.literal x))).repeatLast q := by
    rw [literals, List.map_append, feedAll_append, feedAll_append]
    exact feed_item_suffix (t := .atom (.literal x)) trivial s
  have some : literals (v ++ [x]) ≠ [] := by simp [literals]
  have suffixed := (literals_whole (v ++ [x])).suffix some fits
  have noAtom : EveryIn Atom.IsCharacter [.suffix q] := ⟨trivial, trivial⟩
  have free := everyIn_append.mpr ⟨literals_free (v ++ [x]), noAtom⟩
  rw [fullyMatches_iff suffixed.fit free (by rw [behind]; exact means) h, matched]
  simp only [start, Repeats.congr each fun _ => Iff.rfl]

end Token

end Regex

namespace Recipe

open Regex.Token (EveryIn everyIn_append feedAll feedAll_append)

mutual

/-- Whether a recipe uses no text that is taken as it stands. The fragments for common formats are such text. -/
def WithoutRaw : Recipe → Prop
  | .raw _ | .common _ => False
  | .literal _ | .shorthand _ | .set .. | .range .. => True
  | .group children _ => WithoutRawAll children
  | .alternatives branches => WithoutRawBranches branches
  | .quantified inner _ => WithoutRaw inner

def WithoutRawAll : List Recipe → Prop
  | [] => True
  | r :: rs => WithoutRaw r ∧ WithoutRawAll rs

def WithoutRawBranches : List (List Recipe) → Prop
  | [] => True
  | rs :: more => WithoutRawAll rs ∧ WithoutRawBranches more

end

/-- Whether what a recipe makes is a single item of pattern text. -/
def IsItem : Recipe → Prop
  | .shorthand _ | .set .. | .range .. | .group .. => True
  | .literal value => value.length = 1
  | .alternatives branches => branches.length = 1
  | .raw _ | .common _ | .quantified .. => False

mutual

/-- Without raw text no token is an assertion. -/
theorem tokens_free (r : Recipe) (own : r.WithoutRaw) : EveryIn Atom.IsCharacter r.tokens := by
  cases r with
  | raw fragment => exact own.elim
  | common format => exact own.elim
  | literal value => exact Token.literals_free value
  | shorthand class_ => exact ⟨by cases class_ <;> trivial, trivial⟩
  | set chars negated => exact ⟨trivial, trivial⟩
  | range lo hi => exact ⟨trivial, trivial⟩
  | group children capturing => exact ⟨tokensAll_free children own, trivial⟩
  | alternatives branches => exact tokensBranches_free branches own
  | quantified inner request =>
    rw [tokens]
    split
    · exact everyIn_append.mpr ⟨tokens_free inner own, trivial, trivial⟩
    · trivial

theorem tokensAll_free (rs : List Recipe) (own : WithoutRawAll rs) : EveryIn Atom.IsCharacter (tokensAll rs) := by
  cases rs with
  | nil => trivial
  | cons r rs => exact everyIn_append.mpr ⟨tokens_free r own.1, tokensAll_free rs own.2⟩

private theorem tokensBranches_free (branches : List (List Recipe)) (own : WithoutRawBranches branches) :
    EveryIn Atom.IsCharacter (tokensBranches branches) := by
  cases branches with
  | nil => trivial
  | cons rs more => exact ⟨tokensAll_free rs own.1, tokensFurther_free more own.2⟩

private theorem tokensFurther_free (branches : List (List Recipe)) (own : WithoutRawBranches branches) :
    EveryIn Atom.IsCharacter (tokensFurther branches) := by
  cases branches with
  | nil => trivial
  | cons rs more => exact ⟨trivial, tokensAll_free rs own.1, tokensFurther_free more own.2⟩

end

variable {r : Recipe}

theorem tokens_of_isItem (is : r.IsItem) : ∃ t : Token, r.tokens = [t] ∧ t.IsItem := by
  cases r with
  | raw fragment => exact is.elim
  | common format => exact is.elim
  | quantified inner request => exact is.elim
  | literal value =>
    obtain ⟨x, rfl⟩ := List.length_eq_one_iff.mp is
    exact ⟨_, rfl, trivial⟩
  | alternatives branches =>
    obtain ⟨rs, rfl⟩ := List.length_eq_one_iff.mp is
    exact ⟨_, rfl, trivial⟩
  | shorthand class_ => exact ⟨_, rfl, trivial⟩
  | set chars negated => exact ⟨_, rfl, trivial⟩
  | range lo hi => exact ⟨_, rfl, trivial⟩
  | group children capturing => exact ⟨_, rfl, trivial⟩

private theorem tokensFurther_concat (branches : List (List Recipe)) (rs : List Recipe) :
    tokensFurther (branches ++ [rs]) = tokensFurther branches ++ [.bar, .group false (tokensAll rs)] := by
  induction branches with
  | nil => rfl
  | cons first branches ih => rw [List.cons_append, tokensFurther, tokensFurther, ih]; rfl

/-- What is not quantified ends with an item, and stands in one branch, or else the item is all of the last branch. -/
theorem tokens_eq_concat (own : r.WithoutRaw) (once : ∀ inner request, r ≠ .quantified inner request)
    (some : r.tokens ≠ []) :
    ∃ us, ∃ t : Token, r.tokens = us ++ [t] ∧ t.IsItem ∧
      ((feedAll (.before {} 0) us).pending.branches = [] ∨ (feedAll (.before {} 0) us).pending.items = []) := by
  cases r with
  | raw fragment => exact own.elim
  | common format => exact own.elim
  | quantified inner request => exact absurd rfl (once inner request)
  | literal value =>
    rcases value.eq_nil_or_concat with rfl | ⟨v, x, rfl⟩
    · exact absurd rfl some
    · refine ⟨Token.literals v, .atom (.literal x), ?_, trivial, .inl (Token.literals_flat v _)⟩
      rw [tokens, List.concat_eq_append, List.map_append]
      rfl
  | alternatives branches =>
    rcases branches.eq_nil_or_concat with rfl | ⟨front, rs, rfl⟩
    · exact absurd rfl some
    · cases front with
      | nil => exact ⟨[], _, rfl, trivial, .inl rfl⟩
      | cons first more =>
        refine ⟨tokensBranches (first :: more) ++ [.bar], .group false (tokensAll rs), ?_, trivial, .inr ?_⟩
        · rw [tokens, List.concat_eq_append, List.cons_append, tokensBranches, tokensBranches, tokensFurther_concat]
          simp
        · rw [feedAll_append]
          rfl
  | shorthand class_ => exact ⟨[], _, rfl, trivial, .inl rfl⟩
  | set chars negated => exact ⟨[], _, rfl, trivial, .inl rfl⟩
  | range lo hi => exact ⟨[], _, rfl, trivial, .inl rfl⟩
  | group children capturing => exact ⟨[], _, rfl, trivial, .inl rfl⟩

end Recipe

namespace Component

variable {r : Recipe} {c : Component} {q : Quantifier}

/-- A suffix by itself repeats nothing. -/
private theorem ofText_suffix (q : Quantifier) : Ast.ofText q.suffix = .error ⟨.repetitionMissing, ⟨0, 0⟩, none⟩ := by
  cases q <;> rfl

private theorem render_quantified (clean : r.Clean) (made : r.build = .ok c) :
    (quantified c q).render = Token.textAll (r.tokens ++ [.suffix q]) := by
  simp [render, (Recipe.tokens_spec r clean made).1, Token.textAll, Token.text]

/-- The structures of a component that ends with an item, without and with a suffix. -/
private theorem ofText_concat (clean : r.Clean) (made : r.build = .ok c) (fits : q.Fits) {us : List Token} {t : Token}
    (tokens : r.tokens = us ++ [t]) (is : t.IsItem) :
    let s := Token.feed (Token.feedAll (.before {} 0) us) t
    Ast.ofText c.render = .ok s.finish ∧ Ast.ofText (quantified c q).render = .ok (s.repeatLast q).finish := by
  obtain ⟨text, whole⟩ := Recipe.tokens_spec r clean made
  have some : r.tokens ≠ [] := by rw [tokens]; simp
  constructor
  · rw [← text, Token.ofText_textAll whole.fit, tokens, Token.feedAll_append]
    rfl
  · rw [render_quantified clean made, Token.ofText_textAll (whole.suffix some fits).fit, tokens, Token.feedAll_append,
      Token.feedAll_append]
    show Except.ok (Token.feed (Token.feed _ t) (.suffix q)).finish = _
    rw [Token.feed_item_suffix is]

/-- The suffix of a quantifier repeats the last item of the structure of the component. -/
theorem ofText_quantified (own : r.WithoutRaw) (clean : r.Clean) (once : ∀ inner request, r ≠ .quantified inner request)
    (made : r.build = .ok c) (fits : q.Fits) (some : c.render ≠ []) :
    ∃ a stop, Ast.ofText c.render = .ok a ∧ Ast.ofText (quantified c q).render = .ok (a.lastRepeated q stop) := by
  have nonempty : r.tokens ≠ [] := fun none => some (by rw [← (Recipe.tokens_spec r clean made).1, none]; rfl)
  obtain ⟨us, t, tokens, is, one⟩ := Recipe.tokens_eq_concat own once nonempty
  let s := Token.feedAll (.before {} 0) us
  obtain ⟨a, pending, -, single⟩ := Token.feed_item is s
  have last : (Token.feed s t).pending.items = a :: s.pending.items := by rw [pending]; rfl
  obtain ⟨alone, suffixed⟩ := ofText_concat clean made fits tokens is
  rw [Stage.finish_repeatLast last single (by rw [pending]; exact one)] at suffixed
  exact ⟨_, _, alone, suffixed⟩

/-- A single item is repeated as a whole. -/
theorem ofText_quantified_item (is : r.IsItem) (clean : r.Clean) (made : r.build = .ok c) (fits : q.Fits) :
    ∃ a span, Ast.ofText c.render = .ok a ∧
      Ast.ofText (quantified c q).render = .ok (.repetition span q.least q.greatest true a) := by
  obtain ⟨t, tokens, item⟩ := Recipe.tokens_of_isItem is
  obtain ⟨a, pending, -, single⟩ := Token.feed_item item (.before {} 0)
  have last : (Token.feed (.before {} 0) t).pending.items = [a] := by rw [pending]; rfl
  have whole : (Token.feed (.before {} 0) t).finish = a := by
    rw [Stage.finish, pending]
    rfl
  have front : r.tokens = [] ++ [t] := tokens
  obtain ⟨alone, suffixed⟩ := ofText_concat clean made fits front item
  rw [Token.feedAll] at alone suffixed
  rw [Stage.finish_repeatLast last single (.inr rfl), whole, Ast.lastRepeated_of_isSingle single] at suffixed
  rw [whole] at alone
  exact ⟨a, _, alone, suffixed⟩

/-- What a quantifier repeats of a component that is made without raw text, is not itself quantified, and whose parts
are in order. If the component has no text, there is nothing to repeat. If it has one, the suffix repeats the last item
of its structure. If it is a single item, this is all of the component: its text with the suffix is read as one
repetition of its own structure with the bounds of the quantifier, and matches the whole of what falls into as many
parts as the quantifier allows, each of which the component matches. Of text that stands for itself the last character
is repeated. -/
theorem quantifier_repeats_last_item (own : r.WithoutRaw) (clean : r.Clean)
    (once : ∀ inner request, r ≠ .quantified inner request) (made : r.build = .ok c) (fits : q.Fits) :
    (c.render = [] → Ast.ofText (quantified c q).render = .error ⟨.repetitionMissing, ⟨0, 0⟩, none⟩) ∧
    (c.render ≠ [] → ∃ a stop, Ast.ofText c.render = .ok a ∧
      Ast.ofText (quantified c q).render = .ok (a.lastRepeated q stop)) ∧
    (r.IsItem →
      (∃ a span, Ast.ofText c.render = .ok a ∧
        Ast.ofText (quantified c q).render = .ok (.repetition span q.least q.greatest true a)) ∧
      ∀ sw : Switches, sw.unicode = true → ∀ h,
        FullyMatches sw (quantified c q).render h ↔ Repeats (FullyMatches sw c.render) q.Allows h) ∧
    ∀ v x, r = .literal (v ++ [x]) → ∀ sw : Switches, sw.unicode = true → ∀ h,
      FullyMatches sw (quantified c q).render h ↔ ∃ u w, h = u ++ w ∧ FullyMatches sw (literal v).render u ∧
        Repeats (FullyMatches sw (literal [x]).render) q.Allows w := by
  obtain ⟨text, whole⟩ := Recipe.tokens_spec r clean made
  refine ⟨fun none => ?_, ofText_quantified own clean once made fits,
    fun is => ⟨ofText_quantified_item is clean made fits, fun sw unicode h => ?_⟩, ?_⟩
  · rw [render, none]
    exact ofText_suffix q
  · obtain ⟨t, tokens, item⟩ := Recipe.tokens_of_isItem is
    have free := Recipe.tokens_free r own
    rw [render_quantified clean made, ← text]
    rw [tokens] at whole free ⊢
    exact Token.fullyMatches_item_suffix item whole free.1 fits unicode h
  · rintro v x rfl sw unicode h
    rw [render_quantified clean made]
    have texts (v : Text) : (literal v).render = Token.textAll (Token.literals v) := (Recipe.literals_spec v).1.symm
    rw [texts, texts]
    exact Token.fullyMatches_literals_suffix v x fits unicode h

/-- A group of a letter and two branches, with a repetition in one of them. -/
def lettersAndDigits : Recipe :=
  .group [.literal ['a'], .alternatives [[.quantified (.shorthand .digit) .oneOrMore], [.range 'x' 'z']]] true

theorem lettersAndDigits_repeats :
    lettersAndDigits.WithoutRaw ∧ lettersAndDigits.Clean ∧ lettersAndDigits.IsItem ∧
      (∀ inner request, lettersAndDigits ≠ .quantified inner request) ∧ (Quantifier.between 2 3 (by decide)).Fits ∧
      ∃ c, lettersAndDigits.build = .ok c ∧ ∀ h,
        FullyMatches {} (quantified c (.between 2 3 (by decide))).render h ↔
          Repeats (FullyMatches {} c.render) (Quantifier.between 2 3 (by decide)).Allows h := by
  have own : lettersAndDigits.WithoutRaw := by simp [lettersAndDigits, Recipe.WithoutRaw, Recipe.WithoutRawAll,
    Recipe.WithoutRawBranches]
  have clean : lettersAndDigits.Clean := by
    refine ⟨trivial, ⟨⟨⟨trivial, trivial, ?_⟩, trivial⟩, ⟨(by decide : 'x' ≤ 'z'), trivial⟩, trivial⟩, trivial⟩
    intro c made
    cases made
    decide
  have once (inner : Recipe) (request : Quantifier.Request) : lettersAndDigits ≠ .quantified inner request := by
    intro same
    cases same
  have fits : (Quantifier.between 2 3 (by decide)).Fits := by decide
  obtain ⟨c, made⟩ : ∃ c, lettersAndDigits.build = .ok c := ⟨_, rfl⟩
  obtain ⟨-, -, item, -⟩ := quantifier_repeats_last_item own clean once made fits
  exact ⟨own, clean, trivial, once, fits, c, made, (item trivial).2 {} rfl⟩

/-- A group of a mark with nothing before it to be optional, and a letter: the text of an option. -/
def optionGroup : Recipe := .group [.quantified (.literal []) .optional, .literal ['i']] true

/-- Text of two characters is not repeated as a whole: with a suffix for two it is not one repetition of what it is
without, and does not match the text twice. And where nothing is repeated in a group, the group can be one that no
suffix can stand behind. -/
theorem quantifier_does_not_repeat_all :
    (Recipe.literal ['a', 'b']).WithoutRaw ∧ (Recipe.literal ['a', 'b']).build = .ok (literal ['a', 'b']) ∧
      (∀ a span, Ast.ofText (literal ['a', 'b']).render = .ok a →
        Ast.ofText (quantified (literal ['a', 'b']) (.exactly 2)).render ≠ .ok (.repetition span 2 (some 2) true a)) ∧
      Repeats (FullyMatches {} (literal ['a', 'b']).render) (Quantifier.exactly 2).Allows ['a', 'b', 'a', 'b'] ∧
      ¬ FullyMatches {} (quantified (literal ['a', 'b']) (.exactly 2)).render ['a', 'b', 'a', 'b'] ∧
      optionGroup.WithoutRaw ∧
      ∃ c a, optionGroup.build = .ok c ∧ Ast.ofText c.render = .ok a ∧
        ∀ a', Ast.ofText (quantified c (.exactly 2)).render ≠ .ok a' := by
  have texts (v : Text) : (literal v).render = Token.textAll (Token.literals v) := (Recipe.literals_spec v).1.symm
  have one (x : Char) (means : Expr.ofAst {} ((Atom.literal x).node 0) = .ok (.literal [x], {})) (h : Text) :
      FullyMatches {} (Token.textAll (Token.literals [x])) h ↔ h = [x] :=
    Token.fullyMatches_iff (Token.literals_whole [x]).fit (Token.literals_free [x]) means h
  have both (h : Text) : FullyMatches {} (Token.textAll (Token.literals ['a', 'b'])) h ↔ h = ['a', 'b'] :=
    Token.fullyMatches_iff (e := .literal ['a', 'b']) (Token.literals_whole _).fit (Token.literals_free _) rfl h
  refine ⟨trivial, rfl, fun a span _ same => ?_, ⟨[['a', 'b'], ['a', 'b']], by decide, rfl, ?_⟩, fun twice => ?_,
    ⟨⟨trivial, trivial, trivial⟩, ?_⟩⟩
  · cases same
  · intro u member
    have letters : u = ['a', 'b'] := by simpa using member
    rw [texts, both]
    exact letters
  · have read : (quantified (literal ['a', 'b']) (.exactly 2)).render =
        Token.textAll (Token.literals (['a'] ++ ['b']) ++ [.suffix (.exactly 2)]) := rfl
    rw [read, Token.fullyMatches_literals_suffix ['a'] 'b' (by decide) rfl] at twice
    obtain ⟨u, w, split, first, parts, -, rest, last⟩ := twice
    obtain rfl := (one 'a' rfl u).mp first
    obtain rfl : ['b', 'a', 'b'] = w := List.cons.inj split |>.2
    have member : 'a' ∈ parts.flatten := by rw [← rest]; decide
    obtain ⟨part, there, inside⟩ := List.mem_flatten.mp member
    rw [(one 'b' rfl part).mp (last part there)] at inside
    exact absurd inside (by decide)
  · exact ⟨_, _, rfl, rfl, fun a' same => by cases same⟩

end Component

end PatternKit
