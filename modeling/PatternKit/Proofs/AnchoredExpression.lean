import PatternKit.Proofs.AnchoredRun
import PatternKit.Regex.Engine

/-!
Expressions behind an anchor. The normal form of a sequence has the code and the groups of its parts; so a sequence of
an anchor and an expression has the program of the expression behind the anchor, and finds what the expression finds at
the beginning of a text.
-/

set_option autoImplicit false

namespace PatternKit.Regex

namespace Expr

/-! The normal form of a sequence. -/

/-- The code of expressions and of others behind them. -/
theorem codes_append (base : Nat) (es fs : List Expr) :
    codes base (es ++ fs) = codes base es ++ codes (base + codeSizes es) fs := by
  induction es generalizing base with
  | nil => rfl
  | cons e es ih => rw [List.cons_append, codes, ih, codes, codeSizes, List.append_assoc, Nat.add_assoc]

private theorem codes_consPart (base : Nat) (e : Expr) (es : List Expr) :
    codes base (consPart e es) = codes base (e :: es) := by
  unfold consPart
  split
  · rename_i s t rest
    simp only [codes, code, codeSize, List.map_append, List.length_append, List.append_assoc, Nat.add_assoc]
  · rfl

private theorem codes_foldr_consPart (base : Nat) (es : List Expr) :
    codes base (es.foldr consPart []) = codes base es := by
  induction es generalizing base with
  | nil => rfl
  | cons e es ih => rw [List.foldr_cons, codes_consPart, codes, codes, ih]

private theorem codes_parts (base : Nat) (e : Expr) (es : List Expr) :
    codes base (parts e ++ es) = codes base (e :: es) := by
  cases e with
  | empty => rfl
  | sequence items => exact codes_append base items es
  | _ => rfl

private theorem codes_flatMap_parts (base : Nat) (es : List Expr) : codes base (es.flatMap parts) = codes base es := by
  induction es generalizing base with
  | nil => rfl
  | cons e es ih => rw [List.flatMap_cons, codes_parts, codes, codes, ih]

/-- The code of a sequence is that of its parts, one after the other. -/
theorem code_ofList (base : Nat) (es : List Expr) : code base (ofList es) = codes base es := by
  rw [← codes_flatMap_parts, ← codes_foldr_consPart]
  unfold ofList
  split
  · rename_i none
    rw [none]
    rfl
  · rename_i e one
    rw [one]
    exact (List.append_nil _).symm
  · rfl

private theorem capturesAll_append (es fs : List Expr) : capturesAll (es ++ fs) = capturesAll es ++ capturesAll fs := by
  induction es with
  | nil => rfl
  | cons e es ih => rw [List.cons_append, capturesAll, capturesAll, ih, List.append_assoc]

private theorem capturesAll_foldr_consPart (es : List Expr) : capturesAll (es.foldr consPart []) = capturesAll es := by
  induction es with
  | nil => rfl
  | cons e es ih =>
    have joined (fs : List Expr) : capturesAll (consPart e fs) = captures e ++ capturesAll fs := by
      unfold consPart
      split <;> rfl
    rw [List.foldr_cons, joined, ih, capturesAll]

private theorem capturesAll_flatMap_parts (es : List Expr) : capturesAll (es.flatMap parts) = capturesAll es := by
  induction es with
  | nil => rfl
  | cons e es ih =>
    have own : capturesAll (parts e) = captures e := by
      cases e <;> simp [parts, capturesAll, captures]
    rw [List.flatMap_cons, capturesAll_append, own, ih, capturesAll]

/-- The groups of a sequence are those of its parts. -/
theorem captures_ofList (es : List Expr) : captures (ofList es) = capturesAll es := by
  rw [← capturesAll_flatMap_parts, ← capturesAll_foldr_consPart]
  unfold ofList
  split
  · rename_i none
    rw [none]
    rfl
  · rename_i e one
    rw [one]
    exact (List.append_nil _).symm
  · rfl

/-- An expression behind an anchor. -/
def anchored (e : Expr) : Expr := ofList [.look .start, e]

theorem groupNames_anchored (e : Expr) : e.anchored.groupNames = e.groupNames := by
  have same : e.anchored.captures = e.captures := by
    rw [anchored, captures_ofList]
    exact List.append_nil _
  rw [groupNames, groupNames, same]

end Expr

namespace Program

theorem ofExpr_anchored (e : Expr) : ofExpr e.anchored = (ofExpr e).anchored := by
  have code : e.anchored.code 0 = .look .start :: (e.code 0).map (.shift 1) := by
    rw [Expr.anchored, Expr.code_ofList, ← (Expr.code_isBlock e).shift 0 1]
    exact congrArg (Instruction.look .start :: ·) (List.append_nil _)
  simp only [ofExpr, anchored, code]

theorem ofExpr_closed (e : Expr) : (ofExpr e).Closed := by
  intro i member
  have block := Expr.code_isBlock e
  have inside : i ∈ e.code 0 := List.mem_toArray.mp member
  have within := block.within 0 i inside
  rw [Nat.zero_add, ← block.length 0] at within
  exact within

end Program

end PatternKit.Regex

namespace PatternKit

/-- Whether a searcher finds in every text what another one finds at its beginning, and calls the groups the same. -/
structure Searcher.Anchors (anchored s : Searcher) : Prop where
  groupNames : anchored.groupNames = s.groupNames
  findAt (h : Text) : anchored.findAt h 0 = (s.findAt h 0).filter fun m => m.whole.start == 0

/-- A searcher for an expression behind an anchor finds what the searcher for the expression finds at the beginning. -/
theorem Regex.searcher_anchored (text text' : Text) (e : Expr) :
    (searcher text' e.anchored).Anchors (searcher text e) where
  groupNames := e.groupNames_anchored
  findAt h := by
    show ((Program.ofExpr e.anchored).find? h 0).map _ = Option.filter _ (((Program.ofExpr e).find? h 0).map _)
    rw [Program.ofExpr_anchored, Program.find?_anchored (Program.ofExpr_closed e), Expr.groupNames_anchored]
    cases (Program.ofExpr e).find? h 0 with
    | none => rfl
    | some found =>
      obtain ⟨start, t⟩ := found
      by_cases first : (start == 0) = true
      · simp [Option.filter, first, matchOf, Thread.raise]
      · simp [Option.filter, first, matchOf]

end PatternKit
