import PatternKit.Limits
import PatternKit.Searcher
import PatternKit.Regex.Ast.Depth
import PatternKit.Regex.Ast.OfText
import PatternKit.Regex.Expr.OfAst
import PatternKit.Regex.Expr.Weight
import PatternKit.Regex.Run

/-!
From pattern text to a searcher. A text is refused for its grammar first, then for its depth, then for
what it means, and last for its size.
-/

set_option autoImplicit false

namespace PatternKit.Regex

/-- The expression of a pattern text. -/
def parse (nest : Nat) (sw : Switches) (text : Text) : Except Diagnosis Expr := do
  let ast ← Ast.ofText text
  ast.checkDepth nest 0
  let (e, _) ← Expr.ofAst sw ast
  return e

/-- What a thread that has accepted says about a match. -/
def matchOf (groups start : Nat) (t : Thread) : Match :=
  let group (i : Nat) : Option Span :=
    match t.saved.lookup (2 * i), t.saved.lookup (2 * i + 1) with
    | some a, some b => some ⟨a, b⟩
    | _, _ => none
  ⟨⟨start, t.cursor.offset⟩, (List.range groups).map fun i => group (i + 1)⟩

/-- The searcher for an expression. -/
def searcher (text : Text) (e : Expr) : Searcher :=
  let program := Program.ofExpr e
  let names := e.groupNames
  { text := text
    groupNames := names
    findAt := fun haystack offset =>
      (program.find? haystack offset).map fun (start, t) => matchOf names.length start t }

/-- The reason for refusing an expression that is too large. -/
def sizeMessage (limit : Nat) : String :=
  "Compiled regex exceeds size limit of " ++ toString limit ++ " bytes."

/-- The searcher for a pattern text, or the reason why there is none. -/
def build (limits : Limits) (sw : Switches) (text : Text) : Except String Searcher :=
  match parse limits.nest sw text with
  | .error d => .error (d.report text)
  | .ok e =>
    if limits.size < e.programWeight then .error (sizeMessage limits.size)
    else .ok (searcher text e)

end PatternKit.Regex
