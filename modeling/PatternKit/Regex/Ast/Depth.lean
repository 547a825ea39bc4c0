import PatternKit.Regex.Ast
import PatternKit.Regex.Diagnosis

/-!
The depth of nesting. Groups, sets, repetitions, alternations, sequences and operators on sets are one
level each; the first node, from left to right and from the outside in, that is too deep is reported.
-/

set_option autoImplicit false

namespace PatternKit.Regex

/-- Fails when a node below `depth` others is too deep. -/
def enterLevel (limit depth : Nat) (span : Span) : Except Diagnosis Unit :=
  if depth + 1 > limit then .error ⟨.nestLimitExceeded limit, span, none⟩ else .ok ()

mutual

/-- Checks what stands in a set, below `depth` nodes. -/
def ClassSet.checkDepth (limit depth : Nat) : ClassSet → Except Diagnosis Unit
  | .bracketed span _ inner => do
    enterLevel limit depth span
    inner.checkDepth limit (depth + 1)
  | .union span items => do
    enterLevel limit depth span
    ClassSet.checkDepths limit (depth + 1) items
  | .operation span _ lhs rhs => do
    enterLevel limit depth span
    lhs.checkDepth limit (depth + 1)
    rhs.checkDepth limit (depth + 1)
  | .empty _ | .literal _ | .range .. | .ascii .. | .property .. | .perl .. => .ok ()

/-- Checks the members of a set. -/
def ClassSet.checkDepths (limit depth : Nat) : List ClassSet → Except Diagnosis Unit
  | [] => .ok ()
  | s :: more => do
    s.checkDepth limit depth
    ClassSet.checkDepths limit depth more

end

mutual

/-- Checks a node below `depth` others. -/
def Ast.checkDepth (limit depth : Nat) : Ast → Except Diagnosis Unit
  | .bracketed span _ inner => do
    enterLevel limit depth span
    inner.checkDepth limit (depth + 1)
  | .repetition span _ _ _ inner | .group span _ inner => do
    enterLevel limit depth span
    inner.checkDepth limit (depth + 1)
  | .alternation span branches => do
    enterLevel limit depth span
    Ast.checkDepths limit (depth + 1) branches
  | .concat span items => do
    enterLevel limit depth span
    Ast.checkDepths limit (depth + 1) items
  | .empty _ | .flags .. | .literal _ | .dot _ | .assertion .. | .property .. | .perl .. => .ok ()

/-- Checks nodes next to each other. -/
def Ast.checkDepths (limit depth : Nat) : List Ast → Except Diagnosis Unit
  | [] => .ok ()
  | a :: more => do
    a.checkDepth limit depth
    Ast.checkDepths limit depth more

end

end PatternKit.Regex
