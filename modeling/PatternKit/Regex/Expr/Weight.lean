import PatternKit.Regex.Expr

/-!
The size of compiled expressions in bytes, as it is compared with the limit before anything is compiled.
Counts multiply, so that a great count shows without being unrolled.
-/

set_option autoImplicit false

namespace PatternKit.Regex.Expr

/-- Bytes of a state. -/
def stateWeight : Nat := 32

/-- Bytes of a set. An interval beyond ASCII takes several states, as its characters have several bytes. -/
def setWeight (s : CharSet) : Nat :=
  s.ranges.foldl (fun n r => n + (if r.hi < 0x80 then 8 else 2 * stateWeight)) stateWeight

mutual

/-- Bytes of an expression. -/
def weight : Expr → Nat
  | .empty | .look _ => stateWeight
  | .literal text => stateWeight * text.byteSize
  | .set _ s => setWeight s
  | .capture _ _ e => 2 * stateWeight + weight e
  | .sequence es => weights es
  | .alternatives es => stateWeight + weights es
  | .repetition min max _ e =>
    match max with
    | some max => min * weight e + (max - min) * (stateWeight + weight e)
    | none => Nat.max min 1 * weight e + stateWeight

/-- Bytes of the expressions of a list. -/
def weights : List Expr → Nat
  | [] => 0
  | e :: es => weight e + weights es

end

/-- Bytes of the program of an expression, with what every program has. A literal needs no program. -/
def programWeight (e : Expr) : Nat :=
  match e with
  | .literal _ => 0
  | e => 6 * stateWeight + weight e

mutual

/-- The numbers and names of the groups of an expression. -/
def captures : Expr → List (Nat × Option Text)
  | .empty | .look _ | .literal _ | .set _ _ => []
  | .capture index name e => (index, name) :: captures e
  | .sequence es | .alternatives es => capturesAll es
  | .repetition _ _ _ e => captures e

/-- The numbers and names of the groups of the expressions of a list. -/
def capturesAll : List Expr → List (Nat × Option Text)
  | [] => []
  | e :: es => captures e ++ capturesAll es

end

/-- The names of the groups from one up to the last one there is. -/
def groupNames (e : Expr) : List (Option Text) :=
  let groups := e.captures
  let last := groups.foldl (fun n g => Nat.max n g.1) 0
  (List.range last).map fun i => (groups.lookup (i + 1)).join

end PatternKit.Regex.Expr
