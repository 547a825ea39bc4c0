import PatternKit.CharSet
import PatternKit.Text

/-!
Regular expressions: what a pattern text means, in a normal form. Sequences are flat, hold no empty parts
and no two literals side by side; alternatives are flat, and alternatives that are single characters or
sets are one set; alternatives that begin with the same parts have these parts in front, once.
-/

set_option autoImplicit false

namespace PatternKit.Regex

/-- A condition on the place between two characters. -/
inductive Look where
  | start
  | stop
  | startLine
  | endLine
  | startLineCrlf
  | endLineCrlf
  | wordBoundary (ascii : Bool)
  | notWordBoundary (ascii : Bool)
  | wordStart (ascii : Bool)
  | wordEnd (ascii : Bool)
  | wordStartHalf (ascii : Bool)
  | wordEndHalf (ascii : Bool)
deriving DecidableEq, Repr

/-- A regular expression. A set tells whether it was written with Unicode off, when it holds ASCII characters
only: such a set is another expression than one with the same members that was written with Unicode on. -/
inductive Expr where
  | empty
  | literal (text : Text)
  | set (ascii : Bool) (set : CharSet)
  | look (look : Look)
  | repetition (min : Nat) (max : Option Nat) (greedy : Bool) (inner : Expr)
  | capture (index : Nat) (name : Option Text) (inner : Expr)
  | sequence (items : List Expr)
  | alternatives (branches : List Expr)

namespace Expr

mutual

/-- Equality of expressions. -/
def same : Expr → Expr → Bool
  | .empty, .empty => true
  | .literal s, .literal t => s == t
  | .set a s, .set b t => a == b && s == t
  | .look a, .look b => a == b
  | .repetition min max greedy e, .repetition min' max' greedy' f =>
    min == min' && max == max' && greedy == greedy' && same e f
  | .capture i n e, .capture j m f => i == j && n == m && same e f
  | .sequence es, .sequence fs => sameAll es fs
  | .alternatives es, .alternatives fs => sameAll es fs
  | _, _ => false

/-- Equality of lists of expressions. -/
def sameAll : List Expr → List Expr → Bool
  | [], [] => true
  | e :: es, f :: fs => same e f && sameAll es fs
  | _, _ => false

end

mutual

/-- Whether the expression matches nothing but the empty text. -/
def onlyEmpty : Expr → Bool
  | .empty | .look _ => true
  | .literal _ | .set _ _ => false
  | .repetition _ _ _ e | .capture _ _ e => onlyEmpty e
  | .sequence es | .alternatives es => allOnlyEmpty es

/-- Whether every expression of a list matches nothing but the empty text. -/
def allOnlyEmpty : List Expr → Bool
  | [] => true
  | e :: es => onlyEmpty e && allOnlyEmpty es

end

mutual

/-- Whether the expression may match the empty text. -/
def nullable : Expr → Bool
  | .empty | .look _ => true
  | .literal _ | .set _ _ => false
  | .repetition min _ _ e => min == 0 || nullable e
  | .capture _ _ e => nullable e
  | .sequence es => allNullable es
  | .alternatives es => anyNullable es

/-- Whether every expression of a list may match the empty text. -/
def allNullable : List Expr → Bool
  | [] => true
  | e :: es => nullable e && allNullable es

/-- Whether some expression of a list may match the empty text. -/
def anyNullable : List Expr → Bool
  | [] => false
  | e :: es => nullable e || anyNullable es

end

/-- What matches nothing at all. -/
def never : Expr := .set true .empty

/-- A set of characters; one character is a literal. -/
def ofSet (ascii : Bool) (s : CharSet) : Expr :=
  match s.only? with
  | some c => .literal [c]
  | none => if s.isEmpty then never else .set ascii s

/-- A repetition. What matches only the empty text is repeated once at most, and what is not repeated at
all is left out. -/
def repeated (min : Nat) (max : Option Nat) (greedy : Bool) (e : Expr) : Expr :=
  let bound : Nat × Option Nat :=
    if e.onlyEmpty then (Nat.min min 1, some ((max.map (Nat.min · 1)).getD 1)) else (min, max)
  if bound.2 = some 0 then .empty
  else if bound = (1, some 1) then e
  else .repetition bound.1 bound.2 greedy e

/-- The parts of an expression as a member of a sequence. -/
def parts : Expr → List Expr
  | .empty => []
  | .sequence es => es
  | e => [e]

/-- Puts a part in front of a sequence, and joins literals. -/
def consPart (e : Expr) (es : List Expr) : List Expr :=
  match e, es with
  | .literal s, .literal t :: rest => .literal (s ++ t) :: rest
  | e, es => e :: es

/-- A sequence of expressions. -/
def ofList (es : List Expr) : Expr :=
  match (es.flatMap parts).foldr consPart [] with
  | [] => .empty
  | [e] => e
  | es => .sequence es

/-- The branches of an expression as one of several alternatives. -/
def branches : Expr → List Expr
  | .alternatives es => es
  | e => [e]

/-- The character of an expression that is one. -/
def char? : Expr → Option Char
  | .literal [c] => some c
  | _ => none

/-- The set of an expression that is one. -/
def set? : Expr → Option CharSet
  | .set _ s => some s
  | _ => none

/-- Alternatives without regard to how they begin. The set of alternatives that are all characters or all sets
counts as written with Unicode on. -/
def oneOf (es : List Expr) : Expr :=
  match es.flatMap branches with
  | [] => never
  | [e] => e
  | es =>
    match es.mapM char? with
    | some cs => ofSet false (CharSet.normalize (cs.map fun c => ⟨c.toNat, c.toNat⟩))
    | none =>
      match es.mapM set? with
      | some sets => ofSet false (CharSet.normalize (sets.flatMap (·.ranges)))
      | none => .alternatives es

/-- The common beginning of two sequences. -/
def commonStart : List Expr → List Expr → List Expr
  | e :: es, f :: fs => if same e f then e :: commonStart es fs else []
  | _, _ => []

/-- The parts of an expression that is a sequence. -/
def sequence? : Expr → Option (List Expr)
  | .sequence es => some es
  | _ => none

/-- Alternatives; what all of them begin with is put in front of them. -/
def ofBranches (es : List Expr) : Expr :=
  match oneOf es with
  | .alternatives branches =>
    match branches.mapM sequence? with
    | some (first :: more) =>
      let start := more.foldl commonStart first
      if start.isEmpty then .alternatives branches
      else
        let rests := (first :: more).map fun parts => ofList (parts.drop start.length)
        ofList (start ++ [oneOf rests])
    | _ => .alternatives branches
  | e => e

end Expr

end PatternKit.Regex
