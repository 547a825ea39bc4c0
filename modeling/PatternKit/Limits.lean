import PatternKit.Text

/-!
Limits for compiling a pattern, and the policy against patterns that backtrack badly.
-/

set_option autoImplicit false

namespace PatternKit

/-- Which repetitions are refused. -/
inductive BacktrackPolicy where
  /-- Any two repetition markers on one line. -/
  | sequential
  /-- A repeated group whose body holds an unbounded repetition. -/
  | nested
  /-- None. -/
  | disabled
deriving DecidableEq, Repr

/-- What a pattern may cost, and the policy it has to satisfy. -/
structure Limits where
  /-- Bytes of the compiled program; ten mebibytes unless set. -/
  size : Nat := 0xa00000
  /-- Bytes of the cache of an automaton; two mebibytes unless set. -/
  dfaSize : Nat := 0x200000
  /-- Depth of nesting. -/
  nest : Nat := 250
  policy : BacktrackPolicy := .sequential
deriving DecidableEq, Repr

/-- A limit of zero, which no pattern meets. -/
inductive LimitError where
  | size (provided : Nat)
  | dfaSize (provided : Nat)
  | nest (provided : Nat)
deriving DecidableEq, Repr

namespace LimitError

/-- The error in words. -/
def message : LimitError → String
  | .size provided => "size_limit must be at least 1 byte (got " ++ toString provided ++ ")"
  | .dfaSize provided => "dfa_size_limit must be at least 1 byte (got " ++ toString provided ++ ")"
  | .nest provided => "nest_limit must be at least 1 (got " ++ toString provided ++ ")"

end LimitError

namespace Limits

/-- The first limit that is zero, if any. -/
def check (l : Limits) : Except LimitError Unit :=
  if l.size = 0 then .error (.size l.size)
  else if l.dfaSize = 0 then .error (.dfaSize l.dfaSize)
  else if l.nest = 0 then .error (.nest l.nest)
  else .ok ()

/-- One limit set anew. -/
inductive Setting where
  | size (value : Nat)
  | dfaSize (value : Nat)
  | nest (value : Nat)
  | policy (value : BacktrackPolicy)
deriving DecidableEq, Repr

/-- The limits with one of them set anew. -/
def set (l : Limits) : Setting → Limits
  | .size value => { l with size := value }
  | .dfaSize value => { l with dfaSize := value }
  | .nest value => { l with nest := value }
  | .policy value => { l with policy := value }

/-- The default limits with some of them set anew, the last setting of each counting, if none of them
is zero in the end. -/
def ofSettings (settings : List Setting) : Except LimitError Limits := do
  let l := settings.foldl set {}
  l.check
  return l

end Limits

end PatternKit
