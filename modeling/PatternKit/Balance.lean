import PatternKit.Text

/-!
Balance of parentheses and brackets in pattern text. A backslash takes the character after it out of
both counts.
-/

set_option autoImplicit false

namespace PatternKit.Balance

/-- Whether every group that is open, `depth` of them, and every later one is closed, and none is
closed that is not open. -/
def groupsClose (depth : Nat) : Text → Bool
  | [] => depth == 0
  | c :: cs =>
    if c = '\\' then
      match cs with
      | [] => depth == 0
      | _ :: rest => groupsClose depth rest
    else if c = '(' then groupsClose (depth + 1) cs
    else if c = ')' then
      match depth with
      | 0 => false
      | d + 1 => groupsClose d cs
    else groupsClose depth cs

/-- Balance of unescaped parentheses. -/
def parentheses (pattern : Text) : Bool := groupsClose 0 pattern

/-- Whether the set that may be open and every later one is closed. -/
def setsClose (inSet : Bool) : Text → Bool
  | [] => !inSet
  | c :: cs =>
    if c = '\\' then
      match cs with
      | [] => !inSet
      | _ :: rest => setsClose inSet rest
    else if c = '[' then setsClose true cs
    else if c = ']' then setsClose false cs
    else setsClose inSet cs

/-- Balance of unescaped brackets: every `[` that opens a set has a `]` after it. -/
def brackets (pattern : Text) : Bool := setsClose false pattern

end PatternKit.Balance
