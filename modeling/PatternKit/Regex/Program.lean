import PatternKit.Regex.Expr

/-!
Programs for a matching machine. The code of an expression is a block: a run that enters at its first
address and matches leaves at the address behind its last. Where a run may go on at two places, a `split`
names the preferred one first.
-/

set_option autoImplicit false

namespace PatternKit.Regex

/-- An instruction. -/
inductive Instruction where
  /-- Reads the given character. -/
  | char (c : Char)
  /-- Reads a character of a set. -/
  | set (set : CharSet)
  /-- Goes on where a condition holds. -/
  | look (look : Look)
  /-- Notes the current offset. -/
  | save (slot : Nat)
  /-- Goes on at the first address, or else at the second. -/
  | split (first second : Nat)
  /-- Goes on at an address. -/
  | jump (target : Nat)
deriving DecidableEq, Repr

namespace Expr

mutual

/-- The number of instructions of an expression. -/
def codeSize : Expr → Nat
  | .empty => 0
  | .literal text => text.length
  | .set _ _ | .look _ => 1
  | .capture _ _ e => codeSize e + 2
  | .sequence es => codeSizes es
  | .alternatives es => branchSizes es
  | .repetition min max _ e =>
    match max with
    | some max => min * codeSize e + (max - min) * (codeSize e + 1)
    | none => if min = 0 then codeSize e + 2 else min * codeSize e + 1

/-- The number of instructions of a sequence. -/
def codeSizes : List Expr → Nat
  | [] => 0
  | e :: es => codeSize e + codeSizes es

/-- The number of instructions of alternatives. -/
def branchSizes : List Expr → Nat
  | [] => 0
  | [e] => codeSize e
  | e :: es => codeSize e + 2 + branchSizes es

end

/-- A split that prefers to go into a repetition if it is greedy, and out of it if it is lazy. -/
def fork (greedy : Bool) (into out : Nat) : Instruction :=
  if greedy then .split into out else .split out into

/-- `n` blocks one after the other; `size` is the size of a block. -/
def copies (block : Nat → List Instruction) (size : Nat) : Nat → Nat → List Instruction
  | 0, _ => []
  | n + 1, base => block base ++ copies block size n (base + size)

/-- `n` blocks one after the other, before each of which the run may leave for `stop`. -/
def optionals (block : Nat → List Instruction) (size : Nat) (greedy : Bool) (stop : Nat) :
    Nat → Nat → List Instruction
  | 0, _ => []
  | n + 1, base =>
    fork greedy (base + 1) stop ::
      (block (base + 1) ++ optionals block size greedy stop n (base + 1 + size))

/-- The code of a repetition. A body that may match the empty text is entered by a split of its own, so
that the split after it, which leads back, is not the one before it. -/
def repetitionCode (block : Nat → List Instruction) (size : Nat) (nullable : Bool) (min : Nat)
    (max : Option Nat) (greedy : Bool) (base : Nat) : List Instruction :=
  match max with
  | some max =>
    let tail := base + min * size
    copies block size min base ++
      optionals block size greedy (tail + (max - min) * (size + 1)) (max - min) tail
  | none =>
    match min with
    | 0 =>
      let back := if nullable then fork greedy (base + 1) (base + size + 2) else .jump base
      fork greedy (base + 1) (base + size + 2) :: (block (base + 1) ++ [back])
    | n + 1 =>
      let last := base + n * size
      copies block size n base ++ block last ++ [fork greedy last (last + size + 1)]

mutual

/-- The code of an expression whose first instruction stands at `base`. -/
def code (base : Nat) : Expr → List Instruction
  | .empty => []
  | .literal text => text.map .char
  | .set _ s => [.set s]
  | .look l => [.look l]
  | .capture index _ e => .save (2 * index) :: (code (base + 1) e ++ [.save (2 * index + 1)])
  | .sequence es => codes base es
  | .alternatives es => branchCode base (base + branchSizes es) es
  | .repetition min max greedy e =>
    repetitionCode (fun b => code b e) (codeSize e) (nullable e) min max greedy base

/-- The code of a sequence. -/
def codes (base : Nat) : List Expr → List Instruction
  | [] => []
  | e :: es => code base e ++ codes (base + codeSize e) es

/-- The code of alternatives, all of which lead to `stop`. -/
def branchCode (base stop : Nat) : List Expr → List Instruction
  | [] => []
  | [e] => code base e
  | e :: es =>
    let next := base + codeSize e + 2
    .split (base + 1) next :: (code (base + 1) e ++ .jump stop :: branchCode next stop es)

end

end Expr

/-- A program: the code of an expression. A run that comes to its end accepts. -/
structure Program where
  code : Array Instruction

/-- The program of an expression. -/
def Program.ofExpr (e : Expr) : Program := ⟨(e.code 0).toArray⟩

end PatternKit.Regex
