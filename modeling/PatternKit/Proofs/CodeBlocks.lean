import PatternKit.Regex.Program

/-!
Code as blocks. Wherever the code of an expression stands, it is the same but for the addresses in it, and no
instruction leads further than behind the last one.
-/

set_option autoImplicit false

namespace PatternKit.Regex

namespace Instruction

/-- An instruction whose targets lie further on. -/
def shift (k : Nat) : Instruction → Instruction
  | .split first second => .split (first + k) (second + k)
  | .jump target => .jump (target + k)
  | i => i

/-- Whether the targets of an instruction lie no further than an address. -/
def Within (top : Nat) : Instruction → Prop
  | .split first second => first ≤ top ∧ second ≤ top
  | .jump target => target ≤ top
  | _ => True

theorem Within.mono {top top' : Nat} {i : Instruction} (within : i.Within top) (le : top ≤ top') : i.Within top' := by
  cases i with
  | split first second => exact ⟨Nat.le_trans within.1 le, Nat.le_trans within.2 le⟩
  | jump target => exact Nat.le_trans within le
  | _ => trivial

end Instruction

/-- Code of a given length that can stand at any address. `reach` bounds how far its targets lie behind its first
instruction. -/
structure IsBlock (size reach : Nat) (block : Nat → List Instruction) : Prop where
  length (base : Nat) : (block base).length = size
  shift (base k : Nat) : block (base + k) = (block base).map (Instruction.shift k)
  within (base : Nat) : ∀ i ∈ block base, i.Within (base + reach)

namespace IsBlock

variable {s t reach reach' : Nat} {f g : Nat → List Instruction}

theorem widen (block : IsBlock s reach f) (le : reach ≤ reach') : IsBlock s reach' f where
  length := block.length
  shift := block.shift
  within base i member := (block.within base i member).mono (Nat.add_le_add_left le base)

theorem congr (block : IsBlock s reach f) (same : ∀ base, g base = f base) : IsBlock s reach g := by
  rw [funext same]
  exact block

theorem nil : IsBlock 0 reach fun _ => [] where
  length _ := rfl
  shift _ _ := rfl
  within _ _ member := by cases member

theorem single {i : Nat → Instruction} (shift : ∀ base k, i (base + k) = (i base).shift k)
    (within : ∀ base, (i base).Within (base + reach)) : IsBlock 1 reach fun base => [i base] where
  length _ := rfl
  shift base k := congrArg (fun i => [i]) (shift base k)
  within base j member := by
    rw [List.mem_singleton.mp member]
    exact within base

/-- A block that stands behind others. -/
theorem behind (block : IsBlock s reach f) (n : Nat) (le : n + reach ≤ reach') :
    IsBlock s reach' fun base => f (base + n) where
  length base := block.length (base + n)
  shift base k := by rw [Nat.add_right_comm, block.shift]
  within base i member := (block.within (base + n) i member).mono (by omega)

/-- Two pieces of code, as they stand behind each other. -/
theorem append (first : IsBlock s reach f) (second : IsBlock t reach g) :
    IsBlock (s + t) reach fun base => f base ++ g base where
  length base := by rw [List.length_append, first.length, second.length]
  shift base k := by rw [first.shift, second.shift, List.map_append]
  within base i member := by
    rcases List.mem_append.mp member with here | later
    · exact first.within base i here
    · exact second.within base i later

end IsBlock

namespace Expr

variable {size reach : Nat} {block : Nat → List Instruction}

private theorem fork_isBlock (greedy : Bool) (into out : Nat) (inside : into ≤ reach) (outside : out ≤ reach) :
    IsBlock 1 reach fun base => [fork greedy (base + into) (base + out)] := by
  refine .single (fun base k => ?_) fun base => ?_
  · rw [Nat.add_right_comm base k into, Nat.add_right_comm base k out]
    cases greedy <;> rfl
  · have first : base + into ≤ base + reach := Nat.add_le_add_left inside base
    have second : base + out ≤ base + reach := Nat.add_le_add_left outside base
    cases greedy with
    | false => exact ⟨second, first⟩
    | true => exact ⟨first, second⟩

private theorem jump_isBlock (target : Nat) (le : target ≤ reach) :
    IsBlock 1 reach fun base => [.jump (base + target)] := by
  refine .single (fun base k => ?_) fun base => Nat.add_le_add_left le base
  rw [Nat.add_right_comm base k target]
  rfl

private theorem copies_isBlock (body : IsBlock size size block) (n : Nat) :
    IsBlock (n * size) (n * size) fun base => copies block size n base := by
  induction n with
  | zero =>
    rw [Nat.zero_mul]
    exact .nil
  | succ n ih =>
    have length : (n + 1) * size = size + n * size := by rw [Nat.succ_mul, Nat.add_comm]
    rw [length]
    exact (body.widen (Nat.le_add_right _ _)).append (ih.behind size (Nat.le_refl _))

/-- Every split of optional blocks leads behind the last one of them. -/
private theorem optionals_isBlock (body : IsBlock size size block) (greedy : Bool) (n : Nat) :
    IsBlock (n * (size + 1)) (n * (size + 1))
      fun base => optionals block size greedy (base + n * (size + 1)) n base := by
  induction n with
  | zero =>
    rw [Nat.zero_mul]
    exact .nil
  | succ n ih =>
    have length : (n + 1) * (size + 1) = 1 + (size + n * (size + 1)) := by rw [Nat.succ_mul]; omega
    rw [length]
    have leave := fork_isBlock greedy 1 (1 + (size + n * (size + 1))) (Nat.le_add_right _ _) (Nat.le_refl _)
    have here : IsBlock size (1 + (size + n * (size + 1))) fun base => block (base + 1) := body.behind 1 (by omega)
    have rest : IsBlock (n * (size + 1)) (1 + (size + n * (size + 1))) _ := ih.behind (1 + size) (by omega)
    refine (leave.append (here.append rest)).congr fun base => ?_
    have stop : base + (1 + (size + n * (size + 1))) = base + (1 + size) + n * (size + 1) := by omega
    have next : base + 1 + size = base + (1 + size) := Nat.add_assoc base 1 size
    rw [optionals, stop, next]
    rfl

private theorem repetitionCode_isBlock (body : IsBlock size size block) (nullable : Bool) (min : Nat)
    (max : Option Nat) (greedy : Bool) :
    let total :=
      match max with
      | some max => min * size + (max - min) * (size + 1)
      | none => if min = 0 then size + 2 else min * size + 1
    IsBlock total total fun base => repetitionCode block size nullable min max greedy base := by
  cases max with
  | some max =>
    have first := (copies_isBlock body min).widen (Nat.le_add_right _ ((max - min) * (size + 1)))
    have rest := (optionals_isBlock body greedy (max - min)).behind (min * size) (Nat.le_refl _)
    exact first.append rest
  | none =>
    cases min with
    | zero =>
      have length : size + 2 = 1 + (size + 1) := by omega
      have enter := fork_isBlock greedy 1 (size + 2) (by omega) (Nat.le_refl _)
      have here : IsBlock size (size + 2) fun base => block (base + 1) := body.behind 1 (by omega)
      have back : IsBlock 1 (size + 2) fun base =>
          [if nullable then fork greedy (base + 1) (base + size + 2) else .jump base] := by
        cases nullable with
        | false => exact jump_isBlock 0 (Nat.zero_le _)
        | true => exact enter
      have whole := enter.append (here.append back)
      rw [← length] at whole
      exact whole
    | succ n =>
      have length : (n + 1) * size + 1 = n * size + size + 1 := by rw [Nat.succ_mul]
      have first := (copies_isBlock body n).widen (Nat.le_add_right (n * size) (size + 1))
      have last := body.behind (n * size) (Nat.le_succ (n * size + size))
      have again := fork_isBlock greedy (n * size) (n * size + size + 1) (by omega) (Nat.le_refl _)
      show IsBlock ((n + 1) * size + 1) ((n + 1) * size + 1) _
      rw [length]
      refine ((first.append last).append again).congr fun base => ?_
      rw [← Nat.add_assoc, ← Nat.add_assoc]
      rfl

mutual

/-- The code of an expression is a block. -/
theorem code_isBlock (e : Expr) : IsBlock e.codeSize e.codeSize fun base => e.code base := by
  cases e with
  | empty => exact .nil
  | literal text =>
    refine ⟨fun _ => List.length_map _, fun base k => ?_, fun base i member => ?_⟩
    · rw [code, code, List.map_map]
      rfl
    · obtain ⟨c, -, rfl⟩ := List.mem_map.mp member
      trivial
  | set ascii s => exact .single (fun _ _ => rfl) fun _ => trivial
  | look l => exact .single (fun _ _ => rfl) fun _ => trivial
  | capture index name e =>
    have length : e.codeSize + 2 = 1 + (e.codeSize + 1) := by omega
    have note (slot : Nat) : IsBlock 1 (e.codeSize + 2) fun _ => [.save slot] :=
      .single (fun _ _ => rfl) fun _ => trivial
    have body : IsBlock e.codeSize (e.codeSize + 2) fun base => e.code (base + 1) :=
      (code_isBlock e).behind 1 (by omega)
    have whole := (note (2 * index)).append (body.append (note (2 * index + 1)))
    rw [← length] at whole
    exact whole
  | sequence es => exact codes_isBlock es
  | alternatives es => exact branchCode_isBlock es
  | repetition min max greedy e => exact repetitionCode_isBlock (code_isBlock e) _ min max greedy

theorem codes_isBlock (es : List Expr) : IsBlock (codeSizes es) (codeSizes es) fun base => codes base es := by
  cases es with
  | nil => exact .nil
  | cons e es =>
    have first := (code_isBlock e).widen (Nat.le_add_right _ (codeSizes es))
    exact first.append ((codes_isBlock es).behind e.codeSize (Nat.le_refl _))

/-- All branches lead behind the last one of them. -/
theorem branchCode_isBlock (es : List Expr) :
    IsBlock (branchSizes es) (branchSizes es) fun base => branchCode base (base + branchSizes es) es := by
  cases es with
  | nil => exact .nil
  | cons e es =>
    cases es with
    | nil => exact code_isBlock e
    | cons second es =>
      have length : e.codeSize + 2 + branchSizes (second :: es) =
          1 + (e.codeSize + (1 + branchSizes (second :: es))) := by omega
      have rest := (branchCode_isBlock (second :: es)).behind (e.codeSize + 2) (Nat.le_refl _)
      have body : IsBlock e.codeSize (e.codeSize + 2 + branchSizes (second :: es)) fun base => e.code (base + 1) :=
        (code_isBlock e).behind 1 (by omega)
      have leave := jump_isBlock (e.codeSize + 2 + branchSizes (second :: es)) (Nat.le_refl _)
      have choose : IsBlock 1 (e.codeSize + 2 + branchSizes (second :: es)) fun base =>
          [.split (base + 1) (base + (e.codeSize + 2))] :=
        fork_isBlock true 1 (e.codeSize + 2) (by omega) (Nat.le_add_right _ _)
      have whole := choose.append (body.append (leave.append rest))
      rw [← length] at whole
      refine whole.congr fun base => ?_
      show branchCode base (base + (e.codeSize + 2 + branchSizes (second :: es))) (e :: second :: es) = _
      rw [← Nat.add_assoc base (e.codeSize + 2)]
      rfl

end

end Expr

end PatternKit.Regex
