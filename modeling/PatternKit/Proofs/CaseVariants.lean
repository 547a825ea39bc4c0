import PatternKit.Proofs.CharSetMembers
import PatternKit.Regex.Engine

/-!
Characters without regard to case. Folding a set adds the whole orbit of each of its characters. A character with
a variant is no literal then, and neither is a sequence that begins with it: it needs a program, whose size counts.
-/

set_option autoImplicit false

namespace PatternKit

namespace CharSet

variable {m n : Nat} {r : CodeRange} {rs : List CodeRange} {s t : CharSet}

private theorem covers_go (ordered : Ordered (r :: rs)) (covers : Covers (r :: rs) n) : Covers (coalesce.go r rs) n := by
  induction rs generalizing r with
  | nil => exact covers
  | cons s rs ih =>
    obtain ⟨first, rest⟩ := List.pairwise_cons.mp ordered
    have before : r.lo ≤ s.lo := first s List.mem_cons_self
    rw [covers_cons] at covers
    rw [coalesce.go]
    split
    · have widened : (⟨r.lo, max r.hi s.hi⟩ : CodeRange).lo ≤ n ∧ n ≤ max r.hi s.hi ∨ Covers rs n := by
        rcases covers with inside | covers
        · exact .inl ⟨inside.1, by omega⟩
        · rcases covers_cons.mp covers with inside | covers
          · exact .inl ⟨Nat.le_trans before inside.1, by omega⟩
          · exact .inr covers
      exact ih (List.pairwise_cons.mpr ⟨fun x later => first x (.tail _ later), rest.of_cons⟩) (covers_cons.mpr widened)
    · exact covers_cons.mpr (covers.imp_right (ih rest))

/-- Joining intervals loses no code, whatever their ends are. -/
theorem covers_normalize (covers : Covers rs n) : Covers (normalize rs).ranges n := by
  have sorted := (covers_mergeSort rs n).mpr covers
  have ordered := ordered_mergeSort rs
  rw [normalize]
  cases same : rs.mergeSort fun r s => r.lo ≤ s.lo with
  | nil =>
    rw [same] at sorted
    exact absurd sorted (covers_nil n)
  | cons r more =>
    rw [same] at sorted ordered
    exact covers_go ordered sorted

theorem covers_union (covers : Covers s.ranges n ∨ Covers t.ranges n) : Covers (s.union t).ranges n := by
  have nothing {u : CharSet} (empty : u.isEmpty = true) : ¬ Covers u.ranges n := by
    rw [List.isEmpty_iff.mp empty]
    exact covers_nil n
  rw [union]
  split
  · exact covers.resolve_left (nothing ‹_›)
  · split
    · exact covers.resolve_right (nothing ‹_›)
    · exact covers_normalize (covers_append.mpr covers)

/-- A set that has two codes is more than one character. -/
theorem only?_of_covers (one : Covers s.ranges m) (other : Covers s.ranges n) (distinct : m ≠ n) : s.only? = none := by
  rw [only?]
  split
  · rename_i r single
    rw [single, covers_cons, or_iff_left (covers_nil _)] at one other
    exact if_neg (by omega)
  · rfl

end CharSet

namespace Unicode

variable {s : CharSet} {orbit : List Nat} {n : Nat}

theorem covers_foldCase (covers : CharSet.Covers s.ranges n) : CharSet.Covers (foldCase s).ranges n :=
  CharSet.covers_union (.inl covers)

/-- A set that has a character of an orbit is folded to one that has all of it. -/
theorem covers_foldCase_orbit (is : orbit ∈ caseOrbits) (meets : ∃ m ∈ orbit, CharSet.containsCode m s.ranges = true)
    (member : n ∈ orbit) : CharSet.Covers (foldCase s).ranges n := by
  refine CharSet.covers_union (.inr (CharSet.covers_normalize ⟨⟨n, n⟩, ?_, Nat.le_refl n, Nat.le_refl n⟩))
  exact List.mem_flatMap.mpr ⟨orbit, List.mem_filter.mpr ⟨is, List.any_eq_true.mpr meets⟩,
    List.mem_map.mpr ⟨n, member, rfl⟩⟩

set_option maxRecDepth 100000 in
/-- The first orbit is that of the first letter. -/
theorem letterA_mem_caseOrbits : [0x41, 0x61] ∈ caseOrbits := by
  have head : ∃ more, orbitTable = String.ofList ('4' :: '1' :: ' ' :: '6' :: '1' :: ',' :: more) := by
    unfold orbitTable
    refine ⟨?more, ?same⟩
    case same => with_reducible rfl
  obtain ⟨more, head⟩ := head
  have first : caseOrbits = [0x41, 0x61] :: (splitEntries [] more).map readOrbit := by
    rw [caseOrbits, head, String.toList_ofList]
    rfl
  rw [first]
  exact List.mem_cons_self

end Unicode

namespace Regex.Expr

variable {sw : Switches} {l : Literal} {orbit : List Nat} {es : List Expr}

/-- Without regard to case, a character that is one of two in an orbit stands for a set. -/
theorem ofLiteral_of_mem_caseOrbits (unicode : sw.unicode = true) (either : sw.ignoreCase = true)
    (is : orbit ∈ Unicode.caseOrbits) (member : l.char.toNat ∈ orbit) (variant : ∃ n ∈ orbit, n ≠ l.char.toNat) :
    ∃ s, ofLiteral sw l = .ok (.set false s) := by
  obtain ⟨n, other, distinct⟩ := variant
  have alone : CharSet.Covers (CharSet.single l.char).ranges l.char.toNat :=
    CharSet.covers_cons.mpr (.inl ⟨Nat.le_refl _, Nat.le_refl _⟩)
  have single : CharSet.containsCode l.char.toNat (CharSet.single l.char).ranges = true :=
    (CharSet.containsCode_iff (List.pairwise_singleton _ _)).mpr alone
  have one := Unicode.covers_foldCase alone
  have both := Unicode.covers_foldCase_orbit is ⟨_, member, single⟩ other
  have varies : Unicode.hasCaseVariant l.char = true :=
    List.any_eq_true.mpr ⟨orbit, is, List.contains_iff_mem.mpr member⟩
  have made : ofSet false (Unicode.foldCase (.single l.char)) = .set false (Unicode.foldCase (.single l.char)) := by
    rw [ofSet, CharSet.only?_of_covers both one distinct]
    refine if_neg fun empty => CharSet.covers_nil n ?_
    rw [← List.isEmpty_iff.mp empty]
    exact both
  refine ⟨Unicode.foldCase (.single l.char), ?_⟩
  simp [ofLiteral, checkByte, fold, unicode, either, varies, made, bind, Except.bind, pure, Except.pure]

/-- Characters stand for something, with Unicode on. -/
theorem ofAsts_characters (unicode : sw.unicode = true) (ls : List Literal) :
    ∃ es, ofAsts sw (ls.map .literal) = .ok (es, sw) := by
  induction ls with
  | nil => exact ⟨[], rfl⟩
  | cons l ls ih =>
    obtain ⟨es, rest⟩ := ih
    have one : ∃ e, ofLiteral sw l = .ok e := by
      simp [ofLiteral, checkByte, unicode, bind, Except.bind, pure, Except.pure]
    obtain ⟨e, one⟩ := one
    refine ⟨e :: es, ?_⟩
    simp [ofAsts, ofAst, one, rest, bind, Except.bind, pure, Except.pure]

/-- A sequence that begins with a set needs a program. -/
theorem programWeight_ofList_set (ascii : Bool) (s : CharSet) (es : List Expr) :
    6 * stateWeight ≤ (ofList (.set ascii s :: es)).programWeight := by
  have kept : ((Expr.set ascii s :: es).flatMap parts).foldr consPart [] =
      .set ascii s :: (es.flatMap parts).foldr consPart [] := rfl
  rw [ofList, kept]
  split
  · rename_i none
    cases none
  · rename_i e single
    obtain ⟨rfl, -⟩ := List.cons.inj single
    exact Nat.le_add_right _ _
  · exact Nat.le_add_right _ _

end Regex.Expr

end PatternKit
