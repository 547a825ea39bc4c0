import PatternKit.Proofs.CompileOutcome
import PatternKit.Proofs.EngineBounds
import PatternKit.Proofs.PlainText

/-!
Sticky iteration as the head of plain iteration. Where no match is empty, both search from where the last match has
stopped, so they find the same matches until there is a gap; there the sticky one stops. What it has found then is the
longest part of the other's list, from the beginning, in which the matches follow each other without a gap.
-/

set_option autoImplicit false

namespace PatternKit

/-- Whether matches follow each other without a gap: the first starts at an offset, and each later one where the one
before it stops. -/
def Match.Gapless (p : Nat) : List Match → Prop
  | [] => True
  | m :: ms => m.whole.start = p ∧ Gapless m.whole.stop ms

/-- Whether a list is the longest of those with a property that another list begins with. -/
structure IsLongestPrefix {α : Type} (P : List α → Prop) (head whole : List α) : Prop where
  isPrefix : head <+: whole
  holds : P head
  longest {other : List α} (isPrefix : other <+: whole) (holds : P other) : other <+: head

namespace Match

variable {p : Nat} {m : Match} {head ms : List Match}

theorem Gapless.longest_nil (p : Nat) : IsLongestPrefix (Gapless p) [] [] where
  isPrefix := List.prefix_refl []
  holds := trivial
  longest isPrefix _ := isPrefix

theorem Gapless.longest_cons (starts : m.whole.start = p) (later : IsLongestPrefix (Gapless m.whole.stop) head ms) :
    IsLongestPrefix (Gapless p) (m :: head) (m :: ms) where
  isPrefix := List.cons_prefix_cons.mpr ⟨rfl, later.isPrefix⟩
  holds := ⟨starts, later.holds⟩
  longest {other} isPrefix gapless := by
    cases other with
    | nil => exact List.nil_prefix
    | cons first more =>
      obtain ⟨rfl, behind⟩ := List.cons_prefix_cons.mp isPrefix
      exact List.cons_prefix_cons.mpr ⟨rfl, later.longest behind gapless.2⟩

/-- Where the first match leaves a gap, nothing of the list is without one. -/
theorem Gapless.longest_gap (gap : m.whole.start ≠ p) (ms : List Match) :
    IsLongestPrefix (Gapless p) [] (m :: ms) where
  isPrefix := List.nil_prefix
  holds := trivial
  longest {other} isPrefix gapless := by
    cases other with
    | nil => exact List.nil_prefix
    | cons first more =>
      obtain ⟨rfl, -⟩ := List.cons_prefix_cons.mp isPrefix
      exact absurd gapless.1 gap

end Match

namespace Searcher

variable {s : Searcher} {h : Text} {p : Nat}

/-- Whether no search in a text, from any cut of it, finds an empty match. -/
def NeverEmpty (s : Searcher) (h : Text) : Prop :=
  ∀ p m, h.IsBoundary p → s.findAt h p = some m → m.whole.isEmpty = false

/-- If no match is empty, the next one is the leftmost one from where the last has stopped. -/
theorem NeverEmpty.next? (full : s.NeverEmpty h) (cut : h.IsBoundary p) (previous : Option Nat) :
    s.next? h p previous = s.findAt h p := by
  rw [Searcher.next?]
  cases found : s.findAt h p with
  | none => rfl
  | some m => simp [full p m cut found]

/-- Both iterations make the same searches until the first gap. By induction on the number of searches that are left. -/
private theorem chainFrom_isLongestPrefix (bounded : s.Bounded) (full : s.NeverEmpty h) (fuel : Nat)
    (cut : h.IsBoundary p) (previous : Option Nat) :
    IsLongestPrefix (Match.Gapless p) (s.chainFrom h fuel p) (s.matchesFrom h fuel p previous) := by
  induction fuel generalizing p previous with
  | zero => exact Match.Gapless.longest_nil p
  | succ fuel ih =>
    have inside : ¬ h.byteSize < p := Nat.not_lt.mpr cut.le_byteSize
    rw [chainFrom, matchesFrom, if_neg inside, full.next? cut]
    cases found : s.findAt h p with
    | none => exact Match.Gapless.longest_nil p
    | some m =>
      by_cases starts : m.whole.start = p
      · have later := ih (bounded.within cut found).2.2.2 (some m.whole.stop)
        simp only [if_pos starts, full p m cut found, Bool.false_eq_true, if_false]
        exact Match.Gapless.longest_cons starts later
      · simp only [if_neg starts]
        exact Match.Gapless.longest_gap starts _

theorem chain_isLongestPrefix (bounded : s.Bounded) (full : s.NeverEmpty h) :
    IsLongestPrefix (Match.Gapless 0) (s.chain h) (s.allMatches h) :=
  chainFrom_isLongestPrefix bounded full _ (.zero h) none

/-- Whoever seeks a text that is not empty finds no empty match. -/
theorem Seeks.neverEmpty {t : Text} (seeks : s.Seeks t) (some : t ≠ []) (h : Text) : s.NeverEmpty h := by
  rintro p m ⟨a, u, rfl, rfl⟩ hit
  obtain ⟨v, w, -, -, rfl⟩ := seeks.found hit
  exact Text.matchBehind_not_isEmpty some (a ++ v)

end Searcher

/-- Options that the engine does not know make no difference to what it builds. -/
theorem Draft.compile_withFlags {engine : Engine} {d : Draft} {m : Matcher} {flags : Flags}
    (others : ∀ f, f ≠ .sticky → flags.has f = d.flags.has f) (compiled : (d.compile engine).result = .ok m) :
    (({ d with flags := flags } : Draft).compile engine).result = .ok ⟨m.searcher, flags⟩ := by
  have comes := compile_compilesTo engine d
  rw [compiled] at comes
  cases comes with
  | pattern positive accepted faultless built =>
    rw [← others .ignoreCase (by decide), ← others .multiline (by decide), ← others .dotAll (by decide)] at built
    have comes' : ({ d with flags := flags } : Draft).CompilesTo engine _ := .pattern positive accepted faultless built
    exact comes'.eq

namespace Matcher

variable {m : Matcher}

/-- Without the option for it, a sticky pattern is compiled as well, and on every text in which it never matches what is
empty, the matches of the sticky one are the longest part from the beginning of the other's in which the first starts
with the text and each later one where the one before it stops. -/
theorem sticky_matches_are_gapless_head (engine : Engine) (d : Draft) (flags : Flags)
    (sticky : d.flags.has .sticky = true) (unsticky : flags.has .sticky = false)
    (others : ∀ f, f ≠ .sticky → flags.has f = d.flags.has f) (compiled : (d.compile engine).result = .ok m)
    (bounded : m.searcher.Bounded) :
    ∃ m', (({ d with flags := flags } : Draft).compile engine).result = .ok m' ∧
      ∀ h, m.searcher.NeverEmpty h → IsLongestPrefix (Match.Gapless 0) (m.all h) (m'.all h) := by
  refine ⟨_, Draft.compile_withFlags others compiled, fun h full => ?_⟩
  have everywhere : Matcher.all ⟨m.searcher, flags⟩ h = m.searcher.allMatches h :=
    all_free ⟨m.searcher, flags⟩ unsticky h
  have atBeginning : m.all h = m.searcher.chain h := by
    obtain ⟨-, s, -, rfl⟩ := Draft.compile_eq_ok compiled
    exact all_sticky ⟨s, d.flags⟩ sticky h
  rw [everywhere, atBeginning]
  exact Searcher.chain_isLongestPrefix bounded full

open Draft (signs signPieces) in
theorem repeated_signs_are_gapless_head :
    (signPieces (.of .sticky)).flags.has .sticky = true ∧ Flags.has .empty .sticky = false ∧
      (∀ f, f ≠ .sticky → Flags.has .empty f = (signPieces (.of .sticky)).flags.has f) ∧
      ∃ m m', ((signPieces (.of .sticky)).compile Regex.build).result = .ok m ∧ m.searcher.Bounded ∧
        ((signPieces .empty).compile Regex.build).result = .ok m' ∧
        m.searcher.NeverEmpty (signs ++ signs ++ ['.'] ++ signs) ∧
        IsLongestPrefix (Match.Gapless 0) (m.all (signs ++ signs ++ ['.'] ++ signs))
          (m'.all (signs ++ signs ++ ['.'] ++ signs)) := by
  have sticky : (signPieces (.of .sticky)).flags.has .sticky = true := by decide
  have unsticky : Flags.has .empty .sticky = false := by decide
  have others (f : Flag) (other : f ≠ .sticky) : Flags.has .empty f = (signPieces (.of .sticky)).flags.has f := by
    cases f <;> first | decide | exact absurd rfl other
  obtain ⟨m, compiled⟩ : ∃ m, ((signPieces (.of .sticky)).compile Regex.build).result = .ok m := ⟨_, rfl⟩
  have bounded : m.searcher.Bounded := Regex.compile_bounded compiled
  have full (h : Text) : m.searcher.NeverEmpty h := by
    rw [Draft.compile_of_texts rfl (by decide) compiled]
    exact (Regex.searcher_seeks _ signs).neverEmpty (List.cons_ne_nil _ _) h
  obtain ⟨m', compiled', head⟩ :=
    sticky_matches_are_gapless_head Regex.build (signPieces (.of .sticky)) .empty sticky unsticky others compiled bounded
  exact ⟨sticky, unsticky, others, m, m', compiled, bounded, compiled', full _, head _ (full _)⟩

end Matcher

end PatternKit
