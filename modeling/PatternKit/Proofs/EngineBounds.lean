import PatternKit.Draft.Compile
import PatternKit.Proofs.MatchOrder

/-!
Bounds of the engine. A thread moves through a text by whole characters and never back, so that a run that
begins at a cut of the text ends at one, no earlier. Therefore the searchers that are built stay in bounds.
-/

set_option autoImplicit false

namespace PatternKit.Regex

/-- Whether a place belongs to a text, and does not lie before an offset. -/
def Cursor.From (h : Text) (offset : Nat) (c : Cursor) : Prop :=
  offset ≤ c.offset ∧ ∃ s, h = s ++ c.rest ∧ c.offset = s.byteSize

namespace Cursor

variable {h s t : Text} {offset passed : Nat} {before : Option Char} {c : Cursor}

theorem From.boundary (place : c.From h offset) : h.IsBoundary c.offset := by
  obtain ⟨-, s, split, size⟩ := place
  exact ⟨s, c.rest, split, size⟩

theorem from_of_split (before : Option Char) (split : h = s ++ t) (size : offset = s.byteSize) :
    (⟨before, offset, t⟩ : Cursor).From h offset :=
  ⟨Nat.le_refl offset, s, split, size⟩

/-- Seeking passes over whole characters. -/
private theorem seek_from (split : h = s ++ t) (size : passed = s.byteSize)
    (found : seek offset before passed t = some c) : c.From h offset := by
  induction t generalizing s passed before with
  | nil =>
    rw [seek] at found
    split at found
    · rename_i reached
      obtain rfl := Option.some.inj found
      exact ⟨reached, s, split, size⟩
    · cases found
  | cons d t ih =>
    rw [seek] at found
    split at found
    · rename_i reached
      obtain rfl := Option.some.inj found
      exact ⟨reached, s, split, size⟩
    · exact ih (s := s ++ [d]) (by simp [split]) (by simp [size]) found

private theorem seek_eq_none (outside : passed + t.byteSize < offset) : seek offset before passed t = none := by
  induction t generalizing passed before with
  | nil =>
    rw [seek, if_neg]
    simpa using outside
  | cons d t ih =>
    rw [Text.byteSize_cons] at outside
    rw [seek, if_neg (by omega)]
    exact ih (by omega)

theorem at?_from (found : at? h offset = some c) : c.From h offset := seek_from (List.nil_append h).symm rfl found

theorem at?_eq_none (outside : h.byteSize < offset) : at? h offset = none :=
  seek_eq_none (by rwa [Nat.zero_add])

end Cursor

namespace Thread

variable {h : Text} {offset : Nat} {t t' : Thread}

private theorem read_from (place : t.cursor.From h offset) {accepts : Char → Bool} (next : t' ∈ t.read accepts) :
    t'.cursor.From h offset := by
  obtain ⟨le, s, split, size⟩ := place
  rw [read] at next
  cases rest : t.cursor.rest with
  | nil => simp [rest] at next
  | cons c cs =>
    simp only [rest] at next
    split at next
    · rw [List.mem_singleton.mp next]
      refine ⟨Nat.le_trans le (Nat.le_add_right _ _), s ++ [c], ?_, ?_⟩
      · simp [split, rest]
      · simp [size]
    · cases next

/-- An instruction moves a thread by one character or not at all. -/
theorem step_from (place : t.cursor.From h offset) {i : Instruction} (next : t' ∈ t.step i) :
    t'.cursor.From h offset := by
  cases i with
  | char c => exact read_from place next
  | set s => exact read_from place next
  | look l =>
    rw [step] at next
    split at next
    · rw [List.mem_singleton.mp next]
      exact place
    · cases next
  | save slot =>
    rw [List.mem_singleton.mp next]
    exact place
  | split first second =>
    have targets : t' = t.goto first ∨ t' = t.goto second := by simpa [step] using next
    rcases targets with rfl | rfl
    · exact place
    · exact place
  | jump target =>
    rw [List.mem_singleton.mp next]
    exact place

end Thread

namespace Program

variable {p : Program} {h : Text} {offset : Nat} {t : Thread}

/-- All threads of a run stay where the threads that it begins with are. -/
theorem explore_from (fuel : Nat) {visited : Visited} {ts : List Thread}
    (all : ∀ t ∈ ts, t.cursor.From h offset) (accepted : (p.explore fuel visited ts).1 = some t) :
    t.cursor.From h offset := by
  induction fuel generalizing visited ts with
  | zero =>
    rw [explore] at accepted
    cases accepted
  | succ fuel ih =>
    cases ts with
    | nil =>
      rw [explore] at accepted
      cases accepted
    | cons first rest =>
      have place : first.cursor.From h offset := all first List.mem_cons_self
      have others : ∀ t ∈ rest, t.cursor.From h offset := fun t member => all t (List.mem_cons_of_mem _ member)
      rw [explore] at accepted
      split at accepted
      · exact ih others accepted
      · split at accepted
        · obtain rfl := Option.some.inj accepted
          exact place
        · refine ih (fun t member => ?_) accepted
          rcases List.mem_append.mp member with next | member
          · exact Thread.step_from place next
          · exact others t member

theorem runAt_from {visited : Visited} {c : Cursor} (place : c.From h c.offset)
    (accepted : (p.runAt visited c).1 = some t) : t.cursor.From h c.offset := by
  refine explore_from _ (fun t' member => ?_) accepted
  rw [List.mem_singleton.mp member]
  exact place

/-- The search goes over the text character by character, and what it finds begins where it has come. -/
theorem search_from {s u : Text} (split : h = s ++ u) (size : offset = s.byteSize) {visited : Visited}
    {before : Option Char} {start : Nat} (found : p.search visited before offset u = some (start, t)) :
    offset ≤ start ∧ h.IsBoundary start ∧ t.cursor.From h start := by
  induction u generalizing s offset visited before with
  | nil =>
    have place := Cursor.from_of_split before split size
    rw [search] at found
    obtain ⟨t', accepted, same⟩ := Option.map_eq_some_iff.mp found
    obtain ⟨rfl, rfl⟩ := Prod.mk.inj same
    exact ⟨Nat.le_refl _, place.boundary, runAt_from place accepted⟩
  | cons c cs ih =>
    have place := Cursor.from_of_split before split size
    rw [search] at found
    split at found
    · rename_i t' visited' accepted
      obtain ⟨rfl, rfl⟩ := Prod.mk.inj (Option.some.inj found)
      exact ⟨Nat.le_refl _, place.boundary, runAt_from place (by rw [accepted])⟩
    · obtain ⟨le, boundary, stop⟩ := ih (s := s ++ [c]) (by simp [split]) (by simp [size]) found
      exact ⟨by omega, boundary, stop⟩

end Program

/-- Every searcher for an expression stays in bounds. -/
theorem searcher_bounded (text : Text) (e : Expr) : (searcher text e).Bounded where
  within := by
    intro h p m _ found
    obtain ⟨⟨start, t⟩, hit, rfl⟩ := Option.map_eq_some_iff.mp found
    rw [Program.find?] at hit
    cases there : Cursor.at? h p with
    | none =>
      rw [there] at hit
      cases hit
    | some c =>
      rw [there] at hit
      obtain ⟨le, s, split, size⟩ := Cursor.at?_from there
      obtain ⟨later, boundary, stop⟩ := Program.search_from split size hit
      exact ⟨Nat.le_trans le later, stop.1, boundary, stop.boundary⟩
  past := by
    intro h p outside
    show ((Program.ofExpr e).find? h p).map _ = none
    rw [Program.find?, Cursor.at?_eq_none outside]
    rfl

/-- A searcher that is built is the one for the expression of the text. -/
theorem build_eq_ok {limits : Limits} {sw : Switches} {text : Text} {s : Searcher}
    (built : build limits sw text = .ok s) : ∃ e, parse limits.nest sw text = .ok e ∧ s = searcher text e := by
  rw [build] at built
  split at built
  · cases built
  · rename_i e parsed
    split at built
    · cases built
    · exact ⟨e, parsed, (Except.ok.inj built).symm⟩

theorem build_bounded {limits : Limits} {sw : Switches} {text : Text} {s : Searcher}
    (built : build limits sw text = .ok s) : s.Bounded := by
  obtain ⟨e, -, rfl⟩ := build_eq_ok built
  exact searcher_bounded text e

/-- So does every pattern that is compiled. -/
theorem compile_bounded {d : Draft} {m : Matcher} (compiled : (d.compile build).result = .ok m) :
    m.searcher.Bounded := by
  obtain ⟨-, s, built, rfl⟩ := Draft.compile_eq_ok compiled
  exact build_bounded built

end PatternKit.Regex
