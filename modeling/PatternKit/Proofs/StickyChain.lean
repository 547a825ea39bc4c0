import PatternKit.Matcher
import PatternKit.Proofs.LeftmostSearch

/-!
Sticky iteration. The matches of a sticky pattern are a chain: each is the preferred match at the offset
where the one before leads, and the chain ends where no match starts or the text is over.
-/

set_option autoImplicit false

namespace PatternKit.Searcher

/-- A match leads to an offset: to its end, or past the next character when it is empty, or past the text
when there is no such character. -/
inductive LeadsTo (h : Text) (m : Match) : Nat → Prop
  | stop (full : m.whole.start < m.whole.stop) : LeadsTo h m m.whole.stop
  | char {s : Text} {c : Char} {u : Text} (cut : h = s ++ c :: u)
      (empty : m.whole = ⟨s.byteSize, s.byteSize⟩) : LeadsTo h m (s.byteSize + c.utf8Size)
  | past (empty : m.whole = ⟨h.byteSize, h.byteSize⟩) : LeadsTo h m (h.byteSize + 1)

/-- The chain of preferred matches from an offset on. All offsets in it but one past the text are cuts
between characters. -/
inductive Chain (preferred : Nat → Option Match) (h : Text) : Nat → List Match → Prop
  | past {p : Nat} (outside : h.byteSize < p) : Chain preferred h p []
  | stuck {p : Nat} (cut : h.IsBoundary p) (absent : preferred p = none) : Chain preferred h p []
  | step {p q : Nat} {m : Match} {ms : List Match} (cut : h.IsBoundary p) (here : preferred p = some m)
      (starts : m.whole.start = p) (leads : LeadsTo h m q) (rest : Chain preferred h q ms) :
      Chain preferred h p (m :: ms)

variable {h : Text} {m : Match} {p q : Nat}

private theorem LeadsTo.start_lt (l : LeadsTo h m q) : m.whole.start < q := by
  cases l with
  | stop full => exact full
  | @char s c u cut empty =>
    have := c.utf8Size_pos
    rw [empty]
    show s.byteSize < _
    omega
  | past empty => rw [empty]; exact Nat.lt_succ_self _

private theorem LeadsTo.stop_le (l : LeadsTo h m q) : m.whole.stop ≤ q := by
  cases l with
  | stop _ => exact Nat.le_refl _
  | char _ empty => rw [empty]; exact Nat.le_add_right _ _
  | past empty => rw [empty]; exact Nat.le_succ _

/-- An offset that a match leads to is past the text, or a cut with less text behind it. -/
private theorem LeadsTo.progress (l : LeadsTo h m q) {s u : Text} (split : h = s ++ u)
    (starts : m.whole.start = s.byteSize) (ends : h.IsBoundary m.whole.stop) :
    h.byteSize < q ∨ ∃ s' u', h = s' ++ u' ∧ q = s'.byteSize ∧ u'.length < u.length := by
  cases l with
  | stop full =>
    obtain ⟨s', u', split', stop⟩ := ends
    rw [starts, stop] at full
    obtain ⟨a, some, rfl, rfl⟩ := Text.suffix_of_byteSize_lt (split.symm.trans split') full
    refine .inr ⟨s ++ a, u', split', stop, ?_⟩
    have := List.length_pos_iff.mpr some
    rw [List.length_append]
    omega
  | @char s' c u' cut empty =>
    have size : s'.byteSize = s.byteSize := by rw [empty] at starts; exact starts
    have same : s' ++ c :: u' = s ++ u := cut.symm.trans split
    have left : s' = s := by
      rw [← Text.takeBytes_byteSize_append s' (c :: u'), same, size,
        Text.takeBytes_byteSize_append]
    subst left
    refine .inr ⟨s' ++ [c], u', by rw [cut]; simp, by simp, ?_⟩
    rw [← List.append_cancel_left same]
    simp
  | past _ => exact .inl (Nat.lt_succ_self _)

/-- The offset that the loop goes on at is the one that the match leads to. -/
private theorem leadsTo_next (cut : h.IsBoundary m.whole.start) (ordered : m.whole.start ≤ m.whole.stop) :
    LeadsTo h m (if m.whole.isEmpty then h.after m.whole.start else m.whole.stop) := by
  by_cases empty : m.whole.isEmpty = true
  · rw [if_pos empty]
    have le : m.whole.stop ≤ m.whole.start := by simpa [Span.isEmpty] using empty
    obtain ⟨s, u, split, start⟩ := cut
    have whole : m.whole = ⟨s.byteSize, s.byteSize⟩ := by
      obtain ⟨⟨a, b⟩, groups⟩ := m
      simp only at start ordered le ⊢
      rw [← start, Nat.le_antisymm le ordered]
    rw [start]
    cases u with
    | nil =>
      rw [List.append_nil] at split
      subst split
      rw [Text.after_byteSize]
      exact .past whole
    | cons c u =>
      rw [split, Text.after_byteSize_append_cons]
      exact .char rfl whole
  · rw [if_neg empty]
    have lt : m.whole.start < m.whole.stop := by simpa [Span.isEmpty] using empty
    exact .stop lt

/-- No two offsets are led to. -/
private theorem LeadsTo.unique {r : Nat} (l : LeadsTo h m q) (l' : LeadsTo h m r) : q = r := by
  cases l with
  | stop full =>
    cases l' with
    | stop _ => rfl
    | char _ empty => rw [empty] at full; exact absurd full (Nat.lt_irrefl _)
    | past empty => rw [empty] at full; exact absurd full (Nat.lt_irrefl _)
  | @char s c u cut empty =>
    cases l' with
    | stop full => rw [empty] at full; exact absurd full (Nat.lt_irrefl _)
    | @char s' c' u' cut' empty' =>
      have size : s.byteSize = s'.byteSize := congrArg Span.start (empty.symm.trans empty')
      have rests : c :: u = c' :: u' := by
        rw [← Text.dropBytes_byteSize_append s (c :: u), ← cut, size, cut',
          Text.dropBytes_byteSize_append]
      rw [size, (List.cons.inj rests).1]
    | past empty' =>
      have size : s.byteSize = h.byteSize := congrArg Span.start (empty.symm.trans empty')
      have := c.utf8Size_pos
      rw [cut, Text.byteSize_append, Text.byteSize_cons] at size
      omega
  | past empty =>
    cases l' with
    | stop full => rw [empty] at full; exact absurd full (Nat.lt_irrefl _)
    | @char s c u cut empty' =>
      have size : s.byteSize = h.byteSize := congrArg Span.start (empty'.symm.trans empty)
      have := c.utf8Size_pos
      rw [cut, Text.byteSize_append, Text.byteSize_cons] at size
      omega
    | past _ => rfl

section

variable {preferred : Nat → Option Match} {ms : List Match}

/-- There is one chain from an offset. -/
private theorem Chain.unique (k : Chain preferred h p ms) :
    ∀ ms', Chain preferred h p ms' → ms = ms' := by
  induction k with
  | past outside =>
    intro ms' k'
    cases k' with
    | past _ => rfl
    | stuck _ _ => rfl
    | step cut _ _ _ _ => exact absurd outside (Nat.not_lt.mpr cut.le_byteSize)
  | stuck cut absent =>
    intro ms' k'
    cases k' with
    | past _ => rfl
    | stuck _ _ => rfl
    | step _ here _ _ _ => rw [absent] at here; cases here
  | step cut here _ leads _ ih =>
    intro ms' k'
    cases k' with
    | past outside => exact absurd outside (Nat.not_lt.mpr cut.le_byteSize)
    | stuck _ absent => rw [absent] at here; cases here
    | step _ here' _ leads' rest' =>
      obtain rfl := Option.some.inj (here.symm.trans here')
      obtain rfl := leads.unique leads'
      rw [ih _ rest']

/-- The matches of a chain start at its first offset or later. -/
private theorem Chain.le_start (k : Chain preferred h p ms) : ∀ m ∈ ms, p ≤ m.whole.start := by
  induction k with
  | past _ => simp
  | stuck _ _ => simp
  | step _ _ starts leads _ ih =>
    intro m' member
    rcases List.mem_cons.mp member with rfl | member
    · exact Nat.le_of_eq starts.symm
    · have := leads.start_lt
      have := ih m' member
      omega

/-- The matches of a chain start one behind the other, none before the end of another. -/
private theorem Chain.ordered (k : Chain preferred h p ms) :
    ms.Pairwise fun a b => a.whole.start < b.whole.start ∧ a.whole.stop ≤ b.whole.start := by
  induction k with
  | past _ => exact .nil
  | stuck _ _ => exact .nil
  | step _ _ _ leads rest ih =>
    refine .cons (fun m' member => ?_) ih
    have := rest.le_start m' member
    have := leads.start_lt
    have := leads.stop_le
    omega

/-- There are no more matches in a chain than cuts from its first offset on. -/
private theorem Chain.length_le (k : Chain preferred h p ms)
    (ends : ∀ p m, preferred p = some m → h.IsBoundary m.whole.stop) {s u : Text}
    (split : h = s ++ u) (first : p = s.byteSize) : ms.length ≤ u.length + 1 := by
  induction k generalizing s u with
  | past _ => simp
  | stuck _ _ => simp
  | step _ here starts leads rest ih =>
    rcases leads.progress split (starts.trans first) (ends _ _ here) with
      outside | ⟨s', u', split', next, less⟩
    · cases rest with
      | past _ => simp
      | stuck _ _ => simp
      | step cut _ _ _ _ => exact absurd outside (Nat.not_lt.mpr cut.le_byteSize)
    · have := ih split' next
      rw [List.length_cons]
      omega

end

variable {s s' : Searcher} {preferred : Text → Nat → Option Match}

/-- Fuel for every character that is left, and one more, makes the whole chain. Only what the searcher finds
from cuts between characters counts, so any other that finds the same from there does as well. -/
private theorem chainFrom_isChain (l : s.Leftmost preferred)
    (agrees : ∀ p, h.IsBoundary p → s'.findAt h p = s.findAt h p) (fuel : Nat) {before rest : Text}
    (split : h = before ++ rest) (enough : rest.length < fuel) :
    Chain (preferred h) h before.byteSize (s'.chainFrom h fuel before.byteSize) := by
  induction fuel generalizing before rest with
  | zero => omega
  | succ fuel ih =>
    have cut : h.IsBoundary before.byteSize := ⟨before, rest, split, rfl⟩
    have inside : ¬ h.byteSize < before.byteSize := Nat.not_lt.mpr cut.le_byteSize
    rw [chainFrom, if_neg inside, agrees _ cut]
    cases there : preferred h before.byteSize with
    | none =>
      cases hit : s.findAt h before.byteSize with
      | none => exact .stuck cut there
      | some m =>
        simp only [if_neg (l.start_ne_of_preferred_eq_none cut there hit)]
        exact .stuck cut there
    | some m =>
      obtain ⟨starts, ordered, -, ends⟩ := l.span there
      rw [l.findAt_of_preferred there]
      simp only [if_pos starts]
      have leads : LeadsTo h m _ := leadsTo_next (by rwa [starts]) (by rwa [starts])
      rw [starts] at leads
      refine .step cut there starts leads ?_
      rcases leads.progress split starts ends with outside | ⟨before', rest', split', next, less⟩
      · cases fuel with
        | zero => exact .past outside
        | succ fuel => rw [chainFrom, if_pos outside]; exact .past outside
      · rw [next]
        exact ih split' (by omega)

private theorem chain_isChain (l : s.Leftmost preferred)
    (agrees : ∀ p, h.IsBoundary p → s'.findAt h p = s.findAt h p) :
    Chain (preferred h) h 0 (s'.chain h) :=
  chainFrom_isChain l agrees (h.length + 2) (List.nil_append h).symm (by omega)

end PatternKit.Searcher

namespace PatternKit.Matcher

open Searcher (Chain)

/-- The matches of a sticky pattern are the chain of preferred matches from the beginning of the text. There
is at most one for each place between characters, each starts behind the one before and not before its end,
and no search from anywhere but a cut between characters takes part in them. -/
theorem sticky_matches_are_anchored_chain (m : Matcher) (sticky : m.isSticky = true)
    (preferred : Text → Nat → Option Match) (leftmost : m.searcher.Leftmost preferred) (h : Text) :
    (∀ ms, Chain (preferred h) h 0 ms ↔ ms = m.all h) ∧
    (m.all h).length ≤ h.length + 1 ∧
    ((m.all h).Pairwise fun a b => a.whole.start < b.whole.start ∧ a.whole.stop ≤ b.whole.start) ∧
    (∀ s : Searcher, (∀ p, h.IsBoundary p → s.findAt h p = m.searcher.findAt h p) →
      s.chain h = m.all h) := by
  have all_eq : m.all h = m.searcher.chain h := by simp [all, sticky]
  have whole : Chain (preferred h) h 0 (m.all h) := by
    rw [all_eq]
    exact Searcher.chain_isChain leftmost fun _ _ => rfl
  refine ⟨fun ms => ⟨fun k => k.unique _ whole, fun same => same ▸ whole⟩, ?_, whole.ordered, ?_⟩
  · exact whole.length_le (fun p m there => (leftmost.span there).2.2.2) (List.nil_append h).symm rfl
  · intro s agrees
    exact (Searcher.chain_isChain leftmost agrees).unique _ whole

/-- Runs of a letter behind one of two bytes: an empty one, which moves on by both bytes, then the letter,
then an empty one at the end of the text. -/
theorem sticky_runs_behind_wide_letter :
    let m : Matcher := ⟨Searcher.runsOf 'a', Flags.of .sticky⟩
    m.isSticky = true ∧ m.searcher.Leftmost (Text.runAt 'a') ∧
      Chain (Text.runAt 'a' ['é', 'a']) ['é', 'a'] 0
        [⟨⟨0, 0⟩, []⟩, ⟨⟨2, 3⟩, []⟩, ⟨⟨3, 3⟩, []⟩] := by
  intro m
  have sticky : m.isSticky = true := by decide
  have leftmost : m.searcher.Leftmost (Text.runAt 'a') := Searcher.runsOf_leftmost 'a'
  refine ⟨sticky, leftmost, ?_⟩
  exact ((sticky_matches_are_anchored_chain m sticky _ leftmost ['é', 'a']).1 _).mpr (by decide)

end PatternKit.Matcher
