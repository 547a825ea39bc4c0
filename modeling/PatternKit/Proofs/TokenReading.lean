import PatternKit.Proofs.Token

/-!
Tokens read back. Reading the text of tokens one character after the other leads to the state that taking
the tokens one after the other leads to.
-/

set_option autoImplicit false

namespace PatternKit.Regex

open Ast (Pending sequence)
open Repetition (operand? greed)

/-- The state of reading a sequence. -/
structure Stage where
  groups : GroupTable := {}
  pending : Pending
  pos : Nat
  /-- Whether the last item is a repetition that a question mark would make lazy. -/
  greedy : Bool := false

namespace Stage

/-- The state before a sequence that begins at an offset. -/
def before (groups : GroupTable) (pos : Nat) : Stage := { groups, pending := .from_ pos, pos }

/-- The node for everything read. -/
def finish (s : Stage) : Ast := s.pending.finish s.pos

/-- Adds an item that takes a number of characters. -/
def push (s : Stage) (a : Ast) (width : Nat) : Stage :=
  { s with pending := s.pending.push a, pos := s.pos + width, greedy := false }

def endBranch (s : Stage) : Stage :=
  { s with pending := s.pending.endBranch s.pos, pos := s.pos + 1, greedy := false }

def repeatLast (s : Stage) (q : Quantifier) : Stage :=
  match operand? s.pending.items with
  | none => s
  | some (a, items) =>
    let stop := s.pos + q.suffix.length
    let node : Ast := .repetition ⟨a.span.start, stop⟩ q.least q.greatest true a
    { s with pending := { s.pending with items := node :: items }, pos := stop, greedy := true }

/-- Makes the last item lazy, which is a repetition. -/
def relax (s : Stage) : Stage :=
  match s.pending.items with
  | .repetition span min max _ a :: items =>
    let node : Ast := .repetition ⟨span.start, s.pos + 1⟩ min max false a
    { s with pending := { s.pending with items := node :: items }, pos := s.pos + 1, greedy := false }
  | _ => s

/-- The group that begins at a state. -/
def groupKind (s : Stage) (capturing : Bool) : GroupKind :=
  if capturing then .capturing (s.groups.count + 1) none else .plain []

/-- The state before the sequence in a group. -/
def enter (s : Stage) (capturing : Bool) : Stage :=
  .before { s.groups with count := s.groups.count + if capturing then 1 else 0 }
    (s.pos + (Token.opening capturing).length)

/-- The state behind a group, from the state at its end. -/
def leave (s : Stage) (capturing : Bool) (inner : Stage) : Stage :=
  { s with
    groups := inner.groups
    pending := s.pending.push (.group ⟨s.pos, inner.pos + 1⟩ (s.groupKind capturing) inner.finish)
    pos := inner.pos + 1
    greedy := false }

end Stage

namespace Token

mutual

def feed (s : Stage) : Token → Stage
  | .atom a => s.push (a.node s.pos) a.text.length
  | .group capturing body => s.leave capturing (feedAll (s.enter capturing) body)
  | .bar => s.endBranch
  | .suffix q => if s.greedy = true ∧ q = .optional then s.relax else s.repeatLast q

def feedAll (s : Stage) : List Token → Stage
  | [] => s
  | t :: ts => feedAll (feed s t) ts

end

theorem feedAll_append (s : Stage) (ts us : List Token) :
    feedAll s (ts ++ us) = feedAll (feedAll s ts) us := by
  induction ts generalizing s with
  | nil => simp [feedAll]
  | cons t ts ih => simp [feedAll, ih]

end Token

namespace Ast

variable {fuel p : Nat} {opened : Option Span} {groups : GroupTable} {d : Pending} {t : Text}

/-- Whether a brace at the beginning of a text is followed by a digit. -/
def CountAhead (t : Text) : Prop := ∀ u, t = '{' :: u → ∃ c v, u = c :: v ∧ c.isDigit = true

/-- A character without a meaning of its own in a sequence begins a single item. -/
private theorem sequence_primitive {c : Char} {a : Ast} {after : Reader}
    (plain : c ≠ '(' ∧ c ≠ ')' ∧ c ≠ '|' ∧ c ≠ '[' ∧ c ≠ '{' ∧ Repetition.bounds? c = none)
    (read : primitive false c ⟨p, c :: t⟩ = .ok (a, after)) :
    sequence (fuel + 1) opened false groups d ⟨p, c :: t⟩ =
      sequence fuel opened false groups (d.push a) after := by
  obtain ⟨notOpen, notClose, notBar, notSet, notBrace, notMark⟩ := plain
  show (if c = '(' then _ else if c = ')' then _ else if c = '|' then _ else if c = '[' then _ else
    if c = '{' then _ else _) = _
  rw [if_neg notOpen, if_neg notClose, if_neg notBar, if_neg notSet, if_neg notBrace, notMark]
  dsimp only
  rw [Reader.skip_false, read]
  rfl

private theorem sequence_literal (c : Char) (p : Nat) (t : Text) :
    sequence (fuel + 1) opened false groups d ⟨p, Escape.literal [c] ++ t⟩ =
      sequence fuel opened false groups (d.push ((Atom.literal c).node p))
        ⟨p + (Escape.literal [c]).length, t⟩ := by
  by_cases special : c ∈ Escape.literalMetas
  · have text : Escape.literal [c] = ['\\', c] := by simp [Escape.literal, Escape.escape, special]
    have cases : c = '.' ∨ c = '*' ∨ c = '+' ∨ c = '?' ∨ c = '^' ∨ c = '$' ∨ c = '{' ∨ c = '}' ∨
        c = '(' ∨ c = ')' ∨ c = '|' ∨ c = '[' ∨ c = ']' ∨ c = '\\' := by
      simpa [Escape.literalMetas] using special
    have read : primitive false '\\' ⟨p, '\\' :: c :: t⟩ =
        .ok (.literal ⟨⟨p, p + 2⟩, c, false⟩, ⟨p + 2, t⟩) := by
      rcases cases with
        rfl | rfl | rfl | rfl | rfl | rfl | rfl | rfl | rfl | rfl | rfl | rfl | rfl | rfl <;> rfl
    rw [Atom.node, Atom.text, text]
    exact sequence_primitive (by decide) read
  · have text : Escape.literal [c] = [c] := by simp [Escape.literal, Escape.escape, special]
    have plain : c ≠ '.' ∧ c ≠ '*' ∧ c ≠ '+' ∧ c ≠ '?' ∧ c ≠ '^' ∧ c ≠ '$' ∧ c ≠ '{' ∧ c ≠ '}' ∧
        c ≠ '(' ∧ c ≠ ')' ∧ c ≠ '|' ∧ c ≠ '[' ∧ c ≠ ']' ∧ c ≠ '\\' := by
      simpa [Escape.literalMetas] using special
    obtain ⟨notDot, notStar, notPlus, notMark, notCaret, notDollar, notBrace, -, notOpen, notClose, notBar,
      notSet, -, notBackslash⟩ := plain
    have noBounds : Repetition.bounds? c = none := by
      unfold Repetition.bounds?
      split
      · exact absurd rfl notMark
      · exact absurd rfl notStar
      · exact absurd rfl notPlus
      · rfl
    have read : primitive false c ⟨p, c :: t⟩ = .ok (.literal ⟨⟨p, p + 1⟩, c, false⟩, ⟨p + 1, t⟩) := by
      unfold primitive
      split
      · exact absurd rfl notBackslash
      · exact absurd rfl notDot
      · exact absurd rfl notCaret
      · exact absurd rfl notDollar
      · rfl
    rw [Atom.node, Atom.text, text]
    exact sequence_primitive ⟨notOpen, notClose, notBar, notSet, notBrace, noBounds⟩ read

private theorem wordBoundary_plain (ahead : CountAhead t) (q p : Nat) :
    Escape.wordBoundary false q ⟨p, t⟩ = .ok (.assertion ⟨q, p⟩ .wordBoundary, ⟨p, t⟩) := by
  unfold Escape.wordBoundary
  dsimp only
  split
  · rename_i u
    obtain ⟨c, v, rfl, digit⟩ := ahead u rfl
    have noName : Escape.isBoundaryChar c = false := by
      have bounds : 48 ≤ c.toNat ∧ c.toNat ≤ 57 := Char.isDigit_iff_toNat.mp digit
      have notHyphen : c ≠ '-' := by
        rintro rfl
        exact absurd digit (by decide)
      show (decide (65 ≤ c.val ∧ c.val ≤ 90) || decide (97 ≤ c.val) && decide (c.val ≤ 122) || c == '-') = false
      simp [UInt32.le_iff_toNat_le, notHyphen]
      omega
    show (if (!Escape.isBoundaryChar c) = true then _ else _) = _
    rw [noName]
    rfl
  · rfl

/-- An atom is read as one item. -/
theorem sequence_atom {a : Atom} (fits : a.fits = true) (ahead : a = .wordBoundary → CountAhead t)
    (p : Nat) :
    sequence (fuel + 1) opened false groups d ⟨p, a.text ++ t⟩ =
      sequence fuel opened false groups (d.push (a.node p)) ⟨p + a.text.length, t⟩ := by
  cases a with
  | literal c => exact sequence_literal c p t
  | dot => rfl
  | perl kind negated => cases kind <;> cases negated <;> rfl
  | startLine => rfl
  | endLine => rfl
  | wordBoundary =>
    refine sequence_primitive (t := 'b' :: t) (by decide) ?_
    exact wordBoundary_plain (ahead rfl) p (p + 2)
  | set negated items =>
    obtain ⟨some, fit⟩ : items ≠ [] ∧ SetItem.FitAll items := of_decide_eq_true fits
    have read := Bracket.read_setText some fit negated p t
    have text : ∃ u, SetItem.setText negated items ++ t = '[' :: u := by
      cases negated <;> exact ⟨_, rfl⟩
    obtain ⟨u, text⟩ := text
    show sequence (fuel + 1) opened false groups d ⟨p, SetItem.setText negated items ++ t⟩ = _
    rw [text] at read ⊢
    show (Bracket.read false ⟨p, '[' :: u⟩ >>= fun x =>
      sequence fuel opened false groups (d.push x.1) x.2) = _
    rw [read]
    rfl

/-- The beginning of a group is read, if what follows a parenthesis does not begin with a question mark. -/
private theorem opening_text {capturing : Bool} {u : Text} (plain : capturing = true → u.head? ≠ some '?')
    (s : Stage) :
    Group.opening false s.groups ⟨s.pos, Token.opening capturing ++ u⟩ =
      .ok (.group (s.groupKind capturing) (s.enter capturing).groups, ⟨(s.enter capturing).pos, u⟩) := by
  cases capturing with
  | true =>
    have unmarked (v : Text) : u ≠ '?' :: v := fun same => plain rfl (by rw [same]; rfl)
    show Group.opening false s.groups ⟨s.pos, '(' :: u⟩ = _
    unfold Group.opening
    dsimp only [Reader.advance, Reader.skip, List.drop]
    rw [if_neg Bool.false_ne_true]
    dsimp only
    split <;> first | exact absurd rfl (unmarked _) | rfl
  | false =>
    have moved := Reader.moveTo_append (s.pos + 2) [':'] u
    show Except.ok (Group.Opening.group (.plain []) s.groups,
      Reader.moveTo ⟨s.pos + 2, [':'] ++ u⟩ (s.pos + 2 + 1)) = _
    rw [show s.pos + 2 + 1 = s.pos + 2 + [':'].length from rfl, moved]
    rfl

end Ast

/-- What reading a text from a state comes to. -/
def Stage.read (s : Stage) (fuel : Nat) (opened : Option Span) (t : Text) :
    Except Diagnosis (Ast × GroupTable × Reader) :=
  sequence fuel opened false s.groups s.pending ⟨s.pos, t⟩

/-- Reading a text from a state leads to another state and what is then left of the text. Fuel for each
character that is left is enough on both sides. -/
def Stage.Reads (opened : Option Span) (s : Stage) (t : Text) (s' : Stage) (t' : Text) : Prop :=
  t'.length ≤ t.length ∧
    ∀ fuel, t.length < fuel → ∃ fuel', t'.length < fuel' ∧ s.read fuel opened t = s'.read fuel' opened t'

namespace Stage

variable {s s' s'' inner : Stage} {opened : Option Span} {t t' t'' u : Text}

theorem Reads.refl (opened : Option Span) (s : Stage) (t : Text) : Reads opened s t s t :=
  ⟨Nat.le_refl _, fun fuel enough => ⟨fuel, enough, rfl⟩⟩

theorem Reads.trans (first : Reads opened s t s' t') (second : Reads opened s' t' s'' t'') :
    Reads opened s t s'' t'' := by
  refine ⟨Nat.le_trans second.1 first.1, fun fuel enough => ?_⟩
  obtain ⟨fuel', enough', read⟩ := first.2 fuel enough
  obtain ⟨fuel'', enough'', read'⟩ := second.2 fuel' enough'
  exact ⟨fuel'', enough'', read.trans read'⟩

/-- One step of the reader takes a part of the text. -/
theorem Reads.step {v : Text} (some : v ≠ [])
    (step : ∀ fuel, s.read (fuel + 1) opened (v ++ t) = s'.read fuel opened t) :
    Reads opened s (v ++ t) s' t := by
  have := List.length_pos_iff.mpr some
  refine ⟨by rw [List.length_append]; omega, fun fuel enough => ?_⟩
  obtain ⟨fuel, rfl⟩ := Nat.exists_eq_succ_of_ne_zero (Nat.ne_of_gt (Nat.zero_lt_of_lt enough))
  refine ⟨fuel, ?_, step fuel⟩
  rw [List.length_append] at enough
  omega

/-- What has been read to its end has the structure that the state then has. -/
theorem Reads.ofText (reads : Reads none (.before {} 0) t s []) : Ast.ofText t = .ok s.finish := by
  obtain ⟨fuel', less, read⟩ := reads.2 (t.length + 1) (Nat.lt_succ_self _)
  obtain ⟨fuel', rfl⟩ := Nat.exists_eq_succ_of_ne_zero (Nat.ne_of_gt (Nat.zero_lt_of_lt less))
  show ((Stage.before {} 0).read (t.length + 1) none t >>= _) = _
  rw [read]
  rfl

def Ready (s : Stage) : Prop := ∃ a items, operand? s.pending.items = some (a, items)

theorem reads_atom {a : Atom} (fits : a.fits = true) (ahead : a = .wordBoundary → Ast.CountAhead t) :
    Reads opened s (a.text ++ t) (Token.feed s (.atom a)) t :=
  .step (Atom.text_ne_nil a) fun _ => Ast.sequence_atom fits ahead s.pos

theorem reads_bar : Reads opened s ('|' :: t) s.endBranch t :=
  .step (List.cons_ne_nil '|' []) fun _ => rfl

/-- A group is read by reading what is in it. -/
theorem reads_group {capturing : Bool} (plain : capturing = true → u.head? ≠ some '?')
    (within : Reads (some ⟨s.pos, s.pos + 1⟩) (s.enter capturing) u inner (')' :: t)) :
    Reads opened s (Token.opening capturing ++ u) (s.leave capturing inner) t := by
  obtain ⟨shorter, within⟩ := within
  have nonempty : 0 < (Token.opening capturing).length := by cases capturing <;> decide
  rw [List.length_cons] at shorter
  refine ⟨by rw [List.length_append]; omega, fun fuel enough => ?_⟩
  rw [List.length_append] at enough
  obtain ⟨fuel, rfl⟩ := Nat.exists_eq_succ_of_ne_zero (Nat.ne_of_gt (Nat.zero_lt_of_lt enough))
  obtain ⟨fuel', less, read⟩ := within fuel (by omega)
  obtain ⟨fuel', rfl⟩ := Nat.exists_eq_succ_of_ne_zero (Nat.ne_of_gt (Nat.zero_lt_of_lt less))
  refine ⟨fuel, by omega, ?_⟩
  have result : (s.enter capturing).read fuel (some ⟨s.pos, s.pos + 1⟩) u =
      .ok (inner.finish, inner.groups, ⟨inner.pos, ')' :: t⟩) := read
  have opening := Ast.opening_text plain s
  obtain ⟨v, text⟩ : ∃ v, Token.opening capturing ++ u = '(' :: v := by cases capturing <;> exact ⟨_, rfl⟩
  rw [text] at opening ⊢
  show (Group.opening false s.groups ⟨s.pos, '(' :: v⟩ >>= _) = _
  rw [opening]
  cases capturing with
  | true =>
    show ((s.enter true).read fuel (some ⟨s.pos, s.pos + 1⟩) u >>= _) = _
    rw [result]
    rfl
  | false =>
    show ((s.enter false).read fuel (some ⟨s.pos, s.pos + 1⟩) u >>= _) = _
    rw [result]
    rfl

/-- A suffix without a question mark behind it makes a greedy repetition. -/
theorem reads_suffix {q : Quantifier} (fits : q.Fits) (ready : s.Ready) (unmarked : t.head? ≠ some '?') :
    Reads opened s (q.suffix ++ t) (s.repeatLast q) t := by
  refine .step q.suffix_ne_nil fun fuel => ?_
  obtain ⟨a, items, operand⟩ := ready
  have step := Ast.sequence_suffix fits operand fuel opened s.groups s.pos t
  dsimp only [Ast.repeatedItem] at step
  rw [Repetition.greed_of_head?_ne unmarked] at step
  unfold repeatLast
  rw [operand]
  exact step

/-- A suffix with a question mark behind it makes a lazy repetition. -/
theorem reads_lazy_suffix {q : Quantifier} (fits : q.Fits) (ready : s.Ready) :
    Reads opened s (q.suffix ++ '?' :: t) (s.repeatLast q).relax t := by
  have text : q.suffix ++ '?' :: t = (q.suffix ++ ['?']) ++ t := by simp
  rw [text]
  refine .step (by simp) fun fuel => ?_
  obtain ⟨a, items, operand⟩ := ready
  have step := Ast.sequence_suffix fits operand fuel opened s.groups s.pos ('?' :: t)
  dsimp only [Ast.repeatedItem] at step
  rw [Repetition.greed_mark] at step
  unfold repeatLast
  rw [operand, ← text]
  exact step

end Stage

namespace Token

/-- Where a question mark or a count can begin. -/
private theorem text_eq_cons {ready : Bool} {t : Token} (h : fits ready t = true) :
    ∃ c cs, t.text = c :: cs ∧ (c = '?' → t = .suffix .optional) ∧
      (c = '{' → ∃ d ds, cs = d :: ds ∧ d.isDigit = true) := by
  have other (c : Char) (cs : Text) (text : t.text = c :: cs) (notMark : c ≠ '?') (notBrace : c ≠ '{') :
      ∃ c cs, t.text = c :: cs ∧ (c = '?' → t = .suffix .optional) ∧
        (c = '{' → ∃ d ds, cs = d :: ds ∧ d.isDigit = true) :=
    ⟨c, cs, text, fun same => absurd same notMark, fun same => absurd same notBrace⟩
  cases t with
  | atom a =>
    cases a with
    | literal c =>
      by_cases special : c ∈ Escape.literalMetas
      · exact other '\\' [c]
          (by simp [text, Atom.text, Escape.literal, Escape.escape, special]) (by decide) (by decide)
      · refine other c []
          (by simp [text, Atom.text, Escape.literal, Escape.escape, special]) ?_ ?_ <;>
          · rintro rfl
            exact special (by decide)
    | set negated items => cases negated <;> exact other _ _ rfl (by decide) (by decide)
    | _ => exact other _ _ rfl (by decide) (by decide)
  | group capturing body => cases capturing <;> exact other _ _ rfl (by decide) (by decide)
  | bar => exact other _ _ rfl (by decide) (by decide)
  | suffix q =>
    have brace (q : Quantifier) (n : Nat) (u : Text) (text : q.suffix = '{' :: (Text.ofNat n ++ u)) :
        ∃ c cs, q.suffix = c :: cs ∧ (c = '?' → Token.suffix q = .suffix .optional) ∧
          (c = '{' → ∃ d ds, cs = d :: ds ∧ d.isDigit = true) := by
      obtain ⟨d, ds, digits, digit⟩ := Repetition.ofNat_eq_cons n
      exact ⟨'{', _, text, fun same => absurd same (by decide), fun _ =>
        ⟨d, ds ++ u, by rw [digits]; rfl, digit⟩⟩
    cases q with
    | optional => exact ⟨'?', [], rfl, fun _ => rfl, fun same => absurd same (by decide)⟩
    | oneOrMore => exact other _ _ rfl (by decide) (by decide)
    | zeroOrMore => exact other _ _ rfl (by decide) (by decide)
    | exactly n => exact brace (.exactly n) n ['}'] rfl
    | atLeast n => exact brace (.atLeast n) n [',', '}'] rfl
    | between m n ordered =>
      exact brace (.between m n ordered) m (',' :: Text.ofNat n ++ ['}']) (by simp [Quantifier.suffix])

/-- What can follow a sequence: nothing, or the end of the group it stands in. -/
def EndsSequence (t : Text) : Prop := t = [] ∨ ∃ u, t = ')' :: u

variable {ready : Bool} {ts : List Token} {t : Text}

private theorem head?_textAll_ne (fit : fitAll ready ts = true) (stops : EndsSequence t)
    (unmarked : ts.head? ≠ some (.suffix .optional)) : (textAll ts ++ t).head? ≠ some '?' := by
  cases ts with
  | nil =>
    rcases stops with rfl | ⟨u, rfl⟩
    · simp [textAll]
    · simp [textAll]
  | cons x ts =>
    obtain ⟨c, cs, text, mark, -⟩ := text_eq_cons (fitAll_cons.mp fit).1
    have notMark : c ≠ '?' := fun same => unmarked (by rw [mark same]; rfl)
    rw [textAll, text]
    exact fun same => notMark (Option.some.inj same)

private theorem countAhead_textAll (fit : fitAll ready ts = true) (stops : EndsSequence t) :
    Ast.CountAhead (textAll ts ++ t) := by
  intro u same
  cases ts with
  | nil =>
    rcases stops with rfl | ⟨v, rfl⟩
    · cases same
    · cases (List.cons.inj same).1
  | cons x ts =>
    obtain ⟨c, cs, text, -, count⟩ := text_eq_cons (fitAll_cons.mp fit).1
    rw [textAll, text] at same
    obtain ⟨brace, rfl⟩ := List.cons.inj same
    obtain ⟨d, ds, rfl, digit⟩ := count brace
    exact ⟨d, _, rfl, digit⟩

private theorem head?_ne_suffix (fit : fitAll false ts = true) {q : Quantifier} :
    ts.head? ≠ some (.suffix q) := by
  intro same
  obtain ⟨us, rfl⟩ := List.head?_eq_some_iff.mp same
  simp [fitAll, fits] at fit

private theorem feed_suffix {s : Stage} {q : Quantifier}
    (unmarked : s.greedy = true → Token.suffix q ≠ .suffix .optional) :
    feed s (.suffix q) = s.repeatLast q := by
  have plain : ¬ (s.greedy = true ∧ q = .optional) := fun both =>
    unmarked both.1 (by rw [both.2])
  rw [feed, if_neg plain]

private theorem feed_ready {s : Stage} {x : Token} (fit : fits ready x = true) (before : ready = true → s.Ready)
    (operand : x.isOperand = true) (unmarked : s.greedy = true → x ≠ .suffix .optional) :
    (feed s x).Ready := by
  cases x with
  | atom a => cases a <;> exact ⟨_, _, rfl⟩
  | group capturing body => exact ⟨_, _, rfl⟩
  | bar => cases operand
  | suffix q =>
    have ready : ready = true := by simp [fits] at fit; exact fit.1
    obtain ⟨a, items, operand⟩ := before ready
    rw [feed_suffix unmarked, Stage.repeatLast, operand]
    exact ⟨_, _, rfl⟩

/-- A question mark behind a suffix makes the repetition lazy. -/
private theorem feed_lazy {s : Stage} {q : Quantifier} (ready : s.Ready)
    (unmarked : s.greedy = true → Token.suffix q ≠ .suffix .optional) :
    feed (feed s (.suffix q)) (.suffix .optional) = (s.repeatLast q).relax ∧
      (s.repeatLast q).relax.Ready ∧ (s.repeatLast q).relax.greedy = false := by
  obtain ⟨a, items, last⟩ := ready
  rw [feed_suffix unmarked, feed, Stage.repeatLast, last]
  exact ⟨if_pos ⟨rfl, rfl⟩, ⟨_, _, rfl⟩, rfl⟩

/-- Reading the text of tokens that fit leads to where taking the tokens leads to. Each token is a step of the
reader, but a suffix with a question mark behind it is one step together with that. -/
theorem reads_textAll (ts : List Token) {ready : Bool} (fit : fitAll ready ts = true) (s : Stage)
    (before : ready = true → s.Ready) (unmarked : s.greedy = true → ts.head? ≠ some (.suffix .optional))
    (t : Text) (stops : EndsSequence t) (opened : Option Span) :
    Stage.Reads opened s (textAll ts ++ t) (feedAll s ts) t := by
  cases ts with
  | nil => exact .refl opened s t
  | cons x ts =>
    obtain ⟨fits, fitRest⟩ := fitAll_cons.mp fit
    have unmarkedHere : s.greedy = true → x ≠ .suffix .optional := fun greedy same =>
      unmarked greedy (by rw [same]; rfl)
    have operand (is : x.isOperand = true) : (feed s x).Ready := feed_ready fits before is unmarkedHere
    have onward (next : (feed s x).greedy = true → ts.head? ≠ some (.suffix .optional))
        (step : Stage.Reads opened s (x.text ++ (textAll ts ++ t)) (feed s x) (textAll ts ++ t)) :
        Stage.Reads opened s (textAll (x :: ts) ++ t) (feedAll s (x :: ts)) t := by
      rw [textAll, List.append_assoc, feedAll]
      exact step.trans (reads_textAll ts fitRest (feed s x) operand next t stops opened)
    cases x with
    | atom a =>
      refine onward (fun greedy => by cases greedy) (Stage.reads_atom fits fun _ => ?_)
      exact countAhead_textAll fitRest stops
    | bar => exact onward (fun greedy => by cases greedy) Stage.reads_bar
    | group capturing body =>
      have plain : capturing = true → (textAll body ++ ')' :: (textAll ts ++ t)).head? ≠ some '?' := fun _ =>
        head?_textAll_ne fits (.inr ⟨_, rfl⟩) (head?_ne_suffix fits)
      have within := reads_textAll body fits (s.enter capturing) (fun h => by cases h)
        (fun h => by cases h) (')' :: (textAll ts ++ t)) (.inr ⟨_, rfl⟩) (some ⟨s.pos, s.pos + 1⟩)
      have text : Token.text (.group capturing body) ++ (textAll ts ++ t) =
          opening capturing ++ (textAll body ++ ')' :: (textAll ts ++ t)) := by simp [Token.text]
      refine onward (fun greedy => by cases greedy) ?_
      rw [text]
      exact Stage.reads_group plain within
    | suffix q =>
      have parts : ready = true ∧ q.Fits := by simpa [Token.fits] using fits
      by_cases mark : ts.head? = some (.suffix .optional)
      · obtain ⟨us, rfl⟩ := List.head?_eq_some_iff.mp mark
        obtain ⟨lazy, again, strict⟩ := feed_lazy (before parts.1) unmarkedHere
        have rest := reads_textAll us (fitAll_cons.mp fitRest).2 (s.repeatLast q).relax (fun _ => again)
          (fun greedy => by rw [strict] at greedy; cases greedy) t stops opened
        have text : textAll (.suffix q :: .suffix .optional :: us) ++ t =
            q.suffix ++ '?' :: (textAll us ++ t) := by simp [textAll, Token.text, Quantifier.suffix]
        rw [text, feedAll, feedAll, lazy]
        exact (Stage.reads_lazy_suffix parts.2 (before parts.1)).trans rest
      · refine onward (fun _ => mark) ?_
        rw [feed_suffix unmarkedHere]
        exact Stage.reads_suffix parts.2 (before parts.1) (head?_textAll_ne fitRest stops mark)
termination_by sizeOf ts

/-- The structure of the text of tokens that fit is what taking the tokens makes. -/
theorem ofText_textAll {ts : List Token} (fit : fitAll false ts = true) :
    Ast.ofText (textAll ts) = .ok (feedAll (.before {} 0) ts).finish := by
  have reads := reads_textAll ts fit (.before {} 0) (fun h => by cases h) (fun h => by cases h) []
    (.inl rfl) none
  rw [List.append_nil] at reads
  exact reads.ofText

end Token

end PatternKit.Regex
