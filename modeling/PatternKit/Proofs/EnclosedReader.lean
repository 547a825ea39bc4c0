import PatternKit.Proofs.BareStructure
import PatternKit.Regex.Ast.OfText

/-!
Reading an enclosed text. A text is read in the same way when it stands behind other characters and before a closing
parenthesis: the same nodes are read, and the readers keep abreast. Only a comment at the end of extended text makes a
difference, for it swallows the parenthesis.
-/

set_option autoImplicit false

namespace PatternKit.Regex

/-! Computations side by side. -/

/-- Whether the answers of two computations are related, if neither fails. -/
def Agree {α β : Type} (related : α → β → Prop) (x : Except Diagnosis α) (y : Except Diagnosis β) : Prop :=
  ∀ a b, x = .ok a → y = .ok b → related a b

namespace Agree

variable {α β γ δ : Type} {related : α → β → Prop} {related' : γ → δ → Prop} {x : Except Diagnosis α}
  {y : Except Diagnosis β}

theorem ok {a : α} {b : β} (here : related a b) : Agree related (.ok a) (.ok b) := by
  rintro _ _ ⟨⟩ ⟨⟩
  exact here

theorem left (d : Diagnosis) (y : Except Diagnosis β) : Agree related (.error d) y := by
  rintro _ _ ⟨⟩

theorem right (d : Diagnosis) (x : Except Diagnosis α) : Agree related x (.error d) := by
  rintro _ _ _ ⟨⟩

theorem bind {f : α → Except Diagnosis γ} {g : β → Except Diagnosis δ} (first : Agree related x y)
    (rest : ∀ a b, related a b → Agree related' (f a) (g b)) : Agree related' (x >>= f) (y >>= g) := by
  cases x with
  | error d => exact left d _
  | ok a =>
    cases y with
    | error d => exact right d _
    | ok b => exact rest a b (first a b rfl rfl)

theorem ite {c : Prop} [Decidable c] {x' : Except Diagnosis α} {y' : Except Diagnosis β} (yes : c → Agree related x y)
    (no : ¬ c → Agree related x' y') : Agree related (if c then x else x') (if c then y else y') := by
  by_cases here : c
  · rw [if_pos here, if_pos here]
    exact yes here
  · rw [if_neg here, if_neg here]
    exact no here

theorem mono {wider : α → β → Prop} (agree : Agree related x y) (wide : ∀ a b, related a b → wider a b) :
    Agree wider x y :=
  fun a b first second => wide a b (agree a b first second)

end Agree

/-! What a text begins with. -/

theorem isPrefixOf_of_eq {p t u : Text} (starts : t = p ++ u) : p.isPrefixOf t = true :=
  List.isPrefixOf_iff_prefix.mpr ⟨u, starts.symm⟩

theorem isPrefixOf_of_ne {p t : Text} (none : ∀ u, t ≠ p ++ u) : ¬ p.isPrefixOf t = true := fun starts =>
  have ⟨u, same⟩ := List.isPrefixOf_iff_prefix.mp starts
  none u same.symm

/-- Characters other than a parenthesis stand at the beginning also before a parenthesis only where they stood there. -/
theorem isPrefixOf_append_close {p : Text} (other : ')' ∉ p) (t : Text) :
    p.isPrefixOf (t ++ [')']) = p.isPrefixOf t := by
  induction p generalizing t with
  | nil => rfl
  | cons c p ih =>
    cases t with
    | nil =>
      have differs : (c == ')') = false := beq_eq_false_iff_ne.mpr fun same => other (same ▸ List.mem_cons_self)
      show (c == ')' && p.isPrefixOf []) = false
      rw [differs, Bool.false_and]
    | cons d t =>
      rw [List.cons_append, List.isPrefixOf, List.isPrefixOf, ih fun member => other (List.mem_cons_of_mem _ member)]

namespace Reader

variable {gap : Nat} {r r' : Reader}

/-- The reader at the same place of a text that stands behind `gap` characters and before a closing parenthesis. -/
def enclose (gap : Nat) (r : Reader) : Reader := ⟨r.pos + gap, r.rest ++ [')']⟩

/-- Whether a reader of the enclosed text keeps abreast: it is at the same place, or both are at the end, where the
parenthesis has been taken for part of a comment. -/
def Follows (gap : Nat) (r r' : Reader) : Prop := r' = r.enclose gap ∨ r.rest = [] ∧ r'.rest = []

/-- Where something is left to read, nothing has been swallowed. -/
theorem Follows.eq_enclose (follows : Follows gap r r') (some : r.rest ≠ []) : r' = r.enclose gap := by
  rcases follows with same | ⟨none, -⟩
  · exact same
  · exact absurd none some

theorem Follows.isPrefixOf (follows : Follows gap r r') {p : Text} (other : ')' ∉ p) :
    p.isPrefixOf r'.rest = p.isPrefixOf r.rest := by
  rcases follows with rfl | ⟨none, none'⟩
  · exact isPrefixOf_append_close other r.rest
  · rw [none, none']

theorem advance_enclose {n : Nat} (le : n ≤ r.rest.length) :
    (r.enclose gap).advance n = (r.advance n).enclose gap := by
  have pos : r.pos + gap + n = r.pos + n + gap := by omega
  rw [enclose, enclose, advance, advance, pos, List.drop_append_of_le_length le]

theorem moveTo_enclose {p : Nat} (first : r.pos ≤ p) (last : p ≤ r.stop) :
    (r.enclose gap).moveTo (p + gap) = (r.moveTo p).enclose gap := by
  have distance : p + gap - (r.pos + gap) = p - r.pos := by omega
  have le : p - r.pos ≤ r.rest.length := by
    unfold stop at last
    omega
  rw [enclose, enclose, moveTo, moveTo, distance, List.drop_append_of_le_length le]

theorem moveTo_behind {p : Nat} (first : r.pos ≤ p) (last : p < r.stop) :
    (r.enclose gap).moveTo (p + gap + 1) = (r.moveTo (p + 1)).enclose gap := by
  rw [show p + gap + 1 = p + 1 + gap by omega, moveTo_enclose (Nat.le_succ_of_le first) last]

theorem rest_enclose {c : Char} {t : Text} (rest : r.rest = c :: t) :
    (r.enclose gap).rest = c :: (t ++ [')']) := by
  rw [enclose, rest, List.cons_append]

theorem stop_advance {n : Nat} (le : n ≤ r.rest.length) : (r.advance n).stop = r.stop := by
  simp only [stop, advance, List.length_drop]
  omega

theorem length_advance_le (r : Reader) (n : Nat) : (r.advance n).rest.length ≤ r.rest.length :=
  (List.drop_sublist n r.rest).length_le

theorem length_moveTo_le (r : Reader) (p : Nat) : (r.moveTo p).rest.length ≤ r.rest.length := by
  rw [moveTo, List.length_drop]
  exact Nat.sub_le _ _

private theorem skipBlanks_follows (inComment : Bool) (pos : Nat) (t : Text) :
    Follows gap (skipBlanks inComment pos t) (skipBlanks inComment (pos + gap) (t ++ [')'])) := by
  induction t generalizing inComment pos with
  | nil =>
    cases inComment with
    | false => exact .inl rfl
    | true => exact .inr ⟨rfl, rfl⟩
  | cons c t ih =>
    have next : pos + gap + 1 = pos + 1 + gap := by omega
    rw [List.cons_append, skipBlanks, skipBlanks, next]
    split
    · exact ih _ _
    · split
      · exact ih _ _
      · split
        · exact ih _ _
        · exact .inl rfl

theorem skip_follows (extended : Bool) (r : Reader) :
    Follows gap (r.skip extended) ((r.enclose gap).skip extended) := by
  cases extended with
  | false => exact .inl rfl
  | true => exact skipBlanks_follows false r.pos r.rest

theorem Follows.skip (follows : Follows gap r r') (extended : Bool) :
    Follows gap (r.skip extended) (r'.skip extended) := by
  rcases follows with rfl | ⟨none, none'⟩
  · exact skip_follows extended r
  · obtain ⟨pos, rest⟩ := r
    obtain ⟨pos', rest'⟩ := r'
    subst none none'
    exact .inr ⟨by cases extended <;> rfl, by cases extended <;> rfl⟩

private theorem length_skipBlanks_le (inComment : Bool) (pos : Nat) (t : Text) :
    (skipBlanks inComment pos t).rest.length ≤ t.length := by
  induction t generalizing inComment pos with
  | nil => exact Nat.le_refl 0
  | cons c t ih =>
    rw [skipBlanks]
    split
    · exact Nat.le_succ_of_le (ih _ _)
    · split
      · exact Nat.le_succ_of_le (ih _ _)
      · split
        · exact Nat.le_succ_of_le (ih _ _)
        · exact Nat.le_refl _

theorem length_skip_le (extended : Bool) (r : Reader) : (r.skip extended).rest.length ≤ r.rest.length := by
  cases extended with
  | false => exact Nat.le_refl _
  | true => exact length_skipBlanks_le false r.pos r.rest

/-- Characters that count, seen from `start` on in a text that ends at `stop`, and those that are seen in the enclosed
text: the same ones, and behind them the parenthesis, unless a comment has swallowed it. -/
inductive Sees (gap start stop : Nat) : List (Nat × Char) → List (Nat × Char) → Prop
  | swallowed : Sees gap start stop [] []
  | close : Sees gap start stop [] [(stop + gap, ')')]
  | next {p : Nat} (c : Char) {vs vs' : List (Nat × Char)} (first : start ≤ p) (last : p < stop)
    (rest : Sees gap start stop vs vs') : Sees gap start stop ((p, c) :: vs) ((p + gap, c) :: vs')

private theorem visibleFrom_sees {start pos : Nat} (first : start ≤ pos) (inComment : Bool) (t : Text) :
    Sees gap start (pos + t.length) (visibleFrom inComment pos t) (visibleFrom inComment (pos + gap) (t ++ [')'])) := by
  induction t generalizing inComment pos with
  | nil =>
    cases inComment with
    | false => exact .close
    | true => exact .swallowed
  | cons c t ih =>
    have next : pos + gap + 1 = pos + 1 + gap := by omega
    have stop : pos + (c :: t).length = pos + 1 + t.length := by rw [List.length_cons]; omega
    rw [List.cons_append, visibleFrom, visibleFrom, next, stop]
    split
    · exact ih (Nat.le_succ_of_le first) _
    · split
      · exact ih (Nat.le_succ_of_le first) _
      · split
        · exact ih (Nat.le_succ_of_le first) _
        · exact .next c first (by omega) (ih (Nat.le_succ_of_le first) _)

private theorem numberFrom_sees {start pos : Nat} (first : start ≤ pos) (t : Text) :
    Sees gap start (pos + t.length) (numberFrom pos t) (numberFrom (pos + gap) (t ++ [')'])) := by
  induction t generalizing pos with
  | nil => exact .close
  | cons c t ih =>
    have next : pos + gap + 1 = pos + 1 + gap := by omega
    have stop : pos + (c :: t).length = pos + 1 + t.length := by rw [List.length_cons]; omega
    rw [List.cons_append, numberFrom, numberFrom, next, stop]
    exact .next c first (by omega) (ih (Nat.le_succ_of_le first))

theorem visible_sees (gap : Nat) (extended : Bool) (r : Reader) :
    Sees gap r.pos r.stop (r.visible extended) ((r.enclose gap).visible extended) := by
  cases extended with
  | false => exact numberFrom_sees (Nat.le_refl _) r.rest
  | true => exact visibleFrom_sees (Nat.le_refl _) false r.rest

/-- What is seen behind the next character. -/
theorem visible_behind (gap : Nat) (extended : Bool) {r : Reader} (nonempty : 1 ≤ r.rest.length) :
    Sees gap (r.advance 1).pos r.stop ((r.advance 1).visible extended)
      (((r.enclose gap).advance 1).visible extended) := by
  have sees := visible_sees gap extended (r.advance 1)
  rwa [← advance_enclose nonempty, stop_advance nonempty] at sees

/-- The readers that go on at the first of the characters that are left keep abreast. -/
theorem Sees.moveTo_offsetOf {start : Nat} {vs vs' : List (Nat × Char)} (sees : Sees gap start r.stop vs vs')
    (first : r.pos ≤ start) :
    Follows gap (r.moveTo (r.offsetOf vs)) ((r.enclose gap).moveTo ((r.enclose gap).offsetOf vs')) := by
  have atStop : r.pos ≤ r.stop := Nat.le_add_right _ _
  cases sees with
  | swallowed =>
    have stop : r.stop - r.pos = r.rest.length := Nat.add_sub_cancel_left _ _
    have stop' : (r.enclose gap).stop - (r.enclose gap).pos = (r.enclose gap).rest.length := Nat.add_sub_cancel_left _ _
    refine .inr ⟨?_, ?_⟩
    · rw [offsetOf, moveTo, stop, List.drop_length]
    · rw [offsetOf, moveTo, stop', List.drop_length]
  | close => exact .inl (moveTo_enclose atStop (Nat.le_refl _))
  | next c le lt rest => exact .inl (moveTo_enclose (Nat.le_trans first le) (Nat.le_of_lt lt))

/-- A character other than a parenthesis comes next in both texts or in neither. -/
theorem Sees.next_or {start stop : Nat} {vs vs' : List (Nat × Char)} (sees : Sees gap start stop vs vs') {d : Char}
    (other : d ≠ ')') :
    (∃ p after after', vs = (p, d) :: after ∧ vs' = (p + gap, d) :: after' ∧ start ≤ p ∧ p < stop ∧
      Sees gap start stop after after') ∨
      (∀ p after, vs ≠ (p, d) :: after) ∧ ∀ p after, vs' ≠ (p, d) :: after := by
  cases sees with
  | swallowed => exact .inr ⟨fun _ _ => (List.cons_ne_nil _ _).symm, fun _ _ => (List.cons_ne_nil _ _).symm⟩
  | close =>
    refine .inr ⟨fun _ _ => (List.cons_ne_nil _ _).symm, fun p after same => ?_⟩
    cases same
    exact other rfl
  | next c first last rest =>
    by_cases here : c = d
    · subst here
      exact .inl ⟨_, _, _, rfl, rfl, first, last, rest⟩
    · refine .inr ⟨fun p after same => ?_, fun p after same => ?_⟩
      · cases same
        exact here rfl
      · cases same
        exact here rfl

theorem Sees.dropWhile {start stop : Nat} {vs vs' : List (Nat × Char)} (sees : Sees gap start stop vs vs')
    (q : Char → Bool) : Sees gap start stop (vs.dropWhile fun v => q v.2) (vs'.dropWhile fun v => q v.2) := by
  induction sees with
  | swallowed => exact .swallowed
  | close =>
    cases taken : q ')' with
    | false => simp only [List.dropWhile, taken]; exact .close
    | true => simp only [List.dropWhile, taken]; exact .swallowed
  | next c first last rest ih =>
    cases taken : q c with
    | false => simp only [List.dropWhile, taken]; exact .next c first last rest
    | true => simp only [List.dropWhile, taken]; exact ih

/-- The characters up to one that stands in the text, or up to the parenthesis, are the same. -/
theorem Sees.takeWhile {start stop : Nat} {vs vs' : List (Nat × Char)} (sees : Sees gap start stop vs vs')
    (q : Char → Bool) (ends : q ')' = false ∨ (vs.dropWhile fun v => q v.2) ≠ []) :
    (vs'.takeWhile fun v => q v.2).map (·.2) = (vs.takeWhile fun v => q v.2).map (·.2) := by
  induction sees with
  | swallowed => rfl
  | close =>
    rcases ends with stays | more
    · simp only [List.takeWhile, stays]
    · exact absurd rfl more
  | next c first last rest ih =>
    cases taken : q c with
    | false => simp only [List.takeWhile, taken]
    | true =>
      simp only [List.takeWhile, List.dropWhile, taken, List.map_cons] at ends ⊢
      rw [ih ends]

end Reader

/-! Escape sequences. -/

open Reader (Follows Sees enclose)

/-- Whether what has been read of a text, and of the enclosed text, is the same node, with readers that keep abreast.
`left` bounds what is left of the text. -/
structure SameNode (gap left : Nat) (x x' : Ast × Reader) : Prop where
  bare : x'.1.bare = x.1.bare
  follows : Follows gap x.2 x'.2
  length : x.2.rest.length ≤ left

namespace Escape

variable {gap start stop : Nat} {vs vs' : List (Nat × Char)}

private theorem hexDigits_agree (sees : Sees gap start stop vs vs') (s s' n value : Nat) :
    Agree (fun x x' => x.1 = x'.1 ∧ Sees gap start stop x.2 x'.2) (hexDigits s n value vs)
      (hexDigits s' n value vs') := by
  induction n generalizing value vs vs' with
  | zero => exact .ok ⟨rfl, sees⟩
  | succ n ih =>
    cases sees with
    | swallowed => exact .left _ _
    | close => exact .left _ _
    | next c first last rest =>
      rw [hexDigits, hexDigits]
      cases CharSet.hexValue? c with
      | none => exact .left _ _
      | some d => exact ih rest _

private theorem hexUntilBrace_agree (sees : Sees gap start stop vs vs') (b b' s s' : Nat) (value : Option Nat) :
    Agree (fun x x' => x.1 = x'.1 ∧ Sees gap start stop x.2.2 x'.2.2) (hexUntilBrace b s value vs)
      (hexUntilBrace b' s' value vs') := by
  induction sees generalizing value with
  | swallowed => exact .left _ _
  | close => exact .left _ _
  | next c first last rest ih =>
    rw [hexUntilBrace, hexUntilBrace]
    refine .ite (fun _ => .ok ⟨rfl, rest⟩) fun _ => ?_
    cases CharSet.hexValue? c with
    | none => exact .left _ _
    | some d => exact ih _

theorem hex_agree (extended : Bool) (from_ from' digits : Nat) (r : Reader) :
    Agree (SameNode gap r.rest.length) (hex extended from_ digits r) (hex extended from' digits (r.enclose gap)) := by
  have sees := Reader.visible_sees gap extended r
  unfold hex
  generalize r.visible extended = vs at sees
  generalize (r.enclose gap).visible extended = vs' at sees
  cases sees with
  | swallowed => exact .left _ _
  | close => exact .left _ _
  | next c first last rest =>
    dsimp only
    refine .ite (fun _ => ?_) fun _ => ?_
    · refine (hexUntilBrace_agree rest _ _ _ _ none).bind ?_
      rintro ⟨value, close, after⟩ ⟨_, close', after'⟩ ⟨rfl, behind⟩
      cases value with
      | none => exact .left _ _
      | some n =>
        dsimp only
        cases scalar? n with
        | none => exact .left _ _
        | some ch => exact .ok ⟨rfl, behind.moveTo_offsetOf (Nat.le_refl _), r.length_moveTo_le _⟩
    · refine (hexDigits_agree (.next c first last rest) _ _ digits 0).bind ?_
      rintro ⟨n, after⟩ ⟨_, after'⟩ ⟨rfl, behind⟩
      dsimp only
      cases scalar? n with
      | none => exact .left _ _
      | some ch => exact .ok ⟨rfl, behind.moveTo_offsetOf (Nat.le_refl _), r.length_moveTo_le _⟩

theorem property_agree (extended negated : Bool) (at_ at' : Nat) (r : Reader) :
    Agree (SameNode gap r.rest.length) (property extended at_ negated r)
      (property extended at' negated (r.enclose gap)) := by
  have sees := Reader.visible_sees gap extended r
  unfold property
  generalize r.visible extended = vs at sees
  generalize (r.enclose gap).visible extended = vs' at sees
  cases sees with
  | swallowed => exact .left _ _
  | close => exact .left _ _
  | next c first last rest =>
    dsimp only
    refine .ite (fun _ => ?_) fun _ => .ite (fun _ => .left _ _) fun _ => ?_
    · have behind := rest.dropWhile (· != '}')
      have asked := rest.takeWhile (· != '}')
      generalize List.dropWhile _ _ = after at behind asked ⊢
      generalize List.dropWhile _ _ = after' at behind ⊢
      cases behind with
      | swallowed => exact .left _ _
      | close => exact .left _ _
      | next d from_ until_ more =>
        dsimp only
        rw [asked (.inr (List.cons_ne_nil _ _))]
        exact .ok ⟨rfl, .inl (Reader.moveTo_behind from_ until_), r.length_moveTo_le _⟩
    · exact .ok ⟨rfl, rest.moveTo_offsetOf (Nat.le_refl _), r.length_moveTo_le _⟩

private theorem isBoundaryChar_close : isBoundaryChar ')' = false := by decide

private theorem wordBoundary_plain {extended : Bool} {at_ : Nat} {r : Reader} (plain : r.rest.head? ≠ some '{') :
    wordBoundary extended at_ r = .ok (.assertion ⟨at_, r.pos⟩ .wordBoundary, r) := by
  unfold wordBoundary
  split
  · next brace => exact absurd (by rw [brace]; rfl) plain
  · rfl

theorem wordBoundary_agree (extended : Bool) (at_ at' : Nat) (r : Reader) :
    Agree (SameNode gap r.rest.length) (wordBoundary extended at_ r) (wordBoundary extended at' (r.enclose gap)) := by
  have plain : Agree (SameNode gap r.rest.length) (.ok (.assertion ⟨at_, r.pos⟩ .wordBoundary, r))
      (.ok (.assertion ⟨at', (r.enclose gap).pos⟩ .wordBoundary, r.enclose gap)) :=
    .ok ⟨rfl, .inl rfl, Nat.le_refl _⟩
  by_cases brace : r.rest.head? = some '{'
  · obtain ⟨t, rest⟩ : ∃ t, r.rest = '{' :: t := List.head?_eq_some_iff.mp brace
    have le : 1 ≤ r.rest.length := by rw [rest]; exact Nat.succ_le_succ (Nat.zero_le _)
    have sees := Reader.visible_behind gap extended le
    have shorter (p : Nat) : (r.moveTo p).rest.length ≤ ('{' :: t).length := rest ▸ r.length_moveTo_le p
    unfold wordBoundary
    rw [Reader.rest_enclose rest]
    rw [rest] at plain ⊢
    dsimp only
    generalize (r.advance 1).visible extended = vs at sees
    generalize ((r.enclose gap).advance 1).visible extended = vs' at sees
    have all := sees
    cases sees with
    | swallowed => exact .left _ _
    | close => exact .left _ _
    | next c first last more =>
      dsimp only
      cases isBoundaryChar c with
      | false => exact plain
      | true =>
        have name := all.takeWhile isBoundaryChar (.inl isBoundaryChar_close)
        have behind := all.dropWhile isBoundaryChar
        rw [if_neg (by decide), if_neg (by decide), name]
        generalize List.dropWhile _ _ = after at behind ⊢
        generalize List.dropWhile _ _ = after' at behind ⊢
        cases behind with
        | swallowed => exact .left _ _
        | close => exact .left _ _
        | next d from_ until_ more =>
          dsimp only
          refine .ite (fun _ => ?_) fun _ => .left _ _
          cases namedBoundary? _ with
          | none => exact .left _ _
          | some kind =>
            have before : r.pos ≤ (r.advance 1).pos := Nat.le_succ _
            exact .ok ⟨rfl, .inl (Reader.moveTo_behind (Nat.le_trans before from_) until_), shorter _⟩
  · have brace' : (r.enclose gap).rest.head? ≠ some '{' := by
      rw [enclose, List.head?_append]
      cases rest : r.rest.head? with
      | none => decide
      | some c => rwa [rest] at brace
    rw [wordBoundary_plain brace, wordBoundary_plain brace']
    exact plain

private theorem letter?_agree (span span' : Span) (c : Char) :
    (letter? span' c).map Ast.bare = (letter? span c).map Ast.bare := by
  unfold letter?
  dsimp only
  split <;> rfl

theorem read_agree (extended : Bool) (r : Reader) :
    Agree (SameNode gap (r.rest.length - 1)) (read extended r) (read extended (r.enclose gap)) := by
  obtain ⟨pos, rest⟩ := r
  match rest with
  | [] => exact .left _ _
  | [_] => exact .left _ _
  | b :: c :: t =>
    have after : (enclose gap ⟨pos, b :: c :: t⟩).advance 2 = (Reader.advance ⟨pos, b :: c :: t⟩ 2).enclose gap :=
      Reader.advance_enclose (Nat.succ_le_succ (Nat.succ_le_succ (Nat.zero_le _)))
    have shorter : (Reader.advance ⟨pos, b :: c :: t⟩ 2).rest.length ≤ (b :: c :: t).length - 1 := Nat.le_succ _
    have here {a a' : Ast} (same : a'.bare = a.bare) :
        Agree (SameNode gap ((b :: c :: t).length - 1)) (.ok (a, Reader.advance ⟨pos, b :: c :: t⟩ 2))
          (.ok (a', (Reader.advance ⟨pos, b :: c :: t⟩ 2).enclose gap)) :=
      .ok ⟨same, .inl rfl, shorter⟩
    unfold read
    rw [after]
    generalize Reader.advance ⟨pos, b :: c :: t⟩ 2 = behind at here shorter ⊢
    have wider (x x' : Ast × Reader) (same : SameNode gap behind.rest.length x x') :
        SameNode gap ((b :: c :: t).length - 1) x x' := ⟨same.bare, same.follows, Nat.le_trans same.length shorter⟩
    dsimp only [enclose, List.cons_append]
    refine .ite (fun _ => .left _ _) fun _ =>
      .ite (fun _ => (hex_agree extended _ _ 2 behind).mono wider) fun _ =>
      .ite (fun _ => (hex_agree extended _ _ 4 behind).mono wider) fun _ =>
      .ite (fun _ => (hex_agree extended _ _ 8 behind).mono wider) fun _ =>
      .ite (fun _ => (property_agree extended _ _ _ behind).mono wider) fun _ =>
      .ite (fun _ => (wordBoundary_agree extended _ _ behind).mono wider) fun _ => ?_
    cases perl? c with
    | some class_ => exact here rfl
    | none =>
      refine .ite (fun _ => here rfl) fun _ => ?_
      have same := letter?_agree ⟨pos, pos + 2⟩ ⟨pos + gap, pos + gap + 2⟩ c
      cases found : letter? ⟨pos, pos + 2⟩ c with
      | none => exact .left _ _
      | some a =>
        rw [found] at same
        obtain ⟨a', found', same⟩ := Option.map_eq_some_iff.mp same
        rw [found']
        exact here same

end Escape

end PatternKit.Regex
