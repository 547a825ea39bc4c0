import PatternKit.Escape
import PatternKit.Proofs.SuffixReading
import PatternKit.Regex.Ast.Bracket

/-!
Bracketed sets read back. A set that is written member by member is read as one node over its own text, with
one node for each member.
-/

set_option autoImplicit false

namespace PatternKit.Regex

/-- The letter of a class of the Perl kind. -/
def PerlClass.letter (kind : PerlClass) (negated : Bool) : Char :=
  match kind, negated with
  | .digit, false => 'd'
  | .digit, true => 'D'
  | .space, false => 's'
  | .space, true => 'S'
  | .word, false => 'w'
  | .word, true => 'W'

/-- A class of the Perl kind in pattern text. -/
def PerlClass.token (kind : PerlClass) (negated : Bool) : Text := ['\\', kind.letter negated]

/-- A member of a bracketed set, as it is written. -/
inductive SetItem where
  /-- A character, with a backslash where the escaping of sets puts one. -/
  | char (c : Char)
  /-- A hyphen or another character of operators on sets, as it stands. -/
  | bare (c : Char)
  | range (lo hi : Char)
  | perl (kind : PerlClass) (negated : Bool)
deriving DecidableEq, Repr

namespace SetItem

def text : SetItem → Text
  | .char c => Escape.setMember [c]
  | .bare c => [c]
  | .range lo hi => Escape.setMember [lo] ++ '-' :: Escape.setMember [hi]
  | .perl kind negated => kind.token negated

def textAll : List SetItem → Text
  | [] => []
  | i :: is => i.text ++ textAll is

/-- A character that the escaping of sets has written at an offset. -/
def literalAt (p : Nat) (c : Char) : Literal := ⟨⟨p, p + (Escape.setMember [c]).length⟩, c, false⟩

/-- The node for a member at an offset. -/
def node (p : Nat) : SetItem → ClassSet
  | .char c => .literal (literalAt p c)
  | .bare c => .literal ⟨⟨p, p + 1⟩, c, false⟩
  | .range lo hi =>
    let first := literalAt p lo
    let last := literalAt (first.span.stop + 1) hi
    .range ⟨p, last.span.stop⟩ first last
  | .perl kind negated => .perl ⟨p, p + 2⟩ negated kind

/-- The nodes for members that begin at an offset. -/
def nodes (p : Nat) : List SetItem → List ClassSet
  | [] => []
  | i :: is => i.node p :: nodes (p + i.text.length) is

/-- Whether a text does not go on with a hyphen that would make what is before it the beginning of a
range. -/
def EndsMember (u : Text) : Prop :=
  u.head? = some '-' → u.tail.head? = some ']' ∨ u.tail.head? = some '-'

/-- Whether a member can stand before a text. -/
def Fits (u : Text) : SetItem → Prop
  | .char _ | .perl _ _ => EndsMember u
  | .bare c => (c = '-' ∨ c = '&' ∨ c = '~') ∧ u.head? ≠ some c ∧ EndsMember u
  | .range lo hi => lo ≤ hi

/-- Whether members can stand one after the other, up to the closing bracket. -/
def FitAll : List SetItem → Prop
  | [] => True
  | i :: is => i.Fits (textAll is ++ [']']) ∧ FitAll is

instance (u : Text) : Decidable (EndsMember u) := inferInstanceAs (Decidable (_ → _))

instance (u : Text) (i : SetItem) : Decidable (i.Fits u) :=
  match i with
  | .char _ | .perl _ _ => inferInstanceAs (Decidable (EndsMember u))
  | .bare _ => inferInstanceAs (Decidable (_ ∧ _))
  | .range lo hi => inferInstanceAs (Decidable (lo ≤ hi))

instance decidableFitAll : (is : List SetItem) → Decidable (FitAll is)
  | [] => inferInstanceAs (Decidable True)
  | i :: is =>
    have := decidableFitAll is
    inferInstanceAs (Decidable (i.Fits (textAll is ++ [']']) ∧ FitAll is))

/-- A bracketed set in pattern text. -/
def setText (negated : Bool) (items : List SetItem) : Text :=
  (if negated then ['[', '^'] else ['[']) ++ textAll items ++ [']']

/-- The node for a bracketed set at an offset. -/
def setNode (p : Nat) (negated : Bool) (items : List SetItem) : Ast :=
  let start := p + if negated then 2 else 1
  .bracketed ⟨p, p + (setText negated items).length⟩ negated
    (Bracket.unionOf start (nodes start items).reverse)

@[simp] theorem textAll_append (is js : List SetItem) :
    textAll (is ++ js) = textAll is ++ textAll js := by
  induction is with
  | nil => rfl
  | cons i is ih => simp [textAll, ih]

theorem length_le_textAll (is : List SetItem) : is.length ≤ (textAll is).length := by
  induction is with
  | nil => exact Nat.le_refl _
  | cons i is ih =>
    have some : 0 < i.text.length := by
      cases i with
      | char c | range c _ => simp only [text, Escape.setMember, Escape.escape]; split <;> simp
      | bare _ | perl _ _ => simp [text, PerlClass.token]
    rw [textAll, List.length_append, List.length_cons]
    omega

theorem nodes_append (p : Nat) (is js : List SetItem) :
    nodes p (is ++ js) = nodes p is ++ nodes (p + (textAll is).length) js := by
  induction is generalizing p with
  | nil => rfl
  | cons i is ih =>
    rw [List.cons_append, nodes, ih, nodes, textAll, List.length_append, Nat.add_assoc,
      List.cons_append]

theorem fitAll_append_right {is js : List SetItem} (h : FitAll (is ++ js)) : FitAll js := by
  induction is with
  | nil => exact h
  | cons i is ih => exact ih h.2

/-- Only the next two characters decide whether a member can stand before a text. -/
theorem fits_append {s t : Text} {i : SetItem} (h : i.Fits (s ++ [']'])) : i.Fits (s ++ ']' :: t) := by
  have ends (e : EndsMember (s ++ [']'])) : EndsMember (s ++ ']' :: t) := by
    rcases s with - | ⟨c, - | ⟨d, s⟩⟩
    · intro same
      cases same
    · exact fun _ => .inl rfl
    · exact e
  have next (c : Char) (n : (s ++ [']']).head? ≠ some c) : (s ++ ']' :: t).head? ≠ some c := by
    cases s with
    | nil => exact n
    | cons d s => exact n
  cases i with
  | char c => exact ends h
  | bare c => exact ⟨h.1, next c h.2.1, ends h.2.2⟩
  | range lo hi => exact h
  | perl kind negated => exact ends h

/-- How a character is written in a set. -/
theorem setMember_eq (c : Char) :
    c ∈ Escape.setMetas ∧ Escape.setMember [c] = ['\\', c] ∨
      c ∉ Escape.setMetas ∧ Escape.setMember [c] = [c] := by
  by_cases special : c ∈ Escape.setMetas
  · exact .inl ⟨special, by simp [Escape.setMember, Escape.escape, special]⟩
  · exact .inr ⟨special, by simp [Escape.setMember, Escape.escape, special]⟩

/-- A text that begins with a character that the escaping of sets has written does not begin like something else in a
set, nor with a hyphen. -/
theorem setMember_eq_cons (d : Char) (v : Text) : ∃ c cs, Escape.setMember [d] ++ v = c :: cs ∧ c ≠ '^' ∧
    c ≠ '[' ∧ c ≠ ']' ∧ c ≠ '-' := by
  rcases setMember_eq d with ⟨-, text⟩ | ⟨plain, text⟩
  · exact ⟨'\\', d :: v, by rw [text]; rfl, by decide, by decide, by decide, by decide⟩
  · refine ⟨d, v, by rw [text]; rfl, ?_, ?_, ?_, ?_⟩ <;>
      · rintro rfl
        exact plain (by decide)

/-- A text that is written for members does not begin like something else in a set. Only a bare hyphen begins
with a hyphen. -/
theorem text_eq_cons {u : Text} {i : SetItem} (fits : i.Fits u) :
    ∃ c cs, i.text = c :: cs ∧ c ≠ '^' ∧ c ≠ '[' ∧ c ≠ ']' ∧ (c = '-' → i = .bare '-') := by
  cases i with
  | char d =>
    obtain ⟨c, cs, text, notCaret, notOpen, notClose, notHyphen⟩ := setMember_eq_cons d []
    exact ⟨c, cs, by rw [← text, List.append_nil]; rfl, notCaret, notOpen, notClose,
      fun same => absurd same notHyphen⟩
  | bare c =>
    refine ⟨c, [], rfl, ?_, ?_, ?_, fun same => by rw [same]⟩ <;>
      · rintro rfl
        exact absurd fits.1 (by decide)
  | range lo hi =>
    obtain ⟨c, cs, text, notCaret, notOpen, notClose, notHyphen⟩ :=
      setMember_eq_cons lo ('-' :: Escape.setMember [hi])
    exact ⟨c, cs, text, notCaret, notOpen, notClose, fun same => absurd same notHyphen⟩
  | perl kind negated =>
    exact ⟨'\\', [kind.letter negated], rfl, by decide, by decide, by decide,
      fun same => absurd same (by decide)⟩

/-- Characters that the escaping of sets has written can stand one after the other. -/
theorem fitAll_chars (chars : Text) : FitAll (chars.map .char) := by
  induction chars with
  | nil => trivial
  | cons c chars ih =>
    refine ⟨fun hyphen => ?_, ih⟩
    cases chars with
    | nil => cases hyphen
    | cons d chars =>
      obtain ⟨e, es, text, -, -, -, only⟩ := text_eq_cons ih.1
      rw [List.map_cons, textAll, text] at hyphen
      cases only (Option.some.inj hyphen)

end SetItem

namespace Bracket

open Reader (numberFrom)
open SetItem (literalAt EndsMember FitAll textAll nodes)

variable {opened : Span} {p : Nat} {t u : Text} {fuel start : Nat} {acc : List ClassSet}

/-- A character that the escaping of sets has written is read as itself. -/
theorem item_setMember (p : Nat) (c : Char) (u : Text) :
    item false ⟨p, Escape.setMember [c] ++ u⟩ =
      .ok (.literal (literalAt p c), ⟨p + (Escape.setMember [c]).length, u⟩) := by
  unfold literalAt
  rcases SetItem.setMember_eq c with ⟨special, text⟩ | ⟨plain, text⟩
  · rw [text]
    have cases : c = ']' ∨ c = '\\' ∨ c = '^' ∨ c = '-' ∨ c = '[' ∨ c = '&' ∨ c = '~' := by
      simpa [Escape.setMetas] using special
    rcases cases with rfl | rfl | rfl | rfl | rfl | rfl | rfl <;> rfl
  · rw [text]
    have backslash : c ≠ '\\' := by
      rintro rfl
      exact plain (by decide)
    simp [item, backslash, Reader.advance, Reader.charSpan]

theorem item_perl (p : Nat) (kind : PerlClass) (negated : Bool) (u : Text) :
    item false ⟨p, kind.token negated ++ u⟩ = .ok (.perl ⟨p, p + 2⟩ negated kind, ⟨p + 2, u⟩) := by
  cases kind <;> cases negated <;> rfl

/-- What is not followed by a hyphen for a range is a member by itself. -/
private theorem rangeOrMember_member {r : Reader} {a : Ast} {m : ClassSet} (more : u ≠ [])
    (ends : EndsMember u) (first : item false r = .ok (a, ⟨p, u⟩)) (fine : member a = .ok m) :
    rangeOrMember false opened r = .ok (m, ⟨p, u⟩) := by
  obtain ⟨c, u, rfl⟩ := List.exists_cons_of_ne_nil more
  have stays : (decide (c ≠ '-') || decide (u.head? = some ']') || decide (u.head? = some '-')) = true := by
    by_cases hyphen : c = '-'
    · have second := ends (by rw [hyphen]; rfl)
      simpa [hyphen] using second
    · simp [hyphen]
  unfold rangeOrMember
  rw [first]
  show (if (decide (c ≠ '-') || decide (u.head? = some ']') || decide (u.head? = some '-')) = true
    then _ else _) = _
  rw [if_pos stays, fine]
  rfl

/-- A range is read, unless its ends are inverted. -/
private theorem rangeOrMember_range (lo hi : Char) (p : Nat) (u : Text) :
    rangeOrMember false opened ⟨p, (SetItem.range lo hi).text ++ u⟩ =
      if lo ≤ hi then .ok ((SetItem.range lo hi).node p, ⟨p + (SetItem.range lo hi).text.length, u⟩)
      else .error ⟨.classRangeInvalid, ⟨p, p + (SetItem.range lo hi).text.length⟩, none⟩ := by
  let first := literalAt p lo
  have text : (SetItem.range lo hi).text ++ u =
      Escape.setMember [lo] ++ '-' :: (Escape.setMember [hi] ++ u) := by
    simp [SetItem.text]
  have stop : first.span.stop + 1 + (Escape.setMember [hi]).length =
      p + (SetItem.range lo hi).text.length := by
    simp [first, literalAt, SetItem.text]
    omega
  obtain ⟨c, cs, head, -, -, close, hyphen⟩ := SetItem.setMember_eq_cons hi u
  have second : ¬ (decide ('-' ≠ '-') || decide ((c :: cs).head? = some ']') ||
      decide ((c :: cs).head? = some '-')) = true := by
    simp [close, hyphen]
  have last := item_setMember (first.span.stop + 1) hi u
  unfold rangeOrMember
  rw [text, item_setMember, head]
  show (if (decide ('-' ≠ '-') || decide ((c :: cs).head? = some ']') ||
    decide ((c :: cs).head? = some '-')) = true then _ else _) = _
  rw [if_neg second, ← head, ← stop]
  show (if (Escape.setMember [hi] ++ u).isEmpty = true then _ else
    item false ⟨first.span.stop + 1, Escape.setMember [hi] ++ u⟩ >>= _) = _
  rw [last, if_neg (by simp [head])]
  rfl

private theorem rangeOrMember_text {i : SetItem} (fits : i.Fits u) (more : u ≠ []) (opened : Span)
    (p : Nat) :
    rangeOrMember false opened ⟨p, i.text ++ u⟩ = .ok (i.node p, ⟨p + i.text.length, u⟩) := by
  cases i with
  | char c => exact rangeOrMember_member more fits (item_setMember p c u) rfl
  | bare c =>
    have first : item false ⟨p, c :: u⟩ = .ok (.literal ⟨⟨p, p + 1⟩, c, false⟩, ⟨p + 1, u⟩) := by
      rcases fits.1 with rfl | rfl | rfl <;> rfl
    exact rangeOrMember_member more fits.2.2 first rfl
  | range lo hi => exact (rangeOrMember_range lo hi p u).trans (if_pos fits)
  | perl kind negated => exact rangeOrMember_member more fits (item_perl p kind negated u) rfl

/-- No operator on sets begins with a character that the escaping of sets has written. -/
private theorem operator?_setMember (d : Char) (v : Text) : operator? (Escape.setMember [d] ++ v) = none := by
  rcases SetItem.setMember_eq d with ⟨-, text⟩ | ⟨plain, text⟩
  · rw [text]
    rfl
  · rw [text]
    unfold operator?
    split
    all_goals first | rfl | skip
    all_goals
      rename_i same
      obtain rfl := (List.cons.inj same).1
      exact absurd (by decide) plain

/-- No operator on sets begins with a member. -/
private theorem operator?_text {i : SetItem} (fits : i.Fits u) : operator? (i.text ++ u) = none := by
  cases i with
  | char c => exact operator?_setMember c u
  | bare c =>
    obtain ⟨-, next, -⟩ := fits
    show operator? (c :: u) = none
    unfold operator?
    split
    all_goals first | rfl | skip
    all_goals
      rename_i same
      obtain ⟨rfl, rfl⟩ := List.cons.inj same
      exact absurd rfl next
  | range lo hi => simpa [SetItem.text] using operator?_setMember lo ('-' :: Escape.setMember [hi] ++ u)
  | perl kind negated => rfl

private theorem members_text {i : SetItem} (fits : i.Fits u) (more : u ≠ []) (fuel p : Nat) :
    members false (fuel + 1) opened none start acc ⟨p, i.text ++ u⟩ =
      members false fuel opened none start (i.node p :: acc) ⟨p + i.text.length, u⟩ := by
  obtain ⟨c, cs, text, -, notOpen, notClose, -⟩ := SetItem.text_eq_cons fits
  have operator := operator?_text fits
  have set := rangeOrMember_text fits more opened p
  rw [text] at operator set ⊢
  show (if c = '[' then _ else if c = ']' then _ else _) = _
  rw [if_neg notOpen, if_neg notClose, Reader.skip_false, operator]
  dsimp only
  rw [set]
  rfl

/-- The members of a set are read up to its closing bracket. -/
private theorem members_textAll {items : List SetItem} (fit : FitAll items) (t : Text)
    (enough : items.length < fuel) (opened : Span) (start : Nat) (acc : List ClassSet) (p : Nat) :
    members false fuel opened none start acc ⟨p, textAll items ++ ']' :: t⟩ =
      .ok (unionOf start ((nodes p items).reverse ++ acc), ⟨p + (textAll items).length, ']' :: t⟩) := by
  induction items generalizing fuel acc p with
  | nil =>
    obtain ⟨fuel, rfl⟩ := Nat.exists_eq_succ_of_ne_zero (Nat.ne_of_gt enough)
    rfl
  | cons i items ih =>
    obtain ⟨fuel, rfl⟩ := Nat.exists_eq_succ_of_ne_zero (Nat.ne_of_gt (Nat.zero_lt_of_lt enough))
    have fits : i.Fits (textAll items ++ ']' :: t) := SetItem.fits_append fit.1
    have less : items.length < fuel := Nat.lt_of_succ_lt_succ enough
    rw [textAll, List.append_assoc, Nat.succ_eq_add_one, members_text fits (by simp), ih fit.2 less]
    simp [nodes, Nat.add_assoc]

/-- Hyphens at the beginning of a set are read as the members that they would be anywhere. -/
private theorem leadingHyphens_textAll {items : List SetItem} (fit : FitAll items) (t : Text)
    (q p : Nat) (acc : List ClassSet) :
    ∃ hyphens more, items = hyphens ++ more ∧
      leadingHyphens q acc (numberFrom p (textAll items ++ ']' :: t)) =
        .ok ((nodes p hyphens).reverse ++ acc,
          numberFrom (p + (textAll hyphens).length) (textAll more ++ ']' :: t)) := by
  induction items generalizing p acc with
  | nil => exact ⟨[], [], rfl, rfl⟩
  | cons i items ih =>
    by_cases hyphen : i = .bare '-'
    · subst hyphen
      obtain ⟨hyphens, more, split, read⟩ := ih fit.2 (p + 1) ((SetItem.bare '-').node p :: acc)
      refine ⟨.bare '-' :: hyphens, more, by rw [split]; rfl, ?_⟩
      obtain ⟨v, vs, rest⟩ : ∃ v vs, numberFrom (p + 1) (textAll items ++ ']' :: t) = v :: vs := by
        cases textAll items with
        | nil => exact ⟨_, _, rfl⟩
        | cons c cs => exact ⟨_, _, rfl⟩
      have step : leadingHyphens q acc (numberFrom p (textAll (.bare '-' :: items) ++ ']' :: t)) =
          leadingHyphens q ((SetItem.bare '-').node p :: acc)
            (numberFrom (p + 1) (textAll items ++ ']' :: t)) := by
        show leadingHyphens q acc ((p, '-') :: numberFrom (p + 1) (textAll items ++ ']' :: t)) = _
        rw [rest]
        rfl
      have length : p + (textAll (.bare '-' :: hyphens)).length =
          p + 1 + (textAll hyphens).length := by
        simp [textAll, SetItem.text]
        omega
      rw [step, read, length]
      simp [nodes, SetItem.text]
    · obtain ⟨c, cs, text, -, -, -, only⟩ := SetItem.text_eq_cons fit.1
      have other : c ≠ '-' := fun same => hyphen (only same)
      have whole : textAll (i :: items) ++ ']' :: t = c :: (cs ++ (textAll items ++ ']' :: t)) := by
        rw [textAll, text]
        simp
      refine ⟨[], i :: items, rfl, ?_⟩
      rw [whole]
      exact if_neg other

/-- What is left of the beginning of a set after the hyphens does not begin with the closing bracket, unless
there have been some. -/
private theorem not_leading_close {items hyphens more : List SetItem} (some : items ≠ []) (fit : FitAll items)
    (split : items = hyphens ++ more) {start q : Nat} {vs : List (Nat × Char)}
    (none : (nodes start hyphens).reverse ++ [] = []) : numberFrom p (textAll more ++ t) ≠ (q, ']') :: vs := by
  have empty : hyphens = [] := by
    cases hyphens with
    | nil => rfl
    | cons i is => simp [nodes] at none
  subst empty
  obtain ⟨i, is, rfl⟩ := List.exists_cons_of_ne_nil some
  obtain rfl : i :: is = more := split
  obtain ⟨c, cs, text, -, -, close, -⟩ := SetItem.text_eq_cons fit.1
  rw [textAll, text]
  intro same
  exact close (congrArg Prod.snd (List.cons.inj same).1)

/-- The beginning of a set that does not begin with a closing bracket. -/
private theorem opening_of_visible {r : Reader} {negated : Bool} {d : Char} {ws more : List (Nat × Char)}
    (visible : ∃ p c vs, (r.advance 1).visible false = (p, c) :: vs ∧ (c == '^') = negated ∧
      (if negated = true then vs else (p, c) :: vs) = (start, d) :: ws)
    (read : leadingHyphens r.pos [] ((start, d) :: ws) = .ok (acc, more))
    (noClose : acc = [] → ∀ q after, more ≠ (q, ']') :: after) :
    opening false r = .ok (⟨⟨r.pos, r.offsetOf more⟩, negated, start, acc⟩,
      r.moveTo (r.offsetOf more)) := by
  obtain ⟨p, c, vs, seen, rfl, inner⟩ := visible
  unfold opening
  rw [seen]
  dsimp only
  rw [inner]
  dsimp only
  rw [read]
  dsimp only [bind, Except.bind]
  split
  · rename_i q after
    exact absurd rfl (noClose rfl q after)
  · rfl

/-- The beginning of a set, up to the hyphens that stand first in it. -/
private theorem opening_setText {items : List SetItem} (some : items ≠ []) (fit : FitAll items)
    (negated : Bool) (p : Nat) (t : Text) :
    ∃ hyphens more, items = hyphens ++ more ∧
      let start := p + if negated then 2 else 1
      let q := start + (textAll hyphens).length
      opening false ⟨p, SetItem.setText negated items ++ t⟩ =
        .ok (⟨⟨p, q⟩, negated, start, (nodes start hyphens).reverse⟩, ⟨q, textAll more ++ ']' :: t⟩) := by
  let start := p + if negated then 2 else 1
  let head : Text := if negated then ['[', '^'] else ['[']
  obtain ⟨hyphens, more, split, read⟩ := leadingHyphens_textAll fit t p start []
  refine ⟨hyphens, more, split, ?_⟩
  intro start q
  obtain ⟨c, cs, first, caret⟩ : ∃ c cs, textAll items ++ ']' :: t = c :: cs ∧ c ≠ '^' := by
    obtain ⟨i, is, rfl⟩ := List.exists_cons_of_ne_nil some
    obtain ⟨c, cs, text, caret, -, -, -⟩ := SetItem.text_eq_cons fit.1
    exact ⟨c, cs ++ (textAll is ++ ']' :: t), by rw [textAll, text]; simp, caret⟩
  have whole : SetItem.setText negated items ++ t = head ++ (textAll items ++ ']' :: t) := by
    simp [SetItem.setText, head]
  have parted : SetItem.setText negated items ++ t =
      (head ++ textAll hyphens) ++ (textAll more ++ ']' :: t) := by
    rw [whole, split]
    simp
  have reach : p + (head ++ textAll hyphens).length = q := by
    cases negated <;> simp [head, q, start] <;> omega
  have place : Reader.offsetOf ⟨p, SetItem.setText negated items ++ t⟩
      (numberFrom q (textAll more ++ ']' :: t)) = q := by
    rw [← reach]
    exact Reader.offsetOf_numberFrom parted
  have moved : Reader.moveTo ⟨p, SetItem.setText negated items ++ t⟩ q =
      ⟨q, textAll more ++ ']' :: t⟩ := by
    rw [← reach, parted]
    exact Reader.moveTo_append _ _ _
  have noClose (none : (nodes start hyphens).reverse ++ [] = []) (q' : Nat)
      (after : List (Nat × Char)) : numberFrom q (textAll more ++ ']' :: t) ≠ (q', ']') :: after :=
    not_leading_close some fit split none
  rw [first] at read
  rw [List.append_nil] at read noClose
  have visible : ∃ p' c' vs,
      (Reader.advance ⟨p, SetItem.setText negated items ++ t⟩ 1).visible false = (p', c') :: vs ∧
        (c' == '^') = negated ∧ (if negated = true then vs else (p', c') :: vs) =
          (start, c) :: numberFrom (start + 1) cs := by
    rw [whole, first]
    cases negated with
    | false => exact ⟨p + 1, c, _, rfl, by simpa using caret, rfl⟩
    | true => exact ⟨p + 1, '^', _, rfl, rfl, rfl⟩
  rw [opening_of_visible visible read noClose, place, moved]

/-- A set that is written member by member is read as one node. -/
theorem read_setText {items : List SetItem} (some : items ≠ []) (fit : FitAll items) (negated : Bool)
    (p : Nat) (t : Text) :
    Bracket.read false ⟨p, SetItem.setText negated items ++ t⟩ =
      .ok (SetItem.setNode p negated items, ⟨p + (SetItem.setText negated items).length, t⟩) := by
  obtain ⟨hyphens, more, split, opened⟩ := opening_setText some fit negated p t
  let start := p + if negated then 2 else 1
  let q := start + (textAll hyphens).length
  let whole := SetItem.setText negated items ++ t
  have rest : FitAll more := SetItem.fitAll_append_right (split ▸ fit)
  have enough : more.length < whole.length := by
    have := SetItem.length_le_textAll more
    simp [whole, SetItem.setText, split]
    omega
  have last := members_textAll rest t enough ⟨p, q⟩ start (nodes start hyphens).reverse q
  have all : (nodes q more).reverse ++ (nodes start hyphens).reverse = (nodes start items).reverse := by
    rw [split, SetItem.nodes_append, List.reverse_append]
  have stop : q + (textAll more).length + 1 = p + (SetItem.setText negated items).length := by
    cases negated <;> simp [q, start, SetItem.setText, split] <;> omega
  unfold Bracket.read
  rw [opened]
  show (members false whole.length ⟨p, q⟩ none start (nodes start hyphens).reverse
    ⟨q, textAll more ++ ']' :: t⟩ >>= fun x => _) = _
  rw [last, all]
  show Except.ok (Ast.bracketed ⟨p, q + (textAll more).length + 1⟩ negated
    (unionOf start (nodes start items).reverse), Reader.mk (q + (textAll more).length + 1) t) = _
  rw [stop]
  rfl

/-- The beginning of a set whose first member begins like no other thing in a set. -/
private theorem opening_cons {c : Char} (caret : c ≠ '^') (notClose : c ≠ ']') (hyphen : c ≠ '-') (p : Nat) (u : Text) :
    opening false ⟨p, '[' :: c :: u⟩ = .ok (⟨⟨p, p + 1⟩, false, p + 1, []⟩, ⟨p + 1, c :: u⟩) := by
  have unmarked : (c == '^') = false := beq_false_of_ne caret
  have read : leadingHyphens p [] ((p + 1, c) :: numberFrom (p + 1 + 1) u) =
      .ok ([], (p + 1, c) :: numberFrom (p + 1 + 1) u) := if_neg hyphen
  have noClose (_ : ([] : List ClassSet) = []) (q : Nat) (after : List (Nat × Char)) :
      (p + 1, c) :: numberFrom (p + 1 + 1) u ≠ (q, ']') :: after := fun same =>
    notClose (congrArg Prod.snd (List.cons.inj same).1)
  have moved : Reader.moveTo ⟨p, '[' :: c :: u⟩ (p + 1) = ⟨p + 1, c :: u⟩ := by
    simp [Reader.moveTo]
  rw [opening_of_visible (r := ⟨p, '[' :: c :: u⟩) ⟨p + 1, c, _, rfl, unmarked, rfl⟩ read noClose]
  exact congrArg (fun r => Except.ok ((⟨⟨p, p + 1⟩, false, p + 1, []⟩ : Opening), r)) moved

/-- A set of one range with inverted ends is refused, and the fault is the range. -/
theorem read_inverted {lo hi : Char} (inverted : hi < lo) (p : Nat) (t : Text) :
    Bracket.read false ⟨p, SetItem.setText false [.range lo hi] ++ t⟩ =
      .error ⟨.classRangeInvalid, ⟨p + 1, p + 1 + (SetItem.range lo hi).text.length⟩, none⟩ := by
  let place : Span := ⟨p + 1, p + 1 + (SetItem.range lo hi).text.length⟩
  have whole : SetItem.setText false [.range lo hi] ++ t = '[' :: ((SetItem.range lo hi).text ++ ']' :: t) := by
    simp [SetItem.setText, SetItem.textAll]
  have written : (SetItem.range lo hi).text ++ ']' :: t =
      Escape.setMember [lo] ++ ('-' :: Escape.setMember [hi] ++ ']' :: t) := by
    simp [SetItem.text]
  obtain ⟨c, cs, text, caret, notOpen, notClose, hyphen⟩ :=
    SetItem.setMember_eq_cons lo ('-' :: Escape.setMember [hi] ++ ']' :: t)
  have noOperator : operator? (c :: cs) = none := by
    rw [← text]
    exact operator?_setMember lo _
  have refused : rangeOrMember false ⟨p, p + 1⟩ ⟨p + 1, c :: cs⟩ = .error ⟨.classRangeInvalid, place, none⟩ := by
    rw [← text, ← written, rangeOrMember_range, if_neg (Char.not_le.mpr inverted)]
  have stuck (fuel : Nat) : members false (fuel + 1) ⟨p, p + 1⟩ none (p + 1) [] ⟨p + 1, c :: cs⟩ =
      .error ⟨.classRangeInvalid, place, none⟩ := by
    show (if c = '[' then _ else if c = ']' then _ else _) = _
    rw [if_neg notOpen, if_neg notClose, Reader.skip_false, noOperator]
    dsimp only
    rw [refused]
    rfl
  unfold Bracket.read
  rw [whole, written, text, opening_cons caret notClose hyphen]
  show (members false ((c :: cs).length + 1) ⟨p, p + 1⟩ none (p + 1) [] ⟨p + 1, c :: cs⟩ >>= _) = _
  rw [stuck]
  rfl

end Bracket

end PatternKit.Regex
