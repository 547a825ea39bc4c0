import PatternKit.Proofs.EnclosedSet

/-!
The structure of an enclosed text. Text that can be read both by itself and between parentheses has the same structure
in both places.
-/

set_option autoImplicit false

namespace PatternKit.Regex

open Reader (Follows Sees enclose)

variable {gap : Nat}

/-! The beginnings of groups. -/

namespace Group

/-- Whether what has been read at the beginning of a group, or in its place, is the same, with readers that keep
abreast. `left` bounds what is left of the text. -/
inductive SameOpening (gap left : Nat) : Opening × Reader → Opening × Reader → Prop
  | group (kind : GroupKind) {groups groups' : GroupTable} (counts : groups'.count = groups.count) {r r' : Reader}
    (follows : Follows gap r r') (length : r.rest.length ≤ left) :
    SameOpening gap left (.group kind groups, r) (.group kind groups', r')
  | flags (span span' : Span) (changes : FlagChanges) {r r' : Reader} (follows : Follows gap r r')
    (length : r.rest.length ≤ left) : SameOpening gap left (.flags span changes, r) (.flags span' changes, r')

private theorem nameChars_agree (taken : Text) (pos : Nat) (t : Text) :
    Agree (fun x x' => x.1 = x'.1 ∧ x'.2 = x.2 + gap ∧ pos ≤ x.2 ∧ x.2 < pos + t.length) (nameChars taken pos t)
      (nameChars taken (pos + gap) (t ++ [')'])) := by
  induction t generalizing taken pos with
  | nil => exact .left _ _
  | cons c t ih =>
    have next : pos + gap + 1 = pos + 1 + gap := by omega
    rw [List.cons_append, nameChars, nameChars, next, List.length_cons]
    split
    · exact .ok ⟨rfl, rfl, Nat.le_refl _, by dsimp only; omega⟩
    · split
      · exact (ih _ _).mono fun x x' found => ⟨found.1, found.2.1, by omega, by omega⟩
      · exact .left _ _

private theorem name_agree {groups groups' : GroupTable} (counts : groups'.count = groups.count) (r : Reader) :
    Agree (SameOpening gap r.rest.length) (name groups r) (name groups' (r.enclose gap)) := by
  refine (nameChars_agree [] r.pos r.rest).bind ?_
  rintro ⟨name, close⟩ ⟨_, _⟩ ⟨rfl, rfl, first, last⟩
  dsimp only at first last ⊢
  split
  · exact .left _ _
  · cases groups.names.lookup name with
    | some earlier => exact .left _ _
    | none =>
      cases groups'.names.lookup name with
      | some earlier => exact .right _ _
      | none =>
        dsimp only
        rw [counts]
        exact .ok (.group _ (by rfl) (.inl (Reader.moveTo_behind first last)) (r.length_moveTo_le _))

/-- Whether two lists of options ask for the same. -/
structure SameFlags (l l' : FlagList) : Prop where
  flags : l'.flags.map (fun f => (f.1, f.2.1)) = l.flags.map fun f => (f.1, f.2.1)
  minus : l'.minus.isNone = l.minus.isNone

private theorem SameFlags.changes {l l' : FlagList} (same : SameFlags l l') : l'.changes = l.changes := by
  unfold FlagList.changes
  rw [List.map_reverse, List.map_reverse]
  exact congrArg List.reverse same.flags

private theorem flagChars_agree {l l' : FlagList} (same : SameFlags l l') (pos : Nat) (t : Text) :
    Agree (fun x x' => x'.1.changes = x.1.changes ∧ x.2.1 = x'.2.1 ∧ x'.2.2 = x.2.2 + gap ∧ pos ≤ x.2.2 ∧
      x.2.2 < pos + t.length) (flagChars l pos t) (flagChars l' (pos + gap) (t ++ [')'])) := by
  induction t generalizing l l' pos with
  | nil => exact .left _ _
  | cons c t ih =>
    have next : pos + gap + 1 = pos + 1 + gap := by omega
    have goOn {l l' : FlagList} (same : SameFlags l l') : Agree (fun x x' => x'.1.changes = x.1.changes ∧
        x.2.1 = x'.2.1 ∧ x'.2.2 = x.2.2 + gap ∧ pos ≤ x.2.2 ∧ x.2.2 < pos + (t.length + 1))
        (flagChars l (pos + 1) t) (flagChars l' (pos + 1 + gap) (t ++ [')'])) :=
      (ih same (pos + 1)).mono fun x x' found => ⟨found.1, found.2.1, found.2.2.1, by omega, by omega⟩
    rw [List.cons_append, flagChars, flagChars, next, List.length_cons]
    split
    · cases l.dangling with
      | some minus => exact .left _ _
      | none =>
        cases l'.dangling with
        | some minus => exact .right _ _
        | none => exact .ok ⟨same.changes, rfl, rfl, Nat.le_refl _, by dsimp only; omega⟩
    · split
      · cases l.minus with
        | some earlier => exact .left _ _
        | none =>
          cases l'.minus with
          | some earlier => exact .right _ _
          | none => exact goOn ⟨same.flags, rfl⟩
      · cases flag? c with
        | none => exact .left _ _
        | some f =>
          dsimp only
          cases l.flags.lookup f with
          | some earlier => exact .left _ _
          | none =>
            cases l'.flags.lookup f with
            | some earlier => exact .right _ _
            | none =>
              refine goOn ⟨?_, same.minus⟩
              rw [List.map_cons, List.map_cons, same.flags, same.minus]

private theorem flags_agree (opened opened' : Span) {groups groups' : GroupTable}
    (counts : groups'.count = groups.count) (r : Reader) :
    Agree (SameOpening gap r.rest.length) (flags opened groups r) (flags opened' groups' (r.enclose gap)) := by
  unfold flags
  split
  · exact .left _ _
  · split
    · exact .right _ _
    · refine (flagChars_agree ⟨rfl, rfl⟩ r.pos r.rest).bind ?_
      rintro ⟨l, last, close⟩ ⟨l', _, _⟩ ⟨same, rfl, rfl, first, before⟩
      dsimp only at same ⊢
      have follows : (r.enclose gap).moveTo (close + gap + 1) = _ := Reader.moveTo_behind first before
      rw [same]
      split
      · exact .ok (.group _ counts (.inl follows) (r.length_moveTo_le _))
      · split
        · exact .left _ _
        · exact .ok (.flags _ _ _ (.inl follows) (r.length_moveTo_le _))

theorem opening_agree (extended : Bool) {groups groups' : GroupTable} (counts : groups'.count = groups.count)
    {r : Reader} (nonempty : r.rest ≠ []) :
    Agree (SameOpening gap (r.rest.length - 1)) (opening extended groups r)
      (opening extended groups' (r.enclose gap)) := by
  have le : 1 ≤ r.rest.length := List.length_pos_iff.mpr nonempty
  have shorter : ((r.advance 1).skip extended).rest.length ≤ r.rest.length - 1 := by
    have := Reader.length_skip_le extended (r.advance 1)
    rwa [Reader.advance, List.length_drop] at this
  have follows := Follows.skip (.inl (Reader.advance_enclose le) : Follows gap (r.advance 1) _) extended
  unfold opening
  dsimp only
  generalize (r.advance 1).skip extended = inside at shorter follows ⊢
  generalize ((r.enclose gap).advance 1).skip extended = inside' at follows ⊢
  have wider (n : Nat) (x x' : Opening × Reader) (found : SameOpening gap (inside.advance n).rest.length x x') :
      SameOpening gap (r.rest.length - 1) x x' := by
    have le : (inside.advance n).rest.length ≤ r.rest.length - 1 :=
      Nat.le_trans (inside.length_advance_le n) shorter
    cases found with
    | group kind counts follows length => exact .group kind counts follows (Nat.le_trans length le)
    | flags span span' changes follows length => exact .flags span span' changes follows (Nat.le_trans length le)
  split
  · exact .left _ _
  · exact .left _ _
  · exact .left _ _
  · exact .left _ _
  · next t rest =>
    obtain rfl := follows.eq_enclose (by rw [rest]; exact List.cons_ne_nil _ _)
    have rest' : (inside.enclose gap).rest = '?' :: 'P' :: '<' :: (t ++ [')']) := Reader.rest_enclose rest
    rw [rest', Reader.advance_enclose (by rw [rest]; exact Nat.le_add_left _ _)]
    exact (name_agree counts _).mono (wider 3)
  · next t other other' rest =>
    obtain rfl := follows.eq_enclose (by rw [rest]; exact List.cons_ne_nil _ _)
    have rest' : (inside.enclose gap).rest = '?' :: '<' :: (t ++ [')']) := Reader.rest_enclose rest
    have le : 2 ≤ inside.rest.length := by rw [rest]; exact Nat.le_add_left _ _
    split
    · exact .right _ _
    · exact .right _ _
    · exact .right _ _
    · exact .right _ _
    · next shape => cases rest'.symm.trans shape
    · rw [Reader.advance_enclose le]
      exact (name_agree counts _).mono (wider 2)
    · next plain shape =>
      cases rest'.symm.trans shape
      exact absurd rfl (plain _)
    · next marked => exact absurd rest' (marked _)
  · next t _ _ _ _ named named' rest =>
    obtain rfl := follows.eq_enclose (by rw [rest]; exact List.cons_ne_nil _ _)
    have rest' : (inside.enclose gap).rest = '?' :: (t ++ [')']) := Reader.rest_enclose rest
    have le : 1 ≤ inside.rest.length := by rw [rest]; exact Nat.le_add_left _ _
    split
    · exact .right _ _
    · exact .right _ _
    · exact .right _ _
    · exact .right _ _
    · next shape =>
      have starts := isPrefixOf_of_eq (p := ['P', '<']) (List.cons.inj (rest'.symm.trans shape)).2
      rw [isPrefixOf_append_close (by decide)] at starts
      exact absurd starts (isPrefixOf_of_ne named)
    · next shape =>
      have starts := isPrefixOf_of_eq (p := ['<']) (List.cons.inj (rest'.symm.trans shape)).2
      rw [isPrefixOf_append_close (by decide)] at starts
      exact absurd starts (isPrefixOf_of_ne named')
    · rw [Reader.advance_enclose le]
      exact (flags_agree _ _ counts _).mono (wider 1)
    · next marked => exact absurd rest' (marked _)
  · next marked =>
    have marked' (u : Text) (shape : inside'.rest = '?' :: u) : False :=
      isPrefixOf_of_ne (p := ['?']) marked
        ((follows.isPrefixOf (by decide)).symm.trans (isPrefixOf_of_eq shape))
    -- The enclosed text has no mark either, so the other cases are excluded.
    split
    iterate 7 · next shape => exact (marked' _ shape).elim
    rw [counts]
    exact .ok (.group _ (by rfl) follows shorter)

end Group

/-! Repetition operators. -/

namespace Repetition

private theorem simple_eq_ite (min : Nat) (max : Option Nat) (r : Reader) :
    simple min max r =
      if ['?'].isPrefixOf (r.advance 1).rest then (⟨min, max, false⟩, (r.advance 1).advance 1)
      else (⟨min, max, true⟩, r.advance 1) := by
  unfold simple
  dsimp only
  split
  · next shape => rw [if_pos (isPrefixOf_of_eq shape)]
  · next other => rw [if_neg (isPrefixOf_of_ne other)]

theorem simple_agree (gap min : Nat) (max : Option Nat) {r : Reader} (nonempty : 1 ≤ r.rest.length) :
    Agree (fun x x' => x.1 = x'.1 ∧ Follows gap x.2 x'.2 ∧ x.2.rest.length ≤ r.rest.length - 1)
      (.ok (simple min max r)) (.ok (simple min max (r.enclose gap))) := by
  have lazy : ['?'].isPrefixOf ((r.advance 1).enclose gap).rest = _ := isPrefixOf_append_close (by decide) _
  have advances : (r.advance 1).rest.length = r.rest.length - 1 := List.length_drop
  rw [simple_eq_ite, simple_eq_ite, Reader.advance_enclose nonempty, lazy]
  split
  · next starts =>
    rw [Reader.advance_enclose (n := 1) (List.isPrefixOf_iff_prefix.mp starts).length_le]
    exact .ok ⟨rfl, .inl rfl, Nat.le_trans (Reader.length_advance_le _ 1) (Nat.le_of_eq advances)⟩
  · exact .ok ⟨rfl, .inl rfl, Nat.le_of_eq advances⟩

private theorem decimal_agree (r r' : Reader) {start stop : Nat} {vs vs' : List (Nat × Char)}
    (sees : Sees gap start stop vs vs') :
    Agree (fun n n' => n = n') (decimal r vs).1 (decimal r' vs').1 ∧
      Sees gap start stop (decimal r vs).2 (decimal r' vs').2 := by
  have digits := sees.dropWhile Unicode.isBlank
  have after := digits.dropWhile Char.isDigit
  refine ⟨?_, after.dropWhile Unicode.isBlank⟩
  unfold decimal
  dsimp only
  rw [digits.takeWhile Char.isDigit (.inl (by decide))]
  split
  · exact .left _ _
  · split
    · exact .ok rfl
    · exact .left _ _

private theorem countBounds_agree {r r' : Reader} {start stop : Nat} {vs vs' : List (Nat × Char)}
    (sees : Sees gap start stop vs vs') :
    Agree (fun x x' => x.1 = x'.1 ∧ x.2.1 = x'.2.1 ∧ Sees gap start stop x.2.2 x'.2.2) (countBounds r vs)
      (countBounds r' vs') := by
  obtain ⟨same, behind⟩ := decimal_agree r r' sees
  unfold countBounds
  cases sees with
  | swallowed => exact .left _ _
  | close => exact .left _ _
  | @next p c vs vs' _ _ rest =>
    dsimp only [List.isEmpty_cons]
    rw [if_neg Bool.false_ne_true, if_neg Bool.false_ne_true]
    generalize decimal r ((p, c) :: vs) = number at same behind ⊢
    generalize decimal r' ((p + gap, c) :: vs') = number' at same behind ⊢
    obtain ⟨first, vs⟩ := number
    obtain ⟨first', vs'⟩ := number'
    dsimp only at same behind ⊢
    have closes := behind.next_or (by decide : '}' ≠ ')')
    cases behind with
    | swallowed => exact .left _ _
    | close => exact .left _ _
    | next c from_ until_ after =>
      dsimp only
      refine .ite (fun _ => ?_) fun _ => ?_
      · obtain ⟨same', behind⟩ := decimal_agree r r' after
        cases after with
        | swallowed => exact .left _ _
        | close => exact .left _ _
        | next d from_ until_ more =>
          dsimp only
          refine .ite (fun brace => ?_) fun _ => ?_
          · subst brace
            exact same.bind fun min min' same => .ok ⟨same, rfl, more⟩
          · refine same.bind fun min min' same => same'.bind fun max max' same' => ?_
            rcases behind.next_or (by decide : '}' ≠ ')') with ⟨_, _, _, shape, shape', -, -, rest⟩ | ⟨unclosed, -⟩
            · rw [shape, shape']
              exact .ok ⟨same, congrArg some same', rest⟩
            · split
              · next shape => exact absurd shape (unclosed _ _)
              · exact .left _ _
      · refine same.bind fun n n' same => ?_
        rcases closes with ⟨_, _, _, shape, shape', -, -, rest⟩ | ⟨unclosed, -⟩
        · rw [shape, shape']
          exact .ok ⟨same, congrArg some same, rest⟩
        · split
          · next shape => exact absurd shape (unclosed _ _)
          · exact .left _ _

theorem counted_agree (gap : Nat) (extended : Bool) {r : Reader} (nonempty : 1 ≤ r.rest.length) :
    Agree (fun x x' => x.1 = x'.1 ∧ Follows gap x.2 x'.2 ∧ x.2.rest.length ≤ r.rest.length - 1) (counted extended r)
      (counted extended (r.enclose gap)) := by
  have sees := Reader.visible_behind gap extended nonempty
  refine (countBounds_agree sees).bind ?_
  rintro ⟨min, max, after⟩ ⟨_, _, after'⟩ ⟨rfl, rfl, behind⟩
  dsimp only at behind ⊢
  have before : r.pos < (r.advance 1).pos := Nat.lt_succ_self _
  have later : r.pos < r.offsetOf after := by
    cases behind with
    | swallowed => exact Nat.lt_add_of_pos_right nonempty
    | close => exact Nat.lt_add_of_pos_right nonempty
    | next c first last rest => exact Nat.lt_of_lt_of_le before first
  have ends (x x' : Bool × Nat) (same : x.1 = x'.1 ∧ r.pos < x.2 ∧
      Follows gap (r.moveTo x.2) ((r.enclose gap).moveTo x'.2)) :
      Agree (fun x x' => x.1 = x'.1 ∧ Follows gap x.2 x'.2 ∧ x.2.rest.length ≤ r.rest.length - 1)
        (if (max.all (min ≤ ·)) = true then .ok (Operator.mk min max x.1, r.moveTo x.2)
          else Reader.fail .repetitionCountInvalid ⟨r.pos, x.2⟩)
        (if (max.all (min ≤ ·)) = true then .ok (Operator.mk min max x'.1, (r.enclose gap).moveTo x'.2)
          else Reader.fail .repetitionCountInvalid ⟨(r.enclose gap).pos, x'.2⟩) := by
    split
    · refine .ok ⟨by rw [same.1], same.2.2, ?_⟩
      rw [Reader.moveTo, List.length_drop]
      omega
    · exact .left _ _
  refine ends _ _ ?_
  rcases behind.next_or (by decide : '?' ≠ ')') with ⟨p, _, _, rfl, rfl, first, last, -⟩ | ⟨greedy, greedy'⟩
  · have later := Nat.lt_of_lt_of_le before first
    exact ⟨rfl, Nat.lt_succ_of_lt later, .inl (Reader.moveTo_behind (Nat.le_of_lt later) last)⟩
  · split
    · exact absurd rfl (greedy _ _)
    · exact ⟨rfl, later, behind.moveTo_offsetOf (Nat.le_of_lt before)⟩

end Repetition

/-! Sequences. -/

namespace Ast

open Repetition (operand? operand?_eq_some)

private theorem ofItems_bare {span : Span} (a b : Ast) (more : List Ast) :
    (ofItems span (a :: b :: more)).bare = .concat anywhere ((a :: b :: more).map Ast.bare).reverse := by
  show Ast.bare (.concat span (a :: b :: more).reverse) = _
  rw [Ast.bare, Ast.bareAll_eq_map, List.map_reverse]

private theorem ofItems_same {items items' : List Ast} (same : items'.map Ast.bare = items.map Ast.bare)
    (span span' : Span) : (ofItems span' items').bare = (ofItems span items).bare := by
  match items, items', same with
  | [], [], _ => rfl
  | [_], [_], same => exact (List.cons.inj same).1
  | [_], _ :: _ :: _, same => cases (List.cons.inj same).2
  | _ :: _ :: _, [_], same => cases (List.cons.inj same).2
  | a :: b :: more, a' :: b' :: more', same => rw [ofItems_bare, ofItems_bare, same]

/-- Whether two sequences in the making are the same but for places. -/
structure Pending.Same (d d' : Pending) : Prop where
  branches : d'.branches.map Ast.bare = d.branches.map Ast.bare
  items : d'.items.map Ast.bare = d.items.map Ast.bare

namespace Pending.Same

variable {d d' : Pending}

theorem from_ (pos pos' : Nat) : (Pending.from_ pos).Same (Pending.from_ pos') := ⟨rfl, rfl⟩

theorem push (same : d.Same d') {a a' : Ast} (item : a'.bare = a.bare) : (d.push a).Same (d'.push a') :=
  ⟨same.branches, by rw [Pending.push, Pending.push, List.map_cons, List.map_cons, item, same.items]⟩

theorem endBranch (same : d.Same d') (pos pos' : Nat) : (d.endBranch pos).Same (d'.endBranch pos') := by
  refine ⟨?_, rfl⟩
  rw [Pending.endBranch, Pending.endBranch, List.map_cons, List.map_cons, same.branches]
  exact congrArg (· :: _) (ofItems_same same.items _ _)

theorem finish (same : d.Same d') (pos pos' : Nat) : (d'.finish pos').bare = (d.finish pos).bare := by
  obtain ⟨branches, start, branchStart, items⟩ := d
  obtain ⟨branches', start', branchStart', items'⟩ := d'
  obtain ⟨ended, items⟩ := same
  dsimp only at ended items
  have last := ofItems_same items ⟨branchStart, pos⟩ ⟨branchStart', pos'⟩
  match branches, branches', ended with
  | [], [], _ => exact last
  | b :: more, b' :: more', ended =>
    show Ast.bare (.alternation _ _) = Ast.bare (.alternation _ _)
    rw [Ast.bare, Ast.bare, bareAll_eq_map, bareAll_eq_map, List.map_append, List.map_append, List.map_reverse,
      List.map_reverse, ended, List.map_singleton, List.map_singleton, last]

end Pending.Same

private theorem primitive_agree (extended : Bool) (c : Char) {r : Reader} (nonempty : 1 ≤ r.rest.length) :
    Agree (SameNode gap (r.rest.length - 1)) (primitive extended c r) (primitive extended c (r.enclose gap)) := by
  have here {a a' : Ast} (same : a'.bare = a.bare) :
      Agree (SameNode gap (r.rest.length - 1)) (.ok (a, r.advance 1)) (.ok (a', (r.enclose gap).advance 1)) := by
    rw [Reader.advance_enclose nonempty]
    exact .ok ⟨same, .inl rfl, Nat.le_of_eq List.length_drop⟩
  unfold primitive
  split
  · exact Escape.read_agree extended r
  · exact here rfl
  · exact here rfl
  · exact here rfl
  · exact here rfl

private theorem repeatLast_agree {d d' : Pending} (same : d.Same d') (r r' : Reader) {left : Nat}
    {operator operator' : Except Diagnosis (Repetition.Operator × Reader)}
    (agree : Agree (fun x x' => x.1 = x'.1 ∧ Follows gap x.2 x'.2 ∧ x.2.rest.length ≤ left) operator operator') :
    Agree (fun x x' => x.1.Same x'.1 ∧ Follows gap x.2 x'.2 ∧ x.2.rest.length ≤ left) (repeatLast d r operator)
      (repeatLast d' r' operator') := by
  unfold repeatLast
  cases found : operand? d.items with
  | none => exact .left _ _
  | some last =>
    cases found' : operand? d'.items with
    | none => exact .right _ _
    | some last' =>
      obtain ⟨a, items⟩ := last
      obtain ⟨a', items'⟩ := last'
      have all := same.items
      rw [operand?_eq_some found, operand?_eq_some found'] at all
      obtain ⟨item, before⟩ := List.cons.inj all
      refine agree.bind ?_
      rintro ⟨op, after⟩ ⟨_, after'⟩ ⟨rfl, follows, le⟩
      refine .ok ⟨⟨same.branches, ?_⟩, follows, le⟩
      dsimp only
      rw [List.map_cons, List.map_cons, before, Ast.bare, Ast.bare, item]

/-- Whether the sequence that has been read is the same, with readers at the same place. `left` bounds what is left of
the text. -/
structure SameSequence (gap left : Nat) (x x' : Ast × GroupTable × Reader) : Prop where
  bare : x'.1.bare = x.1.bare
  count : x'.2.1.count = x.2.1.count
  reader : x'.2.2 = x.2.2.enclose gap
  length : x.2.2.rest.length ≤ left

/-- A sequence is read alike in the enclosed text, where it stands in a group in any case. -/
private theorem sequence_agree {fuel fuel' : Nat} (more : fuel ≤ fuel') (opened : Option Span) (place : Span)
    (extended : Bool) {groups groups' : GroupTable} (counts : groups'.count = groups.count) {d d' : Pending}
    (same : d.Same d') {r r' : Reader} (enough : r.rest.length < fuel) (follows : Follows gap r r') :
    Agree (fun x x' => SameSequence gap r.rest.length x x' ∧ (1 ≤ x.2.2.rest.length ↔ opened.isSome))
      (sequence fuel opened extended groups d r) (sequence fuel' (some place) extended groups' d' r') := by
  induction fuel generalizing fuel' opened place extended groups groups' d d' r r' with
  | zero => exact absurd enough (Nat.not_lt_zero _)
  | succ fuel ih =>
    obtain ⟨fuel', rfl⟩ : ∃ n, fuel' = n + 1 := ⟨fuel' - 1, by omega⟩
    have more : fuel ≤ fuel' := Nat.le_of_succ_le_succ more
    have shorter := Reader.length_skip_le extended r
    have follows := follows.skip extended
    unfold sequence
    dsimp only
    generalize r.skip extended = next at shorter follows ⊢
    generalize r'.skip extended = next' at follows ⊢
    cases rest : next.rest with
    | nil =>
      cases opened with
      | some place => exact .left _ _
      | none =>
        rcases follows with rfl | ⟨-, none⟩
        · have rest' : (next.enclose gap).rest = [')'] := by rw [enclose, rest, List.nil_append]
          rw [rest']
          dsimp only
          rw [if_neg (by decide), if_pos rfl]
          refine .ok ⟨⟨same.finish _ _, counts, rfl, shorter⟩, ?_⟩
          dsimp only
          rw [rest]
          exact ⟨fun some => absurd some (Nat.not_succ_le_zero 0), fun some => absurd some Bool.false_ne_true⟩
        · rw [none]
          exact .right _ _
    | cons c t =>
      have nonempty : 1 ≤ next.rest.length := by rw [rest]; exact Nat.le_add_left _ _
      obtain rfl := follows.eq_enclose (List.length_pos_iff.mp nonempty)
      -- Where an item has been read, what is left is read alike.
      have goOn (extended : Bool) {groups groups' : GroupTable} (counts : groups'.count = groups.count) {d d' : Pending}
          (same : d.Same d') {behind behind' : Reader} (le : behind.rest.length ≤ next.rest.length - 1)
          (follows : Follows gap behind behind') :
          Agree (fun x x' => SameSequence gap r.rest.length x x' ∧ (1 ≤ x.2.2.rest.length ↔ opened.isSome))
            (sequence fuel opened extended groups d behind)
            (sequence fuel' (some place) extended groups' d' behind') := by
        refine (ih more opened place extended counts same (by omega) follows).mono fun x x' found => ?_
        exact ⟨⟨found.1.bare, found.1.count, found.1.reader, Nat.le_trans found.1.length (by omega)⟩, found.2⟩
      rw [Reader.rest_enclose rest]
      dsimp only
      refine .ite (fun _ => ?_) fun _ => .ite (fun _ => ?_) fun _ => .ite (fun _ => ?_) fun _ =>
        .ite (fun _ => ?_) fun _ => .ite (fun _ => ?_) fun _ => ?_
      · refine (Group.opening_agree extended counts (List.length_pos_iff.mp nonempty)).bind fun x x' found => ?_
        cases found with
        | flags span span' changes follows le =>
          have node : (Ast.flags span' changes).bare = (Ast.flags span changes).bare := rfl
          dsimp only
          exact goOn _ counts (same.push node) le follows
        | @group kind groups groups' counts' inside inside' follows le =>
          dsimp only
          refine (ih more (some _) _ _ counts' (.from_ _ _) (by omega) follows).bind ?_
          rintro ⟨inner, groups, close⟩ ⟨inner', groups', _⟩ ⟨⟨bare, counts, rfl, length⟩, closed⟩
          have some := closed.mpr rfl
          dsimp only at bare counts length some ⊢
          rw [Reader.advance_enclose some]
          have node : (Ast.group ⟨(next.enclose gap).pos, (close.enclose gap).pos + 1⟩ kind inner').bare =
              (Ast.group ⟨next.pos, close.pos + 1⟩ kind inner).bare := by
            rw [Ast.bare, Ast.bare, bare]
          exact goOn extended counts (same.push node)
            (Nat.le_trans (close.length_advance_le 1) (Nat.le_trans length le)) (.inl rfl)
      · cases opened with
        | none => exact .left _ _
        | some place => exact .ok ⟨⟨same.finish _ _, counts, rfl, shorter⟩, fun _ => rfl, fun _ => nonempty⟩
      · rw [Reader.advance_enclose nonempty]
        exact goOn extended counts (same.endBranch _ _) (Nat.le_of_eq List.length_drop) (.inl rfl)
      · refine (Bracket.read_agree extended (List.length_pos_iff.mp nonempty)).bind fun x x' found => ?_
        exact goOn extended counts (same.push found.bare) found.length found.follows
      · have operator := Repetition.counted_agree gap extended nonempty
        refine (repeatLast_agree same _ _ operator).bind fun x x' found => ?_
        exact goOn extended counts found.1 found.2.2 found.2.1
      · cases Repetition.bounds? c with
        | some bounds =>
          have operator := Repetition.simple_agree gap bounds.1 bounds.2 nonempty
          refine (repeatLast_agree same _ _ operator).bind fun x x' found => ?_
          exact goOn extended counts found.1 found.2.2 found.2.1
        | none =>
          refine (primitive_agree extended c nonempty).bind fun x x' found => ?_
          exact goOn extended counts (same.push found.bare) found.length found.follows

/-- Behind `\A(?:` the inside of the group is read by itself, and what follows its parenthesis after it. -/
private theorem sequence_behind (fuel : Nat) (inside : Text) :
    sequence (fuel + 2) none false {} (.from_ 0) ⟨0, '\\' :: 'A' :: '(' :: '?' :: ':' :: inside⟩ = (do
      let (inner, groups, close) ← sequence fuel (some ⟨2, 3⟩) false {} (.from_ 5) ⟨5, inside⟩
      let first := (Pending.from_ 0).push (.assertion ⟨0, 2⟩ .startText)
      sequence fuel none false groups (first.push (.group ⟨2, close.pos + 1⟩ (.plain []) inner)) (close.advance 1)) :=
  rfl

/-- Text that can be read both by itself and in a group behind `\A` has the same structure in both places. -/
theorem ofText_enclosed {t : Text} {a whole : Ast} (alone : ofText t = .ok a)
    (enclosed : ofText ('\\' :: 'A' :: '(' :: '?' :: ':' :: (t ++ [')'])) = .ok whole) :
    whole.bare = .concat anywhere [.assertion anywhere .startText, .group anywhere (.plain []) a.bare] := by
  have agree : Agree (fun x x' => SameSequence 5 t.length x x' ∧ (1 ≤ x.2.2.rest.length ↔ (none : Option Span).isSome))
      (sequence (t.length + 1) none false {} (.from_ 0) ⟨0, t⟩)
      (sequence (t.length + 5) (some ⟨2, 3⟩) false {} (.from_ 5) ⟨5, t ++ [')']⟩) :=
    sequence_agree (by omega) none ⟨2, 3⟩ false rfl (.from_ 0 5) (Nat.lt_succ_self _) (.inl rfl)
  have length : ('\\' :: 'A' :: '(' :: '?' :: ':' :: (t ++ [')'])).length + 1 = t.length + 5 + 2 := by
    simp only [List.length_cons, List.length_append, List.length_nil]
  unfold ofText at alone enclosed
  rw [length, sequence_behind] at enclosed
  cases read : sequence (t.length + 1) none false {} (.from_ 0) ⟨0, t⟩ with
  | error d =>
    rw [read] at alone
    cases alone
  | ok x =>
    cases read' : sequence (t.length + 5) (some ⟨2, 3⟩) false {} (.from_ 5) ⟨5, t ++ [')']⟩ with
    | error d =>
      rw [read'] at enclosed
      cases enclosed
    | ok x' =>
      rw [read] at alone
      rw [read'] at enclosed
      obtain ⟨inner, groups, close⟩ := x
      obtain ⟨inner', groups', close'⟩ := x'
      obtain ⟨⟨bare, counts, rfl, length⟩, closed⟩ := agree _ _ read read'
      obtain ⟨pos, rest⟩ := close
      have none : rest = [] := List.eq_nil_iff_length_eq_zero.mpr (by simpa using closed)
      subst none
      cases alone
      have shape : whole = .concat ⟨0, pos + 5 + 1⟩
          [.assertion ⟨0, 2⟩ .startText, .group ⟨2, pos + 5 + 1⟩ (.plain []) inner'] := (Except.ok.inj enclosed).symm
      subst shape
      rw [← bare]
      rfl

end Ast

end PatternKit.Regex
