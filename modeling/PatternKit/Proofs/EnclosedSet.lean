import PatternKit.Proofs.EnclosedReader

/-!
Bracketed sets of an enclosed text. A set ends with its own bracket, so nothing behind it is taken for a part of it: the
readers are at the same place when it has been read.
-/

set_option autoImplicit false

namespace PatternKit.Regex.Bracket

open Reader (Follows Sees enclose)

variable {gap : Nat}

/-! Named classes. -/

private theorem namedClass?_eq (start : Nat) (negated : Bool) (r : Reader) :
    namedClass? start negated r =
      if [':', ']'].isPrefixOf (r.rest.drop (r.rest.takeWhile (· != ':')).length) then
        (asciiClass? (r.rest.takeWhile (· != ':'))).map fun kind =>
          (.ascii ⟨start, r.pos + ((r.rest.takeWhile (· != ':')).length + 2)⟩ negated kind,
            r.advance ((r.rest.takeWhile (· != ':')).length + 2))
      else none := by
  unfold namedClass?
  dsimp only
  split
  · next shape => rw [if_pos (isPrefixOf_of_eq shape)]; rfl
  · next other => rw [if_neg (isPrefixOf_of_ne other)]

private theorem namedClass?_enclose (at_ at' : Nat) (negated : Bool) (r : Reader) :
    (namedClass? at' negated (r.enclose gap)).map (fun x => (x.1.bare, x.2)) =
      (namedClass? at_ negated r).map fun x => (x.1.bare, x.2.enclose gap) := by
  have name : (r.enclose gap).rest.takeWhile (· != ':') = _ := List.takeWhile_append
  rw [namedClass?_eq, namedClass?_eq, name]
  by_cases whole : (r.rest.takeWhile (· != ':')).length = r.rest.length
  · have behind : (r.enclose gap).rest.drop (r.rest ++ [')'].takeWhile (· != ':')).length = [] := by
      rw [show [')'].takeWhile (· != ':') = [')'] by decide]
      exact List.drop_length
    rw [if_pos whole, behind, whole, List.drop_length]
    rfl
  · have lt : (r.rest.takeWhile (· != ':')).length < r.rest.length :=
      Nat.lt_of_le_of_ne (List.takeWhile_sublist _).length_le whole
    rw [if_neg whole]
    generalize r.rest.takeWhile (· != ':') = name at lt ⊢
    have behind : (r.enclose gap).rest.drop name.length = r.rest.drop name.length ++ [')'] :=
      List.drop_append_of_le_length (Nat.le_of_lt lt)
    rw [behind, isPrefixOf_append_close (by decide)]
    split
    · next ends =>
      have le : name.length + 2 ≤ r.rest.length := by
        have two := (List.isPrefixOf_iff_prefix.mp ends).length_le
        simp only [List.length_drop, List.length_cons, List.length_nil] at two
        omega
      rw [Reader.advance_enclose le]
      cases asciiClass? name <;> rfl
    · rfl

private theorem ascii?_eq (r : Reader) :
    ascii? r = if ['[', ':', '^'].isPrefixOf r.rest then namedClass? r.pos true (r.advance 3)
      else if ['[', ':'].isPrefixOf r.rest then namedClass? r.pos false (r.advance 2) else none := by
  unfold ascii?
  split
  · next shape => rw [if_pos (isPrefixOf_of_eq shape)]
  · next plain shape =>
    rw [if_neg (isPrefixOf_of_ne ?_), if_pos (isPrefixOf_of_eq shape)]
    · intro u same
      cases shape.symm.trans same
      exact plain _ rfl
  · next none none' => rw [if_neg (isPrefixOf_of_ne none), if_neg (isPrefixOf_of_ne none')]

private theorem ascii?_enclose (gap : Nat) (r : Reader) :
    (ascii? (r.enclose gap)).map (fun x => (x.1.bare, x.2)) =
      (ascii? r).map fun x => (x.1.bare, x.2.enclose gap) := by
  have negated : ['[', ':', '^'].isPrefixOf (r.enclose gap).rest = _ := isPrefixOf_append_close (by decide) r.rest
  have plain : ['[', ':'].isPrefixOf (r.enclose gap).rest = _ := isPrefixOf_append_close (by decide) r.rest
  rw [ascii?_eq, ascii?_eq, negated, plain]
  split
  · next starts =>
    have le : 3 ≤ r.rest.length := (List.isPrefixOf_iff_prefix.mp starts).length_le
    rw [Reader.advance_enclose le]
    exact namedClass?_enclose _ _ true _
  · split
    · next starts =>
      have le : 2 ≤ r.rest.length := (List.isPrefixOf_iff_prefix.mp starts).length_le
      rw [Reader.advance_enclose le]
      exact namedClass?_enclose _ _ false _
    · rfl

private theorem length_namedClass?_le {at_ : Nat} {negated : Bool} {r : Reader} {x : ClassSet × Reader}
    (found : namedClass? at_ negated r = some x) : x.2.rest.length ≤ r.rest.length := by
  unfold namedClass? at found
  dsimp only at found
  split at found
  · obtain ⟨kind, -, rfl⟩ := Option.map_eq_some_iff.mp found
    exact r.length_advance_le _
  · cases found

private theorem length_ascii?_le {r : Reader} {x : ClassSet × Reader} (found : ascii? r = some x) :
    x.2.rest.length ≤ r.rest.length := by
  unfold ascii? at found
  split at found
  · exact Nat.le_trans (length_namedClass?_le found) (r.length_advance_le _)
  · exact Nat.le_trans (length_namedClass?_le found) (r.length_advance_le _)
  · cases found

/-! The beginning of a set. -/

/-- Whether the beginnings of two sets say the same. -/
structure Opening.Same (o o' : Opening) : Prop where
  negated : o'.negated = o.negated
  items : o'.items.map ClassSet.bare = o.items.map ClassSet.bare

private theorem leadingHyphens_agree {start stop : Nat} {vs vs' : List (Nat × Char)} (sees : Sees gap start stop vs vs')
    (opened opened' : Nat) {items items' : List ClassSet} (same : items'.map ClassSet.bare = items.map ClassSet.bare) :
    Agree (fun x x' => x'.1.map ClassSet.bare = x.1.map ClassSet.bare ∧ Sees gap start stop x.2 x'.2)
      (leadingHyphens opened items vs) (leadingHyphens opened' items' vs') := by
  induction sees generalizing items items' with
  | swallowed => exact .ok ⟨same, .swallowed⟩
  | close => exact .ok ⟨same, .close⟩
  | next c first last rest ih =>
    unfold leadingHyphens
    refine .ite (fun _ => ?_) fun _ => .ok ⟨same, .next c first last rest⟩
    have longer (p p' : Nat) : (ClassSet.literal ⟨⟨p', p' + 1⟩, '-', false⟩ :: items').map ClassSet.bare =
        (ClassSet.literal ⟨⟨p, p + 1⟩, '-', false⟩ :: items).map ClassSet.bare := by
      rw [List.map_cons, List.map_cons, same]
      rfl
    cases rest with
    | swallowed => exact .left _ _
    | close => exact .left _ _
    | next d first' last' rest => exact ih (longer _ _)

theorem opening_agree (extended : Bool) {r : Reader} (some : r.rest ≠ []) :
    Agree (fun x x' => x.1.Same x'.1 ∧ Follows gap x.2 x'.2 ∧ x.2.rest.length ≤ r.rest.length) (opening extended r)
      (opening extended (r.enclose gap)) := by
  have le : 1 ≤ r.rest.length := List.length_pos_iff.mpr some
  have sees := Reader.visible_behind gap extended le
  unfold opening
  generalize (r.advance 1).visible extended = vs at sees
  generalize ((r.enclose gap).advance 1).visible extended = vs' at sees
  cases sees with
  | swallowed => exact .left _ _
  | close => exact .left _ _
  | @next p c vs vs' first last rest =>
    have before : r.pos ≤ (r.advance 1).pos := Nat.le_succ _
    have goOn {vs vs' : List (Nat × Char)} (sees : Sees gap (r.advance 1).pos r.stop vs vs') (negated : Bool)
        {items items' : List ClassSet} (same : items'.map ClassSet.bare = items.map ClassSet.bare) (at_ at' : Nat) :
        Agree (fun x x' => x.1.Same x'.1 ∧ Follows gap x.2 x'.2 ∧ x.2.rest.length ≤ r.rest.length)
          (.ok (Opening.mk ⟨r.pos, r.offsetOf vs⟩ negated at_ items, r.moveTo (r.offsetOf vs)))
          (.ok (Opening.mk ⟨(r.enclose gap).pos, (r.enclose gap).offsetOf vs'⟩ negated at' items',
            (r.enclose gap).moveTo ((r.enclose gap).offsetOf vs'))) :=
      .ok ⟨⟨rfl, same⟩, sees.moveTo_offsetOf before, r.length_moveTo_le _⟩
    dsimp only
    have inside : Sees gap (r.advance 1).pos r.stop (if (c == '^') = true then vs else (p, c) :: vs)
        (if (c == '^') = true then vs' else (p + gap, c) :: vs') := by
      split
      · exact rest
      · exact .next c first last rest
    generalize (if (c == '^') = true then vs else _) = inner at inside ⊢
    generalize (if (c == '^') = true then vs' else _) = inner' at inside ⊢
    cases inside with
    | swallowed => exact .left _ _
    | close => exact .left _ _
    | next d first last rest =>
      refine (leadingHyphens_agree (.next d first last rest) _ _ rfl).bind ?_
      rintro ⟨items, more⟩ ⟨items', more'⟩ ⟨same, behind⟩
      dsimp only
      cases items with
      | cons item items =>
        cases items' with
        | nil => cases same
        | cons item' items' => exact goOn behind _ same _ _
      | nil =>
        obtain rfl := List.map_eq_nil_iff.mp same
        rcases behind.next_or (by decide : ']' ≠ ')') with ⟨_, _, _, rfl, rfl, -, -, after⟩ | ⟨other, other'⟩
        · cases after with
          | swallowed => exact .left _ _
          | close => exact .left _ _
          | next e first last after =>
            have later := Nat.le_trans before first
            exact .ok ⟨⟨rfl, rfl⟩, .inl (Reader.moveTo_enclose later (Nat.le_of_lt last)), r.length_moveTo_le _⟩
        · split
          · exact absurd rfl (other _ _)
          · split
            · exact absurd rfl (other' _ _)
            · exact goOn behind _ same _ _

/-! Members. -/

private theorem operator?_eq (t : Text) :
    operator? t = if ['&', '&'].isPrefixOf t then some .intersection
      else if ['-', '-'].isPrefixOf t then some .difference
      else if ['~', '~'].isPrefixOf t then some .symmetricDifference else none := by
  unfold operator?
  split
  · rfl
  · rfl
  · rfl
  · next none none' none'' =>
    rw [if_neg (isPrefixOf_of_ne none), if_neg (isPrefixOf_of_ne none'), if_neg (isPrefixOf_of_ne none'')]

private theorem operator?_append (t : Text) : operator? (t ++ [')']) = operator? t := by
  rw [operator?_eq, operator?_eq, isPrefixOf_append_close (by decide), isPrefixOf_append_close (by decide),
    isPrefixOf_append_close (by decide)]

private theorem pass_append (inComment : Bool) (t : Text) :
    peekSecond.pass inComment (t ++ [')']) = some ((peekSecond.pass inComment t).getD ')') := by
  induction t generalizing inComment with
  | nil => cases inComment <;> decide
  | cons c t ih =>
    rw [List.cons_append, peekSecond.pass, peekSecond.pass]
    split
    · exact ih _
    · split
      · exact ih _
      · rfl

private theorem peekSecond_enclose (gap : Nat) (extended : Bool) (r : Reader) (c : Char)
    (blank : Unicode.isBlank c = false) (hash : c ≠ '#') (close : c ≠ ')') :
    peekSecond extended (r.enclose gap) = some c ↔ peekSecond extended r = some c := by
  obtain ⟨pos, rest⟩ := r
  match rest with
  | [] => cases extended <;> rfl
  | _ :: t =>
    show (if extended then (peekSecond.pass false (t ++ [')'])).or (t ++ [')']).head? else (t ++ [')']).head?) =
      some c ↔ (if extended then (peekSecond.pass false t).or t.head? else t.head?) = some c
    have head : (t ++ [')']).head? = some c ↔ t.head? = some c := by
      cases t with
      | nil => exact ⟨fun same => absurd (Option.some.inj same).symm close, nofun⟩
      | cons d t => rfl
    cases extended with
    | false => exact head
    | true =>
      rw [if_pos rfl, if_pos rfl, pass_append, Option.some_or]
      cases seen : peekSecond.pass false t with
      | some d => rfl
      | none =>
        refine ⟨fun same => absurd (Option.some.inj same).symm close, fun same => ?_⟩
        obtain ⟨u, rfl⟩ := List.head?_eq_some_iff.mp same
        rw [peekSecond.pass, blank, if_neg Bool.false_ne_true, if_neg (by simpa using hash)] at seen
        cases seen

private theorem member_bare (a : Ast) : (member a.bare).toOption = (member a).toOption.map ClassSet.bare := by
  cases a <;> rfl

private theorem boundary_bare (a : Ast) : (boundary a.bare).toOption = (boundary a).toOption.map Literal.bare := by
  cases a <;> rfl

/-- What is read off a node without regard to its place is the same for nodes that differ in places. -/
private theorem agree_of_bare {α : Type} {f : Ast → Except Diagnosis α} {strip : α → α}
    (bare : ∀ a, (f a.bare).toOption = (f a).toOption.map strip) {a a' : Ast} (same : a'.bare = a.bare) :
    Agree (fun x x' => strip x' = strip x) (f a) (f a') := by
  intro x x' found found'
  have left := bare a
  have right := bare a'
  rw [same, left, found, found'] at right
  exact (Option.some.inj right).symm

/-- Whether what has been read of a text, and of the enclosed text, is the same set, with readers that keep abreast.
`left` bounds what is left of the text. -/
structure SameSet (gap left : Nat) (x x' : ClassSet × Reader) : Prop where
  bare : x'.1.bare = x.1.bare
  follows : Follows gap x.2 x'.2
  length : x.2.rest.length ≤ left

private theorem item_agree (extended : Bool) {r r' : Reader} (follows : Follows gap r r') :
    Agree (SameNode gap r.rest.length) (item extended r) (item extended r') := by
  match rest : r.rest with
  | [] =>
    unfold item
    rw [rest]
    exact .left _ _
  | c :: t =>
    obtain rfl := follows.eq_enclose (by rw [rest]; exact List.cons_ne_nil _ _)
    have le : 1 ≤ r.rest.length := by rw [rest]; exact Nat.succ_le_succ (Nat.zero_le _)
    have after : (r.enclose gap).advance 1 = (r.advance 1).enclose gap := Reader.advance_enclose le
    unfold item
    rw [Reader.rest_enclose rest, rest]
    dsimp only
    refine .ite (fun _ => ?_) fun _ => ?_
    · exact (Escape.read_agree extended r).mono fun x x' same =>
        ⟨same.bare, same.follows, Nat.le_trans same.length (rest ▸ Nat.sub_le _ _)⟩
    · rw [after]
      refine .ok ⟨rfl, .inl rfl, ?_⟩
      rw [← rest]
      exact r.length_advance_le 1

private theorem rangeOrMember_agree (extended : Bool) (opened opened' : Span) (r : Reader) :
    Agree (SameSet gap r.rest.length) (rangeOrMember extended opened r)
      (rangeOrMember extended opened' (r.enclose gap)) := by
  refine (item_agree extended (.inl rfl)).bind ?_
  rintro ⟨first, behind⟩ ⟨first', behind'⟩ ⟨same, follows, shorter⟩
  have shorter : (behind.skip extended).rest.length ≤ r.rest.length :=
    Nat.le_trans (Reader.length_skip_le extended behind) shorter
  have follows := follows.skip extended
  dsimp only at same follows ⊢
  generalize behind.skip extended = operator at shorter follows ⊢
  generalize behind'.skip extended = operator' at follows ⊢
  match rest : operator.rest with
  | [] => exact .left _ _
  | c :: t =>
    obtain rfl := follows.eq_enclose (by rw [rest]; exact List.cons_ne_nil _ _)
    have le : 1 ≤ operator.rest.length := by rw [rest]; exact Nat.succ_le_succ (Nat.zero_le _)
    have bracket := peekSecond_enclose gap extended operator ']' (by decide) (by decide) (by decide)
    have hyphen := peekSecond_enclose gap extended operator '-' (by decide) (by decide) (by decide)
    rw [Reader.rest_enclose rest]
    dsimp only
    simp only [bracket, hyphen]
    split
    · refine (agree_of_bare member_bare same).bind fun s s' same => ?_
      exact .ok ⟨same, .inl rfl, shorter⟩
    · rw [Reader.advance_enclose le]
      have shorter : ((operator.advance 1).skip extended).rest.length ≤ r.rest.length :=
        Nat.le_trans (Reader.length_skip_le extended _) (Nat.le_trans (operator.length_advance_le 1) shorter)
      have follows := Follows.skip (.inl rfl : Follows gap (operator.advance 1) _) extended
      generalize (operator.advance 1).skip extended = second at shorter follows ⊢
      generalize ((operator.advance 1).enclose gap).skip extended = second' at follows ⊢
      split
      · exact .left _ _
      · split
        · exact .right _ _
        · refine (item_agree extended follows).bind ?_
          rintro ⟨last, after⟩ ⟨last', after'⟩ ⟨same', follows, le⟩
          refine (agree_of_bare boundary_bare same).bind fun lo lo' lower => ?_
          refine (agree_of_bare boundary_bare same').bind fun hi hi' upper => ?_
          have first_char : lo'.char = lo.char := show lo'.bare.char = lo.bare.char from lower ▸ rfl
          have last_char : hi'.char = hi.char := show hi'.bare.char = hi.bare.char from upper ▸ rfl
          rw [first_char, last_char]
          split
          · exact .ok ⟨by rw [ClassSet.bare, ClassSet.bare, lower, upper], follows, Nat.le_trans le shorter⟩
          · exact .left _ _

private theorem unionOf_bare {start : Nat} (x y : ClassSet) (more : List ClassSet) :
    (unionOf start (x :: y :: more)).bare = .union anywhere ((x :: y :: more).map ClassSet.bare).reverse := by
  obtain ⟨span, several⟩ := unionOf_several start x y more
  rw [several, ClassSet.bare, ClassSet.bareAll_eq_map, List.map_reverse]

private theorem unionOf_same {items items' : List ClassSet} (same : items'.map ClassSet.bare = items.map ClassSet.bare)
    (start start' : Nat) : (unionOf start' items').bare = (unionOf start items).bare := by
  match items, items', same with
  | [], [], _ => rfl
  | [_], [_], same => exact (List.cons.inj same).1
  | [_], _ :: _ :: _, same => cases (List.cons.inj same).2
  | _ :: _ :: _, [_], same => cases (List.cons.inj same).2
  | x :: y :: more, x' :: y' :: more', same => rw [unionOf_bare, unionOf_bare, same]

private theorem combine_same {pending pending' : Option (SetOperator × ClassSet)}
    (waiting : pending'.map (fun p => (p.1, p.2.bare)) = pending.map fun p => (p.1, p.2.bare)) {rhs rhs' : ClassSet}
    (same : rhs'.bare = rhs.bare) : (combine pending' rhs').bare = (combine pending rhs).bare := by
  match pending, pending', waiting with
  | none, none, _ => exact same
  | some (operator, lhs), some (operator', lhs'), waiting =>
    obtain ⟨rfl, left⟩ := Prod.mk.inj (Option.some.inj waiting)
    rw [combine, combine, ClassSet.bare, ClassSet.bare, left, same]

/-- Whether the members of a set, read up to its bracket, are the same. -/
structure SameMembers (gap left : Nat) (x x' : ClassSet × Reader) : Prop where
  bare : x'.1.bare = x.1.bare
  reader : x'.2 = x.2.enclose gap
  some : 1 ≤ x.2.rest.length
  length : x.2.rest.length ≤ left

private theorem two_le_length {t : Text} {operator : SetOperator} (found : operator? t = some operator) :
    2 ≤ t.length := by
  unfold operator? at found
  split at found
  · exact Nat.le_add_left _ _
  · exact Nat.le_add_left _ _
  · exact Nat.le_add_left _ _
  · cases found

private theorem members_agree (extended : Bool) {fuel fuel' : Nat} (enough : fuel ≤ fuel') (opened opened' : Span)
    {pending pending' : Option (SetOperator × ClassSet)}
    (waiting : pending'.map (fun p => (p.1, p.2.bare)) = pending.map fun p => (p.1, p.2.bare)) (start start' : Nat)
    {items items' : List ClassSet} (same : items'.map ClassSet.bare = items.map ClassSet.bare) {r r' : Reader}
    (follows : Follows gap r r') :
    Agree (SameMembers gap r.rest.length) (members extended fuel opened pending start items r)
      (members extended fuel' opened' pending' start' items' r') := by
  induction fuel generalizing fuel' opened opened' pending pending' start start' items items' r r' with
  | zero => exact .left _ _
  | succ fuel ih =>
    obtain ⟨fuel', rfl⟩ : ∃ n, fuel' = n + 1 := ⟨fuel' - 1, by omega⟩
    have enough : fuel ≤ fuel' := Nat.le_of_succ_le_succ enough
    have shorter := Reader.length_skip_le extended r
    have follows := follows.skip extended
    unfold members
    dsimp only
    generalize r.skip extended = next at shorter follows ⊢
    generalize r'.skip extended = next' at follows ⊢
    -- Where a member has been read, the rest is read alike.
    have goOn {s s' : ClassSet} (member : s'.bare = s.bare) {behind behind' : Reader}
        (follows : Follows gap behind behind') (le : behind.rest.length ≤ r.rest.length) :
        Agree (SameMembers gap r.rest.length) (members extended fuel opened pending start (s :: items) behind)
          (members extended fuel' opened' pending' start' (s' :: items') behind') := by
      have longer : (s' :: items').map ClassSet.bare = (s :: items).map ClassSet.bare := by
        rw [List.map_cons, List.map_cons, member, same]
      exact (ih enough opened opened' waiting start start' longer follows).mono fun x x' found =>
        ⟨found.bare, found.reader, found.some, Nat.le_trans found.length le⟩
    match rest : next.rest with
    | [] => exact .left _ _
    | c :: t =>
      have nonempty : next.rest ≠ [] := by rw [rest]; exact List.cons_ne_nil _ _
      obtain rfl := follows.eq_enclose nonempty
      have operators : operator? (c :: (t ++ [')'])) = operator? (c :: t) := operator?_append (c :: t)
      rw [Reader.rest_enclose rest, operators]
      dsimp only
      refine .ite (fun _ => ?_) fun _ => .ite (fun _ => ?_) fun _ => ?_
      · have named := ascii?_enclose gap next
        cases class_ : ascii? next with
        | some found =>
          rw [class_] at named
          obtain ⟨found', class', same⟩ := Option.map_eq_some_iff.mp named
          obtain ⟨member, after⟩ := Prod.mk.inj same
          rw [class']
          exact goOn member (.inl after) (Nat.le_trans (length_ascii?_le class_) shorter)
        | none =>
          rw [class_] at named
          rw [Option.map_eq_none_iff.mp named]
          refine (opening_agree extended nonempty).bind ?_
          rintro ⟨o, inside⟩ ⟨o', inside'⟩ ⟨begins, follows, le⟩
          refine (ih enough o.span o'.span rfl o.start o'.start begins.items follows).bind ?_
          rintro ⟨inner, close⟩ ⟨inner', close'⟩ ⟨inside, rfl, some, le'⟩
          dsimp only at le le' inside some ⊢
          rw [Reader.advance_enclose some]
          have member : (ClassSet.bracketed ⟨o'.span.start, (close.enclose gap).pos + 1⟩ o'.negated inner').bare =
              (ClassSet.bracketed ⟨o.span.start, close.pos + 1⟩ o.negated inner).bare := by
            rw [ClassSet.bare, ClassSet.bare, inside, begins.negated]
          exact goOn member (.inl rfl)
            (Nat.le_trans (close.length_advance_le 1) (Nat.le_trans le' (Nat.le_trans le shorter)))
      · have set := combine_same waiting (unionOf_same same start start')
        exact .ok ⟨set, rfl, List.length_pos_iff.mpr nonempty, shorter⟩
      · cases found : operator? (c :: t) with
        | some operator =>
          have le : 2 ≤ next.rest.length := by
            rw [rest]
            exact two_le_length found
          rw [Reader.advance_enclose le]
          have waiting : (some (operator, combine pending' (unionOf start' items'))).map
              (fun p : SetOperator × ClassSet => (p.1, p.2.bare)) =
              (some (operator, combine pending (unionOf start items))).map fun p => (p.1, p.2.bare) :=
            congrArg (fun s => some (operator, s)) (combine_same waiting (unionOf_same same start start'))
          exact (ih enough opened opened' waiting _ _ rfl (.inl rfl)).mono fun x x' found =>
            ⟨found.bare, found.reader, found.some, Nat.le_trans found.length
              (Nat.le_trans (next.length_advance_le 2) shorter)⟩
        | none =>
          refine (rangeOrMember_agree extended opened opened' next).bind ?_
          rintro ⟨set, after⟩ ⟨set', after'⟩ ⟨member, follows, le⟩
          exact goOn member follows (Nat.le_trans le shorter)

theorem read_agree (extended : Bool) {r : Reader} (some : r.rest ≠ []) :
    Agree (SameNode gap (r.rest.length - 1)) (read extended r) (read extended (r.enclose gap)) := by
  have enough : r.rest.length ≤ (r.enclose gap).rest.length := by
    simp only [enclose, List.length_append, List.length_singleton]
    omega
  refine (opening_agree extended some).bind ?_
  rintro ⟨o, inside⟩ ⟨o', inside'⟩ ⟨begins, follows, le⟩
  refine (members_agree extended enough o.span o'.span rfl o.start o'.start begins.items follows).bind ?_
  rintro ⟨inner, close⟩ ⟨inner', close'⟩ ⟨same, rfl, some, le'⟩
  dsimp only at le le' same some ⊢
  rw [Reader.advance_enclose some]
  refine .ok ⟨?_, .inl rfl, ?_⟩
  · rw [Ast.bare, Ast.bare, same, begins.negated]
  · rw [Reader.advance, List.length_drop]
    omega

end PatternKit.Regex.Bracket
