import PatternKit.Proofs.NestedRepetition

/-!
What the scan for nested repetitions finds. A pattern text is a row of lexemes: parentheses, markers, and what means
nothing to the scan. It is flagged where two parentheses that belong together hold a marker without upper bound and
another marker comes right behind them, whatever else stands around.
-/

set_option autoImplicit false

namespace PatternKit.Backtracking

/-- What a pattern text consists of for the scan. -/
inductive Lexeme where
  | inert
  | opening
  | closing
  | marker (unbounded : Bool)
deriving DecidableEq, Repr

variable {t : Text} {ls before : List Lexeme} {open_ : List Bool}

/-! Lexemes of a text. -/

/-- Whether a text holds no closing bracket that is not escaped, and does not end with an escape either. -/
inductive Inside : Text → Prop
  | nil : Inside []
  | escape (c : Char) {t : Text} (rest : Inside t) : Inside ('\\' :: c :: t)
  | other {c : Char} {t : Text} (noEscape : c ≠ '\\') (noClose : c ≠ ']') (rest : Inside t) : Inside (c :: t)

/-- Whether a text consists of some lexemes, read from left to right: an escape with the character behind it; a set, up to
the first closing bracket that is not escaped; a parenthesis; a marker, which is a sign or a count between braces; or
another character. An escape at the end of a text and a set that is not closed are inert as well. -/
inductive Lexes : Text → List Lexeme → Prop
  | nil : Lexes [] []
  | escape (c : Char) {t : Text} {ls : List Lexeme} (rest : Lexes t ls) : Lexes ('\\' :: c :: t) (.inert :: ls)
  | lastEscape : Lexes ['\\'] [.inert]
  | set {body t : Text} {ls : List Lexeme} (inside : Inside body) (rest : Lexes t ls) :
      Lexes ('[' :: (body ++ ']' :: t)) (.inert :: ls)
  | openSet {body last : Text} (inside : Inside body) (ends : last = [] ∨ last = ['\\']) :
      Lexes ('[' :: (body ++ last)) [.inert]
  | opening {t : Text} {ls : List Lexeme} (rest : Lexes t ls) : Lexes ('(' :: t) (.opening :: ls)
  | closing {t : Text} {ls : List Lexeme} (rest : Lexes t ls) : Lexes (')' :: t) (.closing :: ls)
  | sign {c : Char} {t : Text} {ls : List Lexeme} (sign : c = '*' ∨ c = '+') (rest : Lexes t ls) :
      Lexes (c :: t) (.marker true :: ls)
  | count {body t : Text} {ls : List Lexeme} {unbounded : Bool} (count : IsCount body unbounded) (rest : Lexes t ls) :
      Lexes ('{' :: (body ++ '}' :: t)) (.marker unbounded :: ls)
  | brace {t : Text} {ls : List Lexeme} (noCount : ∀ body t' unbounded, t = body ++ '}' :: t' → ¬ IsCount body unbounded)
      (rest : Lexes t ls) : Lexes ('{' :: t) (.inert :: ls)
  | other {c : Char} {t : Text} {ls : List Lexeme} (plain : c ∉ ['\\', '[', '(', ')', '*', '+', '{']) (rest : Lexes t ls) :
      Lexes (c :: t) (.inert :: ls)

/-- A set goes to a closing bracket that is not escaped, or to the end of the text. -/
theorem inside_cases : (t : Text) →
    (∃ body rest, t = body ++ ']' :: rest ∧ Inside body) ∨
      ∃ body last, t = body ++ last ∧ Inside body ∧ (last = [] ∨ last = ['\\'])
  | [] => .inr ⟨[], [], rfl, .nil, .inl rfl⟩
  | c :: t => by
    by_cases close : c = ']'
    · exact .inl ⟨[], t, by rw [close]; rfl, .nil⟩
    by_cases escape : c = '\\'
    · subst escape
      cases t with
      | nil => exact .inr ⟨[], ['\\'], rfl, .nil, .inr rfl⟩
      | cons d t =>
        rcases inside_cases t with ⟨body, rest, rfl, inside⟩ | ⟨body, last, rfl, inside, ends⟩
        · exact .inl ⟨'\\' :: d :: body, rest, rfl, .escape d inside⟩
        · exact .inr ⟨'\\' :: d :: body, last, rfl, .escape d inside, ends⟩
    · rcases inside_cases t with ⟨body, rest, rfl, inside⟩ | ⟨body, last, rfl, inside, ends⟩
      · exact .inl ⟨c :: body, rest, rfl, .other escape close inside⟩
      · exact .inr ⟨c :: body, last, rfl, .other escape close inside, ends⟩

/-- The first lexeme of a text can be read, whatever consists of lexemes behind it. -/
theorem lexes_cons (c : Char) (t : Text) (later : ∀ t' : Text, t'.length ≤ t.length → ∃ ls, Lexes t' ls) :
    ∃ ls, Lexes (c :: t) ls := by
  obtain ⟨ls, rest⟩ := later t (Nat.le_refl _)
  by_cases special : c ∈ ['\\', '[', '(', ')', '*', '+', '{']
  · simp only [List.mem_cons, List.not_mem_nil, or_false] at special
    rcases special with rfl | rfl | rfl | rfl | rfl | rfl | rfl
    · cases t with
      | nil => exact ⟨_, .lastEscape⟩
      | cons d t =>
        obtain ⟨ls, rest⟩ := later t (Nat.le_succ _)
        exact ⟨_, .escape d rest⟩
    · rcases inside_cases t with ⟨body, t', rfl, inside⟩ | ⟨body, last, rfl, inside, ends⟩
      · obtain ⟨ls, rest⟩ := later t' (by rw [List.length_append, List.length_cons]; omega)
        exact ⟨_, .set inside rest⟩
      · exact ⟨_, .openSet inside ends⟩
    · exact ⟨_, .opening rest⟩
    · exact ⟨_, .closing rest⟩
    · exact ⟨_, .sign (.inl rfl) rest⟩
    · exact ⟨_, .sign (.inr rfl) rest⟩
    · by_cases counts : ∃ body t' unbounded, t = body ++ '}' :: t' ∧ IsCount body unbounded
      · obtain ⟨body, t', unbounded, rfl, count⟩ := counts
        obtain ⟨ls, rest⟩ := later t' (by rw [List.length_append, List.length_cons]; omega)
        exact ⟨_, .count count rest⟩
      · exact ⟨_, .brace (fun body t' unbounded split count => counts ⟨body, t', unbounded, split, count⟩) rest⟩
  · exact ⟨_, .other special rest⟩

/-- Every text consists of lexemes. -/
theorem exists_lexes (t : Text) : ∃ ls, Lexes t ls := by
  have upTo (n : Nat) : ∀ t : Text, t.length ≤ n → ∃ ls, Lexes t ls := by
    induction n with
    | zero =>
      intro t short
      exact ⟨[], List.length_eq_zero_iff.mp (Nat.le_zero.mp short) ▸ .nil⟩
    | succ n ih =>
      intro t short
      cases t with
      | nil => exact ⟨[], .nil⟩
      | cons c t =>
        have short' : t.length ≤ n := Nat.le_of_succ_le_succ short
        exact lexes_cons c t fun t' shorter => ih t' (Nat.le_trans shorter short')
  exact upTo t.length t (Nat.le_refl _)

/-! The scan on lexemes. -/

/-- Whether a row of lexemes begins with a marker. -/
def startsMarker : List Lexeme → Bool
  | .marker _ :: _ => true
  | _ => false

/-- The scan of lexemes, as `nestedFrom` scans text. -/
def nestedIn (open_ : List Bool) : List Lexeme → Bool
  | [] => false
  | .inert :: ls => nestedIn open_ ls
  | .opening :: ls => nestedIn (false :: open_) ls
  | .closing :: ls =>
    match open_ with
    | seen :: outer => (seen && startsMarker ls) || nestedIn (noteIf seen outer) ls
    | [] => nestedIn [] ls
  | .marker unbounded :: ls => nestedIn (noteIf unbounded open_) ls

theorem Inside.nestedFrom {body : Text} (inside : Inside body) (open_ : List Bool) (t : Text) :
    nestedFrom true open_ (body ++ t) = nestedFrom true open_ t := by
  induction inside with
  | nil => rfl
  | escape c _ ih =>
    rw [List.cons_append, List.cons_append, nestedFrom_skip]
    exact ih
  | other noEscape noClose _ ih =>
    rw [List.cons_append, nestedFrom_member noEscape noClose]
    exact ih

theorem counted?_eq_none (noCount : ∀ body t' unbounded, t = body ++ '}' :: t' → ¬ IsCount body unbounded) :
    counted? t = none := by
  refine Option.eq_none_iff_forall_ne_some.mpr fun ⟨rest, unbounded⟩ read => ?_
  obtain ⟨body, split, count⟩ := counted?_eq_some_iff.mp read
  exact noCount body rest unbounded split count

theorem startsRepetition_eq (lexes : Lexes t ls) : startsRepetition t = startsMarker ls := by
  cases lexes with
  | sign sign => rcases sign with rfl | rfl <;> rfl
  | count count => rw [startsRepetition, count.counted?]; rfl
  | brace noCount => rw [startsRepetition, counted?_eq_none noCount]; rfl
  | other plain =>
    simp only [List.mem_cons, List.not_mem_nil, or_false, not_or] at plain
    simp [startsRepetition, startsMarker, plain]
  | _ => rfl

/-- The scan of a text is that of its lexemes. -/
theorem nestedFrom_eq (lexes : Lexes t ls) (open_ : List Bool) : nestedFrom false open_ t = nestedIn open_ ls := by
  induction lexes generalizing open_ with
  | nil => rfl
  | escape c _ ih => rw [nestedFrom_skip, ih, nestedIn]
  | lastEscape => rfl
  | set inside _ ih => rw [nestedFrom_openSet, inside.nestedFrom, nestedFrom_closeSet, ih, nestedIn]
  | openSet inside ends =>
    rw [nestedFrom_openSet, inside.nestedFrom]
    rcases ends with rfl | rfl <;> rfl
  | opening _ ih => rw [nestedFrom_open, ih, nestedIn]
  | closing rest ih =>
    cases open_ with
    | nil => 
      rw [nestedIn, ← ih, nestedFrom.eq_def]
      rfl
    | cons seen outer => rw [nestedFrom_close, ih, startsRepetition_eq rest, nestedIn]
  | sign sign _ ih =>
    rw [nestedIn, ← ih, nestedFrom.eq_def]
    rcases sign with rfl | rfl <;> rfl
  | count count _ ih => rw [nestedFrom_count count, ih, nestedIn]
  | brace noCount _ ih => rw [nestedFrom_openBrace, counted?_eq_none noCount, ih, nestedIn]; rfl
  | other plain _ ih => rw [nestedFrom_plain plain, ih, nestedIn]

/-! What it finds. -/

/-- Whether the parentheses in a row of lexemes belong together. -/
inductive Balanced : List Lexeme → Prop
  | nil : Balanced []
  | leaf {l : Lexeme} {ls : List Lexeme} (noOpening : l ≠ .opening) (noClosing : l ≠ .closing) (rest : Balanced ls) :
      Balanced (l :: ls)
  | group {inner ls : List Lexeme} (inner_ : Balanced inner) (rest : Balanced ls) :
      Balanced (.opening :: (inner ++ .closing :: ls))

/-- Whether two parentheses that belong together hold a marker without upper bound, and a marker stands right behind. -/
def Nests (ls : List Lexeme) : Prop :=
  ∃ before inner unbounded after, ls = before ++ .opening :: (inner ++ .closing :: .marker unbounded :: after) ∧
    Balanced inner ∧ .marker true ∈ inner

theorem Balanced.append {ms : List Lexeme} (first : Balanced ls) (second : Balanced ms) : Balanced (ls ++ ms) := by
  induction first with
  | nil => exact second
  | leaf noOpening noClosing _ ih => exact .leaf noOpening noClosing ih
  | group inner_ _ _ ih =>
    rw [List.cons_append, List.append_assoc, List.cons_append]
    exact .group inner_ ih

/-- Whether a marker without upper bound is among some lexemes. -/
def holdsUnbounded (ls : List Lexeme) : Bool := ls.contains (.marker true)

theorem holdsUnbounded_append (ls ms : List Lexeme) :
    holdsUnbounded (ls ++ ms) = (holdsUnbounded ls || holdsUnbounded ms) := List.contains_append ..

/-- What the scan keeps: for each group that is open, the innermost first, whether the lexemes behind its parenthesis,
which belong together, hold a marker without upper bound. Of what stands before the first open group nothing is kept. -/
inductive Opened : List Lexeme → List Bool → Prop
  | none (before : List Lexeme) : Opened before []
  | group {before inner : List Lexeme} {outer : List Bool} (around : Opened before outer) (balanced : Balanced inner) :
      Opened (before ++ .opening :: inner) (holdsUnbounded inner :: outer)

/-- A part whose parentheses belong together leaves the open groups as they are, but for what is noted. -/
theorem Opened.append (opened : Opened before open_) {part : List Lexeme} (balanced : Balanced part) :
    Opened (before ++ part) (noteIf (holdsUnbounded part) open_) := by
  cases opened with
  | none => cases h : holdsUnbounded part <;> exact .none _
  | @group before inner outer around inner_ =>
    have noted : noteIf (holdsUnbounded part) (holdsUnbounded inner :: outer) =
        holdsUnbounded (inner ++ part) :: outer := by
      rw [noteIf_cons, holdsUnbounded_append]
    rw [noted, List.append_assoc, List.cons_append]
    exact .group around (inner_.append balanced)

/-- What is noted of the innermost group stands in it. -/
theorem Opened.innermost {seen : Bool} {outer : List Bool} (opened : Opened before (seen :: outer)) :
    ∃ around inner, before = around ++ .opening :: inner ∧ Balanced inner ∧ holdsUnbounded inner = seen := by
  cases opened with
  | group _ balanced => exact ⟨_, _, rfl, balanced, rfl⟩

theorem Opened.opening (opened : Opened before open_) : Opened (before ++ [.opening]) (false :: open_) :=
  .group opened .nil

theorem Opened.closing {seen : Bool} {outer : List Bool} (opened : Opened before (seen :: outer)) :
    Opened (before ++ [.closing]) (noteIf seen outer) := by
  cases opened with
  | @group before inner outer around inner_ =>
    have whole : Balanced (.opening :: (inner ++ [.closing])) := .group inner_ .nil
    have noted : holdsUnbounded (.opening :: (inner ++ [.closing])) = holdsUnbounded inner := by
      simp [holdsUnbounded]
    have closed := around.append whole
    rw [noted] at closed
    rw [List.append_assoc, List.cons_append]
    exact closed

/-- A part whose parentheses belong together is passed over, with what is in it noted, unless something in it is flagged. -/
theorem nestedIn_balanced {part : List Lexeme} (balanced : Balanced part) (open_ : List Bool)
    (flagged : nestedIn (noteIf (holdsUnbounded part) open_) ls = true) : nestedIn open_ (part ++ ls) = true := by
  induction balanced generalizing open_ ls with
  | nil => exact flagged
  | @leaf l rest noOpening noClosing _ ih =>
    rw [List.cons_append]
    cases l with
    | inert => exact ih open_ flagged
    | opening => exact absurd rfl noOpening
    | closing => exact absurd rfl noClosing
    | marker unbounded =>
      refine ih _ ?_
      have noted : holdsUnbounded (.marker unbounded :: rest) = (unbounded || holdsUnbounded rest) := by
        cases unbounded <;> simp [holdsUnbounded]
      rwa [noteIf_noteIf, ← noted]
  | @group inner rest _ _ ihInner ihRest =>
    have noted : holdsUnbounded (.opening :: (inner ++ .closing :: rest)) =
        (holdsUnbounded inner || holdsUnbounded rest) := by
      simp [holdsUnbounded]
    rw [noted, ← noteIf_noteIf] at flagged
    rw [List.cons_append, List.append_assoc, List.cons_append, nestedIn]
    refine ihInner _ ?_
    rw [noteIf_cons, Bool.false_or, nestedIn, ihRest _ flagged]
    exact Bool.or_true _

/-- A marker without upper bound in a group that closes, and a marker right behind, are flagged in any surroundings. -/
theorem nestedIn_of_nests (nests : Nests ls) (open_ : List Bool) : nestedIn open_ ls = true := by
  obtain ⟨before, inner, unbounded, after, rfl, balanced, held⟩ := nests
  have holds : holdsUnbounded inner = true := List.contains_iff_mem.mpr held
  induction before generalizing open_ with
  | nil =>
    refine nestedIn_balanced balanced (false :: open_) ?_
    rw [holds, noteIf_cons]
    rfl
  | cons l before ih =>
    rw [List.cons_append]
    cases l with
    | closing =>
      cases open_ with
      | nil => exact ih []
      | cons seen outer => rw [nestedIn, ih]; exact Bool.or_true _
    | _ => exact ih _

/-- What is flagged nests repetitions, in all that has been read. By induction on what is left to be read. -/
theorem nests_of_nestedIn (opened : Opened before open_) (flagged : nestedIn open_ ls = true) : Nests (before ++ ls) := by
  induction ls generalizing before open_ with
  | nil => cases flagged
  | cons l ls ih =>
    have step {open' : List Bool} (next : Opened (before ++ [l]) open') (flagged : nestedIn open' ls = true) :
        Nests (before ++ l :: ls) := by
      rw [List.append_cons]
      exact ih next flagged
    have leaf (noOpening : l ≠ .opening) (noClosing : l ≠ .closing) :
        Opened (before ++ [l]) (noteIf (holdsUnbounded [l]) open_) := opened.append (.leaf noOpening noClosing .nil)
    cases l with
    | inert => exact step (leaf (by decide) (by decide)) flagged
    | opening => exact step opened.opening flagged
    | marker unbounded =>
      have noted : holdsUnbounded [.marker unbounded] = unbounded := by cases unbounded <;> rfl
      rw [noted] at leaf
      exact step (leaf (by simp) (by simp)) flagged
    | closing =>
      cases open_ with
      | nil => exact step (.none _) flagged
      | cons seen outer =>
        rcases Bool.or_eq_true_iff.mp flagged with repeated | later
        · obtain ⟨rfl, starts⟩ := Bool.and_eq_true_iff.mp repeated
          cases ls with
          | nil => cases starts
          | cons next after =>
            cases next with
            | marker unbounded =>
              obtain ⟨around, inner, rfl, balanced, held⟩ := opened.innermost
              refine ⟨around, inner, unbounded, after, ?_, balanced, List.contains_iff_mem.mp held⟩
              rw [List.append_assoc]
              rfl
            | _ => cases starts
        · exact step opened.closing later

/-- The scan of lexemes finds just the nested repetitions. -/
theorem nestedIn_iff : nestedIn [] ls = true ↔ Nests ls :=
  ⟨nests_of_nestedIn (.none []), fun nests => nestedIn_of_nests nests []⟩

end PatternKit.Backtracking
