import PatternKit.Backtracking

/-!
Repetition markers in pattern text. A counted repetition, as it is read, is a marker: it ends at the first closing
brace, and no other marker begins in it.
-/

set_option autoImplicit false

namespace PatternKit.Backtracking

variable {t rest : Text} {c : Char} {unbounded : Bool}

/-- Whether a character can stand between the braces of a count. -/
def IsCountChar (c : Char) : Prop := c.isDigit = true ∨ c = ','

theorem IsCountChar.ne {special : Char} (count : IsCountChar c) (noDigit : special.isDigit = false)
    (noComma : special ≠ ',') : c ≠ special := by
  rintro rfl
  rcases count with digit | comma
  · rw [noDigit] at digit
    cases digit
  · exact noComma comma

/-- Whether a text is a number: digits, of which there is one at least. -/
structure IsNumber (digits : Text) : Prop where
  some_ : digits ≠ []
  all : ∀ c ∈ digits, c.isDigit = true

/-- Whether a text can stand between the braces of a count, and whether the count has no upper bound then. -/
inductive IsCount : Text → Bool → Prop
  | exactly {n : Text} (number : IsNumber n) : IsCount n false
  | atLeast {n : Text} (number : IsNumber n) : IsCount (n ++ [',']) true
  | between {n m : Text} (number : IsNumber n) (last : IsNumber m) : IsCount (n ++ ',' :: m) false

theorem IsCount.countChars {body : Text} (count : IsCount body unbounded) : ∀ c ∈ body, IsCountChar c := by
  have number {n : Text} (number : IsNumber n) : ∀ c ∈ n, IsCountChar c := fun c member => .inl (number.all c member)
  intro c member
  cases count with
  | exactly least => exact number least c member
  | atLeast least =>
    rcases List.mem_append.mp member with first | comma
    · exact number least c first
    · exact .inr (List.mem_singleton.mp comma)
  | between least last =>
    rcases List.mem_append.mp member with first | rest
    · exact number least c first
    · rcases List.mem_cons.mp rest with comma | second
      · exact .inr comma
      · exact number last c second

theorem IsCount.notMem_close {body : Text} (count : IsCount body unbounded) : '}' ∉ body := fun member =>
  (count.countChars _ member).ne (by decide) (by decide) rfl

theorem IsNumber.dropWhile_append {n : Text} (number : IsNumber n) (notDigit : c.isDigit = false) (t : Text) :
    (n ++ c :: t).dropWhile Char.isDigit = c :: t := by
  rw [List.dropWhile_append_of_pos number.all]
  simp [notDigit]

/-- What is dropped up to a character that is not a digit is a number, if it is anything. -/
theorem isNumber_of_dropWhile {d : Char} {u : Text} (digit : d.isDigit = true)
    (stops : (d :: t).dropWhile Char.isDigit = u) : ∃ n, IsNumber n ∧ d :: t = n ++ u := by
  refine ⟨(d :: t).takeWhile Char.isDigit, ⟨?_, List.all_eq_true.mp List.all_takeWhile⟩, ?_⟩
  · rw [List.takeWhile_cons_of_pos digit]
    exact List.cons_ne_nil _ _
  · rw [← stops, List.takeWhile_append_dropWhile]

private theorem counted?_of_number {n : Text} (number : IsNumber n) (t : Text) :
    counted? (n ++ t) =
      match (n ++ t).dropWhile Char.isDigit with
      | '}' :: rest => some (rest, false)
      | ',' :: more =>
        match more with
        | '}' :: rest => some (rest, true)
        | _ =>
          match more.dropWhile Char.isDigit with
          | '}' :: rest => some (rest, false)
          | _ => none
      | _ => none := by
  obtain ⟨d, ds, rfl⟩ := List.exists_cons_of_ne_nil number.some_
  rw [List.cons_append, counted?]
  exact if_pos (number.all d List.mem_cons_self)

/-- A count that stands between braces is read as what it is. -/
theorem IsCount.counted? {body : Text} (count : IsCount body unbounded) (rest : Text) :
    counted? (body ++ '}' :: rest) = some (rest, unbounded) := by
  cases count with
  | exactly number =>
    rw [counted?_of_number number, number.dropWhile_append (by decide)]
    rfl
  | atLeast number =>
    rw [List.append_assoc, List.singleton_append, counted?_of_number number, number.dropWhile_append (by decide)]
    rfl
  | between number last =>
    have behind := last.dropWhile_append (c := '}') (by decide) rest
    rw [List.append_assoc, List.cons_append, counted?_of_number number, number.dropWhile_append (by decide)]
    obtain ⟨d, ds, rfl⟩ := List.exists_cons_of_ne_nil last.some_
    have notClose : d ≠ '}' := by
      rintro rfl
      exact absurd (last.all _ List.mem_cons_self) (by decide)
    rw [List.cons_append] at behind ⊢
    simp only [behind]
    split
    · rename_i same
      exact absurd (List.cons.inj same).1 notClose
    · rfl

/-- What is read is a count, with the closing brace behind it. -/
theorem counted?_eq_some_iff :
    counted? t = some (rest, unbounded) ↔ ∃ body, t = body ++ '}' :: rest ∧ IsCount body unbounded := by
  constructor
  · intro read
    unfold counted? at read
    split at read
    · cases read
    · rename_i d ds
      split at read
      · rename_i digit
        split at read
        · rename_i behind stops
          obtain ⟨n, number, split⟩ := isNumber_of_dropWhile digit stops
          obtain ⟨rfl, rfl⟩ := Prod.mk.inj (Option.some.inj read)
          exact ⟨n, split, .exactly number⟩
        · rename_i more stops
          obtain ⟨n, number, split⟩ := isNumber_of_dropWhile digit stops
          split at read
          · rename_i behind
            obtain ⟨rfl, rfl⟩ := Prod.mk.inj (Option.some.inj read)
            exact ⟨n ++ [','], by rw [split, List.append_assoc]; rfl, .atLeast number⟩
          · rename_i notClosed
            split at read
            · rename_i behind closed
              obtain ⟨rfl, rfl⟩ := Prod.mk.inj (Option.some.inj read)
              cases more with
              | nil => cases closed
              | cons e more =>
                -- what is dropped to get to the brace begins with a digit, as the brace is not there at once
                have digit' : e.isDigit = true := by
                  cases other : e.isDigit with
                  | true => rfl
                  | false =>
                    rw [List.dropWhile_cons, other] at closed
                    exact absurd closed (notClosed behind)
                obtain ⟨m, last, split'⟩ := isNumber_of_dropWhile digit' closed
                exact ⟨n ++ ',' :: m, by rw [split, split', List.append_assoc]; rfl, .between number last⟩
            · cases read
        · cases read
      · cases read
  · rintro ⟨body, rfl, count⟩
    exact count.counted? rest

/-- A character that begins no marker. -/
theorem afterMarker?_plain (notStar : c ≠ '*') (notPlus : c ≠ '+') (notBrace : c ≠ '{') (t : Text) :
    afterMarker? c t = none := by
  simp [afterMarker?, notStar, notPlus, notBrace]

theorem afterBrace?_append {body : Text} (open_ : ∀ c ∈ body, c ≠ '}') (rest : Text) :
    afterBrace? (body ++ '}' :: rest) = some rest := by
  induction body with
  | nil => rfl
  | cons c body ih =>
    have notClose : c ≠ '}' := open_ c List.mem_cons_self
    rw [List.cons_append, afterBrace?, if_neg notClose]
    exact ih fun c' member => open_ c' (List.mem_cons_of_mem _ member)

/-- A count that can be read is a marker, with the same end. -/
theorem afterMarker?_of_counted? (read : counted? t = some (rest, unbounded)) : afterMarker? '{' t = some rest := by
  obtain ⟨body, rfl, count⟩ := counted?_eq_some_iff.mp read
  exact afterBrace?_append (fun c member same => count.notMem_close (same ▸ member)) rest

/-- A repetition is a marker. -/
theorem markerOnLine_of_startsRepetition (starts : startsRepetition t = true) : markerOnLine t = true := by
  cases t with
  | nil => cases starts
  | cons c t =>
    rw [startsRepetition] at starts
    rw [markerOnLine, Bool.or_eq_true]
    left
    have kinds : c = '*' ∨ c = '+' ∨ c = '{' ∧ (counted? t).isSome = true := by
      simpa [or_assoc] using starts
    rcases kinds with rfl | rfl | ⟨rfl, counts⟩
    · rfl
    · rfl
    · obtain ⟨⟨rest, unbounded⟩, read⟩ := Option.isSome_iff_exists.mp counts
      rw [afterMarker?_of_counted? read]
      rfl

/-- A marker with another one in sight from its end. -/
theorem sequential_of_marker (marker : afterMarker? c t = some rest) (later : markerOnLine rest = true) :
    hasSequentialRepetition (c :: t) = true := by
  simp [hasSequentialRepetition, marker, later]

theorem sequential_cons (c : Char) (flagged : hasSequentialRepetition t = true) :
    hasSequentialRepetition (c :: t) = true := by
  simp [hasSequentialRepetition, flagged]

theorem sequential_behind (s : Text) (flagged : hasSequentialRepetition t = true) :
    hasSequentialRepetition (s ++ t) = true := by
  induction s with
  | nil => exact flagged
  | cons c s ih => exact sequential_cons c ih

/-! Texts of one line. -/

/-- Whether no line ends in a text. -/
def OneLine (t : Text) : Prop := ∀ c ∈ t, isLineBreak c = false

theorem OneLine.tail (line : OneLine (c :: t)) : OneLine t := fun c' member => line c' (List.mem_cons_of_mem c member)

/-- On one line, a marker stays in sight whatever stands before it. -/
theorem markerOnLine_cons (line : OneLine (c :: t)) (marked : markerOnLine t = true) :
    markerOnLine (c :: t) = true := by
  have noBreak : isLineBreak c = false := line c List.mem_cons_self
  simp [markerOnLine, noBreak, marked]

theorem markerOnLine_cons_plain (notStar : c ≠ '*') (notPlus : c ≠ '+') (notBrace : c ≠ '{')
    (marked : markerOnLine (c :: t) = true) : markerOnLine t = true := by
  rw [markerOnLine, afterMarker?_plain notStar notPlus notBrace] at marked
  have parts : isLineBreak c = false ∧ markerOnLine t = true := by simpa using marked
  exact parts.2

private theorem markerOnLine_append {body : Text} (count : ∀ c ∈ body, IsCountChar c)
    (marked : markerOnLine (body ++ t) = true) : markerOnLine t = true := by
  induction body with
  | nil => exact marked
  | cons c body ih =>
    have here : IsCountChar c := count c List.mem_cons_self
    have later : markerOnLine (body ++ t) = true :=
      markerOnLine_cons_plain (here.ne (by decide) (by decide)) (here.ne (by decide) (by decide))
        (here.ne (by decide) (by decide)) marked
    exact ih (fun c' member => count c' (List.mem_cons_of_mem c member)) later

/-- No marker begins in a count, so one that is in sight from its brace stands behind it. -/
theorem markerOnLine_behind_count (read : counted? t = some (rest, unbounded)) (marked : markerOnLine t = true) :
    markerOnLine rest = true := by
  obtain ⟨body, rfl, count⟩ := counted?_eq_some_iff.mp read
  have closing : markerOnLine ('}' :: rest) = true := markerOnLine_append count.countChars marked
  exact markerOnLine_cons_plain (by decide) (by decide) (by decide) closing

end PatternKit.Backtracking
