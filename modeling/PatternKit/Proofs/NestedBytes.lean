import PatternKit.Proofs.NestedLexemes
import PatternKit.Proofs.TextBytes

/-!
The scan for nested repetitions byte by byte, as a loop with an index. Bytes that are not ASCII mean nothing to it, so it
does not matter that an escape passes over one byte of a character only. The loop reads no byte that does not exist, takes
no more rounds than there are bytes, and comes to what the scan of the text comes to.
-/

set_option autoImplicit false

namespace PatternKit.Backtracking

/-- Whether a byte is a digit. -/
def isDigitByte (b : UInt8) : Bool := '0'.toUInt8 ≤ b && b ≤ '9'.toUInt8

/-- Whether a count has no upper bound, from the bytes before its comma and behind it, if it has one; nothing if they are
no count. -/
def bound? (min : Bytes) (max? : Option Bytes) : Option Bool :=
  if min.isEmpty || !min.all isDigitByte then none
  else
    match max? with
    | none => some false
    | some max => if max.isEmpty then some true else if max.all isDigitByte then some false else none

/-- What the bytes between two braces say. The outer answer is missing where bytes are cut out of range. -/
def boundOf? (body : Bytes) : Option (Option Bool) :=
  match body.idxOf? ','.toUInt8 with
  | none => some (bound? body none)
  | some comma => do
    let min ← body.slice? 0 comma
    let max ← body.slice? (comma + 1) body.length
    return bound? min (some max)

/-- The length of the count that begins at an offset, with its braces, and whether it has no upper bound. -/
def countAt? (bs : Bytes) (start : Nat) : Option (Option (Nat × Bool)) := do
  if bs[start]? ≠ some '{'.toUInt8 then return none
  let behind ← bs.slice? (start + 1) bs.length
  match behind.idxOf? '}'.toUInt8 with
  | none => return none
  | some offset =>
    let close := start + 1 + offset
    let body ← bs.slice? (start + 1) close
    return (← boundOf? body).map fun unbounded => (close - start + 1, unbounded)

/-- Whether a marker begins at an offset. -/
def repeatsAt? (bs : Bytes) (i : Nat) : Option Bool :=
  if bs[i]? = some '*'.toUInt8 ∨ bs[i]? = some '+'.toUInt8 then some true
  else (countAt? bs i).map Option.isSome

/-- Where the loop stands, and what it remembers. -/
structure ByteScan where
  index : Nat
  escaped : Bool := false
  inSet : Bool := false
  open_ : List Bool := []

namespace ByteScan

/-- One round of the loop: nothing if a nested repetition has been found, and else where the loop stands then. The outer
answer is missing where a byte is read that does not exist. -/
def step? (bs : Bytes) (s : ByteScan) : Option (Option ByteScan) := do
  let b ← bs[s.index]?
  let next := { s with index := s.index + 1, escaped := false }
  if s.escaped then return some next
  if b = '\\'.toUInt8 then return some { next with escaped := true }
  if b = '['.toUInt8 ∧ ¬ s.inSet then return some { next with inSet := true }
  if b = ']'.toUInt8 ∧ s.inSet then return some { next with inSet := false }
  if s.inSet then return some next
  if b = '('.toUInt8 then return some { next with open_ := false :: s.open_ }
  if b = ')'.toUInt8 then
    if s.open_.headD false then
      if ← repeatsAt? bs (s.index + 1) then return none
      return some { next with open_ := noteUnbounded s.open_.tail }
    return some { next with open_ := s.open_.tail }
  if b = '*'.toUInt8 ∨ b = '+'.toUInt8 then return some { next with open_ := noteUnbounded s.open_ }
  if b = '{'.toUInt8 then
    match ← countAt? bs s.index with
    | some (length, unbounded) => return some { next with index := s.index + length, open_ := noteIf unbounded s.open_ }
    | none => return some next
  return some next

/-- The loop, in a number of rounds that must suffice. -/
def run? (bs : Bytes) (rounds : Nat) (s : ByteScan) : Option Bool :=
  if bs.length ≤ s.index then some false
  else
    match rounds with
    | 0 => none
    | rounds + 1 => do
      match ← s.step? bs with
      | none => return true
      | some next => run? bs rounds next

end ByteScan

/-- The search for nested repetitions, byte by byte, in no more rounds than there are bytes. -/
def nestedByBytes? (t : Text) : Option Bool := ByteScan.run? t.bytes t.bytes.length { index := 0 }

variable {t rest : Text} {c : Char} {unbounded : Bool}

/-! Counts. -/

/-- A text is cut in one way only where a character stands for the first time. -/
theorem append_cons_inj {s s' t' : Text} (absent : c ∉ s) (absent' : c ∉ s') (same : s ++ c :: t = s' ++ c :: t') :
    s = s' ∧ t = t' := by
  rcases List.append_eq_append_iff.mp same with ⟨a, rfl, rest⟩ | ⟨a, rfl, rest⟩
  · cases a with
    | nil => exact ⟨(List.append_nil s).symm, (List.cons.inj rest).2⟩
    | cons d a =>
      obtain ⟨rfl, -⟩ := List.cons.inj rest
      exact absurd (List.mem_append_right s List.mem_cons_self) absent'
  · cases a with
    | nil => exact ⟨List.append_nil s', (List.cons.inj rest).2.symm⟩
    | cons d a =>
      obtain ⟨rfl, -⟩ := List.cons.inj rest
      exact absurd (List.mem_append_right s' List.mem_cons_self) absent

theorem isDigitByte_iff (b : UInt8) : isDigitByte b = true ↔ 48 ≤ b.toNat ∧ b.toNat ≤ 57 := by
  rw [isDigitByte, Bool.and_eq_true, decide_eq_true_eq, decide_eq_true_eq, UInt8.le_iff_toNat_le, UInt8.le_iff_toNat_le]
  rfl

theorem isDigit_iff (c : Char) : c.isDigit = true ↔ 48 ≤ c.toNat ∧ c.toNat ≤ 57 := Char.isDigit_iff_toNat

/-- The bytes of a text are digits just if the characters are. -/
theorem all_isDigitByte (t : Text) : t.bytes.all isDigitByte = t.all Char.isDigit := by
  induction t with
  | nil => rfl
  | cons c t ih =>
    rw [Text.bytes_cons, List.all_append, ih, List.all_cons]
    congr 1
    by_cases ascii : c.toNat < 128
    · rw [String.utf8EncodeChar_eq_singleton (Text.utf8Size_of_ascii ascii), List.all_cons, List.all_nil, Bool.and_true,
        Bool.eq_iff_iff, isDigitByte_iff, isDigit_iff]
      show 48 ≤ c.toUInt8.toNat ∧ c.toUInt8.toNat ≤ 57 ↔ _
      rw [Text.toNat_toUInt8 ascii]
    · have large : 128 ≤ c.toNat := Nat.not_lt.mp ascii
      obtain ⟨b, bs, bytes⟩ := List.exists_cons_of_ne_nil (String.utf8EncodeChar_ne_nil (c := c))
      have first : 128 ≤ b.toNat := Text.le_of_mem_utf8EncodeChar large (bytes ▸ List.mem_cons_self)
      have noByte : isDigitByte b = false := by
        refine Bool.eq_false_iff.mpr fun digit => ?_
        have := (isDigitByte_iff b).mp digit
        omega
      have noChar : c.isDigit = false := Bool.eq_false_iff.mpr fun digit => by have := (isDigit_iff c).mp digit; omega
      rw [bytes, List.all_cons, noByte, noChar, Bool.false_and]

theorem isEmpty_bytes (t : Text) : t.bytes.isEmpty = t.isEmpty := by
  cases t with
  | nil => rfl
  | cons c t =>
    obtain ⟨b, bs, bytes⟩ := List.exists_cons_of_ne_nil (String.utf8EncodeChar_ne_nil (c := c))
    rw [Text.bytes_cons, bytes]
    rfl

theorem isNumber_iff : IsNumber t ↔ t.isEmpty = false ∧ t.all Char.isDigit = true := by
  rw [List.isEmpty_eq_false_iff, List.all_eq_true]
  exact ⟨fun number => ⟨number.some_, number.all⟩, fun ⟨some_, all⟩ => ⟨some_, all⟩⟩

theorem isCount_iff_of_notMem (absent : ',' ∉ t) : IsCount t unbounded ↔ IsNumber t ∧ unbounded = false := by
  constructor
  · rintro (number | _ | _)
    · exact ⟨number, rfl⟩
    · exact absurd (List.mem_append_right _ List.mem_cons_self) absent
    · exact absurd (List.mem_append_right _ List.mem_cons_self) absent
  · rintro ⟨number, rfl⟩
    exact .exactly number

theorem IsNumber.notMem_comma (number : IsNumber t) : ',' ∉ t := fun member => absurd (number.all _ member) (by decide)

theorem isCount_append_iff {n m : Text} (absent : ',' ∉ n) :
    IsCount (n ++ ',' :: m) unbounded ↔
      IsNumber n ∧ (m = [] ∧ unbounded = true ∨ IsNumber m ∧ unbounded = false) := by
  constructor
  · intro count
    generalize same : n ++ ',' :: m = body at count
    cases count with
    | exactly number =>
      subst same
      exact absurd (List.mem_append_right n List.mem_cons_self) number.notMem_comma
    | atLeast number =>
      obtain ⟨rfl, rfl⟩ := append_cons_inj absent number.notMem_comma same
      exact ⟨number, .inl ⟨rfl, rfl⟩⟩
    | between number last =>
      obtain ⟨rfl, rfl⟩ := append_cons_inj absent number.notMem_comma same
      exact ⟨number, .inr ⟨last, rfl⟩⟩
  · rintro ⟨number, ⟨rfl, rfl⟩ | ⟨last, rfl⟩⟩
    · exact .atLeast number
    · exact .between number last

theorem bound?_bytes (n : Text) : bound? n.bytes none = some unbounded ↔ IsNumber n ∧ unbounded = false := by
  rw [bound?, isNumber_iff, isEmpty_bytes, all_isDigitByte]
  cases n.isEmpty <;> cases n.all Char.isDigit <;> simp [eq_comm]

theorem bound?_bytes_some (n m : Text) :
    bound? n.bytes (some m.bytes) = some unbounded ↔
      IsNumber n ∧ (m = [] ∧ unbounded = true ∨ IsNumber m ∧ unbounded = false) := by
  rw [bound?, isNumber_iff, isNumber_iff, isEmpty_bytes, isEmpty_bytes, all_isDigitByte, all_isDigitByte,
    ← List.isEmpty_iff]
  cases n.isEmpty <;> cases n.all Char.isDigit <;> cases m.isEmpty <;> cases m.all Char.isDigit <;> simp [eq_comm]

/-- What the bytes between two braces say is what the text between them is. -/
theorem boundOf?_bytes (body : Text) :
    ∃ bound, boundOf? body.bytes = some bound ∧ ∀ u, bound = some u ↔ IsCount body u := by
  by_cases comma : ',' ∈ body
  · obtain ⟨n, m, rfl, absent⟩ := List.eq_append_cons_of_mem comma
    have found := Text.idxOf?_bytes_append (c := ',') (by decide) absent m
    have first := Text.slice?_bytes_append [] n (',' :: m)
    have second := Text.slice?_bytes_behind (c := ',') (by decide) n m
    rw [Text.byteSize_nil, Nat.zero_add] at first
    refine ⟨bound? (Text.bytes n) (some (Text.bytes m)), ?_, fun u => ?_⟩
    · rw [boundOf?, found]
      show (Bytes.slice? _ 0 _ >>= _) = _
      rw [show Bytes.slice? (Text.bytes (n ++ ',' :: m)) 0 (Text.byteSize n) = _ from first]
      show (Bytes.slice? _ _ _ >>= _) = _
      rw [second]
      rfl
    · rw [bound?_bytes_some, isCount_append_iff absent]
  · refine ⟨bound? body.bytes none, ?_, fun u => ?_⟩
    · rw [boundOf?, Text.idxOf?_bytes_of_notMem (by decide) comma]
    · rw [bound?_bytes, isCount_iff_of_notMem comma]

/-- What is found between two braces, where the second is the first one to close, whatever bytes stand around them. -/
theorem countAt?_braced (as body bs : Bytes) (closedOnce : '}'.toUInt8 ∉ body) :
    countAt? (as ++ '{'.toUInt8 :: (body ++ '}'.toUInt8 :: bs)) as.length =
      (boundOf? body).map fun bound => bound.map (body.length + 2, ·) := by
  have here : (as ++ '{'.toUInt8 :: (body ++ '}'.toUInt8 :: bs))[as.length]? = some '{'.toUInt8 := by
    rw [List.getElem?_append_right (Nat.le_refl _), Nat.sub_self, List.getElem?_cons_zero]
  have behind := Bytes.slice?_behind as '{'.toUInt8 (body ++ '}'.toUInt8 :: bs)
  have found := Bytes.idxOf?_append_cons closedOnce bs
  have cut := Bytes.slice?_append (as ++ ['{'.toUInt8]) body ('}'.toUInt8 :: bs)
  rw [List.length_append, List.length_singleton, ← List.append_cons] at cut
  have length : as.length + 1 + body.length - as.length + 1 = body.length + 2 := by omega
  rw [countAt?, here, if_neg (by simp), behind, Option.bind_eq_bind, Option.bind_some, found]
  show (Bytes.slice? _ (as.length + 1) (as.length + 1 + body.length) >>= _) = _
  rw [cut]
  show (boundOf? body >>= _) = _
  cases boundOf? body with
  | none => rfl
  | some bound =>
    show some (bound.map _) = some (bound.map _)
    rw [length]

/-- The count that is found among the bytes is the one that is read from the text. -/
theorem countAt?_bytes (a t : Text) :
    countAt? (a ++ '{' :: t).bytes a.byteSize =
      some ((counted? t).map fun (rest, unbounded) => (Text.byteSize ('{' :: t) - rest.byteSize, unbounded)) := by
  have whole : (a ++ '{' :: t).bytes = a.bytes ++ '{'.toUInt8 :: t.bytes := by
    rw [Text.bytes_append, Text.bytes_cons_ascii (by decide)]
  by_cases closes : '}' ∈ t
  · obtain ⟨body, rest, rfl, closedOnce⟩ := List.eq_append_cons_of_mem closes
    obtain ⟨bound, said, isCount⟩ := boundOf?_bytes body
    have read : counted? (body ++ '}' :: rest) = bound.map (rest, ·) := by
      cases bound with
      | some unbounded => exact ((isCount unbounded).mp rfl).counted? rest
      | none =>
        refine counted?_eq_none fun body' rest' unbounded split count => ?_
        obtain ⟨rfl, -⟩ := append_cons_inj closedOnce count.notMem_close split
        exact absurd ((isCount unbounded).mpr count) (by simp)
    have length : Text.byteSize body + 2 = Text.byteSize ('{' :: (body ++ '}' :: rest)) - Text.byteSize rest := by
      simp only [Text.byteSize_cons, Text.byteSize_append, Text.utf8Size_of_ascii (c := '{') (by decide),
        Text.utf8Size_of_ascii (c := '}') (by decide)]
      omega
    rw [whole, Text.bytes_append, Text.bytes_cons_ascii (by decide), ← Text.length_bytes a,
      countAt?_braced _ _ _ (Text.toUInt8_notMem_bytes (by decide) closedOnce), said, read, Option.map_some,
      Option.map_map, Text.length_bytes, length]
    rfl
  · have here : (a ++ '{' :: t).bytes[a.byteSize]? = some '{'.toUInt8 := by
      rw [Text.getElem?_bytes, (Text.head?_bytes_cons (by decide)).mpr rfl]
    have read : counted? t = none := counted?_eq_none fun body rest unbounded split _ =>
      closes (split ▸ List.mem_append_right body List.mem_cons_self)
    rw [countAt?, here, if_neg (by simp), Text.slice?_bytes_behind (by decide), Option.bind_eq_bind, Option.bind_some,
      Text.idxOf?_bytes_of_notMem (by decide) closes, read]
    rfl

theorem repeatsAt?_bytes (a t : Text) : repeatsAt? (a ++ t).bytes a.byteSize = some (startsRepetition t) := by
  cases t with
  | nil =>
    have ended : (a ++ []).bytes[a.byteSize]? = none := by rw [Text.getElem?_bytes]; rfl
    rw [repeatsAt?, countAt?, ended]
    rfl
  | cons c t =>
    have first (d : Char) (ascii : d.toNat < 128) : (a ++ c :: t).bytes[a.byteSize]? = some d.toUInt8 ↔ c = d := by
      rw [Text.getElem?_bytes, Text.head?_bytes_cons ascii]
    have signs := or_congr (first '*' (by decide)) (first '+' (by decide))
    rw [repeatsAt?, startsRepetition]
    by_cases single : c = '*' ∨ c = '+'
    · rw [if_pos (signs.mpr single)]
      rcases single with rfl | rfl <;> rfl
    · rw [if_neg fun same => single (signs.mp same)]
      obtain ⟨notStar, notPlus⟩ := not_or.mp single
      by_cases brace : c = '{'
      · subst brace
        rw [countAt?_bytes, Option.map_some, Option.isSome_map]
        rfl
      · have other : (a ++ c :: t).bytes[a.byteSize]? ≠ some '{'.toUInt8 := fun same =>
          brace ((first '{' (by decide)).mp same)
        rw [countAt?, if_pos other]
        simp [notStar, notPlus, brace]

/-! The loop. -/

namespace ByteScan

variable {bs : Bytes} {b : UInt8} {i rounds : Nat} {inSet : Bool} {open_ : List Bool}

/-- A round that finds nothing is followed by the next one. -/
theorem run?_step {s s' : ByteScan} (inside : s.index < bs.length) (steps : s.step? bs = some (some s')) :
    run? bs (rounds + 1) s = run? bs rounds s' := by
  rw [run?, if_neg (Nat.not_le.mpr inside), steps]
  rfl

theorem step?_escape (here : bs[i]? = some '\\'.toUInt8) :
    step? bs ⟨i, false, inSet, open_⟩ = some (some ⟨i + 1, true, inSet, open_⟩) := by
  rw [step?, here]
  rfl

theorem step?_escaped (here : bs[i]? = some b) :
    step? bs ⟨i, true, inSet, open_⟩ = some (some ⟨i + 1, false, inSet, open_⟩) := by
  rw [step?, here]
  rfl

/-- In a set, all but escapes and closing brackets are passed over. -/
theorem step?_member (here : bs[i]? = some b) (noEscape : b ≠ '\\'.toUInt8) (noClose : b ≠ ']'.toUInt8) :
    step? bs ⟨i, false, true, open_⟩ = some (some ⟨i + 1, false, true, open_⟩) := by
  rw [step?, here]
  simp [noEscape, noClose]

/-- Outside sets, bytes without meaning are passed over. -/
theorem step?_plain (here : bs[i]? = some b) (plain : Bytes.isOneOf ['\\', '[', '(', ')', '*', '+', '{'] b = false) :
    step? bs ⟨i, false, false, open_⟩ = some (some ⟨i + 1, false, false, open_⟩) := by
  simp only [Bytes.isOneOf, List.any_cons, List.any_nil, Bool.or_false, Bool.or_eq_false_iff, beq_eq_false_iff_ne] at plain
  obtain ⟨noEscape, noSet, noOpen, noClose, noStar, noPlus, noBrace⟩ := plain
  rw [step?, here]
  simp [noEscape.symm, noSet.symm, noOpen.symm, noClose.symm, noStar.symm, noPlus.symm, noBrace.symm]

/-- Bytes that are not ASCII are passed over. -/
theorem step?_large (here : bs[i]? = some b) (large : 128 ≤ b.toNat) :
    step? bs ⟨i, false, inSet, open_⟩ = some (some ⟨i + 1, false, inSet, open_⟩) := by
  have other (d : Char) (ascii : d.toNat < 128) : b ≠ d.toUInt8 := by
    rintro rfl
    rw [Text.toNat_toUInt8 ascii] at large
    omega
  cases inSet with
  | true => exact step?_member here (other '\\' (by decide)) (other ']' (by decide))
  | false => exact step?_plain here (Text.isOneOf_of_le (by simp [Text.IsAscii]) large)

/-- A row of such bytes takes as many rounds. By induction on the bytes. -/
theorem run?_large (as us vs : Bytes) (large : ∀ b ∈ us, 128 ≤ b.toNat) (rounds : Nat) (inSet : Bool) (open_ : List Bool) :
    run? (as ++ (us ++ vs)) (us.length + rounds) ⟨as.length, false, inSet, open_⟩ =
      run? (as ++ (us ++ vs)) rounds ⟨as.length + us.length, false, inSet, open_⟩ := by
  induction us generalizing as with
  | nil => rw [List.length_nil, Nat.zero_add, Nat.add_zero]
  | cons u us ih =>
    have here : (as ++ (u :: us ++ vs))[as.length]? = some u := by
      rw [List.getElem?_append_right (Nat.le_refl _), Nat.sub_self]
      rfl
    have inside : as.length < (as ++ (u :: us ++ vs)).length := by
      simp only [List.length_append, List.length_cons]
      omega
    have later := ih (as ++ [u]) fun b member => large b (List.mem_cons_of_mem u member)
    rw [List.append_assoc, List.length_append, List.length_singleton] at later
    rw [List.length_cons, Nat.add_right_comm, run?_step inside (step?_large here (large u List.mem_cons_self)),
      Nat.add_comm us.length 1, ← Nat.add_assoc]
    exact later

/-- Whether the loop comes to what the scan comes to, from the place between two texts on. -/
def Agrees (a t : Text) : Prop :=
  ∀ (inSet : Bool) (open_ : List Bool) (rounds : Nat), t.byteSize ≤ rounds →
    run? (a ++ t).bytes rounds ⟨a.byteSize, false, inSet, open_⟩ = some (nestedFrom inSet open_ t)

variable {a t : Text} {c : Char}

theorem agrees_nil (a : Text) : Agrees a [] := by
  intro inSet open_ rounds _
  have size : (a ++ []).bytes.length = a.byteSize := by rw [Text.length_bytes, List.append_nil]
  have ended : (a ++ []).bytes.length ≤ a.byteSize := Nat.le_of_eq size
  rw [run?.eq_def, if_pos ended, nestedFrom]

theorem byte_at (ascii : c.toNat < 128) (a t : Text) : (a ++ c :: t).bytes[a.byteSize]? = some c.toUInt8 := by
  rw [Text.getElem?_bytes, (Text.head?_bytes_cons ascii).mpr rfl]

theorem index_lt (a : Text) (c : Char) (t : Text) : a.byteSize < (a ++ c :: t).bytes.length := by
  have positive := c.utf8Size_pos
  rw [Text.length_bytes, Text.byteSize_append, Text.byteSize_cons]
  omega

/-- A round that passes over a part of the text. -/
theorem Agrees.round {part rest : Text} {inSet inSet' : Bool} {open_ open' : List Bool} {rounds : Nat}
    (later : Agrees (a ++ part) rest) (split : c :: t = part ++ rest) (some_ : part ≠ [])
    (steps : step? (a ++ c :: t).bytes ⟨a.byteSize, false, inSet, open_⟩ =
      some (some ⟨(a ++ part).byteSize, false, inSet', open'⟩))
    (enough : Text.byteSize (c :: t) ≤ rounds) :
    run? (a ++ c :: t).bytes rounds ⟨a.byteSize, false, inSet, open_⟩ = some (nestedFrom inSet' open' rest) := by
  have positive : 0 < part.byteSize := Text.byteSize_pos some_
  rw [split, Text.byteSize_append] at enough
  obtain ⟨rounds, rfl⟩ : ∃ n, rounds = n + 1 := ⟨rounds - 1, by omega⟩
  rw [run?_step (index_lt a c t) steps, split, ← List.append_assoc]
  exact later inSet' open' rounds (by omega)

theorem nestedFrom_large (large : 128 ≤ c.toNat) (inSet : Bool) (open_ : List Bool) (t : Text) :
    nestedFrom inSet open_ (c :: t) = nestedFrom inSet open_ t := by
  have other (d : Char) (ascii : d.toNat < 128) : c ≠ d := fun same => absurd (same ▸ ascii) (Nat.not_lt.mpr large)
  cases inSet with
  | true => exact nestedFrom_member (other '\\' (by decide)) (other ']' (by decide)) open_ t
  | false =>
    have ascii : Text.IsAscii ['\\', '[', '(', ')', '*', '+', '{'] := by simp [Text.IsAscii]
    exact nestedFrom_plain (fun special => absurd (ascii c special) (Nat.not_lt.mpr large)) open_ t

/-- A character that is not ASCII takes a round for each of its bytes. -/
theorem Agrees.large (large : 128 ≤ c.toNat) (later : Agrees (a ++ [c]) t) : Agrees a (c :: t) := by
  intro inSet open_ rounds enough
  rw [Text.byteSize_cons, ← String.length_utf8EncodeChar] at enough
  obtain ⟨rounds, rfl⟩ := Nat.exists_eq_add_of_le (Nat.le_trans (Nat.le_add_right _ _) enough)
  have passed := run?_large a.bytes (String.utf8EncodeChar c) t.bytes (fun b => Text.le_of_mem_utf8EncodeChar large)
    rounds inSet open_
  have there := later inSet open_ rounds (by omega)
  rw [Text.byteSize_append, Text.byteSize_cons, Text.byteSize_nil, Nat.add_zero, List.append_assoc, List.singleton_append]
    at there
  rw [← Text.bytes_cons, ← Text.bytes_append, Text.length_bytes, String.length_utf8EncodeChar, there] at passed
  rw [String.length_utf8EncodeChar, passed, nestedFrom_large large]

/-- An escape passes over the first byte of the character behind it; what is left of that character means nothing. -/
theorem Agrees.escape {d : Char} (later : Agrees (a ++ ['\\', d]) t) : Agrees a ('\\' :: d :: t) := by
  intro inSet open_ rounds enough
  obtain ⟨u, us, bytes⟩ := List.exists_cons_of_ne_nil (String.utf8EncodeChar_ne_nil (c := d))
  have large : ∀ b ∈ us, 128 ≤ b.toNat := by
    intro b member
    by_cases ascii : d.toNat < 128
    · rw [String.utf8EncodeChar_eq_singleton (Text.utf8Size_of_ascii ascii)] at bytes
      rw [← (List.cons.inj bytes).2] at member
      cases member
    · exact Text.le_of_mem_utf8EncodeChar (Nat.not_lt.mp ascii) (bytes ▸ List.mem_cons_of_mem u member)
  have length : d.utf8Size = us.length + 1 := by rw [← String.length_utf8EncodeChar, bytes, List.length_cons]
  have sign : '\\'.utf8Size = 1 := Text.utf8Size_of_ascii (by decide)
  rw [Text.byteSize_cons, Text.byteSize_cons, length, sign] at enough
  obtain ⟨rounds, rfl⟩ : ∃ n, rounds = us.length + n + 1 + 1 := ⟨rounds - us.length - 2, by omega⟩
  have split : (a ++ '\\' :: d :: t).bytes = (a.bytes ++ ['\\'.toUInt8, u]) ++ (us ++ t.bytes) := by
    rw [Text.bytes_append, Text.bytes_cons_ascii (by decide), Text.bytes_cons, bytes, List.append_assoc]
    rfl
  have second : (a ++ '\\' :: d :: t).bytes[a.byteSize + 1]? = some u := by
    rw [split, ← Text.length_bytes, List.append_assoc, List.getElem?_append_right (Nat.le_add_right _ 1),
      Nat.add_sub_cancel_left]
    rfl
  have inside : a.byteSize + 1 < (a ++ '\\' :: d :: t).bytes.length := (List.getElem?_eq_some_iff.mp second).1
  have passed := run?_large (a.bytes ++ ['\\'.toUInt8, u]) us t.bytes large rounds inSet open_
  have there := later inSet open_ rounds (by omega)
  have place : (a ++ ['\\', d]).byteSize = a.byteSize + 1 + 1 + us.length := by
    simp only [Text.byteSize_append, Text.byteSize_cons, Text.byteSize_nil, sign, length]
    omega
  rw [← split, List.length_append, Text.length_bytes] at passed
  rw [List.append_assoc, place] at there
  rw [run?_step (index_lt a '\\' (d :: t)) (step?_escape (byte_at (by decide) a (d :: t))),
    run?_step inside (step?_escaped second), nestedFrom_skip]
  exact passed.trans there

/-- An escape at the end of a text. -/
theorem agrees_lastEscape (a : Text) : Agrees a ['\\'] := by
  intro inSet open_ rounds enough
  have here : (a ++ ['\\']).bytes[a.byteSize]? = some '\\'.toUInt8 := byte_at (by decide) a []
  have size : (a ++ ['\\']).bytes.length = a.byteSize + 1 := (Text.length_bytes _).trans (Text.byteSize_append a ['\\'])
  have ended : (a ++ ['\\']).bytes.length ≤ a.byteSize + 1 := Nat.le_of_eq size
  obtain ⟨rounds, rfl⟩ : ∃ n, rounds = n + 1 := ⟨rounds - 1, (Nat.sub_add_cancel enough).symm⟩
  rw [run?_step (index_lt a '\\' []) (step?_escape here), run?.eq_def, if_pos ended, nestedFrom.eq_def]
  rfl

/-- A round at a character of ASCII. -/
theorem Agrees.single {inSet inSet' : Bool} {open_ open' : List Bool} {rounds : Nat} (later : Agrees (a ++ [c]) t)
    (ascii : c.toNat < 128)
    (steps : step? (a ++ c :: t).bytes ⟨a.byteSize, false, inSet, open_⟩ =
      some (some ⟨a.byteSize + 1, false, inSet', open'⟩))
    (enough : Text.byteSize (c :: t) ≤ rounds) :
    run? (a ++ c :: t).bytes rounds ⟨a.byteSize, false, inSet, open_⟩ = some (nestedFrom inSet' open' t) := by
  have size : (a ++ [c]).byteSize = a.byteSize + 1 := by
    rw [Text.byteSize_append, Text.byteSize_cons, Text.utf8Size_of_ascii ascii, Text.byteSize_nil]
  rw [← size] at steps
  exact later.round rfl (List.cons_ne_nil c []) steps enough

/-- A character of ASCII inside a set. -/
theorem Agrees.member (later : Agrees (a ++ [c]) t) (ascii : c.toNat < 128) (noEscape : c ≠ '\\') (open_ : List Bool)
    (rounds : Nat) (enough : Text.byteSize (c :: t) ≤ rounds) :
    run? (a ++ c :: t).bytes rounds ⟨a.byteSize, false, true, open_⟩ = some (nestedFrom true open_ (c :: t)) := by
  have here := byte_at ascii a t
  by_cases close : c = ']'
  · subst close
    rw [nestedFrom_closeSet]
    refine later.single ascii ?_ enough
    rw [step?, here]
    rfl
  · rw [nestedFrom_member noEscape close]
    refine later.single ascii (step?_member here ?_ ?_) enough
    · exact fun same => noEscape (Text.toUInt8_inj ascii (by decide) same)
    · exact fun same => close (Text.toUInt8_inj ascii (by decide) same)

/-- A closing parenthesis, behind which a marker may stand. -/
theorem Agrees.close (later : Agrees (a ++ [')']) t) (open_ : List Bool) (rounds : Nat)
    (enough : Text.byteSize (')' :: t) ≤ rounds) :
    run? (a ++ ')' :: t).bytes rounds ⟨a.byteSize, false, false, open_⟩ = some (nestedFrom false open_ (')' :: t)) := by
  have here := byte_at (c := ')') (by decide) a t
  cases open_ with
  | nil =>
    rw [nestedFrom.eq_def]
    refine later.single (by decide) ?_ enough
    rw [step?, here]
    rfl
  | cons seen outer =>
    rw [nestedFrom_close]
    cases seen with
    | false =>
      refine later.single (by decide) ?_ enough
      rw [step?, here]
      rfl
    | true =>
      have behind : repeatsAt? (a ++ ')' :: t).bytes (a.byteSize + 1) = some (startsRepetition t) := by
        have size : (a ++ [')']).byteSize = a.byteSize + 1 := Text.byteSize_append a [')']
        rw [← size, List.append_cons]
        exact repeatsAt?_bytes (a ++ [')']) t
      have steps : step? (a ++ ')' :: t).bytes ⟨a.byteSize, false, false, true :: outer⟩ =
          some (if startsRepetition t then none else some ⟨a.byteSize + 1, false, false, noteUnbounded outer⟩) := by
        rw [step?, here]
        show (repeatsAt? _ (a.byteSize + 1) >>= _) = _
        rw [behind]
        cases startsRepetition t <;> rfl
      cases repeats : startsRepetition t with
      | false =>
        rw [repeats] at steps
        exact later.single (by decide) steps enough
      | true =>
        have positive := Char.utf8Size_pos ')'
        rw [Text.byteSize_cons] at enough
        obtain ⟨rounds, rfl⟩ : ∃ n, rounds = n + 1 := ⟨rounds - 1, by omega⟩
        rw [repeats] at steps
        rw [run?, if_neg (Nat.not_le.mpr (index_lt a ')' t)), steps]
        rfl

/-- A brace, with which a count may begin. -/
theorem Agrees.brace (later : ∀ part rest, '{' :: t = part ++ rest → part ≠ [] → Agrees (a ++ part) rest)
    (open_ : List Bool) (rounds : Nat) (enough : Text.byteSize ('{' :: t) ≤ rounds) :
    run? (a ++ '{' :: t).bytes rounds ⟨a.byteSize, false, false, open_⟩ = some (nestedFrom false open_ ('{' :: t)) := by
  have here := byte_at (c := '{') (by decide) a t
  have count := countAt?_bytes a t
  cases read : counted? t with
  | none =>
    rw [nestedFrom_openBrace, read]
    refine (later ['{'] t rfl (List.cons_ne_nil _ _)).single (by decide) ?_ enough
    rw [step?, here]
    show (countAt? _ a.byteSize >>= _) = _
    rw [count, read]
    rfl
  | some behind =>
    obtain ⟨rest, unbounded⟩ := behind
    obtain ⟨body, rfl, isCount⟩ := counted?_eq_some_iff.mp read
    have split : '{' :: (body ++ '}' :: rest) = '{' :: (body ++ ['}']) ++ rest := by simp
    have index : a.byteSize + (Text.byteSize ('{' :: (body ++ '}' :: rest)) - rest.byteSize) =
        (a ++ '{' :: (body ++ ['}'])).byteSize := by
      rw [split, Text.byteSize_append, Text.byteSize_append, Nat.add_sub_cancel]
    rw [nestedFrom_count isCount]
    refine (later _ rest split (List.cons_ne_nil _ _)).round split (List.cons_ne_nil _ _) ?_ enough
    rw [step?, here]
    show (countAt? _ a.byteSize >>= _) = _
    rw [count, read, ← index]
    rfl

/-- A character of ASCII outside sets. -/
theorem Agrees.outside (ascii : c.toNat < 128) (noEscape : c ≠ '\\')
    (later : ∀ part rest, c :: t = part ++ rest → part ≠ [] → Agrees (a ++ part) rest) (open_ : List Bool) (rounds : Nat)
    (enough : Text.byteSize (c :: t) ≤ rounds) :
    run? (a ++ c :: t).bytes rounds ⟨a.byteSize, false, false, open_⟩ = some (nestedFrom false open_ (c :: t)) := by
  have here := byte_at ascii a t
  have next := later [c] t rfl (List.cons_ne_nil c [])
  by_cases special : c ∈ ['[', '(', ')', '*', '+', '{']
  · simp only [List.mem_cons, List.not_mem_nil, or_false] at special
    rcases special with rfl | rfl | rfl | rfl | rfl | rfl
    · rw [nestedFrom_openSet]
      refine next.single ascii ?_ enough
      rw [step?, here]
      rfl
    · rw [nestedFrom_open]
      refine next.single ascii ?_ enough
      rw [step?, here]
      rfl
    · exact next.close open_ rounds enough
    · rw [nestedFrom.eq_def]
      refine next.single ascii ?_ enough
      rw [step?, here]
      rfl
    · rw [nestedFrom.eq_def]
      refine next.single ascii ?_ enough
      rw [step?, here]
      rfl
    · exact Agrees.brace later open_ rounds enough
  · have plain : c ∉ ['\\', '[', '(', ')', '*', '+', '{'] := fun member =>
      (List.mem_cons.mp member).elim noEscape special
    rw [nestedFrom_plain plain]
    refine next.single ascii (step?_plain here ?_) enough
    exact Bool.eq_false_iff.mpr fun one => plain ((Text.isOneOf_toUInt8 (by simp [Text.IsAscii]) ascii).mp one)

/-- From every place on the loop comes to what the scan comes to. By induction on the length of the text behind it. -/
theorem agrees (a t : Text) : Agrees a t := by
  have upTo (n : Nat) : ∀ a t : Text, t.length ≤ n → Agrees a t := by
    induction n with
    | zero =>
      intro a t short
      rw [List.length_eq_zero_iff.mp (Nat.le_zero.mp short)]
      exact agrees_nil a
    | succ n ih =>
      intro a t short
      cases t with
      | nil => exact agrees_nil a
      | cons c t =>
        have later (part rest : Text) (split : c :: t = part ++ rest) (some_ : part ≠ []) : Agrees (a ++ part) rest := by
          have length := congrArg List.length split
          have positive := List.length_pos_iff.mpr some_
          rw [List.length_append] at length
          exact ih _ _ (by omega)
        by_cases ascii : c.toNat < 128
        · by_cases escape : c = '\\'
          · subst escape
            cases t with
            | nil => exact agrees_lastEscape a
            | cons d t => exact (later ['\\', d] t rfl (List.cons_ne_nil _ _)).escape
          · intro inSet open_ rounds enough
            cases inSet with
            | true => exact (later [c] t rfl (List.cons_ne_nil _ _)).member ascii escape open_ rounds enough
            | false => exact Agrees.outside ascii escape later open_ rounds enough
        · exact (later [c] t rfl (List.cons_ne_nil _ _)).large (Nat.not_lt.mp ascii)
  exact upTo t.length a t (Nat.le_refl _)

end ByteScan

/-- The search byte by byte ends, stays in range, and agrees with the scan. -/
theorem nestedByBytes?_eq (t : Text) : nestedByBytes? t = some (hasNestedRepetition t) :=
  ByteScan.agrees [] t false [] t.bytes.length (Nat.le_of_eq (Text.length_bytes t).symm)

/-- The scan for nested repetitions has an exact meaning on every text: the text consists of lexemes, and is flagged just if
two parentheses that belong together hold a marker without upper bound and a marker stands right behind them. The search
byte by byte answers the same; it takes no more rounds than there are bytes, and reads none that does not exist. -/
theorem nested_scan_finds_nesting (t : Text) :
    (∃ ls, Lexes t ls) ∧ (∀ ls, Lexes t ls → (hasNestedRepetition t = true ↔ Nests ls)) ∧
    nestedByBytes? t = some (hasNestedRepetition t) := by
  refine ⟨exists_lexes t, fun ls lexes => ?_, nestedByBytes?_eq t⟩
  rw [hasNestedRepetition, nestedFrom_eq lexes]
  exact nestedIn_iff

end PatternKit.Backtracking
