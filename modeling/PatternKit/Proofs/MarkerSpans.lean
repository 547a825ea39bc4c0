import PatternKit.Proofs.RepetitionMarkers
import PatternKit.Proofs.TextBytes
import PatternKit.Span

/-!
Repetition markers by their spans. The markers of a text are found among its bytes, and for each of them the next one is
looked up by halving, as they are in order. Bytes are read and text is cut only where this can be done, and the answer is
that of the scan.
-/

set_option autoImplicit false

namespace PatternKit.Backtracking

/-! What a marker is. -/

/-- Whether a text is a marker: a single `*` or `+`, or a stretch from an opening brace to the first closing one. -/
inductive IsMarker : Text → Prop
  | star : IsMarker ['*']
  | plus : IsMarker ['+']
  | braced {body : Text} (closedOnce : '}' ∉ body) : IsMarker ('{' :: body ++ ['}'])

variable {a s t rest marker : Text} {c : Char}

theorem IsMarker.eq_cons {marker : Text} (isMarker : IsMarker marker) : ∃ c rest, marker = c :: rest := by
  cases isMarker <;> exact ⟨_, _, rfl⟩

theorem afterBrace?_eq_some_iff : afterBrace? t = some rest ↔ ∃ body, t = body ++ '}' :: rest ∧ '}' ∉ body := by
  constructor
  · intro closes
    induction t with
    | nil => cases closes
    | cons c t ih =>
      rw [afterBrace?] at closes
      split at closes
      · rename_i close
        obtain rfl := Option.some.inj closes
        exact ⟨[], by rw [close]; rfl, List.not_mem_nil⟩
      · rename_i other
        obtain ⟨body, rfl, absent⟩ := ih closes
        refine ⟨c :: body, rfl, fun member => ?_⟩
        rcases List.mem_cons.mp member with same | later
        · exact other same.symm
        · exact absent later
  · rintro ⟨body, rfl, absent⟩
    exact afterBrace?_append (fun c member same => absent (same ▸ member)) rest

theorem afterBrace?_eq_none_iff : afterBrace? t = none ↔ '}' ∉ t := by
  rw [Option.eq_none_iff_forall_ne_some]
  constructor
  · intro never member
    obtain ⟨body, rest, rfl, absent⟩ := List.eq_append_cons_of_mem member
    exact never rest (afterBrace?_eq_some_iff.mpr ⟨body, rfl, absent⟩)
  · intro absent rest closes
    obtain ⟨body, rfl, -⟩ := afterBrace?_eq_some_iff.mp closes
    exact absent (List.mem_append_right _ List.mem_cons_self)

/-- What is left behind a marker is what stands behind it. -/
theorem afterMarker?_eq_some_iff : afterMarker? c t = some rest ↔ ∃ marker, IsMarker marker ∧ c :: t = marker ++ rest := by
  constructor
  · intro read
    unfold afterMarker? at read
    split at read
    · rename_i single
      obtain rfl := Option.some.inj read
      have kinds : c = '*' ∨ c = '+' := by simpa using single
      rcases kinds with rfl | rfl
      · exact ⟨['*'], .star, rfl⟩
      · exact ⟨['+'], .plus, rfl⟩
    · split at read
      · rename_i brace
        obtain ⟨body, rfl, closedOnce⟩ := afterBrace?_eq_some_iff.mp read
        exact ⟨'{' :: body ++ ['}'], .braced closedOnce, by rw [brace]; simp⟩
      · cases read
  · rintro ⟨_, ⟨⟩ | ⟨⟩ | ⟨closedOnce⟩, split⟩
    · obtain ⟨rfl, rfl⟩ := List.cons.inj split
      rfl
    · obtain ⟨rfl, rfl⟩ := List.cons.inj split
      rfl
    · rw [List.append_assoc] at split
      obtain ⟨rfl, rfl⟩ := List.cons.inj split
      exact afterBrace?_eq_some_iff.mpr ⟨_, rfl, closedOnce⟩

/-! Spans. -/

/-- The signs with which markers begin. -/
def signs : Text := ['*', '+', '{']

theorem signs_ascii : signs.IsAscii := by simp [Text.IsAscii, signs]

/-- The span of the marker that begins at an offset, if it ends. The outer answer is missing where bytes are read that do
not exist. -/
def spanAt? (bs : Bytes) (i : Nat) : Option (Option Span) := do
  let b ← bs[i]?
  if b ≠ '{'.toUInt8 then return some ⟨i, i + 1⟩
  let behind ← bs.slice? (i + 1) bs.length
  return (behind.idxOf? '}'.toUInt8).map fun close => ⟨i, i + close + 2⟩

/-- The spans of the markers that begin at some offsets. -/
def spansAt? (bs : Bytes) : List Nat → Option (List Span)
  | [] => some []
  | i :: more => do
    let span ← spanAt? bs i
    let spans ← spansAt? bs more
    return span.toList ++ spans

/-- The spans of all markers, in the order in which they begin. -/
def markerSpans? (bs : Bytes) : Option (List Span) := spansAt? bs (bs.findIdxs (Bytes.isOneOf signs))

/-- The number of elements before the first that fails a test, as it is found by halving. In a list where a later element
passes it again, what is found this way is not determined. -/
def partitionPoint? {α : Type} (test : α → Bool) (l : List α) : Option Nat :=
  if (l.dropWhile test).any test then none else some (l.takeWhile test).length

/-- Whether a marker is followed by another one, with no line break between them. -/
def followed? (t : Text) (spans : List Span) (first : Span) : Option Bool := do
  let next ← partitionPoint? (fun span => decide (span.start < first.stop)) spans
  match spans[next]? with
  | none => return false
  | some second => return !(← t.slice? first.stop second.start).any isLineBreak

/-- The search for two markers one after the other, by their spans. -/
def sequentialBySpans? (t : Text) : Option Bool := do
  let spans ← markerSpans? t.bytes
  spans.anyM (followed? t spans)

/-- The spans of the markers in a text that begins at an offset. -/
def spansFrom (n : Nat) : Text → List Span
  | [] => []
  | c :: t =>
    ((afterMarker? c t).map fun rest => ⟨n, n + (Text.byteSize (c :: t) - rest.byteSize)⟩).toList ++
      spansFrom (n + c.utf8Size) t

/-- The span of a marker, where it stands in a text. -/
theorem spanAt?_bytes (sign : c ∈ signs) (a t : Text) :
    spanAt? (a ++ c :: t).bytes a.byteSize =
      some ((afterMarker? c t).map fun rest => ⟨a.byteSize, a.byteSize + (Text.byteSize (c :: t) - rest.byteSize)⟩) := by
  have ascii : c.toNat < 128 := signs_ascii c sign
  have size : c.utf8Size = 1 := Text.utf8Size_of_ascii ascii
  have here : (a ++ c :: t).bytes[a.byteSize]? = some c.toUInt8 := by
    rw [Text.getElem?_bytes, (Text.head?_bytes_cons ascii).mpr rfl]
  have behind := Text.slice?_bytes_behind ascii a t
  rw [spanAt?, here, Option.bind_eq_bind, Option.bind_some]
  by_cases brace : c = '{'
  · subst brace
    rw [if_neg (by decide), behind, Option.bind_eq_bind, Option.bind_some]
    refine congrArg some ?_
    show _ = (afterBrace? t).map _
    cases closes : afterBrace? t with
    | none =>
      rw [Text.idxOf?_bytes_of_notMem (by decide) (afterBrace?_eq_none_iff.mp closes)]
      rfl
    | some rest =>
      obtain ⟨body, rfl, closedOnce⟩ := afterBrace?_eq_some_iff.mp closes
      rw [Text.idxOf?_bytes_append (by decide) closedOnce, Option.map_some, Option.map_some]
      congr 2
      simp only [Text.byteSize_cons, Text.byteSize_append, Text.utf8Size_of_ascii (c := '{') (by decide),
        Text.utf8Size_of_ascii (c := '}') (by decide)]
      omega
  · have other : c.toUInt8 ≠ '{'.toUInt8 := fun same => brace (Text.toUInt8_inj ascii (by decide) same)
    have single : c = '*' ∨ c = '+' := by simpa [signs, brace] using sign
    have whole : afterMarker? c t = some t := by rcases single with rfl | rfl <;> rfl
    rw [if_pos other, whole, Option.map_some, Text.byteSize_cons, size, Nat.add_sub_cancel]
    rfl

/-- Characters that are no signs begin no marker. -/
theorem afterMarker?_of_notMem (plain : c ∉ signs) (t : Text) : afterMarker? c t = none := by
  simp only [signs, List.mem_cons, List.not_mem_nil, or_false, not_or] at plain
  exact afterMarker?_plain plain.1 plain.2.1 plain.2.2 t

/-- The markers that are found among the bytes are those of the text. By induction on the text behind the place where the
search stands. -/
theorem spansAt?_bytes (a t : Text) :
    spansAt? (a ++ t).bytes (t.bytes.findIdxs (Bytes.isOneOf signs) a.byteSize) = some (spansFrom a.byteSize t) := by
  induction t generalizing a with
  | nil => rfl
  | cons c t ih =>
    have later := ih (a ++ [c])
    rw [List.append_assoc, List.singleton_append, Text.byteSize_append, Text.byteSize_cons, Text.byteSize_nil,
      Nat.add_zero] at later
    rw [Text.findIdxs_bytes_cons signs_ascii, spansFrom]
    by_cases sign : c ∈ signs
    · rw [if_pos sign, List.singleton_append, spansAt?, spanAt?_bytes sign, later]
      rfl
    · rw [if_neg sign, List.nil_append, later, afterMarker?_of_notMem sign]
      rfl

theorem markerSpans?_bytes (t : Text) : markerSpans? t.bytes = some (spansFrom 0 t) := spansAt?_bytes [] t

theorem le_start_of_mem_spansFrom {n : Nat} {span : Span} (member : span ∈ spansFrom n t) : n ≤ span.start := by
  induction t generalizing n with
  | nil => cases member
  | cons c t ih =>
    rcases List.mem_append.mp member with here | later
    · obtain ⟨rest, -, rfl⟩ := Option.map_eq_some_iff.mp (Option.mem_toList.mp here)
      exact Nat.le_refl n
    · exact Nat.le_trans (Nat.le_add_right n _) (ih later)

/-- The markers that begin in the first part of a text come first. -/
theorem spansFrom_append (n : Nat) (s t : Text) :
    ∃ early, spansFrom n (s ++ t) = early ++ spansFrom (n + s.byteSize) t ∧
      ∀ span ∈ early, span.start < n + s.byteSize := by
  induction s generalizing n with
  | nil => exact ⟨[], rfl, fun _ member => by cases member⟩
  | cons c s ih =>
    obtain ⟨early, split, before⟩ := ih (n + c.utf8Size)
    have positive := c.utf8Size_pos
    rw [Nat.add_assoc, ← Text.byteSize_cons] at split before
    rw [List.cons_append, spansFrom, split, ← List.append_assoc]
    refine ⟨_, rfl, fun span member => ?_⟩
    rcases List.mem_append.mp member with here | later
    · obtain ⟨rest, -, rfl⟩ := Option.map_eq_some_iff.mp (Option.mem_toList.mp here)
      show n < n + (c.utf8Size + Text.byteSize s)
      omega
    · exact before span later

/-- Where all that pass a test come first, the number of these is found. -/
theorem partitionPoint?_append {α : Type} {test : α → Bool} {l k : List α} (passes : ∀ x ∈ l, test x = true)
    (fails : ∀ x ∈ k, test x = false) : partitionPoint? test (l ++ k) = some l.length := by
  have taken : k.takeWhile test = [] := by
    cases k with
    | nil => rfl
    | cons x k => rw [List.takeWhile_cons, if_neg (by rw [fails x List.mem_cons_self]; decide)]
  have dropped : k.dropWhile test = k := by
    cases k with
    | nil => rfl
    | cons x k => rw [List.dropWhile_cons, if_neg (by rw [fails x List.mem_cons_self]; decide)]
  have none_ : k.any test = false := List.any_eq_false.mpr fun x member => by rw [fails x member]; decide
  rw [partitionPoint?, List.dropWhile_append_of_pos passes, List.takeWhile_append_of_pos passes, dropped, taken, none_,
    List.append_nil]
  rfl

/-- The first marker behind a place is on the line of that place just if a marker is. By induction on the text behind the
part that has been passed over. -/
theorem first_span_onLine (a s t : Text) :
    (match (spansFrom (a ++ s).byteSize t).head? with
      | none => some false
      | some second => ((a ++ (s ++ t)).slice? a.byteSize second.start).map fun between => !between.any isLineBreak) =
      some (!s.any isLineBreak && markerOnLine t) := by
  induction t generalizing s with
  | nil => rw [markerOnLine, Bool.and_false]; rfl
  | cons c t ih =>
    rw [spansFrom, markerOnLine]
    cases read : afterMarker? c t with
    | some rest =>
      rw [Text.byteSize_append]
      show Option.map _ (Text.slice? (a ++ (s ++ c :: t)) (Text.byteSize a) (Text.byteSize a + Text.byteSize s)) = _
      rw [Text.slice?_append, Option.map_some, Option.isSome_some, Bool.true_or, Bool.and_true]
    | none =>
      have later := ih (s ++ [c])
      have size : (a ++ (s ++ [c])).byteSize = (a ++ s).byteSize + c.utf8Size := by
        rw [← List.append_assoc, Text.byteSize_append (a ++ s), Text.byteSize_cons, Text.byteSize_nil, Nat.add_zero]
      rw [size, List.append_assoc, List.singleton_append, List.any_append, List.any_cons, List.any_nil, Bool.or_false,
        Bool.not_or, Bool.and_assoc] at later
      exact later

/-- For each marker the next one decides: one further on has the same line breaks before it, and perhaps more. -/
theorem followed?_bytes (a marker rest : Text) :
    followed? (a ++ (marker ++ rest)) (spansFrom 0 (a ++ (marker ++ rest))) ⟨a.byteSize, a.byteSize + marker.byteSize⟩ =
      some (markerOnLine rest) := by
  obtain ⟨early, split, before⟩ := spansFrom_append 0 (a ++ marker) rest
  rw [Nat.zero_add, List.append_assoc, Text.byteSize_append] at split
  rw [Nat.zero_add, Text.byteSize_append] at before
  have next : _ = some (markerOnLine rest) := first_span_onLine (a ++ marker) [] rest
  have point : partitionPoint? (fun span => decide (span.start < a.byteSize + marker.byteSize))
      (spansFrom 0 (a ++ (marker ++ rest))) = some early.length := by
    rw [split]
    refine partitionPoint?_append (fun span member => decide_eq_true (before span member)) fun span member => ?_
    exact decide_eq_false (Nat.not_lt.mpr (le_start_of_mem_spansFrom member))
  rw [followed?, point, Option.bind_eq_bind, Option.bind_some, split, List.getElem?_append_right (Nat.le_refl _),
    Nat.sub_self, ← List.head?_eq_getElem?]
  rw [List.append_nil, List.nil_append, List.append_assoc, Text.byteSize_append] at next
  refine Eq.trans ?_ next
  cases (spansFrom (a.byteSize + marker.byteSize) rest).head? with
  | none => rfl
  | some second => exact Option.map_eq_bind.symm

/-- The search by spans stays in range, and agrees with the scan. By induction on the text behind the place of the next
marker; each marker is tested against all spans. -/
theorem sequentialBySpans?_eq (t : Text) : sequentialBySpans? t = some (hasSequentialRepetition t) := by
  have each (a t : Text) :
      (spansFrom a.byteSize t).anyM (followed? (a ++ t) (spansFrom 0 (a ++ t))) = some (hasSequentialRepetition t) := by
    induction t generalizing a with
    | nil => rfl
    | cons c t ih =>
      have later := ih (a ++ [c])
      rw [List.append_assoc, List.singleton_append, Text.byteSize_append, Text.byteSize_cons, Text.byteSize_nil,
        Nat.add_zero] at later
      rw [spansFrom, hasSequentialRepetition]
      cases read : afterMarker? c t with
      | none => exact later
      | some rest =>
        obtain ⟨marker, -, split⟩ := afterMarker?_eq_some_iff.mp read
        have stop : a.byteSize + (Text.byteSize (c :: t) - rest.byteSize) = a.byteSize + marker.byteSize := by
          rw [split, Text.byteSize_append, Nat.add_sub_cancel]
        have first := followed?_bytes a marker rest
        rw [← split] at first
        rw [Option.map_some, stop, Option.toList_some, List.singleton_append, List.anyM_cons, first, later]
        cases onLine : markerOnLine rest with
        | true => simp [onLine]
        | false => simp [onLine]
  rw [sequentialBySpans?, markerSpans?_bytes]
  exact each [] t

end PatternKit.Backtracking
