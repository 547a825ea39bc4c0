import Mathlib.Data.List.Basic
import PatternKit.Proofs.LeftmostSearch

/-!
Texts byte by byte. A character of ASCII is one byte, and this byte stands for nothing else: all bytes of other characters
are larger. Bytes and texts are cut with a check that the ends are in order and in range, and for texts that they do not
lie within a character.
-/

set_option autoImplicit false

namespace PatternKit

/-- Bytes one after the other. -/
abbrev Bytes := List UInt8

namespace Bytes

/-- The bytes between two offsets, which must be in order and in range. -/
def slice? (bs : Bytes) (start stop : Nat) : Option Bytes :=
  if start ≤ stop ∧ stop ≤ bs.length then some ((bs.take stop).drop start) else none

theorem slice?_append (as bs cs : Bytes) : slice? (as ++ (bs ++ cs)) as.length (as.length + bs.length) = some bs := by
  have inRange : as.length ≤ as.length + bs.length ∧ as.length + bs.length ≤ (as ++ (bs ++ cs)).length := by
    simp only [List.length_append]
    omega
  rw [slice?, if_pos inRange, List.take_length_add_append, List.take_left, List.drop_left]

/-- What stands behind a byte. -/
theorem slice?_behind (as : Bytes) (b : UInt8) (bs : Bytes) :
    (as ++ b :: bs).slice? (as.length + 1) (as ++ b :: bs).length = some bs := by
  have cut := slice?_append (as ++ [b]) bs []
  have whole : (as ++ b :: bs).length = as.length + 1 + bs.length := by
    rw [List.length_append, List.length_cons]
    omega
  rwa [List.length_append, List.length_singleton, List.append_nil, ← List.append_cons, ← whole] at cut

theorem idxOf?_append_cons {as : Bytes} {b : UInt8} (absent : b ∉ as) (bs : Bytes) :
    (as ++ b :: bs).idxOf? b = some as.length := by
  induction as with
  | nil => rw [List.nil_append, List.idxOf?_cons, if_pos (beq_self_eq_true b), List.length_nil]
  | cons a as ih =>
    have differs : ¬ (a == b) = true := fun same => absent (beq_iff_eq.mp same ▸ List.mem_cons_self)
    have later : b ∉ as := fun member => absent (List.mem_cons_of_mem a member)
    rw [List.cons_append, List.idxOf?_cons, if_neg differs, ih later, Option.map_some, List.length_cons]

/-- Whether a byte is one of some characters. -/
def isOneOf (signs : Text) (b : UInt8) : Bool := signs.any fun c => c.toUInt8 == b

end Bytes

namespace Text

/-- The bytes of a text in UTF-8. -/
def bytes (t : Text) : Bytes := t.flatMap String.utf8EncodeChar

/-- Whether all characters of a text are ASCII. -/
def IsAscii (t : Text) : Prop := ∀ c ∈ t, c.toNat < 128

theorem isBoundary_iff {t : Text} {n : Nat} : (takeBytes n t).byteSize = n ↔ t.IsBoundary n := by
  constructor
  · intro whole
    exact ⟨takeBytes n t, dropBytes n t, (takeBytes_append_dropBytes n t).symm, whole.symm⟩
  · rintro ⟨s, u, rfl, rfl⟩
    rw [takeBytes_byteSize_append]

instance (t : Text) (n : Nat) : Decidable (t.IsBoundary n) := decidable_of_iff _ isBoundary_iff

/-- The text between two offsets, which must be in order, and at which the text can be cut. -/
def slice? (t : Text) (start stop : Nat) : Option Text :=
  if start ≤ stop ∧ t.IsBoundary start ∧ t.IsBoundary stop then some (t.slice start stop) else none

variable {c d : Char} {s t u signs : Text} {b : UInt8}

theorem bytes_cons (c : Char) (t : Text) : bytes (c :: t) = String.utf8EncodeChar c ++ t.bytes := List.flatMap_cons

theorem bytes_append (s t : Text) : (s ++ t).bytes = s.bytes ++ t.bytes := List.flatMap_append

theorem length_bytes (t : Text) : t.bytes.length = t.byteSize := by
  induction t with
  | nil => rfl
  | cons c t ih => rw [bytes_cons, List.length_append, String.length_utf8EncodeChar, ih, byteSize_cons]

/-! Characters of ASCII. -/

theorem utf8Size_of_ascii (ascii : c.toNat < 128) : c.utf8Size = 1 := by
  rw [Char.utf8Size_eq_one_iff, UInt32.le_iff_toNat_le]
  exact Nat.le_of_lt_succ ascii

theorem toNat_toUInt8 (ascii : c.toNat < 128) : c.toUInt8.toNat = c.toNat :=
  Nat.mod_eq_of_lt (Nat.lt_trans ascii (by decide))

theorem bytes_cons_ascii (ascii : c.toNat < 128) (t : Text) : bytes (c :: t) = c.toUInt8 :: t.bytes := by
  rw [bytes_cons, String.utf8EncodeChar_eq_singleton (utf8Size_of_ascii ascii)]
  rfl

/-- Different characters of ASCII are different bytes. -/
theorem toUInt8_inj (first : c.toNat < 128) (second : d.toNat < 128) (same : c.toUInt8 = d.toUInt8) : c = d := by
  have numbers : c.toNat = d.toNat := by rw [← toNat_toUInt8 first, ← toNat_toUInt8 second, same]
  exact Char.toNat_inj.mp numbers

/-- The bytes of a character that is not ASCII are not ASCII either. -/
theorem le_of_mem_utf8EncodeChar (large : 128 ≤ c.toNat) (member : b ∈ String.utf8EncodeChar c) : 128 ≤ b.toNat := by
  have several : ¬ c.val.toNat ≤ 127 := Nat.not_le.mpr large
  have bound := c.val.toNat_lt
  rw [String.utf8EncodeChar] at member
  simp only [several, if_false] at member
  split at member
  · simp only [List.mem_cons, List.not_mem_nil, or_false] at member
    rcases member with rfl | rfl <;> simp only [UInt8.toNat_ofNat'] <;> omega
  · split at member
    · simp only [List.mem_cons, List.not_mem_nil, or_false] at member
      rcases member with rfl | rfl | rfl <;> simp only [UInt8.toNat_ofNat'] <;> omega
    · simp only [List.mem_cons, List.not_mem_nil, or_false] at member
      rcases member with rfl | rfl | rfl | rfl <;> simp only [UInt8.toNat_ofNat'] <;> omega

theorem isOneOf_of_le (ascii : signs.IsAscii) (large : 128 ≤ b.toNat) : Bytes.isOneOf signs b = false := by
  refine List.any_eq_false.mpr fun c member same => ?_
  rw [← beq_iff_eq.mp same, toNat_toUInt8 (ascii c member)] at large
  exact absurd (ascii c member) (Nat.not_lt.mpr large)

theorem isOneOf_toUInt8 (ascii : signs.IsAscii) (small : c.toNat < 128) :
    Bytes.isOneOf signs c.toUInt8 = true ↔ c ∈ signs := by
  refine List.any_eq_true.trans ⟨?_, fun member => ⟨c, member, beq_self_eq_true _⟩⟩
  rintro ⟨d, member, same⟩
  rwa [← toUInt8_inj (ascii d member) small (beq_iff_eq.mp same)]

/-! Searching for characters of ASCII. -/

/-- The first byte of a text says whether it begins with a character of ASCII. -/
theorem head?_bytes_cons (ascii : d.toNat < 128) : (bytes (c :: t)).head? = some d.toUInt8 ↔ c = d := by
  by_cases small : c.toNat < 128
  · rw [bytes_cons_ascii small, List.head?_cons, Option.some_inj]
    exact ⟨toUInt8_inj small ascii, congrArg _⟩
  · refine iff_of_false (fun first => ?_) (fun same => small (same ▸ ascii))
    rw [bytes_cons, List.head?_append_of_ne_nil _ String.utf8EncodeChar_ne_nil] at first
    have large := le_of_mem_utf8EncodeChar (Nat.not_lt.mp small) (List.mem_of_mem_head? first)
    rw [toNat_toUInt8 ascii] at large
    exact absurd ascii (Nat.not_lt.mpr large)

theorem getElem?_bytes (a t : Text) : (a ++ t).bytes[a.byteSize]? = t.bytes.head? := by
  rw [bytes_append, ← length_bytes, List.getElem?_append_right (Nat.le_refl _), Nat.sub_self, ← List.head?_eq_getElem?]

/-- The places of some characters in a text, as they are found among its bytes. -/
theorem findIdxs_bytes_cons (ascii : signs.IsAscii) (c : Char) (t : Text) (n : Nat) :
    (bytes (c :: t)).findIdxs (Bytes.isOneOf signs) n =
      (if c ∈ signs then [n] else []) ++ t.bytes.findIdxs (Bytes.isOneOf signs) (n + c.utf8Size) := by
  rw [bytes_cons, List.findIdxs_append, String.length_utf8EncodeChar]
  congr 1
  by_cases small : c.toNat < 128
  · rw [String.utf8EncodeChar_eq_singleton (utf8Size_of_ascii small), List.findIdxs_singleton]
    exact if_congr (isOneOf_toUInt8 ascii small) rfl rfl
  · have large : 128 ≤ c.toNat := Nat.not_lt.mp small
    rw [if_neg fun member => small (ascii c member)]
    exact List.findIdxs_eq_nil_iff.mpr fun b member => isOneOf_of_le ascii (le_of_mem_utf8EncodeChar large member)

theorem toUInt8_notMem_bytes (ascii : c.toNat < 128) (absent : c ∉ t) : c.toUInt8 ∉ t.bytes := by
  intro member
  obtain ⟨d, inText, inChar⟩ := List.mem_flatMap.mp member
  by_cases small : d.toNat < 128
  · rw [String.utf8EncodeChar_eq_singleton (utf8Size_of_ascii small), List.mem_singleton] at inChar
    exact absent (toUInt8_inj ascii small inChar ▸ inText)
  · have large := le_of_mem_utf8EncodeChar (Nat.not_lt.mp small) inChar
    rw [toNat_toUInt8 ascii] at large
    exact absurd ascii (Nat.not_lt.mpr large)

theorem idxOf?_bytes_of_notMem (ascii : c.toNat < 128) (absent : c ∉ t) : t.bytes.idxOf? c.toUInt8 = none :=
  List.idxOf?_eq_none_iff.mpr (toUInt8_notMem_bytes ascii absent)

theorem idxOf?_bytes_append (ascii : c.toNat < 128) (absent : c ∉ s) (t : Text) :
    (s ++ c :: t).bytes.idxOf? c.toUInt8 = some s.byteSize := by
  rw [bytes_append, bytes_cons_ascii ascii, ← length_bytes]
  exact Bytes.idxOf?_append_cons (toUInt8_notMem_bytes ascii absent) t.bytes

/-! Cutting texts. -/

theorem slice?_bytes_append (s t u : Text) :
    (s ++ (t ++ u)).bytes.slice? s.byteSize (s.byteSize + t.byteSize) = some t.bytes := by
  rw [bytes_append, bytes_append, ← length_bytes, ← length_bytes]
  exact Bytes.slice?_append s.bytes t.bytes u.bytes

/-- What stands behind a character of ASCII. -/
theorem slice?_bytes_behind (ascii : c.toNat < 128) (s t : Text) :
    (s ++ c :: t).bytes.slice? (s.byteSize + 1) (s ++ c :: t).bytes.length = some t.bytes := by
  rw [bytes_append, bytes_cons_ascii ascii, ← length_bytes]
  exact Bytes.slice?_behind s.bytes c.toUInt8 t.bytes

theorem slice?_append (s t u : Text) : (s ++ (t ++ u)).slice? s.byteSize (s.byteSize + t.byteSize) = some t := by
  have first : (s ++ (t ++ u)).IsBoundary s.byteSize := ⟨s, t ++ u, rfl, rfl⟩
  have second : (s ++ (t ++ u)).IsBoundary (s.byteSize + t.byteSize) :=
    ⟨s ++ t, u, (List.append_assoc s t u).symm, (byteSize_append s t).symm⟩
  rw [slice?, if_pos ⟨Nat.le_add_right _ _, first, second⟩, slice_append]

end Text

end PatternKit
