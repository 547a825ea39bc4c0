/-!
Texts as lists of characters, with offsets counted in bytes of UTF-8. `slice` cuts a text between two
such offsets.
-/

set_option autoImplicit false

namespace PatternKit

/-- A text, character by character. -/
abbrev Text := List Char

namespace Text

/-- The number of bytes of a text in UTF-8. -/
def byteSize : Text → Nat
  | [] => 0
  | c :: cs => c.utf8Size + byteSize cs

@[simp] theorem byteSize_nil : byteSize [] = 0 := rfl

@[simp] theorem byteSize_cons (c : Char) (cs : Text) :
    byteSize (c :: cs) = c.utf8Size + byteSize cs := rfl

@[simp] theorem byteSize_append (s t : Text) : byteSize (s ++ t) = byteSize s + byteSize t := by
  induction s with
  | nil => simp
  | cons c cs ih => simp [ih, Nat.add_assoc]

/-- What is left of a text after its first `n` bytes; a character that is cut goes entirely. -/
def dropBytes : Nat → Text → Text
  | 0, t => t
  | _ + 1, [] => []
  | n + 1, c :: cs => dropBytes (n + 1 - c.utf8Size) cs

/-- The first `n` bytes of a text; a character that is cut stays entirely. -/
def takeBytes : Nat → Text → Text
  | 0, _ => []
  | _ + 1, [] => []
  | n + 1, c :: cs => c :: takeBytes (n + 1 - c.utf8Size) cs

/-- The part of a text between two byte offsets. -/
def slice (t : Text) (start stop : Nat) : Text := takeBytes (stop - start) (dropBytes start t)

@[simp] theorem dropBytes_zero (t : Text) : dropBytes 0 t = t := by cases t <;> rfl

@[simp] theorem takeBytes_zero (t : Text) : takeBytes 0 t = [] := by cases t <;> rfl

/-- A cut loses nothing. -/
theorem takeBytes_append_dropBytes (n : Nat) (t : Text) : takeBytes n t ++ dropBytes n t = t := by
  induction t generalizing n with
  | nil => cases n <;> rfl
  | cons c cs ih =>
    cases n with
    | zero => rfl
    | succ n => simp [takeBytes, dropBytes, ih]

/-- A cut behind `s` drops `s`. -/
@[simp] theorem dropBytes_byteSize_append (s t : Text) : dropBytes s.byteSize (s ++ t) = t := by
  induction s with
  | nil => simp
  | cons c cs ih =>
    obtain ⟨n, hn⟩ := Nat.exists_eq_succ_of_ne_zero (Nat.ne_of_gt c.utf8Size_pos)
    have size : byteSize (c :: cs) = (n + byteSize cs) + 1 := by rw [byteSize_cons, hn]; omega
    rw [size, List.cons_append, dropBytes, hn]
    simpa [Nat.add_sub_add_right] using ih

/-- A cut behind `s` keeps `s`. -/
@[simp] theorem takeBytes_byteSize_append (s t : Text) : takeBytes s.byteSize (s ++ t) = s :=
  List.append_cancel_right <|
    (takeBytes_append_dropBytes s.byteSize (s ++ t)).trans <| by rw [dropBytes_byteSize_append]

/-- The part between two cuts behind `s` and behind `s ++ t` is `t`. -/
theorem slice_append (s t u : Text) :
    slice (s ++ (t ++ u)) s.byteSize (s.byteSize + t.byteSize) = t := by
  simp [slice]

/-- The decimal digits of a number. -/
def ofNat (n : Nat) : Text := Nat.toDigits 10 n

theorem isDigit_of_mem_ofNat {n : Nat} {c : Char} (h : c ∈ ofNat n) : c.isDigit = true :=
  Nat.isDigit_of_mem_toDigits (by decide) (by decide) h

/-- Texts one after the other, with a separator between neighbours. -/
def join (separator : Text) : List Text → Text
  | [] => []
  | [t] => t
  | t :: u :: ts => t ++ separator ++ join separator (u :: ts)

/-- The parts of a text between the places where `c` stands. -/
def splitAt (c : Char) : Text → List Text
  | [] => [[]]
  | d :: ds =>
    if d = c then [] :: splitAt c ds
    else
      match splitAt c ds with
      | [] => [[d]]
      | part :: parts => (d :: part) :: parts

theorem splitAt_of_notMem {c : Char} {s : Text} (absent : c ∉ s) : splitAt c s = [s] := by
  induction s with
  | nil => rfl
  | cons d s ih =>
    have differs : d ≠ c := fun same => absent (same ▸ List.mem_cons_self)
    rw [splitAt, if_neg differs, ih fun member => absent (List.mem_cons_of_mem d member)]

/-- What stands before the first separator is the first part. -/
theorem splitAt_append_cons {c : Char} {s : Text} (absent : c ∉ s) (t : Text) :
    splitAt c (s ++ c :: t) = s :: splitAt c t := by
  induction s with
  | nil => rw [List.nil_append, splitAt, if_pos rfl]
  | cons d s ih =>
    have differs : d ≠ c := fun same => absent (same ▸ List.mem_cons_self)
    rw [List.cons_append, splitAt, if_neg differs, ih fun member => absent (List.mem_cons_of_mem d member)]

end Text

end PatternKit
