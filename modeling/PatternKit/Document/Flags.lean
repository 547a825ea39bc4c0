import PatternKit.CharSet
import PatternKit.Flags
import PatternKit.Unicode.Blank

/-!
Sets of options as texts: names with ` | ` between them, and the bits without a name as a hexadecimal
number at the end. In a text that is read, numbers may stand anywhere.
-/

set_option autoImplicit false

namespace PatternKit.Flags

/-- A text without the blanks at its ends. -/
def trim (t : Text) : Text :=
  let front := t.dropWhile Unicode.isBlank
  (front.reverse.dropWhile Unicode.isBlank).reverse

/-- The value of hexadecimal digits. -/
def hexValue? (digits : Text) : Option Nat :=
  digits.foldlM (fun n d => (CharSet.hexValue? d).map (n * 16 + ·)) 0

/-- Reads hexadecimal digits, perhaps after a `+`, as a byte. -/
def hexByte? (t : Text) : Option UInt8 :=
  let digits :=
    match t with
    | '+' :: ds => ds
    | ds => ds
  if digits.isEmpty then none
  else (hexValue? digits).bind fun n => if n < 256 then some (UInt8.ofNat n) else none

/-- The option with a name. -/
def flag? (name : Text) : Option Flag := Flag.all.find? (·.name.toList == name)

/-- Reads a name or a number. -/
def part? (t : Text) : Option Flags :=
  match t with
  | '0' :: 'x' :: digits => (hexByte? digits).map (⟨·⟩)
  | name => (flag? name).map .of

/-- Reads a set of options. -/
def ofText? (t : Text) : Option Flags :=
  if (trim t).isEmpty then some .empty
  else
    (Text.splitAt '|' t).foldlM (fun flags part => (part? (trim part)).map flags.union) .empty

/-- The hexadecimal digits of a number. -/
def hexDigits (n : Nat) : Text := Nat.toDigits 16 n

/-- Writes a set of options. -/
def toText (flags : Flags) : Text :=
  let rest := if flags.unnamed = 0 then [] else [['0', 'x'] ++ hexDigits flags.unnamed.toNat]
  Text.join [' ', '|', ' '] (flags.named.map (·.name.toList) ++ rest)

end PatternKit.Flags
