import PatternKit.Text

/-!
Matching options as a set of flags in one byte. Bits without a name are kept, and take no part in
the tokens or the description of a set.
-/

set_option autoImplicit false

namespace PatternKit

/-- A set of matching options. -/
structure Flags where
  bits : UInt8
deriving DecidableEq, Repr

/-- A named matching option. -/
inductive Flag where
  | global
  | ignoreCase
  | multiline
  | dotAll
  | unicode
  | sticky
deriving DecidableEq, Repr

namespace Flag

/-- The named options in the order of their bits. -/
def all : List Flag := [.global, .ignoreCase, .multiline, .dotAll, .unicode, .sticky]

/-- The bit of an option. -/
def bit : Flag → UInt8
  | .global => 1
  | .ignoreCase => 2
  | .multiline => 4
  | .dotAll => 8
  | .unicode => 16
  | .sticky => 32

/-- The letter of an option. -/
def letter : Flag → Char
  | .global => 'g'
  | .ignoreCase => 'i'
  | .multiline => 'm'
  | .dotAll => 's'
  | .unicode => 'u'
  | .sticky => 'y'

/-- The name of an option. -/
def name : Flag → String
  | .global => "GLOBAL"
  | .ignoreCase => "IGNORE_CASE"
  | .multiline => "MULTILINE"
  | .dotAll => "DOT_ALL"
  | .unicode => "UNICODE"
  | .sticky => "STICKY"

end Flag

namespace Flags

/-- No option. -/
def empty : Flags := ⟨0⟩

/-- The set of one named option. -/
def of (f : Flag) : Flags := ⟨f.bit⟩

/-- The options of either set. -/
def union (a b : Flags) : Flags := ⟨a.bits ||| b.bits⟩

/-- Membership of a named option. -/
def has (a : Flags) (f : Flag) : Bool := a.bits &&& f.bit != 0

/-- A named option is in a union if it is in one of the parts. -/
theorem has_union (a b : Flags) (f : Flag) : (a.union b).has f = (a.has f || b.has f) := by
  have split : (a.bits ||| b.bits) &&& f.bit = a.bits &&& f.bit ||| b.bits &&& f.bit :=
    UInt8.toBitVec_inj.1 <| by simp [BitVec.and_or_distrib_right]
  rw [Bool.eq_iff_iff]
  simp only [has, union, split, bne_iff_ne, ne_eq, UInt8.or_eq_zero_iff, Bool.or_eq_true]
  exact Decidable.not_and_iff_not_or_not

/-- The named options of a set, in the order of their bits. -/
def named (a : Flags) : List Flag := Flag.all.filter a.has

/-- The letters of the named options. -/
def tokens (a : Flags) : Text := a.named.map Flag.letter

/-- The names of the named options. -/
def describe (a : Flags) : String :=
  match a.named with
  | [] => "(none)"
  | fs => String.intercalate " | " (fs.map Flag.name)

/-- The bits without a name. -/
def unnamed (a : Flags) : UInt8 := a.bits &&& 0xc0

end Flags

end PatternKit
