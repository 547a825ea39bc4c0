import PatternKit.CharSet

/-!
Blank characters: the members of the Unicode property White_Space.
-/

set_option autoImplicit false

namespace PatternKit.Unicode

/-- Characters with the property White_Space. -/
def blankSet : CharSet := ⟨[
  ⟨0x9, 0xd⟩, ⟨0x20, 0x20⟩, ⟨0x85, 0x85⟩, ⟨0xa0, 0xa0⟩, ⟨0x1680, 0x1680⟩, ⟨0x2000, 0x200a⟩,
  ⟨0x2028, 0x2029⟩, ⟨0x202f, 0x202f⟩, ⟨0x205f, 0x205f⟩, ⟨0x3000, 0x3000⟩]⟩

/-- Whether a character is blank. -/
def isBlank (c : Char) : Bool := blankSet.contains c

end PatternKit.Unicode
