import PatternKit.CharSet

/-!
Tables of character sets with names, and the loose comparison of names: case, blanks, `_`, `-` and a
leading `is` do not count.
-/

set_option autoImplicit false

namespace PatternKit.Unicode

/-- A set of characters with the names it goes by, in the form `normalizeName` gives. -/
structure NamedSet where
  names : List String
  table : String

namespace NamedSet

/-- The characters of the set. -/
def set (n : NamedSet) : CharSet := CharSet.ofTable n.table

/-- The entry of a table that goes by `name`. -/
def find? (entries : List NamedSet) (name : String) : Option NamedSet :=
  entries.find? (·.names.contains name)

end NamedSet

/-- Lower case of an ASCII letter; every other character is kept. -/
def lowerAscii (c : Char) : Char :=
  if 'A' ≤ c && c ≤ 'Z' then Char.ofNat (c.toNat + 32) else c

/-- The form in which names of properties are compared. The name `isc` keeps its first letters, as what
is left of it would be the name of another set. -/
def normalizeName (name : List Char) : String :=
  let squeeze (cs : List Char) : List Char :=
    (cs.filter fun c => c.toNat < 0x80 && c != ' ' && c != '_' && c != '-').map lowerAscii
  match name with
  | i :: s :: rest =>
    if lowerAscii i = 'i' && lowerAscii s = 's' then
      match squeeze rest with
      | ['c'] => "isc"
      | cs => String.ofList cs
    else String.ofList (squeeze name)
  | _ => String.ofList (squeeze name)

end PatternKit.Unicode
