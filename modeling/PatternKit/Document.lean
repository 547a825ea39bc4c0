/-!
Structured documents, as they are stored and exchanged. Numbers are whole numbers; a number with a
fraction is only known to be one.
-/

set_option autoImplicit false

namespace PatternKit

/-- A document. -/
inductive Document where
  | null
  | bool (value : Bool)
  | integer (value : Int)
  | fraction
  | text (value : String)
  | list (items : List Document)
  | object (fields : List (String × Document))

instance : Inhabited Document := ⟨.null⟩

namespace Document

/-- The value of a field of an object. -/
def field? (name : String) : List (String × Document) → Option Document
  | [] => none
  | (n, d) :: more => if n = name then some d else field? name more

/-- A whole number from zero up to, but without, `bound`. -/
def natBelow? (bound : Nat) : Document → Option Nat
  | .integer value => if 0 ≤ value && value < bound then some value.toNat else none
  | _ => none

/-- The name of a case without content: the name alone, or an object with the name as its only field and
no value. -/
def caseName? : Document → Option String
  | .text name => some name
  | .object [(name, .null)] => some name
  | _ => none

end Document

end PatternKit
