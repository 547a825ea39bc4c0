/-!
Half-open intervals of offsets.
-/

set_option autoImplicit false

namespace PatternKit

/-- The offsets from `start` up to, but without, `stop`. -/
structure Span where
  start : Nat
  stop : Nat
deriving DecidableEq, Repr

namespace Span

/-- The empty interval at an offset. -/
def at_ (n : Nat) : Span := ⟨n, n⟩

/-- `true` when no offset lies inside. -/
def isEmpty (s : Span) : Bool := s.stop ≤ s.start

end Span

end PatternKit
