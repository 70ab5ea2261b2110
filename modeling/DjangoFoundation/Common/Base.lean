/-
Instants, durations and identifiers, as the whole code base uses them.

Instants and durations are both integers: microseconds, the resolution of `datetime`.
-/
import Mathlib.Algebra.Group.Int.Defs
import Mathlib.Algebra.Group.Nat.Defs

namespace DjangoFoundation

/-- `timedelta(seconds=n)`. -/
def seconds (n : Int) : Int := n * 1000000

/-- `timedelta(minutes=n)`. -/
def minutes (n : Int) : Int := seconds (60 * n)

/-- A `UUIDField` value: 128 bits, drawn by `uuid.uuid4`. -/
abbrev UUID := Nat

end DjangoFoundation
