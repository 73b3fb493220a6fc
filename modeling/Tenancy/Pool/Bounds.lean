import Tenancy.Failure
import Tenancy.Text.Inspect

namespace Tenancy

/-- Why no pool can have the bounds asked for. -/
inductive BoundsFault where
  | negativeMin (min : Int)
  | negativeMax (max : Int)
  | inverted (min max : Int)
  deriving DecidableEq, Repr

def BoundsFault.message : BoundsFault → String
  | negativeMin min => s!"min_size must not be negative (got {min})"
  | negativeMax max => s!"max_size must not be negative (got {max})"
  | inverted min max => s!"min_size {min} exceeds max_size {max}"

inductive PoolError where
  | badBounds (fault : BoundsFault)
  | drained (pool : String)
  | atCapacity (pool : String) (maxSize : Nat)
  | unavailable (pool : String)
  deriving DecidableEq, Repr

namespace PoolError

def kind : PoolError → FailureKind
  | badBounds _ => .specification
  | drained _ => .drained
  | atCapacity _ _ => .atCapacity
  | unavailable _ => .unavailable

def message : PoolError → String
  | badBounds fault => s!"Invalid pool bounds: {fault.message}"
  | drained pool => s!"Pool '{pool}' has been drained"
  | atCapacity pool maxSize => s!"Pool '{pool}' is at capacity ({maxSize} connections)"
  | unavailable pool => s!"Pool '{pool}' could not allocate a connection"

def inspect : PoolError → String
  | badBounds fault => Text.inspectValue "Specification" [Text.quoted fault.message]
  | drained pool => Text.inspectValue "Drained" [Text.quoted pool]
  | atCapacity pool maxSize =>
    Text.inspectRecord "AtCapacity" [("pool", Text.quoted pool), ("max_size", toString maxSize)]
  | unavailable pool => Text.inspectValue "Unavailable" [Text.quoted pool]

end PoolError

/-- How small and how large a pool may be. A greatest size of zero means that there is none. -/
structure PoolBounds where
  minSize : Nat
  maxSize : Nat
  deriving DecidableEq, Repr

namespace PoolBounds

def unbounded : PoolBounds := ⟨0, 0⟩

def isUnbounded (b : PoolBounds) : Bool := b.maxSize == 0

/-- Bounds from numbers as they come out of a configuration. -/
def of? (min max : Int) : Except PoolError PoolBounds :=
  if min < 0 then .error (.badBounds (.negativeMin min))
  else if max < 0 then .error (.badBounds (.negativeMax max))
  else if 0 < max ∧ max < min then .error (.badBounds (.inverted min max))
  else .ok ⟨min.toNat, max.toNat⟩

/-- Bounds put together without `of?` are checked for order when a pool is made of them. -/
def check (b : PoolBounds) : Except PoolError PoolBounds :=
  if 0 < b.maxSize ∧ b.maxSize < b.minSize then
    .error (.badBounds (.inverted b.minSize b.maxSize))
  else .ok b

end PoolBounds
end Tenancy
