import Tenancy.Arrangement
import Tenancy.Pool.Bounds
import Tenancy.Settings
import Tenancy.Text.Inspect

namespace Tenancy

/-- A resource under the number that its pool lends it by. -/
structure Slot where
  id : Nat
  resource : Nat
  deriving DecidableEq, Repr

/-- The state of a resource pool, whose resources are lent one at a time. Free resources stand in
the order in which they came back, the latest first: the first is lent next and the last is given up
first. -/
structure Pool where
  label : String
  bounds : PoolBounds
  settings : Settings
  free : List Slot := []
  loaned : List Slot := []
  /-- How many resources are being made. -/
  pending : Nat := 0
  nextId : Nat := 0
  drained : Bool := false

namespace Pool

/-- An empty pool. -/
def of? (label : String) (bounds : PoolBounds) (settings : Settings) : Except PoolError Pool :=
  bounds.check.map fun bounds => { label, bounds, settings }

/-- Resources made and not yet given up. -/
def live (p : Pool) : Nat := p.free.length + p.loaned.length

/-- There is no room for one more resource. -/
def isFull (p : Pool) : Bool := !p.bounds.isUnbounded && p.bounds.maxSize ≤ p.live + p.pending

/-- Takes a number for a resource that is about to be made. -/
def announce (p : Pool) : Pool := { p with pending := p.pending + 1, nextId := p.nextId + 1 }

/-- Nothing is being made any more for one of the numbers taken. -/
def settle (p : Pool) : Pool := { p with pending := p.pending - 1 }

/-- Puts a new resource on loan. -/
def lend (p : Pool) (slot : Slot) : Pool := { p with loaned := slot :: p.loaned }

/-- Puts the resource on loan that came back last. -/
def reuse? (p : Pool) : Option (Slot × Pool) :=
  match p.free with
  | [] => none
  | slot :: free => some (slot, { p with free, loaned := slot :: p.loaned })

/-- Takes back what is on loan under that number. -/
def giveBack? (p : Pool) (id : Nat) : Option Pool :=
  (p.loaned.find? (·.id == id)).map fun slot =>
    { p with free := slot :: p.free, loaned := p.loaned.filter (·.id != id) }

/-- Gives up to `count` free resources up, the one that came back first at the head. -/
def trim (p : Pool) (count : Nat) : List Slot × Pool :=
  let kept := p.free.length - count
  ((p.free.drop kept).reverse, { p with free := p.free.take kept })

/-- How many free resources there are beyond the least size. -/
def excess (p : Pool) : Nat := min (p.live - p.bounds.minSize) p.free.length

/-- Gives everything up for good: free resources in their order, then those on loan in any. -/
def drain (p : Pool) (order : Arrangement Slot) : List Slot × Pool :=
  (p.free ++ order.arrange p.loaned, { p with free := [], loaned := [], drained := true })

def inspectStats (p : Pool) : String :=
  Text.inspectRecord "PoolStats" [
    ("free", toString p.free.length),
    ("allocated", toString p.loaned.length),
    ("pending", toString p.pending),
    ("min_size", toString p.bounds.minSize),
    ("max_size", toString p.bounds.maxSize),
    ("drained", Text.inspectBool p.drained)]

/-- The pool as programmers read it, under the name `id`. -/
def inspect (p : Pool) (id : String) : String :=
  Text.inspectRecord "ResourcePool"
    [("id", id), ("label", Text.quoted p.label), ("stats", p.inspectStats)]

end Pool
end Tenancy
