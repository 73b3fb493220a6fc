import Tenancy.Metrics
import Tenancy.Notice
import Tenancy.Pool

namespace Tenancy

/-- Says which resource of which pool its holder may use. -/
structure Lease where
  pool : Nat
  slot : Nat
  resource : Nat
  deriving DecidableEq, Repr

namespace Yard

/-- What a resource is wanted for: to be held on a lease, or for one piece of work. -/
inductive Use where
  | lease
  | checkout
  deriving DecidableEq, Repr

/-- What an operation waits for. -/
inductive Task where
  /-- A new resource for that slot. -/
  | allocating (pool slot : Nat) (use : Use)
  /-- The end of a resource made for a pool that was drained meanwhile. -/
  | discarding (pool : Nat)
  /-- The end of one resource, before the `rest`; `total` is how many are given up in all. -/
  | destroying (pool : Nat) (rest : List Nat) (total : Nat)
  /-- The end of the work on that slot. -/
  | holding (pool slot : Nat)
  deriving DecidableEq, Repr

/-- An operation of a resource pool. -/
inductive Call where
  | reserve (pool : Nat)
  | checkout (pool : Nat)
  | release (pool : Nat) (lease : Lease)
  | trim (pool count : Nat)
  /-- Trims what there is beyond the least size. -/
  | shrink (pool : Nat)
  | drain (pool : Nat)
  deriving DecidableEq, Repr

/-- How an operation ended. -/
inductive Outcome where
  | leased (lease : Lease)
  | refused (error : PoolError)
  /-- So many resources were given up. -/
  | counted (count : Nat)
  | returned
  /-- It was broken off in the middle of somebody else's work. -/
  | unwound
  deriving DecidableEq, Repr

/-- What comes next: work to be done and replied to, or the end of the operation. -/
inductive Reaction where
  | allocate (pool : Nat)
  | destroy (pool resource : Nat)
  | work (lease : Lease)
  | done (outcome : Outcome)
  deriving DecidableEq, Repr

inductive Reply where
  /-- There is a new resource. Resources are numbered in the order of these replies. -/
  | made
  /-- There is no new resource. -/
  | nothing
  | destroyed
  | finished
  /-- The work was broken off. -/
  | unwind
  deriving DecidableEq, Repr

end Yard

/-- The resource pools of one program, and the operations on them that have begun and not ended:
reservations, trims and drains that wait, and pool guards whose work goes on. Making and giving up a
resource is somebody else's work, and whoever does it may use the pools meanwhile. So an operation
runs up to the next piece of such work and asks for it; a reply takes it on from there. Operations
begun later end earlier, and the tasks that wait for replies are a stack; only what is checked out
may be kept longer. -/
structure Yard where
  pools : List Pool := []
  /-- How many resources have been made. -/
  created : Nat := 0
  metrics : Metrics := {}
  journal : List Notice := []
  tasks : List Yard.Task := []
  /-- In which order resources on loan are given up. -/
  order : Arrangement Slot := .sorted fun a b => decide (a.resource ≤ b.resource)

namespace Yard

def put (y : Yard) (n : Nat) (p : Pool) : Yard := { y with pools := y.pools.set n p }

def note (y : Yard) (notice : Notice) : Yard := { y with journal := y.journal ++ [notice] }

def push (y : Yard) (task : Task) : Yard := { y with tasks := task :: y.tasks }

def count (y : Yard) (p : Pool) (outcome : Reservation) : Yard :=
  { y with metrics := y.metrics.count (.reservations p.label outcome) }

/-- Shows the sizes of the pool on its gauges. -/
def publish (y : Yard) (p : Pool) : Yard :=
  let metrics := y.metrics.set (.freeConnections p.label) p.free.length
  { y with metrics := metrics.set (.allocatedConnections p.label) p.loaned.length }

/-- Hands a slot out that has just been put on loan. -/
def handOut (y : Yard) (n : Nat) (slot : Slot) : Use → Yard × Reaction
  | .lease => (y, .done (.leased ⟨n, slot.id, slot.resource⟩))
  | .checkout => (y.push (.holding n slot.id), .work ⟨n, slot.id, slot.resource⟩)

/-- Looks for a free resource, then for room to make one. -/
def reserve (y : Yard) (n : Nat) (p : Pool) (use : Use) : Yard × Reaction :=
  if p.drained then (y.count p .drained, .done (.refused (.drained p.label)))
  else match p.reuse? with
    | some (slot, p) => (((y.put n p).count p .reused).publish p).handOut n slot use
    | none =>
      if p.isFull then
        (y.count p .atCapacity, .done (.refused (.atCapacity p.label p.bounds.maxSize)))
      else ((y.put n p.announce).push (.allocating n p.nextId use), .allocate n)

/-- Takes a slot back. Once the pool is drained there is nothing to take back. -/
def giveBack (y : Yard) (n : Nat) (p : Pool) (id : Nat) : Yard :=
  match p.giveBack? id with
  | some p => (y.put n p).publish p
  | none => if p.drained then y else y.note .notOnLoan

/-- Gives resources up one after the other. -/
def destroyNext (y : Yard) (n total : Nat) : List Nat → Yard × Reaction
  | [] => (y, .done (.counted total))
  | resource :: rest => (y.push (.destroying n rest total), .destroy n resource)

def giveUp (y : Yard) (n : Nat) (slots : List Slot) (p : Pool) : Yard × Reaction :=
  ((y.put n p).publish p).destroyNext n slots.length (slots.map Slot.resource)

/-- Begins an operation on the pool `p`, which has the number `n`. -/
def start (y : Yard) (n : Nat) (p : Pool) : Call → Yard × Reaction
  | .reserve _ => y.reserve n p .lease
  | .checkout _ => y.reserve n p .checkout
  | .release _ lease =>
    if lease.pool = n then (y.giveBack n p lease.slot, .done .returned)
    else (y.note .foreignLease, .done .returned)
  | .trim _ count => y.giveUp n (p.trim count).1 (p.trim count).2
  | .shrink _ => y.giveUp n (p.trim p.excess).1 (p.trim p.excess).2
  | .drain _ =>
    if p.drained then (y, .done (.counted 0))
    else y.giveUp n (p.drain y.order).1 (p.drain y.order).2

def Call.pool : Call → Nat
  | .reserve n | .checkout n | .release n _ | .trim n _ | .shrink n | .drain n => n

/-- Begins an operation; there has to be such a pool. -/
def call (y : Yard) (c : Call) : Option (Yard × Reaction) :=
  y.pools[c.pool]?.map fun p => y.start c.pool p c

/-- Goes on with an operation on the pool `p` where it waited for `task`. -/
def resume (y : Yard) (p : Pool) : Task → Reply → Option (Yard × Reaction)
  | .allocating n slot use, .made =>
    let p := p.settle
    let resource := y.created
    let y := { y with created := y.created + 1 }
    if p.drained then some ((y.put n p).push (.discarding n), .destroy n resource)
    else
      let p := p.lend ⟨slot, resource⟩
      some ((((y.put n p).count p .created).publish p).handOut n ⟨slot, resource⟩ use)
  | .allocating n _ _, .nothing =>
    some (((y.put n p.settle).note .noConnectionMade).count p .unavailable,
      .done (.refused (.unavailable p.label)))
  | .allocating n _ _, .unwind => some (y.put n p.settle, .done .unwound)
  | .discarding _, .destroyed => some (y.count p .drained, .done (.refused (.drained p.label)))
  | .destroying n rest total, .destroyed => some (y.destroyNext n total rest)
  | .holding n slot, .finished => some (y.giveBack n p slot, .done .returned)
  | .holding n slot, .unwind => some (y.giveBack n p slot, .done .unwound)
  | _, _ => none

def Task.pool : Task → Nat
  | .allocating n _ _ | .discarding n | .destroying n _ _ | .holding n _ => n

/-- Answers the task at that place, counted from the top; the reply has to be one that the task
waits for. Who keeps what was checked out may let operations begun later go on before it. -/
def answer (y : Yard) (place : Nat) (r : Reply) : Option (Yard × Reaction) :=
  y.tasks[place]?.bind fun task =>
    y.pools[task.pool]?.bind fun p =>
      resume { y with tasks := y.tasks.eraseIdx place } p task r

/-- Answers the task on top. -/
def reply (y : Yard) (r : Reply) : Option (Yard × Reaction) := y.answer 0 r

/-- Adds an empty pool under the next number. -/
def addPool (y : Yard) (p : Pool) : Yard := { y with pools := y.pools ++ [p] }

/-- Takes the notices written since the last time. -/
def takeNotices (y : Yard) : List Notice × Yard := (y.journal, { y with journal := [] })

end Yard
end Tenancy
