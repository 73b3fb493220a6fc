import Tenancy.Pool.Yard

namespace Tenancy.Yard

/-- What somebody does to the yard: an operation begins, or a task gets its reply. -/
inductive Deed where
  | call (c : Call)
  | answer (task : Task) (r : Reply)
  deriving DecidableEq

def Deed.pool : Deed → Nat
  | .call c => c.pool
  | .answer task _ => task.pool

/-- A step of a run, with what the yard asked for or told in turn. -/
structure Event where
  deed : Deed
  /-- How many resources were made before, which is the number of the next. -/
  next : Nat
  reaction : Reaction
  deriving DecidableEq

/-- A resource that somebody was handed, to keep or for one piece of work. -/
structure Loan where
  use : Use
  lease : Lease
  deriving DecidableEq

def Loan.slot (x : Loan) : Slot := ⟨x.lease.slot, x.lease.resource⟩

namespace Event

/-- The resource that a maker handed over in that step, under the number taken for it. -/
def made? (e : Event) : Option Slot :=
  match e.deed with
  | .answer (.allocating _ slot _) .made => some ⟨slot, e.next⟩
  | _ => none

/-- The resource whose end begins with that step. -/
def destroyed? (e : Event) : Option Nat :=
  match e.reaction with
  | .destroy _ resource => some resource
  | _ => none

/-- How many resources the operation that ends here says it gave up. -/
def counted (e : Event) : Nat :=
  match e.reaction with
  | .done (.counted count) => count
  | _ => 0

/-- A reservation ends here that had its resource made for a drained pool. -/
def isLate (e : Event) : Bool :=
  match e.deed, e.reaction with
  | .answer (.discarding _) _, .done (.refused (.drained _)) => true
  | _, _ => false

/-- What the step hands out. -/
def loan? (e : Event) : Option Loan :=
  match e.reaction with
  | .done (.leased lease) => some ⟨.lease, lease⟩
  | .work lease => some ⟨.checkout, lease⟩
  | _ => none

/-- The loans left of those before the step when what it gives back is taken off. A lease of
another pool is not given back. -/
def settle (e : Event) (loans : List Loan) : List Loan :=
  match e.deed with
  | .call (.release n lease) => if lease.pool = n then loans.erase ⟨.lease, lease⟩ else loans
  | .answer (.holding _ slot) _ =>
    loans.eraseP fun x => x.use == .checkout && x.lease.slot == slot
  | _ => loans

end Event

def made (es : List Event) : List Slot := es.filterMap Event.made?

def destroyed (es : List Event) : List Nat := es.filterMap Event.destroyed?

def counted : List Event → Nat
  | [] => 0
  | e :: es => e.counted + counted es

def late (es : List Event) : Nat := es.countP Event.isLate

/-- Every lease and guard ever handed out. -/
def issued (es : List Event) : List Lease := (es.filterMap Event.loan?).map Loan.lease

/-- The leases and guards handed out and not given back, whether or not somebody still knows
them. -/
def loans : List Event → List Loan
  | [] => []
  | e :: es => e.loan?.toList ++ e.settle (loans es)

theorem made_cons (e : Event) (es : List Event) : made (e :: es) = made [e] ++ made es := by
  rw [made, made, made, ← List.filterMap_append, List.singleton_append]

theorem destroyed_cons (e : Event) (es : List Event) :
    destroyed (e :: es) = destroyed [e] ++ destroyed es := by
  rw [destroyed, destroyed, destroyed, ← List.filterMap_append, List.singleton_append]

theorem counted_cons (e : Event) (es : List Event) :
    counted (e :: es) = counted [e] + counted es := by
  simp [counted]

theorem late_cons (e : Event) (es : List Event) : late (e :: es) = late [e] + late es := by
  rw [late, late, late, ← List.countP_append, List.singleton_append]

theorem issued_cons (e : Event) (es : List Event) : issued (e :: es) = issued [e] ++ issued es := by
  rw [issued, issued, issued, ← List.map_append, ← List.filterMap_append, List.singleton_append]

/-- How many resources are being made. -/
def running (ts : List Task) : Nat :=
  ts.countP fun | .allocating .. => true | _ => false

/-- The resources that an operation has taken out of the pool and not yet come to. -/
def doomed (ts : List Task) : List Nat :=
  ts.flatMap fun | .destroying _ rest _ => rest | _ => []

/-- Between the operations: nothing waits but work on what was checked out. -/
def Quiet (ts : List Task) : Prop := ∀ t ∈ ts, ∃ n slot, t = .holding n slot

/-- A yard and the steps it has taken, the latest first. -/
structure History where
  yard : Yard := {}
  events : List Event := []

inductive Move where
  | addPool (label : String) (bounds : PoolBounds) (settings : Settings)
  | call (c : Call)
  | answer (place : Nat) (r : Reply)
  /-- The holder of a lease drops it. -/
  | forget (lease : Lease)
  /-- From now on, what is on loan is given up in that order. -/
  | reorder (order : Arrangement Slot)

namespace History

def eventsOf (s : History) (n : Nat) : List Event := s.events.filter fun e => e.deed.pool == n

def tasksOf (s : History) (n : Nat) : List Task := s.yard.tasks.filter fun t => t.pool == n

/-- The lease was handed out, and its pool does not have it back. -/
def isOut (s : History) (lease : Lease) : Bool :=
  (loans (s.eventsOf lease.pool)).contains ⟨.lease, lease⟩

/-- Who releases a lease was handed it. -/
def allows (s : History) : Call → Bool
  | .release _ lease => s.isOut lease
  | _ => true

def record (s : History) (deed : Deed) (step : Yard × Reaction) : History :=
  ⟨step.1, ⟨deed, s.yard.created, step.2⟩ :: s.events⟩

/-- One step of a run. Whoever dropped a lease, or handed it to another pool, is not kept from
releasing it, so there are more runs here than programs can make. -/
def advance (s : History) : Move → Option History
  | .addPool label bounds settings =>
    (Pool.of? label bounds settings).toOption.map fun p => { s with yard := s.yard.addPool p }
  | .call c => if s.allows c then (s.yard.call c).map (s.record (.call c)) else none
  | .answer place r =>
    s.yard.tasks[place]?.bind fun task =>
      (s.yard.answer place r).map (s.record (.answer task r))
  | .forget lease => if s.isOut lease then some s else none
  | .reorder order => some { s with yard := { s.yard with order } }

def runFrom (s : History) (moves : List Move) : Option History := moves.foldlM advance s

/-- The run of those moves from a yard without pools, if they can all be made. -/
def run (moves : List Move) : Option History := runFrom {} moves

theorem runFrom_append {s s' : History} {moves : List Move} (h : s.runFrom moves = some s')
    (more : List Move) : s.runFrom (moves ++ more) = s'.runFrom more := by
  simp only [runFrom, List.foldlM_append] at h ⊢
  rw [h]
  rfl

theorem run_append {s : History} {moves : List Move} (hs : run moves = some s) (more : List Move) :
    run (moves ++ more) = s.runFrom more :=
  runFrom_append hs more

/-- For a pool with room for three. Three resources are made, each while the one before is being
made, and one of them stays checked out. The others come back and are trimmed; before the end of the
first of them two more are being made. -/
def crowd : List Move :=
  [.call (.reserve 0), .call (.reserve 0), .call (.checkout 0), .answer 0 .made, .answer 1 .made,
    .answer 1 .made, .call (.release 0 ⟨0, 1, 1⟩), .call (.release 0 ⟨0, 0, 2⟩), .call (.trim 0 2),
    .call (.reserve 0), .call (.reserve 0)]

end History
end Tenancy.Yard
