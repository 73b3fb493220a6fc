import Tenancy.Identity.Version

namespace Tenancy

/-- How a request for a connection ended. -/
inductive Reservation where
  | reused
  | created
  | atCapacity
  | unavailable
  | drained
  deriving DecidableEq, Repr

def Reservation.name : Reservation → String
  | reused => "reused"
  | created => "created"
  | atCapacity => "at_capacity"
  | unavailable => "unavailable"
  | drained => "drained"

/-- How an authentication ended. -/
inductive AuthOutcome where
  | success
  | connection
  | protocol
  deriving DecidableEq, Repr

def AuthOutcome.name : AuthOutcome → String
  | success => "success"
  | connection => "connection"
  | protocol => "protocol"

inductive Counter where
  | reservations (pool : String) (outcome : Reservation)
  | catalogAuth (version : IdentityVersion) (outcome : AuthOutcome)
  | initAttempts (provider : String)
  deriving DecidableEq, Repr

inductive Gauge where
  | freeConnections (pool : String)
  | allocatedConnections (pool : String)
  deriving DecidableEq, Repr

/-- A metric and its labels. -/
def metricText (metric : String) (labels : List (String × String)) : String :=
  metric ++ "\x7b" ++ ",".intercalate (labels.map fun (label, value) => label ++ "=" ++ value) ++ "\x7d"

def Counter.text : Counter → String
  | reservations pool outcome =>
    metricText "pool_reservations_total" [("pool", pool), ("outcome", outcome.name)]
  | catalogAuth version outcome =>
    metricText "catalog_auth_total" [("version", version.name), ("outcome", outcome.name)]
  | initAttempts provider => metricText "tenant_init_attempts_total" [("provider", provider)]

def Gauge.text : Gauge → String
  | freeConnections pool => metricText "pool_free_connections" [("pool", pool)]
  | allocatedConnections pool => metricText "pool_allocated_connections" [("pool", pool)]

/-- A counter or gauge is there once it has been touched. -/
structure Metrics where
  counters : List (Counter × Nat) := []
  gauges : List (Gauge × Nat) := []

namespace Metrics

/-- Changes the entry of a key, which is made if it is missing. -/
def change {κ : Type} [DecidableEq κ] (key : κ) (f : Nat → Nat) : List (κ × Nat) → List (κ × Nat)
  | [] => [(key, f 0)]
  | (k, n) :: rest => if k = key then (k, f n) :: rest else (k, n) :: change key f rest

def read {κ : Type} [DecidableEq κ] (key : κ) (entries : List (κ × Nat)) : Nat :=
  ((entries.find? fun e => e.1 = key).map Prod.snd).getD 0

def count (m : Metrics) (c : Counter) : Metrics := { m with counters := change c (· + 1) m.counters }

def set (m : Metrics) (g : Gauge) (n : Nat) : Metrics :=
  { m with gauges := change g (fun _ => n) m.gauges }

/-- A counter nobody has touched stands at zero, and so does a gauge. -/
def counted (m : Metrics) (c : Counter) : Nat := read c m.counters

def shown (m : Metrics) (g : Gauge) : Nat := read g m.gauges

end Metrics
end Tenancy
