namespace Tenancy

/-- A length of time in whole nanoseconds: seconds below 2^64 and the nanoseconds that are left. -/
structure Duration where
  seconds : Nat
  nanos : Nat
  seconds_lt : seconds < UInt64.size
  nanos_lt : nanos < 1_000_000_000
  deriving DecidableEq

namespace Duration

def zero : Duration := ⟨0, 0, by decide, by decide⟩

def largest : Duration := ⟨UInt64.size - 1, 1_000_000_000 - 1, by decide, by decide⟩

def of? (seconds nanos : Nat) : Option Duration :=
  if h : seconds < UInt64.size ∧ nanos < 1_000_000_000 then some ⟨seconds, nanos, h.1, h.2⟩ else none

def ofSeconds (seconds : UInt64) : Duration :=
  ⟨seconds.toNat, 0, seconds.toNat_lt_size, by decide⟩

/-- The length in nanoseconds. -/
def total (d : Duration) : Nat := d.seconds * 1_000_000_000 + d.nanos

/-- The length taken `n` times, or the largest length where that would be beyond it. The
nanoseconds are multiplied on their own and carry into the seconds. -/
def times (d : Duration) (n : Nat) : Duration :=
  let nanos := d.nanos * n
  let seconds := d.seconds * n + nanos / 1_000_000_000
  if h : seconds < UInt64.size then
    ⟨seconds, nanos % 1_000_000_000, h, Nat.mod_lt _ (by decide)⟩
  else largest

end Duration

/-- The wait after `attempts` failed attempts grows by one `base` with each. -/
def linearBackoff (attempts : UInt32) (base : Duration) : Duration := base.times attempts.toNat

end Tenancy
