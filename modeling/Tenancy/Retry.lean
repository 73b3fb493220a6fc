import Tenancy.Duration

namespace Tenancy

/-- How often an operation may be tried and how long to wait in between. Only transient errors are
worth another attempt. -/
structure RetryPolicy where
  maxAttempts : UInt32
  delay : Duration
  deriving DecidableEq

/-- The error that ended the attempts, and how many there were. -/
structure GaveUp (ε : Type) where
  error : ε
  attempts : UInt32
  deriving DecidableEq

/-- What follows an attempt. -/
inductive Verdict (ε α : Type) where
  | succeeded (value : α)
  | gaveUp (failure : GaveUp ε)
  /-- Wait, then make the attempt of that number. -/
  | again (wait : Duration) (attempt : UInt32)

namespace RetryPolicy

/-- The greatest number an attempt can have. One attempt is always made. -/
def limit (p : RetryPolicy) : UInt32 := if p.maxAttempts = 0 then 1 else p.maxAttempts

variable {ε α : Type}

def judge (p : RetryPolicy) (transient : ε → Bool) (attempt : UInt32) :
    Except ε α → Verdict ε α
  | .ok value => .succeeded value
  | .error error =>
    if transient error && attempt < p.limit then
      .again (linearBackoff attempt p.delay) (attempt + 1)
    else .gaveUp ⟨error, attempt⟩

end RetryPolicy

/-- A finished row of attempts: their numbers, the waits between them, and how they ended. -/
structure Attempts (ε α : Type) where
  calls : List UInt32
  waits : List Duration
  result : Except (GaveUp ε) α

namespace RetryPolicy

variable {ε α : Type}

theorem ok_of_judge_succeeded {p : RetryPolicy} {transient : ε → Bool} {attempt : UInt32}
    {outcome : Except ε α} {value : α} (h : p.judge transient attempt outcome = .succeeded value) :
    outcome = .ok value := by
  unfold judge at h
  split at h
  · cases h
    rfl
  · split at h <;> cases h

theorem error_of_judge_gaveUp {p : RetryPolicy} {transient : ε → Bool} {attempt : UInt32}
    {outcome : Except ε α} {failure : GaveUp ε}
    (h : p.judge transient attempt outcome = .gaveUp failure) :
    ∃ error, outcome = .error error ∧ failure = ⟨error, attempt⟩ := by
  unfold judge at h
  split at h
  · cases h
  · split at h
    · cases h
    · cases h
      exact ⟨_, rfl, rfl⟩

theorem lt_of_judge_again {p : RetryPolicy} {transient : ε → Bool} {attempt next : UInt32}
    {outcome : Except ε α} {wait : Duration}
    (h : p.judge transient attempt outcome = .again wait next) :
    attempt < p.limit ∧ next = attempt + 1 := by
  unfold judge at h
  split at h
  · cases h
  · split at h
    · rename_i more
      cases h
      exact ⟨by simpa using (Bool.and_eq_true_iff.mp more).2, rfl⟩
    · cases h

/-- The attempts from number `attempt` on, where `outcome` says how each attempt turns out. -/
def runFrom (p : RetryPolicy) (transient : ε → Bool) (outcome : UInt32 → Except ε α)
    (attempt : UInt32) : Attempts ε α :=
  match _judged : p.judge transient attempt (outcome attempt) with
  | .succeeded value => ⟨[attempt], [], .ok value⟩
  | .gaveUp failure => ⟨[attempt], [], .error failure⟩
  | .again wait next =>
    let rest := p.runFrom transient outcome next
    ⟨attempt :: rest.calls, wait :: rest.waits, rest.result⟩
  termination_by p.limit.toNat - attempt.toNat
  decreasing_by
    obtain ⟨lt, rfl⟩ := lt_of_judge_again _judged
    have lt := UInt32.lt_iff_toNat_lt.mp lt
    have := p.limit.toNat_lt
    have : (attempt + 1).toNat = attempt.toNat + 1 := by
      rw [UInt32.toNat_add]
      exact Nat.mod_eq_of_lt (by simp; omega)
    omega

def run (p : RetryPolicy) (transient : ε → Bool) (outcome : UInt32 → Except ε α) : Attempts ε α :=
  p.runFrom transient outcome 1

end RetryPolicy
end Tenancy
