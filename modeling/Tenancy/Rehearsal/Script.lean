import Tenancy.Identity.Static

namespace Tenancy.Rehearsal

/-- What a service answers, and which operations somebody else gets done before it does. -/
structure Cue (α ω : Type) where
  answer : α
  during : List ω := []

namespace Cue

variable {α ω : Type}

/-- The next cue is used up; without one the answer is `default`. -/
def take (default : α) : List (Cue α ω) → Cue α ω × List (Cue α ω)
  | [] => (⟨default, []⟩, [])
  | cue :: rest => (cue, rest)

/-- The last cue stays. -/
def takeKeepingLast (default : α) : List (Cue α ω) → Cue α ω × List (Cue α ω)
  | [] => (⟨default, []⟩, [])
  | [cue] => (cue, [cue])
  | cue :: rest => (cue, rest)

end Cue

inductive IdentityAnswer where
  /-- The same grant for every tenant. -/
  | grant (grant : Grant)
  | static (identity : StaticIdentity)
  | failure (error : IdentityError)

namespace IdentityAnswer

def unreadable : IdentityAnswer := failure (.malformed "unreadable document")

def unscripted : IdentityAnswer := failure (.unreachable "no script")

def answer (a : IdentityAnswer) (tenant : String) : Except IdentityError Grant :=
  match a with
  | grant g => .ok g
  | static identity => identity.authenticate tenant
  | failure error => .error error

end IdentityAnswer

/-- How many operations and answers a rehearsal may take. -/
def stamina : Nat := 10_000_000

end Tenancy.Rehearsal
