import Mathlib.Data.List.Perm.Basic
import Tenancy.Proofs.Tenant
import Tenancy.Tenant.Desk

namespace Tenancy

deriving instance DecidableEq for SortedMap
deriving instance DecidableEq for Snapshot
deriving instance DecidableEq for CatalogTarget, Catalog
deriving instance DecidableEq for Settings

namespace Desk

deriving instance DecidableEq for Outcome
deriving instance DecidableEq for Purpose, After
deriving instance DecidableEq for Frame, Request

/-- What callers keep from one operation to the next. -/
inductive Thing where
  | cache (n : Nat)
  | lease (lease : Lease)
  deriving DecidableEq

def Outcome.things : Outcome → List Thing
  | .cached n => [.cache n]
  | .leased lease => [.lease lease]
  | _ => []

def Request.things : Request → List Thing
  | .done outcome => outcome.things
  | _ => []

/-- What the caller has no longer once the operation begins. -/
def Call.things : Call → List Thing
  | .drop n => [.cache n]
  | .release _ _ lease => [.lease lease]
  | _ => []

/-- The cache that the operation is called on. -/
def Call.cache? : Call → Option Nat
  | .openCache n | .tryOpenCache n | .drop n | .reserve n _ | .release n _ _ | .withConnection n _
  | .trim n _ _ | .shrink n _ | .drain n _ | .shutDown n | .refresh n => some n
  | .getOrOpen _ | .get _ | .evict _ | .shutDownAll => none

def Outcome.isUnplaced : Outcome → Bool
  | .failed error => error.isUnplaced
  | _ => false

def Request.isUnplaced : Request → Bool
  | .done outcome => outcome.isUnplaced
  | _ => false

/-- The cache that an initialization is going to open. -/
def Frame.opening? : Frame → Option Nat
  | .authenticating n .. | .sleeping n .. => some n
  | _ => none

/-- The caches that are being opened. Nobody can do anything else with them. -/
def openings (d : Desk) : List Nat := d.frames.filterMap Frame.opening?

/-- What somebody does to the desk: a cache is made, an operation begins, or one gets its reply. Or
the orders change in which the desk goes through its tables. -/
inductive Deed where
  | make (n : Nat)
  | reorder
  | call (c : Call)
  | answer (frame : Frame) (r : Reply)

def Deed.things : Deed → List Thing
  | .call c => c.things
  | _ => []

/-- What the catalog of a cache learns from an answer of the identity service. -/
def learns (d : Desk) : Deed → Option (Nat × Snapshot)
  | .answer (.authenticating n catalog _ _) (.answered now answer) =>
    (catalog.evaluate now answer).toOption.map (n, ·)
  | .answer (.refreshing n) (.answered now answer) => do
    let o ← (← d.cache? n).opened
    (o.catalog.evaluate now answer).toOption.map (n, ·)
  | _ => none

/-- A step of a run, with what was asked for or told in turn. -/
structure Event where
  deed : Deed
  learned : Option (Nat × Snapshot)
  request : Request

/-- The caches and leases that callers have after those steps. A lease that its holder has dropped
is still among them: nobody else can tell. -/
def kept : List Event → List Thing
  | [] => []
  | e :: es => e.request.things ++ (kept es).diff e.deed.things

/-- What the catalog of cache `n` has learned, the latest first. -/
def learned (n : Nat) (news : List (Nat × Snapshot)) : List Snapshot :=
  (news.filter fun x => x.1 == n).map Prod.snd

/-- A desk and the steps it has taken, the latest first. -/
structure History where
  desk : Desk
  events : List Event := []

/-- From now on tables are gone through in those orders. -/
def reorder (d : Desk) (slots : Arrangement Slot) (pools : Arrangement Nat)
    (keys : Arrangement Key) : Desk :=
  { d with yard := { d.yard with order := slots }, poolOrder := pools, keyOrder := keys }

inductive Move where
  /-- Somebody makes a cache of their own. -/
  | make (c : TenantCache)
  | reorder (slots : Arrangement Slot) (pools : Arrangement Nat) (keys : Arrangement Key)
  | call (c : Call)
  | reply (r : Reply)

/-- Somebody asks for free connections of cache `n` to be given up. -/
def Move.Trims (n : Nat) : Move → Prop
  | .call (.trim k _ _) | .call (.shrink k _) => k = n
  | _ => False

namespace History

def kept (s : History) : List Thing := Desk.kept s.events

def news (s : History) : List (Nat × Snapshot) := s.events.filterMap Event.learned

def learned (s : History) (n : Nat) : List Snapshot := Desk.learned n s.news

/-- Who calls has what the call is about. -/
def allows (s : History) (c : Call) : Bool :=
  (c.cache?.all fun n => s.kept.contains (.cache n) && !s.desk.openings.contains n) &&
    c.things.all s.kept.contains

def record (s : History) (deed : Deed) (step : Desk × Request) : History :=
  ⟨step.1, ⟨deed, s.desk.learns deed, step.2⟩ :: s.events⟩

/-- One step of a run. A cache is made unopened, and its maker holds it. -/
def advance (s : History) : Move → Option History
  | .make c =>
    if c.isOpen then none
    else
      let (d, n) := s.desk.add c
      some (s.record (.make n) (d, .done (.cached n)))
  | .reorder slots pools keys =>
    some (s.record .reorder (s.desk.reorder slots pools keys, .done .nothing))
  | .call c => if s.allows c then (s.desk.call c).map (s.record (.call c)) else none
  | .reply r => s.desk.frames.head?.bind fun frame =>
    (s.desk.reply r).map (s.record (.answer frame r))

def runFrom (s : History) (moves : List Move) : Option History := moves.foldlM advance s

/-- The run of those moves from a desk without caches, if they can all be made. -/
def run (providers : List Config.Provider) (moves : List Move) : Option History :=
  runFrom ⟨{ providers }, []⟩ moves

/-- One move of the run is that step. -/
def Takes (s : History) (deed : Deed) (r : Request) (s' : History) : Prop :=
  ∃ m, s.advance m = some s' ∧ s'.events = ⟨deed, s.desk.learns deed, r⟩ :: s.events

theorem takes_call {c : Call} {step : Desk × Request} {s : History} (ha : s.allows c = true)
    (h : s.desk.call c = some step) : s.Takes (.call c) step.2 (s.record (.call c) step) :=
  ⟨.call c, by simp [advance, ha, h], rfl⟩

theorem takes_reply {frame : Frame} {frames : List Frame} {reply : Reply} {step : Desk × Request}
    {s : History} (hf : s.desk.frames = frame :: frames) (h : s.desk.reply reply = some step) :
    s.Takes (.answer frame reply) step.2 (s.record (.answer frame reply) step) :=
  ⟨.reply reply, by simp [advance, hf, h], rfl⟩

/-- A tenant's cache as its maker has it. -/
def ownCache : TenantCache where
  source := 0
  provider := { name := "cloud", identityUrl := "a:/v2" }
  requested := "demo"
  domain := none
  credentials := ⟨"ops", "secret"⟩

/-- A provider with one tenant. -/
def cloud : Config.Provider where
  name := "cloud"
  identityUrl := "a:/v2"
  tenants := [{ name := "demo", userid := "ops" }]

/-- The identity service names a compute endpoint for each region. -/
def grantOf (regions : List String) : Grant where
  token := ⟨"token", ⟨0, 0, 0⟩, ⟨0, 3600, 0⟩⟩
  project := ⟨"id", "demo"⟩
  catalog := [{ type := "compute", endpoints := regions.map fun r => ⟨r, "a://" ++ r, none⟩ }]

/-- A cache is made and opened, and has a pool for each of the regions. -/
def opening (regions : List String) : List Move :=
  [.make ownCache, .call (.openCache 0), .reply (.answered 0 (.ok (grantOf regions)))]

end History
end Desk
end Tenancy
