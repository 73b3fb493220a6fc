import Mathlib.Logic.Relation
import Tenancy.Proofs.Desk.History
import Tenancy.Proofs.Yard.Course

namespace Tenancy

/-- What an operation of the yard hands out for good. -/
def Yard.Reaction.things : Yard.Reaction → List Desk.Thing
  | .done (.leased lease) => [.lease lease]
  | _ => []

namespace Desk

def After.things : After → List Thing
  | .answer outcome => outcome.things
  | .shutDown n | .evicted n | .sweep n _ => [.cache n]

def Purpose.things (n : Nat) : Purpose → List Thing
  | .report | .explain => []
  | .register _ => [.cache n]

def Frame.things : Frame → List Thing
  | .inPool n | .refreshing n => [.cache n]
  | .draining _ _ after => after.things
  | .authenticating n _ _ purpose | .sleeping n _ _ purpose => purpose.things n
  | _ => []

/-- Told in the step that finds it out, or never: that the operation came to no pool, and which
cache was found. -/
def Outcome.isPrompt : Outcome → Bool
  | .cached _ => true
  | outcome => outcome.isUnplaced

/-- What is going to be told can wait. -/
def After.isPlaced : After → Bool
  | .answer outcome => !outcome.isPrompt
  | _ => true

def Frame.isPlaced : Frame → Bool
  | .draining _ _ after => after.isPlaced
  | _ => true

/-- The frame waits for what is above it, or for nobody else's work on a pool. -/
def Frame.isPlain : Frame → Bool
  | .connecting _ | .loggingIn _ | .abandoning | .closing | .working => false
  | _ => true

/-- Nothing is left to be done but to go on. -/
def Frame.isSpent : Frame → Bool
  | .draining rest _ _ => rest.isEmpty
  | frame => frame.isPlain

/-- It made a connection for that pool, or is told to close one. -/
inductive Entry where
  | connected (pool : Nat) (connection : Connection)
  | closed (connection : Connection)
  deriving DecidableEq

def Request.entries : Request → List Entry
  | .close connection => [.closed connection]
  | _ => []

def Event.entries (e : Event) : List Entry :=
  match e.deed, e.request with
  | .answer (.connecting pool) .succeeded, .login connection _ => [.connected pool connection]
  | _, request => request.entries

/-- Everything that the connector did, the latest first. -/
def History.log (s : History) : List Entry := s.events.flatMap Event.entries

/-- What a step may be taken for, as far as it changes who is registered or makes pools smaller:
lookups and registrations of the tenant registry, evictions from it, and trims of the pools of a
cache. -/
inductive Errand where
  /-- Look for the cache of that key, and register one if there is none. -/
  | find (key : Key)
  /-- Take out what is registered for these keys. -/
  | clear (keys : List Key)
  /-- Give up free connections of that cache. -/
  | trim (n : Nat)

def Purpose.errand : Purpose → Errand
  | .register key => .find key
  | .report | .explain => .clear []

/-- Who answers the frame lets what is below go on. -/
def Frame.errand (below : List Frame) : Frame → Errand
  | .authenticating _ _ _ purpose | .sleeping _ _ _ purpose => purpose.errand
  | _ =>
    match below with
    | .draining _ _ (.sweep _ keys) :: _ => .clear keys
    | _ => .clear []

def errand (d : Desk) : Deed → Errand
  | .call (.getOrOpen key) | .call (.get key) => .find key
  | .call (.evict key) => .clear [key]
  | .call .shutDownAll => .clear (d.registry.map Prod.fst)
  | .call (.trim n _ _) | .call (.shrink n _) => .trim n
  | .answer frame _ => frame.errand d.frames.tail
  | _ => .clear []

/-- Who looks for a cache gets the one registered, and who gets none leaves the registry as it
was. Nobody else gets a cache. -/
def Errand.Meets (errand : Errand) (registry : List (Key × Nat)) (step : Desk × Request) : Prop :=
  (∀ n, step.2 = .done (.cached n) →
    ∃ key, errand = .find key ∧ step.1.registered? key = some n) ∧
  ∀ key, errand = .find key → (∀ n, step.2 ≠ .done (.cached n)) → step.1.registry = registry

/-- What a step may do in the yard. Leases are taken back apart from this, and only who was asked to
gives up free connections. -/
def Errand.Allows (errand : Errand) (owners : List Nat) (deed : Yard.Deed) : Prop :=
  (∀ m lease, deed ≠ .call (.release m lease)) ∧
    (deed.Trims → ∃ n, errand = .trim n ∧ owners[deed.pool]? = some n)

/-- What waits for the reaction to be replied to, and what the connector does meanwhile. -/
inductive Passing (connections : List Connection) :
    Yard.Reaction → List Frame → List Entry → Prop
  | done (outcome : Yard.Outcome) : Passing connections (.done outcome) [] []
  | allocate (pool : Nat) : Passing connections (.allocate pool) [.connecting pool] []
  | destroy {pool resource connection} (h : connections[resource]? = some connection) :
      Passing connections (.destroy pool resource) [.closing] [.closed connection]
  | work (lease : Lease) : Passing connections (.work lease) [.working] []

/-- What the yard is told when the frame gets its reply, and the connection behind what was made. -/
inductive Frame.Tells : Frame → Yard.Reply → List Connection → Prop
  | notConnected {pool} : Tells (.connecting pool) .nothing []
  | broken {pool} : Tells (.connecting pool) .unwind []
  | loggedIn {connection} : Tells (.loggingIn connection) .made [connection]
  | abandoned : Tells .abandoning .nothing []
  | closed : Tells .closing .destroyed []
  | finished : Tells .working .finished []
  | unwound : Tells .working .unwind []

/-- The frames after a step of the yard, the new connections, and what the connector does. An
operation of the yard is called for a cache that its pool belongs to, or by who drains. -/
inductive Shift (d : Desk) :
    Yard.Deed → Yard.Reaction → List Frame → List Connection → List Entry → Prop
  | call {c n x tops entries frames} (hf : d.frames = .inPool n :: frames)
      (hn : d.owners[c.pool]? = some n) (hx : Passing d.connections x tops entries) :
      Shift d (.call c) x (tops ++ .inPool n :: frames) [] entries
  | drain {pool rest closed closed' after x tops entries frames}
      (hf : d.frames = .draining (pool :: rest) closed after :: frames)
      (hx : Passing d.connections x tops entries) :
      Shift d (.call (.drain pool)) x (tops ++ .draining rest closed' after :: frames) [] entries
  | answer {task r f made x tops entries frames} (hf : d.frames = f :: frames)
      (hr : f.Tells r made) (hx : Passing (d.connections ++ made) x tops entries) :
      Shift d (.answer task r) x (tops ++ frames) made entries

/-- A desk in the middle of a step. -/
structure Scene where
  desk : Desk
  /-- What the operation that goes on has in hand. -/
  hand : List Thing
  news : List (Nat × Snapshot)

/-- How many hold that cache. -/
def holders (d : Desk) (n : Nat) : Nat := (d.caches[n]?.map Held.holders).getD 0

theorem doomedPools_perm (d : Desk) (n : Nat) : (d.doomedPools n).Perm (d.poolsOf n) :=
  d.poolOrder.perm (d.poolsOf n)

/-- The cache is there and not open, and nobody else is opening it. -/
def Unopened (d : Desk) (n : Nat) (c : TenantCache) : Prop :=
  d.cache? n = some c ∧ c.opened = none ∧ n ∉ d.openings

/-- What an operation may begin to wait with. Who opens a cache to register it holds it alone, and
who drains the pools of a cache holds it, unless nobody does. -/
inductive Begins (d : Desk) : Frame → Prop
  | inPool (n : Nat) : Begins d (.inPool n)
  | refreshing (n : Nat) : Begins d (.refreshing n)
  | opening {f n c} (hf : f.opening? = some n) (hu : Unopened d n c)
      (hn : f.things = [] ∨ d.holders n = 1) : Begins d f
  | draining {n pools closed after} (hp : pools.Perm (d.poolsOf n))
      (hn : .cache n ∈ after.things ∨ d.holders n = 0) (ha : after.isPlaced = true) :
      Begins d (.draining pools closed after)

/-- What is left to do belongs to the removal of that cache. -/
inductive After.Removes (n : Nat) : After → Prop
  | evicted : Removes n (.evicted n)
  | sweep {keys} : Removes n (.sweep n keys)

/-- One change, while callers have `kept`, in a step on that errand. -/
inductive Act (errand : Errand) (kept : List Thing) : Scene → List Entry → Scene → Prop
  | reorder {d : Desk} {hand news} (slots : Arrangement Slot) (pools : Arrangement Nat)
      (keys : Arrangement Key) :
      Act errand kept ⟨d, hand, news⟩ [] ⟨d.reorder slots pools keys, hand, news⟩
  | arrange {d : Desk} {hand hand' news} (h : hand.Perm hand') :
      Act errand kept ⟨d, hand, news⟩ [] ⟨d, hand', news⟩
  | note {d : Desk} {hand news} (notice : Notice) :
      Act errand kept ⟨d, hand, news⟩ [] ⟨d.note notice, hand, news⟩
  | count {d : Desk} {hand news} (counter : Counter) :
      Act errand kept ⟨d, hand, news⟩ [] ⟨d.count counter, hand, news⟩
  | work {d : Desk} {hand news deed y x frames made entries}
      (hd : errand.Allows d.owners deed) (h : d.yard.Does deed (y, x))
      (hs : Shift d deed x frames made entries) :
      Act errand kept ⟨d, hand, news⟩ entries
        ⟨{ d with yard := y, frames, connections := d.connections ++ made }, x.things ++ hand, news⟩
  | giveBack {d : Desk} {hand news y x lease}
      (h : d.yard.call (.release lease.pool lease) = some (y, x)) :
      Act errand kept ⟨d, .lease lease :: hand, news⟩ [] ⟨{ d with yard := y }, hand, news⟩
  /-- Nobody has the lease any longer. -/
  | lose {d : Desk} {hand news} (lease : Lease) :
      Act errand kept ⟨d, .lease lease :: hand, news⟩ [] ⟨d, hand, news⟩
  /-- Only pools that are not there are passed over. -/
  | recount {d : Desk} {hand news pools rest closed closed' after frames}
      (hf : d.frames = .draining pools closed after :: frames) (hr : rest ⊆ pools)
      (hp : ∀ m ∈ pools, m ∈ rest ∨ d.yard.pools[m]? = none) :
      Act errand kept ⟨d, hand, news⟩ []
        ⟨{ d with frames := .draining rest closed' after :: frames }, hand, news⟩
  | push {d : Desk} {hand news f} (hf : d.Begins f) :
      Act errand kept ⟨d, f.things ++ hand, news⟩ [] ⟨d.push f, hand, news⟩
  | pop {d : Desk} {hand news f frames} (hf : d.frames = f :: frames) (hs : f.isSpent = true) :
      Act errand kept ⟨d, hand, news⟩ [] ⟨{ d with frames }, f.things ++ hand, news⟩
  | hold {d : Desk} {hand news n} (hn : .cache n ∈ kept ∨ ∃ key, d.registered? key = some n) :
      Act errand kept ⟨d, hand, news⟩ [] ⟨d.hold n, .cache n :: hand, news⟩
  | letGo {d : Desk} {hand news n} :
      Act errand kept ⟨d, .cache n :: hand, news⟩ [] ⟨d.letGo n, hand, news⟩
  | add {d : Desk} {hand news} (c : TenantCache) (hc : c.opened = none) :
      Act errand kept ⟨d, hand, news⟩ [] ⟨(d.add c).1, .cache d.caches.length :: hand, news⟩
  | register {d : Desk} {hand news key n c} (he : errand = .find key)
      (hk : d.registered? key = none) (hc : d.cache? n = some c) (ho : c.isOpen = true) :
      Act errand kept ⟨d, .cache n :: hand, news⟩ []
        ⟨{ d with registry := d.registry ++ [(key, n)] }, hand, news⟩
  /-- Who takes a cache out goes on to drain its pools. -/
  | unregister {d : Desk} {hand news key keys n pools closed after} (he : errand = .clear keys)
      (hm : key ∈ keys) (hk : d.registered? key = some n) (hp : pools.Perm (d.poolsOf n))
      (ha : after.Removes n) :
      Act errand kept ⟨d, hand, news⟩ []
        ⟨push { d with registry := d.registry.filter fun e => !(e.1 == key) }
          (.draining pools closed after), hand, news⟩
  | connect {d : Desk} {hand news pool connection frames}
      (hf : d.frames = .connecting pool :: frames) (hn : connection.number = d.connected) :
      Act errand kept ⟨d, hand, news⟩ [.connected pool connection]
        ⟨{ d with connected := d.connected + 1, frames := .loggingIn connection :: frames },
          hand, news⟩
  | abandon {d : Desk} {hand news connection frames}
      (hf : d.frames = .loggingIn connection :: frames) :
      Act errand kept ⟨d, hand, news⟩ [.closed connection]
        ⟨{ d with frames := .abandoning :: frames }, hand, news⟩
  | openTenant {d : Desk} {hand news n c catalog bounds s project} (hn : Unopened d n c)
      (hb : c.provider.pool.bounds = .ok bounds) :
      Act errand kept ⟨d, hand, news⟩ []
        ⟨d.openTenant n c catalog bounds s project, hand, (n, s) :: news⟩
  | publish {d : Desk} {hand news n c o s} (hc : d.cache? n = some c) (ho : c.opened = some o) :
      Act errand kept ⟨d, hand, news⟩ [] ⟨d.setCache n (c.publish s), hand, (n, s) :: news⟩

/-- Changes that are none of the connector's business, one after the other. -/
abbrev Acts (errand : Errand) (kept : List Thing) : Scene → Scene → Prop :=
  Relation.ReflTransGen fun x y => Act errand kept x [] y

/-- The changes of one step: only the last of them may concern the connector. -/
inductive Walk (errand : Errand) (kept : List Thing) (x : Scene) : List Entry → Scene → Prop
  | quiet {z} (h : Acts errand kept x z) : Walk errand kept x [] z
  | last {y entries z} (h : Acts errand kept x y) (hz : Act errand kept y entries z) :
      Walk errand kept x entries z

/-- From the scene `x` an operation comes to that end, or to something that it asks for. What it
still has in hand then it hands over. -/
structure Leads (errand : Errand) (kept : List Thing) (x : Scene) (step : Desk × Request)
    (news : List (Nat × Snapshot)) : Prop where
  walk : Walk errand kept x step.2.entries ⟨step.1, step.2.things, news⟩
  placed : step.2.isUnplaced = false
  meets : errand.Meets x.desk.registry step

variable {errand : Errand} {kept hand : List Thing} {d : Desk} {r : Request}
  {news : List (Nat × Snapshot)} {step : Desk × Request} {x y z : Scene} {n : Nat}
  {c : TenantCache} {entries : List Entry} {outcome : Outcome}

theorem allows_drain (errand : Errand) (owners : List Nat) (pool : Nat) :
    errand.Allows owners (.call (.drain pool)) :=
  ⟨by simp, by simp [Yard.Deed.Trims]⟩

theorem allows_answer (errand : Errand) (owners : List Nat) (task : Yard.Task) (r : Yard.Reply) :
    errand.Allows owners (.answer task r) :=
  ⟨by simp, by simp [Yard.Deed.Trims]⟩

theorem Walk.after (h : Walk errand kept y entries z) (hx : Acts errand kept x y) :
    Walk errand kept x entries z := by
  cases h with
  | quiet h => exact .quiet (hx.trans h)
  | last h hz => exact .last (hx.trans h) hz

/-- What each change keeps, a walk keeps, beside what the connector has done by then. -/
theorem Walk.keeps {P : List Entry → Scene → Prop} (log : List Entry)
    (hact : ∀ {log x entries y}, Act errand kept x entries y → P log x → P (entries ++ log) y)
    (h : Walk errand kept x entries y) (hx : P log x) : P (entries ++ log) y := by
  have hacts {z : Scene} (hz : Acts errand kept x z) : P log z := by
    induction hz with
    | refl => exact hx
    | tail _ ha ih => exact hact ha ih
  cases h with
  | quiet h => exact hacts h
  | last h ha => exact hact ha (hacts h)

theorem Leads.after (h : Leads errand kept y step news) (hx : Acts errand kept x y)
    (hr : ∀ key, errand = .find key → y.desk.registry = x.desk.registry) :
    Leads errand kept x step news := by
  obtain ⟨walk, placed, hfound, hsame⟩ := h
  exact ⟨walk.after hx, placed, hfound, fun key hk hn => (hsame key hk hn).trans (hr key hk)⟩

/-- The end of an operation that neither finds a cache nor touches the registry. -/
theorem leads_done (h : Acts errand kept x ⟨d, outcome.things, news⟩)
    (ho : outcome.isPrompt = false)
    (hr : ∀ key, errand = .find key → d.registry = x.desk.registry) :
    Leads errand kept x (d, .done outcome) news := by
  refine ⟨.quiet h, ?_, ?_, fun key hk _ => hr key hk⟩
  · cases outcome with
    | failed error => exact ho
    | _ => rfl
  · intro n hn
    cases hn
    cases ho

/-- Who asks for something has put everything away. -/
theorem leads_ask (h : Walk errand kept x r.entries ⟨d, [], news⟩)
    (hr : ∀ outcome, r ≠ .done outcome)
    (hd : ∀ key, errand = .find key → d.registry = x.desk.registry) :
    Leads errand kept x (d, r) news := by
  have hthings : r.things = [] := by
    cases r with
    | done outcome => exact absurd rfl (hr outcome)
    | _ => rfl
  refine ⟨?_, ?_, fun n hn => absurd hn (hr _), fun key hk _ => hd key hk⟩
  · rw [hthings]
    exact h
  · cases r with
    | done outcome => exact absurd rfl (hr outcome)
    | _ => rfl

theorem acts_note (notice : Notice) :
    Acts errand kept ⟨d, hand, news⟩ ⟨d.note notice, hand, news⟩ :=
  .single (.note notice)

theorem acts_record (version : IdentityVersion) (result : Except CatalogError Snapshot) :
    Acts errand kept ⟨d, hand, news⟩ ⟨d.record version result, hand, news⟩ := by
  apply Relation.ReflTransGen.head (.count (.catalogAuth version (Catalog.outcome result)))
  cases result with
  | ok s => exact .refl
  | error fault => exact acts_note _

theorem acts_push {f : Frame} (hf : d.Begins f) :
    Acts errand kept ⟨d, f.things, news⟩ ⟨d.push f, [], news⟩ := by
  have hact : Act errand kept ⟨d, f.things ++ [], news⟩ [] ⟨d.push f, [], news⟩ := .push hf
  rw [List.append_nil] at hact
  exact .single hact

theorem acts_pop {f : Frame} {frames : List Frame} (hf : d.frames = f :: frames)
    (hs : f.isSpent = true) :
    Acts errand kept ⟨d, [], news⟩ ⟨{ d with frames }, f.things, news⟩ := by
  have hact : Act errand kept ⟨d, [], news⟩ [] ⟨{ d with frames }, f.things ++ [], news⟩ :=
    .pop hf hs
  rw [List.append_nil] at hact
  exact .single hact

/-- Whatever the yard asks for is passed on. -/
theorem ask_passing {reaction : Yard.Reaction} (h : d.ask reaction = some step) :
    ∃ f, Passing d.connections reaction [f] step.2.entries ∧ step.1 = d.push f ∧
      reaction.things = [] ∧ ∀ outcome, step.2 ≠ .done outcome := by
  cases reaction with
  | allocate pool =>
    simp only [ask] at h
    obtain ⟨c, -, h⟩ := Option.bind_eq_some_iff.mp h
    obtain ⟨p, -, h⟩ := Option.bind_eq_some_iff.mp h
    cases h
    exact ⟨_, .allocate pool, rfl, rfl, by simp⟩
  | destroy pool resource =>
    simp only [ask] at h
    obtain ⟨connection, hc, h⟩ := Option.bind_eq_some_iff.mp h
    cases h
    exact ⟨_, .destroy hc, rfl, rfl, by simp⟩
  | work lease =>
    cases h
    exact ⟨_, .work lease, rfl, rfl, by simp⟩
  | done outcome => cases h

end Desk
end Tenancy
