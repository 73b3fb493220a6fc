import Tenancy.Pool.Yard
import Tenancy.Tenant.Cache

namespace Tenancy

/-- A connection as the connector made it. -/
structure Connection where
  /-- In the order in which connections were made. -/
  number : Nat
  source : Nat
  region : String
  tenant : String
  userid : String
  deriving DecidableEq

namespace Desk

/-- A cache, and how many hold it: callers, the registry, and operations that run on it. -/
structure Held where
  cache : TenantCache
  holders : Nat

/-- Provider and tenant. -/
abbrev Key := String × String

/-- How an operation ended. -/
inductive Outcome where
  | nothing
  | flag (value : Bool)
  | counted (count : Nat)
  /-- The caller holds that cache from now on. -/
  | cached (cache : Nat)
  | leased (lease : Lease)
  | regions (regions : Option (List String))
  | failed (error : TenantError)
  | catalogFailed (error : CatalogError)
  /-- It was broken off by the connector or by the caller's own work. -/
  | unwound

/-- What an initialization is for. -/
inductive Purpose where
  /-- To tell whether it succeeded; a failure is logged. -/
  | report
  /-- To tell why it failed. -/
  | explain
  | register (key : Key)

/-- What is left to do once the pools of a cache are drained. -/
inductive After where
  | answer (outcome : Outcome)
  | shutDown (cache : Nat)
  | evicted (cache : Nat)
  /-- The next caches of the registry. -/
  | sweep (cache : Nat) (keys : List Key)

/-- What an operation of the registry or of a cache waits for. -/
inductive Frame where
  /-- An operation of the yard on a pool of that cache. -/
  | inPool (cache : Nat)
  /-- Pools being drained: `rest` are those after this one, `closed` counts connections so far. -/
  | draining (rest : List Nat) (closed : Nat) (after : After)
  /-- The connector, asked for a connection for that pool. -/
  | connecting (pool : Nat)
  | loggingIn (connection : Connection)
  /-- The end of a connection that could not log in. -/
  | abandoning
  /-- The end of a connection that a pool gave up. -/
  | closing
  /-- The caller's work on a connection. -/
  | working
  | authenticating (cache : Nat) (catalog : Catalog) (attempt : UInt32) (purpose : Purpose)
  | sleeping (cache : Nat) (catalog : Catalog) (attempt : UInt32) (purpose : Purpose)
  | refreshing (cache : Nat)

/-- An operation of the tenant registry or of a tenant cache. -/
inductive Call where
  | openCache (cache : Nat)
  | tryOpenCache (cache : Nat)
  | getOrOpen (key : Key)
  | get (key : Key)
  | evict (key : Key)
  /-- Evicts everything. -/
  | shutDownAll
  /-- The caller holds the cache no longer. -/
  | drop (cache : Nat)
  | reserve (cache : Nat) (region : String)
  | release (cache : Nat) (region : String) (lease : Lease)
  | withConnection (cache : Nat) (url : String)
  | trim (cache : Nat) (region : String) (count : Nat)
  | shrink (cache : Nat) (region : String)
  | drain (cache : Nat) (region : String)
  | shutDown (cache : Nat)
  /-- Authenticates the catalog once more. -/
  | refresh (cache : Nat)

/-- What comes next: something to be done and replied to, or the end of the operation. The identity
service and the connector are those of the provider at `source`. -/
inductive Request where
  | connect (source : Nat) (settings : Settings)
  | login (connection : Connection) (credentials : Credentials)
  | close (connection : Connection)
  | authenticate (source : Nat) (request : AuthRequest)
  | sleep (wait : Duration)
  | work (lease : Lease)
  | done (outcome : Outcome)

inductive Reply where
  /-- To `connect`, `login` and `close`. -/
  | succeeded
  | failed
  | answered (now : Instant) (answer : Except IdentityError Grant)
  | slept
  | finished
  /-- The connector or the work was broken off. -/
  | unwind

end Desk

/-- The tenant registry of one program, the tenant caches that are registered or that somebody
holds, their pools, and the operations on all of these that have begun and not ended. An operation
runs up to the next thing that only the identity service, the connector or the caller can do and
asks for it; a reply takes it on from there. Operations begun later end earlier, and what they wait
for is a stack. -/
structure Desk where
  yard : Yard := {}
  providers : List Config.Provider := []
  caches : List Desk.Held := []
  registry : List (Desk.Key × Nat) := []
  /-- The cache that each pool of the yard belongs to. -/
  owners : List Nat := []
  /-- How many connections were made. -/
  connected : Nat := 0
  /-- The connection behind each resource of the yard. -/
  connections : List Connection := []
  frames : List Desk.Frame := []
  /-- In which order the pools of a cache are drained. -/
  poolOrder : Arrangement Nat := .asListed
  /-- In which order caches are evicted when all are. -/
  keyOrder : Arrangement Desk.Key := .asListed

namespace Desk

/-- Of several providers of one name the last counts. -/
def provider? (d : Desk) (name : String) : Option (Nat × Config.Provider) :=
  (d.providers.zipIdx.reverse.find? fun (p, _) => p.name == name).map fun (p, n) => (n, p)

def cache? (d : Desk) (n : Nat) : Option TenantCache := d.caches[n]?.map Held.cache

def registered? (d : Desk) (key : Key) : Option Nat := d.registry.lookup key

/-- Somebody else holds the cache as well. -/
def isShared (d : Desk) (n : Nat) : Bool := (d.caches[n]?.map fun h => h.holders != 1).getD false

/-- The cache that a pool belongs to. -/
def owner? (d : Desk) (pool : Nat) : Option TenantCache := d.owners[pool]?.bind d.cache?

def push (d : Desk) (frame : Frame) : Desk := { d with frames := frame :: d.frames }

def note (d : Desk) (notice : Notice) : Desk := { d with yard := d.yard.note notice }

def count (d : Desk) (c : Counter) : Desk :=
  { d with yard := { d.yard with metrics := d.yard.metrics.count c } }

def setCache (d : Desk) (n : Nat) (c : TenantCache) : Desk :=
  { d with caches := d.caches.modify n fun h => { h with cache := c } }

def hold (d : Desk) (n : Nat) : Desk :=
  { d with caches := d.caches.modify n fun h => { h with holders := h.holders + 1 } }

/-- One holder less. -/
def letGo (d : Desk) (n : Nat) : Desk :=
  { d with caches := d.caches.modify n fun h => { h with holders := h.holders - 1 } }

/-- Adds a cache with one holder and tells its number. -/
def add (d : Desk) (c : TenantCache) : Desk × Nat :=
  ({ d with caches := d.caches ++ [⟨c, 1⟩] }, d.caches.length)

/-- Writes down how an authentication ended. -/
def record (d : Desk) (version : IdentityVersion) (result : Except CatalogError Snapshot) : Desk :=
  (Catalog.notices result).foldl note (d.count (.catalogAuth version (Catalog.outcome result)))

/-- Makes a pool for each region of the snapshot. -/
def openTenant (d : Desk) (n : Nat) (c : TenantCache) (catalog : Catalog) (bounds : PoolBounds)
    (s : Snapshot) (project : Project) : Desk :=
  let regions := s.regions
  let first := d.yard.pools.length
  let made := regions.map (c.newPool bounds project.name)
  let d := { d with
    yard := made.foldl Yard.addPool d.yard
    owners := d.owners ++ regions.map fun _ => n }
  d.setCache n { c with
    opened := some ⟨project, catalog.publish s, regions.zip (List.range' first regions.length)⟩ }

/-- Passes on what the yard asks for. -/
def ask (d : Desk) : Yard.Reaction → Option (Desk × Request)
  | .allocate pool => do
    let c ← d.owner? pool
    let p ← d.yard.pools[pool]?
    return (d.push (.connecting pool), .connect c.source p.settings)
  | .destroy _ resource => do
    let connection ← d.connections[resource]?
    return (d.push .closing, .close connection)
  | .work lease => some (d.push .working, .work lease)
  | .done _ => none

/-- Drains pools until a connection has to be closed: how many connections were closed up to there,
and then the pools left with what the yard asks for. -/
def drainUntil (y : Yard) (closed : Nat) : List Nat → Yard × Nat × Option (List Nat × Yard.Reaction)
  | [] => (y, closed, none)
  | pool :: rest =>
    match y.call (.drain pool) with
    | none => drainUntil y closed rest
    | some (y, .done (.counted n)) => drainUntil y (closed + n) rest
    | some (y, reaction) => (y, closed, some (rest, reaction))

/-- The pools of a cache; one that is not open has none. -/
def poolsOf (d : Desk) (n : Nat) : List Nat := ((d.cache? n).map TenantCache.poolNumbers).getD []

/-- The pools of a cache as they are drained. -/
def doomedPools (d : Desk) (n : Nat) : List Nat := d.poolOrder.arrange (d.poolsOf n)

/-- Evicts caches until a connection has to be closed. -/
def sweep (d : Desk) (closed : Nat) : List Key → Option (Desk × Request)
  | [] => some (d, .done (.counted closed))
  | key :: keys =>
    match d.registered? key with
    | none => d.sweep closed keys
    | some n =>
      let (yard, closed, stop) := drainUntil d.yard closed (d.doomedPools n)
      let d := { d with yard, registry := d.registry.filter fun e => !(e.1 == key) }
      match stop with
      | none => (d.letGo n).sweep closed keys
      | some (rest, reaction) => (d.push (.draining rest closed (.sweep n keys))).ask reaction

/-- Goes on after pools were drained. A cache let go here has no connection left to close. -/
def conclude (d : Desk) (closed : Nat) : After → Option (Desk × Request)
  | .answer outcome => some (d, .done outcome)
  | .shutDown n => some (d.letGo n, .done (.counted closed))
  | .evicted n => some (d.letGo n, .done (.flag true))
  | .sweep n keys => (d.letGo n).sweep closed keys

def drainPools (d : Desk) (closed : Nat) (pools : List Nat) (after : After) : Option (Desk × Request) :=
  let (yard, closed, stop) := drainUntil d.yard closed pools
  match stop with
  | none => conclude { d with yard } closed after
  | some (rest, reaction) => (push { d with yard } (.draining rest closed after)).ask reaction

def drainCache (d : Desk) (n : Nat) (after : After) : Option (Desk × Request) :=
  d.drainPools 0 (d.doomedPools n) after

/-- Ends an operation that held a cache. The last holder drains its pools. -/
def leave (d : Desk) (n : Nat) (outcome : Outcome) : Option (Desk × Request) :=
  let d := d.letGo n
  if (d.caches[n]?.map Held.holders) == some 0 then d.drainCache n (.answer outcome)
  else some (d, .done outcome)

def outcomeOf : Yard.Outcome → Outcome
  | .leased lease => .leased lease
  | .refused error => .failed (.pool error)
  | .counted count => .counted count
  | .returned => .nothing
  | .unwound => .unwound

/-- Goes on after a step of the yard. -/
def react (d : Desk) : Yard.Reaction → Option (Desk × Request)
  | .done outcome =>
    match d.frames with
    | .inPool n :: frames => leave { d with frames } n (outcomeOf outcome)
    | .draining rest closed after :: frames =>
      match outcome with
      | .counted count => drainPools { d with frames } (closed + count) rest after
      | _ => none
    | _ => none
  | reaction => d.ask reaction

def callYard (d : Desk) (c : Yard.Call) : Option (Desk × Request) := do
  let (yard, reaction) ← d.yard.call c
  react { d with yard } reaction

def replyYard (d : Desk) (r : Yard.Reply) : Option (Desk × Request) := do
  let (yard, reaction) ← d.yard.reply r
  react { d with yard } reaction

/-- Ends an initialization. Of two caches for one key the one registered first stays, and the other
is let go. -/
def finish (d : Desk) (n : Nat) (result : Except TenantError Unit) :
    Purpose → Option (Desk × Request)
  | .report =>
    match result with
    | .ok _ => some (d, .done (.flag true))
    | .error _ => some (d.note .initializationFailed, .done (.flag false))
  | .explain =>
    match result with
    | .ok _ => some (d, .done .nothing)
    | .error error => some (d, .done (.failed error))
  | .register key =>
    match result with
    | .error error => d.leave n (.failed error)
    | .ok _ =>
      match d.registered? key with
      | some stored => (d.hold stored).leave n (.cached stored)
      | none => some ({ d.hold n with registry := d.registry ++ [(key, n)] }, .done (.cached n))

/-- Goes on after an attempt to authenticate. -/
def judge (d : Desk) (n : Nat) (c : TenantCache) (bounds : PoolBounds) (catalog : Catalog)
    (attempt : UInt32) (purpose : Purpose) (result : Except CatalogError Snapshot) :
    Option (Desk × Request) :=
  let d := d.record catalog.version result
  match c.provider.retry.policy.judge CatalogError.isConnection attempt result with
  | .gaveUp failure => d.finish n (.error (.initFailed failure)) purpose
  | .again wait next => some (d.push (.sleeping n catalog next purpose), .sleep wait)
  | .succeeded s =>
    let project := s.project?.getD ⟨"", c.requested⟩
    (d.openTenant n c catalog bounds s project).finish n (.ok ()) purpose

/-- Makes an attempt to authenticate. -/
def attempt (d : Desk) (n : Nat) (c : TenantCache) (bounds : PoolBounds) (catalog : Catalog)
    (attempt : UInt32) (purpose : Purpose) : Option (Desk × Request) :=
  let d := d.count (.initAttempts c.provider.name)
  match catalog.request? with
  | .error error => d.judge n c bounds catalog attempt purpose (.error error)
  | .ok request =>
    some (d.push (.authenticating n catalog attempt purpose), .authenticate c.source request)

def startInit (d : Desk) (n : Nat) (c : TenantCache) (purpose : Purpose) : Option (Desk × Request) :=
  if c.isOpen then d.finish n (.ok ()) purpose
  else match c.provider.pool.bounds with
    | .error error => d.finish n (.error (.pool error)) purpose
    | .ok bounds =>
      match Catalog.of? c.target with
      | none =>
        (d.note .unsupportedVersion).finish n
          (.error (.unsupportedIdentity c.provider.identityUrl)) purpose
      | some catalog => d.attempt n c bounds catalog 1 purpose

/-- Runs an operation on a pool of the cache while it is held. -/
def onPool (d : Desk) (n : Nat) (pool : Except TenantError Nat) (c : Nat → Yard.Call) :
    Option (Desk × Request) :=
  let d := d.hold n
  match pool with
  | .error error => d.leave n (.failed error)
  | .ok pool => (d.push (.inPool n)).callYard (c pool)

/-- A lease goes back to the pool it came from, whatever region the caller names. -/
def release (d : Desk) (n : Nat) (c : TenantCache) (region : String) (lease : Lease) :
    Option (Desk × Request) :=
  match c.poolOf region with
  | .error error => some (d, .done (.failed error))
  | .ok named =>
    if lease.pool = named then d.onPool n (.ok named) fun pool => .release pool lease
    else if c.poolNumbers.contains lease.pool then
      (d.note .wrongRegion).onPool n (.ok lease.pool) fun pool => .release pool lease
    else some (d.note .unissuedLease, .done .nothing)

def getOrOpen (d : Desk) (key : Key) : Option (Desk × Request) :=
  match d.registered? key with
  | some n => some (d.hold n, .done (.cached n))
  | none =>
    match d.provider? key.1 with
    | none => some (d, .done (.failed (.unknownProvider key.1)))
    | some (source, p) =>
      match p.tenant? key.2 with
      | none => some (d, .done (.failed (.unknownTenant key.1 key.2)))
      | some t =>
        let c := TenantCache.ofConfig source p t
        let (d, n) := d.add c
        d.startInit n c (.register key)

def evict (d : Desk) (key : Key) : Option (Desk × Request) :=
  match d.registered? key with
  | none => some (d, .done (.flag false))
  | some n =>
    drainCache { d with registry := d.registry.filter fun e => !(e.1 == key) } n (.evicted n)

def refresh (d : Desk) (n : Nat) (c : TenantCache) : Option (Desk × Request) :=
  match c.opened with
  | none => some (d, .done (.regions none))
  | some o =>
    match o.catalog.request? with
    | .error error =>
      some (d.record o.catalog.version (.error error), .done (.catalogFailed error))
    | .ok request => some ((d.hold n).push (.refreshing n), .authenticate c.source request)

/-- Ends the authentication of an open tenant's catalog. -/
def refreshed (d : Desk) (n : Nat) (o : OpenTenant) (c : TenantCache) (now : Instant)
    (answer : Except IdentityError Grant) : Option (Desk × Request) :=
  let result := o.catalog.evaluate now answer
  let d := d.record o.catalog.version result
  match result with
  | .error error => d.leave n (.catalogFailed error)
  | .ok s => (d.setCache n (c.publish s)).leave n (.regions (some s.regions))

/-- Begins an operation. The cache has to be there, and for opening it nobody else may hold
it. -/
def call (d : Desk) : Call → Option (Desk × Request)
  | .openCache n => if d.isShared n then none else do d.startInit n (← d.cache? n) .report
  | .tryOpenCache n => if d.isShared n then none else do d.startInit n (← d.cache? n) .explain
  | .getOrOpen key => d.getOrOpen key
  | .get key =>
    match d.registered? key with
    | some n => some (d.hold n, .done (.cached n))
    | none => some (d, .done (.flag false))
  | .evict key => d.evict key
  | .shutDownAll => d.sweep 0 (d.keyOrder.arrange (d.registry.map Prod.fst))
  | .drop n => d.leave n .nothing
  | .reserve n region => do d.onPool n ((← d.cache? n).poolOf region) .reserve
  | .release n region lease => do d.release n (← d.cache? n) region lease
  | .withConnection n url => do d.onPool n ((← d.cache? n).poolServing url) .checkout
  | .trim n region count => do d.onPool n ((← d.cache? n).poolOf region) fun pool => .trim pool count
  | .shrink n region => do d.onPool n ((← d.cache? n).poolOf region) .shrink
  | .drain n region => do d.onPool n ((← d.cache? n).poolOf region) .drain
  | .shutDown n => (d.hold n).drainCache n (.shutDown n)
  | .refresh n => do d.refresh n (← d.cache? n)

/-- Goes on where the operation on top waited for `frame`. -/
def resume (d : Desk) : Frame → Reply → Option (Desk × Request)
  | .connecting pool, .succeeded => do
    let c ← d.owner? pool
    let p ← d.yard.pools[pool]?
    let connection : Connection := ⟨d.connected, c.source, p.settings.region.getD "",
      p.settings.tenantName.getD "", c.credentials.userid⟩
    let d := { d with connected := d.connected + 1 }
    return (d.push (.loggingIn connection), .login connection c.credentials)
  | .connecting _, .failed => (d.note .connectFailed).replyYard .nothing
  | .connecting _, .unwind => d.replyYard .unwind
  | .loggingIn connection, .succeeded =>
    replyYard { d with connections := d.connections ++ [connection] } .made
  | .loggingIn connection, .failed =>
    some ((d.note .loginFailed).push .abandoning, .close connection)
  | .abandoning, .succeeded | .abandoning, .failed => d.replyYard .nothing
  | .closing, .succeeded => d.replyYard .destroyed
  | .closing, .failed => (d.note .closeFailed).replyYard .destroyed
  | .working, .finished => d.replyYard .finished
  | .working, .unwind => d.replyYard .unwind
  | .authenticating n catalog attempt purpose, .answered now answer => do
    let c ← d.cache? n
    let bounds ← c.provider.pool.bounds.toOption
    d.judge n c bounds catalog attempt purpose (catalog.evaluate now answer)
  | .sleeping n catalog attempt purpose, .slept => do
    let c ← d.cache? n
    let bounds ← c.provider.pool.bounds.toOption
    d.attempt n c bounds catalog attempt purpose
  | .refreshing n, .answered now answer => do
    let c ← d.cache? n
    let o ← c.opened
    d.refreshed n o c now answer
  | _, _ => none

/-- Answers the frame on top; the reply has to be one that it waits for. -/
def reply (d : Desk) (r : Reply) : Option (Desk × Request) :=
  match d.frames with
  | [] => none
  | frame :: frames => resume { d with frames } frame r

end Desk
end Tenancy
