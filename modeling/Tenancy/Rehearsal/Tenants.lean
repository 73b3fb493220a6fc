import Tenancy.Rehearsal.Script
import Tenancy.Tenant.Desk

namespace Tenancy.Rehearsal

/-- What a connector does when it is asked for a connection. -/
inductive Connecting where
  | ok
  | connectError
  /-- There is a connection, and nobody can log in on it. -/
  | loginError
  | panic

inductive TenantOp where
  | create (name provider tenant : String)
  | createFor (name provider tenant : String) (domain : Option String) (credentials : Credentials)
  | openCache (cache : String)
  | tryOpenCache (cache : String)
  | getOrOpen (name : String) (key : Desk.Key)
  | get (name : String) (key : Desk.Key)
  | evict (key : Desk.Key)
  | shutDownAll
  | size
  | provider (name : String)
  | same (a b : String)
  | drop (cache : String)
  | dropLease (lease : String)
  | scriptIdentity (source : Option Nat) (cues : List (Cue IdentityAnswer TenantOp))
  | scriptConnecting (source : Option Nat) (cues : List (Cue Connecting TenantOp))
      (failClose : Option Bool)
  | region (cache url : String)
  | reserve (cache region name : String)
  | release (cache region lease : String)
  | withConnection (cache url : String) (ops : List TenantOp)
  | pool (cache region : String)
  /-- Without a count it makes no sense. -/
  | trim (cache region : String) (count : Option Nat)
  | shrink (cache region : String)
  | drain (cache region : String)
  | shutDown (cache : String)
  | state (cache : String)
  | inspect (cache : String)
  | refresh (cache : String)
  | metrics
  | unknown (cache : String)
  deriving Inhabited

/-- Why an operation makes no sense as it stands in the script. -/
inductive Mistake where
  | noSuchProvider
  | noSuchTenant
  | noSuchCache
  | sharedCache
  | noSuchLease
  | noSuchSource
  | noCount
  | unknownOp

inductive TenantResult where
  | nothing
  | flag (value : Bool)
  | counted (count : Nat)
  | text (text : String)
  | leased (slot : Nat) (connection : Connection)
  | worked (connection : Connection)
  | regions (regions : Option (List String))
  | size (size : Nat)
  | provider (provider : Option Config.Provider)
  | pool (pool : Pool)
  | state (cache : TenantCache)
  | metrics (metrics : Metrics)
  | failed (error : TenantError)
  | catalogFailed (error : CatalogError)
  | crashed
  | mistake (mistake : Mistake)

inductive TenantEvent where
  | connect (settings : Settings)
  | login (connection : Nat) (credentials : Credentials)
  | close (connection : Nat)
  | auth (request : AuthRequest)
  | sleep (wait : Duration)

inductive TenantStep where
  | mk (result : TenantResult) (inner : List TenantStep) (events : List (TenantEvent ⊕ List TenantStep))
    (notices : List Notice)

/-- What has been seen of an operation so far. -/
structure TenantTrace where
  connection : Option Connection := none
  inner : List TenantStep := []
  events : List (TenantEvent ⊕ List TenantStep) := []
  notices : List Notice := []

namespace TenantTrace

def see (t : TenantTrace) (event : TenantEvent) : TenantTrace :=
  { t with events := t.events ++ [.inl event] }

/-- Other people's operations leave a trace only where there were any. -/
def during (t : TenantTrace) (steps : List TenantStep) : TenantTrace :=
  if steps.isEmpty then t else { t with events := t.events ++ [.inr steps] }

/-- Puts a close into its place in the row of closes at the start. -/
def insertClose (n : Nat) : List (TenantEvent ⊕ List TenantStep) → List (TenantEvent ⊕ List TenantStep)
  | .inl (.close m) :: rest =>
    if n ≤ m then .inl (.close n) :: .inl (.close m) :: rest else .inl (.close m) :: insertClose n rest
  | events => .inl (.close n) :: events

/-- Orders every row of closes by number, since nobody can tell in which order pools are drained. -/
def orderCloses : List (TenantEvent ⊕ List TenantStep) → List (TenantEvent ⊕ List TenantStep)
  | [] => []
  | .inl (.close n) :: rest => insertClose n (orderCloses rest)
  | event :: rest => event :: orderCloses rest

end TenantTrace

/-- The scripts of one provider. -/
structure Services where
  identity : List (Cue IdentityAnswer TenantOp) := []
  connecting : List (Cue Connecting TenantOp) := []
  failClose : Bool := false

/-- Every provider has a scripted identity service and a scripted connector; caches and leases are
kept under names. -/
structure DeskStage where
  desk : Desk := {}
  services : List Services := []
  /-- Waits do not show. -/
  silentSleep : Bool := false
  caches : List (String × Nat) := []
  leases : List (String × Lease) := []

namespace DeskStage

/-- The instant of every operation. -/
def now : Instant := 0

def unbind (s : DeskStage) (name : String) : DeskStage :=
  { s with caches := s.caches.filter (·.1 != name) }

def unbindLease (s : DeskStage) (name : String) : DeskStage :=
  { s with leases := s.leases.filter (·.1 != name) }

def bindLease (s : DeskStage) (name : String) (lease : Lease) : DeskStage :=
  { s with leases := (name, lease) :: (s.unbindLease name).leases }

def services? (s : DeskStage) (source : Nat) : Services := s.services[source]?.getD {}

def setServices (s : DeskStage) (source : Nat) (x : Services) : DeskStage :=
  { s with services := s.services.set source x }

/-- Moves the notices of the desk into the trace. -/
def collect (s : DeskStage) (t : TenantTrace) (d : Desk) : DeskStage × TenantTrace :=
  let (notices, yard) := d.yard.takeNotices
  ({ s with desk := { d with yard } }, { t with notices := t.notices ++ notices })

def connection? (s : DeskStage) (lease : Lease) : Option Connection :=
  s.desk.connections[lease.resource]?

def connectReply : Connecting → Desk.Reply
  | .ok | .loginError => .succeeded
  | .connectError => .failed
  | .panic => .unwind

def failsLogin : Connecting → Bool
  | .loginError => true
  | _ => false

/-- In these operations the order of closes can be told. -/
def keepsOrder : TenantOp → Bool
  | .trim .. | .shrink .. => true
  | _ => false

/-- The end of an operation as a result; what it leaves to the caller is dealt with elsewhere. -/
def resultOf (s : DeskStage) (t : TenantTrace) : Desk.Outcome → TenantResult
  | .nothing => (t.connection.map .worked).getD .nothing
  | .flag value => .flag value
  | .counted count => .counted count
  | .cached _ => .flag true
  | .leased lease => ((s.connection? lease).map (.leased lease.slot)).getD .nothing
  | .regions regions => .regions regions
  | .failed error => .failed error
  | .catalogFailed error => .catalogFailed error
  | .unwound => .crashed

abbrev Performed := DeskStage × TenantTrace × TenantResult

mutual

def runAll : Nat → List TenantOp → DeskStage → DeskStage × List TenantStep
  | fuel + 1, op :: ops, s =>
    let (s, step) := run fuel op s
    let (s, steps) := runAll fuel ops s
    (s, step :: steps)
  | _, _, s => (s, [])

def run : Nat → TenantOp → DeskStage → DeskStage × TenantStep
  | 0, _, s => (s, .mk (.mistake .unknownOp) [] [] [])
  | fuel + 1, op, s =>
    let (s, t, result) := perform fuel op s
    let events := if keepsOrder op then t.events else TenantTrace.orderCloses t.events
    (s, .mk result t.inner events t.notices)

def perform : Nat → TenantOp → DeskStage → Performed
  | 0, _, s => (s, {}, .mistake .unknownOp)
  | fuel + 1, op, s =>
    let plain (result : TenantResult) : Performed := (s, {}, result)
    let withCache (name : String) (f : Nat → TenantCache → Performed) : Performed :=
      match s.caches.lookup name with
      | none => plain (.mistake .noSuchCache)
      | some n =>
        match s.desk.cache? n with
        | none => plain (.mistake .noSuchCache)
        | some c => f n c
    let simple (call : Desk.Call) (ops : List TenantOp) : Performed :=
      let (s, t, outcome) := operate fuel call ops s {}
      (s, t, resultOf s t outcome)
    let make (name : String) (c : TenantCache) : Performed :=
      let (desk, n) := s.desk.add c
      let (s, t) := bind fuel name n { s with desk } {}
      (s, t, .nothing)
    let opening (name : String) (call : Nat → Desk.Call) : Performed :=
      withCache name fun n _ =>
        if s.desk.isShared n then plain (.mistake .sharedCache)
        else
          let (s, t, outcome) := operate fuel (call n) [] (s.unbind name) {}
          let (s, t) := bind fuel name n s t
          (s, t, resultOf s t outcome)
    match op with
    | .create name provider tenant =>
      match s.desk.provider? provider with
      | none => plain (.mistake .noSuchProvider)
      | some (source, p) =>
        match p.tenant? tenant with
        | none => plain (.mistake .noSuchTenant)
        | some t => make name (.ofConfig source p t)
    | .createFor name provider tenant domain credentials =>
      match s.desk.provider? provider with
      | none => plain (.mistake .noSuchProvider)
      | some (source, p) =>
        make name { source, provider := p, requested := tenant, domain, credentials }
    | .openCache name => opening name .openCache
    | .tryOpenCache name => opening name .tryOpenCache
    | .getOrOpen name key =>
      let (s, t, outcome) := operate fuel (.getOrOpen key) [] s {}
      match outcome with
      | .cached n =>
        let (s, t) := bind fuel name n s t
        (s, t, .text (((s.desk.cache? n).map TenantCache.name).getD ""))
      | outcome => (s, t, resultOf s t outcome)
    | .get name key =>
      let (s, t, outcome) := operate fuel (.get key) [] s {}
      match outcome with
      | .cached n =>
        let (s, t) := bind fuel name n s t
        (s, t, .flag true)
      | outcome => (s, t, resultOf s t outcome)
    | .evict key => simple (.evict key) []
    | .shutDownAll => simple .shutDownAll []
    | .size => plain (.size s.desk.registry.length)
    | .provider name => plain (.provider ((s.desk.provider? name).map Prod.snd))
    | .same a b =>
      match s.caches.lookup a, s.caches.lookup b with
      | some n, some m => plain (.flag (n == m))
      | _, _ => plain (.mistake .noSuchCache)
    | .drop name =>
      withCache name fun n _ =>
        let (s, t, _) := operate fuel (.drop n) [] (s.unbind name) {}
        (s, t, .nothing)
    | .dropLease name =>
      if (s.leases.lookup name).isSome then (s.unbindLease name, {}, .nothing)
      else plain (.mistake .noSuchLease)
    | .scriptIdentity source cues =>
      match source.bind fun n => s.services[n]?.map (n, ·) with
      | none => plain (.mistake .noSuchSource)
      | some (n, x) => (s.setServices n { x with identity := cues }, {}, .nothing)
    | .scriptConnecting source cues failClose =>
      match source.bind fun n => s.services[n]?.map (n, ·) with
      | none => plain (.mistake .noSuchSource)
      | some (n, x) =>
        let x := { x with
          connecting := x.connecting ++ cues, failClose := failClose.getD x.failClose }
        (s.setServices n x, {}, .nothing)
    | .region name url =>
      withCache name fun _ c =>
        match c.regionOf url with
        | .ok region => plain (.text region)
        | .error error => plain (.failed error)
    | .reserve name region as =>
      withCache name fun n _ =>
        let (s, t, outcome) := operate fuel (.reserve n region) [] s {}
        match outcome with
        | .leased lease => (s.bindLease as lease, t, resultOf s t outcome)
        | outcome => (s, t, resultOf s t outcome)
    | .release name region lease =>
      withCache name fun n _ =>
        match s.leases.lookup lease with
        | none => plain (.mistake .noSuchLease)
        | some l =>
          let (s, t, outcome) := operate fuel (.release n region l) [] (s.unbindLease lease) {}
          (s, t, resultOf s t outcome)
    | .withConnection name url ops => withCache name fun n _ => simple (.withConnection n url) ops
    | .pool name region =>
      withCache name fun _ c =>
        match c.poolOf region with
        | .ok pool => plain ((s.desk.yard.pools[pool]?.map .pool).getD .nothing)
        | .error error => plain (.failed error)
    | .trim name region count =>
      withCache name fun n _ =>
        match count with
        | some count => simple (.trim n region count) []
        | none => plain (.mistake .noCount)
    | .shrink name region => withCache name fun n _ => simple (.shrink n region) []
    | .drain name region => withCache name fun n _ => simple (.drain n region) []
    | .shutDown name => withCache name fun n _ => simple (.shutDown n) []
    | .state name => withCache name fun _ c => plain (.state c)
    | .inspect name => withCache name fun _ c => plain (.text c.inspect)
    | .refresh name => withCache name fun n _ => simple (.refresh n) []
    | .metrics => plain (.metrics s.desk.yard.metrics)
    | .unknown name => withCache name fun _ _ => plain (.mistake .unknownOp)

/-- Lets a name stand for a cache. What it stood for before is dropped. -/
def bind : Nat → String → Nat → DeskStage → TenantTrace → DeskStage × TenantTrace
  | 0, _, _, s, t => (s, t)
  | fuel + 1, name, n, s, t =>
    let bound := { s with caches := (name, n) :: (s.unbind name).caches }
    match s.caches.lookup name with
    | none => (bound, t)
    | some old =>
      let (s, t, _) := operate fuel (.drop old) [] bound t
      (s, t)

/-- Runs one operation of the desk; `ops` is the caller's work on a connection. -/
def operate : Nat → Desk.Call → List TenantOp → DeskStage → TenantTrace →
    DeskStage × TenantTrace × Desk.Outcome
  | 0, _, _, s, t => (s, t, .unwound)
  | fuel + 1, call, ops, s, t =>
    match s.desk.call call with
    | none => (s, t, .unwound)
    | some (desk, request) =>
      let (s, t) := s.collect t desk
      attend fuel ops false s t request

/-- Does what the desk asks for until the operation has ended. -/
def attend : Nat → List TenantOp → Bool → DeskStage → TenantTrace → Desk.Request →
    DeskStage × TenantTrace × Desk.Outcome
  | 0, _, _, s, t, _ => (s, t, .unwound)
  | fuel + 1, ops, refuseLogin, s, t, request =>
    let goOn (s : DeskStage) (t : TenantTrace) (refuseLogin : Bool) (reply : Desk.Reply) :=
      match s.desk.reply reply with
      | none => (s, t, .unwound)
      | some (desk, request) =>
        let (s, t) := s.collect t desk
        attend fuel ops refuseLogin s t request
    match request with
    | .done outcome => (s, t, outcome)
    | .connect source settings =>
      let x := s.services? source
      let (cue, connecting) := Cue.take .ok x.connecting
      let (s, steps) := runAll fuel cue.during (s.setServices source { x with connecting })
      goOn s ((t.see (.connect settings)).during steps) (failsLogin cue.answer)
        (connectReply cue.answer)
    | .login connection credentials =>
      goOn s (t.see (.login connection.number credentials)) false
        (if refuseLogin then .failed else .succeeded)
    | .close connection =>
      goOn s (t.see (.close connection.number)) false
        (if (s.services? connection.source).failClose then .failed else .succeeded)
    | .authenticate source request =>
      let x := s.services? source
      let (cue, identity) := Cue.takeKeepingLast .unscripted x.identity
      let (s, steps) := runAll fuel cue.during (s.setServices source { x with identity })
      goOn s ((t.see (.auth request)).during steps) false
        (.answered now (cue.answer.answer request.tenant))
    | .sleep wait => goOn s (if s.silentSleep then t else t.see (.sleep wait)) false .slept
    | .work lease =>
      let (s, inner) := runAll fuel ops s
      goOn s { t with connection := s.connection? lease, inner } false .finished

end

end DeskStage

def rehearseTenants (providers : List Config.Provider) (services : List Services)
    (silentSleep : Bool) (ops : List TenantOp) : List TenantStep :=
  (DeskStage.runAll stamina ops { desk := { providers }, services, silentSleep }).2

end Tenancy.Rehearsal
