import Tenancy.Failure
import Tenancy.Identity.Static
import Tenancy.Identity.Version
import Tenancy.SortedMap
import Tenancy.Text.Inspect

namespace Tenancy

inductive CatalogError where
  | identity (error : IdentityError)
  | missingDomain (tenant : String)
  | expiresBeforeIssue (expires issued : Timestamp)
  | lifetimeOutOfRange
  | untypedService
  | noRegion (service url : String)
  | badUrl (service url : String) (error : Url.Error)
  deriving DecidableEq

namespace CatalogError

/-- Only a service that was not reached is a matter of the connection. -/
def isConnection : CatalogError → Bool
  | identity (.unreachable _) => true
  | _ => false

def kind (e : CatalogError) : FailureKind := if e.isConnection then .connection else .protocol

def detail : CatalogError → String
  | identity error => error.message
  | missingDomain tenant => s!"v3 authentication for tenant '{tenant}' requires a domain"
  | expiresBeforeIssue expires issued =>
    s!"token expires ({expires.display}) before it was issued ({issued.display})"
  | lifetimeOutOfRange => "token lifetime out of range"
  | untypedService => "service entry without a type"
  | noRegion service url => s!"{service} endpoint {url} has no region"
  | badUrl service url error => s!"{service} endpoint '{url}' is not a URL: {error.message}"

def message (e : CatalogError) : String :=
  (if e.isConnection then "Connection failure: " else "Protocol failure: ") ++ e.detail

def inspect (e : CatalogError) : String :=
  Text.inspectValue (if e.isConnection then "Connection" else "Protocol") [Text.quoted e.detail]

end CatalogError

/-- An endpoint that can be called. -/
structure Endpoint where
  region : String
  url : Url
  deriving DecidableEq

/-- Readings of a clock that only goes forward, in nanoseconds. -/
abbrev Instant := Nat

/-- The clock counts fewer seconds than this. -/
def Instant.limit : Instant := 1 <<< 63 * 1_000_000_000

/-- What the token of a grant is good for, and until when by the local clock. -/
structure Session where
  token : String
  expiresAt : Instant
  project : Project
  deriving DecidableEq

structure OpenService where
  name : String
  endpoints : List Endpoint
  deriving DecidableEq

/-- Before the first authentication there is no session and no service. -/
structure Snapshot where
  session : Option Session := none
  services : SortedMap OpenService := .empty

namespace Snapshot

/-- Version 2 lists public endpoints only; version 3 says of each whether it is. -/
def accepts (version : IdentityVersion) (e : PublishedEndpoint) : Bool :=
  match version with
  | .v2 => true
  | .v3 => (e.interface.map fun i => Url.lowerAscii i == "public").getD false

def readEndpoint (service : String) (e : PublishedEndpoint) : Except CatalogError Endpoint :=
  if e.region.isEmpty then .error (.noRegion service e.url)
  else match Url.read e.url with
    | .ok url => .ok ⟨e.region, url⟩
    | .error error => .error (.badUrl service e.url error)

/-- Adds a service. Of several of one type the last gives the name, and all give endpoints. -/
def addService (version : IdentityVersion) (services : SortedMap OpenService) (s : Service) :
    Except CatalogError (SortedMap OpenService) :=
  if s.type.isEmpty then .error .untypedService
  else do
    let endpoints ← (s.endpoints.filter (accepts version)).mapM (readEndpoint s.type)
    return services.modify s.type fun old =>
      ⟨s.name, ((old.map OpenService.endpoints).getD []) ++ endpoints⟩

/-- How long a token lasts by the clock of the service that issued it. -/
def lifetime (t : Token) : Except CatalogError Nat :=
  let length := t.expiresAt.since t.issuedAt
  if length < 0 then .error (.expiresBeforeIssue t.expiresAt t.issuedAt) else .ok length.toNat

/-- The snapshot of a grant received at the instant `now`. -/
def ofGrant (version : IdentityVersion) (now : Instant) (g : Grant) : Except CatalogError Snapshot := do
  let length ← lifetime g.token
  if Instant.limit ≤ now + length then throw .lifetimeOutOfRange
  let services ← g.catalog.foldlM (addService version) .empty
  return ⟨some ⟨g.token.id, now + length, g.project⟩, services⟩

def project? (s : Snapshot) : Option Project := s.session.map (·.project)

def endpoints (s : Snapshot) (service : String) : List Endpoint :=
  ((s.services.get? service).map OpenService.endpoints).getD []

/-- In increasing order, each once. -/
def regions (s : Snapshot) : List String :=
  let all := s.services.values.flatMap fun service => service.endpoints.map Endpoint.region
  (all.foldl (fun m region => m.insert region ()) (.empty : SortedMap Unit)).keys

/-- A session that is not there counts as expired. -/
def isExpired (s : Snapshot) (now : Instant) : Bool :=
  (s.session.map fun session => decide (session.expiresAt ≤ now)).getD true

/-- Whole seconds until the session expires. -/
def secondsLeft (s : Snapshot) (now : Instant) : Nat :=
  ((s.session.map fun session => session.expiresAt - now).getD 0) / 1_000_000_000

/-- The type of the service that resources belong to. -/
def computeService : String := "compute"

/-- The region of the first endpoint with host and port of the URL. -/
def regionOf (s : Snapshot) (url : Url) : Option String :=
  url.hostPort?.bind fun target =>
    ((s.endpoints computeService).find? fun e => e.url.hostPort? == some target).map Endpoint.region

end Snapshot
end Tenancy
