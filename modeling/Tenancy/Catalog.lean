import Tenancy.Catalog.Snapshot
import Tenancy.Config
import Tenancy.Metrics
import Tenancy.Notice

namespace Tenancy

/-- Whose catalog it is. -/
structure CatalogTarget where
  identityUrl : String
  tenant : String
  domain : Option String
  credentials : Credentials
  options : AuthOptions

/-- The view one tenant has of its identity service. An authentication replaces the whole snapshot
or leaves it as it is. -/
structure Catalog where
  version : IdentityVersion
  target : CatalogTarget
  snapshot : Snapshot := {}

def CatalogTarget.inspect (t : CatalogTarget) : String :=
  Text.inspectRecord "CatalogTarget" [
    ("identity_url", Text.quoted t.identityUrl),
    ("tenant_name", Text.quoted t.tenant),
    ("domain", Text.inspectOption (t.domain.map Text.quoted)),
    ("credentials", t.credentials.inspect),
    ("options", t.options.inspect)]

namespace Catalog

/-- The catalog for the version that the identity URL asks for. -/
def of? (target : CatalogTarget) : Option Catalog :=
  (IdentityVersion.ofUrl? target.identityUrl).map fun version => ⟨version, target, {}⟩

def domain? (c : Catalog) : Except CatalogError (Option String) :=
  if c.version.requiresDomain then
    match c.target.domain with
    | some domain => if domain.isEmpty then .error (.missingDomain c.target.tenant) else .ok (some domain)
    | none => .error (.missingDomain c.target.tenant)
  else .ok none

/-- What the identity service is to be asked, if it can be asked at all. -/
def request? (c : Catalog) : Except CatalogError AuthRequest :=
  c.domain?.map fun domain =>
    ⟨c.version, c.target.identityUrl, c.target.tenant, domain, c.target.credentials, c.target.options⟩

/-- The snapshot that an answer leads to. -/
def evaluate (c : Catalog) (now : Instant) : Except IdentityError Grant → Except CatalogError Snapshot
  | .error error => .error (.identity error)
  | .ok grant => Snapshot.ofGrant c.version now grant

def publish (c : Catalog) (s : Snapshot) : Catalog := { c with snapshot := s }

/-- The counter of an authentication that ended like this. -/
def outcome : Except CatalogError Snapshot → AuthOutcome
  | .ok _ => .success
  | .error error => if error.isConnection then .connection else .protocol

/-- What operators learn from an authentication that ended like this. -/
def notices : Except CatalogError Snapshot → List Notice
  | .ok _ => []
  | .error _ => [.authenticationFailed]

def isAuthenticated (c : Catalog) : Bool := c.snapshot.session.isSome

/-- The region that serves the resource of that URL. -/
def regionOf (c : Catalog) (resource : String) : Option String :=
  (Url.read? resource).bind c.snapshot.regionOf

/-- One line about the catalog; `left` tells the seconds until the token expires. -/
def describe (c : Catalog) (left : String) : String :=
  let id := (c.snapshot.project?.map fun p => s!" ({p.id})").getD ""
  let front := s!"{c.version.name} catalog for tenant '{c.target.tenant}'" ++ id
  if c.isAuthenticated then
    let services := c.snapshot.services.entries.map fun (type, service) =>
      s!"{type}({service.endpoints.length})"
    let listed := if services.isEmpty then "" else " " ++ ", ".intercalate services
    front ++ ": regions [" ++ ", ".intercalate c.snapshot.regions ++ "]; services" ++ listed ++
      "; token valid for " ++ left ++ "s"
  else front ++ ": not authenticated"

def display (c : Catalog) (now : Instant) : String := c.describe (toString (c.snapshot.secondsLeft now))

def inspect (c : Catalog) : String :=
  Text.inspectRecord "ServiceCatalog" [
    ("version", c.version.title),
    ("identity_url", Text.quoted c.target.identityUrl),
    ("tenant", Text.quoted c.target.tenant),
    ("regions", Text.inspectList (c.snapshot.regions.map Text.quoted))]

end Catalog
end Tenancy
