import Tenancy.Catalog
import Tenancy.Config
import Tenancy.Pool

namespace Tenancy

inductive TenantError where
  | notInitialized (label : String)
  | noRoute (url : String)
  | unknownRegion (region : String)
  | unknownProvider (provider : String)
  | unknownTenant (provider tenant : String)
  | unsupportedIdentity (url : String)
  | initFailed (failure : GaveUp CatalogError)
  | pool (error : PoolError)
  deriving DecidableEq

namespace TenantError

def kind : TenantError → FailureKind
  | notInitialized _ | noRoute _ | unknownRegion _ | unknownProvider _ | unknownTenant .. => .noRoute
  | unsupportedIdentity _ => .protocol
  | initFailed failure => failure.error.kind
  | pool error => error.kind

def message : TenantError → String
  | notInitialized label => s!"Tenant '{label}' is not initialized"
  | noRoute url => s!"No region serves '{url}'"
  | unknownRegion region => s!"Tenant has no pool for region '{region}'"
  | unknownProvider provider => s!"Unknown provider '{provider}'"
  | unknownTenant provider tenant => s!"Provider '{provider}' has no tenant '{tenant}'"
  | unsupportedIdentity url => s!"Unsupported identity service version in '{url}'"
  | initFailed failure =>
    s!"Catalog initialization failed after {failure.attempts.toNat} attempt(s): {failure.error.message}"
  | pool error => error.message

end TenantError

/-- What a tenant has once its catalog was authenticated. -/
structure OpenTenant where
  /-- As the first authentication named it. -/
  project : Project
  catalog : Catalog
  /-- The numbers of the pools, by region in increasing order. -/
  pools : List (String × Nat)

/-- What is held for one tenant of one provider: its catalog, and once that was authenticated a pool
for each region that it named then. -/
structure TenantCache where
  /-- Where the provider stands among all. -/
  source : Nat
  provider : Config.Provider
  /-- The name that the tenant was asked for by. -/
  requested : String
  domain : Option String
  credentials : Credentials
  opened : Option OpenTenant := none

namespace TenantCache

def ofConfig (source : Nat) (provider : Config.Provider) (t : Config.Tenant) : TenantCache :=
  { source, provider, requested := t.name, domain := t.domain, credentials := t.credentials }

/-- The name of the project, once that is known. -/
def name (c : TenantCache) : String := (c.opened.map fun o => o.project.name).getD c.requested

def projectId (c : TenantCache) : Option String := c.opened.map fun o => o.project.id

def isOpen (c : TenantCache) : Bool := c.opened.isSome

def label (c : TenantCache) : String := c.provider.name ++ "/" ++ c.name

def target (c : TenantCache) : CatalogTarget :=
  ⟨c.provider.identityUrl, c.requested, c.domain, c.credentials, c.provider.authOptions⟩

/-- Regions with a pool. -/
def regions (c : TenantCache) : List String := (c.opened.map fun o => o.pools.map Prod.fst).getD []

def poolNumbers (c : TenantCache) : List Nat := (c.opened.map fun o => o.pools.map Prod.snd).getD []

/-- What the connector learns about a connection to be made in that region. -/
def poolSettings (c : TenantCache) (project region : String) : Settings :=
  let p := c.provider
  let settings := (((((({} : Settings).set Settings.identityUrlKey p.identityUrl).set
    Settings.tenantNameKey project).set
    Settings.connectorKey p.connector).set
    Settings.retryDelayKey (toString p.retry.delaySeconds.toNat)).set
    Settings.retryLimitKey (toString p.retry.maxAttempts.toNat)).set
    Settings.regionKey region
  if p.trustedHosts.isEmpty then settings
  else settings.set Settings.trustedHostsKey (Settings.writeHosts p.trustedHosts)

/-- The empty pool for a region of the project. -/
def newPool (c : TenantCache) (bounds : PoolBounds) (project region : String) : Pool :=
  { label := c.provider.name ++ "/" ++ project ++ "/" ++ region, bounds,
    settings := c.poolSettings project region }

def requireOpen (c : TenantCache) : Except TenantError OpenTenant :=
  match c.opened with
  | some o => .ok o
  | none => .error (.notInitialized c.label)

/-- The region whose compute endpoint serves the resource of that URL. -/
def regionOf (c : TenantCache) (url : String) : Except TenantError String := do
  let o ← c.requireOpen
  match o.catalog.regionOf url with
  | some region => return region
  | none => throw (.noRoute url)

/-- The number of the pool for a region. -/
def poolOf (c : TenantCache) (region : String) : Except TenantError Nat := do
  let o ← c.requireOpen
  match o.pools.lookup region with
  | some n => return n
  | none => throw (.unknownRegion region)

/-- The number of the pool for the resource of that URL. -/
def poolServing (c : TenantCache) (url : String) : Except TenantError Nat := do
  c.poolOf (← c.regionOf url)

/-- Replaces what the catalog knows. -/
def publish (c : TenantCache) (s : Snapshot) : TenantCache :=
  { c with opened := c.opened.map fun o => { o with catalog := o.catalog.publish s } }

def inspect (c : TenantCache) : String :=
  Text.inspectRecord "TenantCache" [
    ("provider", Text.quoted c.provider.name),
    ("tenant", Text.quoted c.name),
    ("tenant_id", Text.inspectOption (c.projectId.map Text.quoted)),
    ("initialized", Text.inspectBool c.isOpen),
    ("regions", Text.inspectList (c.regions.map Text.quoted))]

end TenantCache

end Tenancy
