import Tenancy.Config

namespace Tenancy.Config

/-- What can be wrong with a configuration that could be read. Every problem is reported, provider
by provider and tenant by tenant in the order of the configuration. -/
inductive Problem where
  | emptyProviderName
  | duplicateProvider (provider : String)
  | unsupportedIdentity (provider url : String)
  | badBounds (provider : String) (error : PoolError)
  | noAttempts (provider : String)
  | invalidProxy (provider : String)
  | duplicateTenant (provider tenant : String)
  | incompleteTenant (provider tenant : String)
  | missingDomain (provider tenant : String)
  deriving DecidableEq

namespace Problem

def message : Problem → String
  | emptyProviderName => "provider name must not be empty"
  | duplicateProvider provider => s!"duplicate provider '{provider}'"
  | unsupportedIdentity provider url => s!"provider '{provider}': unsupported identity URL '{url}'"
  | badBounds provider error => s!"provider '{provider}': {error.message}"
  | noAttempts provider => s!"provider '{provider}': retry.max_attempts must be at least 1"
  | invalidProxy provider => s!"provider '{provider}': proxy needs a host and a non-zero port"
  | duplicateTenant provider tenant => s!"provider '{provider}': duplicate tenant '{tenant}'"
  | incompleteTenant provider tenant =>
    s!"provider '{provider}': tenant '{tenant}' needs a name and a userid"
  | missingDomain provider tenant =>
    s!"provider '{provider}': tenant '{tenant}' needs a domain for v3 identity"

def inspect : Problem → String
  | emptyProviderName => "EmptyProviderName"
  | duplicateProvider provider => Text.inspectValue "DuplicateProvider" [Text.quoted provider]
  | unsupportedIdentity provider url =>
    Text.inspectRecord "UnsupportedIdentity" [("provider", Text.quoted provider), ("url", Text.quoted url)]
  | badBounds provider error =>
    Text.inspectRecord "PoolBounds" [("provider", Text.quoted provider), ("source", error.inspect)]
  | noAttempts provider => Text.inspectValue "NoAttempts" [Text.quoted provider]
  | invalidProxy provider => Text.inspectValue "InvalidProxy" [Text.quoted provider]
  | duplicateTenant provider tenant => ofTenant "DuplicateTenant" provider tenant
  | incompleteTenant provider tenant => ofTenant "IncompleteTenant" provider tenant
  | missingDomain provider tenant => ofTenant "MissingDomain" provider tenant
where
  ofTenant (name provider tenant : String) : String :=
    Text.inspectRecord name [("provider", Text.quoted provider), ("tenant", Text.quoted tenant)]

end Problem

def Tenant.hasDomain (t : Tenant) : Bool := (t.domain.map (!·.isEmpty)).getD false

/-- `before` are the names of the tenants before this one. -/
def Tenant.problems (provider : String) (version : Option IdentityVersion) (before : List String)
    (t : Tenant) : List Problem :=
  (if t.name.isEmpty || t.userid.isEmpty then [.incompleteTenant provider t.name] else []) ++
  (if before.contains t.name then [.duplicateTenant provider t.name] else []) ++
  (if version == some .v3 && !t.hasDomain then [.missingDomain provider t.name] else [])

def problemsOfTenants (provider : String) (version : Option IdentityVersion) (before : List String) :
    List Tenant → List Problem
  | [] => []
  | t :: rest =>
    t.problems provider version before ++ problemsOfTenants provider version (t.name :: before) rest

def Proxy.isUsable (p : Proxy) : Bool := !p.host.isEmpty && p.port != 0

/-- Problems that a provider has whatever stands around it. -/
def Provider.problems (p : Provider) : List Problem :=
  (if p.version?.isNone then [.unsupportedIdentity p.name p.identityUrl] else []) ++
  (match p.pool.bounds with
    | .ok _ => []
    | .error error => [.badBounds p.name error]) ++
  (if p.retry.maxAttempts = 0 then [.noAttempts p.name] else []) ++
  (if (p.proxy.map Proxy.isUsable).getD true then [] else [.invalidProxy p.name]) ++
  problemsOfTenants p.name p.version? [] p.tenants

/-- A provider without a name cannot be a duplicate. -/
def nameProblems (before : List String) (name : String) : List Problem :=
  if name.isEmpty then [.emptyProviderName]
  else if before.contains name then [.duplicateProvider name]
  else []

def problemsOfProviders (before : List String) : List Provider → List Problem
  | [] => []
  | p :: rest =>
    nameProblems before p.name ++ p.problems ++ problemsOfProviders (p.name :: before) rest

def problems (c : Config) : List Problem := problemsOfProviders [] c.providers

end Tenancy.Config
