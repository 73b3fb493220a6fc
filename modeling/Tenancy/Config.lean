import Tenancy.Identity.Request
import Tenancy.Pool.Bounds
import Tenancy.Retry
import Tenancy.Text.Inspect

namespace Tenancy.Config

/-- Pool bounds as written, which need not make sense. -/
structure PoolSize where
  minSize : Int := 0
  maxSize : Int := 10
  deriving DecidableEq

structure RetrySetting where
  delaySeconds : UInt64 := 5
  maxAttempts : UInt32 := 3
  deriving DecidableEq

structure Tenant where
  name : String
  /-- Version 3 of the identity protocol needs one. -/
  domain : Option String := none
  userid : String
  password : String := ""
  deriving DecidableEq

structure Provider where
  name : String
  /-- The path tells the version. -/
  identityUrl : String
  connector : String := "compute"
  pool : PoolSize := {}
  retry : RetrySetting := {}
  proxy : Option Proxy := none
  /-- Hosts whose certificates are not verified. -/
  trustedHosts : List String := []
  tenants : List Tenant := []
  deriving DecidableEq

structure Observability where
  logLevel : String := "info"
  metricsEnabled : Bool := false
  metricsAddress : String := "127.0.0.1:9090"
  deriving DecidableEq

end Config

/-- Providers of connections, the tenants of each, and what is observed. -/
structure Config where
  observability : Config.Observability := {}
  providers : List Config.Provider := []
  deriving DecidableEq

namespace Config

def PoolSize.bounds (p : PoolSize) : Except PoolError PoolBounds := PoolBounds.of? p.minSize p.maxSize

def RetrySetting.policy (r : RetrySetting) : RetryPolicy := ⟨r.maxAttempts, .ofSeconds r.delaySeconds⟩

def Tenant.credentials (t : Tenant) : Credentials := ⟨t.userid, t.password⟩

def Provider.version? (p : Provider) : Option IdentityVersion := IdentityVersion.ofUrl? p.identityUrl

def Provider.authOptions (p : Provider) : AuthOptions := ⟨p.proxy, p.trustedHosts⟩

/-- The first tenant of that name. -/
def Provider.tenant? (p : Provider) (name : String) : Option Tenant :=
  p.tenants.find? (·.name == name)

/-- The first provider of that name. -/
def provider? (c : Config) (name : String) : Option Provider :=
  c.providers.find? (·.name == name)

end Config

/-- Stands for every password. -/
def redacted : String := "<redacted>"

def Credentials.inspect (c : Credentials) : String :=
  Text.inspectRecord "Credentials"
    [("userid", Text.quoted c.userid), ("password", Text.quoted redacted)]

def Proxy.inspect (p : Proxy) : String :=
  Text.inspectRecord "ProxyConfig" [("host", Text.quoted p.host), ("port", toString p.port.toNat)]

def AuthOptions.inspect (o : AuthOptions) : String :=
  Text.inspectRecord "AuthOptions" [
    ("proxy", Text.inspectOption (o.proxy.map Proxy.inspect)),
    ("trusted_hosts", Text.inspectList (o.trustedHosts.map Text.quoted))]

namespace Config

def Tenant.inspect (t : Tenant) : String :=
  Text.inspectRecord "TenantConfig" [
    ("name", Text.quoted t.name),
    ("domain", Text.inspectOption (t.domain.map Text.quoted)),
    ("userid", Text.quoted t.userid),
    ("password", Text.quoted redacted)]

def PoolSize.inspect (p : PoolSize) : String :=
  Text.inspectRecord "PoolConfig" [("min_size", toString p.minSize), ("max_size", toString p.maxSize)]

def RetrySetting.inspect (r : RetrySetting) : String :=
  Text.inspectRecord "RetryConfig" [
    ("delay_secs", toString r.delaySeconds.toNat),
    ("max_attempts", toString r.maxAttempts.toNat)]

/-- A provider with everything that is set for it. -/
def Provider.inspectAll (p : Provider) : String :=
  Text.inspectRecord "ProviderConfig" [
    ("name", Text.quoted p.name),
    ("identity_url", Text.quoted p.identityUrl),
    ("connector", Text.quoted p.connector),
    ("pool", p.pool.inspect),
    ("retry", p.retry.inspect),
    ("proxy", Text.inspectOption (p.proxy.map Proxy.inspect)),
    ("trusted_hosts", Text.inspectList (p.trustedHosts.map Text.quoted)),
    ("tenants", Text.inspectList (p.tenants.map Tenant.inspect))]

/-- A provider in short. -/
def Provider.inspect (p : Provider) : String :=
  Text.inspectRecord "Provider"
    [("name", Text.quoted p.name), ("identity_url", Text.quoted p.identityUrl)]

def Observability.inspect (o : Observability) : String :=
  Text.inspectRecord "ObservabilityConfig" [
    ("log_level", Text.quoted o.logLevel),
    ("metrics_enabled", Text.inspectBool o.metricsEnabled),
    ("metrics_address", Text.quoted o.metricsAddress)]

def inspect (c : Config) : String :=
  Text.inspectRecord "LifecycleConfig" [
    ("observability", c.observability.inspect),
    ("providers", Text.inspectList (c.providers.map Provider.inspectAll))]

end Config
end Tenancy
