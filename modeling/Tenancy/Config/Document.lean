import Tenancy.Config
import Tenancy.Json.Record

namespace Tenancy.Config

def PoolSize.decode? (exact : Bool) (j : Json) : Option PoolSize := do
  let r ← Record.read? exact ["min_size", "max_size"] j
  let number? := Json.asInt? (-(1 <<< 63 : Nat)) (1 <<< 63 : Nat)
  let minSize ← r.optional? "min_size" number? ({} : PoolSize).minSize
  let maxSize ← r.optional? "max_size" number? ({} : PoolSize).maxSize
  return ⟨minSize, maxSize⟩

def RetrySetting.decode? (exact : Bool) (j : Json) : Option RetrySetting := do
  let r ← Record.read? exact ["delay_secs", "max_attempts"] j
  let seconds ← r.optional? "delay_secs" (fun j => (j.asNat? UInt64.size).map UInt64.ofNat)
    ({} : RetrySetting).delaySeconds
  let attempts ← r.optional? "max_attempts" (fun j => (j.asNat? UInt32.size).map UInt32.ofNat)
    ({} : RetrySetting).maxAttempts
  return ⟨seconds, attempts⟩

def decodeProxy? (exact : Bool) (j : Json) : Option Proxy := do
  let r ← Record.read? exact ["host", "port"] j
  let host ← r.required? "host" Json.asText?
  let port ← r.required? "port" (Json.asNat? UInt16.size)
  return ⟨host, UInt16.ofNat port⟩

def Tenant.decode? (exact : Bool) (j : Json) : Option Tenant := do
  let r ← Record.read? exact ["name", "domain", "userid", "password"] j
  let name ← r.required? "name" Json.asText?
  let domain ← r.optional? "domain" (Json.asOption? Json.asText?) none
  let userid ← r.required? "userid" Json.asText?
  let password ← r.optional? "password" Json.asText? ""
  return ⟨name, domain, userid, password⟩

def Provider.decode? (exact : Bool) (j : Json) : Option Provider := do
  let r ← Record.read? exact ["name", "identity_url", "connector", "pool", "retry", "proxy",
    "trusted_hosts", "tenants"] j
  let name ← r.required? "name" Json.asText?
  let identityUrl ← r.required? "identity_url" Json.asText?
  let connector ← r.optional? "connector" Json.asText? "compute"
  let pool ← r.optional? "pool" (PoolSize.decode? exact) {}
  let retry ← r.optional? "retry" (RetrySetting.decode? exact) {}
  let proxy ← r.optional? "proxy" (Json.asOption? (decodeProxy? exact)) none
  let trustedHosts ← r.optional? "trusted_hosts" (Json.asList? Json.asText?) []
  let tenants ← r.optional? "tenants" (Json.asList? (Tenant.decode? exact)) []
  return ⟨name, identityUrl, connector, pool, retry, proxy, trustedHosts, tenants⟩

def Observability.decode? (exact : Bool) (j : Json) : Option Observability := do
  let r ← Record.read? exact ["log_level", "metrics_enabled", "metrics_address"] j
  let default : Observability := {}
  let logLevel ← r.optional? "log_level" Json.asText? default.logLevel
  let metricsEnabled ← r.optional? "metrics_enabled" Json.asBool? default.metricsEnabled
  let metricsAddress ← r.optional? "metrics_address" Json.asText? default.metricsAddress
  return ⟨logLevel, metricsEnabled, metricsAddress⟩

/-- Everything has a default but the names of providers and tenants, identity URLs, user ids, and
the parts of a proxy. -/
def decode? (exact : Bool) (j : Json) : Option Config := do
  let r ← Record.read? exact ["observability", "providers"] j
  let observability ← r.optional? "observability" (Observability.decode? exact) {}
  let providers ← r.optional? "providers" (Json.asList? (Provider.decode? exact)) []
  return ⟨observability, providers⟩

def PoolSize.encode (p : PoolSize) : Json :=
  .obj [("min_size", .int p.minSize), ("max_size", .int p.maxSize)]

def RetrySetting.encode (r : RetrySetting) : Json :=
  .obj [("delay_secs", .nat r.delaySeconds.toNat), ("max_attempts", .nat r.maxAttempts.toNat)]

def encodeProxy (p : Proxy) : Json := .obj [("host", .str p.host), ("port", .nat p.port.toNat)]

/-- Passwords are read and never written. -/
def Tenant.encode (t : Tenant) : Json :=
  .obj [("name", .str t.name), ("domain", .text t.domain), ("userid", .str t.userid)]

def Provider.encode (p : Provider) : Json :=
  .obj [
    ("name", .str p.name),
    ("identity_url", .str p.identityUrl),
    ("connector", .str p.connector),
    ("pool", p.pool.encode),
    ("retry", p.retry.encode),
    ("proxy", (p.proxy.map encodeProxy).getD .null),
    ("trusted_hosts", .arr (p.trustedHosts.map .str)),
    ("tenants", .arr (p.tenants.map Tenant.encode))]

def Observability.encode (o : Observability) : Json :=
  .obj [("log_level", .str o.logLevel), ("metrics_enabled", .bool o.metricsEnabled),
    ("metrics_address", .str o.metricsAddress)]

def encode (c : Config) : Json :=
  .obj [("observability", c.observability.encode), ("providers", .arr (c.providers.map Provider.encode))]

end Tenancy.Config
