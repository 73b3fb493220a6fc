import Tenancy.Identity.Version

namespace Tenancy

structure Credentials where
  userid : String
  password : String
  deriving DecidableEq

/-- A host that calls go through. -/
structure Proxy where
  host : String
  port : UInt16
  deriving DecidableEq

def Proxy.display (p : Proxy) : String := p.host ++ ":" ++ toString p.port.toNat

/-- How the service is reached. -/
structure AuthOptions where
  proxy : Option Proxy := none
  trustedHosts : List String := []
  deriving DecidableEq

structure AuthRequest where
  version : IdentityVersion
  identityUrl : String
  tenant : String
  domain : Option String
  credentials : Credentials
  options : AuthOptions
  deriving DecidableEq

end Tenancy
