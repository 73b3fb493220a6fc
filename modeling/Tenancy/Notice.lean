import Tenancy.LogLevel

namespace Tenancy

/-- The log lines that call for an operator's attention. -/
inductive Notice where
  | noConnectionMade
  | foreignLease
  | notOnLoan
  | unsupportedVersion
  | authenticationFailed
  | initializationFailed
  | connectFailed
  | loginFailed
  | closeFailed
  | wrongRegion
  | unissuedLease
  deriving DecidableEq, Repr

namespace Notice

/-- What keeps a tenant from being served at all is an error, and all else is a warning. -/
def level : Notice → LogLevel
  | unsupportedVersion | initializationFailed => .error
  | _ => .warn

def text : Notice → String
  | noConnectionMade => "Allocator produced no connection"
  | foreignLease => "Released a connection issued by another pool"
  | notOnLoan => "Released a connection that is not on loan"
  | unsupportedVersion => "Unsupported identity service version"
  | authenticationFailed => "Service catalog authentication failed"
  | initializationFailed => "Tenant cache initialization failed"
  | connectFailed => "Failed to create provider connection"
  | loginFailed => "Provider login failed"
  | closeFailed => "Failed to close provider connection"
  | wrongRegion => "Connection released under the wrong region"
  | unissuedLease => "Released a connection this tenant did not issue"

def line (n : Notice) : String := n.level.name ++ " " ++ n.text

end Notice
end Tenancy
