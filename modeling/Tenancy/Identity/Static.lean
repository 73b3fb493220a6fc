import Tenancy.Folder
import Tenancy.Identity.Grant
import Tenancy.Json.Reader
import Tenancy.Text.Inspect

namespace Tenancy

inductive IdentityError where
  | unreachable (detail : String)
  | rejected (detail : String)
  /-- The answer could not be read. -/
  | malformed (detail : String)
  deriving DecidableEq

def IdentityError.message : IdentityError → String
  | unreachable detail => s!"identity service unreachable: {detail}"
  | rejected detail => s!"authentication rejected: {detail}"
  | malformed detail => s!"malformed identity response: {detail}"

/-- What a program says that ends with the error. The reason why a document could not be read is
left out. -/
def IdentityError.inspect : IdentityError → String
  | unreachable detail => Text.inspectValue "Unreachable" [Text.quoted detail]
  | rejected detail => Text.inspectValue "Rejected" [Text.quoted detail]
  | malformed _ => "Malformed"

/-- Knows the tenant of one grant. -/
structure StaticIdentity where
  grant : Grant

namespace StaticIdentity

def read? (document : String) : Option StaticIdentity :=
  ((Json.read? document).bind Grant.decode?).map StaticIdentity.mk

/-- The service that stands on the document in a file. -/
def load (path : String) (file : FileText) : Except IdentityError StaticIdentity :=
  match file with
  | .error fault => .error (.unreachable s!"{path}: {fault.message}")
  | .ok text =>
    match read? text with
    | some s => .ok s
    | none => .error (.malformed "unreadable document")

def authenticate (s : StaticIdentity) (tenant : String) : Except IdentityError Grant :=
  if tenant = s.grant.project.name then .ok s.grant
  else .error (.rejected s!"unknown tenant '{tenant}'")

end StaticIdentity
end Tenancy
