import Tenancy.Url.Reader

namespace Tenancy

inductive IdentityVersion where
  /-- Password authentication for one tenant. -/
  | v2
  /-- Authentication within a domain. -/
  | v3
  deriving DecidableEq, Repr

namespace IdentityVersion

def name : IdentityVersion → String
  | v2 => "v2"
  | v3 => "v3"

/-- The name in documents. -/
def title : IdentityVersion → String
  | v2 => "V2"
  | v3 => "V3"

def requiresDomain : IdentityVersion → Bool
  | v2 => false
  | v3 => true

/-- The first of the numbers that stand, with dots between them, behind a `v`. A number of 2^32 or
more names no version, and the segment counts as any other. -/
def tagNumber? (segment : List Char) : Option Nat :=
  match segment with
  | 'v' :: tag | 'V' :: tag =>
    let parts := Text.split (· == '.') tag
    if parts.all Text.isNumber then
      parts.head?.bind fun part => if Text.value part < UInt32.size then some (Text.value part) else none
    else none
  | _ => none

def ofNumber? : Nat → Option IdentityVersion
  | 2 => some v2
  | 3 => some v3
  | _ => none

/-- The first tag decides. -/
def ofSegments? (segments : List String) : Option IdentityVersion :=
  (segments.findSome? fun segment => tagNumber? segment.toList).bind ofNumber?

def ofUrl? (text : String) : Option IdentityVersion :=
  ((Url.read? text).bind Url.segments?).bind ofSegments?

end IdentityVersion
end Tenancy
