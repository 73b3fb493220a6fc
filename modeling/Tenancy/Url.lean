import Tenancy.Text.Decimal
import Tenancy.Url.Address

namespace Tenancy

inductive Url.Host where
  | name (text : String)
  | ipv4 (address : Nat)
  | ipv6 (groups : List Nat)
  deriving DecidableEq

/-- What stands between `//` and the path. A password is there only if it is not empty. -/
structure Url.Authority where
  username : String
  password : Option String
  host : Option Url.Host
  port : Option Nat
  deriving DecidableEq

inductive Url.Path where
  /-- A slash stands before every segment. -/
  | rooted (segments : List String)
  /-- Text that does not start with a slash, maybe empty. -/
  | rootless (text : String)
  deriving DecidableEq

/-- An absolute URL. Every part is kept in its encoded form, so that writing a URL only puts its
parts together. -/
structure Url where
  scheme : String
  authority : Option Url.Authority
  path : Url.Path
  query : Option String
  fragment : Option String
  deriving DecidableEq

namespace Url

/-- The port that a scheme means when none is written. -/
def defaultPort? : String → Option Nat
  | "http" | "ws" => some 80
  | "https" | "wss" => some 443
  | "ftp" => some 21
  | _ => none

/-- Schemes with rules of their own for slashes, hosts and ports. -/
def isSpecial (scheme : String) : Bool := scheme == "file" || (defaultPort? scheme).isSome

def Host.display : Host → String
  | .name text => text
  | .ipv4 address => Ipv4.display address
  | .ipv6 groups => "[" ++ Ipv6.display groups ++ "]"

def Path.display : Path → String
  | .rooted segments => String.join (segments.map ("/" ++ ·))
  | .rootless text => text

def Authority.display (a : Authority) : String :=
  let password := (a.password.map (":" ++ ·)).getD ""
  let user := if a.username.isEmpty && a.password.isNone then "" else a.username ++ password ++ "@"
  let port := (a.port.map fun p => ":" ++ toString p).getD ""
  user ++ (a.host.map Host.display).getD "" ++ port

/-- Without `//`, a path that starts with two slashes gets a dot in front of it, or its first
segment would read back as a host. -/
def display (u : Url) : String :=
  let path := match u.authority, u.path with
    | none, .rooted ("" :: segment :: segments) => "/." ++ (Path.rooted ("" :: segment :: segments)).display
    | _, path => path.display
  u.scheme ++ ":" ++ (u.authority.map fun a => "//" ++ a.display).getD "" ++ path ++
    (u.query.map ("?" ++ ·)).getD "" ++ (u.fragment.map ("#" ++ ·)).getD ""

def host? (u : Url) : Option Host := u.authority.bind (·.host)

/-- The port written, or the one the scheme means. -/
def port? (u : Url) : Option Nat := (u.authority.bind (·.port)) <|> defaultPort? u.scheme

def segments? (u : Url) : Option (List String) :=
  match u.path with
  | .rooted segments => some segments
  | .rootless _ => none

def lowerAscii (s : String) : String := String.ofList (s.toList.map Char.toLower)

/-- Host in small letters and port; a URL without a host has none. -/
def hostPort? (u : Url) : Option (String × Option Nat) :=
  u.host?.map fun host => (lowerAscii host.display, u.port?)

end Url
end Tenancy
