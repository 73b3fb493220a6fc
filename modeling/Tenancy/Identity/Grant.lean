import Tenancy.Json.Record
import Tenancy.Timestamp

namespace Tenancy

structure Token where
  id : String
  issuedAt : Timestamp
  expiresAt : Timestamp
  deriving DecidableEq

structure Project where
  id : String
  name : String
  deriving DecidableEq

/-- An endpoint as a document gives it; nothing about it has been checked. -/
structure PublishedEndpoint where
  region : String
  url : String
  interface : Option String := none
  deriving DecidableEq

structure Service where
  type : String
  name : String := ""
  endpoints : List PublishedEndpoint := []
  deriving DecidableEq

/-- What an identity service answers: a token for a project and the services open to it. -/
structure Grant where
  token : Token
  project : Project
  catalog : List Service := []
  deriving DecidableEq

def Timestamp.decode? (j : Json) : Option Timestamp := j.asText?.bind Timestamp.read?

def Token.decode? (j : Json) : Option Token := do
  let r ← Record.read? true ["id", "issued_at", "expires_at"] j
  let id ← r.required? "id" Json.asText?
  let issuedAt ← r.required? "issued_at" Timestamp.decode?
  let expiresAt ← r.required? "expires_at" Timestamp.decode?
  return ⟨id, issuedAt, expiresAt⟩

def Project.decode? (j : Json) : Option Project := do
  let r ← Record.read? true ["id", "name"] j
  let id ← r.required? "id" Json.asText?
  let name ← r.required? "name" Json.asText?
  return ⟨id, name⟩

def PublishedEndpoint.decode? (j : Json) : Option PublishedEndpoint := do
  let r ← Record.read? true ["region", "url", "interface"] j
  let region ← r.required? "region" Json.asText?
  let url ← r.required? "url" Json.asText?
  let interface ← r.optional? "interface" (Json.asOption? Json.asText?) none
  return ⟨region, url, interface⟩

def Service.decode? (j : Json) : Option Service := do
  let r ← Record.read? true ["type", "name", "endpoints"] j
  let type ← r.required? "type" Json.asText?
  let name ← r.optional? "name" Json.asText? ""
  let endpoints ← r.optional? "endpoints" (Json.asList? PublishedEndpoint.decode?) []
  return ⟨type, name, endpoints⟩

def Grant.decode? (j : Json) : Option Grant := do
  let r ← Record.read? true ["token", "project", "catalog"] j
  let token ← r.required? "token" Token.decode?
  let project ← r.required? "project" Project.decode?
  let catalog ← r.optional? "catalog" (Json.asList? Service.decode?) []
  return ⟨token, project, catalog⟩

def Token.encode (t : Token) : Json :=
  .obj [("id", .str t.id), ("issued_at", .str t.issuedAt.write), ("expires_at", .str t.expiresAt.write)]

def Project.encode (p : Project) : Json := .obj [("id", .str p.id), ("name", .str p.name)]

def PublishedEndpoint.encode (e : PublishedEndpoint) : Json :=
  .obj [("region", .str e.region), ("url", .str e.url), ("interface", .text e.interface)]

def Service.encode (s : Service) : Json :=
  .obj [("type", .str s.type), ("name", .str s.name),
    ("endpoints", .arr (s.endpoints.map PublishedEndpoint.encode))]

def Grant.encode (g : Grant) : Json :=
  .obj [("token", g.token.encode), ("project", g.project.encode),
    ("catalog", .arr (g.catalog.map Service.encode))]

end Tenancy
