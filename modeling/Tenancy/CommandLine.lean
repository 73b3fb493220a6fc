import Tenancy.Catalog
import Tenancy.CommandLine.Help
import Tenancy.Config.Load
import Tenancy.Json.Printer
import Tenancy.Url.Address

namespace Tenancy.CommandLine

/-- What the program logs. -/
inductive Event where
  | authenticated (version : IdentityVersion) (tenant project : String) (regions services : Nat)
  | authenticationFailed (version : IdentityVersion) (tenant url : String) (error : CatalogError)
  | unsupportedVersion (url : String)
  | unreadableUrl (url : String) (error : Url.Error)
  | exporterListening
  | badMetricsAddress (address : String)
  deriving DecidableEq

def Event.level : Event → LogLevel
  | authenticated .. | exporterListening => .info
  | unreadableUrl .. => .debug
  | badMetricsAddress _ => .error
  | authenticationFailed .. => Notice.authenticationFailed.level
  | unsupportedVersion _ => Notice.unsupportedVersion.level

def Event.text : Event → String
  | authenticated .. => "Service catalog authenticated"
  | authenticationFailed .. => Notice.authenticationFailed.text
  | unsupportedVersion _ => Notice.unsupportedVersion.text
  | unreadableUrl .. => "Unparseable resource URL"
  | exporterListening => "Metrics exporter listening"
  | badMetricsAddress _ => "Failed to parse metrics address"

/-- The values that are logged with it. The address that the exporter is at, which the system
tells, is left out. -/
def Event.fields : Event → List (String × String)
  | authenticated version tenant project regions services =>
    [("version", version.name), ("tenant", tenant), ("project_id", Text.quoted project),
      ("regions", toString regions), ("services", toString services)]
  | authenticationFailed version tenant url error =>
    [("version", version.name), ("tenant", tenant), ("identity_url", url), ("error", error.message)]
  | unsupportedVersion url => [("identity_url", url)]
  | unreadableUrl url error => [("url", url), ("error", error.message)]
  | exporterListening => []
  | badMetricsAddress address =>
    [("metrics_address", address), ("error", "invalid socket address syntax")]

/-- Without the time, and without the place in the program that it comes from. -/
def Event.line (e : Event) : String :=
  e.level.name ++ " " ++ e.text ++
    String.join (e.fields.map fun (name, value) => " " ++ name ++ "=" ++ value)

/-- What the program prints when all went well. -/
inductive Output where
  | document (document : Json)
  | catalog (catalog : Catalog)
  | region (region : String)

/-- One line or more; `left` tells the seconds until a token expires. -/
def Output.text (o : Output) (left : Snapshot → String) : String :=
  match o with
  | document j => j.pretty 0 ++ "\n"
  | catalog c => c.describe (left c.snapshot) ++ "\n"
  | region r => r ++ "\n"

/-- Why the program failed. -/
inductive Failure where
  | config (error : Config.LoadError)
  | unknownProvider (provider : String)
  | unknownTenant (provider tenant : String)
  | identity (error : IdentityError)
  | unsupportedIdentity (url : String)
  | catalog (error : CatalogError)
  | noRegion (url : String)
  deriving DecidableEq

def Failure.inspect : Failure → String
  | config error => error.inspect
  | unknownProvider provider => Text.quoted s!"unknown provider '{provider}'"
  | unknownTenant provider tenant => Text.quoted s!"provider '{provider}' has no tenant '{tenant}'"
  | identity error => error.inspect
  | unsupportedIdentity url => Text.quoted s!"unsupported identity URL '{url}'"
  | catalog error => error.inspect
  | noRegion url => Text.quoted s!"no region serves '{url}'"

/-- The members in the order of their names. -/
def summaryOf (p : Config.Provider) : Json :=
  let retry (r : Config.RetrySetting) := Json.obj
    [("delay_secs", .nat r.delaySeconds.toNat), ("max_attempts", .nat r.maxAttempts.toNat)]
  let pool (b : PoolBounds) := Json.obj [("max_size", .nat b.maxSize), ("min_size", .nat b.minSize)]
  let tenant (t : Config.Tenant) := Json.obj
    [("domain", .text t.domain), ("name", .str t.name), ("userid", .str t.userid)]
  .obj [
    ("connector", .str p.connector),
    ("identity_url", .str p.identityUrl),
    ("identity_version", .text (p.version?.map IdentityVersion.title)),
    ("name", .str p.name),
    ("pool", (p.pool.bounds.toOption.map pool).getD .null),
    ("proxy", .text (p.proxy.map Proxy.display)),
    ("retry", retry p.retry),
    ("tenants", .arr (p.tenants.map tenant)),
    ("trusted_hosts", .arr (p.trustedHosts.map .str))]

def summary (config : Config) : Json := .obj [("providers", .arr (config.providers.map summaryOf))]

/-- The provider and the tenant that a query names. -/
def select (config : Config) (q : Query) : Except Failure (Config.Provider × Config.Tenant) :=
  match config.provider? q.provider with
  | none => .error (.unknownProvider q.provider)
  | some p =>
    match p.tenant? q.tenant with
    | none => .error (.unknownTenant q.provider q.tenant)
    | some t => .ok (p, t)

/-- The catalog of the tenant before it is authenticated. -/
def catalogOf (p : Config.Provider) (t : Config.Tenant) : Except Failure Catalog :=
  match Catalog.of? ⟨p.identityUrl, t.name, t.domain, t.credentials, p.authOptions⟩ with
  | some c => .ok c
  | none => .error (.unsupportedIdentity p.identityUrl)

/-- How the authentication of a catalog ends that a document answers. -/
def login (now : Instant) (identity : StaticIdentity) (c : Catalog) : Except CatalogError Snapshot := do
  let request ← c.request?
  c.evaluate now (identity.authenticate request.tenant)

/-- What is logged of an authentication that ended like this. -/
def loginEvent (c : Catalog) : Except CatalogError Snapshot → Event
  | .ok s => .authenticated c.version c.target.tenant ((s.project?.map Project.id).getD "")
    s.regions.length s.services.size
  | .error error => .authenticationFailed c.version c.target.tenant c.target.identityUrl error

/-- The authenticated catalog that a query asks for; `file` is the document. -/
def authenticate (now : Instant) (config : Config) (q : Query) (file : FileText) :
    List Event × Except Failure Catalog :=
  let prepared : Except Failure (StaticIdentity × Catalog) := do
    let (p, t) ← select config q
    let identity ← (StaticIdentity.load q.document file).mapError Failure.identity
    let c ← catalogOf p t
    return (identity, c)
  match prepared with
  | .error (.unsupportedIdentity url) =>
    ([.unsupportedVersion url], .error (.unsupportedIdentity url))
  | .error failure => ([], .error failure)
  | .ok (identity, c) =>
    let result := login now identity c
    ([loginEvent c result], (result.map c.publish).mapError .catalog)

/-- Runs a command on a configuration that has been loaded. -/
def perform (now : Instant) (config : Config) (read : String → FileText) :
    Command → List Event × Except Failure Output
  | .check => ([], .ok (.document (summary config)))
  | .catalog q =>
    let (events, result) := authenticate now config q (read q.document)
    (events, result.map .catalog)
  | .resolve q url =>
    let (events, result) := authenticate now config q (read q.document)
    match result with
    | .error failure => (events, .error failure)
    | .ok c =>
      let unreadable := match Url.read url with
        | .ok _ => []
        | .error error => [Event.unreadableUrl url error]
      match c.regionOf url with
      | some region => (events ++ unreadable, .ok (.region region))
      | none => (events ++ unreadable, .error (.noRegion url))

/-- A port is a number below 2^16. -/
def isPort (cs : List Char) : Bool := Text.isNumber cs && Text.value cs < UInt16.size

/-- Splits at the last colon. -/
def splitPort? (cs : List Char) : Option (List Char × List Char) :=
  match cs.reverse.dropWhile (· != ':') with
  | [] => none
  | _ :: host => some (host.reverse, (cs.reverse.takeWhile (· != ':')).reverse)

/-- An address of version 6 may say which link it is on. -/
def isAddress6 (cs : List Char) : Bool :=
  let address := cs.takeWhile (· != '%')
  let link := match cs.dropWhile (· != '%') with
    | [] => true
    | _ :: digits => Text.isNumber digits && Text.value digits < UInt32.size
  (Url.Ipv6.read? address).isSome && link

/-- An address of version 4, or one of version 6 in brackets, and a port. -/
def isSocketAddress (text : String) : Bool :=
  match splitPort? text.toList with
  | none => false
  | some (host, port) =>
    isPort port && match host with
      | '[' :: inner => inner.getLast? == some ']' && isAddress6 inner.dropLast
      | host => (Url.Ipv6.readDotted? host).isSome

/-- What setting up the exporter leads to. -/
def exporterEvents (o : Config.Observability) : List Event :=
  if !o.metricsEnabled then []
  else if isSocketAddress o.metricsAddress then [.exporterListening]
  else [.badMetricsAddress o.metricsAddress]

/-- A run of the program: what it logged, and how it ended. -/
structure Run where
  events : List Event
  result : Except Failure Output

def Run.exitCode (r : Run) : UInt32 :=
  match r.result with
  | .ok _ => 0
  | .error _ => 1

/-- What a run prints, the log first; `left` tells the seconds until a token expires. -/
def Run.output (r : Run) (left : Snapshot → String) : String :=
  String.join (r.events.map fun e => e.line ++ "\n") ++
    match r.result with
    | .ok output => output.text left
    | .error _ => ""

/-- What a run says about its failure. -/
def Run.complaint (r : Run) : String :=
  match r.result with
  | .ok _ => ""
  | .error failure => "Error: " ++ failure.inspect ++ "\n"

/-- Runs a command on a configuration that has been loaded, which says how much is logged. -/
def runLoaded (now : Instant) (read : String → FileText) (config : Config) (command : Command) :
    Run :=
  let (events, result) := perform now config read command
  let logged := (exporterEvents config.observability ++ events).filter fun e =>
    LogLevel.isLogged config.observability.logLevel e.level
  ⟨logged, result⟩

/-- Runs an invocation; `read` gives the files. Nothing is logged before the configuration says how
much shall be. -/
def run (now : Instant) (read : String → FileText) (i : Invocation) : Run :=
  match Config.load (read i.config) with
  | .error error => ⟨[], .error (.config error)⟩
  | .ok config => runLoaded now read config i.command

/-- The paths that an invocation reads. -/
def Invocation.paths (i : Invocation) : List String :=
  match i.command with
  | .check => [i.config]
  | .catalog q | .resolve q _ => [i.config, q.document]

end Tenancy.CommandLine
