import Tenancy.Catalog
import Tenancy.Rehearsal.Script

namespace Tenancy.Rehearsal

inductive CatalogOp where
  | init
  | region (url : String)
  | endpoints (service : String)
  | hasService (service : String)
  | regions
  | state
  | summary
  | inspect
  | snapshot
  | hold (name : String)
  | held (name : String)
  | script (cues : List (Cue IdentityAnswer CatalogOp))
  | metrics
  | unknown
  deriving Inhabited

inductive CatalogResult where
  | ready (seconds : Nat) (expired : Bool)
  | failed (error : CatalogError)
  | region (region : Option String)
  | endpoints (endpoints : List Endpoint)
  | flag (value : Bool)
  | regions (regions : List String)
  | state (catalog : Catalog)
  | text (text : String)
  | snapshot (snapshot : Snapshot)
  | nothing
  | metrics (metrics : Metrics)
  | noSuchSnapshot
  | unknownOp

inductive CatalogStep where
  | mk (result : CatalogResult) (events : List (AuthRequest ⊕ List CatalogStep)) (notices : List Notice)

structure CatalogStage where
  catalog : Catalog
  cues : List (Cue IdentityAnswer CatalogOp)
  held : List (String × Snapshot) := []
  metrics : Metrics := {}

namespace CatalogStage

/-- The instant of every operation. -/
def now : Instant := 0

def plain (s : CatalogStage) (result : CatalogResult) : CatalogStage × CatalogStep :=
  (s, .mk result [] [])

/-- Ends an authentication. -/
def conclude (s : CatalogStage) (answer : Except CatalogError Snapshot)
    (events : List (AuthRequest ⊕ List CatalogStep)) : CatalogStage × CatalogStep :=
  let metrics := s.metrics.count (.catalogAuth s.catalog.version (Catalog.outcome answer))
  match answer with
  | .error error => ({ s with metrics }, .mk (.failed error) events (Catalog.notices answer))
  | .ok snapshot =>
    ({ s with metrics, catalog := s.catalog.publish snapshot },
      .mk (.ready (snapshot.secondsLeft now) (snapshot.isExpired now)) events [])

mutual

def runAll : Nat → List CatalogOp → CatalogStage → CatalogStage × List CatalogStep
  | fuel + 1, op :: ops, s =>
    let (s, step) := run fuel op s
    let (s, steps) := runAll fuel ops s
    (s, step :: steps)
  | _, _, s => (s, [])

def run : Nat → CatalogOp → CatalogStage → CatalogStage × CatalogStep
  | fuel, op, s =>
    match op with
    | .init =>
      match s.catalog.request? with
      | .error error => s.conclude (.error error) []
      | .ok request =>
        let (cue, cues) := Cue.takeKeepingLast .unscripted s.cues
        match fuel, cue.during with
        | fuel + 1, op :: ops =>
          let (s, steps) := runAll fuel (op :: ops) { s with cues }
          s.conclude (s.catalog.evaluate now (cue.answer.answer request.tenant))
            [.inl request, .inr steps]
        | _, _ =>
          conclude { s with cues } (s.catalog.evaluate now (cue.answer.answer request.tenant))
            [.inl request]
    | .region url => s.plain (.region (s.catalog.regionOf url))
    | .endpoints service => s.plain (.endpoints (s.catalog.snapshot.endpoints service))
    | .hasService service => s.plain (.flag (s.catalog.snapshot.services.contains service))
    | .regions => s.plain (.regions s.catalog.snapshot.regions)
    | .state => s.plain (.state s.catalog)
    | .summary => s.plain (.text (s.catalog.describe "N"))
    | .inspect => s.plain (.text s.catalog.inspect)
    | .snapshot => s.plain (.snapshot s.catalog.snapshot)
    | .hold name => plain { s with held := (name, s.catalog.snapshot) :: s.held } .nothing
    | .held name =>
      match s.held.lookup name with
      | some snapshot => s.plain (.snapshot snapshot)
      | none => s.plain .noSuchSnapshot
    | .script cues => plain { s with cues } .nothing
    | .metrics => s.plain (.metrics s.metrics)
    | .unknown => s.plain .unknownOp

end

end CatalogStage

def rehearseCatalog (catalog : Catalog) (cues : List (Cue IdentityAnswer CatalogOp))
    (ops : List CatalogOp) : List CatalogStep :=
  (CatalogStage.runAll stamina ops { catalog, cues }).2

end Tenancy.Rehearsal
