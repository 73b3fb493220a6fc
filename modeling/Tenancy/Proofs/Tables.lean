import Tenancy.Proofs.Catalog
import Tenancy.Proofs.Snapshot

namespace Tenancy

/-- What there is to read in a snapshot. -/
structure Tables where
  /-- The token, and until when it is good. -/
  token : Option (String × Instant) := none
  projectId : Option String := none
  projectName : Option String := none
  names : SortedMap String := .empty
  endpoints : SortedMap (List Endpoint) := .empty
  regions : SortedMap Unit := .empty

variable {version : IdentityVersion} {now : Instant} {g : Grant} {s : Snapshot} {t : Tables}
  {services services' : SortedMap OpenService} {service : Service} {type region : String}

namespace Snapshot

/-- The regions of all endpoints of those services. -/
def regionsOf (services : SortedMap OpenService) : SortedMap Unit :=
  (services.values.flatMap fun service => service.endpoints.map Endpoint.region).foldl
    (fun m region => m.insert region ()) .empty

def tablesOf (services : SortedMap OpenService) : Tables where
  names := services.map OpenService.name
  endpoints := services.map OpenService.endpoints
  regions := regionsOf services

def tables (s : Snapshot) : Tables :=
  { tablesOf s.services with
    token := s.session.map fun session => (session.token, session.expiresAt)
    projectId := s.project?.map Project.id
    projectName := s.project?.map Project.name }

theorem regions_eq (s : Snapshot) : s.regions = (regionsOf s.services).keys := rfl

theorem mem_keys_regionsOf : region ∈ (regionsOf services).keys ↔
    ∃ type service, services.get? type = some service ∧
      ∃ e ∈ service.endpoints, e.region = region := by
  rw [← regions_eq ⟨none, services⟩, mem_regions]
  constructor
  · rintro ⟨service, hservice, hregion⟩
    obtain ⟨type, htype⟩ := SortedMap.mem_values_iff.mp hservice
    exact ⟨type, service, htype, hregion⟩
  · rintro ⟨type, service, htype, hregion⟩
    exact ⟨service, SortedMap.mem_values_iff.mpr ⟨type, htype⟩, hregion⟩

/-- What is listed after a service got more endpoints was listed before, or it is one of them. -/
theorem endpoint_of_insert {k name : String} {old read : List Endpoint} {found : OpenService}
    {e : Endpoint} (h : ((services.get? type).map OpenService.endpoints).getD [] = old)
    (hk : (services.insert type ⟨name, old ++ read⟩).get? k = some found)
    (he : e ∈ found.endpoints) :
    e ∈ read ∨ ∃ service, services.get? k = some service ∧ e ∈ service.endpoints := by
  rw [SortedMap.get?_insert] at hk
  split at hk
  · rename_i hsame
    cases hk
    obtain hold | hread := List.mem_append.mp he
    · rw [← h, ← hsame] at hold
      cases hget : services.get? k with
      | none => simp [hget] at hold
      | some service =>
        rw [hget] at hold
        exact .inr ⟨service, rfl, hold⟩
    · exact .inl hread
  · exact .inr ⟨found, hk, he⟩

/-- More endpoints of one service bring their regions. -/
theorem regionsOf_insert {name : String} {old read : List Endpoint}
    (h : ((services.get? type).map OpenService.endpoints).getD [] = old) :
    regionsOf (services.insert type ⟨name, old ++ read⟩) =
      (read.map Endpoint.region).foldl (fun m region => m.insert region ())
        (regionsOf services) := by
  refine SortedMap.ext_keys fun region => ?_
  rw [SortedMap.mem_keys_foldl_insert, mem_keys_regionsOf, mem_keys_regionsOf, List.mem_map]
  constructor
  · rintro ⟨k, found, hk, e, he, hregion⟩
    obtain hread | ⟨service, hservice, he⟩ := endpoint_of_insert h hk he
    · exact .inl ⟨e, hread, hregion⟩
    · exact .inr ⟨k, service, hservice, e, he, hregion⟩
  · rintro (⟨e, he, hregion⟩ | ⟨k, service, hk, e, he, hregion⟩)
    · exact ⟨type, _, SortedMap.get?_insert_self, e, List.mem_append_right old he, hregion⟩
    · by_cases hsame : k = type
      · subst hsame
        have hold : e ∈ old := by
          rw [← h, hk]
          exact he
        exact ⟨k, _, SortedMap.get?_insert_self, e, List.mem_append_left read hold, hregion⟩
      · exact ⟨k, service, (SortedMap.get?_insert_ne hsame).trans hk, e, he, hregion⟩

end Snapshot

namespace Tables

def addEndpoint (type : String) (t : Tables) (e : PublishedEndpoint) :
    Except CatalogError Tables := do
  let endpoint ← Snapshot.readEndpoint type e
  return { t with
    endpoints := t.endpoints.modify type fun list => list.getD [] ++ [endpoint]
    regions := t.regions.insert endpoint.region () }

/-- A service has its place among the endpoints before any of them is read, and its name last. -/
def addService (version : IdentityVersion) (t : Tables) (s : Service) :
    Except CatalogError Tables :=
  if s.type.isEmpty then .error .untypedService
  else do
    let placed := { t with endpoints := t.endpoints.modify s.type fun list => list.getD [] }
    let filled ← (s.endpoints.filter (Snapshot.accepts version)).foldlM (addEndpoint s.type) placed
    return { filled with names := filled.names.insert s.type s.name }

/-- The tables of a grant received at the instant `now`. -/
def ofGrant (version : IdentityVersion) (now : Instant) (g : Grant) :
    Except CatalogError Tables := do
  let length ← Snapshot.lifetime g.token
  if Instant.limit ≤ now + length then throw .lifetimeOutOfRange
  let t ← g.catalog.foldlM (addService version) {}
  return { t with
    token := some (g.token.id, now + length)
    projectId := some g.project.id
    projectName := some g.project.name }

/-- Endpoint by endpoint comes to the same as all of them at once. -/
theorem foldlM_addEndpoint {list : List Endpoint} (h : t.endpoints.get? type = some list)
    (es : List PublishedEndpoint) : es.foldlM (addEndpoint type) t =
      (es.mapM (Snapshot.readEndpoint type)).map fun read =>
        { t with
          endpoints := t.endpoints.insert type (list ++ read)
          regions := (read.map Endpoint.region).foldl (fun m region => m.insert region ())
            t.regions } := by
  induction es generalizing t list with
  | nil => simp [Except.map, pure, Except.pure, SortedMap.insert_of_get? h]
  | cons e es ih =>
    rw [List.foldlM_cons, List.mapM_cons, addEndpoint]
    cases Snapshot.readEndpoint type e with
    | error error => rfl
    | ok endpoint =>
      have hnext : (t.endpoints.modify type fun list => list.getD [] ++ [endpoint]).get? type =
          some (list ++ [endpoint]) := by
        rw [SortedMap.modify, h]
        exact SortedMap.get?_insert_self
      have hrest := ih (t := { t with
        endpoints := t.endpoints.modify type fun list => list.getD [] ++ [endpoint]
        regions := t.regions.insert endpoint.region () }) hnext
      refine hrest.trans ?_
      cases es.mapM (Snapshot.readEndpoint type) with
      | error error => rfl
      | ok read => simp [Except.map, pure, Except.pure, bind, Except.bind, SortedMap.modify, h,
          SortedMap.insert_insert]

theorem addService_tablesOf : addService version (Snapshot.tablesOf services) service =
    (Snapshot.addService version services service).map Snapshot.tablesOf := by
  unfold addService Snapshot.addService
  split
  · rfl
  · obtain ⟨old, hold⟩ : ∃ old,
      ((services.get? service.type).map OpenService.endpoints).getD [] = old := ⟨_, rfl⟩
    have hplaced : ((Snapshot.tablesOf services).endpoints.modify service.type
        fun list => list.getD []) =
          (services.map OpenService.endpoints).insert service.type old := by
      rw [SortedMap.modify, Snapshot.tablesOf, SortedMap.get?_map, hold]
    have hfill := foldlM_addEndpoint (t := { Snapshot.tablesOf services with
      endpoints := (services.map OpenService.endpoints).insert service.type old })
      SortedMap.get?_insert_self (service.endpoints.filter (Snapshot.accepts version))
    simp only [hplaced, hfill]
    cases (service.endpoints.filter (Snapshot.accepts version)).mapM
        (Snapshot.readEndpoint service.type) with
    | error error => rfl
    | ok read =>
      simp only [Except.map, bind, Except.bind, pure, Except.pure, Snapshot.tablesOf,
        SortedMap.modify, SortedMap.map_insert, SortedMap.insert_insert, hold,
        Snapshot.regionsOf_insert hold]

/-- The tables filled one beside the other are those of the snapshot, and where there is no
snapshot there is the same error. -/
theorem ofGrant_eq (version : IdentityVersion) (now : Instant) (g : Grant) :
    ofGrant version now g = (Snapshot.ofGrant version now g).map Snapshot.tables := by
  have hservices : g.catalog.foldlM (addService version) {} =
      (g.catalog.foldlM (Snapshot.addService version) .empty).map Snapshot.tablesOf :=
    foldlM_map_of_step (f := Snapshot.tablesOf) (fun _ _ => addService_tablesOf) .empty g.catalog
  unfold ofGrant
  cases hlength : Snapshot.lifetime g.token with
  | error error =>
    simp only [Snapshot.ofGrant, hlength]
    rfl
  | ok length =>
    rw [Snapshot.ofGrant_of_lifetime hlength, hservices]
    simp only [bind, Except.bind]
    split
    · rfl
    · cases g.catalog.foldlM (Snapshot.addService version) .empty <;> rfl

/-- The tables agree about what there is, and nothing in them is nameless. -/
structure Coherent (t : Tables) : Prop where
  /-- The token, the id and the name of the project are there together. -/
  session : (t.token.isSome ∧ t.projectId.isSome ∧ t.projectName.isSome) ∨
    (t.token = none ∧ t.projectId = none ∧ t.projectName = none)
  keys : t.names.keys = t.endpoints.keys
  typed : "" ∉ t.endpoints.keys
  regions : ∀ region, region ∈ t.regions.keys ↔
    ∃ type list, t.endpoints.get? type = some list ∧ ∃ e ∈ list, e.region = region
  regional : "" ∉ t.regions.keys

end Tables

namespace Snapshot

/-- No service is without a type, and no endpoint without a region. -/
structure Named (services : SortedMap OpenService) : Prop where
  typed : "" ∉ services.keys
  regional : ∀ type service, services.get? type = some service →
    ∀ e ∈ service.endpoints, e.region ≠ ""

theorem named_empty : Named .empty where
  typed := by simp [SortedMap.keys, SortedMap.empty]
  regional := by
    intro type service h
    cases h

theorem Named.addService (h : Named services)
    (hadd : addService version services service = .ok services') : Named services' := by
  unfold Snapshot.addService at hadd
  split at hadd
  · cases hadd
  · rename_i htype
    obtain ⟨read, hread, hadd⟩ := bind_ok_iff.mp hadd
    cases hadd
    refine ⟨fun hempty => ?_, fun type found hfound e he => ?_⟩
    · obtain hempty | hempty := SortedMap.mem_keys_insert.mp hempty
      · rw [← hempty] at htype
        exact htype rfl
      · exact h.typed hempty
    · obtain hnew | ⟨old, hold, he⟩ := endpoint_of_insert rfl hfound he
      · obtain ⟨published, -, hok⟩ := exists_of_mapM_ok hread hnew
        obtain ⟨hregion, hne⟩ := readEndpoint_ok hok
        rwa [hregion]
      · exact h.regional type old hold e he

theorem named_ofGrant (h : ofGrant version now g = .ok s) : Named s.services := by
  obtain ⟨length, services, -, -, hservices, rfl⟩ := ofGrant_ok_iff.mp h
  exact foldlM_ok_invariant named_empty (fun _ _ _ => Named.addService) hservices

theorem Named.coherent (h : Named s.services) : s.tables.Coherent where
  session := by
    cases hs : s.session <;> simp [tables, project?, hs]
  keys := (SortedMap.keys_map _ _).trans (SortedMap.keys_map _ _).symm
  typed := by
    have hkeys : s.tables.endpoints.keys = s.services.keys := SortedMap.keys_map _ _
    rw [hkeys]
    exact h.typed
  regions region := by
    have hget (type : String) : s.tables.endpoints.get? type =
        (s.services.get? type).map OpenService.endpoints := SortedMap.get?_map _ _ type
    have hmem : region ∈ s.tables.regions.keys ↔ _ := mem_keys_regionsOf
    simp only [hmem, hget, Option.map_eq_some_iff]
    constructor
    · rintro ⟨type, service, hservice, he⟩
      exact ⟨type, _, ⟨service, hservice, rfl⟩, he⟩
    · rintro ⟨type, _, ⟨service, hservice, rfl⟩, he⟩
      exact ⟨type, service, hservice, he⟩
  regional := by
    intro hempty
    have hmem : "" ∈ s.tables.regions.keys ↔ _ := mem_keys_regionsOf
    obtain ⟨type, service, hservice, e, he, hregion⟩ := hmem.mp hempty
    exact h.regional type service hservice e he hregion

end Snapshot
end Tenancy
