import Tenancy.Proofs.Tables

namespace Tenancy

/-- Everybody may call it. The case of letters does not count. -/
def PublishedEndpoint.isPublic (e : PublishedEndpoint) : Bool :=
  e.interface.any fun interface => Url.lowerAscii interface == "public"

/-- The endpoint that can be called, if the text is a URL. -/
def PublishedEndpoint.toEndpoint (e : PublishedEndpoint) : Except Url.Error Endpoint :=
  (Url.read e.url).map fun url => ⟨e.region, url⟩

namespace IdentityVersion

def offers (version : IdentityVersion) (e : PublishedEndpoint) : Bool :=
  version == .v2 || e.isPublic

/-- The endpoints of all services of that type, in the order of the catalog. -/
def offered (version : IdentityVersion) (catalog : List Service) (type : String) :
    List PublishedEndpoint :=
  (catalog.filter (·.type == type)).flatMap fun service => service.endpoints.filter version.offers

end IdentityVersion

/-- The name of the last service of that type. -/
def Service.nameOf (catalog : List Service) (type : String) : Option String :=
  (catalog.filter (·.type == type)).getLast?.map Service.name

/-- A grant that makes sense when it is received at the instant `now`. Endpoints that are not
offered may be anything. -/
structure Grant.Sensible (g : Grant) (version : IdentityVersion) (now : Instant) : Prop where
  lasts : 0 ≤ g.token.expiresAt.since g.token.issuedAt
  fits : now + (g.token.expiresAt.since g.token.issuedAt).toNat < Instant.limit
  typed : ∀ service ∈ g.catalog, service.type ≠ ""
  placed : ∀ service ∈ g.catalog, ∀ e ∈ service.endpoints, version.offers e = true → e.region ≠ ""
  readable : ∀ service ∈ g.catalog, ∀ e ∈ service.endpoints, version.offers e = true →
    ∃ url, Url.read e.url = .ok url

namespace Snapshot

variable {version : IdentityVersion} {now : Instant} {g : Grant} {s : Snapshot}
  {e : PublishedEndpoint} {endpoint : Endpoint} {services services' : SortedMap OpenService}
  {service : Service}
  {catalog : List Service} {type region : String}

theorem accepts_eq (version : IdentityVersion) : accepts version = version.offers := by
  funext e
  cases version with
  | v2 => rfl
  | v3 =>
    rw [accepts, IdentityVersion.offers, PublishedEndpoint.isPublic]
    cases e.interface <;> rfl

theorem lifetime_ok_iff {t : Token} {length : Nat} : lifetime t = .ok length ↔
    0 ≤ t.expiresAt.since t.issuedAt ∧ length = (t.expiresAt.since t.issuedAt).toNat := by
  simp only [lifetime]
  split
  · rename_i hneg
    simp [Int.not_le.mpr hneg]
  · rename_i hneg
    simp [Int.not_lt.mp hneg, eq_comm]

theorem readEndpoint_ok_iff :
    readEndpoint type e = .ok endpoint ↔ e.region ≠ "" ∧ e.toEndpoint = .ok endpoint := by
  simp only [readEndpoint, PublishedEndpoint.toEndpoint, String.isEmpty_iff]
  split
  · rename_i hempty
    simp [hempty]
  · rename_i hregion
    cases Url.read e.url <;> simp [hregion, Except.map]

theorem exists_readEndpoint_iff : (∃ endpoint, readEndpoint type e = .ok endpoint) ↔
    e.region ≠ "" ∧ ∃ url, Url.read e.url = .ok url := by
  simp only [readEndpoint_ok_iff, exists_and_left, PublishedEndpoint.toEndpoint]
  cases Url.read e.url <;> simp [Except.map]

/-- Whether a service can be added does not depend on what was added before. -/
theorem exists_addService_iff (version : IdentityVersion) (services : SortedMap OpenService)
    (service : Service) : (∃ services', addService version services service = .ok services') ↔
    service.type ≠ "" ∧ ∀ e ∈ service.endpoints, version.offers e = true →
      e.region ≠ "" ∧ ∃ url, Url.read e.url = .ok url := by
  have hread : (∃ read, (service.endpoints.filter version.offers).mapM (readEndpoint service.type) =
      .ok read) ↔ ∀ e ∈ service.endpoints, version.offers e = true →
        e.region ≠ "" ∧ ∃ url, Url.read e.url = .ok url := by
    simp only [exists_mapM_ok_iff, exists_readEndpoint_iff, List.mem_filter, and_imp]
  rw [← hread]
  simp only [addService, String.isEmpty_iff, accepts_eq]
  split
  · rename_i hempty
    simp [hempty]
  · rename_i htype
    constructor
    · rintro ⟨services', h⟩
      obtain ⟨read, hread, -⟩ := bind_ok_iff.mp h
      exact ⟨htype, read, hread⟩
    · rintro ⟨-, read, hread⟩
      exact ⟨_, bind_ok_iff.mpr ⟨read, hread, rfl⟩⟩

theorem exists_ofGrant_iff : (∃ s, ofGrant version now g = .ok s) ↔ g.Sensible version now := by
  have hservices := exists_foldlM_ok_iff (exists_addService_iff version) .empty g.catalog
  constructor
  · rintro ⟨s, h⟩
    obtain ⟨length, services, hlength, hlimit, hfold, -⟩ := ofGrant_ok_iff.mp h
    obtain ⟨hlasts, rfl⟩ := lifetime_ok_iff.mp hlength
    have hall := hservices.mp ⟨services, hfold⟩
    exact ⟨hlasts, hlimit, fun service hs => (hall service hs).1,
      fun service hs e he ho => ((hall service hs).2 e he ho).1,
      fun service hs e he ho => ((hall service hs).2 e he ho).2⟩
  · intro h
    obtain ⟨services, hfold⟩ := hservices.mpr fun service hs =>
      ⟨h.typed service hs, fun e he ho =>
        ⟨h.placed service hs e he ho, h.readable service hs e he ho⟩⟩
    exact ⟨_, ofGrant_ok_iff.mpr
      ⟨_, services, lifetime_ok_iff.mpr ⟨h.lasts, rfl⟩, h.fits, hfold, rfl⟩⟩

/-- The services of a catalog as far as it has been gone through. -/
def Records (version : IdentityVersion) (catalog : List Service)
    (services : SortedMap OpenService) : Prop :=
  ∀ type, ∃ es, (version.offered catalog type).map PublishedEndpoint.toEndpoint = es.map .ok ∧
    services.get? type = (Service.nameOf catalog type).map fun name => ⟨name, es⟩

theorem records_nil : Records version [] .empty := fun _ => ⟨[], rfl, rfl⟩

theorem nameOf_append_self :
    Service.nameOf (catalog ++ [service]) service.type = some service.name := by
  simp [Service.nameOf]

theorem nameOf_append_ne (h : service.type ≠ type) :
    Service.nameOf (catalog ++ [service]) type = Service.nameOf catalog type := by
  simp [Service.nameOf, h]

theorem offered_append_self : version.offered (catalog ++ [service]) service.type =
    version.offered catalog service.type ++ service.endpoints.filter version.offers := by
  simp [IdentityVersion.offered]

theorem offered_append_ne (h : service.type ≠ type) :
    version.offered (catalog ++ [service]) type = version.offered catalog type := by
  simp [IdentityVersion.offered, h]

theorem offered_of_nameOf_none (h : Service.nameOf catalog type = none) :
    version.offered catalog type = [] := by
  have hnone : catalog.filter (·.type == type) = [] := by simpa [Service.nameOf] using h
  rw [IdentityVersion.offered, hnone, List.flatMap_nil]

/-- What was listed under a type before it gets more. -/
theorem Records.listed {es : List Endpoint}
    (he : (version.offered catalog type).map PublishedEndpoint.toEndpoint = es.map .ok)
    (hg : services.get? type = (Service.nameOf catalog type).map fun name => ⟨name, es⟩) :
    ((services.get? type).map OpenService.endpoints).getD [] = es := by
  rw [hg]
  cases hname : Service.nameOf catalog type with
  | some name => rfl
  | none =>
    rw [offered_of_nameOf_none hname] at he
    exact (List.map_eq_nil_iff.mp he.symm).symm

theorem Records.addService (h : Records version catalog services)
    (hadd : addService version services service = .ok services') :
    Records version (catalog ++ [service]) services' := by
  simp only [Snapshot.addService, accepts_eq] at hadd
  split at hadd
  · cases hadd
  · obtain ⟨read, hread, hadd⟩ := bind_ok_iff.mp hadd
    cases hadd
    have hnew := map_of_mapM_ok (fun _ _ hok => (readEndpoint_ok_iff.mp hok).2) hread
    intro type
    by_cases hsame : service.type = type
    · subst hsame
      obtain ⟨es, he, hg⟩ := h service.type
      refine ⟨es ++ read, ?_, ?_⟩
      · rw [offered_append_self, List.map_append, List.map_append, he, hnew]
      · rw [nameOf_append_self, SortedMap.modify, SortedMap.get?_insert_self, Records.listed he hg]
        rfl
    · obtain ⟨es, he, hg⟩ := h type
      refine ⟨es, ?_, ?_⟩
      · rw [offered_append_ne hsame, he]
      · rw [nameOf_append_ne hsame, SortedMap.modify, SortedMap.get?_insert_ne (Ne.symm hsame), hg]

theorem records_ofGrant (h : ofGrant version now g = .ok s) :
    Records version g.catalog s.services := by
  obtain ⟨length, services, -, -, hfold, rfl⟩ := ofGrant_ok_iff.mp h
  exact foldlM_ok_history records_nil (fun _ _ _ _ hr hadd => hr.addService hadd) hfold

theorem session_ofGrant (h : ofGrant version now g = .ok s) : s.session = some
    ⟨g.token.id, now + (g.token.expiresAt.since g.token.issuedAt).toNat, g.project⟩ := by
  obtain ⟨length, services, hlength, -, -, rfl⟩ := ofGrant_ok_iff.mp h
  rw [(lifetime_ok_iff.mp hlength).2]

theorem Records.endpoints (h : Records version catalog s.services) (type : String) :
    (version.offered catalog type).map PublishedEndpoint.toEndpoint =
      (s.endpoints type).map .ok := by
  obtain ⟨es, he, hg⟩ := h type
  rw [Snapshot.endpoints, Records.listed he hg, he]

theorem Records.name (h : Records version catalog services) (type : String) :
    (services.get? type).map OpenService.name = Service.nameOf catalog type := by
  obtain ⟨es, -, hg⟩ := h type
  rw [hg, Option.map_map]
  exact Option.map_id'

theorem mem_offered : e ∈ version.offered catalog type ↔
    ∃ service ∈ catalog, service.type = type ∧ e ∈ service.endpoints ∧ version.offers e = true := by
  simp [IdentityVersion.offered, and_assoc]

theorem toEndpoint_ok (h : e.toEndpoint = .ok endpoint) : endpoint.region = e.region := by
  rw [PublishedEndpoint.toEndpoint] at h
  cases hurl : Url.read e.url with
  | error fault =>
    rw [hurl] at h
    cases h
  | ok url =>
    rw [hurl] at h
    cases h
    rfl

theorem map_region_of_read {es : List PublishedEndpoint} {read : List Endpoint}
    (h : es.map PublishedEndpoint.toEndpoint = read.map .ok) :
    read.map Endpoint.region = es.map PublishedEndpoint.region := by
  induction es generalizing read with
  | nil => rw [List.map_eq_nil_iff.mp h.symm, List.map_nil, List.map_nil]
  | cons e es ih =>
    cases read with
    | nil => cases h
    | cons endpoint read =>
      obtain ⟨he, h⟩ := List.cons_eq_cons.mp h
      rw [List.map_cons, List.map_cons, toEndpoint_ok he, ih h]

/-- The regions are those of the endpoints kept. -/
theorem Records.mem_regions (h : Records version catalog s.services) : region ∈ s.regions ↔
    ∃ service ∈ catalog, ∃ e ∈ service.endpoints, version.offers e = true ∧ e.region = region := by
  constructor
  · intro hregion
    obtain ⟨type, endpoint, hkept, rfl⟩ := mem_regions_iff.mp hregion
    have hread := List.mem_map_of_mem (f := (.ok : Endpoint → Except Url.Error Endpoint)) hkept
    rw [← h.endpoints] at hread
    obtain ⟨e, he, hok⟩ := List.mem_map.mp hread
    obtain ⟨service, hservice, -, hlisted, hoffered⟩ := mem_offered.mp he
    exact ⟨service, hservice, e, hlisted, hoffered, (toEndpoint_ok hok).symm⟩
  · rintro ⟨service, hservice, e, hlisted, hoffered, rfl⟩
    have he : e ∈ version.offered catalog service.type :=
      mem_offered.mpr ⟨service, hservice, rfl, hlisted, hoffered⟩
    have hread := List.mem_map_of_mem (f := PublishedEndpoint.toEndpoint) he
    rw [h.endpoints] at hread
    obtain ⟨endpoint, hkept, hok⟩ := List.mem_map.mp hread
    exact mem_regions_iff.mpr ⟨service.type, endpoint, hkept, toEndpoint_ok hok.symm⟩

theorem offered_v3 (catalog : List Service) (type : String) :
    IdentityVersion.v3.offered catalog type =
      (IdentityVersion.v2.offered catalog type).filter PublishedEndpoint.isPublic := by
  have hall : IdentityVersion.v2.offers = fun _ => true := rfl
  have hpublic : IdentityVersion.v3.offers = PublishedEndpoint.isPublic := rfl
  simp only [IdentityVersion.offered, hall, hpublic, List.filter_true, List.filter_flatMap]

theorem sensible_v3 (h : g.Sensible .v2 now) : g.Sensible .v3 now where
  lasts := h.lasts
  fits := h.fits
  typed := h.typed
  placed service hs e he _ := h.placed service hs e he rfl
  readable service hs e he _ := h.readable service hs e he rfl

/-- What is read of some of the texts is found beside them among what is read of all. -/
theorem read_filter {α β ε : Type} {f : α → Except ε β} (p : α → Bool) {xs : List α}
    {ys zs : List β} (hall : xs.map f = ys.map .ok) (hsome : (xs.filter p).map f = zs.map .ok) :
    zs = ((xs.zip ys).filter (p ·.1)).map Prod.snd := by
  induction xs generalizing ys zs with
  | nil => simpa using hsome.symm
  | cons x xs ih =>
    cases ys with
    | nil => cases hall
    | cons y ys =>
      obtain ⟨hx, hall⟩ := List.cons_eq_cons.mp hall
      rw [List.zip_cons_cons]
      cases hp : p x with
      | false =>
        simp only [List.filter_cons, hp, Bool.false_eq_true, ↓reduceIte] at hsome ⊢
        exact ih hall hsome
      | true =>
        simp only [List.filter_cons, hp, ↓reduceIte] at hsome ⊢
        cases zs with
        | nil => cases hsome
        | cons z zs =>
          obtain ⟨hz, hsome⟩ := List.cons_eq_cons.mp hsome
          rw [List.map_cons, ih hall hsome, Except.ok.inj (hz.symm.trans hx)]

/-- Two services of one type, with an internal endpoint between the public ones that makes no
sense. -/
def twice : Grant where
  token := ⟨"t", ⟨0, 0, 0⟩, ⟨0, 60, 0⟩⟩
  project := ⟨"p", "acme"⟩
  catalog := [
    ⟨"compute", "nova", [⟨"east", "a://east", some "Public"⟩, ⟨"", "nowhere", some "internal"⟩]⟩,
    ⟨"compute", "nova2", [⟨"west", "a://west", some "public"⟩]⟩]

/-- A snapshot is made of exactly the grants that make sense, and what makes none is a matter of
the protocol. It lists under each type the endpoints that services of that type offer, in the order
of the catalog, under the name of the last of them, and nothing else. What makes sense to version 2
does so to version 3, which keeps the public ones of the same endpoints. -/
theorem ofGrant_meets_specification (version : IdentityVersion) (now : Instant) (g : Grant) :
    ((∃ s, ofGrant version now g = .ok s) ↔ g.Sensible version now) ∧
    (¬g.Sensible version now →
      ∃ error, ofGrant version now g = .error error ∧ error.kind = .protocol) ∧
    (∀ s, ofGrant version now g = .ok s →
      (∀ type, (version.offered g.catalog type).map PublishedEndpoint.toEndpoint =
        (s.endpoints type).map .ok) ∧
      (∀ type, (s.services.get? type).map OpenService.name = Service.nameOf g.catalog type) ∧
      (∀ region, region ∈ s.regions ↔ ∃ service ∈ g.catalog, ∃ e ∈ service.endpoints,
        version.offers e = true ∧ e.region = region) ∧
      s.session = some
        ⟨g.token.id, now + (g.token.expiresAt.since g.token.issuedAt).toNat, g.project⟩) ∧
    ∀ s, ofGrant .v2 now g = .ok s → ∃ s', ofGrant .v3 now g = .ok s' ∧
      s'.services.map OpenService.name = s.services.map OpenService.name ∧
      ∀ type, s'.endpoints type = (((IdentityVersion.v2.offered g.catalog type).zip
        (s.endpoints type)).filter (·.1.isPublic)).map Prod.snd := by
  refine ⟨exists_ofGrant_iff, ?_, ?_, ?_⟩
  · intro hno
    cases h : ofGrant version now g with
    | ok s => exact absurd (exists_ofGrant_iff.mp ⟨s, h⟩) hno
    | error error =>
      refine ⟨error, rfl, ?_⟩
      rw [CatalogError.kind, ofGrant_not_connection h]
      rfl
  · intro s h
    have hr := records_ofGrant h
    exact ⟨hr.endpoints, hr.name, fun _ => hr.mem_regions, session_ofGrant h⟩
  · intro s h
    obtain ⟨s', h'⟩ := exists_ofGrant_iff.mpr (sensible_v3 (exists_ofGrant_iff.mp ⟨s, h⟩))
    have hr := records_ofGrant h
    have hr' := records_ofGrant h'
    refine ⟨s', h', ?_, ?_⟩
    · refine SortedMap.ext_get? fun type => ?_
      rw [SortedMap.get?_map, SortedMap.get?_map, hr.name, hr'.name]
    · intro type
      have hpublic := hr'.endpoints type
      rw [offered_v3] at hpublic
      exact read_filter _ (hr.endpoints type) hpublic

theorem ofGrant_meets_specification_twice :
    (∃ s, ofGrant .v3 0 twice = .ok s ∧
      (s.services.get? "compute").map OpenService.name = some "nova2" ∧
      (s.endpoints "compute").map Endpoint.region = ["east", "west"]) ∧
    ∃ error, ofGrant .v2 0 twice = .error error ∧ error.kind = .protocol := by
  obtain ⟨hmakes, -, hkept, -⟩ := ofGrant_meets_specification .v3 0 twice
  obtain ⟨-, hrefused, -, -⟩ := ofGrant_meets_specification .v2 0 twice
  refine ⟨?_, hrefused ?_⟩
  · have hsensible : twice.Sensible .v3 0 := by
      have hread : ∀ service ∈ twice.catalog, ∀ e ∈ service.endpoints,
          IdentityVersion.v3.offers e = true → (Url.read e.url).isOk = true := by decide +kernel
      refine ⟨by decide, by decide, by decide, by decide, ?_⟩
      intro service hservice e he hoffered
      have hok := hread service hservice e he hoffered
      cases hurl : Url.read e.url with
      | ok url => exact ⟨url, rfl⟩
      | error fault =>
        rw [hurl] at hok
        cases hok
    obtain ⟨s, h⟩ := hmakes.mpr hsensible
    obtain ⟨hlist, hname, -, -⟩ := hkept s h
    exact ⟨s, h, hname "compute", (map_region_of_read (hlist "compute")).trans rfl⟩
  · intro h
    exact h.placed _ List.mem_cons_self _ (List.mem_cons_of_mem _ List.mem_cons_self) rfl rfl

end Snapshot
end Tenancy
