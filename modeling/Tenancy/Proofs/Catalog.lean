import Tenancy.Catalog
import Tenancy.Proofs.SortedMap

namespace Tenancy

namespace Snapshot

variable {s : Snapshot} {region service : String} {url : Url} {e : Endpoint}

theorem mem_regions :
    region ∈ s.regions ↔
      ∃ service ∈ s.services.values, ∃ e ∈ service.endpoints, e.region = region := by
  simp only [regions, SortedMap.mem_keys_foldl_insert]
  simp [SortedMap.keys, SortedMap.empty]

theorem regions_nodup (s : Snapshot) : s.regions.Nodup := SortedMap.keys_nodup _

theorem region_of_endpoint (h : e ∈ s.endpoints service) : e.region ∈ s.regions := by
  unfold endpoints at h
  cases hs : s.services.get? service with
  | none => simp [hs] at h
  | some found =>
    rw [hs] at h
    exact mem_regions.mpr ⟨found, SortedMap.mem_values_iff.mpr ⟨service, hs⟩, e, h, rfl⟩

/-- The regions reported are those of the endpoints listed under some type. -/
theorem mem_regions_iff : region ∈ s.regions ↔ ∃ type, ∃ e ∈ s.endpoints type, e.region = region := by
  constructor
  · intro h
    obtain ⟨service, hservice, e, he, hregion⟩ := mem_regions.mp h
    obtain ⟨type, htype⟩ := SortedMap.mem_values_iff.mp hservice
    refine ⟨type, e, ?_, hregion⟩
    rw [endpoints, htype]
    exact he
  · rintro ⟨type, e, he, rfl⟩
    exact region_of_endpoint he

/-- Whatever is routed goes to a region that the snapshot reports. -/
theorem regionOf_mem (h : s.regionOf url = some region) : region ∈ s.regions := by
  obtain ⟨target, -, h⟩ := Option.bind_eq_some_iff.mp h
  obtain ⟨e, he, rfl⟩ := Option.map_eq_some_iff.mp h
  exact region_of_endpoint (List.mem_of_find?_eq_some he)

/-- A snapshot belongs to the project that its grant names. -/
theorem project?_ofGrant {version : IdentityVersion} {now : Instant} {grant : Grant}
    (h : ofGrant version now grant = .ok s) : s.project? = some grant.project := by
  unfold ofGrant at h
  cases hl : lifetime grant.token with
  | error fault => simp [hl, bind, Except.bind] at h
  | ok length =>
    simp only [hl, bind, Except.bind] at h
    split at h
    · cases h
    · cases hs : grant.catalog.foldlM (addService version) .empty with
      | error fault => simp [hs] at h
      | ok services =>
        simp only [hs, pure, Except.pure] at h
        cases h
        rfl

end Snapshot

/-- Nothing but a grant authenticates a catalog, which then knows its project. -/
theorem Catalog.evaluate_ok {c : Catalog} {now : Instant} {answer : Except IdentityError Grant}
    {s : Snapshot} (h : c.evaluate now answer = .ok s) :
    ∃ grant, answer = .ok grant ∧ s.project? = some grant.project := by
  cases answer with
  | error fault => cases h
  | ok grant => exact ⟨grant, rfl, Snapshot.project?_ofGrant h⟩

theorem Catalog.regionOf_mem {c : Catalog} {resource region : String}
    (h : c.regionOf resource = some region) : region ∈ c.snapshot.regions := by
  obtain ⟨url, -, h⟩ := Option.bind_eq_some_iff.mp h
  exact Snapshot.regionOf_mem h

end Tenancy
