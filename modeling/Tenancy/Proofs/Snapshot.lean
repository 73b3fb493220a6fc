import Tenancy.Catalog
import Tenancy.Proofs.Basic

namespace Tenancy

namespace Snapshot

variable {version : IdentityVersion} {now : Instant} {g : Grant} {s : Snapshot}
  {services : SortedMap OpenService} {service : Service} {error : CatalogError} {length : Nat}

theorem ofGrant_of_lifetime (h : lifetime g.token = .ok length) : ofGrant version now g =
    if Instant.limit ≤ now + length then .error .lifetimeOutOfRange
    else (g.catalog.foldlM (addService version) .empty).map fun services =>
      ⟨some ⟨g.token.id, now + length, g.project⟩, services⟩ := by
  simp only [ofGrant, h, bind, Except.bind]
  split
  · rfl
  · cases g.catalog.foldlM (addService version) .empty <;> rfl

theorem ofGrant_ok_iff : ofGrant version now g = .ok s ↔ ∃ length services,
    lifetime g.token = .ok length ∧ now + length < Instant.limit ∧
    g.catalog.foldlM (addService version) .empty = .ok services ∧
    s = ⟨some ⟨g.token.id, now + length, g.project⟩, services⟩ := by
  constructor
  · intro h
    obtain ⟨length, hlength, -⟩ := bind_ok_iff.mp h
    rw [ofGrant_of_lifetime hlength] at h
    split at h
    · cases h
    · rename_i hlimit
      cases hservices : g.catalog.foldlM (addService version) .empty with
      | error e =>
        rw [hservices] at h
        cases h
      | ok services =>
        rw [hservices] at h
        cases h
        exact ⟨length, services, hlength, Nat.not_le.mp hlimit, rfl, rfl⟩
  · rintro ⟨length, services, hlength, hlimit, hservices, rfl⟩
    rw [ofGrant_of_lifetime hlength, if_neg (Nat.not_le.mpr hlimit), hservices]
    rfl

theorem ofGrant_error (h : ofGrant version now g = .error error) :
    lifetime g.token = .error error ∨ error = .lifetimeOutOfRange ∨
      g.catalog.foldlM (addService version) .empty = .error error := by
  obtain hlength | ⟨length, hlength, -⟩ := bind_error_iff.mp h
  · exact .inl hlength
  · rw [ofGrant_of_lifetime hlength] at h
    split at h
    · cases h
      exact .inr (.inl rfl)
    · cases hservices : g.catalog.foldlM (addService version) .empty with
      | error e =>
        rw [hservices] at h
        cases h
        exact .inr (.inr rfl)
      | ok services =>
        rw [hservices] at h
        cases h

theorem lifetime_error {t : Token} (h : lifetime t = .error error) :
    error = .expiresBeforeIssue t.expiresAt t.issuedAt := by
  simp only [lifetime] at h
  split at h
  · cases h
    rfl
  · cases h

theorem readEndpoint_error {e : PublishedEndpoint} {type : String}
    (h : readEndpoint type e = .error error) :
    error = .noRegion type e.url ∨ ∃ fault, error = .badUrl type e.url fault := by
  simp only [readEndpoint] at h
  split at h
  · cases h
    exact .inl rfl
  · split at h
    · cases h
    · rename_i fault _
      cases h
      exact .inr ⟨fault, rfl⟩

theorem readEndpoint_ok {e : PublishedEndpoint} {type : String} {endpoint : Endpoint}
    (h : readEndpoint type e = .ok endpoint) : endpoint.region = e.region ∧ e.region ≠ "" := by
  simp only [readEndpoint] at h
  split at h
  · cases h
  · rename_i hregion
    split at h
    · cases h
      refine ⟨rfl, fun hempty => hregion ?_⟩
      rw [hempty]
      rfl
    · cases h

theorem addService_error (h : addService version services service = .error error) :
    error = .untypedService ∨ ∃ e ∈ service.endpoints, error = .noRegion service.type e.url ∨
      ∃ fault, error = .badUrl service.type e.url fault := by
  simp only [addService] at h
  split at h
  · cases h
    exact .inl rfl
  · obtain hread | ⟨_, -, hnone⟩ := bind_error_iff.mp h
    · obtain ⟨e, he, hread⟩ := exists_of_mapM_error hread
      exact .inr ⟨e, (List.mem_filter.mp he).1, readEndpoint_error hread⟩
    · cases hnone

/-- A grant says nothing about domains. -/
theorem ofGrant_ne_missingDomain (h : ofGrant version now g = .error error) (tenant : String) :
    error ≠ .missingDomain tenant := by
  rintro rfl
  obtain hlifetime | hrange | hservices := ofGrant_error h
  · cases lifetime_error hlifetime
  · cases hrange
  · obtain ⟨services, service, -, hservice⟩ := exists_of_foldlM_error hservices
    obtain huntyped | ⟨e, -, hregion | ⟨fault, hurl⟩⟩ := addService_error hservice
    · cases huntyped
    · cases hregion
    · cases hurl

/-- What a grant comes to is the same whenever it is received, unless the clock comes to its
limit. -/
theorem services_ofGrant (h : ∀ length, lifetime g.token = .ok length →
      now + length < Instant.limit) :
    (ofGrant version now g).map Snapshot.services =
      (lifetime g.token).bind fun _ => g.catalog.foldlM (addService version) .empty := by
  cases hlength : lifetime g.token with
  | error e =>
    simp only [ofGrant, hlength, bind, Except.bind]
    rfl
  | ok length =>
    rw [ofGrant_of_lifetime hlength, if_neg (Nat.not_le.mpr (h length hlength))]
    change Except.map _ (Except.map _ _) = g.catalog.foldlM (addService version) .empty
    cases g.catalog.foldlM (addService version) .empty <;> rfl

/-- Routing looks at services only. -/
theorem regionOf_congr {s' : Snapshot} (h : s.services = s'.services) (url : Url) :
    s.regionOf url = s'.regionOf url := by
  simp only [regionOf, endpoints, h]

theorem ofGrant_not_connection (h : ofGrant version now g = .error error) :
    error.isConnection = false := by
  obtain hlifetime | hrange | hservices := ofGrant_error h
  · rw [lifetime_error hlifetime]
    rfl
  · rw [hrange]
    rfl
  · obtain ⟨services, service, -, hservice⟩ := exists_of_foldlM_error hservices
    obtain rfl | ⟨e, -, rfl | ⟨fault, rfl⟩⟩ := addService_error hservice <;> rfl

end Snapshot

/-- Whatever the identity service answers, it is not for want of a domain that it makes no sense. -/
theorem Catalog.evaluate_ne_missingDomain {catalog : Catalog} {now : Instant}
    {answer : Except IdentityError Grant} {error : CatalogError}
    (h : catalog.evaluate now answer = .error error) (tenant : String) :
    error ≠ .missingDomain tenant := by
  cases answer with
  | error fault =>
    rintro rfl
    cases h
  | ok grant => exact Snapshot.ofGrant_ne_missingDomain h tenant

end Tenancy
