import Tenancy.Proofs.Catalog
import Tenancy.Proofs.Settings
import Tenancy.Tenant.Cache

namespace Tenancy

/-- The operation never came to a pool. -/
def TenantError.isUnplaced : TenantError → Bool
  | .notInitialized _ | .noRoute _ | .unknownRegion _ => true
  | _ => false

namespace TenantCache

variable {c : TenantCache} {o : OpenTenant} {region url : String} {error : TenantError} {n : Nat}

theorem poolOf_unopened (hc : c.opened = none) (region : String) :
    c.poolOf region = .error (.notInitialized c.label) := by
  simp only [poolOf, requireOpen, hc]
  rfl

theorem regionOf_unopened (hc : c.opened = none) (url : String) :
    c.regionOf url = .error (.notInitialized c.label) := by
  simp only [regionOf, requireOpen, hc]
  rfl

theorem poolOf_opened (hc : c.opened = some o) (region : String) :
    c.poolOf region = (o.pools.lookup region).elim (.error (.unknownRegion region)) .ok := by
  simp only [poolOf, requireOpen, hc, bind, Except.bind]
  cases o.pools.lookup region <;> rfl

theorem regionOf_opened (hc : c.opened = some o) (url : String) :
    c.regionOf url = (o.catalog.regionOf url).elim (.error (.noRoute url)) .ok := by
  simp only [regionOf, requireOpen, hc, bind, Except.bind]
  cases o.catalog.regionOf url <;> rfl

theorem poolServing_of_ok (h : c.regionOf url = .ok region) :
    c.poolServing url = c.poolOf region := by
  simp only [poolServing, h]
  rfl

theorem poolServing_of_error (h : c.regionOf url = .error error) :
    c.poolServing url = .error error := by
  simp only [poolServing, h]
  rfl

/-- No pool for a region means that the cache is not open, or that the region is not among those it
was opened with. -/
theorem poolOf_error (h : c.poolOf region = .error error) :
    c.opened = none ∧ error = .notInitialized c.label ∨
      region ∉ c.regions ∧ error = .unknownRegion region := by
  cases hc : c.opened with
  | none =>
    rw [poolOf_unopened hc] at h
    cases h
    exact .inl ⟨rfl, rfl⟩
  | some o =>
    rw [poolOf_opened hc] at h
    cases hl : o.pools.lookup region with
    | none =>
      rw [hl] at h
      cases h
      have hnone := List.lookup_eq_none_iff.mp hl
      have hregion : region ∉ c.regions := by
        simp only [regions, hc, Option.map_some, Option.getD_some, List.mem_map, not_exists,
          not_and]
        intro e he heq
        simpa [heq] using hnone e he
      exact .inr ⟨hregion, rfl⟩
    | some n => simp [hl] at h

theorem poolOf_ok (h : c.poolOf region = .ok n) : region ∈ c.regions ∧ n ∈ c.poolNumbers := by
  cases hc : c.opened with
  | none => simp [poolOf_unopened hc] at h
  | some o =>
    rw [poolOf_opened hc] at h
    cases hl : o.pools.lookup region with
    | none => simp [hl] at h
    | some m =>
      obtain rfl : m = n := by simpa [hl] using h
      obtain ⟨before, rest, hsplit, -⟩ := List.lookup_eq_some_iff.mp hl
      simp [regions, poolNumbers, hc, hsplit]

theorem poolServing_ok (h : c.poolServing url = .ok n) : n ∈ c.poolNumbers := by
  cases hr : c.regionOf url with
  | ok region =>
    rw [poolServing_of_ok hr] at h
    exact (poolOf_ok h).2
  | error fault =>
    rw [poolServing_of_error hr] at h
    cases h

/-- A cache has a pool for exactly the regions that it names. -/
theorem exists_poolOf_iff : (∃ n, c.poolOf region = .ok n) ↔ region ∈ c.regions := by
  constructor
  · rintro ⟨n, h⟩
    exact (poolOf_ok h).1
  · intro hr
    cases h : c.poolOf region with
    | ok n => exact ⟨n, rfl⟩
    | error fault =>
      obtain ⟨hc, -⟩ | ⟨hnot, -⟩ := poolOf_error h
      · simp [regions, hc] at hr
      · exact absurd hr hnot

theorem poolOf_unknown (ho : c.isOpen = true) (hr : region ∉ c.regions) :
    c.poolOf region = .error (.unknownRegion region) := by
  cases h : c.poolOf region with
  | ok n => exact absurd (poolOf_ok h).1 hr
  | error fault =>
    obtain ⟨hc, -⟩ | ⟨-, rfl⟩ := poolOf_error h
    · simp [isOpen, hc] at ho
    · rfl

theorem isOpen_of_poolNumbers (h : n ∈ c.poolNumbers) : c.isOpen = true := by
  cases hc : c.opened with
  | none => simp [poolNumbers, hc] at h
  | some o => simp [isOpen, hc]

theorem regionOf_ok (h : c.regionOf url = .ok region) :
    ∃ o, c.opened = some o ∧ region ∈ o.catalog.snapshot.regions := by
  cases hc : c.opened with
  | none => simp [regionOf, requireOpen, hc, Bind.bind, Except.bind] at h
  | some o =>
    rw [regionOf_opened hc] at h
    cases hr : o.catalog.regionOf url with
    | none => simp [hr] at h
    | some found =>
      obtain rfl : found = region := by simpa [hr] using h
      exact ⟨o, rfl, Catalog.regionOf_mem hr⟩

/-- What no pool serves is routed to a region without one. -/
theorem poolServing_unknown_iff (ho : c.isOpen = true) :
    c.poolServing url = .error (.unknownRegion region) ↔
      c.regionOf url = .ok region ∧ region ∉ c.regions := by
  constructor
  · intro h
    cases hr : c.regionOf url with
    | ok found =>
      rw [poolServing_of_ok hr] at h
      obtain ⟨-, hlabel⟩ | ⟨hnot, hregion⟩ := poolOf_error h
      · cases hlabel
      · cases hregion
        exact ⟨rfl, hnot⟩
    | error fault =>
      obtain ⟨o, hc⟩ := Option.isSome_iff_exists.mp ho
      rw [poolServing_of_error hr] at h
      rw [regionOf_opened hc] at hr
      cases hroute : o.catalog.regionOf url with
      | none =>
        rw [hroute] at hr
        cases hr
        cases h
      | some found => simp [hroute] at hr
  · rintro ⟨hr, hnot⟩
    rw [poolServing_of_ok hr]
    exact poolOf_unknown ho hnot

/-- The connector is told the region that a pool is for. -/
theorem region_poolSettings (c : TenantCache) (project region : String) :
    (c.poolSettings project region).region = some region := by
  have hkeys : Settings.regionKey ≠ Settings.trustedHostsKey := by decide
  simp only [poolSettings]
  split
  · exact SortedMap.get?_insert_self
  · exact (SortedMap.get?_insert_ne hkeys).trans SortedMap.get?_insert_self

/-- The connector is told what the text with all trusted hosts reads as. -/
theorem trustedHosts_poolSettings (c : TenantCache) (project region : String) :
    (c.poolSettings project region).trustedHosts =
      c.provider.trustedHosts.flatMap Settings.readHosts := by
  simp only [poolSettings, Settings.trustedHosts]
  split
  · rename_i hnone
    rw [List.isEmpty_iff.mp hnone]
    simp (disch := decide) only [Settings.get?_set_ne]
    rfl
  · rw [Settings.get?_set_self]
    exact Settings.readHosts_writeHosts c.provider.trustedHosts

end TenantCache
end Tenancy
