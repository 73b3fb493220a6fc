import Mathlib.Data.List.Nodup
import Tenancy.Catalog
import Tenancy.Config.Problem

namespace Tenancy

/-- Of things that have different names each is found by its own. -/
theorem find?_of_nodup {α : Type} {name : α → String} {xs : List α} {x : α}
    (hn : (xs.map name).Nodup) (hx : x ∈ xs) : xs.find? (name · == name x) = some x := by
  obtain ⟨before, rest, rfl⟩ := List.append_of_mem hx
  refine List.find?_eq_some_iff_append.mpr ⟨by simp, before, rest, rfl, ?_⟩
  intro y hy
  have hdisjoint := (List.nodup_append.mp (by simpa using hn)).2.2
  have hne : name y ≠ name x := hdisjoint (name y) (List.mem_map_of_mem hy) (name x) (by simp)
  simpa using hne

namespace Config

variable {provider name : String} {version : Option IdentityVersion} {before : List String}
  {p : Provider} {t : Tenant} {c : Config}

/-- A tenant for an identity service of that version. -/
structure Tenant.Complete (version : Option IdentityVersion) (t : Tenant) : Prop where
  name : t.name.isEmpty = false
  userid : t.userid.isEmpty = false
  domain : version = some .v3 → t.hasDomain = true

theorem Tenant.problems_eq_nil_iff :
    t.problems provider version before = [] ↔ t.Complete version ∧ t.name ∉ before := by
  have hdomain : (version == some .v3 && !t.hasDomain) = false ↔
      (version = some .v3 → t.hasDomain = true) := by
    simp
  have hnames : (t.name.isEmpty || t.userid.isEmpty) = false ↔
      t.name.isEmpty = false ∧ t.userid.isEmpty = false := Bool.or_eq_false_iff
  simp only [Tenant.problems, List.append_eq_nil_iff, ite_eq_right_iff, List.cons_ne_nil, imp_false,
    Bool.not_eq_true, hdomain, hnames, List.contains_iff_mem]
  constructor
  · rintro ⟨⟨⟨hname, huser⟩, hnew⟩, hdomain⟩
    exact ⟨⟨hname, huser, hdomain⟩, hnew⟩
  · rintro ⟨⟨hname, huser, hdomain⟩, hnew⟩
    exact ⟨⟨⟨hname, huser⟩, hnew⟩, hdomain⟩

/-- Names that stand for nothing else, before or here. -/
theorem nodup_cons_iff {α : Type} {name : α → String} {x : α} {xs : List α} :
    name x ∉ before ∧ (xs.map name).Nodup ∧ (∀ y ∈ xs, name y ∉ name x :: before) ↔
      ((x :: xs).map name).Nodup ∧ ∀ y ∈ x :: xs, name y ∉ before := by
  simp only [List.map_cons, List.nodup_cons, List.mem_map, not_exists, not_and, List.mem_cons,
    forall_eq_or_imp, not_or]
  constructor
  · rintro ⟨hx, hxs, hnew⟩
    exact ⟨⟨fun y hy => (hnew y hy).1, hxs⟩, hx, fun y hy => (hnew y hy).2⟩
  · rintro ⟨⟨hne, hxs⟩, hx, hnew⟩
    exact ⟨hx, hxs, fun y hy => ⟨hne y hy, hnew y hy⟩⟩

theorem problemsOfTenants_eq_nil_iff {ts : List Tenant} :
    problemsOfTenants provider version before ts = [] ↔ (∀ t ∈ ts, t.Complete version) ∧
      (ts.map Tenant.name).Nodup ∧ ∀ t ∈ ts, t.name ∉ before := by
  induction ts generalizing before with
  | nil => simp [problemsOfTenants]
  | cons t ts ih =>
    rw [problemsOfTenants, List.append_eq_nil_iff, Tenant.problems_eq_nil_iff, ih,
      ← nodup_cons_iff, List.forall_mem_cons]
    constructor
    · rintro ⟨⟨ht, hnew⟩, hts, hnodup, hrest⟩
      exact ⟨⟨ht, hts⟩, hnew, hnodup, hrest⟩
    · rintro ⟨⟨ht, hts⟩, hnew, hnodup, hrest⟩
      exact ⟨⟨ht, hnew⟩, hts, hnodup, hrest⟩

structure Provider.Complete (p : Provider) : Prop where
  version : p.version?.isSome = true
  bounds : ∃ bounds, p.pool.bounds = .ok bounds
  attempts : p.retry.maxAttempts ≠ 0
  proxy : (p.proxy.map Proxy.isUsable).getD true = true
  names : (p.tenants.map Tenant.name).Nodup
  tenants : ∀ t ∈ p.tenants, t.Complete p.version?

theorem Provider.problems_eq_nil_iff : p.problems = [] ↔ p.Complete := by
  simp only [Provider.problems, List.append_eq_nil_iff, problemsOfTenants_eq_nil_iff,
    ite_eq_right_iff, ite_eq_left_iff, List.cons_ne_nil, imp_false, not_not,
    Option.isNone_iff_eq_none, List.not_mem_nil, not_false_eq_true, implies_true, and_true]
  cases hb : p.pool.bounds with
  | error error =>
    refine ⟨fun h => absurd h.1.1.1.2 (List.cons_ne_nil _ _), fun h => ?_⟩
    obtain ⟨bounds, hbounds⟩ := h.bounds
    cases hb.symm.trans hbounds
  | ok bounds =>
    constructor
    · rintro ⟨⟨⟨⟨hversion, -⟩, hattempts⟩, hproxy⟩, htenants, hnames⟩
      exact ⟨Option.isSome_iff_ne_none.mpr hversion, ⟨bounds, hb⟩, hattempts, hproxy, hnames,
        htenants⟩
    · rintro ⟨hversion, -, hattempts, hproxy, hnames, htenants⟩
      exact ⟨⟨⟨⟨Option.isSome_iff_ne_none.mp hversion, rfl⟩, hattempts⟩, hproxy⟩, htenants, hnames⟩

theorem nameProblems_eq_nil_iff :
    nameProblems before name = [] ↔ name.isEmpty = false ∧ name ∉ before := by
  unfold nameProblems
  cases name.isEmpty <;> simp

theorem problemsOfProviders_eq_nil_iff {ps : List Provider} :
    problemsOfProviders before ps = [] ↔ (∀ p ∈ ps, p.name.isEmpty = false ∧ p.Complete) ∧
      (ps.map Provider.name).Nodup ∧ ∀ p ∈ ps, p.name ∉ before := by
  induction ps generalizing before with
  | nil => simp [problemsOfProviders]
  | cons p ps ih =>
    rw [problemsOfProviders, List.append_eq_nil_iff, List.append_eq_nil_iff,
      nameProblems_eq_nil_iff, Provider.problems_eq_nil_iff, ih, ← nodup_cons_iff,
      List.forall_mem_cons]
    constructor
    · rintro ⟨⟨⟨hname, hnew⟩, hp⟩, hps, hnodup, hrest⟩
      exact ⟨⟨⟨hname, hp⟩, hps⟩, hnew, hnodup, hrest⟩
    · rintro ⟨⟨⟨hname, hp⟩, hps⟩, hnew, hnodup, hrest⟩
      exact ⟨⟨⟨hname, hnew⟩, hp⟩, hps, hnodup, hrest⟩

/-- A configuration has no problems if everything in it is complete and no name comes twice. -/
theorem problems_eq_nil_iff : c.problems = [] ↔
    (∀ p ∈ c.providers, p.name.isEmpty = false ∧ p.Complete) ∧
      (c.providers.map Provider.name).Nodup := by
  rw [problems, problemsOfProviders_eq_nil_iff]
  simp

theorem provider?_of_mem (hc : c.problems = []) (hp : p ∈ c.providers) :
    c.provider? p.name = some p :=
  find?_of_nodup (problems_eq_nil_iff.mp hc).2 hp

theorem Provider.Complete.tenant? (hp : p.Complete) (ht : t ∈ p.tenants) :
    p.tenant? t.name = some t :=
  find?_of_nodup hp.names ht

/-- The request is for that tenant of the provider, and as its version wants it. -/
structure Provider.Asks (p : Provider) (t : Tenant) (request : AuthRequest) : Prop where
  version : p.version? = some request.version
  identityUrl : request.identityUrl = p.identityUrl
  tenant : request.tenant = t.name
  userid : request.credentials.userid = t.userid
  password : request.credentials.password = t.password
  proxy : request.options.proxy = p.proxy
  trustedHosts : request.options.trustedHosts = p.trustedHosts
  plain : request.version = .v2 → request.domain = none
  domain : request.version = .v3 →
    request.domain = t.domain ∧ ∃ domain, t.domain = some domain ∧ domain.isEmpty = false

end Config

namespace Catalog

variable {catalog : Catalog} {target : CatalogTarget} {request : AuthRequest}

theorem of?_eq_some_iff : of? target = some catalog ↔
    ∃ version, IdentityVersion.ofUrl? target.identityUrl = some version ∧
      catalog = ⟨version, target, {}⟩ := by
  rw [of?, Option.map_eq_some_iff]
  simp only [eq_comm]

/-- Only a missing domain keeps a catalog from asking. -/
theorem request?_cases (catalog : Catalog) :
    (∃ domain, catalog.request? = .ok ⟨catalog.version, catalog.target.identityUrl,
        catalog.target.tenant, domain, catalog.target.credentials, catalog.target.options⟩ ∧
      (catalog.version = .v2 → domain = none) ∧
      (catalog.version = .v3 → domain = catalog.target.domain ∧
        ∃ text, catalog.target.domain = some text ∧ text.isEmpty = false)) ∨
    catalog.version = .v3 ∧ (catalog.target.domain.map (!·.isEmpty)).getD false = false ∧
      catalog.request? = .error (.missingDomain catalog.target.tenant) := by
  obtain ⟨version, ⟨identityUrl, tenant, domain, credentials, options⟩, snapshot⟩ := catalog
  cases version with
  | v2 => exact .inl ⟨none, rfl, fun _ => rfl, by simp⟩
  | v3 =>
    cases domain with
    | none => exact .inr ⟨rfl, rfl, rfl⟩
    | some text =>
      cases he : text.isEmpty with
      | false =>
        refine .inl ⟨some text, ?_, by simp, fun _ => ⟨rfl, text, rfl, he⟩⟩
        simp [request?, domain?, IdentityVersion.requiresDomain, he, Except.map]
      | true =>
        refine .inr ⟨rfl, by simp [he], ?_⟩
        simp [request?, domain?, IdentityVersion.requiresDomain, he, Except.map]

end Catalog
end Tenancy
