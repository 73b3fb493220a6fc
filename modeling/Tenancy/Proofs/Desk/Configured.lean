import Tenancy.Proofs.Desk.Attempts
import Tenancy.Proofs.Desk.Registry
import Tenancy.Proofs.Snapshot

namespace Tenancy.Desk

variable {d : Desk} {step : Desk × Request} {n : Nat} {c : TenantCache} {catalog : Catalog}
  {purpose : Purpose} {bounds : PoolBounds} {tries : UInt32} {key : Key} {source : Nat}
  {p : Config.Provider} {t : Config.Tenant} {config : Config} {name : String}

theorem provider?_eq_some (h : d.provider? name = some (source, p)) :
    d.providers[source]? = some p ∧ p.name = name := by
  obtain ⟨e, he, heq⟩ := Option.map_eq_some_iff.mp h
  obtain ⟨rfl, rfl⟩ := Prod.mk.inj heq
  have hmem : e ∈ d.providers.zipIdx := List.mem_reverse.mp (List.mem_of_find?_eq_some he)
  exact ⟨List.mem_zipIdx_iff_getElem?.mp hmem, by simpa using List.find?_some he⟩

theorem provider?_eq_none (h : d.provider? name = none) : ∀ p ∈ d.providers, p.name ≠ name := by
  intro p hp
  obtain ⟨i, hi⟩ := List.mem_iff_getElem?.mp hp
  have hmem : (p, i) ∈ d.providers.zipIdx.reverse :=
    List.mem_reverse.mpr (List.mem_zipIdx_iff_getElem?.mpr hi)
  simpa using List.find?_eq_none.mp (Option.map_eq_none_iff.mp h) _ hmem

/-- Where names stand for one provider each, it does not matter which of several counts. -/
theorem provider?_checked (hc : config.problems = []) (hd : d.providers = config.providers)
    (name : String) : (d.provider? name).map Prod.snd = config.provider? name := by
  cases h : d.provider? name with
  | none =>
    have hnone := provider?_eq_none h
    rw [hd] at hnone
    exact (List.find?_eq_none.mpr fun p hp => by simpa using hnone p hp).symm
  | some x =>
    obtain ⟨source, p⟩ := x
    obtain ⟨hsource, rfl⟩ := provider?_eq_some h
    rw [hd] at hsource
    exact (Config.provider?_of_mem hc (List.mem_of_getElem? hsource)).symm

theorem Act.providers {errand : Errand} {kept : List Thing} {entries : List Entry} {x y : Scene}
    (h : Act errand kept x entries y) : y.desk.providers = x.desk.providers := by
  cases h <;> rfl

/-- Whatever the identity service would answer, the cache cannot be opened. -/
inductive Hopeless (c : TenantCache) : Prop
  | unsupported (h : c.provider.version? = none)
  | unbounded {error} (h : c.provider.pool.bounds = .error error)
  | undomained (hv : c.provider.version? = some .v3)
      (hd : ∀ domain, c.domain = some domain → domain.isEmpty = true)

theorem Hopeless.not_suits (h : Hopeless c) : ¬ Suits c catalog := by
  rintro ⟨⟨bounds, hb⟩, hmade, ⟨request, hrequest⟩⟩
  obtain ⟨version, hversion, rfl⟩ := Catalog.of?_eq_some_iff.mp hmade
  cases h with
  | unsupported h => cases h.symm.trans hversion
  | unbounded h => cases h.symm.trans hb
  | undomained hv hd =>
    obtain rfl : IdentityVersion.v3 = version := Option.some.inj (hv.symm.trans hversion)
    obtain ⟨_, -, -, hdomain⟩ | ⟨-, -, hnone⟩ := Catalog.request?_cases ⟨.v3, c.target, {}⟩
    · obtain ⟨-, domain, hsome, hfull⟩ := hdomain rfl
      cases hfull.symm.trans (hd domain hsome)
    · cases hnone.symm.trans hrequest

/-- Either there is a catalog to open the cache with, or it is told at once why it cannot be
opened. -/
theorem startInit_cases (d : Desk) (n : Nat) (purpose : Purpose) (ho : c.opened = none) :
    (∃ catalog request, Suits c catalog ∧ catalog.request? = .ok request ∧
      d.startInit n c purpose =
        some ((d.count (.initAttempts c.provider.name)).push (.authenticating n catalog 1 purpose),
          .authenticate c.source request)) ∨
    Hopeless c ∧ ∃ (d' : Desk) (error : TenantError), d'.caches = d.caches ∧ d'.frames = d.frames ∧
      d.startInit n c purpose = d'.finish n (.error error) purpose := by
  have hclosed : c.isOpen = false := by simp [TenantCache.isOpen, ho]
  simp only [startInit, hclosed, Bool.false_eq_true, ↓reduceIte]
  cases hb : c.provider.pool.bounds with
  | error error => exact .inr ⟨.unbounded hb, d, _, rfl, rfl, rfl⟩
  | ok bounds =>
    cases hmade : Catalog.of? c.target with
    | none =>
      have hversion : c.provider.version? = none := Option.map_eq_none_iff.mp hmade
      exact .inr ⟨.unsupported hversion, d.note .unsupportedVersion, _, rfl, rfl, rfl⟩
    | some catalog =>
      obtain ⟨version, hversion, rfl⟩ := Catalog.of?_eq_some_iff.mp hmade
      obtain ⟨domain, hask, -⟩ | ⟨hv, hnone, hask⟩ :=
        Catalog.request?_cases ⟨version, c.target, {}⟩
      · refine .inl ⟨_, _, ⟨⟨bounds, hb⟩, hmade, _, hask⟩, hask, ?_⟩
        simp only [attempt, hask]
      · obtain rfl : version = .v3 := hv
        refine .inr ⟨.undomained hversion ?_, _, _, ?_, ?_, attempt_undomained hask⟩
        · intro domain hd
          rw [show CatalogTarget.domain _ = some domain from hd] at hnone
          simpa using hnone
        · rfl
        · rfl

/-- The cache of a complete tenant can be opened. -/
theorem not_hopeless_of_complete (hp : p.Complete) (ht : t ∈ p.tenants) (source : Nat) :
    ¬ Hopeless (TenantCache.ofConfig source p t) := by
  intro h
  cases h with
  | unsupported h =>
    have hsome := hp.version
    rw [show p.version? = none from h] at hsome
    cases hsome
  | unbounded h =>
    obtain ⟨bounds, hb⟩ := hp.bounds
    cases hb.symm.trans h
  | undomained hv hd =>
    have hdomain : t.hasDomain = true := (hp.tenants t ht).domain hv
    cases hnone : t.domain with
    | none => simp [Config.Tenant.hasDomain, hnone] at hdomain
    | some domain =>
      have hempty := hd domain hnone
      simp [Config.Tenant.hasDomain, hnone, hempty] at hdomain

/-- The step is one of those, from the call on, in which somebody gets the cache of that key. -/
inductive Deed.Seeks (key : Key) : Deed → Prop
  | call : Seeks key (.call (.getOrOpen key))
  | answer {n : Nat} {catalog : Catalog} {f : Frame} {reply : Reply}
      (hf : f.Opens n catalog (.register key)) : Seeks key (.answer f reply)

/-- What comes of it for a tenant of a checked configuration: the identity service of that provider
is asked for that tenant, perhaps after a wait; or there is a cache, or an answer was refused. -/
inductive Proceeds (providers : List Config.Provider) (p : Config.Provider) (t : Config.Tenant) :
    Request → Prop
  | asks {source : Nat} {request : AuthRequest} (hs : providers[source]? = some p)
      (ha : p.Asks t request) : Proceeds providers p t (.authenticate source request)
  | waits (wait : Duration) : Proceeds providers p t (.sleep wait)
  | found (n : Nat) : Proceeds providers p t (.done (.cached n))
  | failed {failure : GaveUp CatalogError} (h : ∀ tenant, failure.error ≠ .missingDomain tenant) :
      Proceeds providers p t (.done (.failed (.initFailed failure)))

theorem asks_of_suits {request : AuthRequest} {o : Option OpenTenant}
    (hs : Suits { TenantCache.ofConfig source p t with opened := o } catalog)
    (hr : catalog.request? = .ok request) : p.Asks t request := by
  obtain ⟨version, hversion, rfl⟩ := Catalog.of?_eq_some_iff.mp hs.made
  obtain ⟨domain, hask, hplain, hdomain⟩ | ⟨-, -, hnone⟩ :=
    Catalog.request?_cases ⟨version,
      TenantCache.target { TenantCache.ofConfig source p t with opened := o }, {}⟩
  · obtain rfl := Except.ok.inj (hask.symm.trans hr)
    exact ⟨hversion, rfl, rfl, rfl, rfl, rfl, rfl, hplain, hdomain⟩
  · cases hnone.symm.trans hr

/-- A cache that is not open has no pools to drain, and who leaves it comes to an end at once. -/
theorem leave_unopened (hc : d.cache? n = some c) (ho : c.opened = none) (outcome : Outcome) :
    d.leave n outcome = some (d.letGo n, .done outcome) := by
  have hpools : (d.letGo n).poolsOf n = [] :=
    poolsOf_of_unopened ((cache?_letGo n n).trans hc) ho
  simp only [leave]
  split
  · rw [drainCache, doomedPools, hpools, Arrangement.arrange_nil]
    rfl
  · rfl

theorem register_failed (hc : d.cache? n = some c) (ho : c.opened = none) (error : TenantError) :
    d.finish n (.error error) (.register key) = some (d.letGo n, .done (.failed error)) :=
  leave_unopened hc ho (.failed error)

/-- Whoever has opened a cache gets one at once. -/
theorem register_opened (hfresh : d.Fresh n)
    (h : d.finish n (.ok ()) (.register key) = some step) : ∃ m, step.2 = .done (.cached m) := by
  simp only [finish] at h
  split at h
  · rename_i stored hs
    have hheld : ((d.hold stored).letGo n).Fresh n := by
      intro m hm
      rw [poolsOf, cache?_letGo, cache?_hold] at hm
      exact hfresh m hm
    obtain ⟨yard, rfl, -⟩ := leave_fresh hheld h
    exact ⟨stored, rfl⟩
  · cases h
    exact ⟨n, rfl⟩

theorem judge_register {now : Instant} {answer : Except IdentityError Grant}
    {providers : List Config.Provider} (hc : d.cache? n = some c) (ho : c.opened = none)
    (h : d.judge n c bounds catalog tries (.register key) (catalog.evaluate now answer) =
      some step) : Proceeds providers p t step.2 := by
  have hrec := ((calm_record d catalog.version (catalog.evaluate now answer)).caches n).trans hc
  obtain ⟨error, hresult, h⟩ | ⟨error, wait, -, -, rfl⟩ | ⟨s, -, h⟩ := judge_cases h
  · rw [register_failed hrec ho] at h
    cases h
    exact .failed (Catalog.evaluate_ne_missingDomain hresult)
  · exact .waits _
  · obtain ⟨m, hm⟩ := register_opened (fresh_openTenant hrec catalog bounds s _) h
    rw [hm]
    exact .found m

namespace History

variable {s s' : History} {moves : List Move} {deed : Deed} {r : Request}

theorem providers_of_run {providers : List Config.Provider} (hs : run providers moves = some s) :
    s.desk.providers = providers :=
  runFrom_keeps (s := ⟨{ providers }, []⟩) (P := fun _ x => x.desk.providers = providers)
    (fun h _ hx => h.providers.trans hx) (fun _ h => h) rfl (sound_start providers) hs

/-- The tenant that a key stands for in a checked configuration. -/
theorem belongs_checked (hs : run config.providers moves = some s) (hv : config.problems = [])
    (hp : p ∈ config.providers) (ht : t ∈ p.tenants) (h : s.desk.Belongs (p.name, t.name) c) :
    ∃ source, config.providers[source]? = some p ∧
      c = { TenantCache.ofConfig source p t with opened := c.opened } := by
  obtain ⟨source, p', t', hprovider, htenant, hc⟩ := h
  have hcomplete := ((Config.problems_eq_nil_iff.mp hv).1 p hp).2
  have hsame := provider?_checked hv (providers_of_run hs) p.name
  rw [hprovider, Config.provider?_of_mem hv hp] at hsame
  obtain rfl : p' = p := Option.some.inj hsame
  obtain rfl : t' = t := Option.some.inj (htenant.symm.trans (hcomplete.tenant? ht))
  obtain ⟨hsource, -⟩ := provider?_eq_some hprovider
  rw [providers_of_run hs] at hsource
  exact ⟨source, hsource, hc⟩

theorem getOrOpen_checked (hs : run config.providers moves = some s) (hv : config.problems = [])
    (hp : p ∈ config.providers) (ht : t ∈ p.tenants) : ∃ step,
      s.desk.getOrOpen (p.name, t.name) = some step ∧ Proceeds config.providers p t step.2 := by
  have hcomplete := ((Config.problems_eq_nil_iff.mp hv).1 p hp).2
  unfold getOrOpen
  cases hk : s.desk.registered? (p.name, t.name) with
  | some n => exact ⟨_, rfl, .found n⟩
  | none =>
    have hsame := provider?_checked hv (providers_of_run hs) p.name
    rw [Config.provider?_of_mem hv hp] at hsame
    obtain ⟨⟨source, p'⟩, hprovider, rfl⟩ := Option.map_eq_some_iff.mp hsame
    obtain ⟨hsource, -⟩ := provider?_eq_some hprovider
    rw [providers_of_run hs] at hsource
    simp only [hprovider, hcomplete.tenant? ht]
    obtain ⟨catalog, request, hsuits, hask, hstep⟩ | ⟨hopeless, -⟩ :=
      startInit_cases (c := TenantCache.ofConfig source p' t) (s.desk.add _).1
        s.desk.caches.length (.register (p'.name, t.name)) rfl
    · exact ⟨_, hstep, .asks hsource (asks_of_suits (o := none) hsuits hask)⟩
    · exact absurd hopeless (not_hopeless_of_complete hcomplete ht source)

theorem answer_checked {f : Frame} {reply : Reply} (hs : run config.providers moves = some s)
    (hv : config.problems = []) (hp : p ∈ config.providers) (ht : t ∈ p.tenants)
    (hf : f.Opens n catalog (.register (p.name, t.name))) (h : s.Takes (.answer f reply) r s') :
    Proceeds config.providers p t r := by
  obtain ⟨frames, step, hframes, hstep, rfl, rfl⟩ := h.of_answer
  have hmem : f ∈ s.desk.frames := hframes ▸ List.mem_cons_self
  obtain ⟨c, hc, hsuits, hbelongs⟩ := (fit_of_run hs).waiting f hmem n catalog _ hf
  obtain ⟨source, hsource, hconfig⟩ := belongs_checked hs hv hp ht (hbelongs _ rfl)
  have hunopened := unopened_of_popped (sound_of_run hs) hframes hf.opening? hc
  obtain ⟨bounds, hb⟩ := hsuits.sized
  cases hf with
  | authenticating =>
    cases reply with
    | answered now answer =>
      rw [reply_answered hframes hc hb] at hstep
      exact judge_register hunopened.1 hunopened.2.1 hstep
    | succeeded | failed | slept | finished | unwind =>
      simp only [Desk.reply, hframes] at hstep
      cases hstep
  | sleeping =>
    cases reply with
    | slept =>
      rw [reply_slept hframes hc hb] at hstep
      obtain ⟨request, hask⟩ := hsuits.asks
      simp only [attempt, hask] at hstep
      cases hstep
      rw [hconfig] at hsuits ⊢
      exact .asks hsource (asks_of_suits hsuits hask)
    | succeeded | failed | answered | finished | unwind =>
      simp only [Desk.reply, hframes] at hstep
      cases hstep

/-- A cache that lacks what opening it rests on is never open. -/
theorem hopeless_closed {providers : List Config.Provider} (hs : run providers moves = some s)
    (hc : s.desk.cache? n = some c) (h : Hopeless c) : c.opened = none := by
  cases ho : c.opened with
  | none => rfl
  | some o =>
    obtain ⟨catalog, snapshot, hsuits, -⟩ := (fit_of_run hs).opened n c o hc ho
    exact absurd hsuits h.not_suits

/-- Who tries to open such a cache is told so at once. -/
theorem tryOpenCache_hopeless (hc : s.desk.cache? n = some c) (ho : c.opened = none)
    (h : Hopeless c) : ∃ (d' : Desk) (error : TenantError), d'.caches = s.desk.caches ∧
      d'.frames = s.desk.frames ∧ s.desk.call (.tryOpenCache n) =
        if s.desk.isShared n then none else some (d', .done (.failed error)) := by
  obtain ⟨catalog, request, hsuits, -⟩ | ⟨-, d', error, hcaches, hframes, hstep⟩ :=
    startInit_cases s.desk n .explain ho
  · exact absurd hsuits h.not_suits
  · refine ⟨d', error, hcaches, hframes, ?_⟩
    simp only [Desk.call, hc, Option.bind_eq_bind, Option.bind_some, hstep, finish]

/-- Who looks for the cache of a tenant of a checked configuration finds the same provider and the
same tenant as the configuration, asks the identity service as these say, and fails only if that
service refuses. A cache that lacks what opening it rests on is never open, and who tries to open it
is told so without anybody being asked. -/
theorem checked_before_asking (hs : run config.providers moves = some s) :
    (config.problems = [] →
      (∀ name, (s.desk.provider? name).map Prod.snd = config.provider? name) ∧
      ∀ p ∈ config.providers, ∀ t ∈ p.tenants,
        config.provider? p.name = some p ∧ p.tenant? t.name = some t ∧
        (∃ r s', s.Takes (.call (.getOrOpen (p.name, t.name))) r s') ∧
        ∀ deed r s', s.Takes deed r s' → deed.Seeks (p.name, t.name) →
          Proceeds config.providers p t r) ∧
    ∀ n c, s.desk.cache? n = some c → Hopeless c → c.opened = none ∧
      (s.allows (.tryOpenCache n) = true → s.desk.isShared n = false →
        ∃ r s', s.Takes (.call (.tryOpenCache n)) r s') ∧
      ∀ r s', s.Takes (.call (.tryOpenCache n)) r s' → ∃ error, r = .done (.failed error) ∧
        s'.desk.caches = s.desk.caches ∧ s'.desk.frames = s.desk.frames := by
  refine ⟨?_, ?_⟩
  · intro hv
    refine ⟨provider?_checked hv (providers_of_run hs), ?_⟩
    intro p hp t ht
    have hcomplete := ((Config.problems_eq_nil_iff.mp hv).1 p hp).2
    obtain ⟨step, hstep, hproceeds⟩ := getOrOpen_checked hs hv hp ht
    refine ⟨Config.provider?_of_mem hv hp, hcomplete.tenant? ht, ?_, ?_⟩
    · exact ⟨_, _, takes_call (c := .getOrOpen (p.name, t.name)) rfl hstep⟩
    · intro deed r s' h hseeks
      cases hseeks with
      | call =>
        obtain ⟨step', -, hstep', rfl, rfl⟩ := h.of_call
        obtain rfl := Option.some.inj (hstep.symm.trans hstep')
        exact hproceeds
      | answer hf => exact answer_checked hs hv hp ht hf h
  · intro n c hc hopeless
    have hclosed := hopeless_closed hs hc hopeless
    obtain ⟨d', error, hcaches, hframes, hcall⟩ := tryOpenCache_hopeless hc hclosed hopeless
    refine ⟨hclosed, ?_, ?_⟩
    · intro ha hshared
      rw [hshared, if_neg Bool.false_ne_true] at hcall
      exact ⟨_, _, takes_call ha hcall⟩
    · intro r s' h
      obtain ⟨step, -, hstep, rfl, rfl⟩ := h.of_call
      rw [hcall] at hstep
      split at hstep
      · cases hstep
      · cases hstep
        exact ⟨error, rfl, hcaches, hframes⟩

/-- A provider behind a proxy, with a tenant that has a password. -/
def guarded : Config.Provider :=
  { cloud with
    proxy := some ⟨"gate", 3128⟩
    trustedHosts := ["inside"]
    tenants := [{ name := "demo", userid := "ops", password := "secret" }] }

/-- A tenant's cache as somebody makes it who has forgotten the domain. -/
def domainless : TenantCache :=
  { ownCache with provider := { name := "cloud", identityUrl := "a:/v3" } }

theorem checked_before_asking_domainless : ∃ s s' t request error,
    run [guarded] [.make domainless] = some s ∧
    Config.problems { providers := [guarded] } = [] ∧
    request = ⟨.v2, "a:/v2", "demo", none, ⟨"ops", "secret"⟩,
      ⟨some ⟨"gate", 3128⟩, ["inside"]⟩⟩ ∧
    s.Takes (.call (.getOrOpen ("cloud", "demo"))) (.authenticate 0 request) s' ∧
    Proceeds [guarded] guarded { name := "demo", userid := "ops", password := "secret" }
      (.authenticate 0 request) ∧
    s.desk.cache? 0 = some domainless ∧
    s.Takes (.call (.tryOpenCache 0)) (.done (.failed error)) t ∧
    t.desk.frames = s.desk.frames := by
  have hv : Config.problems { providers := [guarded] } = [] := by
    decide +kernel
  have hversion : domainless.provider.version? = some .v3 := by
    decide +kernel
  have hs : run (Config.providers { providers := [guarded] }) [.make domainless] = some _ := rfl
  have hcall : (run [guarded] [.make domainless]).bind (fun s =>
      (s.desk.call (.getOrOpen ("cloud", "demo"))).map Prod.snd) =
      some (.authenticate 0 ⟨.v2, "a:/v2", "demo", none, ⟨"ops", "secret"⟩,
        ⟨some ⟨"gate", 3128⟩, ["inside"]⟩⟩) := by
    decide +kernel
  rw [hs, Option.bind_some] at hcall
  obtain ⟨step, hcall, hasks⟩ := Option.map_eq_some_iff.mp hcall
  have htakes := takes_call rfl hcall
  rw [hasks] at htakes
  obtain ⟨hchecked, hopeless⟩ := checked_before_asking hs
  obtain ⟨-, -, -, hproceeds⟩ := (hchecked hv).2 guarded List.mem_cons_self _ List.mem_cons_self
  have hdomain : Hopeless domainless := .undomained hversion (by simp [domainless, ownCache])
  obtain ⟨-, hmakes, hfails⟩ := hopeless 0 domainless rfl hdomain
  obtain ⟨r, t, htry⟩ := hmakes rfl rfl
  obtain ⟨error, rfl, -, hframes⟩ := hfails r t htry
  exact ⟨_, _, t, _, error, hs, hv, rfl, htakes, hproceeds _ _ _ htakes .call, rfl, htry, hframes⟩

end History
end Tenancy.Desk
