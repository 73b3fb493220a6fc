import Tenancy.Proofs.Config
import Tenancy.Proofs.Desk.Aside
import Tenancy.Proofs.Desk.Opening

namespace Tenancy.Desk

variable {d d' d'' : Desk} {step : Desk × Request} {n m : Nat} {c : TenantCache}
  {catalog : Catalog} {purpose : Purpose} {f : Frame} {frames : List Frame} {key : Key}

/-- What an operation leaves alone that opens nothing. It may hold caches and let them go, it may
take entries out of the registry, and nobody begins to wait for a cache to be opened. -/
structure Calm (d d' : Desk) : Prop where
  providers : d'.providers = d.providers
  caches : ∀ n, d'.cache? n = d.cache? n
  registry : d'.registry ⊆ d.registry
  frames : ∀ f ∈ d'.frames, f.opening? ≠ none → f ∈ d.frames

theorem Calm.refl (d : Desk) : Calm d d :=
  ⟨rfl, fun _ => rfl, List.Subset.refl _, fun _ hf _ => hf⟩

theorem Calm.trans (h : Calm d d') (h' : Calm d' d'') : Calm d d'' :=
  ⟨h'.providers.trans h.providers, fun n => (h'.caches n).trans (h.caches n),
    List.Subset.trans h'.registry h.registry, fun f hf ho => h.frames f (h'.frames f hf ho) ho⟩

theorem calm_push (hf : f.opening? = none) : Calm d (d.push f) := by
  refine ⟨rfl, fun _ => rfl, List.Subset.refl _, ?_⟩
  intro g hg ho
  rcases List.mem_cons.mp hg with rfl | hg
  · exact absurd hf ho
  · exact hg

theorem calm_pop (hf : d.frames = f :: frames) : Calm d { d with frames } := by
  refine ⟨rfl, fun _ => rfl, List.Subset.refl _, ?_⟩
  intro g hg _
  rw [hf]
  exact List.mem_cons_of_mem f hg

theorem calm_yard (d : Desk) (yard : Yard) : Calm d { d with yard } :=
  ⟨rfl, fun _ => rfl, List.Subset.refl _, fun _ hf _ => hf⟩

theorem Aside.calm (h : Aside d d') : Calm d d' := by
  refine ⟨h.providers, h.caches, h.registry, ?_⟩
  intro f hf ho
  have hasks : (!f.isAside) = true := by
    cases f with
    | authenticating | sleeping => rfl
    | _ => exact absurd rfl ho
  have hmem : f ∈ d'.askers := List.mem_filter.mpr ⟨hf, hasks⟩
  rw [h.askers] at hmem
  exact (List.mem_filter.mp hmem).1

theorem Passes.calm (h : Passes d step) : Calm d step.1 := h.aside.calm

theorem calm_record (d : Desk) (version : IdentityVersion)
    (result : Except CatalogError Snapshot) : Calm d (d.record version result) := by
  cases result with
  | ok s => exact calm_yard d _
  | error error => exact calm_yard d _

theorem refresh_calm (h : d.refresh n c = some step) : Calm d step.1 := by
  unfold refresh at h
  split at h
  · cases h
    exact .refl d
  · split at h
    · cases h
      exact calm_record d _ _
    · cases h
      exact (aside_hold d n).calm.trans (calm_push rfl)

/-- Calls that do not open a cache. -/
def Call.opensNone : Call → Bool
  | .openCache _ | .tryOpenCache _ | .getOrOpen _ => false
  | _ => true

theorem call_calm {call : Call} (hc : call.opensNone = true) (h : d.call call = some step) :
    Calm d step.1 := by
  cases call with
  | openCache | tryOpenCache | getOrOpen => cases hc
  | refresh n =>
    obtain ⟨c, -, h⟩ := Option.bind_eq_some_iff.mp h
    exact refresh_calm h
  | _ => exact (call_passes rfl h).calm

/-- An initialization ends without another change than that its cache is registered. -/
theorem finish_calm {result : Except TenantError Unit} (h : d.finish n result purpose = some step) :
    Calm d step.1 ∨ ∃ key, purpose = .register key ∧ result = .ok () ∧
      step = ({ d.hold n with registry := d.registry ++ [(key, n)] }, .done (.cached n)) := by
  cases purpose with
  | report =>
    cases result with
    | ok u =>
      cases h
      exact .inl (.refl d)
    | error error =>
      cases h
      exact .inl (calm_yard d _)
  | explain =>
    cases result with
    | ok u | error error =>
      cases h
      exact .inl (.refl d)
  | register key =>
    cases result with
    | error error => exact .inl (leave_passes h).calm
    | ok u =>
      simp only [finish] at h
      split at h
      · exact .inl ((aside_hold d _).passes (leave_passes h)).calm
      · cases h
        exact .inr ⟨key, rfl, rfl, rfl⟩

/-- The cache can be opened, and that is the catalog that it is opened with. -/
structure Suits (c : TenantCache) (catalog : Catalog) : Prop where
  sized : ∃ bounds, c.provider.pool.bounds = .ok bounds
  made : Catalog.of? c.target = some catalog
  asks : ∃ request, catalog.request? = .ok request

/-- The cache is for the tenant of that key. -/
def Belongs (d : Desk) (key : Key) (c : TenantCache) : Prop :=
  ∃ source p t, d.provider? key.1 = some (source, p) ∧ p.tenant? key.2 = some t ∧
    c = { TenantCache.ofConfig source p t with opened := c.opened }

/-- Who waits so opens cache `n` with that catalog. -/
inductive Frame.Opens (n : Nat) (catalog : Catalog) (purpose : Purpose) : Frame → Prop
  | authenticating {tries} : Opens n catalog purpose (.authenticating n catalog tries purpose)
  | sleeping {tries} : Opens n catalog purpose (.sleeping n catalog tries purpose)

/-- Caches are opened with the catalogs that suit them, and registered for their own tenants.
Whatever open ones have learned is as `accepts` says. -/
structure Fit (accepts : CatalogTarget → Snapshot → Prop) (d : Desk) : Prop where
  waiting : ∀ f ∈ d.frames, ∀ n catalog purpose, f.Opens n catalog purpose →
    ∃ c, d.cache? n = some c ∧ Suits c catalog ∧ ∀ key, purpose = .register key → d.Belongs key c
  opened : ∀ n c o, d.cache? n = some c → c.opened = some o →
    ∃ catalog s, Suits c catalog ∧ o.catalog = catalog.publish s ∧ accepts c.target s
  registered : ∀ key n, (key, n) ∈ d.registry → ∃ c, d.cache? n = some c ∧ d.Belongs key c

variable {accepts : CatalogTarget → Snapshot → Prop} {bounds : PoolBounds} {tries : UInt32}
  {s : Snapshot}

theorem provider?_congr (h : d'.providers = d.providers) (name : String) :
    d'.provider? name = d.provider? name := by
  rw [provider?, h, provider?]

theorem Belongs.congr (h : d.Belongs key c) (hp : d'.providers = d.providers) :
    d'.Belongs key c := by
  obtain ⟨source, p, t, hprovider, htenant, hc⟩ := h
  exact ⟨source, p, t, (provider?_congr hp _).trans hprovider, htenant, hc⟩

/-- Whether a cache is open has nothing to do with whose it is. -/
theorem Belongs.reopen (h : d.Belongs key c) (opened : Option OpenTenant) :
    d.Belongs key { c with opened } := by
  obtain ⟨source, p, t, hprovider, htenant, hc⟩ := h
  refine ⟨source, p, t, hprovider, htenant, ?_⟩
  rw [hc]

theorem Suits.reopen (h : Suits c catalog) (opened : Option OpenTenant) :
    Suits { c with opened } catalog :=
  ⟨h.sized, h.made, h.asks⟩

theorem Frame.Opens.opening? (h : f.Opens n catalog purpose) : f.opening? = some n := by
  cases h <;> rfl

theorem Fit.calm (h : Fit accepts d) (hc : Calm d d') : Fit accepts d' := by
  refine ⟨?_, ?_, ?_⟩
  · intro f hf n catalog purpose ho
    obtain ⟨c, hcache, hs, hk⟩ :=
      h.waiting f (hc.frames f hf (by simp [ho.opening?])) n catalog purpose ho
    exact ⟨c, (hc.caches n).trans hcache, hs, fun key hp => (hk key hp).congr hc.providers⟩
  · intro n c o hcache
    exact h.opened n c o ((hc.caches n).symm.trans hcache)
  · intro key n hn
    obtain ⟨c, hcache, hk⟩ := h.registered key n (hc.registry hn)
    exact ⟨c, (hc.caches n).trans hcache, hk.congr hc.providers⟩

theorem Fit.push (h : Fit accepts d) (hf : f.Opens n catalog purpose) (hc : d.cache? n = some c)
    (hs : Suits c catalog) (hk : ∀ key, purpose = .register key → d.Belongs key c) :
    Fit accepts (d.push f) := by
  refine ⟨?_, h.opened, h.registered⟩
  intro g hg m catalog' purpose' ho
  rcases List.mem_cons.mp hg with rfl | hg
  · cases hf <;> cases ho <;> exact ⟨c, hc, hs, hk⟩
  · exact h.waiting g hg m catalog' purpose' ho

theorem Fit.add (h : Fit accepts d) (hc : c.opened = none) : Fit accepts (d.add c).1 := by
  refine ⟨?_, ?_, ?_⟩
  · intro f hf n catalog purpose ho
    obtain ⟨c', hcache, hs, hk⟩ := h.waiting f hf n catalog purpose ho
    exact ⟨c', cache?_add_of_some hcache c, hs, hk⟩
  · intro n c' o hcache ho
    obtain hcache | ⟨-, rfl⟩ := cache?_add_cases hcache
    · exact h.opened n c' o hcache ho
    · cases hc.symm.trans ho
  · intro key n hn
    obtain ⟨c', hcache, hk⟩ := h.registered key n hn
    exact ⟨c', cache?_add_of_some hcache c, hk⟩

/-- A cache is opened, or learns something new. -/
theorem Fit.reopen {o : OpenTenant} (h : Fit accepts d) (hc : d.cache? n = some c)
    (hs : Suits c catalog) (ho : o.catalog = catalog.publish s) (ha : accepts c.target s)
    (hcaches : ∀ m, d'.cache? m = if n = m then some { c with opened := some o } else d.cache? m)
    (hp : d'.providers = d.providers) (hf : d'.frames = d.frames)
    (hr : d'.registry = d.registry) : Fit accepts d' := by
  have hcache {m : Nat} {c' : TenantCache} (hc' : d.cache? m = some c') :
      ∃ opened, d'.cache? m = some { c' with opened } := by
    rw [hcaches]
    split
    · rename_i hm
      subst hm
      obtain rfl := Option.some.inj (hc.symm.trans hc')
      exact ⟨some o, rfl⟩
    · exact ⟨c'.opened, hc'⟩
  refine ⟨?_, ?_, ?_⟩
  · intro f hmem m catalog' purpose hopens
    obtain ⟨c', hc', hs', hk⟩ := h.waiting f (hf ▸ hmem) m catalog' purpose hopens
    obtain ⟨opened, hnew⟩ := hcache hc'
    exact ⟨_, hnew, hs'.reopen opened,
      fun key hpurpose => ((hk key hpurpose).reopen opened).congr hp⟩
  · intro m c' o' hc' ho'
    rw [hcaches] at hc'
    split at hc'
    · cases hc'
      cases ho'
      exact ⟨catalog, s, hs.reopen _, ho, ha⟩
    · exact h.opened m c' o' hc' ho'
  · intro key m hm
    obtain ⟨c', hc', hk⟩ := h.registered key m (hr ▸ hm)
    obtain ⟨opened, hnew⟩ := hcache hc'
    exact ⟨_, hnew, (hk.reopen opened).congr hp⟩

theorem Fit.register (h : Fit accepts d) (hc : d.cache? n = some c) (hk : d.Belongs key c) :
    Fit accepts { d with registry := d.registry ++ [(key, n)] } := by
  refine ⟨h.waiting, h.opened, ?_⟩
  intro key' m hm
  rcases List.mem_append.mp hm with hm | hm
  · exact h.registered key' m hm
  · obtain ⟨rfl, rfl⟩ := Prod.mk.inj (List.mem_singleton.mp hm)
    exact ⟨c, hc, hk⟩

theorem Fit.finish {result : Except TenantError Unit} (h : Fit accepts d)
    (hc : d.cache? n = some c) (hk : ∀ key, purpose = .register key → d.Belongs key c)
    (hstep : d.finish n result purpose = some step) : Fit accepts step.1 := by
  obtain hcalm | ⟨key, hp, -, rfl⟩ := finish_calm hstep
  · exact h.calm hcalm
  · have hheld : (d.hold n).cache? n = some c := (cache?_hold n n).trans hc
    exact (h.calm (aside_hold d n).calm).register hheld (hk key hp)

theorem Fit.judge {result : Except CatalogError Snapshot} (h : Fit accepts d)
    (hc : d.cache? n = some c) (hs : Suits c catalog)
    (hk : ∀ key, purpose = .register key → d.Belongs key c)
    (ha : ∀ s, result = .ok s → accepts c.target s)
    (hstep : d.judge n c bounds catalog tries purpose result = some step) :
    Fit accepts step.1 := by
  have hrec := h.calm (calm_record d catalog.version result)
  have hcache := ((calm_record d catalog.version result).caches n).trans hc
  have hkey (key : Key) (hp : purpose = .register key) :
      (d.record catalog.version result).Belongs key c :=
    (hk key hp).congr (calm_record d catalog.version result).providers
  obtain ⟨error, -, hstep⟩ | ⟨error, wait, -, -, rfl⟩ | ⟨s, rfl, hstep⟩ := judge_cases hstep
  · exact hrec.finish hcache hkey hstep
  · exact hrec.push .sleeping hcache hs hkey
  · have hopened := cache?_openTenant hcache catalog bounds s (s.project?.getD ⟨"", c.requested⟩)
    have hfit : Fit accepts ((d.record catalog.version (.ok s)).openTenant n c catalog bounds s
        (s.project?.getD ⟨"", c.requested⟩)) :=
      hrec.reopen hcache hs rfl (ha s rfl) hopened rfl rfl rfl
    refine hfit.finish ((hopened n).trans (if_pos rfl)) ?_ hstep
    intro key hp
    exact ((hkey key hp).reopen _).congr rfl

/-- Nobody is asked for a catalog that needs a domain and has none. -/
theorem attempt_undomained {tenant : String}
    (h : catalog.request? = .error (.missingDomain tenant)) :
    d.attempt n c bounds catalog tries purpose =
      ((d.count (.initAttempts c.provider.name)).record catalog.version
        (.error (.missingDomain tenant))).finish n
          (.error (.initFailed ⟨.missingDomain tenant, tries⟩)) purpose := by
  simp [attempt, h, judge, RetryPolicy.judge, CatalogError.isConnection]

theorem Fit.attempt (h : Fit accepts d) (hc : d.cache? n = some c)
    (hb : ∃ bounds, c.provider.pool.bounds = .ok bounds)
    (hcatalog : Catalog.of? c.target = some catalog)
    (hk : ∀ key, purpose = .register key → d.Belongs key c)
    (hstep : d.attempt n c bounds catalog tries purpose = some step) : Fit accepts step.1 := by
  have hcount : Fit accepts (d.count (.initAttempts c.provider.name)) := h.calm (calm_yard d _)
  obtain ⟨domain, hask, -⟩ | ⟨-, -, hask⟩ := catalog.request?_cases
  · simp only [Desk.attempt, hask] at hstep
    cases hstep
    exact hcount.push .authenticating hc ⟨hb, hcatalog, _, hask⟩ hk
  · rw [attempt_undomained hask] at hstep
    have hcalm := calm_record (d.count (.initAttempts c.provider.name)) catalog.version
      (.error (.missingDomain catalog.target.tenant))
    exact (hcount.calm hcalm).finish ((hcalm.caches n).trans hc) hk hstep

theorem Fit.startInit (h : Fit accepts d) (hc : d.cache? n = some c)
    (hk : ∀ key, purpose = .register key → d.Belongs key c)
    (hstep : d.startInit n c purpose = some step) : Fit accepts step.1 := by
  unfold Desk.startInit at hstep
  split at hstep
  · exact h.finish hc hk hstep
  · split at hstep
    · exact h.finish hc hk hstep
    · rename_i bounds hb
      split at hstep
      · exact (h.calm (aside_note d .unsupportedVersion).calm).finish hc hk hstep
      · rename_i catalog hcatalog
        exact h.attempt hc ⟨bounds, hb⟩ hcatalog hk hstep

theorem Fit.getOrOpen (h : Fit accepts d) (hstep : d.getOrOpen key = some step) :
    Fit accepts step.1 := by
  obtain ⟨n, -, rfl⟩ | ⟨error, -, rfl⟩ | ⟨source, p, t, hp, ht, hstep⟩ := getOrOpen_cases hstep
  · exact h.calm (aside_hold d n).calm
  · exact h
  · have hadd : Fit accepts (d.add (TenantCache.ofConfig source p t)).1 := h.add rfl
    refine hadd.startInit (cache?_add_self d _) ?_ hstep
    intro key' hkey
    cases hkey
    exact ⟨source, p, t, hp, ht, rfl⟩

theorem Fit.call {call : Call} (h : Fit accepts d) (hstep : d.call call = some step) :
    Fit accepts step.1 := by
  cases call with
  | openCache n | tryOpenCache n =>
    simp only [Desk.call] at hstep
    split at hstep
    · cases hstep
    · obtain ⟨c, hc, hstep⟩ := Option.bind_eq_some_iff.mp hstep
      exact h.startInit hc (by simp) hstep
  | getOrOpen key => exact h.getOrOpen hstep
  | _ => exact h.calm (call_calm rfl hstep)

theorem Fit.refreshed {o : OpenTenant} {now : Instant} {answer : Except IdentityError Grant}
    (h : Fit accepts d) (hc : d.cache? n = some c) (ho : c.opened = some o)
    (ha : ∀ s, o.catalog.evaluate now answer = .ok s → accepts c.target s)
    (hstep : d.refreshed n o c now answer = some step) : Fit accepts step.1 := by
  simp only [Desk.refreshed] at hstep
  split at hstep
  · exact h.calm ((calm_record d _ _).trans (leave_passes hstep).calm)
  · rename_i s hr
    have hrec := h.calm (calm_record d o.catalog.version (o.catalog.evaluate now answer))
    have hcache := ((calm_record d o.catalog.version (o.catalog.evaluate now answer)).caches n).trans
      hc
    obtain ⟨catalog, s', hs, hcatalog, -⟩ := h.opened n c o hc ho
    have hpublished := cache?_setCache hcache (c.publish s)
    have hopened : c.publish s =
        { c with opened := some { o with catalog := catalog.publish s } } := by
      rw [TenantCache.publish, ho, Option.map_some, hcatalog]
      rfl
    rw [hopened] at hpublished
    exact (hrec.reopen hcache hs rfl (ha s hr) hpublished rfl rfl rfl).calm
      (leave_passes (hopened ▸ hstep)).calm

/-- What a reply is learned from is accepted, and everything stays as it should be. -/
theorem Fit.reply {r : Reply} (h : Fit accepts d) (hf : d.frames = f :: frames)
    (ha : ∀ n s c, d.learns (.answer f r) = some (n, s) → d.cache? n = some c →
      accepts c.target s)
    (hstep : d.reply r = some step) : Fit accepts step.1 := by
  have hpop : Fit accepts { d with frames } := h.calm (calm_pop hf)
  by_cases haside : f.isAside = true
  · exact h.calm (reply_passes hf haside hstep).calm
  simp only [Desk.reply, hf] at hstep
  cases f with
  | authenticating n catalog tries purpose =>
    cases r with
    | answered now answer =>
      obtain ⟨c, hc, hstep⟩ := Option.bind_eq_some_iff.mp hstep
      obtain ⟨bounds, -, hstep⟩ := Option.bind_eq_some_iff.mp hstep
      obtain ⟨c', hc', hs, hk⟩ :=
        h.waiting _ (hf ▸ List.mem_cons_self) n catalog purpose .authenticating
      obtain rfl := Option.some.inj (hc'.symm.trans hc)
      refine hpop.judge hc hs hk ?_ hstep
      intro s hr
      refine ha n s c' ?_ hc
      change (catalog.evaluate now answer).toOption.map (n, ·) = _
      rw [hr]
      rfl
    | succeeded | failed | slept | finished | unwind => cases hstep
  | sleeping n catalog tries purpose =>
    cases r with
    | slept =>
      obtain ⟨c, hc, hstep⟩ := Option.bind_eq_some_iff.mp hstep
      obtain ⟨bounds, -, hstep⟩ := Option.bind_eq_some_iff.mp hstep
      obtain ⟨c', hc', hs, hk⟩ :=
        h.waiting _ (hf ▸ List.mem_cons_self) n catalog purpose .sleeping
      obtain rfl := Option.some.inj (hc'.symm.trans hc)
      exact hpop.attempt hc hs.sized hs.made hk hstep
    | succeeded | failed | answered | finished | unwind => cases hstep
  | refreshing n =>
    cases r with
    | answered now answer =>
      obtain ⟨c, hc, hstep⟩ := Option.bind_eq_some_iff.mp hstep
      obtain ⟨o, ho, hstep⟩ := Option.bind_eq_some_iff.mp hstep
      refine hpop.refreshed hc ho ?_ hstep
      intro s hr
      refine ha n s c ?_ hc
      change ((d.cache? n).bind fun c => c.opened.bind _) = _
      rw [show d.cache? n = some c from hc, Option.bind_some, ho, Option.bind_some, hr]
      rfl
    | succeeded | failed | slept | finished | unwind => cases hstep
  | _ => exact absurd rfl haside

namespace History

variable {t t' : History} {moves : List Move} {providers : List Config.Provider} {move : Move}

theorem fit_advance (h : Fit accepts t.desk)
    (ha : ∀ e ∈ t'.events.head?, ∀ n s c, e.learned = some (n, s) → t.desk.cache? n = some c →
      accepts c.target s)
    (hm : t.advance move = some t') : Fit accepts t'.desk := by
  obtain ⟨c, hc, rfl⟩ | ⟨slots, pools, keys, rfl⟩ | ⟨call, step, -, hstep, rfl⟩ |
    ⟨f, frames, r, step, hf, hstep, rfl⟩ := advance_cases hm
  · exact h.add hc
  · exact h.calm (aside_reorder t.desk slots pools keys).calm
  · exact h.call hstep
  · exact h.reply hf (fun n s c => ha _ rfl n s c) hstep

theorem fit_start (providers : List Config.Provider) : Fit accepts ({ providers } : Desk) := by
  refine ⟨?_, ?_, ?_⟩
  · intro f hf
    cases hf
  · intro n c o hc
    cases hc
  · intro key n hn
    cases hn

theorem fit_of_run (hs : run providers moves = some t) : Fit (fun _ _ => True) t.desk :=
  foldlM_invariant (P := fun t : History => Fit (fun _ _ => True) t.desk) (fit_start providers)
    (fun _ _ _ _ h hm => fit_advance h (by simp) hm) hs

end History
end Tenancy.Desk
