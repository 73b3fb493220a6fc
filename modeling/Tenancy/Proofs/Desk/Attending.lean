import Tenancy.Proofs.Desk.Configured
import Tenancy.Proofs.Desk.Stack

namespace Tenancy.Desk

variable {d d' d'' : Desk} {step : Desk × Request} {n m : Nat} {c : TenantCache}
  {catalog : Catalog} {bounds : PoolBounds} {tries : UInt32} {purpose : Purpose} {f : Frame}
  {frames : List Frame} {key : Key} {charges charges' : List Counter}
  {accepts : CatalogTarget → Snapshot → Prop} {kept hand : List Thing}
  {news : List (Nat × Snapshot)}

/-- Beside reservations those are counted, and nothing of a cache changes but whether it is open. No
cache is new. -/
structure Spends (charges : List Counter) (d d' : Desk) : Prop where
  counted : ∀ counter : Counter, counter.isReservation = false →
    d'.yard.metrics.counted counter = d.yard.metrics.counted counter + charges.count counter
  caches : ∀ n c', d'.cache? n = some c' →
    ∃ c, d.cache? n = some c ∧ c' = { c with opened := c'.opened }

theorem Spends.trans (h : Spends charges d d') (h' : Spends charges' d' d'') :
    Spends (charges ++ charges') d d'' := by
  refine ⟨?_, ?_⟩
  · intro counter hc
    rw [h'.counted counter hc, h.counted counter hc, List.count_append, Nat.add_assoc]
  · intro n c'' hc''
    obtain ⟨c', hc', hsame'⟩ := h'.caches n c'' hc''
    obtain ⟨c, hc, hsame⟩ := h.caches n c' hc'
    refine ⟨c, hc, ?_⟩
    rw [hsame', hsame]

/-- The caches are the same. -/
theorem spends_of_caches (hc : ∀ n, d'.cache? n = d.cache? n)
    (h : ∀ counter : Counter, counter.isReservation = false →
      d'.yard.metrics.counted counter = d.yard.metrics.counted counter + charges.count counter) :
    Spends charges d d' :=
  ⟨h, fun n c' hc' => ⟨c', (hc n).symm.trans hc', rfl⟩⟩

theorem Aside.spends (h : Aside d d') : Spends [] d d' := spends_of_caches h.caches h.counted

theorem spends_frames (d : Desk) (frames : List Frame) : Spends [] d { d with frames } :=
  spends_of_caches (fun _ => rfl) fun _ _ => rfl

theorem spends_count (d : Desk) (counter : Counter) : Spends [counter] d (d.count counter) := by
  refine spends_of_caches (fun _ => rfl) fun other _ => ?_
  simp only [count, Metrics.counted_count, List.count_singleton, beq_iff_eq]

theorem spends_record (d : Desk) (version : IdentityVersion)
    (result : Except CatalogError Snapshot) :
    Spends [.catalogAuth version (Catalog.outcome result)] d (d.record version result) := by
  have hcount := spends_count d (.catalogAuth version (Catalog.outcome result))
  cases result with
  | ok s => exact hcount
  | error error => exact hcount.trans (aside_note _ _).spends

theorem spends_openTenant (hc : d.cache? n = some c) (catalog : Catalog) (bounds : PoolBounds)
    (s : Snapshot) (project : Project) :
    Spends [] d (d.openTenant n c catalog bounds s project) := by
  refine ⟨fun counter _ => ?_, fun m c' hc' => ?_⟩
  · rw [(work_openTenant d n c catalog bounds s project).2.2]
    rfl
  · rw [cache?_openTenant hc] at hc'
    split at hc'
    · rename_i hm
      cases hc'
      exact ⟨c, hm ▸ hc, rfl⟩
    · exact ⟨c', hc', rfl⟩

/-- Whoever began the initialization is told that it succeeded. -/
def Purpose.succeeds : Purpose → Outcome → Bool
  | .report, .flag value => value
  | .explain, .nothing | .register _, .cached _ => true
  | _, _ => false

theorem fresh_unopened (hc : d.cache? n = some c) (ho : c.opened = none) : d.Fresh n := by
  intro m hm
  rw [poolsOf_of_unopened hc ho] at hm
  cases hm

/-- The end tells whether the initialization succeeded. -/
theorem finish_tells {result : Except TenantError Unit} (hn : d.Fresh n)
    (h : d.finish n result purpose = some step) :
    (∃ outcome, step.2 = .done outcome ∧ purpose.succeeds outcome = result.toOption.isSome) ∧
      step.1.askers = d.askers ∧ Spends [] d step.1 := by
  have hleave {d' : Desk} {outcome : Outcome} (hd : Aside d d')
      (hfresh : (d'.letGo n).Fresh n) (h : d'.leave n outcome = some step) :
      step.2 = .done outcome ∧ step.1.askers = d.askers ∧ Spends [] d step.1 := by
    have haside := (hd.passes (leave_passes h)).aside
    obtain ⟨yard, rfl, -⟩ := leave_fresh hfresh h
    exact ⟨rfl, haside.askers, haside.spends⟩
  cases purpose with
  | report =>
    cases result with
    | ok u =>
      cases h
      exact ⟨⟨_, rfl, rfl⟩, rfl, (Aside.refl d).spends⟩
    | error error =>
      cases h
      exact ⟨⟨_, rfl, rfl⟩, rfl, (aside_note d _).spends⟩
  | explain =>
    cases result with
    | ok u | error error =>
      cases h
      exact ⟨⟨_, rfl, rfl⟩, rfl, (Aside.refl d).spends⟩
  | register key =>
    cases result with
    | error error =>
      have hfresh : (d.letGo n).Fresh n := by
        intro m hm
        rw [poolsOf, cache?_letGo] at hm
        exact hn m hm
      obtain ⟨hdone, hrest⟩ := hleave (Aside.refl d) hfresh h
      exact ⟨⟨_, hdone, rfl⟩, hrest⟩
    | ok u =>
      simp only [finish] at h
      split at h
      · rename_i stored hs
        have hfresh : ((d.hold stored).letGo n).Fresh n := by
          intro m hm
          rw [poolsOf, cache?_letGo, cache?_hold] at hm
          exact hn m hm
        obtain ⟨hdone, hrest⟩ := hleave (aside_hold d stored) hfresh h
        exact ⟨⟨_, hdone, rfl⟩, hrest⟩
      · cases h
        exact ⟨⟨_, rfl, rfl⟩, rfl, spends_of_caches (cache?_hold n) fun _ _ => rfl⟩

/-- An answer is counted as it turned out. Then there is another attempt after a wait, or that was
the end. -/
theorem judge_tells {result : Except CatalogError Snapshot} (hc : d.cache? n = some c)
    (ho : c.opened = none)
    (h : d.judge n c bounds catalog tries purpose result = some step) :
    Spends [.catalogAuth catalog.version (Catalog.outcome result)] d step.1 ∧
      ((∃ error wait next, result = .error error ∧ step.2 = .sleep wait ∧
        step.1.askers = .sleeping n catalog next purpose :: d.askers ∧
        next.toNat = tries.toNat + 1) ∨
      ∃ outcome, step.2 = .done outcome ∧ step.1.askers = d.askers ∧
        purpose.succeeds outcome = result.toOption.isSome) := by
  have hrec := spends_record d catalog.version result
  have haskers : (d.record catalog.version result).askers = d.askers := by
    cases result <;> rfl
  have hcache := ((calm_record d catalog.version result).caches n).trans hc
  obtain ⟨error, rfl, h⟩ | ⟨error, wait, rfl, hlt, rfl⟩ | ⟨s, rfl, h⟩ := judge_cases h
  · obtain ⟨⟨outcome, hdone, htold⟩, hsame, hspends⟩ := finish_tells (fresh_unopened hcache ho) h
    exact ⟨hrec.trans hspends, .inr ⟨outcome, hdone, hsame.trans haskers, htold⟩⟩
  · exact ⟨hrec.trans (spends_frames _ _),
      .inl ⟨error, wait, _, rfl, rfl, congrArg _ haskers, toNat_succ_of_lt hlt⟩⟩
  · have hfresh := fresh_openTenant hcache catalog bounds s (s.project?.getD ⟨"", c.requested⟩)
    obtain ⟨⟨outcome, hdone, htold⟩, hsame, hspends⟩ := finish_tells hfresh h
    have hopen := spends_openTenant hcache catalog bounds s (s.project?.getD ⟨"", c.requested⟩)
    exact ⟨hrec.trans (hopen.trans hspends), .inr ⟨outcome, hdone, hsame.trans haskers, htold⟩⟩

/-- Some cache's own catalog asks like that. -/
def Asks (d : Desk) (source : Nat) (request : AuthRequest) : Prop :=
  ∃ n c catalog, d.cache? n = some c ∧ c.source = source ∧ Suits c catalog ∧
    catalog.request? = .ok request

/-- What a step does for those who wait for the identity service. -/
inductive Attends (d : Desk) : Deed → Desk × Request → Prop
  | aside {deed step} (hd : ∀ f reply, deed = .answer f reply → f.isAside = true)
      (hp : step.1.Fetches step.2) (ha : step.1.askers = d.askers) (hs : Spends [] d step.1) :
      Attends d deed step
  /-- The cache cannot be opened, and nobody is asked. -/
  | fails {call step n c} (hc : d.cache? n = some c) (h : Hopeless c)
      (hp : step.1.Fetches step.2) : Attends d (.call call) step
  | begins {call d' n c catalog purpose request} (hc : d'.cache? n = some c)
      (hu : Suits c catalog) (hr : catalog.request? = .ok request)
      (ha : d'.askers = .authenticating n catalog 1 purpose :: d.askers)
      (hs : Spends [.initAttempts c.provider.name] d d') :
      Attends d (.call call) (d', .authenticate c.source request)
  | again {d' n c catalog tries purpose request rest} (hc : d'.cache? n = some c)
      (hu : Suits c catalog) (hr : catalog.request? = .ok request)
      (hd : d.askers = .sleeping n catalog tries purpose :: rest)
      (ha : d'.askers = .authenticating n catalog tries purpose :: rest)
      (hs : Spends [.initAttempts c.provider.name] d d') :
      Attends d (.answer (.sleeping n catalog tries purpose) .slept)
        (d', .authenticate c.source request)
  | waits {d' n catalog tries next purpose now answer error wait rest}
      (he : catalog.evaluate now answer = .error error)
      (hd : d.askers = .authenticating n catalog tries purpose :: rest)
      (ha : d'.askers = .sleeping n catalog next purpose :: rest)
      (hn : next.toNat = tries.toNat + 1)
      (hs : Spends [.catalogAuth catalog.version (Catalog.outcome (catalog.evaluate now answer))]
        d d') :
      Attends d (.answer (.authenticating n catalog tries purpose) (.answered now answer))
        (d', .sleep wait)
  | ends {d' n catalog tries purpose now answer outcome}
      (ho : purpose.succeeds outcome = (catalog.evaluate now answer).toOption.isSome)
      (hd : d.askers = .authenticating n catalog tries purpose :: d'.askers)
      (hs : Spends [.catalogAuth catalog.version (Catalog.outcome (catalog.evaluate now answer))]
        d d') :
      Attends d (.answer (.authenticating n catalog tries purpose) (.answered now answer))
        (d', .done outcome)
  /-- An open cache authenticates its catalog once more. -/
  | refreshes {deed step n}
      (hd : deed = .call (.refresh n) ∨ ∃ reply, deed = .answer (.refreshing n) reply)
      (hp : step.1.Fetches step.2 ∨ ∃ source request, step.2 = .authenticate source request ∧
        step.1.Asks source request) : Attends d deed step

theorem Passes.attends {deed : Deed} (h : Passes d step)
    (hd : ∀ f reply, deed = .answer f reply → f.isAside = true) : Attends d deed step :=
  .aside hd h.fetches h.aside.askers h.aside.spends

theorem startInit_attends {call : Call} (hc : d.cache? n = some c) (ho : c.opened = none)
    (h : d.startInit n c purpose = some step) : Attends d (.call call) step := by
  obtain ⟨catalog, request, hsuits, hask, hstep⟩ | ⟨hopeless, d', error, hcaches, -, hstep⟩ :=
    startInit_cases d n purpose ho
  · rw [hstep] at h
    cases h
    exact .begins hc hsuits hask rfl ((spends_count d _).trans (spends_frames _ _))
  · rw [hstep] at h
    have hcache : d'.cache? n = some c := by rw [cache?, hcaches]; exact hc
    obtain ⟨⟨outcome, hdone, -⟩, -⟩ := finish_tells (fresh_unopened hcache ho) h
    refine .fails hc hopeless ?_
    rw [hdone]
    exact .done outcome

/-- An open cache is asked to open. -/
theorem open_attends {call : Call} (hc : c.isOpen = true) (hp : ∀ key, purpose ≠ .register key)
    (h : d.startInit n c purpose = some step) : Attends d (.call call) step := by
  rw [startInit, if_pos hc] at h
  refine Passes.attends ?_ (by simp)
  cases purpose with
  | report | explain =>
    cases h
    exact (Aside.refl d).done _
  | register key => exact absurd rfl (hp key)

theorem refresh_attends (hf : Fit accepts d) (hc : d.cache? n = some c)
    (h : d.refresh n c = some step) : Attends d (.call (.refresh n)) step := by
  refine .refreshes (.inl rfl) ?_
  unfold refresh at h
  split at h
  · cases h
    exact .inl (.done _)
  · rename_i o ho
    split at h
    · cases h
      exact .inl (.done _)
    · rename_i request hr
      cases h
      obtain ⟨catalog, s, hsuits, hcatalog, -⟩ := hf.opened n c o hc ho
      rw [hcatalog] at hr
      exact .inr ⟨_, _, rfl, n, c, catalog, (cache?_hold n n).trans hc, rfl, hsuits, hr⟩

/-- A cache that is made for somebody who looks for one is that of a tenant. -/
theorem getOrOpen_attends (h : d.getOrOpen key = some step) :
    Attends d (.call (.getOrOpen key)) step ∨
      ∃ source p t, d.providers[source]? = some p ∧ t ∈ p.tenants ∧
        Attends (d.add (TenantCache.ofConfig source p t)).1 (.call (.getOrOpen key)) step := by
  obtain ⟨n, -, rfl⟩ | ⟨error, -, rfl⟩ | ⟨source, p, t, hp, ht, h⟩ := getOrOpen_cases h
  · exact .inl (((aside_hold d n).done _).attends (by simp))
  · exact .inl (((Aside.refl d).done _).attends (by simp))
  · exact .inr ⟨source, p, t, (provider?_eq_some hp).1, List.mem_of_find?_eq_some ht,
      startInit_attends (cache?_add_self d _) rfl h⟩

theorem call_attends {call : Call} (hf : Fit accepts d) (h : d.call call = some step) :
    Attends d (.call call) step ∨
      ∃ source p t, d.providers[source]? = some p ∧ t ∈ p.tenants ∧
        Attends (d.add (TenantCache.ofConfig source p t)).1 (.call call) step := by
  cases call with
  | openCache n | tryOpenCache n =>
    simp only [Desk.call] at h
    split at h
    · cases h
    · obtain ⟨c, hc, h⟩ := Option.bind_eq_some_iff.mp h
      cases ho : c.opened with
      | none => exact .inl (startInit_attends hc ho h)
      | some o => exact .inl (open_attends (by simp [TenantCache.isOpen, ho]) (by simp) h)
  | getOrOpen key => exact getOrOpen_attends h
  | refresh n =>
    obtain ⟨c, hc, h⟩ := Option.bind_eq_some_iff.mp h
    exact .inl (refresh_attends hf hc h)
  | _ => exact .inl ((call_passes rfl h).attends (by simp))

theorem refreshed_fetches {now : Instant} {answer : Except IdentityError Grant} {o : OpenTenant}
    (h : d.refreshed n o c now answer = some step) : step.1.Fetches step.2 := by
  simp only [refreshed] at h
  split at h
  · exact (leave_passes h).fetches
  · exact (leave_passes h).fetches

theorem reply_attends {reply : Reply} (hs : Sound kept ⟨d, hand, news⟩) (hf : Fit accepts d)
    (hd : d.frames = f :: frames) (h : d.reply reply = some step) :
    Attends d (.answer f reply) step := by
  by_cases haside : f.isAside = true
  · refine (reply_passes hd haside h).attends fun g reply' heq => ?_
    obtain ⟨rfl, -⟩ := Deed.answer.inj heq
    exact haside
  have haskers : d.askers = f :: askers { d with frames } := by
    rw [askers, hd, List.filter_cons_of_pos (by simpa using haside)]
    rfl
  have hpop := spends_frames d frames
  cases f with
  | authenticating n catalog tries purpose =>
    obtain ⟨c, hc, hsuits, -⟩ :=
      hf.waiting _ (hd ▸ List.mem_cons_self) n catalog purpose .authenticating
    obtain ⟨bounds, hb⟩ := hsuits.sized
    have hunopened := unopened_of_popped hs hd rfl hc
    cases reply with
    | answered now answer =>
      rw [History.reply_answered hd hc hb] at h
      obtain ⟨hspends, ⟨error, wait, next, he, hr, ha, hn⟩ | ⟨outcome, hr, ha, ho⟩⟩ :=
        judge_tells hunopened.1 hunopened.2.1 h
      · obtain ⟨d', r⟩ := step
        cases hr
        exact .waits he haskers ha hn (hpop.trans hspends)
      · obtain ⟨d', r⟩ := step
        cases hr
        exact .ends ho (haskers.trans (congrArg _ ha.symm)) (hpop.trans hspends)
    | succeeded | failed | slept | finished | unwind =>
      simp only [Desk.reply, hd] at h
      cases h
  | sleeping n catalog tries purpose =>
    obtain ⟨c, hc, hsuits, -⟩ :=
      hf.waiting _ (hd ▸ List.mem_cons_self) n catalog purpose .sleeping
    obtain ⟨bounds, hb⟩ := hsuits.sized
    obtain ⟨request, hask⟩ := hsuits.asks
    cases reply with
    | slept =>
      rw [History.reply_slept hd hc hb] at h
      simp only [attempt, hask] at h
      cases h
      exact .again hc hsuits hask haskers rfl
        (hpop.trans ((spends_count _ _).trans (spends_frames _ _)))
    | succeeded | failed | answered | finished | unwind =>
      simp only [Desk.reply, hd] at h
      cases h
  | refreshing n =>
    simp only [Desk.reply, hd] at h
    cases reply with
    | answered now answer =>
      obtain ⟨c, -, h⟩ := Option.bind_eq_some_iff.mp h
      obtain ⟨o, -, h⟩ := Option.bind_eq_some_iff.mp h
      exact .refreshes (.inr ⟨_, rfl⟩) (.inl (refreshed_fetches h))
    | succeeded | failed | slept | finished | unwind => cases h
  | _ => exact absurd rfl haside

end Tenancy.Desk
