import Tenancy.Proofs.Desk.Run
import Tenancy.Proofs.Yard.Turn

namespace Tenancy.Desk

variable {errand : Errand} {kept hand : List Thing} {d : Desk}
  {news : List (Nat × Snapshot)} {entries : List Entry} {x y : Scene} {n m : Nat}
  {c : TenantCache} {o : OpenTenant} {s : Snapshot} {url region : String}

/-- What an open cache has. -/
def opened? (d : Desk) (n : Nat) : Option OpenTenant := (d.cache? n).bind TenantCache.opened

theorem learned_cons_self (n : Nat) (s : Snapshot) (news : List (Nat × Snapshot)) :
    learned n ((n, s) :: news) = s :: learned n news := by
  simp [learned]

theorem learned_cons_ne (h : m ≠ n) (s : Snapshot) (news : List (Nat × Snapshot)) :
    learned n ((m, s) :: news) = learned n news := by
  simp [learned, h]

theorem opened?_add (hc : c.opened = none) (n : Nat) : (d.add c).1.opened? n = d.opened? n := by
  unfold opened?
  cases hn : d.cache? n with
  | some k => rw [cache?_add_of_some hn]
  | none =>
    have hle : d.caches.length ≤ n := by simpa [cache?] using hn
    simp only [add, cache?, List.getElem?_append_right hle]
    cases hm : n - d.caches.length with
    | zero => exact hc
    | succ m => rfl

/-- Only opening and publishing change what a tenant has, and only they let its catalog learn
something. -/
theorem Act.tenant (h : Act errand kept x entries y) (n : Nat) :
    y.desk.opened? n = x.desk.opened? n ∧ learned n y.news = learned n x.news ∨
    (∃ s project catalog, x.desk.opened? n = none ∧
      y.desk.opened? n = some ⟨project, Catalog.publish catalog s,
        s.regions.zip (List.range' x.desk.yard.pools.length s.regions.length)⟩ ∧
      learned n y.news = s :: learned n x.news ∧
      y.desk.yard.pools.length = x.desk.yard.pools.length + s.regions.length) ∨
    ∃ o s, x.desk.opened? n = some o ∧
      y.desk.opened? n = some { o with catalog := o.catalog.publish s } ∧
      learned n y.news = s :: learned n x.news := by
  cases h with
  | hold | letGo => exact .inl ⟨by simp [opened?], rfl⟩
  | add c hc => exact .inl ⟨opened?_add hc n, rfl⟩
  | @openTenant d hand news m c catalog bounds s project hu =>
    have hc := cache?_openTenant hu.1 catalog bounds s project n
    by_cases hm : m = n
    · subst hm
      refine .inr (.inl ⟨s, project, catalog, by simp [opened?, hu.1, hu.2.1], ?_,
        learned_cons_self m s news, ?_⟩)
      · simp [opened?, hc]
      · rw [pools_openTenant, List.length_append, List.length_map]
    · exact .inl ⟨by simp [opened?, hc, hm], learned_cons_ne hm s news⟩
  | @publish d hand news m c o s hm ho =>
    have hc := cache?_setCache hm (c.publish s) n
    by_cases hn : m = n
    · subst hn
      refine .inr (.inr ⟨o, s, by simp [opened?, hm, ho], ?_, learned_cons_self m s news⟩)
      simp only [opened?, hc, ↓reduceIte, Option.bind_some]
      simp [TenantCache.publish, ho]
    · exact .inl ⟨by simp [opened?, hc, hn], learned_cons_ne hn s news⟩
  | _ => exact .inl ⟨rfl, rfl⟩

/-- No pool is ever taken away. -/
theorem Act.pools_le (h : Act errand kept x entries y) :
    x.desk.yard.pools.length ≤ y.desk.yard.pools.length := by
  cases h with
  | work _ h => exact Nat.le_of_eq (length_of_does h).symm
  | giveBack h => exact Nat.le_of_eq (length_of_does (.call h)).symm
  | openTenant =>
    rw [pools_openTenant, List.length_append]
    exact Nat.le_add_right _ _
  | _ => exact Nat.le_refl _

/-- A tenant has pools for the regions that its catalog learned of first, and its catalog knows what
it learned last. -/
structure Informed (pools : Nat) (o : OpenTenant) (snapshots : List Snapshot) : Prop where
  first : ∃ s, snapshots.getLast? = some s ∧ o.pools.map Prod.fst = s.regions
  latest : snapshots.head? = some o.catalog.snapshot
  made : ∀ m ∈ o.pools.map Prod.snd, m < pools

/-- Every open tenant is informed, and no catalog of an unopened one has learned anything. -/
def Routed (x : Scene) : Prop := ∀ n,
  (x.desk.opened? n).elim (learned n x.news = []) fun o =>
    Informed x.desk.yard.pools.length o (learned n x.news)

theorem Informed.opened (catalog : Catalog) (project : Project) (s : Snapshot) (first : Nat) :
    Informed (first + s.regions.length)
      ⟨project, catalog.publish s, s.regions.zip (List.range' first s.regions.length)⟩ [s] := by
  refine ⟨⟨s, rfl, ?_⟩, rfl, ?_⟩
  · exact List.map_fst_zip (by simp)
  · intro m hm
    rw [List.map_snd_zip (by simp)] at hm
    have hrange := List.mem_range'_1.mp hm
    omega

theorem Informed.published {pools : Nat} {snapshots : List Snapshot}
    (h : Informed pools o snapshots) (s : Snapshot) :
    Informed pools { o with catalog := o.catalog.publish s } (s :: snapshots) := by
  obtain ⟨⟨first, hfirst, hregions⟩, -, hmade⟩ := h
  refine ⟨⟨first, ?_, hregions⟩, rfl, hmade⟩
  rw [List.getLast?_cons, hfirst]
  rfl

theorem Informed.mono {pools pools' : Nat} {snapshots : List Snapshot}
    (h : Informed pools o snapshots) (hle : pools ≤ pools') : Informed pools' o snapshots :=
  ⟨h.first, h.latest, fun m hm => Nat.lt_of_lt_of_le (h.made m hm) hle⟩

theorem Act.routed (h : Act errand kept x entries y) (hr : Routed x) : Routed y := by
  intro n
  have hn := hr n
  have hle := h.pools_le
  obtain ⟨ho, hl⟩ | ⟨s, project, catalog, hclosed, hopen, hl, hlength⟩ |
    ⟨o, s, ho, hpublished, hl⟩ := h.tenant n
  · rw [ho, hl]
    cases hx : x.desk.opened? n with
    | none => simpa [hx] using hn
    | some o =>
      rw [hx] at hn
      exact Informed.mono hn hle
  · rw [hclosed] at hn
    rw [hopen, hl, show learned n x.news = [] from hn, hlength]
    exact .opened catalog project s _
  · rw [ho] at hn
    rw [hpublished, hl]
    exact (Informed.published hn s).mono hle

/-- A tenant keeps the pools it was opened with. -/
theorem Act.pools (h : Act errand kept x entries y) {pools : List (String × Nat)}
    (ho : ∃ o, x.desk.opened? n = some o ∧ o.pools = pools) :
    ∃ o, y.desk.opened? n = some o ∧ o.pools = pools := by
  obtain ⟨o, hx, hpools⟩ := ho
  obtain ⟨hsame, -⟩ | ⟨s, project, catalog, hclosed, -⟩ | ⟨o', s, hx', hpublished, -⟩ := h.tenant n
  · exact ⟨o, hsame.trans hx, hpools⟩
  · rw [hx] at hclosed
    cases hclosed
  · obtain rfl := Option.some.inj (hx.symm.trans hx')
    exact ⟨_, hpublished, hpools⟩

namespace History

variable {s s' : History} {moves : List Move} {providers : List Config.Provider}

theorem routed_of_run (hs : run providers moves = some s) : Routed ⟨s.desk, [], s.news⟩ :=
  runFrom_keeps (s := ⟨{ providers }, []⟩) (P := fun _ x => Routed x)
    (fun h _ => h.routed) (fun _ h => h) (fun _ => rfl) (sound_start providers) hs

theorem pools_stay (hs : Sound s.kept ⟨s.desk, [], s.news⟩) (hc : s.desk.opened? n = some o)
    (hr : s.runFrom moves = some s') : ∃ o', s'.desk.opened? n = some o' ∧ o'.pools = o.pools :=
  runFrom_keeps (P := fun _ x => ∃ o', x.desk.opened? n = some o' ∧ o'.pools = o.pools)
    (fun h _ => h.pools) (fun _ h => h) ⟨o, hc, rfl⟩ hs hr

/-- Work on a connection is refused for its region exactly if it is routed to one without a pool. -/
theorem takes_withConnection_unknown_iff (hs : run providers moves = some s)
    (hc : s.desk.cache? n = some c) (ho : c.isOpen = true) (hk : .cache n ∈ s.kept) :
    (∃ s', s.Takes (.call (.withConnection n url)) (.done (.failed (.unknownRegion region))) s') ↔
      c.regionOf url = .ok region ∧ region ∉ c.regions := by
  rw [← TenantCache.poolServing_unknown_iff ho]
  have hsound := sound_of_run hs
  constructor
  · rintro ⟨s', h⟩
    obtain ⟨call, n', c', error, hcall, hn, hc', hplace, herror, -⟩ := h.unplaced hs rfl
    cases hcall
    cases hn
    cases herror
    obtain rfl := Option.some.inj (hc.symm.trans hc')
    exact Option.some.inj hplace
  · intro h
    have ha : s.allows (.withConnection n url) = true := by
      simp [allows, Call.cache?, Call.things, hk, not_opening hsound hc ho]
    have hpos := hsound.holds_kept hk
    exact ⟨_, takes_call ha (call_unplaced hpos rfl hc (congrArg some h))⟩

/-- A tenant has a pool for exactly the regions that its catalog reported when it was opened, from
then on. A URL leads to a region of what the catalog learned last, and there is a pool for it unless
a later authentication brought it in; only then is work on a connection refused for its region, and
at once. -/
theorem region_has_pool (hs : run providers moves = some s) (hc : s.desk.cache? n = some c)
    (ho : c.opened = some o) :
    ∃ first, (s.learned n).getLast? = some first ∧
      (s.learned n).head? = some o.catalog.snapshot ∧
      (∀ region, region ∈ first.regions →
        ∃ m p, c.poolOf region = .ok m ∧ s.desk.yard.pools[m]? = some p) ∧
      (∀ region, region ∉ first.regions → c.poolOf region = .error (.unknownRegion region)) ∧
      (∀ url region, c.regionOf url = .ok region → region ∈ o.catalog.snapshot.regions) ∧
      (∀ url region, .cache n ∈ s.kept →
        ((∃ s', s.Takes (.call (.withConnection n url))
          (.done (.failed (.unknownRegion region))) s') ↔
          c.regionOf url = .ok region ∧ region ∉ first.regions)) ∧
      (∀ deed region s', s.Takes deed (.done (.failed (.unknownRegion region))) s' →
        ∃ call, deed = .call call) ∧
      ∀ more s', s.runFrom more = some s' →
        ∃ o', s'.desk.opened? n = some o' ∧ o'.pools = o.pools := by
  have hopened : s.desk.opened? n = some o := by simp [opened?, hc, ho]
  have hopen : c.isOpen = true := by simp [TenantCache.isOpen, ho]
  have hinformed := routed_of_run hs n
  rw [show (⟨s.desk, [], s.news⟩ : Scene).desk.opened? n = _ from hopened] at hinformed
  obtain ⟨⟨first, hfirst, hpools⟩, hlatest, hmade⟩ := hinformed
  have hregions : c.regions = first.regions := by
    simpa [TenantCache.regions, ho] using hpools
  refine ⟨first, hfirst, hlatest, ?_, ?_, ?_, ?_, ?_, ?_⟩
  · intro region hr
    obtain ⟨m, hm⟩ := TenantCache.exists_poolOf_iff.mpr (hregions ▸ hr)
    have hnumber : m ∈ o.pools.map Prod.snd := by
      simpa [TenantCache.poolNumbers, ho] using (TenantCache.poolOf_ok hm).2
    exact ⟨m, _, hm, List.getElem?_eq_getElem (hmade m hnumber)⟩
  · intro region hr
    exact TenantCache.poolOf_unknown hopen (hregions ▸ hr)
  · intro url region hr
    obtain ⟨o', ho', hmem⟩ := TenantCache.regionOf_ok hr
    obtain rfl := Option.some.inj (ho.symm.trans ho')
    exact hmem
  · intro url region hk
    rw [← hregions]
    exact takes_withConnection_unknown_iff hs hc hopen hk
  · intro deed region s' h
    obtain ⟨call, -, -, -, hcall, -⟩ := h.unplaced hs rfl
    exact ⟨call, hcall⟩
  · intro more s' hr
    exact pools_stay (sound_of_run hs) hopened hr

/-- The catalog of an open tenant is authenticated once more, and reports another region. -/
def refreshing : List Move :=
  opening ["east"] ++ [.call (.refresh 0), .reply (.answered 0 (.ok (grantOf ["east", "north"])))]

theorem exists_refreshing : ∃ s c, run [] refreshing = some s ∧ s.desk.cache? 0 = some c ∧
    c.isOpen = true ∧ s.kept = [.cache 0] ∧ c.regions = ["east"] ∧
    (s.learned 0).map Snapshot.regions = [["east", "north"], ["east"]] ∧
    c.regionOf "a://north" = .ok "north" := by
  have hlearned : (run [] refreshing).map (fun s =>
      (s.kept, (s.learned 0).map Snapshot.regions)) =
      some ([.cache 0], [["east", "north"], ["east"]]) := by
    decide +kernel
  have hcache : (run [] refreshing).bind (fun s => (s.desk.cache? 0).map fun c =>
      (c.isOpen, c.regions, (c.regionOf "a://north").toOption)) =
      some (true, ["east"], some "north") := by
    decide +kernel
  obtain ⟨s, hs, hlearned⟩ := Option.map_eq_some_iff.mp hlearned
  obtain ⟨hkept, hlearned⟩ := Prod.mk.inj hlearned
  simp only [hs, Option.bind_some, Option.map_eq_some_iff, Prod.mk.injEq] at hcache
  obtain ⟨c, hc, hopen, hregions, hregion⟩ := hcache
  exact ⟨s, c, hs, hc, hopen, hkept, hregions, hlearned, ok_of_toOption hregion⟩

theorem region_has_pool_refreshing : ∃ s c m p, run [] refreshing = some s ∧
    s.desk.cache? 0 = some c ∧ c.poolOf "east" = .ok m ∧ s.desk.yard.pools[m]? = some p := by
  obtain ⟨s, c, hs, hc, hopen, -, -, hlearned, -⟩ := exists_refreshing
  obtain ⟨o, ho⟩ := Option.isSome_iff_exists.mp hopen
  obtain ⟨first, hfirst, -, hpools, -⟩ := region_has_pool hs hc ho
  have hregions : first.regions = ["east"] := by
    have hlast : ((s.learned 0).map Snapshot.regions).getLast? = some first.regions := by
      rw [List.getLast?_map, hfirst]
      rfl
    rw [hlearned] at hlast
    exact (Option.some.inj hlast).symm
  obtain ⟨m, p, hm, hp⟩ := hpools "east" (by simp [hregions])
  exact ⟨s, c, m, p, hs, hc, hm, hp⟩

/-- A URL leads to a region that the catalog reports and the tenant has no pool for. -/
theorem region_without_pool : ∃ s s' c snapshot, run [] refreshing = some s ∧
    s.desk.cache? 0 = some c ∧ c.isOpen = true ∧ .cache 0 ∈ s.kept ∧
    (s.learned 0).head? = some snapshot ∧ "north" ∈ snapshot.regions ∧
    c.regionOf "a://north" = .ok "north" ∧ c.poolOf "north" = .error (.unknownRegion "north") ∧
    s.Takes (.call (.withConnection 0 "a://north"))
      (.done (.failed (.unknownRegion "north"))) s' := by
  obtain ⟨s, c, hs, hc, hopen, hkept, hregions, hlearned, hregion⟩ := exists_refreshing
  have hkept : .cache 0 ∈ s.kept := by simp [hkept]
  have hnorth : "north" ∉ c.regions := by simp [hregions]
  obtain ⟨s', hstep⟩ := (takes_withConnection_unknown_iff hs hc hopen hkept).mpr ⟨hregion, hnorth⟩
  obtain ⟨snapshot, rest, hl, hnow, -⟩ := List.map_eq_cons_iff.mp hlearned
  exact ⟨s, s', c, snapshot, hs, hc, hopen, hkept, by simp [hl], by simp [hnow], hregion,
    TenantCache.poolOf_unknown hopen hnorth, hstep⟩

end History
end Tenancy.Desk
