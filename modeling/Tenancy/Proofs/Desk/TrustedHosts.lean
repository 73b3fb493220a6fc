import Tenancy.Proofs.Desk.Attending

namespace Tenancy.Desk

variable {errand : Errand} {kept : List Thing} {entries : List Entry} {x y : Scene} {d : Desk}
  {step : Desk × Request} {deed : Deed} {n m : Nat} {c : TenantCache} {p : Pool}
  {catalog : Catalog} {request : AuthRequest}

theorem Act.settings (h : Act errand kept x entries y) (hp : x.desk.yard.pools[m]? = some p) :
    ∃ p', y.desk.yard.pools[m]? = some p' ∧ p'.settings = p.settings :=
  h.keeps_pool (fun turn hs => turn.settings.trans hs) ⟨p, hp, rfl⟩

/-- Each pool of an open cache has the settings for its region. -/
def Equipped (d : Desk) : Prop :=
  ∀ n c o, d.cache? n = some c → c.opened = some o → ∀ region m, (region, m) ∈ o.pools →
    ∃ p, d.yard.pools[m]? = some p ∧ p.settings = c.poolSettings o.project.name region

theorem Act.equipped (h : Act errand kept x entries y) (hx : x.desk.Equipped) :
    y.desk.Equipped := by
  intro n c o hc ho region m hm
  have hold {c₀ : TenantCache} {o₀ : OpenTenant} (hc₀ : x.desk.cache? n = some c₀)
      (ho₀ : c₀.opened = some o₀) (hprovider : c₀.provider = c.provider)
      (hproject : o₀.project = o.project) (hpools : (region, m) ∈ o₀.pools) :
      ∃ p, y.desk.yard.pools[m]? = some p ∧ p.settings = c.poolSettings o.project.name region := by
    obtain ⟨p, hp, hs⟩ := hx n c₀ o₀ hc₀ ho₀ region m hpools
    obtain ⟨p', hp', hs'⟩ := h.settings hp
    refine ⟨p', hp', ?_⟩
    simp only [hs', hs, TenantCache.poolSettings, hprovider, hproject]
  cases h with
  | @openTenant d hand news k c' catalog bounds s project hu =>
    rw [cache?_openTenant hu.1] at hc
    split at hc
    · cases hc
      cases ho
      exact ⟨_, (pool_openTenant k c' catalog bounds project hm).2, rfl⟩
    · exact hold hc ho rfl rfl hm
  | @publish d hand news k c' o' s hk ho' =>
    rw [cache?_setCache hk] at hc
    split at hc
    · rename_i hn
      subst hn
      cases hc
      simp only [TenantCache.publish, ho', Option.map_some, Option.some.injEq] at ho
      subst ho
      exact hold hk ho' rfl rfl hm
    · exact hold hc ho rfl rfl hm
  | add c' hc' =>
    obtain hc | ⟨-, rfl⟩ := cache?_add_cases hc
    · exact hold hc ho rfl rfl hm
    · cases hc'.symm.trans ho
  | hold | letGo => exact hold (by simpa using hc) ho rfl rfl hm
  | _ => exact hold hc ho rfl rfl hm

/-- Somebody outside is asked for the identity service of a cache, or for something to do with one
of its pools. -/
theorem Attends.asks {d₀ : Desk} (h : Attends d₀ deed step) :
    step.1.Fetches step.2 ∨ (∃ wait, step.2 = .sleep wait) ∨
      ∃ source request, step.2 = .authenticate source request ∧ step.1.Asks source request := by
  cases h with
  | aside _ hp | fails _ _ hp => exact .inl hp
  | @begins _ d' n c catalog purpose request hc hu hr =>
    exact .inr (.inr ⟨_, _, rfl, n, c, catalog, hc, rfl, hu, hr⟩)
  | @again d' n c catalog tries purpose request rest hc hu hr =>
    exact .inr (.inr ⟨_, _, rfl, n, c, catalog, hc, rfl, hu, hr⟩)
  | waits => exact .inr (.inl ⟨_, rfl⟩)
  | ends => exact .inl (.done _)
  | refreshes _ hp => exact hp.imp_right .inr

/-- The identity service is told what is set for the provider. -/
theorem options_of_suits (hs : Suits c catalog) (hr : catalog.request? = .ok request) :
    request.options = c.provider.authOptions := by
  obtain ⟨version, -, rfl⟩ := Catalog.of?_eq_some_iff.mp hs.made
  obtain ⟨domain, hask, -⟩ | ⟨-, -, hnone⟩ := Catalog.request?_cases ⟨version, c.target, {}⟩
  · obtain rfl := Except.ok.inj (hask.symm.trans hr)
    rfl
  · cases hnone.symm.trans hr

namespace History

variable {s s' : History} {moves : List Move} {providers : List Config.Provider} {r : Request}
  {source : Nat}

theorem equipped_of_run (hs : run providers moves = some s) : s.desk.Equipped :=
  runFrom_keeps (s := ⟨{ providers }, []⟩) (P := fun _ x => x.desk.Equipped)
    (fun h _ hx => h.equipped hx) (fun _ h => h) (fun n c o hc => by cases hc)
    (sound_start providers) hs

theorem Takes.asks (hs : run providers moves = some s) (h : s.Takes deed r s') :
    s'.desk.Fetches r ∨ (∃ wait, r = .sleep wait) ∨
      ∃ source request, r = .authenticate source request ∧ s'.desk.Asks source request := by
  obtain ⟨m, hm, he⟩ := h
  obtain ⟨c, -, rfl⟩ | ⟨_, _, _, rfl⟩ | ⟨call, step, -, hstep, rfl⟩ |
    ⟨f, frames, reply, step, hf, hstep, rfl⟩ := advance_cases hm
  · obtain ⟨-, -, rfl⟩ : _ ∧ _ ∧ .done _ = r := by simpa [record] using he
    exact .inl (.done _)
  · obtain ⟨-, -, rfl⟩ : _ ∧ _ ∧ .done _ = r := by simpa [record] using he
    exact .inl (.done _)
  · obtain ⟨-, -, rfl⟩ : _ ∧ _ ∧ step.2 = r := by simpa [record] using he
    obtain hat | ⟨_, _, _, -, -, hat⟩ := call_attends (fit_of_run hs) hstep
    · exact hat.asks
    · exact hat.asks
  · obtain ⟨-, -, rfl⟩ : _ ∧ _ ∧ step.2 = r := by simpa [record] using he
    exact (reply_attends (sound_of_run hs) (fit_of_run hs) hf hstep).asks

/-- Every identity service is told all trusted hosts of its provider. Every connector is told the
settings of a pool, and these hold the hosts as one text: what it reads are the plain names in that
text, which are the trusted hosts if all of them are plain, and only then. -/
theorem trusted_hosts_told (hs : run providers moves = some s) :
    (∀ n c o, s.desk.cache? n = some c → c.opened = some o → ∀ region m, (region, m) ∈ o.pools →
      ∃ p, s.desk.yard.pools[m]? = some p ∧
        p.settings.trustedHosts = c.provider.trustedHosts.flatMap Settings.readHosts ∧
        (p.settings.trustedHosts = c.provider.trustedHosts ↔
          ∀ host ∈ c.provider.trustedHosts, Settings.IsPlain host)) ∧
    (∀ deed source settings s', s.Takes deed (.connect source settings) s' →
      ∃ n c o region m p, s'.desk.cache? n = some c ∧ c.source = source ∧ c.opened = some o ∧
        (region, m) ∈ o.pools ∧ s'.desk.yard.pools[m]? = some p ∧ settings = p.settings) ∧
    ∀ deed source request s', s.Takes deed (.authenticate source request) s' →
      ∃ n c, s'.desk.cache? n = some c ∧ c.source = source ∧
        request.options.trustedHosts = c.provider.trustedHosts := by
  refine ⟨?_, ?_, ?_⟩
  · intro n c o hc ho region m hm
    obtain ⟨p, hp, hsettings⟩ := equipped_of_run hs n c o hc ho region m hm
    have hread : p.settings.trustedHosts = c.provider.trustedHosts.flatMap Settings.readHosts := by
      rw [hsettings, TenantCache.trustedHosts_poolSettings]
    refine ⟨p, hp, hread, ?_⟩
    rw [hread]
    exact Settings.flatMap_readHosts_eq_iff
  · intro deed source settings s' h
    obtain ⟨m, hm⟩ := h.runFrom
    have hlisted := listed_of_run ((run_append hs).trans hm)
    obtain hfetches | ⟨wait, hwait⟩ | ⟨_, _, hask, -⟩ := h.asks hs
    · cases hfetches with
      | @connect pool p c hp hc =>
        obtain ⟨n, hn, hcache⟩ := Option.bind_eq_some_iff.mp hc
        obtain ⟨c', hc', hmem⟩ := exists_cache_of_mem (hlisted pool n hn)
        obtain rfl := Option.some.inj (hc'.symm.trans hcache)
        cases ho : c'.opened with
        | none => simp [TenantCache.poolNumbers, ho] at hmem
        | some o =>
          obtain ⟨⟨region, m⟩, hpool, rfl⟩ : ∃ e ∈ o.pools, e.2 = pool := by
            simpa [TenantCache.poolNumbers, ho] using hmem
          exact ⟨n, c', o, region, m, p, hcache, rfl, ho, hpool, hp, rfl⟩
    · cases hwait
    · cases hask
  · intro deed source request s' h
    obtain hfetches | ⟨wait, hwait⟩ | ⟨_, _, hask, n, c, catalog, hc, hsource, hsuits, hr⟩ :=
      h.asks hs
    · cases hfetches
    · cases hwait
    · cases hask
      exact ⟨n, c, hc, hsource, congrArg _ (options_of_suits hsuits hr)⟩

/-- A provider with one tenant that trusts those hosts. -/
def trusting (trustedHosts : List String) : Config.Provider := { cloud with trustedHosts }

/-- Somebody looks for the tenant's cache, and it is opened with one region. -/
def lookingUp : List Move :=
  [.call (.getOrOpen ("cloud", "demo")), .reply (.answered 0 (.ok (grantOf ["east"])))]

theorem trusted_hosts_told_plain : ∃ s c o p, run [trusting ["a.example", "b.example"]] lookingUp =
      some s ∧
    s.desk.cache? 0 = some c ∧ c.opened = some o ∧ ("east", 0) ∈ o.pools ∧
    s.desk.yard.pools[0]? = some p ∧ p.settings.trustedHosts = ["a.example", "b.example"] := by
  have hrun : (run [trusting ["a.example", "b.example"]] lookingUp).bind (fun s =>
      (s.desk.cache? 0).bind fun c => c.opened.map fun o => (c.provider.trustedHosts, o.pools)) =
      some (["a.example", "b.example"], [("east", 0)]) := by
    decide +kernel
  obtain ⟨s, hs, hrun⟩ := Option.bind_eq_some_iff.mp hrun
  obtain ⟨c, hc, hrun⟩ := Option.bind_eq_some_iff.mp hrun
  obtain ⟨o, ho, hrun⟩ := Option.map_eq_some_iff.mp hrun
  obtain ⟨hhosts, hpools⟩ := Prod.mk.inj hrun
  have hpool : ("east", 0) ∈ o.pools := by simp [hpools]
  obtain ⟨p, hp, -, hplain⟩ := (trusted_hosts_told hs).1 0 c o hc ho "east" 0 hpool
  rw [hhosts] at hplain
  exact ⟨s, c, o, p, hs, hc, ho, hpool, hp, hplain.mpr (by decide +kernel)⟩

/-- What a connector is asked for a connection with. -/
def connect? : Request → Option (Nat × Settings)
  | .connect source settings => some (source, settings)
  | _ => none

theorem connect?_eq_some {settings : Settings} (h : connect? r = some (source, settings)) :
    r = .connect source settings := by
  cases r with
  | connect source' settings' =>
    obtain ⟨rfl, rfl⟩ := Prod.mk.inj (Option.some.inj h)
    rfl
  | _ => cases h

/-- Nothing is wrong with the configuration, and the identity service is told of one host where the
connector reads two. -/
theorem trusted_host_torn : ∃ s s' t t' request settings,
    Config.problems { providers := [trusting ["a,b"]] } = [] ∧
    run [trusting ["a,b"]] [] = some s ∧
    s.Takes (.call (.getOrOpen ("cloud", "demo"))) (.authenticate 0 request) s' ∧
    request.options.trustedHosts = ["a,b"] ∧
    run [trusting ["a,b"]] lookingUp = some t ∧
    t.Takes (.call (.reserve 0 "east")) (.connect 0 settings) t' ∧
    settings.trustedHosts = ["a", "b"] := by
  have hv : Config.problems { providers := [trusting ["a,b"]] } = [] := by decide +kernel
  have hasks : (run [trusting ["a,b"]] []).bind (fun s =>
      (s.desk.call (.getOrOpen ("cloud", "demo"))).map Prod.snd) =
      some (.authenticate 0 ⟨.v2, "a:/v2", "demo", none, ⟨"ops", ""⟩, ⟨none, ["a,b"]⟩⟩) := by
    decide +kernel
  have hconnects : (run [trusting ["a,b"]] lookingUp).bind (fun t =>
      (t.desk.call (.reserve 0 "east")).map fun step => (t.allows (.reserve 0 "east"),
        (connect? step.2).map fun x => (x.1, x.2.trustedHosts))) =
      some (true, some (0, ["a", "b"])) := by
    decide +kernel
  obtain ⟨s, hs, hasks⟩ := Option.bind_eq_some_iff.mp hasks
  obtain ⟨step, hstep, hrequest⟩ := Option.map_eq_some_iff.mp hasks
  have htakes := takes_call (c := .getOrOpen ("cloud", "demo")) rfl hstep
  rw [hrequest] at htakes
  obtain ⟨t, ht, hconnects⟩ := Option.bind_eq_some_iff.mp hconnects
  obtain ⟨step', hstep', hconnects⟩ := Option.map_eq_some_iff.mp hconnects
  obtain ⟨hallows, hsettings⟩ := Prod.mk.inj hconnects
  obtain ⟨⟨source, settings⟩, hconnect, hread⟩ := Option.map_eq_some_iff.mp hsettings
  obtain ⟨rfl, hhosts⟩ := Prod.mk.inj hread
  have htakes' := takes_call hallows hstep'
  rw [connect?_eq_some hconnect] at htakes'
  exact ⟨s, _, t, _, _, settings, hv, hs, htakes, rfl, ht, htakes', hhosts⟩

end History
end Tenancy.Desk
