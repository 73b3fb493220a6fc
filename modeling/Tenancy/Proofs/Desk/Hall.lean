import Tenancy.Proofs.Desk.Bouts

namespace Tenancy

namespace Desk

variable {d : Desk} {step : Desk × Request} {config : Config}

/-- The desk counts on from there. -/
def withMetrics (d : Desk) (metrics : Metrics) : Desk :=
  { d with yard := { d.yard with metrics } }

/-- Whoever makes a cache makes that of a tenant, and nobody authenticates the catalog of an open
one. -/
def Move.Within (config : Config) : Move → Prop
  | .make c => ∃ source p t, p ∈ config.providers ∧ t ∈ p.tenants ∧
      c = TenantCache.ofConfig source p t
  | .call (.refresh _) => False
  | _ => True

namespace History

variable {s s' : History} {deed : Deed}

def withMetrics (s : History) (metrics : Metrics) : History :=
  { s with desk := s.desk.withMetrics metrics }

/-- What a registry is that serves a checked configuration. -/
structure Orderly (config : Config) (s : History) : Prop where
  sound : Sound s.kept ⟨s.desk, [], s.news⟩
  fit : Fit (fun _ _ => True) s.desk
  providers : s.desk.providers ⊆ config.providers
  own : ∀ n c, s.desk.cache? n = some c → Own config c
  traced : s.Traced

theorem orderly_start {providers : List Config.Provider} (h : providers ⊆ config.providers) :
    Orderly config ⟨{ providers }, []⟩ := by
  refine ⟨sound_start providers, fit_start providers, h, ?_, .nil, ?_, rfl⟩
  · intro n c hc
    cases hc
  · intro b hb
    cases hb

/-- What pools are like and what has been counted has no part in it. -/
theorem Orderly.withYard {yard : Yard} (h : Orderly config s)
    (hpools : yard.pools.length = s.desk.yard.pools.length) :
    Orderly config { s with desk := { s.desk with yard } } :=
  ⟨h.sound.same rfl rfl rfl rfl hpools fun _ => rfl, h.fit.calm (calm_yard s.desk yard), h.providers,
    h.own, h.traced.tracks, h.traced.known, h.traced.answered⟩

theorem Orderly.openable (h : Orderly config s) :
    ∀ n ∈ s.desk.openings, ∃ c, s.desk.cache? n = some c := by
  intro n hn
  obtain ⟨c, hc, -⟩ := h.sound.closed n hn
  exact ⟨c, hc⟩

theorem own_spends {d d' : Desk} {charges : List Counter} (h : Spends charges d d')
    (hown : ∀ n c, d.cache? n = some c → Own config c) :
    ∀ n c, d'.cache? n = some c → Own config c := by
  intro n c' hc'
  obtain ⟨c, hc, hsame⟩ := h.caches n c' hc'
  rw [hsame]
  exact (hown n c hc).reopen

/-- What a step does for the identity service is counted, from a desk at which there may be one more
cache. -/
theorem Orderly.attended {d₀ : Desk} (h : Orderly config s) (hv : config.problems = [])
    (hown : ∀ n c, d₀.cache? n = some c → Own config c)
    (hm : d₀.yard.metrics = s.desk.yard.metrics) (ha : d₀.askers = s.desk.askers)
    (hstay : Stays s.desk step.1)
    (hd : ∀ n, deed ≠ .call (.refresh n) ∧ ∀ reply, deed ≠ .answer (.refreshing n) reply)
    (hat : Attends d₀ deed step) :
    (∀ n c, step.1.cache? n = some c → Own config c) ∧
      Traced (s.record deed step) ∧ Balanced config s (s.record deed step) := by
  have ho := h.openable
  cases hat with
  | aside hdeed hp hsame hs =>
    exact ⟨own_spends hs hown, aside_balanced h.traced ho hm ha hstay hdeed hp hsame hs⟩
  | fails hc hopeless => exact absurd hopeless ((hown _ _ hc).not_hopeless hv)
  | begins hc hu hr hask hs =>
    have hnew := own_spends hs hown
    exact ⟨hnew, begins_balanced h.traced ho hm ha hv hstay hc (hnew _ _ hc) hask hs⟩
  | again hc hu hr hsleep hask hs =>
    have hnew := own_spends hs hown
    exact ⟨hnew, again_balanced h.traced ho hm ha hv hstay hc (hnew _ _ hc) hsleep hask hs⟩
  | waits he hask hsleep hn hs =>
    exact ⟨own_spends hs hown, waits_balanced h.traced ho hm ha hstay he hask hsleep hn hs⟩
  | ends hp hask hs =>
    exact ⟨own_spends hs hown, ends_balanced h.traced ho hm ha hstay hp hask hs⟩
  | @refreshes _ _ n hdeed =>
    obtain rfl | ⟨reply, rfl⟩ := hdeed
    · exact absurd rfl (hd n).1
    · exact absurd rfl ((hd n).2 reply)

theorem own_add {c : TenantCache} (hown : ∀ n c, d.cache? n = some c → Own config c)
    (hc : Own config c) : ∀ n c', (d.add c).1.cache? n = some c' → Own config c' := by
  intro n c' hc'
  obtain hold | ⟨-, rfl⟩ := cache?_add_cases hc'
  · exact hown n c' hold
  · exact hc

theorem own_ofConfig (source : Nat) {p : Config.Provider} {t : Config.Tenant}
    (hp : p ∈ config.providers) (ht : t ∈ p.tenants) :
    Own config (TenantCache.ofConfig source p t) :=
  ⟨source, p, t, hp, ht, rfl⟩

/-- A cache has been made, and nothing else has happened. -/
theorem Orderly.made {c : TenantCache} (h : Orderly config s) (hown : Own config c)
    (hstay : Stays s.desk (s.desk.add c).1) :
    (∀ n c', (s.desk.add c).1.cache? n = some c' → Own config c') ∧
      Traced (s.record (.make s.desk.caches.length)
        ((s.desk.add c).1, .done (.cached s.desk.caches.length))) ∧
      Balanced config s (s.record (.make s.desk.caches.length)
        ((s.desk.add c).1, .done (.cached s.desk.caches.length))) := by
  have hmetrics : (s.desk.add c).1.yard.metrics = s.desk.yard.metrics := rfl
  refine ⟨own_add h.own hown, aside_balanced h.traced h.openable hmetrics rfl hstay ?_ (.done _)
    rfl (Aside.refl _).spends⟩
  intro f reply heq
  cases heq

/-- Nobody waits for the catalog of an open cache to be authenticated. -/
theorem Traced.no_refresh {f : Frame} {frames : List Frame} (h : s.Traced)
    (hf : s.desk.frames = f :: frames) (n : Nat) : f ≠ .refreshing n := by
  rintro rfl
  have htracks := h.tracks
  rw [askers, hf, List.filter_cons_of_pos rfl] at htracks
  cases htracks

/-- A step of a registry counts what it asks and what it is answered. -/
theorem Orderly.advance {m : Move} (h : Orderly config s) (hv : config.problems = [])
    (hw : m.Within config) (hm : s.advance m = some s') :
    Orderly config s' ∧ Balanced config s s' := by
  have hsound := sound_advance h.sound hm
  have hfit : Fit (fun _ _ => True) s'.desk := fit_advance h.fit (by simp) hm
  have hstay : Stays s.desk s'.desk := fun n c hc => cache_stays h.sound hc (runFrom_single hm)
  have hproviders : s'.desk.providers = s.desk.providers :=
    runFrom_keeps (P := fun _ x => x.desk.providers = s.desk.providers)
      (fun hact _ hx => hact.providers.trans hx) (fun _ hx => hx) rfl h.sound (runFrom_single hm)
  suffices hstep : (∀ n c, s'.desk.cache? n = some c → Own config c) ∧ s'.Traced ∧
      Balanced config s s' from
    ⟨⟨hsound, hfit, hproviders ▸ h.providers, hstep.1, hstep.2.1⟩, hstep.2.2⟩
  cases m with
  | make c =>
    obtain ⟨source, p, t, hp, ht, rfl⟩ := hw
    cases hm
    exact h.made (own_ofConfig source hp ht) hstay
  | reorder slots pools keys =>
    cases hm
    have hpasses := (aside_reorder s.desk slots pools keys).done .nothing
    exact h.attended hv h.own rfl rfl hstay (by simp) (hpasses.attends (by simp))
  | call call =>
    simp only [History.advance] at hm
    split at hm
    · obtain ⟨step, hstep, rfl⟩ := Option.map_eq_some_iff.mp hm
      have hd : ∀ n, Deed.call call ≠ .call (.refresh n) ∧
          ∀ reply, Deed.call call ≠ .answer (.refreshing n) reply := by
        refine fun n => ⟨?_, by simp⟩
        rintro heq
        cases heq
        exact hw
      obtain hat | ⟨source, p, t, hp, ht, hat⟩ := call_attends h.fit hstep
      · exact h.attended hv h.own rfl rfl hstay hd hat
      · have hown := own_ofConfig source (h.providers (List.mem_of_getElem? hp)) ht
        exact h.attended hv (own_add h.own hown) rfl rfl hstay hd hat
    · cases hm
  | reply r =>
    obtain ⟨f, hf, hm⟩ := Option.bind_eq_some_iff.mp hm
    obtain ⟨step, hstep, rfl⟩ := Option.map_eq_some_iff.mp hm
    obtain ⟨frames, hframes⟩ := List.head?_eq_some_iff.mp hf
    have hd : ∀ n, Deed.answer f r ≠ .call (.refresh n) ∧
        ∀ reply, Deed.answer f r ≠ .answer (.refreshing n) reply := by
      refine fun n => ⟨by simp, fun reply heq => ?_⟩
      cases heq
      exact h.traced.no_refresh hframes n rfl
    exact h.attended hv h.own rfl rfl hstay hd (reply_attends h.sound h.fit hframes hstep)

end History
end Desk

/-- Several tenant registries with the caches around them, and the metrics in which they count
together. Each registry goes its own way, also while another one waits for the identity service. -/
structure Hall where
  desks : List Desk.History := []
  metrics : Metrics := {}

namespace Hall

open Desk (History)

inductive Move where
  | found (providers : List Config.Provider)
  /-- Something is done at that registry. -/
  | visit (k : Nat) (m : Desk.Move)
  /-- A cache of that registry is given back a lease of another one, and says so. -/
  | stray (k : Nat)

/-- One step of a run. Whatever a registry counts, it adds to what all of them have counted. -/
def advance (h : Hall) : Move → Option Hall
  | .found providers => some { h with desks := h.desks ++ [⟨{ providers }, []⟩] }
  | .visit k m => do
    let s ← h.desks[k]?
    let s' ← (s.withMetrics h.metrics).advance m
    some ⟨h.desks.set k s', s'.desk.yard.metrics⟩
  | .stray k => do
    let s ← h.desks[k]?
    some { h with desks := h.desks.set k { s with desk := s.desk.note .unissuedLease } }

def run (moves : List Move) : Option Hall := moves.foldlM advance {}

/-- All registries are for providers of the configuration, and so is what is done there. -/
def Move.Within (config : Config) : Move → Prop
  | .found providers => providers ⊆ config.providers
  | .visit _ m => m.Within config
  | .stray _ => True

/-- What all registries come to together. -/
def total (h : Hall) (measure : History → Nat) : Nat := (h.desks.map measure).sum

/-- Nowhere is a cache being opened. -/
def Settled (h : Hall) : Prop := ∀ s ∈ h.desks, s.desk.openings = []

variable {hall hall' : Hall} {config : Config} {moves : List Move} {k : Nat} {s s' : History}

/-- One registry has changed. -/
theorem total_set (hs : hall.desks[k]? = some s) (s' : History) (metrics : Metrics)
    (measure : History → Nat) : total ⟨hall.desks.set k s', metrics⟩ measure + measure s =
      hall.total measure + measure s' := by
  have hset (desks : List History) (k : Nat) (hs : desks[k]? = some s) :
      ((desks.set k s').map measure).sum + measure s = (desks.map measure).sum + measure s' := by
    induction desks generalizing k with
    | nil => cases hs
    | cons t desks ih =>
      cases k with
      | zero =>
        cases hs
        simp only [List.set_cons_zero, List.map_cons, List.sum_cons]
        omega
      | succ k =>
        have hrest := ih k hs
        simp only [List.set_cons_succ, List.map_cons, List.sum_cons]
        omega
  exact hset hall.desks k hs

/-- The counters stand for all that the registries have done. -/
structure Accounted (config : Config) (hall : Hall) : Prop where
  orderly : ∀ s ∈ hall.desks, s.Orderly config
  asked : hall.metrics.sum config.attemptCounters = hall.total History.asked
  answered : hall.metrics.sum authCounters = hall.total History.answered
  successes : hall.metrics.sum AuthOutcome.success.counters = hall.total History.successes
  unreached : hall.metrics.sum AuthOutcome.connection.counters = hall.total History.unreached
  attempts : ∀ name, hall.metrics.counted (.initAttempts name) = hall.total (History.attempts · name)

theorem accounted_start (config : Config) : Accounted config {} := by
  have hnone (cs : List Counter) : Metrics.sum {} cs = 0 := by
    induction cs with
    | nil => rfl
    | cons c cs ih => exact (Nat.zero_add _).trans ih
  refine ⟨?_, hnone _, hnone _, hnone _, hnone _, fun _ => rfl⟩
  intro s hs
  cases hs

/-- There is one registry more, and nothing has been done there. -/
theorem Accounted.found {providers : List Config.Provider} (h : Accounted config hall)
    (hp : providers ⊆ config.providers) :
    Accounted config { hall with desks := hall.desks ++ [⟨{ providers }, []⟩] } := by
  have htotal {measure : History → Nat} (hm : measure ⟨{ providers }, []⟩ = 0) :
      total { hall with desks := hall.desks ++ [⟨{ providers }, []⟩] } measure =
        hall.total measure := by
    simp [total, hm]
  refine ⟨?_, h.asked.trans (htotal rfl).symm, h.answered.trans (htotal rfl).symm,
    h.successes.trans (htotal rfl).symm, h.unreached.trans (htotal rfl).symm,
    fun name => (h.attempts name).trans (htotal rfl).symm⟩
  intro s hs
  rcases List.mem_append.mp hs with hs | hs
  · exact h.orderly s hs
  · obtain rfl := List.mem_singleton.mp hs
    exact Desk.History.orderly_start hp

/-- What one registry has done since is all that there is more of. -/
theorem total_step {before after : Nat} {measure : History → Nat} (hs : hall.desks[k]? = some s)
    (s' : History) (metrics : Metrics) (hbefore : before = hall.total measure)
    (htold : after + measure s = before + measure s') :
    after = total ⟨hall.desks.set k s', metrics⟩ measure := by
  have hset := total_set hs s' metrics measure
  omega

/-- One registry has gone on, and all that it has done since has been counted. -/
theorem Accounted.set {metrics : Metrics} (h : Accounted config hall)
    (hs : hall.desks[k]? = some s) (ho : s'.Orderly config)
    (hb : (s.withMetrics hall.metrics).Balanced config (s'.withMetrics metrics)) :
    Accounted config ⟨hall.desks.set k s', metrics⟩ := by
  refine ⟨?_, total_step hs s' metrics h.asked hb.asked,
    total_step hs s' metrics h.answered hb.answered,
    total_step hs s' metrics h.successes hb.successes,
    total_step hs s' metrics h.unreached hb.unreached,
    fun name => total_step hs s' metrics (h.attempts name) (hb.attempts name)⟩
  intro t ht
  rcases List.mem_or_eq_of_mem_set ht with ht | rfl
  · exact h.orderly t ht
  · exact ho

theorem Accounted.advance {m : Move} (h : Accounted config hall) (hv : config.problems = [])
    (hw : m.Within config) (hm : hall.advance m = some hall') : Accounted config hall' := by
  cases m with
  | found providers =>
    cases hm
    exact h.found hw
  | visit k m =>
    obtain ⟨s, hs, hm⟩ := Option.bind_eq_some_iff.mp hm
    obtain ⟨s', hs', hm⟩ := Option.bind_eq_some_iff.mp hm
    cases hm
    have hbefore : (s.withMetrics hall.metrics).Orderly config :=
      (h.orderly s (List.mem_of_getElem? hs)).withYard rfl
    obtain ⟨hafter, hbalanced⟩ := hbefore.advance hv hw hs'
    exact h.set hs hafter hbalanced
  | stray k =>
    obtain ⟨s, hs, hm⟩ := Option.bind_eq_some_iff.mp hm
    cases hm
    have ho := h.orderly s (List.mem_of_getElem? hs)
    exact h.set hs (ho.withYard rfl) ⟨rfl, rfl, rfl, rfl, fun _ => rfl⟩

theorem accounted_of_run (hr : run moves = some hall) (hv : config.problems = [])
    (hw : ∀ m ∈ moves, m.Within config) : Accounted config hall :=
  foldlM_invariant (accounted_start config) (fun m hm _ _ h hstep => h.advance hv (hw m hm) hstep) hr

/-- Nobody waits for the identity service when nothing is being opened. -/
theorem answered_of_settled (h : s.Orderly config) (hi : s.desk.openings = []) :
    s.asked = s.answered := by
  have hnobody : s.desk.askers.countP Desk.Frame.isAuthenticating = 0 := by
    refine List.countP_eq_zero.mpr fun f hf hwaits => ?_
    have hnone : f.opening? = none := by
      rw [Desk.openings_eq] at hi
      exact List.filterMap_eq_nil_iff.mp hi f hf
    cases f with
    | authenticating => cases hnone
    | _ => cases hwaits
  rw [h.traced.answered, hnobody, Nat.add_zero]

theorem attempts_of_settled (hi : s.desk.openings = []) (name : String) :
    s.attempts name = s.desk.spent name (Desk.bouts s.events).ended := by
  rw [History.attempts, hi]
  rfl

/-- Whenever no cache is being opened, the attempts of all providers, the authentications, and the
requests that identity services got are as many as each other. So are the authentications that
succeeded and the initializations that asked and succeeded, those that failed for lack of a
connection and the answers that say so, and the attempts of a provider and those that the
initializations for its tenants have made. -/
theorem authentication_counters_agree (hr : run moves = some hall) (hv : config.problems = [])
    (hw : ∀ m ∈ moves, m.Within config) (hi : hall.Settled) :
    hall.metrics.sum config.attemptCounters = hall.metrics.sum authCounters ∧
    hall.metrics.sum config.attemptCounters = hall.total History.asked ∧
    hall.metrics.sum AuthOutcome.success.counters = hall.total History.successes ∧
    hall.metrics.sum AuthOutcome.connection.counters = hall.total History.unreached ∧
    ∀ name, hall.metrics.counted (.initAttempts name) =
      hall.total fun s => s.desk.spent name (Desk.bouts s.events).ended := by
  have h := accounted_of_run hr hv hw
  have htotal {f g : History → Nat} (heq : ∀ s ∈ hall.desks, f s = g s) :
      hall.total f = hall.total g := by
    rw [total, total, List.map_congr_left heq]
  have hanswered : hall.total History.asked = hall.total History.answered :=
    htotal fun s hs => answered_of_settled (h.orderly s hs) (hi s hs)
  refine ⟨?_, h.asked, h.successes, h.unreached, fun name => ?_⟩
  · rw [h.asked, h.answered, hanswered]
  · rw [h.attempts name]
    exact htotal fun s hs => attempts_of_settled (hi s hs) name

/-- While a registry opens a cache, another one opens its own for the same tenant, and gets through
at the second attempt. The first one is turned away. -/
def crossing : List Move :=
  [.found [Desk.History.cloud], .found [Desk.History.cloud],
    .visit 0 (.call (.getOrOpen ("cloud", "demo"))),
    .visit 1 (.call (.getOrOpen ("cloud", "demo"))),
    .visit 1 (.reply (.answered 0 (.error (.unreachable "down")))),
    .visit 1 (.reply .slept),
    .visit 1 (.reply (.answered 0 (.ok (Desk.History.grantOf ["east"])))),
    .visit 0 (.reply (.answered 0 (.error (.rejected "no"))))]

theorem authentication_counters_agree_crossing : ∃ hall, run crossing = some hall ∧
    Config.problems { providers := [Desk.History.cloud] } = [] ∧
    (∀ m ∈ crossing, m.Within { providers := [Desk.History.cloud] }) ∧ hall.Settled ∧
    hall.metrics.sum authCounters = 3 ∧ hall.metrics.sum AuthOutcome.success.counters = 1 ∧
    hall.metrics.sum AuthOutcome.connection.counters = 1 ∧
    hall.metrics.counted (.initAttempts "cloud") = 3 := by
  have hv : Config.problems { providers := [Desk.History.cloud] } = [] := by decide +kernel
  have hw : ∀ m ∈ crossing, m.Within { providers := [Desk.History.cloud] } := by
    simp [crossing, Move.Within, Desk.Move.Within]
  have hrun : (run crossing).map (fun hall => (hall.desks.all fun s => s.desk.openings.isEmpty,
      hall.total History.asked, hall.total History.successes, hall.total History.unreached,
      hall.total fun s => s.desk.spent "cloud" (Desk.bouts s.events).ended)) =
      some (true, 3, 1, 1, 3) := by
    decide +kernel
  obtain ⟨hall, hr, hrun⟩ := Option.map_eq_some_iff.mp hrun
  obtain ⟨hi, hrun⟩ := Prod.mk.inj hrun
  obtain ⟨hasked, hrun⟩ := Prod.mk.inj hrun
  obtain ⟨hsuccesses, hrun⟩ := Prod.mk.inj hrun
  obtain ⟨hunreached, hspent⟩ := Prod.mk.inj hrun
  have hsettled : hall.Settled := by simpa [Settled] using hi
  obtain ⟨hsame, hasks, hsuccess, hconnection, hattempts⟩ :=
    authentication_counters_agree hr hv hw hsettled
  refine ⟨hall, hr, hv, hw, hsettled, ?_, ?_, ?_, ?_⟩
  · rw [← hsame, hasks, hasked]
  · rw [hsuccess, hsuccesses]
  · rw [hconnection, hunreached]
  · rw [hattempts, hspent]

end Hall
end Tenancy
