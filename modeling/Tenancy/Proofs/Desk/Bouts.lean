import Mathlib.Algebra.GroupWithZero.Nat
import Tenancy.Proofs.Desk.Attending
import Tenancy.Proofs.Desk.Routing

namespace Tenancy

/-- What those counters come to together. -/
def Metrics.sum (m : Metrics) (cs : List Counter) : Nat := (cs.map m.counted).sum

/-- The attempts for all providers of a configuration. -/
def Config.attemptCounters (config : Config) : List Counter :=
  config.providers.map fun p => .initAttempts p.name

/-- The authentications that ended like this. -/
def AuthOutcome.counters (o : AuthOutcome) : List Counter :=
  [IdentityVersion.v2, .v3].map fun version => .catalogAuth version o

/-- All authentications. -/
def authCounters : List Counter :=
  [AuthOutcome.success, .connection, .protocol].flatMap AuthOutcome.counters

namespace Desk

variable {d d' : Desk} {step : Desk × Request} {n m k : Nat} {c : TenantCache} {name : String}
  {config : Config} {charges : List Counter} {counter : Counter} {cs : List Counter}

/-- The identity service is asked. -/
def Event.isAsked (e : Event) : Bool :=
  match e.request with
  | .authenticate .. => true
  | _ => false

/-- The identity service answers whoever opens a cache. -/
def Event.isAnswered (e : Event) : Bool :=
  match e.deed with
  | .answer (.authenticating ..) (.answered ..) => true
  | _ => false

/-- The answer is that the identity service was not reached. -/
def Event.isUnreached (e : Event) : Bool :=
  match e.deed with
  | .answer (.authenticating ..) (.answered _ (.error (.unreachable _))) => true
  | _ => false

/-- An initialization comes to an end with an answer, and is said to have succeeded. -/
def Event.isSuccess (e : Event) : Bool :=
  match e.deed, e.request with
  | .answer (.authenticating _ _ _ purpose) _, .done outcome => purpose.succeeds outcome
  | _, _ => false

/-- Initializations of tenant caches, as bouts of requests to the identity service: how often those
have asked that go on, the one begun last first, and how often those had that have ended, with the
cache that each was for. -/
structure Bouts where
  running : List Nat := []
  ended : List (Nat × Nat) := []

/-- A call that asks begins an initialization. -/
def Bouts.next (b : Bouts) (e : Event) : Bouts :=
  match e.deed, e.request, b.running with
  | .call _, .authenticate .., running => { b with running := 1 :: running }
  | .answer (.sleeping ..) _, .authenticate .., k :: running =>
    { b with running := (k + 1) :: running }
  | .answer (.authenticating n ..) _, .done _, k :: running => ⟨running, (n, k) :: b.ended⟩
  | _, _, _ => b

/-- The initializations of those steps, the latest first. -/
def bouts (es : List Event) : Bouts := es.foldr (fun e b => b.next e) {}

/-- The cache is for a tenant of the provider of that name. -/
def isFor (d : Desk) (name : String) (n : Nat) : Bool :=
  (d.cache? n).any fun c => c.provider.name == name

/-- How often the identity service was asked in those bouts that were for that provider. -/
def spent (d : Desk) (name : String) (bs : List (Nat × Nat)) : Nat :=
  ((bs.filter fun b => d.isFor name b.1).map Prod.snd).sum

theorem spent_cons (b : Nat × Nat) (bs : List (Nat × Nat)) :
    d.spent name (b :: bs) = (if d.isFor name b.1 then b.2 else 0) + d.spent name bs := by
  by_cases h : d.isFor name b.1 = true <;> simp [spent, h]

theorem spent_append (bs bs' : List (Nat × Nat)) :
    d.spent name (bs ++ bs') = d.spent name bs + d.spent name bs' := by
  simp [spent]

theorem spent_congr {bs : List (Nat × Nat)}
    (h : ∀ b ∈ bs, d'.isFor name b.1 = d.isFor name b.1) : d'.spent name bs = d.spent name bs := by
  rw [spent, spent, List.filter_congr h]

theorem isFor_of_cache (hc : d.cache? n = some c) :
    d.isFor name n = true ↔ c.provider.name = name := by
  simp [isFor, hc]

/-- Nothing of a cache changes but whether it is open. -/
def Stays (d d' : Desk) : Prop :=
  ∀ n c, d.cache? n = some c → ∃ opened, d'.cache? n = some { c with opened }

/-- Caches stay with their providers. -/
theorem spent_stays {bs : List (Nat × Nat)} (hstay : Stays d d')
    (hk : ∀ b ∈ bs, ∃ c, d.cache? b.1 = some c) : d'.spent name bs = d.spent name bs := by
  refine spent_congr fun b hb => ?_
  obtain ⟨c, hc⟩ := hk b hb
  obtain ⟨opened, hc'⟩ := hstay b.1 c hc
  rw [Bool.eq_iff_iff, isFor_of_cache hc, isFor_of_cache hc']

theorem openings_eq (d : Desk) : d.openings = d.askers.filterMap Frame.opening? := by
  rw [openings, askers, List.filterMap_filter]
  refine List.filterMap_congr fun f _ => ?_
  cases f <;> rfl

/-- The frame waits for an answer of the identity service that opens a cache. -/
def Frame.isAuthenticating : Frame → Bool
  | .authenticating .. => true
  | _ => false

/-- Everybody who waits for the identity service opens a cache, and has asked so often. -/
inductive Tracks : List Frame → List Nat → Prop
  | nil : Tracks [] []
  | asks {n catalog tries purpose fs ks} (hk : 0 < tries.toNat) (h : Tracks fs ks) :
      Tracks (.authenticating n catalog tries purpose :: fs) (tries.toNat :: ks)
  | sleeps {n catalog next purpose fs k ks} (hk : 0 < k) (hn : next.toNat = k + 1)
      (h : Tracks fs ks) : Tracks (.sleeping n catalog next purpose :: fs) (k :: ks)

theorem Spends.sum (h : Spends charges d d') (hcs : ∀ k ∈ cs, k.isReservation = false) :
    d'.yard.metrics.sum cs = d.yard.metrics.sum cs + (cs.map charges.count).sum := by
  induction cs with
  | nil => rfl
  | cons k cs ih =>
    have hk := h.counted k (hcs k List.mem_cons_self)
    have hrest := ih fun k hk => hcs k (List.mem_cons_of_mem _ hk)
    simp only [Metrics.sum, List.map_cons, List.sum_cons] at hrest ⊢
    omega

theorem Spends.sum_nothing (h : Spends [] d d') (hcs : ∀ k ∈ cs, k.isReservation = false) :
    d'.yard.metrics.sum cs = d.yard.metrics.sum cs := by
  rw [h.sum hcs]
  simp

theorem Spends.sum_one (h : Spends [counter] d d') (hcs : ∀ k ∈ cs, k.isReservation = false) :
    d'.yard.metrics.sum cs = d.yard.metrics.sum cs + cs.count counter := by
  have hcount (cs : List Counter) : (cs.map [counter].count).sum = cs.count counter := by
    induction cs with
    | nil => rfl
    | cons k cs ih =>
      rw [List.map_cons, List.sum_cons, ih]
      simp only [List.count_cons, List.count_nil, beq_iff_eq, eq_comm (a := counter)]
      omega
  rw [h.sum hcs, hcount]

/-- The cache is that of a tenant of the configuration. -/
def Own (config : Config) (c : TenantCache) : Prop :=
  ∃ source p t, p ∈ config.providers ∧ t ∈ p.tenants ∧
    c = { TenantCache.ofConfig source p t with opened := c.opened }

theorem Own.reopen {opened : Option OpenTenant} (h : Own config c) :
    Own config { c with opened } := by
  obtain ⟨source, p, t, hp, ht, hc⟩ := h
  refine ⟨source, p, t, hp, ht, ?_⟩
  rw [hc]

theorem Own.not_hopeless (hv : config.problems = []) (h : Own config c) : ¬ Hopeless c := by
  obtain ⟨source, p, t, hp, ht, hc⟩ := h
  intro hopeless
  have hcomplete := ((Config.problems_eq_nil_iff.mp hv).1 p hp).2
  refine not_hopeless_of_complete hcomplete ht source ?_
  rw [hc] at hopeless
  cases hopeless with
  | unsupported h => exact .unsupported h
  | unbounded h => exact .unbounded h
  | undomained hv hd => exact .undomained hv hd

theorem Own.mem_attemptCounters (h : Own config c) :
    .initAttempts c.provider.name ∈ config.attemptCounters := by
  obtain ⟨source, p, t, hp, -, hc⟩ := h
  rw [hc]
  exact List.mem_map_of_mem (f := fun p : Config.Provider => Counter.initAttempts p.name) hp

namespace History

variable {s s' : History} {m : Move} {deed : Deed}

/-- How often the identity service has been asked. -/
def asked (s : History) : Nat := s.events.countP Event.isAsked

/-- How often it has answered whoever opens a cache. -/
def answered (s : History) : Nat := s.events.countP Event.isAnswered

def unreached (s : History) : Nat := s.events.countP Event.isUnreached

/-- How many initializations have authenticated a catalog and succeeded. -/
def successes (s : History) : Nat := s.events.countP Event.isSuccess

/-- How often initializations for that provider have asked. -/
def attempts (s : History) (name : String) : Nat :=
  s.desk.spent name (s.desk.openings.zip (bouts s.events).running ++ (bouts s.events).ended)

/-- The initializations that go on are those that the desk waits for. -/
structure Traced (s : History) : Prop where
  tracks : Tracks s.desk.askers (bouts s.events).running
  known : ∀ b ∈ (bouts s.events).ended, ∃ c, s.desk.cache? b.1 = some c
  answered : s.asked = s.answered + s.desk.askers.countP Frame.isAuthenticating

/-- Between the two histories all that was asked and answered has been counted. -/
structure Balanced (config : Config) (s s' : History) : Prop where
  asked : s'.desk.yard.metrics.sum config.attemptCounters + s.asked =
    s.desk.yard.metrics.sum config.attemptCounters + s'.asked
  answered : s'.desk.yard.metrics.sum authCounters + s.answered =
    s.desk.yard.metrics.sum authCounters + s'.answered
  successes : s'.desk.yard.metrics.sum AuthOutcome.success.counters + s.successes =
    s.desk.yard.metrics.sum AuthOutcome.success.counters + s'.successes
  unreached : s'.desk.yard.metrics.sum AuthOutcome.connection.counters + s.unreached =
    s.desk.yard.metrics.sum AuthOutcome.connection.counters + s'.unreached
  attempts : ∀ name, s'.desk.yard.metrics.counted (.initAttempts name) + s.attempts name =
    s.desk.yard.metrics.counted (.initAttempts name) + s'.attempts name

variable {l : Option (Nat × Snapshot)} {d₀ : Desk} {r : Request}

/-- What such an operation does is not read as anything. -/
theorem unread_aside (hd : ∀ f reply, deed = .answer f reply → f.isAside = true)
    (hp : d.Fetches r) : Event.isAsked ⟨deed, l, r⟩ = false ∧
      Event.isAnswered ⟨deed, l, r⟩ = false ∧ Event.isUnreached ⟨deed, l, r⟩ = false ∧
      Event.isSuccess ⟨deed, l, r⟩ = false ∧ ∀ b : Bouts, b.next ⟨deed, l, r⟩ = b := by
  have hasked : Event.isAsked ⟨deed, l, r⟩ = false := by cases hp <;> rfl
  refine ⟨hasked, ?_⟩
  cases deed with
  | make | reorder => exact ⟨rfl, rfl, rfl, fun b => by simp [Bouts.next]⟩
  | call call => exact ⟨rfl, rfl, rfl, fun b => by cases hp <;> simp [Bouts.next]⟩
  | answer f reply =>
    have haside := hd f reply rfl
    cases f with
    | authenticating | sleeping | refreshing => cases haside
    | _ => exact ⟨rfl, rfl, rfl, fun b => by simp [Bouts.next]⟩

theorem count_authCounters (version : IdentityVersion) (o : AuthOutcome) :
    authCounters.count (.catalogAuth version o) = 1 := by
  cases version <;> cases o <;> decide

theorem count_counters (version : IdentityVersion) (o o' : AuthOutcome) :
    o.counters.count (.catalogAuth version o') = if o' = o then 1 else 0 := by
  cases version <;> cases o <;> cases o' <;> decide

theorem count_attempt {o : AuthOutcome} : o.counters.count (.initAttempts name) = 0 :=
  List.count_eq_zero.mpr (by simp [AuthOutcome.counters])

theorem count_authCounters_attempt : authCounters.count (.initAttempts name) = 0 :=
  List.count_eq_zero.mpr (by simp [authCounters, AuthOutcome.counters])

theorem count_attemptCounters (version : IdentityVersion) (o : AuthOutcome) :
    config.attemptCounters.count (.catalogAuth version o) = 0 :=
  List.count_eq_zero.mpr (by simp [Config.attemptCounters])

theorem attemptCounters_nodup (hv : config.problems = []) : config.attemptCounters.Nodup := by
  have hnames := (Config.problems_eq_nil_iff.mp hv).2
  have hcounters := hnames.map (f := Counter.initAttempts) fun a b h => by injection h
  rwa [List.map_map] at hcounters

theorem outcome_success (result : Except CatalogError Snapshot) :
    Catalog.outcome result = .success ↔ result.toOption.isSome = true := by
  cases result with
  | ok s => simp [Catalog.outcome, Except.toOption]
  | error error => cases h : error.isConnection <;> simp [Catalog.outcome, Except.toOption, h]

theorem outcome_connection (catalog : Catalog) (now : Instant)
    (answer : Except IdentityError Grant) :
    Catalog.outcome (catalog.evaluate now answer) = .connection ↔
      ∃ detail, answer = .error (.unreachable detail) := by
  cases answer with
  | error error => cases error <;> simp [Catalog.evaluate, Catalog.outcome, CatalogError.isConnection]
  | ok grant =>
    simp only [Catalog.evaluate, reduceCtorEq, exists_false, iff_false]
    cases h : Snapshot.ofGrant catalog.version now grant with
    | ok s => simp [Catalog.outcome]
    | error error => simp [Catalog.outcome, Snapshot.ofGrant_not_connection h]

theorem isUnreached_iff {catalog : Catalog} {tries : UInt32} {purpose : Purpose} {now : Instant}
    {answer : Except IdentityError Grant} :
    Event.isUnreached ⟨.answer (.authenticating n catalog tries purpose) (.answered now answer),
      l, r⟩ = true ↔ ∃ detail, answer = .error (.unreachable detail) := by
  cases answer with
  | ok grant => simp [Event.isUnreached]
  | error error => cases error <;> simp [Event.isUnreached]

theorem asked_record (s : History) (deed : Deed) (step : Desk × Request) :
    (s.record deed step).asked =
      s.asked + if Event.isAsked ⟨deed, s.desk.learns deed, step.2⟩ then 1 else 0 :=
  List.countP_cons

theorem answered_record (s : History) (deed : Deed) (step : Desk × Request) :
    (s.record deed step).answered =
      s.answered + if Event.isAnswered ⟨deed, s.desk.learns deed, step.2⟩ then 1 else 0 :=
  List.countP_cons

theorem bouts_record (s : History) (deed : Deed) (step : Desk × Request) :
    bouts (s.record deed step).events =
      (bouts s.events).next ⟨deed, s.desk.learns deed, step.2⟩ :=
  rfl

/-- Where a step counts what it reads as, everything is balanced. -/
theorem balanced_of (gain : List Counter → Nat)
    (hgain : ∀ cs : List Counter, (∀ k ∈ cs, k.isReservation = false) →
      step.1.yard.metrics.sum cs = s.desk.yard.metrics.sum cs + gain cs)
    (hasked : gain config.attemptCounters =
      if Event.isAsked ⟨deed, s.desk.learns deed, step.2⟩ then 1 else 0)
    (hanswered : gain authCounters =
      if Event.isAnswered ⟨deed, s.desk.learns deed, step.2⟩ then 1 else 0)
    (hsuccess : gain AuthOutcome.success.counters =
      if Event.isSuccess ⟨deed, s.desk.learns deed, step.2⟩ then 1 else 0)
    (hunreached : gain AuthOutcome.connection.counters =
      if Event.isUnreached ⟨deed, s.desk.learns deed, step.2⟩ then 1 else 0)
    (hattempts : ∀ name,
      (s.record deed step).attempts name = s.attempts name + gain [.initAttempts name]) :
    Balanced config s (s.record deed step) := by
  have hattempt : ∀ k ∈ config.attemptCounters, k.isReservation = false := by
    intro k hk
    obtain ⟨p, -, rfl⟩ := List.mem_map.mp hk
    rfl
  have hauth : ∀ k ∈ authCounters, k.isReservation = false := by decide
  have hevents : (s.record deed step).events = ⟨deed, s.desk.learns deed, step.2⟩ :: s.events := rfl
  have hdesk : (s.record deed step).desk = step.1 := rfl
  refine ⟨?_, ?_, ?_, ?_, fun name => ?_⟩
  · rw [hdesk, hgain _ hattempt, hasked, asked_record]
    omega
  · rw [hdesk, hgain _ hauth, hanswered, answered_record]
    omega
  · rw [hdesk, hgain _ (by decide), hsuccess, successes, successes, hevents, List.countP_cons]
    omega
  · rw [hdesk, hgain _ (by decide), hunreached, unreached, unreached, hevents, List.countP_cons]
    omega
  · have hone := hgain [.initAttempts name] (by simp [Counter.isReservation])
    simp only [Metrics.sum, List.map_cons, List.map_nil, List.sum_cons, List.sum_nil,
      Nat.add_zero] at hone
    rw [hdesk, hattempts, hone]
    omega

/-- What has been asked for caches so far can be read later as well. -/
theorem attempts_stays (ht : s.Traced) (ho : ∀ n ∈ s.desk.openings, ∃ c, s.desk.cache? n = some c)
    (hstay : Stays s.desk d') (name : String) :
    d'.spent name (s.desk.openings.zip (bouts s.events).running ++ (bouts s.events).ended) =
      s.attempts name := by
  refine spent_stays hstay fun b hb => ?_
  rcases List.mem_append.mp hb with hb | hb
  · exact ho b.1 (List.of_mem_zip hb).1
  · exact ht.known b hb

theorem Traced.known_stays (ht : s.Traced) (hstay : Stays s.desk d') :
    ∀ b ∈ (Desk.bouts s.events).ended, ∃ c, d'.cache? b.1 = some c := by
  intro b hb
  obtain ⟨c, hc⟩ := ht.known b hb
  obtain ⟨opened, hc'⟩ := hstay b.1 c hc
  exact ⟨_, hc'⟩

/-- Whoever waits for an answer has asked as often as his bout says. -/
theorem Traced.asks {catalog : Catalog} {tries : UInt32} {purpose : Purpose} {rest : List Frame}
    (ht : s.Traced) (hd : s.desk.askers = .authenticating n catalog tries purpose :: rest) :
    ∃ ks, (bouts s.events).running = tries.toNat :: ks ∧ 0 < tries.toNat ∧ Tracks rest ks := by
  have htracks := ht.tracks
  rw [hd] at htracks
  generalize (bouts s.events).running = running at htracks
  cases htracks with
  | asks hk htail => exact ⟨_, rfl, hk, htail⟩

/-- Whoever waits before he asks again has asked once less than he will have. -/
theorem Traced.sleeps {catalog : Catalog} {next : UInt32} {purpose : Purpose} {rest : List Frame}
    (ht : s.Traced) (hd : s.desk.askers = .sleeping n catalog next purpose :: rest) :
    ∃ k ks, (bouts s.events).running = k :: ks ∧ next.toNat = k + 1 ∧ Tracks rest ks := by
  have htracks := ht.tracks
  rw [hd] at htracks
  generalize (bouts s.events).running = running at htracks
  cases htracks with
  | sleeps hk hn htail => exact ⟨_, _, rfl, hn, htail⟩

theorem balanced_attempt (hv : config.problems = []) (hm : d₀.yard.metrics = s.desk.yard.metrics)
    (hs : Spends [.initAttempts c.provider.name] d₀ step.1) (hown : Own config c)
    (hasked : Event.isAsked ⟨deed, s.desk.learns deed, step.2⟩ = true)
    (hanswered : Event.isAnswered ⟨deed, s.desk.learns deed, step.2⟩ = false)
    (hsuccess : Event.isSuccess ⟨deed, s.desk.learns deed, step.2⟩ = false)
    (hunreached : Event.isUnreached ⟨deed, s.desk.learns deed, step.2⟩ = false)
    (hattempts : ∀ name, (s.record deed step).attempts name =
      s.attempts name + if c.provider.name = name then 1 else 0) :
    Balanced config s (s.record deed step) := by
  refine balanced_of (fun cs => cs.count (.initAttempts c.provider.name))
    (fun cs hcs => ?_) ?_ ?_ ?_ ?_ fun name => ?_
  · rw [hs.sum_one hcs, hm]
  · rw [hasked]
    exact List.count_eq_one_of_mem (attemptCounters_nodup hv) hown.mem_attemptCounters
  · rw [hanswered]
    exact count_authCounters_attempt
  · rw [hsuccess]
    exact count_attempt
  · rw [hunreached]
    exact count_attempt
  · rw [hattempts]
    simp only [List.count_singleton, beq_iff_eq, Counter.initAttempts.injEq, eq_comm (a := name)]

theorem balanced_answer {catalog : Catalog} {tries : UInt32} {purpose : Purpose} {now : Instant}
    {answer : Except IdentityError Grant} {d' : Desk} (hm : d₀.yard.metrics = s.desk.yard.metrics)
    (hs : Spends [.catalogAuth catalog.version (Catalog.outcome (catalog.evaluate now answer))]
      d₀ d')
    (hasked : Event.isAsked ⟨.answer (.authenticating n catalog tries purpose)
        (.answered now answer), none, r⟩ = false)
    (hsuccess : Event.isSuccess ⟨.answer (.authenticating n catalog tries purpose)
        (.answered now answer), none, r⟩ = (catalog.evaluate now answer).toOption.isSome)
    (hattempts : ∀ name, (s.record (.answer (.authenticating n catalog tries purpose)
        (.answered now answer)) (d', r)).attempts name = s.attempts name) :
    Balanced config s (s.record (.answer (.authenticating n catalog tries purpose)
      (.answered now answer)) (d', r)) := by
  refine balanced_of (fun cs => cs.count (.catalogAuth catalog.version
    (Catalog.outcome (catalog.evaluate now answer)))) (fun cs hcs => ?_) ?_ ?_ ?_ ?_ fun name => ?_
  · rw [hs.sum_one hcs, hm]
  · rw [count_attemptCounters]
    exact (if_neg (Bool.eq_false_iff.mp hasked)).symm
  · exact count_authCounters _ _
  · rw [count_counters]
    simp only [outcome_success]
    exact congrArg (if · = true then 1 else 0) hsuccess.symm
  · rw [count_counters]
    exact if_congr ((outcome_connection catalog now answer).trans isUnreached_iff.symm) rfl rfl
  · rw [hattempts]
    simp

variable (ht : s.Traced) (ho : ∀ n ∈ s.desk.openings, ∃ c, s.desk.cache? n = some c)
  (hm : d₀.yard.metrics = s.desk.yard.metrics) (ha : d₀.askers = s.desk.askers)

include ht ho hm ha

theorem aside_balanced (hstay : Stays s.desk step.1)
    (hd : ∀ f reply, deed = .answer f reply → f.isAside = true) (hp : step.1.Fetches step.2)
    (hsame : step.1.askers = d₀.askers) (hs : Spends [] d₀ step.1) :
    Traced (s.record deed step) ∧ Balanced config s (s.record deed step) := by
  obtain ⟨hasked, hanswered, hunreached, hsuccess, hnext⟩ :=
    unread_aside (l := s.desk.learns deed) hd hp
  have hbouts : bouts (s.record deed step).events = bouts s.events := hnext _
  have haskers : step.1.askers = s.desk.askers := hsame.trans ha
  refine ⟨⟨?_, ?_, ?_⟩, balanced_of (fun _ => 0) (fun cs hcs => ?_) ?_ ?_ ?_ ?_ fun name => ?_⟩
  · change Tracks step.1.askers _
    rw [haskers, hbouts]
    exact ht.tracks
  · rw [hbouts]
    exact ht.known_stays hstay
  · rw [asked_record, answered_record, hasked, hanswered]
    change _ = _ + step.1.askers.countP _
    rw [haskers]
    exact ht.answered
  · rw [hs.sum_nothing hcs, hm, Nat.add_zero]
  · rw [hasked]
    rfl
  · rw [hanswered]
    rfl
  · rw [hsuccess]
    rfl
  · rw [hunreached]
    rfl
  · change step.1.spent name (step.1.openings.zip _ ++ _) = _
    rw [hbouts, openings_eq, haskers, ← openings_eq, attempts_stays ht ho hstay, Nat.add_zero]

variable {catalog : Catalog} {tries next : UInt32} {purpose : Purpose} {request : AuthRequest}
  {rest : List Frame} {now : Instant} {answer : Except IdentityError Grant} {call : Call}
  (hv : config.problems = []) (hstay : Stays s.desk d')

include hv hstay

theorem begins_balanced (hc : d'.cache? n = some c) (hown : Own config c)
    (hask : d'.askers = .authenticating n catalog 1 purpose :: d₀.askers)
    (hs : Spends [.initAttempts c.provider.name] d₀ d') :
    Traced (s.record (.call call) (d', .authenticate c.source request)) ∧
      Balanced config s (s.record (.call call) (d', .authenticate c.source request)) := by
  rw [ha] at hask
  refine ⟨⟨?_, ht.known_stays hstay, ?_⟩,
    balanced_attempt hv hm hs hown rfl rfl rfl rfl fun name => ?_⟩
  · change Tracks d'.askers ((1 : UInt32).toNat :: _)
    rw [hask]
    exact .asks Nat.one_pos ht.tracks
  · have hcount := ht.answered
    rw [asked_record, answered_record]
    change s.asked + 1 = s.answered + d'.askers.countP Frame.isAuthenticating
    rw [hask, List.countP_cons_of_pos rfl]
    omega
  · have hopenings : d'.openings = n :: s.desk.openings := by
      rw [openings_eq, hask, openings_eq]
      rfl
    change d'.spent name (d'.openings.zip (1 :: (bouts s.events).running) ++
      (bouts s.events).ended) = _
    rw [hopenings, List.zip_cons_cons, List.cons_append, spent_cons, attempts_stays ht ho hstay]
    simp only [isFor_of_cache hc]
    exact Nat.add_comm _ _

theorem again_balanced (hc : d'.cache? n = some c) (hown : Own config c)
    (hd : d₀.askers = .sleeping n catalog tries purpose :: rest)
    (hask : d'.askers = .authenticating n catalog tries purpose :: rest)
    (hs : Spends [.initAttempts c.provider.name] d₀ d') :
    Traced (s.record (.answer (.sleeping n catalog tries purpose) .slept)
        (d', .authenticate c.source request)) ∧
      Balanced config s (s.record (.answer (.sleeping n catalog tries purpose) .slept)
        (d', .authenticate c.source request)) := by
  have haskers := ha.symm.trans hd
  obtain ⟨k, ks, hrun, hn, htail⟩ := ht.sleeps haskers
  have hbouts : bouts (s.record (.answer (.sleeping n catalog tries purpose) .slept)
      (d', .authenticate c.source request)).events =
      ⟨tries.toNat :: ks, (bouts s.events).ended⟩ := by
    rw [bouts_record]
    simp only [Bouts.next, hrun, hn]
  refine ⟨⟨?_, ?_, ?_⟩, balanced_attempt hv hm hs hown rfl rfl rfl rfl fun name => ?_⟩
  · rw [hbouts]
    change Tracks d'.askers (tries.toNat :: ks)
    rw [hask]
    exact .asks (by omega) htail
  · rw [hbouts]
    exact ht.known_stays hstay
  · have hcount := ht.answered
    rw [asked_record, answered_record]
    change s.asked + 1 = s.answered + d'.askers.countP Frame.isAuthenticating
    rw [haskers, List.countP_cons_of_neg (by simp [Frame.isAuthenticating])] at hcount
    rw [hask, List.countP_cons_of_pos rfl]
    omega
  · have hold := attempts_stays ht ho hstay name
    rw [openings_eq, haskers, hrun] at hold
    rw [← hold, attempts, hbouts, openings_eq]
    change d'.spent name ((d'.askers.filterMap Frame.opening?).zip _ ++ _) = _
    rw [hask]
    change d'.spent name ((n, tries.toNat) :: _) = d'.spent name ((n, k) :: _) + _
    rw [spent_cons, spent_cons, hn]
    simp only [isFor_of_cache hc]
    split <;> omega

omit hv

theorem waits_balanced {error : CatalogError} {wait : Duration}
    (he : catalog.evaluate now answer = .error error)
    (hd : d₀.askers = .authenticating n catalog tries purpose :: rest)
    (hask : d'.askers = .sleeping n catalog next purpose :: rest)
    (hn : next.toNat = tries.toNat + 1)
    (hs : Spends [.catalogAuth catalog.version (Catalog.outcome (catalog.evaluate now answer))]
      d₀ d') :
    Traced (s.record (.answer (.authenticating n catalog tries purpose) (.answered now answer))
        (d', .sleep wait)) ∧
      Balanced config s (s.record (.answer (.authenticating n catalog tries purpose)
        (.answered now answer)) (d', .sleep wait)) := by
  have haskers := ha.symm.trans hd
  obtain ⟨ks, hrun, hk, htail⟩ := ht.asks haskers
  have hbouts : bouts (s.record (.answer (.authenticating n catalog tries purpose)
      (.answered now answer)) (d', .sleep wait)).events = bouts s.events := by
    rw [bouts_record]
    simp only [Bouts.next]
  refine ⟨⟨?_, ?_, ?_⟩, balanced_answer hm hs rfl ?_ fun name => ?_⟩
  · rw [hbouts, hrun]
    change Tracks d'.askers _
    rw [hask]
    exact .sleeps hk hn htail
  · rw [hbouts]
    exact ht.known_stays hstay
  · have hcount := ht.answered
    rw [asked_record, answered_record]
    change s.asked = s.answered + 1 + d'.askers.countP Frame.isAuthenticating
    rw [haskers, List.countP_cons_of_pos rfl] at hcount
    rw [hask, List.countP_cons_of_neg (by simp [Frame.isAuthenticating])]
    omega
  · rw [he]
    rfl
  · have hold := attempts_stays ht ho hstay name
    rw [openings_eq, haskers] at hold
    rw [← hold, attempts, hbouts, openings_eq]
    change d'.spent name ((d'.askers.filterMap Frame.opening?).zip _ ++ _) = _
    rw [hask]
    rfl

theorem ends_balanced {outcome : Outcome}
    (hp : purpose.succeeds outcome = (catalog.evaluate now answer).toOption.isSome)
    (hd : d₀.askers = .authenticating n catalog tries purpose :: d'.askers)
    (hs : Spends [.catalogAuth catalog.version (Catalog.outcome (catalog.evaluate now answer))]
      d₀ d') :
    Traced (s.record (.answer (.authenticating n catalog tries purpose) (.answered now answer))
        (d', .done outcome)) ∧
      Balanced config s (s.record (.answer (.authenticating n catalog tries purpose)
        (.answered now answer)) (d', .done outcome)) := by
  have haskers := ha.symm.trans hd
  obtain ⟨ks, hrun, hk, htail⟩ := ht.asks haskers
  have hbouts : bouts (s.record (.answer (.authenticating n catalog tries purpose)
      (.answered now answer)) (d', .done outcome)).events =
      ⟨ks, (n, tries.toNat) :: (bouts s.events).ended⟩ := by
    rw [bouts_record]
    simp only [Bouts.next, hrun]
  have hopenings : s.desk.openings = n :: d'.openings := by
    rw [openings_eq, haskers, openings_eq]
    rfl
  refine ⟨⟨?_, ?_, ?_⟩, balanced_answer hm hs rfl hp fun name => ?_⟩
  · rw [hbouts]
    exact htail
  · rw [hbouts]
    obtain ⟨c, hc⟩ := ho n (hopenings ▸ List.mem_cons_self)
    obtain ⟨opened, hc'⟩ := hstay n c hc
    exact List.forall_mem_cons.mpr ⟨⟨_, hc'⟩, ht.known_stays hstay⟩
  · have hcount := ht.answered
    rw [asked_record, answered_record]
    change s.asked = s.answered + 1 + d'.askers.countP Frame.isAuthenticating
    rw [haskers, List.countP_cons_of_pos rfl] at hcount
    omega
  · have hold := attempts_stays ht ho hstay name
    rw [hopenings, hrun, List.zip_cons_cons, List.cons_append, spent_cons, spent_append] at hold
    rw [← hold, attempts, hbouts]
    change d'.spent name (d'.openings.zip ks ++ (n, tries.toNat) :: (bouts s.events).ended) = _
    rw [spent_append, spent_cons]
    omega

end History
end Desk
end Tenancy
