import Tenancy.Proofs.CommandLine
import Tenancy.Proofs.Desk.Configured
import Tenancy.Proofs.Timestamp

namespace Tenancy

namespace StaticIdentity

variable {identity : StaticIdentity} {catalog : Catalog} {now later : Instant} {tenant : String}
  {error : CatalogError}

/-- A document is always there, so there is never a reason to try again. -/
theorem refused_for_good (h : catalog.evaluate now (identity.authenticate tenant) = .error error) :
    error.isConnection = false := by
  unfold authenticate at h
  split at h
  · exact Snapshot.ofGrant_not_connection h
  · cases h
    rfl

/-- What a document has led to once, it leads to again. -/
theorem evaluate_again {document : String} {s : Snapshot} (h : read? document = some identity)
    (hnow : now < Instant.limit / 2)
    (hs : catalog.evaluate later (identity.authenticate tenant) = .ok s) :
    ∃ s', catalog.evaluate now (identity.authenticate tenant) = .ok s' ∧
      s'.services = s.services := by
  unfold authenticate at hs ⊢
  split at hs
  · rename_i hknown
    rw [if_pos hknown]
    obtain ⟨length, services, hlength, -, hservices, rfl⟩ := Snapshot.ofGrant_ok_iff.mp hs
    exact ⟨_, Snapshot.ofGrant_ok_iff.mpr
      ⟨length, services, hlength, expires_lt h hlength hnow, hservices, rfl⟩, rfl⟩
  · cases hs

/-- What a document refuses, it refuses at any time. -/
theorem evaluate_refused {document : String} (h : read? document = some identity)
    (hnow : now < Instant.limit / 2) (hlater : later < Instant.limit / 2)
    (he : catalog.evaluate later (identity.authenticate tenant) = .error error) :
    catalog.evaluate now (identity.authenticate tenant) = .error error := by
  cases hs : catalog.evaluate now (identity.authenticate tenant) with
  | ok s =>
    obtain ⟨s', hs', -⟩ := evaluate_again h hlater hs
    cases hs'.symm.trans he
  | error error' =>
    unfold authenticate at hs he
    split at hs
    · rename_i hknown
      rw [if_pos hknown] at he
      have hsame {instant : Instant} (hi : instant < Instant.limit / 2) :
          (catalog.evaluate instant (.ok identity.grant)).map Snapshot.services =
            (Snapshot.lifetime identity.grant.token).bind fun _ =>
              identity.grant.catalog.foldlM (Snapshot.addService catalog.version) .empty :=
        Snapshot.services_ofGrant fun _ hl => expires_lt h hl hi
      have hboth := (hsame hnow).trans (hsame hlater).symm
      rw [hs, he] at hboth
      cases hboth
      rfl
    · rename_i hknown
      rw [if_neg hknown] at he
      exact hs.symm.trans he

end StaticIdentity

namespace Desk

variable {errand : Errand} {kept : List Thing} {entries : List Entry} {x y : Scene} {d : Desk}
  {n : Nat} {c : TenantCache} {key : Key} {identity : StaticIdentity} {catalog : Catalog}
  {bounds : PoolBounds} {tries : UInt32}

/-- Nothing of a cache changes but what it has been opened with. -/
theorem Act.cache (h : Act errand kept x entries y) (hc : x.desk.cache? n = some c) :
    ∃ opened, y.desk.cache? n = some { c with opened } := by
  cases h with
  | hold | letGo => exact ⟨c.opened, by simpa using hc⟩
  | add c' => exact ⟨c.opened, cache?_add_of_some hc c'⟩
  | @openTenant d hand news m c' catalog bounds s project hu =>
    have hcache := cache?_openTenant hu.1 catalog bounds s project n
    by_cases hm : m = n
    · subst hm
      obtain rfl := Option.some.inj (hu.1.symm.trans hc)
      exact ⟨_, hcache.trans (if_pos rfl)⟩
    · exact ⟨c.opened, hcache.trans ((if_neg hm).trans hc)⟩
  | @publish d hand news m c' o s hm ho =>
    have hcache := cache?_setCache hm (c'.publish s) n
    by_cases hn : m = n
    · subst hn
      obtain rfl := Option.some.inj (hm.symm.trans hc)
      exact ⟨_, hcache.trans (if_pos rfl)⟩
    · exact ⟨c.opened, hcache.trans ((if_neg hn).trans hc)⟩
  | _ => exact ⟨c.opened, hc⟩

/-- The cache whose catalog the identity service is asked for. -/
def Frame.asks? : Frame → Option Nat
  | .authenticating n .. | .refreshing n => some n
  | _ => none

/-- That document, read at some time, gives the snapshot for that target. -/
def Served (identity : StaticIdentity) (target : CatalogTarget) (s : Snapshot) : Prop :=
  ∃ catalog now, Catalog.of? target = some catalog ∧
    catalog.evaluate now (identity.authenticate target.tenant) = .ok s

namespace History

variable {s s' t t' u : History} {moves : List Move} {move : Move} {r : Request}
  {config : Config} {url : String}

/-- Whatever has been answered so far, the document has answered. -/
def AnsweredBy (identity : StaticIdentity) (s : History) : Prop :=
  ∀ e ∈ s.events, ∀ f now answer n c, e.deed = .answer f (.answered now answer) →
    f.asks? = some n → s.desk.cache? n = some c → answer = identity.authenticate c.requested

theorem cache_stays (hs : Sound s.kept ⟨s.desk, [], s.news⟩) (hc : s.desk.cache? n = some c)
    (hr : s.runFrom moves = some u) : ∃ opened, u.desk.cache? n = some { c with opened } :=
  runFrom_keeps (P := fun _ x => ∃ opened, x.desk.cache? n = some { c with opened })
    (fun h _ hx => by
      obtain ⟨opened, hx⟩ := hx
      obtain ⟨opened', hy⟩ := h.cache hx
      exact ⟨opened', hy⟩)
    (fun _ h => h) ⟨c.opened, hc⟩ hs hr

theorem runFrom_single (h : t.advance move = some t') : t.runFrom [move] = some t' := by
  rw [runFrom, List.foldlM_cons, h]
  rfl

theorem AnsweredBy.before (h : AnsweredBy identity t')
    (hs : Sound t.kept ⟨t.desk, [], t.news⟩) (hm : t.advance move = some t') :
    AnsweredBy identity t := by
  intro e he f now answer n c hdeed hn hc
  obtain ⟨opened, hc'⟩ := cache_stays hs hc (runFrom_single hm)
  obtain ⟨e', given, got, rest, hevents, -⟩ := advance_walk hm hs
  have hmem : e ∈ t'.events := hevents ▸ List.mem_cons_of_mem e' he
  have hanswer := h e hmem f now answer n _ hdeed hn hc'
  exact hanswer

/-- What a catalog learns in a step, it learns from the document. -/
theorem learned_served {e : Event} {snapshot : Snapshot} (hfit : Fit (Served identity) t.desk)
    (hs : Sound t.kept ⟨t.desk, [], t.news⟩) (hm : t.advance move = some t')
    (hall : AnsweredBy identity t') (he : e ∈ t'.events.head?)
    (hl : e.learned = some (n, snapshot)) (hc : t.desk.cache? n = some c) :
    Served identity c.target snapshot := by
  obtain ⟨opened, hc'⟩ := cache_stays hs hc (runFrom_single hm)
  obtain ⟨c₀, -, rfl⟩ | ⟨_, _, _, rfl⟩ | ⟨call, step, -, -, rfl⟩ |
    ⟨f, frames, reply, step, hf, -, rfl⟩ := advance_cases hm
  · cases he
    cases hl
  · cases he
    cases hl
  · cases he
    cases hl
  · cases he
    have hanswer (now : Instant) (answer : Except IdentityError Grant)
        (hreply : reply = .answered now answer) (hn : f.asks? = some n) :
        answer = identity.authenticate c.requested := by
      subst hreply
      have hanswer := hall _ List.mem_cons_self f now answer n _ rfl hn hc'
      exact hanswer
    cases f with
    | authenticating m catalog tries purpose =>
      cases reply with
      | answered now answer =>
        obtain ⟨snapshot, hok, heq⟩ := Option.map_eq_some_iff.mp hl
        cases heq
        obtain ⟨c₁, hc₁, hsuits, -⟩ :=
          hfit.waiting _ (hf ▸ List.mem_cons_self) n catalog purpose .authenticating
        obtain rfl := Option.some.inj (hc₁.symm.trans hc)
        rw [hanswer now answer rfl rfl] at hok
        exact ⟨catalog, now, hsuits.made, ok_of_toOption hok⟩
      | succeeded | failed | slept | finished | unwind => cases hl
    | refreshing m =>
      cases reply with
      | answered now answer =>
        obtain ⟨c₁, hc₁, hl⟩ := Option.bind_eq_some_iff.mp hl
        obtain ⟨o, ho, hl⟩ := Option.bind_eq_some_iff.mp hl
        obtain ⟨snapshot, hok, heq⟩ := Option.map_eq_some_iff.mp hl
        cases heq
        obtain rfl := Option.some.inj (hc₁.symm.trans hc)
        obtain ⟨catalog, s₀, hsuits, hcatalog, -⟩ := hfit.opened n c₁ o hc ho
        rw [hanswer now answer rfl rfl, hcatalog] at hok
        exact ⟨catalog, now, hsuits.made, ok_of_toOption hok⟩
      | succeeded | failed | slept | finished | unwind => cases hl
    | _ => cases reply <;> cases hl

/-- Every open cache has what the document says. -/
theorem served_of_run {providers : List Config.Provider} (hs : run providers moves = some s)
    (h : AnsweredBy identity s) : Fit (Served identity) s.desk := by
  have hinv : Sound s.kept ⟨s.desk, [], s.news⟩ ∧
      (AnsweredBy identity s → Fit (Served identity) s.desk) :=
    foldlM_invariant (s := ⟨{ providers }, []⟩) (P := fun t : History =>
        Sound t.kept ⟨t.desk, [], t.news⟩ ∧ (AnsweredBy identity t → Fit (Served identity) t.desk))
      ⟨sound_start providers, fun _ => fit_start providers⟩
      (fun m _ t t' ht hm => by
        obtain ⟨hsound, hfit⟩ := ht
        refine ⟨sound_advance hsound hm, fun hall => ?_⟩
        have hbefore := hfit (hall.before hsound hm)
        exact fit_advance hbefore
          (fun e he n s c hl hc => learned_served hbefore hsound hm hall he hl hc) hm) hs
  exact hinv.2 h

/-- The program and the registry come to the same. -/
inductive Alike (q : CommandLine.Query) (url : String) :
    Except CommandLine.Failure CommandLine.Output → Except TenantError String → Prop
  | region (region : String) : Alike q url (.ok (.region region)) (.ok region)
  | noRegion : Alike q url (.error (.noRegion url)) (.error (.noRoute url))
  | unknownProvider :
      Alike q url (.error (.unknownProvider q.provider)) (.error (.unknownProvider q.provider))
  | unknownTenant : Alike q url (.error (.unknownTenant q.provider q.tenant))
      (.error (.unknownTenant q.provider q.tenant))
  | catalog (error : CatalogError) :
      Alike q url (.error (.catalog error)) (.error (.initFailed ⟨error, 1⟩))

/-- Whatever an operation asks for, the document answers, the clock being less than half way to its
limit, and nobody comes between. -/
inductive Ends (identity : StaticIdentity) : Request → History → Outcome → History → Prop
  | done (outcome : Outcome) (s : History) : Ends identity (.done outcome) s outcome s
  | answered {source : Nat} {request : AuthRequest} {s s' t : History} {f : Frame}
      {later : Instant} {r : Request} {outcome : Outcome} (hlater : later < Instant.limit / 2)
      (h : s.Takes (.answer f (.answered later (identity.authenticate request.tenant))) r s')
      (rest : Ends identity r s' outcome t) :
      Ends identity (.authenticate source request) s outcome t
  | slept {wait : Duration} {s s' t : History} {f : Frame} {r : Request} {outcome : Outcome}
      (h : s.Takes (.answer f .slept) r s') (rest : Ends identity r s' outcome t) :
      Ends identity (.sleep wait) s outcome t

/-- What comes of it to look for the cache of that key, and there for the region of that URL. -/
inductive Routes (identity : StaticIdentity) (s : History) (key : Key) (url : String) :
    Except TenantError String → Prop
  | refused {r : Request} {s' t : History} {error : TenantError}
      (h : s.Takes (.call (.getOrOpen key)) r s') (hend : Ends identity r s' (.failed error) t) :
      Routes identity s key url (.error error)
  | found {r : Request} {s' t : History} {n : Nat} {c : TenantCache}
      (h : s.Takes (.call (.getOrOpen key)) r s') (hend : Ends identity r s' (.cached n) t)
      (hc : t.desk.cache? n = some c) : Routes identity s key url (c.regionOf url)

variable {q : CommandLine.Query} {result : Except CommandLine.Failure CommandLine.Output}

/-- After `r` has been asked for, everything comes to an end, and that is what the program says. -/
structure Agrees (identity : StaticIdentity) (q : CommandLine.Query) (url : String)
    (result : Except CommandLine.Failure CommandLine.Output) (r : Request) (s : History) :
    Prop where
  ends : ∃ outcome t, Ends identity r s outcome t
  alike : ∀ outcome t, Ends identity r s outcome t →
    (∃ error, outcome = .failed error ∧ Alike q url result (.error error)) ∨
    ∃ n c, outcome = .cached n ∧ t.desk.cache? n = some c ∧ Alike q url result (c.regionOf url)

theorem Agrees.failed {error : TenantError} (h : Alike q url result (.error error))
    (s : History) : Agrees identity q url result (.done (.failed error)) s := by
  refine ⟨⟨_, _, .done _ s⟩, ?_⟩
  intro outcome t hend
  cases hend
  exact .inl ⟨error, rfl, h⟩

theorem Agrees.cached (hc : s.desk.cache? n = some c) (h : Alike q url result (c.regionOf url)) :
    Agrees identity q url result (.done (.cached n)) s := by
  refine ⟨⟨_, _, .done _ s⟩, ?_⟩
  intro outcome t hend
  cases hend
  exact .inr ⟨n, c, rfl, hc, h⟩

theorem Agrees.answered {source : Nat} {request : AuthRequest} {f : Frame} {frames : List Frame}
    (hf : s.desk.frames = f :: frames)
    (h : ∀ later, later < Instant.limit / 2 → ∃ step,
      s.desk.reply (.answered later (identity.authenticate request.tenant)) = some step ∧
        Agrees identity q url result step.2
          (s.record (.answer f (.answered later (identity.authenticate request.tenant))) step)) :
    Agrees identity q url result (.authenticate source request) s := by
  refine ⟨?_, ?_⟩
  · have hzero : 0 < Instant.limit / 2 := by decide
    obtain ⟨step, hstep, ⟨outcome, t, hend⟩, -⟩ := h 0 hzero
    exact ⟨outcome, t, .answered hzero (takes_reply hf hstep) hend⟩
  · intro outcome t hend
    cases hend with
    | answered hlater htakes rest =>
      obtain ⟨frames', step', hf', hstep', rfl, rfl⟩ := htakes.of_answer
      obtain ⟨rfl, -⟩ := List.cons.inj (hf.symm.trans hf')
      obtain ⟨step, hstep, hagrees⟩ := h _ hlater
      obtain rfl := Option.some.inj (hstep.symm.trans hstep')
      exact hagrees.alike outcome t rest

/-- An open cache routes by the services of its catalog, and so does the program. -/
theorem alike_of_services {o : OpenTenant} {catalog : Catalog} (ho : c.opened = some o)
    (h : o.catalog.snapshot.services = catalog.snapshot.services) (q : CommandLine.Query)
    (url : String) : Alike q url (CommandLine.routed catalog url) (c.regionOf url) := by
  have hsame : o.catalog.regionOf url = catalog.regionOf url := by
    simp only [Catalog.regionOf]
    cases Url.read? url with
    | none => rfl
    | some u => exact Snapshot.regionOf_congr h u
  rw [TenantCache.regionOf_opened ho, hsame, CommandLine.routed]
  cases catalog.regionOf url with
  | none => exact .noRegion
  | some region => exact .region region

/-- The first answer is the last: it opens the cache, or it is an error for good. -/
theorem judge_answer {d : Desk} {answer : Except CatalogError Snapshot} (hc : d.cache? n = some c)
    (ho : c.opened = none) (hk : d.registered? key = none)
    (hgood : ∀ error, answer = .error error → error.isConnection = false) :
    ∃ step, d.judge n c bounds catalog tries (.register key) answer = some step ∧
      ((∃ error, answer = .error error ∧
          step.2 = .done (.failed (.initFailed ⟨error, tries⟩))) ∨
        ∃ snapshot o, answer = .ok snapshot ∧ o.catalog = catalog.publish snapshot ∧
          step.2 = .done (.cached n) ∧ step.1.cache? n = some { c with opened := some o }) := by
  have hrec := ((calm_record d catalog.version answer).caches n).trans hc
  have hkey : (d.record catalog.version answer).registered? key = none := by
    cases answer <;> exact hk
  simp only [judge]
  cases answer with
  | error error =>
    simp only [RetryPolicy.judge, hgood error rfl, Bool.false_and, Bool.false_eq_true, ↓reduceIte,
      register_failed hrec ho]
    exact ⟨_, rfl, .inl ⟨error, rfl, rfl⟩⟩
  | ok snapshot =>
    have hcache := (cache?_openTenant hrec catalog bounds snapshot
      (snapshot.project?.getD ⟨"", c.requested⟩) n).trans (if_pos rfl)
    have hfree : ((d.record catalog.version (.ok snapshot)).openTenant n c catalog bounds snapshot
        (snapshot.project?.getD ⟨"", c.requested⟩)).registered? key = none := hkey
    simp only [RetryPolicy.judge, finish, hfree]
    exact ⟨_, rfl, .inr ⟨snapshot, _, rfl, rfl, rfl, (cache?_hold n n).trans hcache⟩⟩

theorem reply_answer {d : Desk} {frames : List Frame} {later : Instant}
    {answer : Except IdentityError Grant}
    (hf : d.frames = .authenticating n catalog tries (.register key) :: frames)
    (hc : d.cache? n = some c) (ho : c.opened = none) (hk : d.registered? key = none)
    (hb : c.provider.pool.bounds = .ok bounds)
    (hgood : ∀ error, catalog.evaluate later answer = .error error → error.isConnection = false) :
    ∃ step, d.reply (.answered later answer) = some step ∧
      ((∃ error, catalog.evaluate later answer = .error error ∧
          step.2 = .done (.failed (.initFailed ⟨error, tries⟩))) ∨
        ∃ snapshot o, catalog.evaluate later answer = .ok snapshot ∧
          o.catalog = catalog.publish snapshot ∧ step.2 = .done (.cached n) ∧
          step.1.cache? n = some { c with opened := some o }) := by
  rw [reply_answered hf hc hb]
  exact judge_answer (d := { d with frames }) hc ho hk hgood

section Program

variable {now : Instant} {read : String → FileText} {i : CommandLine.Invocation}
  {p : Config.Provider} {t : Config.Tenant} {source : Nat}

/-- Where the registry finds a provider, the program finds the same. -/
theorem select_of_lookup (hs : run config.providers moves = some s) (hv : config.problems = [])
    (hp : s.desk.provider? q.provider = some (source, p)) :
    CommandLine.select config q = (p.tenant? q.tenant).elim
      (.error (.unknownTenant q.provider q.tenant)) fun t => .ok (p, t) := by
  have hsame := provider?_checked hv (providers_of_run hs) q.provider
  rw [hp] at hsame
  simp only [CommandLine.select, ← hsame, Option.map_some]
  cases p.tenant? q.tenant <;> rfl

theorem catalogOf_of_suits {o : Option OpenTenant}
    (h : Suits { TenantCache.ofConfig source p t with opened := o } catalog) :
    CommandLine.catalogOf p t = .ok catalog := by
  have hmade : Catalog.of? ⟨p.identityUrl, t.name, t.domain, t.credentials, p.authOptions⟩ =
      some catalog := h.made
  rw [CommandLine.catalogOf, hmade]

/-- Who has opened a cache with what the document says, routes as the program does. -/
theorem alike_opened {opened : Option OpenTenant} {o : OpenTenant} {later : Instant}
    {snapshot : Snapshot} (hr : CommandLine.Resolves read i q url config identity)
    (hnow : now < Instant.limit / 2) (hselect : CommandLine.select config q = .ok (p, t))
    (hs : Suits { TenantCache.ofConfig source p t with opened } catalog)
    (hok : catalog.evaluate later (identity.authenticate t.name) = .ok snapshot)
    (ho : c.opened = some o) (hlearned : o.catalog = catalog.publish snapshot) :
    Alike q url (CommandLine.run now read i).result (c.regionOf url) := by
  obtain ⟨document, hdocument⟩ := CommandLine.read_of_load hr.opens
  obtain ⟨s', hok', hservices⟩ := StaticIdentity.evaluate_again hdocument hnow hok
  obtain ⟨request, hask⟩ := hs.asks
  rw [hr.selected hselect (catalogOf_of_suits hs) hask, hok']
  refine alike_of_services ho ?_ q url
  rw [hlearned]
  exact hservices.symm

/-- Who cannot open a cache with what the document says, is told so as the program is. -/
theorem alike_refused {opened : Option OpenTenant} {later : Instant} {error : CatalogError}
    (hr : CommandLine.Resolves read i q url config identity)
    (hnow : now < Instant.limit / 2) (hlater : later < Instant.limit / 2)
    (hselect : CommandLine.select config q = .ok (p, t))
    (hs : Suits { TenantCache.ofConfig source p t with opened } catalog)
    (herror : catalog.evaluate later (identity.authenticate t.name) = .error error) :
    Alike q url (CommandLine.run now read i).result (.error (.initFailed ⟨error, 1⟩)) := by
  obtain ⟨document, hdocument⟩ := CommandLine.read_of_load hr.opens
  obtain ⟨request, hask⟩ := hs.asks
  rw [hr.selected hselect (catalogOf_of_suits hs) hask,
    StaticIdentity.evaluate_refused hdocument hnow hlater herror]
  exact .catalog error

/-- Who finds the cache registered finds what the document says. -/
theorem registered_agrees (hr : CommandLine.Resolves read i q url config identity)
    (hnow : now < Instant.limit / 2) (hs : run config.providers moves = some s)
    (hall : AnsweredBy identity s) (hk : s.desk.registered? (q.provider, q.tenant) = some n) :
    ∃ c, s.desk.cache? n = some c ∧
      Alike q url (CommandLine.run now read i).result (c.regionOf url) := by
  have hv := CommandLine.problems_of_load hr.loads
  have hfit := served_of_run hs hall
  obtain ⟨o, hopened⟩ := stored_of_run hs _ n hk
  obtain ⟨before, rest, hsplit, -⟩ := List.lookup_eq_some_iff.mp hk
  obtain ⟨c, hc, source, p, t, hp, ht, hconfig⟩ :=
    hfit.registered (q.provider, q.tenant) n (by rw [hsplit]; simp)
  have ho : c.opened = some o := by
    rw [opened?, hc, Option.bind_some] at hopened
    exact hopened
  obtain ⟨catalog, snapshot, hsuits, hlearned, catalog', later, hmade, hok⟩ :=
    hfit.opened n c o hc ho
  obtain rfl := Option.some.inj (hsuits.made.symm.trans hmade)
  have hselect := select_of_lookup hs hv hp
  rw [ht, Option.elim_some] at hselect
  rw [hconfig] at hsuits hok
  exact ⟨c, hc, alike_opened hr hnow hselect hsuits hok ho hlearned⟩

/-- Who opens the cache asks once, and comes to what the program comes to. -/
theorem opening_agrees (hr : CommandLine.Resolves read i q url config identity)
    (hnow : now < Instant.limit / 2) (hs : run config.providers moves = some s)
    (hk : s.desk.registered? (q.provider, q.tenant) = none)
    (hp : s.desk.provider? q.provider = some (source, p)) (ht : p.tenant? q.tenant = some t) :
    ∃ step, s.desk.getOrOpen (q.provider, q.tenant) = some step ∧
      Agrees identity q url (CommandLine.run now read i).result step.2
        (s.record (.call (.getOrOpen (q.provider, q.tenant))) step) := by
  have hv := CommandLine.problems_of_load hr.loads
  have hselect := select_of_lookup hs hv hp
  rw [ht, Option.elim_some] at hselect
  have hprovider := (provider?_eq_some hp).1
  rw [providers_of_run hs] at hprovider
  have hcomplete := ((Config.problems_eq_nil_iff.mp hv).1 p (List.mem_of_getElem? hprovider)).2
  obtain ⟨catalog, request, hsuits, hask, hstart⟩ | ⟨hopeless, -⟩ :=
    startInit_cases (c := TenantCache.ofConfig source p t) (s.desk.add _).1 s.desk.caches.length
      (.register (q.provider, q.tenant)) rfl
  · have hname : request.tenant = t.name := (asks_of_suits (o := none) hsuits hask).tenant
    obtain ⟨bounds, hb⟩ := hsuits.sized
    obtain ⟨d, hstep, hframes, hc, hfree⟩ : ∃ d : Desk,
        s.desk.getOrOpen (q.provider, q.tenant) = some (d, .authenticate source request) ∧
        d.frames = .authenticating s.desk.caches.length catalog 1
          (.register (q.provider, q.tenant)) :: s.desk.frames ∧
        d.cache? s.desk.caches.length = some (TenantCache.ofConfig source p t) ∧
        d.registered? (q.provider, q.tenant) = none := by
      refine ⟨((s.desk.add (TenantCache.ofConfig source p t)).1.count (.initAttempts p.name)).push
        (.authenticating s.desk.caches.length catalog 1 (.register (q.provider, q.tenant))),
        ?_, rfl, ?_, hk⟩
      · simp only [getOrOpen, hk, hp, ht]
        exact hstart
      · simp [push, count, add, cache?]
    refine ⟨_, hstep, .answered hframes fun later hlater => ?_⟩
    rw [hname]
    have hgood (error : CatalogError)
        (h : catalog.evaluate later (identity.authenticate t.name) = .error error) :
        error.isConnection = false := StaticIdentity.refused_for_good h
    obtain ⟨step, hreply, hcases⟩ := reply_answer hframes hc rfl hfree hb hgood
    refine ⟨step, hreply, ?_⟩
    obtain ⟨error, herror, hdone⟩ | ⟨snapshot, o, hok, hlearned, hdone, hcache⟩ := hcases
    · rw [hdone]
      exact .failed (alike_refused hr hnow hlater hselect hsuits herror) _
    · rw [hdone]
      exact .cached hcache (alike_opened hr hnow hselect hsuits hok rfl hlearned)
  · exact absurd hopeless
      (not_hopeless_of_complete hcomplete (List.mem_of_find?_eq_some ht) source)

theorem getOrOpen_agrees (hr : CommandLine.Resolves read i q url config identity)
    (hnow : now < Instant.limit / 2) (hs : run config.providers moves = some s)
    (hall : AnsweredBy identity s) : ∃ step,
      s.desk.getOrOpen (q.provider, q.tenant) = some step ∧
        Agrees identity q url (CommandLine.run now read i).result step.2
          (s.record (.call (.getOrOpen (q.provider, q.tenant))) step) := by
  have hv := CommandLine.problems_of_load hr.loads
  cases hk : s.desk.registered? (q.provider, q.tenant) with
  | some n =>
    obtain ⟨c, hc, halike⟩ := registered_agrees hr hnow hs hall hk
    refine ⟨(s.desk.hold n, .done (.cached n)), by simp only [getOrOpen, hk], ?_⟩
    exact .cached ((cache?_hold n n).trans hc) halike
  | none =>
    cases hp : s.desk.provider? q.provider with
    | none =>
      have hnone : config.provider? q.provider = none := by
        rw [← provider?_checked hv (providers_of_run hs), hp]
        rfl
      have hselect : CommandLine.select config q = .error (.unknownProvider q.provider) := by
        simp only [CommandLine.select, hnone]
      refine ⟨(s.desk, .done (.failed (.unknownProvider q.provider))),
        by simp only [getOrOpen, hk, hp], .failed ?_ _⟩
      rw [hr.unselected hselect]
      exact .unknownProvider
    | some x =>
      obtain ⟨source, p⟩ := x
      have hselect := select_of_lookup hs hv hp
      cases ht : p.tenant? q.tenant with
      | none =>
        rw [ht, Option.elim_none] at hselect
        refine ⟨(s.desk, .done (.failed (.unknownTenant q.provider q.tenant))),
          by simp only [getOrOpen, hk, hp, ht], .failed ?_ _⟩
        rw [hr.unselected hselect]
        exact .unknownTenant
      | some t => exact opening_agrees hr hnow hs hk hp ht

/-- Looking for the cache and its region always comes to something, and the program to the same. -/
theorem routes_alike (hr : CommandLine.Resolves read i q url config identity)
    (hnow : now < Instant.limit / 2) (hs : run config.providers moves = some s)
    (hall : AnsweredBy identity s) :
    (∃ x, Routes identity s (q.provider, q.tenant) url x) ∧
      ∀ x, Routes identity s (q.provider, q.tenant) url x →
        Alike q url (CommandLine.run now read i).result x := by
  obtain ⟨step, hcall, ⟨outcome, t, hends⟩, halike⟩ := getOrOpen_agrees hr hnow hs hall
  have hallowed : s.allows (.getOrOpen (q.provider, q.tenant)) = true := rfl
  have htakes := takes_call hallowed hcall
  refine ⟨?_, fun x hx => ?_⟩
  · obtain ⟨error, rfl, -⟩ | ⟨n, c, rfl, hc, -⟩ := halike outcome t hends
    · exact ⟨_, .refused htakes hends⟩
    · exact ⟨_, .found htakes hends hc⟩
  · cases hx with
    | refused h hend =>
      obtain ⟨step', -, hcall', rfl, rfl⟩ := h.of_call
      obtain rfl := Option.some.inj (hcall.symm.trans hcall')
      obtain ⟨error, heq, ha⟩ | ⟨n, c, heq, -⟩ := halike _ _ hend <;> cases heq
      exact ha
    | found h hend hc =>
      obtain ⟨step', -, hcall', rfl, rfl⟩ := h.of_call
      obtain rfl := Option.some.inj (hcall.symm.trans hcall')
      obtain ⟨error, heq, -⟩ | ⟨n, c, heq, hc', ha⟩ := halike _ _ hend <;> cases heq
      obtain rfl := Option.some.inj (hc'.symm.trans hc)
      exact ha

/-- A run that comes to the same as the registry shows one of the things that `resolve` shows. -/
theorem Alike.tells {x : Except TenantError String} (h : Alike q url result x) :
    ∃ shown, CommandLine.Tells q url result shown := by
  cases h with
  | region region => exact ⟨_, .region region⟩
  | noRegion => exact ⟨_, .sentence .noRegion⟩
  | unknownProvider => exact ⟨_, .sentence .unknownProvider⟩
  | unknownTenant => exact ⟨_, .sentence .unknownTenant⟩
  | catalog error => exact ⟨_, .catalog error⟩

/-- Whatever has gone on at a registry with the program's configuration and the program's document,
it finds for a provider, a tenant and a URL what the program comes to and shows, and always finds
something. -/
theorem program_routes_alike (hr : CommandLine.Resolves read i q url config identity)
    (hnow : now < Instant.limit / 2) (hs : run config.providers moves = some s)
    (hall : AnsweredBy identity s) :
    let finds := Routes identity s (q.provider, q.tenant) url
    let program := CommandLine.run now read i
    (∃ x, finds x) ∧
      (∀ region, (program.Prints region ↔ finds (.ok region)) ∧
        (program.result = .ok (.region region) ↔ finds (.ok region))) ∧
      ((program.Complains (Text.quoted ("no region serves '" ++ url ++ "'")) ↔
          finds (.error (.noRoute url))) ∧
        (program.result = .error (.noRegion url) ↔ finds (.error (.noRoute url)))) ∧
      ((program.Complains (Text.quoted ("unknown provider '" ++ q.provider ++ "'")) ↔
          finds (.error (.unknownProvider q.provider))) ∧
        (program.result = .error (.unknownProvider q.provider) ↔
          finds (.error (.unknownProvider q.provider)))) ∧
      ((program.Complains (Text.quoted
            ("provider '" ++ q.provider ++ "' has no tenant '" ++ q.tenant ++ "'")) ↔
          finds (.error (.unknownTenant q.provider q.tenant))) ∧
        (program.result = .error (.unknownTenant q.provider q.tenant) ↔
          finds (.error (.unknownTenant q.provider q.tenant)))) ∧
      ∀ error, (program.Complains (CommandLine.told error) ↔
          ∃ same, same.isConnection = error.isConnection ∧ same.detail = error.detail ∧
            finds (.error (.initFailed ⟨same, 1⟩))) ∧
        (program.result = .error (.catalog error) ↔
          finds (.error (.initFailed ⟨error, 1⟩))) := by
  intro finds program
  obtain ⟨hsome, halike⟩ := routes_alike hr hnow hs hall
  have hshown : ∃ shown, CommandLine.Tells q url program.result shown := by
    obtain ⟨x, hx⟩ := hsome
    exact (halike x hx).tells
  have hiff {goal : Except CommandLine.Failure CommandLine.Output}
      {x : Except TenantError String} (hto : ∀ y, Alike q url goal y → y = x)
      (hfrom : ∀ z, Alike q url z x → z = goal) : program.result = goal ↔ finds x := by
    refine ⟨fun h => ?_, fun h => hfrom _ (halike x h)⟩
    obtain ⟨y, hy⟩ := hsome
    obtain rfl := hto y (h ▸ halike y hy)
    exact hy
  have hregion (region : String) : program.result = .ok (.region region) ↔ finds (.ok region) := by
    refine hiff ?_ ?_ <;> intro _ h <;> cases h <;> rfl
  have hnoRegion : program.result = .error (.noRegion url) ↔ finds (.error (.noRoute url)) := by
    refine hiff ?_ ?_ <;> intro _ h <;> cases h <;> rfl
  have hprovider : program.result = .error (.unknownProvider q.provider) ↔
      finds (.error (.unknownProvider q.provider)) := by
    refine hiff ?_ ?_ <;> intro _ h <;> cases h <;> rfl
  have htenant : program.result = .error (.unknownTenant q.provider q.tenant) ↔
      finds (.error (.unknownTenant q.provider q.tenant)) := by
    refine hiff ?_ ?_ <;> intro _ h <;> cases h <;> rfl
  have hcatalog (error : CatalogError) : program.result = .error (.catalog error) ↔
      finds (.error (.initFailed ⟨error, 1⟩)) := by
    refine hiff ?_ ?_ <;> intro _ h <;> cases h <;> rfl
  refine ⟨hsome, fun region => ⟨?_, hregion region⟩, ⟨?_, hnoRegion⟩, ⟨?_, hprovider⟩,
    ⟨?_, htenant⟩, fun error => ⟨?_, hcatalog error⟩⟩
  · rw [CommandLine.Run.prints_iff hshown, hregion]
  · rw [CommandLine.Run.complains_iff hshown .noRegion, hnoRegion]
  · rw [CommandLine.Run.complains_iff hshown .unknownProvider, hprovider]
  · rw [CommandLine.Run.complains_iff hshown .unknownTenant, htenant]
  · simp only [CommandLine.Run.complains_told_iff hshown, hcatalog]

end Program

/-- A configuration with the provider `cloud`, and a document with one endpoint for its tenant. -/
def files : String → FileText
  | "cloud.toml" => .ok ("[[providers]]\nname='cloud'\nidentity_url='a:/v2'\n" ++
      "[[providers.tenants]]\nname='demo'\nuserid='ops'\n")
  | _ => .ok ("\x7b\"token\":\x7b\"id\":\"token\",\"issued_at\":\"1970-01-01T00:00:00Z\"," ++
      "\"expires_at\":\"1970-01-01T01:00:00Z\"\x7d," ++
      "\"project\":\x7b\"id\":\"id\",\"name\":\"demo\"\x7d," ++
      "\"catalog\":[\x7b\"type\":\"compute\"," ++
      "\"endpoints\":[\x7b\"region\":\"east\",\"url\":\"a://east\"\x7d]\x7d]\x7d")

/-- Which region of the tenant of `cloud` serves that URL? -/
def resolving (url : String) : CommandLine.Invocation :=
  ⟨"cloud.toml", .resolve ⟨"cloud", "demo", "demo.json"⟩ url⟩

theorem resolves_files (url : String) : CommandLine.Resolves files (resolving url)
    ⟨"cloud", "demo", "demo.json"⟩ url { providers := [cloud] } ⟨grantOf ["east"]⟩ where
  loads := by
    have hload : Config.load (files "cloud.toml") = .ok { providers := [cloud] } := by
      decide +kernel
    exact hload
  opens := by
    have hload : (StaticIdentity.load "demo.json" (files "demo.json")).map
        StaticIdentity.grant = .ok (grantOf ["east"]) := by
      decide +kernel
    cases hopen : StaticIdentity.load "demo.json" (files "demo.json") with
    | error error =>
      rw [hopen] at hload
      cases hload
    | ok identity =>
      rw [hopen] at hload
      rw [← Except.ok.inj hload]
  asks := rfl

/-- The catalog of the tenant before anybody has authenticated it. -/
def demoCatalog : Catalog := ⟨.v2, ⟨"a:/v2", "demo", none, ⟨"ops", ""⟩, {}⟩, {}⟩

/-- What the program shows is what the catalog of the document answers. -/
theorem shows_files (url : String) (region : Option String)
    (h : (demoCatalog.evaluate 0 (.ok (grantOf ["east"]))).toOption.map
      (fun s => (demoCatalog.publish s).regionOf url) = some region) :
    (CommandLine.run 0 files (resolving url)).Shows
      (region.elim (.error (Text.quoted ("no region serves '" ++ url ++ "'"))) .ok) := by
  have hselect : CommandLine.select { providers := [cloud] } ⟨"cloud", "demo", "demo.json"⟩ =
      .ok (cloud, { name := "demo", userid := "ops" }) := by
    decide +kernel
  have hcatalog : CommandLine.catalogOf cloud { name := "demo", userid := "ops" } =
      .ok demoCatalog := by
    decide +kernel
  obtain ⟨snapshot, hsnapshot, hregion⟩ := Option.map_eq_some_iff.mp h
  have hok : demoCatalog.evaluate 0 (StaticIdentity.authenticate ⟨grantOf ["east"]⟩ "demo") =
      .ok snapshot := ok_of_toOption hsnapshot
  have htells : CommandLine.Tells ⟨"cloud", "demo", "demo.json"⟩ url
      (CommandLine.run 0 files (resolving url)).result
      (region.elim (.error (Text.quoted ("no region serves '" ++ url ++ "'"))) .ok) := by
    rw [(resolves_files url).selected hselect hcatalog rfl, hok]
    simp only [CommandLine.routed, hregion]
    cases region with
    | none => exact .sentence .noRegion
    | some region => exact .region region
  exact CommandLine.Run.shows htells

theorem program_routes_alike_files : ∃ s, run [cloud] [] = some s ∧
    ((CommandLine.run 0 files (resolving "a://east/vm")).exitCode = 0 ∧
      (CommandLine.run 0 files (resolving "a://east/vm")).complaint = "" ∧
      ∀ left, (CommandLine.run 0 files (resolving "a://east/vm")).output left =
        "INFO Service catalog authenticated version=v2 tenant=demo project_id=\"id\" " ++
          "regions=1 services=1\neast\n") ∧
    Routes ⟨grantOf ["east"]⟩ s ("cloud", "demo") "a://east/vm" (.ok "east") ∧
    ((CommandLine.run 0 files (resolving "a://west/vm")).exitCode = 1 ∧
      (CommandLine.run 0 files (resolving "a://west/vm")).complaint =
        "Error: \"no region serves 'a://west/vm'\"\n") ∧
    Routes ⟨grantOf ["east"]⟩ s ("cloud", "demo") "a://west/vm" (.error (.noRoute "a://west/vm")) := by
  have hs : run (Config.providers { providers := [cloud] }) [] = some _ := rfl
  have hall : AnsweredBy ⟨grantOf ["east"]⟩ ⟨{ providers := [cloud] }, []⟩ := by
    intro e he
    cases he
  have hclock : 0 < Instant.limit / 2 := by decide
  have heast : (CommandLine.run 0 files (resolving "a://east/vm")).Prints "east" :=
    shows_files "a://east/vm" (some "east") (by decide +kernel)
  have hwest : (CommandLine.run 0 files (resolving "a://west/vm")).Complains
      (Text.quoted ("no region serves '" ++ "a://west/vm" ++ "'")) :=
    shows_files "a://west/vm" none (by decide +kernel)
  have hlog : (CommandLine.run 0 files (resolving "a://east/vm")).log =
      "INFO Service catalog authenticated version=v2 tenant=demo project_id=\"id\" " ++
        "regions=1 services=1\n" := by
    decide +kernel
  have hquoted : Text.quoted ("no region serves '" ++ "a://west/vm" ++ "'") =
      "\"no region serves 'a://west/vm'\"" := by
    decide +kernel
  obtain ⟨-, hregion, -⟩ :=
    program_routes_alike (resolves_files "a://east/vm") hclock hs hall
  obtain ⟨-, -, hnoRegion, -⟩ :=
    program_routes_alike (resolves_files "a://west/vm") hclock hs hall
  refine ⟨_, hs, ⟨heast.exitCode, heast.complaint, fun left => ?_⟩, (hregion "east").1.mp heast,
    ⟨hwest.exitCode, ?_⟩, hnoRegion.1.mp hwest⟩
  · rw [heast.output, hlog]
    rfl
  · rw [hwest.complaint, hquoted]
    rfl

end History
end Desk
end Tenancy
