import Tenancy.Proofs.Desk.Region
import Tenancy.Proofs.Retry

namespace Tenancy.Desk

variable {errand : Errand} {kept : List Thing} {d : Desk} {entries : List Entry} {x y : Scene}
  {n : Nat} {c : TenantCache} {catalog : Catalog} {bounds : PoolBounds} {tries : UInt32}

/-- Nothing of a cache changes before it is opened. -/
theorem Act.unopened (h : Act errand kept x entries y)
    (hx : x.desk.cache? n = some c ∨ ∃ o, x.desk.opened? n = some o) :
    y.desk.cache? n = some c ∨ ∃ o, y.desk.opened? n = some o := by
  obtain hc | ⟨o, ho⟩ := hx
  · cases h with
    | hold | letGo => exact .inl (by simpa using hc)
    | add c' => exact .inl (cache?_add_of_some hc c')
    | @openTenant d hand news m c' catalog bounds s project hu =>
      have hcache := cache?_openTenant hu.1 catalog bounds s project n
      by_cases hm : m = n
      · exact .inr ⟨_, by rw [opened?, hcache, if_pos hm]; rfl⟩
      · exact .inl (by rw [hcache, if_neg hm, hc])
    | @publish d hand news m c' o s hm ho =>
      have hcache := cache?_setCache hm (c'.publish s) n
      by_cases hn : m = n
      · exact .inr ⟨_, by rw [opened?, hcache, if_pos hn, Option.bind_some,
          TenantCache.publish, ho]; rfl⟩
      · exact .inl (by rw [hcache, if_neg hn, hc])
    | _ => exact .inl hc
  · obtain ⟨o', ho', -⟩ := h.pools ⟨o, ho, rfl⟩
    exact .inr ⟨o', ho'⟩

/-- The attempt of that number has failed: that is the end, or there is another one after a wait.
No cache has changed. -/
inductive Rejected (d : Desk) (n : Nat) (c : TenantCache) (catalog : Catalog) (tries : UInt32) :
    Desk × Request → Prop
  | failed {d' error} (hd : d'.caches = d.caches) :
      Rejected d n c catalog tries (d', .done (.failed error))
  | again {d' wait} (hd : d'.caches = d.caches) (hlt : tries < c.provider.retry.policy.limit)
      (hf : d'.frames = .sleeping n catalog (tries + 1) .explain :: d.frames) :
      Rejected d n c catalog tries (d', .sleep wait)

theorem Rejected.caches {step : Desk × Request} (h : Rejected d n c catalog tries step) :
    step.1.caches = d.caches := by
  cases h with
  | failed hd => exact hd
  | again hd => exact hd

theorem judge_rejected (error : CatalogError) : ∃ step,
    d.judge n c bounds catalog tries .explain (.error error) = some step ∧
      Rejected d n c catalog tries step := by
  simp only [judge]
  cases hj : c.provider.retry.policy.judge CatalogError.isConnection tries
      (.error error : Except CatalogError Snapshot) with
  | succeeded s => cases RetryPolicy.ok_of_judge_succeeded hj
  | gaveUp failure => exact ⟨_, rfl, .failed rfl⟩
  | again wait next =>
    obtain ⟨hlt, rfl⟩ := RetryPolicy.lt_of_judge_again hj
    exact ⟨_, rfl, .again rfl hlt rfl⟩

theorem judge_accepted (s : Snapshot) (project : Project) (hp : s.project? = some project) :
    d.judge n c bounds catalog tries .explain (.ok s) =
      some ((d.record catalog.version (.ok s)).openTenant n c catalog bounds s project,
        .done .nothing) := by
  simp [judge, RetryPolicy.judge, finish, hp]

/-- An attempt asks the identity service, unless it can tell that this would not help. -/
theorem attempt_cases (d : Desk) (n : Nat) (c : TenantCache) (bounds : PoolBounds)
    (catalog : Catalog) (tries : UInt32) :
    ∃ step, d.attempt n c bounds catalog tries .explain = some step ∧
      (Rejected d n c catalog tries step ∨ ∃ source request, step.1.caches = d.caches ∧
        step.1.frames = .authenticating n catalog tries .explain :: d.frames ∧
        step.2 = .authenticate source request) := by
  unfold attempt
  cases catalog.request? with
  | error error =>
    obtain ⟨step, hstep, hr⟩ := judge_rejected (d := d.count (.initAttempts c.provider.name)) error
    refine ⟨step, hstep, .inl ?_⟩
    cases hr with
    | failed hd => exact .failed hd
    | again hd hlt hf => exact .again hd hlt hf
  | ok request => exact ⟨_, rfl, .inr ⟨_, request, rfl, rfl, rfl⟩⟩

/-- Each region of the snapshot gets a pool of its own, which was not there before. -/
theorem pool_openTenant (n : Nat) (c : TenantCache) (catalog : Catalog) (bounds : PoolBounds)
    {s : Snapshot} (project : Project) {region : String} {m : Nat}
    (h : (region, m) ∈ s.regions.zip (List.range' d.yard.pools.length s.regions.length)) :
    d.yard.pools.length ≤ m ∧
      (d.openTenant n c catalog bounds s project).yard.pools[m]? =
        some (c.newPool bounds project.name region) := by
  obtain ⟨i, hi⟩ := List.mem_iff_getElem?.mp h
  obtain ⟨hregion, hm⟩ := List.getElem?_zip_eq_some.mp hi
  obtain rfl : d.yard.pools.length + i = m := by
    simpa using (List.getElem?_eq_some_iff.mp hm).2
  refine ⟨Nat.le_add_right _ _, ?_⟩
  rw [pools_openTenant, List.getElem?_append_right (Nat.le_add_right _ _), Nat.add_sub_cancel_left,
    List.getElem?_map, hregion]
  rfl

/-- What somebody waits for, and which replies they can get. -/
inductive Frame.Asks : Frame → Request → Reply → Prop
  | authenticate {n catalog tries purpose source request now answer} :
      Asks (.authenticating n catalog tries purpose) (.authenticate source request)
        (.answered now answer)
  | sleep {n catalog tries purpose wait} :
      Asks (.sleeping n catalog tries purpose) (.sleep wait) .slept

namespace History

variable {s s' start u : History} {moves : List Move} {providers : List Config.Provider}
  {r : Request} {step : Desk × Request} {frames : List Frame} {P : Outcome → History → Prop}

/-- After `r` has been asked for, the identity service and the clock take the operation to an end,
whatever they reply and whatever else goes on meanwhile; and `P` holds of the end. -/
inductive Concludes (P : Outcome → History → Prop) : Request → History → Prop
  | done {outcome s} (h : P outcome s) : Concludes P (.done outcome) s
  | asks {r s frame frames} (hf : s.desk.frames = frame :: frames)
      (hr : ∃ reply, frame.Asks r reply)
      (hstep : ∀ moves u reply, s.runFrom moves = some u → u.desk.frames = s.desk.frames →
        frame.Asks r reply → ∃ r' s', u.Takes (.answer frame reply) r' s')
      (hnext : ∀ moves u reply r' s', s.runFrom moves = some u → u.desk.frames = s.desk.frames →
        frame.Asks r reply → u.Takes (.answer frame reply) r' s' → Concludes P r' s') :
      Concludes P r s

theorem Concludes.result {outcome : Outcome} (h : Concludes P (.done outcome) s) : P outcome s := by
  cases h with
  | done h => exact h
  | asks _ hr =>
    obtain ⟨reply, hr⟩ := hr
    cases hr

theorem Concludes.answer {frame : Frame} {reply : Reply} {r' : Request} (h : Concludes P r s)
    (hf : s.desk.frames = frame :: frames) (hr : frame.Asks r reply)
    (ht : s.Takes (.answer frame reply) r' s') : Concludes P r' s' := by
  cases h with
  | done => cases hr
  | asks hf' _ _ hnext =>
    obtain ⟨rfl, rfl⟩ := List.cons.inj (hf.symm.trans hf')
    exact hnext [] s reply r' s' rfl rfl hr ht

/-- A reply has one step to follow it. -/
theorem Concludes.of_replies {frame : Frame} (hf : s.desk.frames = frame :: frames)
    (hr : ∃ reply, frame.Asks r reply)
    (hall : ∀ moves u reply, s.runFrom moves = some u → u.desk.frames = frame :: frames →
      frame.Asks r reply → ∃ step, u.desk.reply reply = some step ∧
        Concludes P step.2 (u.record (.answer frame reply) step)) : Concludes P r s := by
  refine .asks hf hr (fun moves u reply hu hframes hreply => ?_)
    (fun moves u reply r' s' hu hframes hreply ht => ?_)
  · rw [hf] at hframes
    obtain ⟨step, hstep, -⟩ := hall moves u reply hu hframes hreply
    exact ⟨_, _, takes_reply hframes hstep⟩
  · rw [hf] at hframes
    obtain ⟨step, hstep, hend⟩ := hall moves u reply hu hframes hreply
    obtain ⟨_, step', -, hstep', rfl, rfl⟩ := ht.of_answer
    obtain rfl := Option.some.inj (hstep.symm.trans hstep')
    exact hend

/-- A new pool of that cache for the region of the project. -/
structure Vacant (c : TenantCache) (project region : String) (p : Pool) : Prop where
  label : p.label = c.provider.name ++ "/" ++ project ++ "/" ++ region
  bounds : c.provider.pool.bounds = .ok p.bounds
  checked : p.bounds.check = .ok p.bounds
  settings : p.settings = c.poolSettings project region
  region : p.settings.region = some region
  empty : p.slots = []
  idle : p.pending = 0
  undrained : p.drained = false

/-- The cache `c` has been opened on the last answer, the only one that was accepted. -/
structure Granted (start : History) (n : Nat) (c : TenantCache) (s : History) (grant : Grant)
    (snapshot : Snapshot) (o : OpenTenant) : Prop where
  accepted : ∃ catalog tries now events, Catalog.of? c.target = some catalog ∧
    catalog.evaluate now (.ok grant) = .ok snapshot ∧
    s.events = ⟨.answer (.authenticating n catalog tries .explain) (.answered now (.ok grant)),
      some (n, snapshot), .done .nothing⟩ :: events
  learned : s.learned n = [snapshot]
  cache : s.desk.cache? n = some { c with opened := some o }
  project : o.project = grant.project
  name : TenantCache.name { c with opened := some o } = grant.project.name
  projectId : TenantCache.projectId { c with opened := some o } = some grant.project.id
  known : o.catalog.snapshot = snapshot
  regions : o.pools.map Prod.fst = snapshot.regions
  once : snapshot.regions.Nodup
  apart : (o.pools.map Prod.snd).Nodup
  vacant : ∀ region m, (region, m) ∈ o.pools → start.desk.yard.pools.length ≤ m ∧
    ∃ p, s.desk.yard.pools[m]? = some p ∧ Vacant c grant.project.name region p

/-- The cache is what it was, none of the answers was accepted, and who looks for something in the
cache is told that it is not open. -/
structure Refused (n : Nat) (c : TenantCache) (s : History) : Prop where
  learned : s.learned n = []
  cache : s.desk.cache? n = some c
  unrouted : ∀ url, c.regionOf url = .error (.notInitialized c.label)
  unplaced : ∀ region, c.poolOf region = .error (.notInitialized c.label)
  calls : ∀ call, call.cache? = some n → call.place? c ≠ none → s.allows call = true →
    s.desk.call call = some (s.desk, .done (.failed (.notInitialized c.label)))

/-- All or nothing. -/
def Settled (start : History) (n : Nat) (c : TenantCache) : Outcome → History → Prop
  | .nothing, s => ∃ grant snapshot o, Granted start n c s grant snapshot o
  | .failed _, s => Refused n c s
  | _, _ => False

/-- The cache is not open, and there is what it takes to try. -/
structure Openable (c : TenantCache) (catalog : Catalog) (bounds : PoolBounds) : Prop where
  unopened : c.opened = none
  bounds : c.provider.pool.bounds = .ok bounds
  catalog : Catalog.of? c.target = some catalog

/-- The cache is as it was when it was not open, whatever else has been done. -/
structure Untouched (start : History) (n : Nat) (c : TenantCache) (s : History) : Prop where
  sound : Sound s.kept ⟨s.desk, [], s.news⟩
  routed : Routed ⟨s.desk, [], s.news⟩
  cache : s.desk.cache? n = some c
  grown : start.desk.yard.pools.length ≤ s.desk.yard.pools.length

theorem Untouched.runFrom (h : Untouched start n c s) (hr : s.runFrom moves = some u)
    (ho : u.desk.opened? n = none) : Untouched start n c u := by
  obtain ⟨sound, routed, cache, grown⟩ := h
  obtain ⟨hrouted, hcache, hgrown⟩ := runFrom_keeps
    (P := fun _ x => Routed x ∧ (x.desk.cache? n = some c ∨ ∃ o, x.desk.opened? n = some o) ∧
      start.desk.yard.pools.length ≤ x.desk.yard.pools.length)
    (fun h _ hx => ⟨h.routed hx.1, h.unopened hx.2.1, Nat.le_trans hx.2.2 h.pools_le⟩)
    (fun _ h => h) ⟨routed, .inl cache, grown⟩ sound hr
  refine ⟨sound_runFrom sound hr, hrouted, hcache.resolve_right ?_, hgrown⟩
  rintro ⟨o, hopened⟩
  cases ho.symm.trans hopened

/-- Whatever else goes on, the cache is untouched while the operation waits. -/
theorem Untouched.waits {f : Frame} (h : Untouched start n c s) (hr : s.runFrom moves = some u)
    (hf : u.desk.frames = f :: frames) (hn : f.opening? = some n) : Untouched start n c u := by
  have hopening : n ∈ u.desk.openings := by simp [openings, hf, hn]
  obtain ⟨k, hk, hclosed⟩ := (sound_runFrom h.sound hr).closed n hopening
  exact h.runFrom hr (by rw [opened?, hk, Option.bind_some, hclosed])

/-- A step that changes no cache leaves this one untouched. -/
theorem Untouched.takes {deed : Deed} (h : Untouched start n c s) (hc : c.opened = none)
    (ht : s.Takes deed r s') (hd : s'.desk.caches = s.desk.caches) : Untouched start n c s' := by
  obtain ⟨m, hm⟩ := ht.runFrom
  have hcache : s'.desk.cache? n = some c := by
    rw [cache?, hd]
    exact h.cache
  exact h.runFrom hm (by rw [opened?, hcache, Option.bind_some, hc])

theorem Untouched.refused (h : Untouched start n c s) (hc : c.opened = none) : Refused n c s := by
  refine ⟨?_, h.cache, TenantCache.regionOf_unopened hc, TenantCache.poolOf_unopened hc, ?_⟩
  · have hlearned := h.routed n
    rwa [opened?, show s.desk.cache? n = some c from h.cache, Option.bind_some, hc] at hlearned
  · intro call hn hplace ha
    obtain ⟨place, hp⟩ := Option.ne_none_iff_exists'.mp hplace
    have hpos := h.sound.holds_kept (kept_of_allows ha hn).1
    rw [Call.place?_unopened hc hp] at hp
    exact call_unplaced hpos hn h.cache hp

theorem vacant_newPool (hb : c.provider.pool.bounds = .ok bounds) (project region : String) :
    Vacant c project region (c.newPool bounds project region) :=
  ⟨rfl, hb, PoolBounds.check_of_ok hb, rfl, c.region_poolSettings project region, rfl, rfl, rfl⟩

theorem reply_answered {purpose : Purpose}
    (hf : d.frames = .authenticating n catalog tries purpose :: frames) (hc : d.cache? n = some c)
    (hb : c.provider.pool.bounds = .ok bounds) (now : Instant)
    (answer : Except IdentityError Grant) : d.reply (.answered now answer) =
      judge { d with frames } n c bounds catalog tries purpose (catalog.evaluate now answer) := by
  rw [reply, hf]
  change ((d.cache? n).bind fun c => c.provider.pool.bounds.toOption.bind _) = _
  rw [hc, Option.bind_some, hb]
  rfl

theorem reply_slept {purpose : Purpose}
    (hf : d.frames = .sleeping n catalog tries purpose :: frames) (hc : d.cache? n = some c)
    (hb : c.provider.pool.bounds = .ok bounds) :
    d.reply .slept = attempt { d with frames } n c bounds catalog tries purpose := by
  rw [reply, hf]
  change ((d.cache? n).bind fun c => c.provider.pool.bounds.toOption.bind _) = _
  rw [hc, Option.bind_some, hb]
  rfl

/-- An answer that is accepted opens the cache at once. -/
theorem Untouched.granted {now : Instant} {answer : Except IdentityError Grant}
    {snapshot : Snapshot} (h : Untouched start n c s) (hc : Openable c catalog bounds)
    (hf : s.desk.frames = .authenticating n catalog tries .explain :: frames)
    (he : catalog.evaluate now answer = .ok snapshot) :
    ∃ d grant o, s.desk.reply (.answered now answer) = some (d, .done .nothing) ∧
      Granted start n c (s.record (.answer (.authenticating n catalog tries .explain)
        (.answered now answer)) (d, .done .nothing)) grant snapshot o := by
  obtain ⟨grant, rfl, hp⟩ := Catalog.evaluate_ok he
  have hreply := reply_answered hf h.cache hc.bounds now (.ok grant)
  rw [he, judge_accepted snapshot grant.project hp] at hreply
  have hlearns : s.desk.learns (.answer (.authenticating n catalog tries .explain)
      (.answered now (.ok grant))) = some (n, snapshot) := by
    change (catalog.evaluate now (.ok grant)).toOption.map (n, ·) = _
    rw [he]
    rfl
  have hrecorded : cache? (Desk.record { s.desk with frames } catalog.version (.ok snapshot))
      n = some c := h.cache
  have hcache := cache?_openTenant hrecorded catalog bounds snapshot grant.project n
  rw [if_pos rfl] at hcache
  refine ⟨_, grant, _, hreply, ⟨catalog, tries, now, s.events, hc.catalog, he, ?_⟩, ?_, hcache, rfl,
    rfl, rfl, rfl, List.map_fst_zip (by simp), snapshot.regions_nodup, ?_, ?_⟩
  · rw [History.record, hlearns]
  · rw [History.learned, History.news, History.record, hlearns]
    exact (learned_cons_self n snapshot s.news).trans (congrArg _ (h.refused hc.unopened).learned)
  · rw [List.map_snd_zip (by simp)]
    exact List.nodup_range'
  · intro region m hm
    obtain ⟨hnew, hpool⟩ := pool_openTenant n c catalog bounds grant.project hm
    exact ⟨Nat.le_trans h.grown hnew, _, hpool, vacant_newPool hc.bounds grant.project.name region⟩

/-- Whoever waits before the attempt after this one comes to the end. -/
def Follows (start : History) (n : Nat) (c : TenantCache) (catalog : Catalog) (tries : UInt32) :
    Prop :=
  ∀ u wait frames, tries < c.provider.retry.policy.limit → Untouched start n c u →
    u.desk.frames = .sleeping n catalog (tries + 1) .explain :: frames →
    Concludes (Settled start n c) (.sleep wait) u

theorem Untouched.rejected (h : Untouched start n c s) (hc : c.opened = none)
    (hr : Rejected d n c catalog tries step) (hd : s.desk = step.1)
    (hnext : Follows start n c catalog tries) : Concludes (Settled start n c) step.2 s := by
  cases hr with
  | failed => exact .done (h.refused hc)
  | again _ hlt hf =>
    have hframes : s.desk.frames = .sleeping n catalog (tries + 1) .explain :: d.frames := by
      rw [hd, hf]
    exact hnext s _ d.frames hlt h hframes

/-- The answer to an attempt is accepted, or is as good as none. -/
theorem authenticating_concludes {source : Nat} {request : AuthRequest}
    (h : Untouched start n c s) (hc : Openable c catalog bounds)
    (hnext : Follows start n c catalog tries)
    (hf : s.desk.frames = .authenticating n catalog tries .explain :: frames) :
    Concludes (Settled start n c) (.authenticate source request) s := by
  refine .of_replies hf ⟨.answered 0 (.error (.rejected "")), .authenticate⟩ ?_
  intro moves u reply hr hu hreply
  have hreached := h.waits hr hu rfl
  cases hreply with
  | @authenticate _ _ _ _ _ _ now answer =>
    cases he : catalog.evaluate now answer with
    | ok snapshot =>
      obtain ⟨d, grant, o, hstep, hgranted⟩ := hreached.granted hc hu he
      exact ⟨_, hstep, .done ⟨grant, snapshot, o, hgranted⟩⟩
    | error error =>
      obtain ⟨step, hstep, hrejected⟩ := judge_rejected (d := { u.desk with frames }) error
      rw [← he, ← reply_answered hu hreached.cache hc.bounds] at hstep
      have huntouched := hreached.takes hc.unopened (takes_reply hu hstep) hrejected.caches
      exact ⟨step, hstep, huntouched.rejected hc.unopened hrejected rfl hnext⟩

theorem attempt_concludes {deed : Deed} (h : Untouched start n c s)
    (hc : Openable c catalog bounds) (hnext : Follows start n c catalog tries)
    (hstep : d.attempt n c bounds catalog tries .explain = some step)
    (hd : d.caches = s.desk.caches) (ht : s.Takes deed step.2 (s.record deed step)) :
    Concludes (Settled start n c) step.2 (s.record deed step) := by
  obtain ⟨step', hattempt, hcases⟩ := attempt_cases d n c bounds catalog tries
  obtain rfl := Option.some.inj (hattempt.symm.trans hstep)
  obtain hrejected | ⟨source, request, hcaches, hframes, hask⟩ := hcases
  · have huntouched := h.takes hc.unopened ht (hrejected.caches.trans hd)
    exact huntouched.rejected hc.unopened hrejected rfl hnext
  · have huntouched := h.takes hc.unopened ht (hcaches.trans hd)
    rw [hask]
    exact authenticating_concludes huntouched hc hnext hframes

theorem sleeping_concludes {wait : Duration} (h : Untouched start n c s)
    (hc : Openable c catalog bounds) (hnext : Follows start n c catalog tries)
    (hf : s.desk.frames = .sleeping n catalog tries .explain :: frames) :
    Concludes (Settled start n c) (.sleep wait) s := by
  refine .of_replies hf ⟨.slept, .sleep⟩ ?_
  intro moves u reply hr hu hreply
  have hreached := h.waits hr hu rfl
  cases hreply
  obtain ⟨step, hstep, -⟩ := attempt_cases { u.desk with frames } n c bounds catalog tries
  have hreply := (reply_slept hu hreached.cache hc.bounds).trans hstep
  exact ⟨step, hreply, attempt_concludes hreached hc hnext hstep rfl (takes_reply hu hreply)⟩

/-- There are only so many attempts. -/
theorem follows (hc : Openable c catalog bounds) (tries : UInt32) :
    Follows start n c catalog tries := by
  suffices hleft : ∀ left (tries : UInt32),
      c.provider.retry.policy.limit.toNat ≤ tries.toNat + left →
        Follows start n c catalog tries from
    hleft _ tries (Nat.le_add_left _ _)
  intro left
  induction left with
  | zero =>
    intro tries hleft u wait frames hlt
    exact absurd (UInt32.lt_iff_toNat_lt.mp hlt) (Nat.not_lt.mpr hleft)
  | succ left ih =>
    intro tries hleft u wait frames hlt hu hf
    have hnext := ih (tries + 1) (by rw [toNat_succ_of_lt hlt]; omega)
    exact sleeping_concludes hu hc hnext hf

end History
end Tenancy.Desk
