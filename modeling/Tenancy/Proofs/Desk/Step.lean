import Tenancy.Proofs.Basic
import Tenancy.Proofs.Desk.Operation

namespace Tenancy.Desk

variable {errand : Errand} {kept hand : List Thing} {d : Desk} {news : List (Nat × Snapshot)}
  {step : Desk × Request} {n : Nat} {c : TenantCache} {outcome : Outcome} {error : TenantError}

/-- Where the operation looks for its pool. -/
def Call.place? (c : TenantCache) : Call → Option (Except TenantError Nat)
  | .reserve _ region | .release _ region _ | .trim _ region _ | .shrink _ region
  | .drain _ region => some (c.poolOf region)
  | .withConnection _ url => some (c.poolServing url)
  | _ => none

theorem Call.place?_unopened {call : Call} {place : Except TenantError Nat} (hc : c.opened = none)
    (h : call.place? c = some place) : place = .error (.notInitialized c.label) := by
  cases call with
  | reserve | release | trim | shrink | drain =>
    cases h
    exact TenantCache.poolOf_unopened hc _
  | withConnection n url =>
    cases h
    exact TenantCache.poolServing_of_error (TenantCache.regionOf_unopened hc url)
  | _ => cases h

theorem letGo_hold (d : Desk) (n : Nat) : (d.hold n).letGo n = d := by
  simp only [hold, letGo, List.modify_modify_eq]
  have hsame : ((fun h : Held => { h with holders := h.holders - 1 }) ∘
      fun h => { h with holders := h.holders + 1 }) = id := rfl
  rw [hsame, List.modify_id]

/-- Who holds a cache is not the last when others end. -/
theorem leave_hold (h : 0 < d.holders n) (outcome : Outcome) :
    (d.hold n).leave n outcome = some (d, .done outcome) := by
  obtain ⟨k, hk, hpos⟩ := exists_of_holders h
  simp [leave, letGo_hold, hk, Nat.ne_of_gt hpos]

theorem onPool_error (h : 0 < d.holders n) (error : TenantError) (call : Nat → Yard.Call) :
    d.onPool n (.error error) call = some (d, .done (.failed error)) :=
  leave_hold h (.failed error)

/-- An operation that finds no pool has done nothing. -/
theorem call_unplaced {call : Call} (h : 0 < d.holders n) (hn : call.cache? = some n)
    (hc : d.cache? n = some c) (hp : call.place? c = some (.error error)) :
    d.call call = some (d, .done (.failed error)) := by
  cases call with
  | reserve n' region | trim n' region count | shrink n' region | drain n' region
  | withConnection n' url =>
    cases hn
    simp only [Desk.call, hc, Option.bind_eq_bind, Option.bind_some, Option.some.inj hp,
      onPool_error h]
  | release n' region lease =>
    cases hn
    simp only [Desk.call, hc, Option.bind_eq_bind, Option.bind_some, release,
      Option.some.inj hp]
  | _ => cases hp

theorem onPool_leads {place : Except TenantError Nat} {call : Nat → Yard.Call}
    (hs : Sound kept ⟨d, hand, news⟩) (hk : .cache n ∈ kept)
    (hy : ∀ {e : Desk} {pool : Nat}, place = .ok pool → e.frames = .inPool n :: d.frames →
      e.owners = d.owners → e.Placed → e.callYard (call pool) = some step →
      Leads errand kept ⟨e, hand, news⟩ step news)
    (h : d.onPool n place call = some step) :
    Leads errand kept ⟨d, hand, news⟩ step news ∨
      ∃ error, place = .error error ∧ step = (d, .done (.failed error)) := by
  have hpos := hs.holds_kept hk
  cases place with
  | error error =>
    exact .inr ⟨error, rfl, Option.some.inj (h.symm.trans (onPool_error hpos error call))⟩
  | ok pool =>
    have hacts : Acts errand kept ⟨d, hand, news⟩ ⟨(d.hold n).push (.inPool n), hand, news⟩ :=
      .tail (.single (.hold (.inl hk))) (.push (.inPool n))
    have hleads := hy (e := (d.hold n).push (.inPool n)) rfl rfl rfl (hacts.sound hs).placed h
    exact .inl (hleads.after hacts fun key _ => rfl)

/-- A lease is handed over first, and is gone even where nobody takes it back. -/
theorem release_leads {region : String} {lease : Lease} (hs : Sound kept ⟨d, [.lease lease], news⟩)
    (hk : .cache n ∈ kept) (h : d.release n c region lease = some step) :
    Leads errand kept ⟨d, [.lease lease], news⟩ step news ∨
      ∃ error, c.poolOf region = .error error ∧ step = (d, .done (.failed error)) := by
  unfold release at h
  split at h
  · rename_i error he
    cases h
    exact .inr ⟨error, he, rfl⟩
  · rename_i named hnamed
    have hback {d e : Desk} {pool : Nat}
        (hpool : (.ok lease.pool : Except TenantError Nat) = .ok pool)
        (hf : e.frames = .inPool n :: d.frames) (_ : e.owners = d.owners) (hp : e.Placed)
        (h : e.callYard (.release pool lease) = some step) :
        Leads errand kept ⟨e, [.lease lease], news⟩ step news := by
      cases hpool
      exact releaseYard_leads hf hp h
    split at h
    · rename_i hown
      subst hown
      refine (onPool_leads hs hk hback h).imp_right ?_
      rintro ⟨error, he, -⟩
      cases he
    · split at h
      · have hnote : Acts errand kept ⟨d, [.lease lease], news⟩
            ⟨d.note .wrongRegion, [.lease lease], news⟩ := acts_note _
        obtain hleads | ⟨error, he, -⟩ := onPool_leads (hnote.sound hs) hk hback h
        · exact .inl (hleads.after hnote fun key _ => rfl)
        · cases he
      · cases h
        exact .inl (leads_done ((acts_note _).tail (.lose lease)) rfl fun key _ => rfl)

/-- Whoever finds a cache registered holds it from then on. -/
theorem found_leads {key : Key} (hn : d.registered? key = some n) :
    Leads (.find key) kept ⟨d, [], news⟩ (d.hold n, .done (.cached n)) news := by
  refine ⟨.quiet (.single (.hold (.inr ⟨key, hn⟩))), rfl, ?_, ?_⟩
  · intro m hm
    cases hm
    exact ⟨key, rfl, hn⟩
  · intro _ _ hno
    exact absurd rfl (hno n)

/-- Whoever looks for a cache is given the registered one, or there is nothing to make one from, or
he begins to open a new one. -/
theorem getOrOpen_cases {key : Key} (h : d.getOrOpen key = some step) :
    (∃ n, d.registered? key = some n ∧ step = (d.hold n, .done (.cached n))) ∨
    (∃ error, (error = .unknownProvider key.1 ∨ error = .unknownTenant key.1 key.2) ∧
      step = (d, .done (.failed error))) ∨
    ∃ source p t, d.provider? key.1 = some (source, p) ∧ p.tenant? key.2 = some t ∧
      (d.add (TenantCache.ofConfig source p t)).1.startInit d.caches.length
        (TenantCache.ofConfig source p t) (.register key) = some step := by
  unfold getOrOpen at h
  split at h
  · rename_i n hn
    exact .inl ⟨n, hn, (Option.some.inj h).symm⟩
  · split at h
    · exact .inr (.inl ⟨_, .inl rfl, (Option.some.inj h).symm⟩)
    · rename_i source p hp
      split at h
      · exact .inr (.inl ⟨_, .inr rfl, (Option.some.inj h).symm⟩)
      · rename_i t ht
        exact .inr (.inr ⟨source, p, t, hp, ht, h⟩)

theorem getOrOpen_leads {key : Key} (hs : Sound kept ⟨d, [], news⟩)
    (h : d.getOrOpen key = some step) : Leads (.find key) kept ⟨d, [], news⟩ step news := by
  obtain ⟨n, hn, rfl⟩ | ⟨error, herror, rfl⟩ | ⟨source, p, t, -, -, h⟩ := getOrOpen_cases h
  · exact found_leads hn
  · obtain rfl | rfl := herror
    all_goals exact leads_done .refl rfl fun key _ => rfl
  · have hadd : Acts (.find key) kept ⟨d, [], news⟩ ⟨_, [.cache d.caches.length], news⟩ :=
      .single (.add (TenantCache.ofConfig source p t) rfl)
    refine (startInit_leads (cache?_add_self d _) (fun _ hn => ?_) (fun _ hk => ?_)
      (fun _ _ => rfl) h).after hadd fun key _ => rfl
    · -- what is being opened is there already, and the new cache has a new number
      obtain ⟨k, hk, -⟩ := hs.closed _ hn
      obtain ⟨k, hk, -⟩ := Option.map_eq_some_iff.mp hk
      exact absurd (List.getElem?_eq_some_iff.mp hk).1 (Nat.lt_irrefl _)
    · cases hk
      refine ⟨rfl, ?_⟩
      rw [holders_add, if_pos rfl]
      simp [holders]

theorem evict_leads {key : Key} (h : d.evict key = some step) :
    Leads (.clear [key]) kept ⟨d, [], news⟩ step news := by
  unfold evict at h
  split at h
  · cases h
    exact leads_done .refl rfl fun key _ => rfl
  · rename_i n hn
    have hout : Act (.clear [key]) kept ⟨d, [], news⟩ []
        ⟨push { d with registry := d.registry.filter fun e => !(e.1 == key) }
          (.draining (d.doomedPools n) 0 (.evicted n)), [], news⟩ :=
      .unregister rfl (List.mem_singleton_self key) hn (d.doomedPools_perm n) .evicted
    refine (drainPools_leads (fun _ hend => ?_) h).after (.single hout) (by simp)
    exact conclude_leads rfl (by simp [Errand.Serves]) hend

theorem refresh_leads (hk : .cache n ∈ kept)
    (h : d.refresh n c = some step) : Leads errand kept ⟨d, [], news⟩ step news := by
  unfold refresh at h
  split at h
  · cases h
    exact leads_done .refl rfl fun key _ => rfl
  · split at h
    · cases h
      exact leads_done (acts_record _ _) rfl fun key _ => rfl
    · cases h
      have hhold : Acts errand kept ⟨d, [], news⟩ ⟨d.hold n, [.cache n], news⟩ :=
        .single (.hold (.inl hk))
      exact leads_ask (.quiet (hhold.trans (acts_push (.refreshing n)))) (by simp) fun key _ => rfl

/-- Operations on a pool of the cache differ in how they look for it. -/
theorem placed_leads {place : TenantCache → Except TenantError Nat} {call : Nat → Yard.Call}
    (hs : Sound kept ⟨d, [], news⟩) (hk : .cache n ∈ kept)
    (hm : ∀ c pool, place c = .ok pool → (call pool).pool ∈ c.poolNumbers)
    (hc : ∀ pool, d.owners[(call pool).pool]? = some n →
      errand.Allows d.owners (.call (call pool)))
    (h : ((d.cache? n).bind fun c => d.onPool n (place c) call) = some step) :
    Leads errand kept ⟨d, [], news⟩ step news ∨ ∃ c error, d.cache? n = some c ∧
      place c = .error error ∧ step = (d, .done (.failed error)) := by
  obtain ⟨c, hcache, h⟩ := Option.bind_eq_some_iff.mp h
  have hyard {e : Desk} {pool : Nat} (hpool : place c = .ok pool)
      (hf : e.frames = .inPool n :: d.frames) (ho : e.owners = d.owners) (hp : e.Placed)
      (h : e.callYard (call pool) = some step) : Leads errand kept ⟨e, [], news⟩ step news := by
    have howner := hs.owned n c hcache _ (hm c pool hpool)
    have hallows := hc pool howner
    rw [← show e.owners = _ from ho] at howner hallows
    exact callYard_leads hf howner hp hallows h
  refine (onPool_leads hs hk hyard h).imp_right ?_
  rintro ⟨error, he, hstep⟩
  exact ⟨c, error, hcache, he, hstep⟩

/-- Either a call goes on to its end, or it finds no pool and changes nothing. -/
theorem call_leads {call : Call} (hs : Sound kept ⟨d, call.things, news⟩)
    (hn : ∀ n, call.cache? = some n → n ∉ d.openings)
    (hk : ∀ n, call.cache? = some n → call ≠ .drop n → .cache n ∈ kept)
    (h : d.call call = some step) :
    Leads (d.errand (.call call)) kept ⟨d, call.things, news⟩ step news ∨
      ∃ n c error, call.cache? = some n ∧ d.cache? n = some c ∧
        call.place? c = some (.error error) ∧ step = (d, .done (.failed error)) := by
  cases call with
  | openCache n | tryOpenCache n =>
    simp only [Desk.call] at h
    split at h
    · cases h
    · obtain ⟨c, hc, h⟩ := Option.bind_eq_some_iff.mp h
      exact .inl (startInit_leads hc (fun _ => hn n rfl) (by simp [Purpose.Fits]) (by simp) h)
  | getOrOpen key => exact .inl (getOrOpen_leads hs h)
  | get key =>
    simp only [Desk.call] at h
    split at h
    · rename_i n hn
      cases h
      exact .inl (found_leads hn)
    · cases h
      exact .inl (leads_done .refl rfl fun key _ => rfl)
  | evict key => exact .inl (evict_leads h)
  | shutDownAll => exact .inl (sweep_leads rfl (d.keyOrder.perm _).subset h)
  | drop n =>
    have hplaced : Outcome.nothing.isPrompt = false := rfl
    exact .inl (leave_leads hplaced h)
  | reserve n region | drain n region =>
    have hm (c : TenantCache) (pool : Nat) (hp : c.poolOf region = .ok pool) :
        pool ∈ c.poolNumbers := (TenantCache.poolOf_ok hp).2
    refine (placed_leads hs (hk n rfl (by simp)) hm
      (fun _ _ => ⟨by simp, by simp [Yard.Deed.Trims]⟩) h).imp_right ?_
    rintro ⟨c, error, hc, he, rfl⟩
    exact ⟨n, c, error, rfl, hc, congrArg some he, rfl⟩
  | trim n region | shrink n region =>
    have hm (c : TenantCache) (pool : Nat) (hp : c.poolOf region = .ok pool) :
        pool ∈ c.poolNumbers := (TenantCache.poolOf_ok hp).2
    refine (placed_leads hs (hk n rfl (by simp)) hm
      (fun _ howner => ⟨by simp, fun _ => ⟨n, rfl, howner⟩⟩) h).imp_right ?_
    rintro ⟨c, error, hc, he, rfl⟩
    exact ⟨n, c, error, rfl, hc, congrArg some he, rfl⟩
  | withConnection n url =>
    have hm (c : TenantCache) (pool : Nat) (hp : c.poolServing url = .ok pool) :
        pool ∈ c.poolNumbers := TenantCache.poolServing_ok hp
    refine (placed_leads hs (hk n rfl (by simp)) hm
      (fun _ _ => ⟨by simp, by simp [Yard.Deed.Trims]⟩) h).imp_right ?_
    rintro ⟨c, error, hc, he, rfl⟩
    exact ⟨n, c, error, rfl, hc, congrArg some he, rfl⟩
  | release n region lease =>
    obtain ⟨c, hc, h⟩ := Option.bind_eq_some_iff.mp h
    refine (release_leads hs (hk n rfl (by simp)) h).imp_right ?_
    rintro ⟨error, he, rfl⟩
    exact ⟨n, c, error, rfl, hc, congrArg some he, rfl⟩
  | shutDown n =>
    have hhold : Acts (.clear []) kept ⟨d, [], news⟩ ⟨d.hold n, [.cache n], news⟩ :=
      .single (.hold (.inl (hk n rfl (by simp))))
    have hpush : Acts (.clear []) kept ⟨d.hold n, [.cache n], news⟩
        ⟨(d.hold n).push (.draining ((d.hold n).doomedPools n) 0 (.shutDown n)), [], news⟩ :=
      acts_push (f := .draining _ 0 (.shutDown n))
        (.draining (doomedPools_perm _ n) (.inl (List.mem_singleton_self _)) rfl)
    refine .inl ((drainPools_leads (fun _ hend => ?_) h).after (hhold.trans hpush) fun key _ => rfl)
    exact conclude_leads rfl (by simp [Errand.Serves]) hend
  | refresh n =>
    obtain ⟨c, -, h⟩ := Option.bind_eq_some_iff.mp h
    exact .inl (refresh_leads (hk n rfl (by simp)) h)

theorem unopened_of_popped {f : Frame} {frames : List Frame} (hs : Sound kept ⟨d, hand, news⟩)
    (hf : d.frames = f :: frames) (ho : f.opening? = some n) (hc : d.cache? n = some c) :
    Unopened { d with frames } n c := by
  have hopenings : d.openings = n :: openings { d with frames } := by
    simp only [openings, hf, List.filterMap_cons, ho]
  obtain ⟨k, hk, hopened⟩ := hs.closed n (by simp [hopenings])
  obtain rfl := Option.some.inj (hk.symm.trans hc)
  have honce := hs.once
  simp only [hopenings, List.nodup_cons] at honce
  exact ⟨hc, hopened, honce.1⟩

/-- Who opens a cache to register it still holds it alone when the answer comes. -/
theorem fits_of_popped {f : Frame} {frames : List Frame} {purpose : Purpose}
    (hs : Sound kept ⟨d, hand, news⟩) (hf : d.frames = f :: frames) (ho : f.opening? = some n)
    (ht : f.things = purpose.things n) (he : f.errand frames = purpose.errand) :
    purpose.Fits (f.errand frames) { d with frames } n := by
  rintro key rfl
  refine ⟨he, ?_⟩
  obtain hnone | hone := hs.alone f (by simp [hf]) n ho
  · cases ht.symm.trans hnone
  · exact hone

theorem refreshed_leads {o : OpenTenant} {now : Instant} {answer : Except IdentityError Grant}
    (hc : d.cache? n = some c) (ho : c.opened = some o)
    (h : d.refreshed n o c now answer = some step) :
    Leads errand kept ⟨d, [.cache n], news⟩ step
      (((o.catalog.evaluate now answer).toOption.map (n, ·)).toList ++ news) := by
  have hrec : Acts errand kept ⟨d, [.cache n], news⟩ ⟨_, [.cache n], news⟩ :=
    acts_record o.catalog.version (o.catalog.evaluate now answer)
  simp only [refreshed] at h
  cases hr : o.catalog.evaluate now answer with
  | error error =>
    simp only [hr] at h hrec
    have hplaced : (Outcome.catalogFailed error).isPrompt = false := rfl
    exact (leave_leads hplaced h).after hrec fun key _ => rfl
  | ok s =>
    simp only [hr] at h hrec
    have hrecorded : cache? (d.record o.catalog.version (.ok s)) n = some c := hc
    have hplaced : (Outcome.regions (some s.regions)).isPrompt = false := rfl
    exact (leave_leads hplaced h).after (hrec.tail (.publish hrecorded ho)) fun key _ => rfl

/-- Who goes on with an eviction of all caches once a pool has given up a connection, is on that
errand. -/
theorem serves_below {f : Frame} {frames below : List Frame} {rest : List Nat} {closed : Nat}
    {after : After} (hf : f.isPlain = false) (h : frames = .draining rest closed after :: below) :
    (f.errand frames).Serves after := by
  rintro n keys rfl
  subst h
  refine ⟨keys, ?_, List.Subset.refl keys⟩
  cases f with
  | connecting | loggingIn | abandoning | closing | working => rfl
  | _ => cases hf

theorem Frame.Tells.isPlain {f : Frame} {r : Yard.Reply} {made : List Connection}
    (h : f.Tells r made) : f.isPlain = false := by
  cases h <;> rfl

/-- The frame on top was waited with for nothing but a reply to the yard. -/
theorem told_leads {f : Frame} {frames : List Frame} {r : Yard.Reply}
    (hs : Sound kept ⟨d, hand, news⟩) (hf : d.frames = f :: frames) (hr : f.Tells r [])
    (h : replyYard { d with frames } r = some step) :
    Leads (f.errand frames) kept ⟨d, [], news⟩ step news := by
  refine replyYard_leads hf hr hs.placed (fun _ _ _ _ => serves_below hr.isPlain) ?_
  rw [List.append_nil]
  exact h

/-- An answered operation goes on to its end, or it has got a connection and logs in. -/
theorem reply_leads {r : Reply} {frame : Frame} {frames : List Frame}
    (hs : Sound kept ⟨d, [], news⟩) (hf : d.frames = frame :: frames) (h : d.reply r = some step) :
    (∀ pool, frame = .connecting pool → r ≠ .succeeded) ∧
        Leads (d.errand (.answer frame r)) kept ⟨d, [], news⟩ step
          ((d.learns (.answer frame r)).toList ++ news) ∨
      ∃ pool connection credentials, frame = .connecting pool ∧ r = .succeeded ∧
        connection.number = d.connected ∧ step = ({ d with
          connected := d.connected + 1
          frames := .loggingIn connection :: frames }, .login connection credentials) := by
  have hnoted (notice : Notice) : Sound kept ⟨d.note notice, [], news⟩ :=
    hs.same rfl rfl rfl rfl rfl fun n => rfl
  have herrand : d.errand (.answer frame r) = frame.errand frames :=
    congrArg (fun below : List Frame => frame.errand below.tail) hf
  rw [herrand]
  simp only [reply, hf] at h
  cases frame with
  | connecting pool =>
    cases r with
    | succeeded =>
      obtain ⟨c, -, h⟩ := Option.bind_eq_some_iff.mp h
      obtain ⟨p, -, h⟩ := Option.bind_eq_some_iff.mp h
      cases h
      exact .inr ⟨pool, _, _, rfl, rfl, rfl, rfl⟩
    | failed =>
      exact .inl ⟨by simp, (told_leads (hnoted .connectFailed) hf .notConnected h).after
        (acts_note _) fun key _ => rfl⟩
    | unwind => exact .inl ⟨by simp, told_leads hs hf .broken h⟩
    | answered | slept | finished => cases h
  | loggingIn connection =>
    cases r with
    | succeeded =>
      exact .inl ⟨by simp,
        replyYard_leads hf .loggedIn hs.placed (fun _ _ _ _ => serves_below rfl) h⟩
    | failed =>
      cases h
      exact .inl ⟨by simp, leads_ask (.last (acts_note .loginFailed) (.abandon hf)) (by simp)
        fun key _ => rfl⟩
    | answered | slept | finished | unwind => cases h
  | abandoning =>
    cases r with
    | succeeded | failed => exact .inl ⟨by simp, told_leads hs hf .abandoned h⟩
    | answered | slept | finished | unwind => cases h
  | closing =>
    cases r with
    | succeeded => exact .inl ⟨by simp, told_leads hs hf .closed h⟩
    | failed =>
      exact .inl ⟨by simp, (told_leads (hnoted .closeFailed) hf .closed h).after (acts_note _)
        fun key _ => rfl⟩
    | answered | slept | finished | unwind => cases h
  | working =>
    cases r with
    | finished => exact .inl ⟨by simp, told_leads hs hf .finished h⟩
    | unwind => exact .inl ⟨by simp, told_leads hs hf .unwound h⟩
    | succeeded | failed | answered | slept => cases h
  | authenticating n catalog tries purpose =>
    cases r with
    | answered now answer =>
      obtain ⟨c, hc, h⟩ := Option.bind_eq_some_iff.mp h
      obtain ⟨bounds, hb, h⟩ := Option.bind_eq_some_iff.mp h
      have hfits : purpose.Fits _ { d with frames } n := fits_of_popped hs hf rfl rfl rfl
      exact .inl ⟨by simp, (judge_leads (unopened_of_popped hs hf rfl hc) hfits
        (ok_of_toOption hb) h).after (acts_pop hf rfl) fun key _ => rfl⟩
    | succeeded | failed | slept | finished | unwind => cases h
  | sleeping n catalog tries purpose =>
    cases r with
    | slept =>
      obtain ⟨c, hc, h⟩ := Option.bind_eq_some_iff.mp h
      obtain ⟨bounds, hb, h⟩ := Option.bind_eq_some_iff.mp h
      have hfits : purpose.Fits _ { d with frames } n := fits_of_popped hs hf rfl rfl rfl
      exact .inl ⟨by simp, (attempt_leads (unopened_of_popped hs hf rfl hc) hfits
        (ok_of_toOption hb) h).after (acts_pop hf rfl) fun key _ => rfl⟩
    | succeeded | failed | answered | finished | unwind => cases h
  | refreshing n =>
    cases r with
    | answered now answer =>
      obtain ⟨c, hc, h⟩ := Option.bind_eq_some_iff.mp h
      obtain ⟨o, ho, h⟩ := Option.bind_eq_some_iff.mp h
      have hlearned : d.learns (.answer (.refreshing n) (.answered now answer)) =
          (o.catalog.evaluate now answer).toOption.map (n, ·) := by
        change ((d.cache? n).bind fun c => c.opened.bind _) = _
        rw [show d.cache? n = some c from hc, Option.bind_some, ho]
        rfl
      rw [hlearned]
      exact .inl ⟨by simp, (refreshed_leads hc ho h).after (acts_pop hf rfl) fun key _ => rfl⟩
    | succeeded | failed | slept | finished | unwind => cases h
  | inPool n | draining rest closed after => cases r <;> cases h

end Tenancy.Desk
