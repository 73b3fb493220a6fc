import Tenancy.Proofs.Desk.Sound

namespace Tenancy.Desk

variable {errand : Errand} {kept hand : List Thing} {d d' : Desk} {news : List (Nat × Snapshot)}
  {step : Desk × Request} {n : Nat} {c : TenantCache} {outcome : Outcome} {after : After}
  {y y' : Yard} {closed closed' : Nat} {reaction : Yard.Reaction} {catalog : Catalog}
  {bounds : PoolBounds} {purpose : Purpose} {tries : UInt32} {pools : List Nat}
  {frames : List Frame} {made : List Connection}

theorem Unopened.congr (h : Unopened d n c) (hc : d'.caches = d.caches)
    (hf : d'.frames = d.frames) : Unopened d' n c := by
  simpa [Unopened, cache?, openings, hc, hf] using h

/-- The next pool is drained, and there is nothing to close. -/
theorem act_drain {pool count : Nat} {rest : List Nat}
    (h : d.yard.call (.drain pool) = some (y', .done (.counted count))) :
    Act errand kept ⟨d.push (.draining (pool :: rest) closed after), hand, news⟩ []
      ⟨push { d with yard := y' } (.draining rest closed' after), hand, news⟩ := by
  have hact : Act errand kept ⟨d.push (.draining (pool :: rest) closed after), hand, news⟩ []
      ⟨{ d with
          yard := y'
          connections := d.connections ++ []
          frames := [] ++ .draining rest closed' after :: d.frames },
        (Yard.Reaction.done (.counted count)).things ++ hand, news⟩ :=
    .work (allows_drain ..) (.call h) (.drain rfl (.done _))
  rw [List.append_nil] at hact
  exact hact

/-- Where draining has got to: the pools that are left, or the one that has a connection to be
closed. -/
def Drained (errand : Errand) (kept : List Thing) (x : Scene) (d : Desk) (after : After)
    (closed : Nat) (y : Yard) : Option (List Nat × Yard.Reaction) → Prop
  | none => Acts errand kept x
      ⟨push { d with yard := y } (.draining [] closed after), x.hand, x.news⟩
  | some (rest, reaction) => ∃ z pool, z.call (.drain pool) = some (y, reaction) ∧
      Acts errand kept x
        ⟨push { d with yard := z } (.draining (pool :: rest) closed after), x.hand, x.news⟩

theorem drainUntil_acts {stop : Option (List Nat × Yard.Reaction)}
    (h : drainUntil d.yard closed pools = (y', closed', stop)) :
    Drained errand kept ⟨d.push (.draining pools closed after), hand, news⟩ d after closed' y'
      stop := by
  have hafter {x x' : Scene} {e : Desk} (hx : Act errand kept x [] x') (hh : x'.hand = x.hand)
      (hn : x'.news = x.news) (h : Drained errand kept x' e after closed' y' stop) :
      Drained errand kept x e after closed' y' stop := by
    obtain _ | ⟨rest, reaction⟩ := stop
    · rw [Drained, hh, hn] at h
      exact .head hx h
    · obtain ⟨z, pool, hdrain, hacts⟩ := h
      rw [hh, hn] at hacts
      exact ⟨z, pool, hdrain, .head hx hacts⟩
  induction pools generalizing d closed with
  | nil =>
    cases h
    exact .refl
  | cons pool rest ih =>
    unfold drainUntil at h
    split at h
    · rename_i hnone
      have hgone : d.yard.pools[pool]? = none := Option.map_eq_none_iff.mp hnone
      refine hafter (.recount rfl (List.subset_cons_self pool rest) fun m hm => ?_) rfl rfl (ih h)
      rcases List.mem_cons.mp hm with rfl | hm
      · exact .inr hgone
      · exact .inl hm
    · rename_i yard count hdrain
      exact hafter (act_drain hdrain) rfl rfl (ih (d := { d with yard }) h)
    · rename_i yard reaction _ hdrain
      cases h
      exact ⟨_, pool, hdrain, .refl⟩

/-- Whoever drains pools goes on with what is left to do after them. -/
theorem drainPools_leads (ha : ∀ {e closed}, e.registry = d.registry →
      e.conclude closed after = some step → Leads errand kept ⟨e, after.things, news⟩ step news)
    (h : d.drainPools closed pools after = some step) :
    Leads errand kept ⟨d.push (.draining pools closed after), [], news⟩ step news := by
  simp only [drainPools] at h
  generalize hu : drainUntil d.yard closed pools = drained at h
  obtain ⟨yard, closed', _ | ⟨rest, reaction⟩⟩ := drained
  · have hacts : Acts errand kept ⟨d.push (.draining pools closed after), [], news⟩
        ⟨push { d with yard } (.draining [] closed' after), [], news⟩ := drainUntil_acts hu
    have hpop : Acts errand kept ⟨push { d with yard } (.draining [] closed' after), [], news⟩
        ⟨{ d with yard }, after.things, news⟩ :=
      acts_pop (f := .draining [] closed' after) rfl rfl
    have hend : Leads errand kept ⟨{ d with yard }, after.things, news⟩ step news := ha rfl h
    exact hend.after (hacts.trans hpop) fun key _ => rfl
  · obtain ⟨z, pool, hdrain, hacts⟩ : Drained errand kept
        ⟨d.push (.draining pools closed after), [], news⟩ d after closed' yard
        (some (rest, reaction)) := drainUntil_acts hu
    obtain ⟨f, hf, hstep, hthings, hasks⟩ := ask_passing h
    have hact : Act errand kept ⟨push { d with yard := z } (.draining (pool :: rest) closed' after),
        [], news⟩ step.2.entries
        ⟨{ d with
            yard
            connections := d.connections ++ []
            frames := [f] ++ .draining rest closed' after :: d.frames },
          reaction.things ++ [], news⟩ :=
      .work (allows_drain ..) (.call hdrain) (.drain rfl hf)
    rw [hthings, List.append_nil, List.append_nil] at hact
    obtain ⟨e, r⟩ := step
    subst hstep
    exact leads_ask (.last hacts hact) hasks fun key _ => rfl

/-- Whoever evicts caches one after the other, takes them out as they come. -/
theorem sweep_leads {keys all : List Key} (he : errand = .clear all) (hk : keys ⊆ all)
    (h : d.sweep closed keys = some step) : Leads errand kept ⟨d, [], news⟩ step news := by
  have hclear {d d' : Desk} (key : Key) (hf : errand = .find key) : d'.registry = d.registry := by
    cases he.symm.trans hf
  induction keys generalizing d closed with
  | nil =>
    cases h
    exact leads_done .refl rfl hclear
  | cons key keys ih =>
    have hkeys := List.cons_subset.mp hk
    unfold sweep at h
    split at h
    · exact ih hkeys.2 h
    · rename_i n hn
      have hout : Act errand kept ⟨d, [], news⟩ []
          ⟨push { d with registry := d.registry.filter fun e => !(e.1 == key) }
            (.draining (d.doomedPools n) closed (.sweep n keys)), [], news⟩ :=
        .unregister he hkeys.1 hn (d.doomedPools_perm n) .sweep
      have hdrain : drainPools { d with registry := d.registry.filter fun e => !(e.1 == key) }
          closed (d.doomedPools n) (.sweep n keys) = some step := h
      refine (drainPools_leads (fun _ hend => ?_) hdrain).after (.single hout) hclear
      exact (ih hkeys.2 hend).after (.single .letGo) hclear

/-- Who goes on with the eviction of all caches does so on that errand. -/
def Errand.Serves (errand : Errand) (after : After) : Prop :=
  ∀ n keys, after = .sweep n keys → ∃ all, errand = .clear all ∧ keys ⊆ all

theorem conclude_leads (ha : after.isPlaced = true) (he : errand.Serves after)
    (h : d.conclude closed after = some step) :
    Leads errand kept ⟨d, after.things, news⟩ step news := by
  cases after with
  | answer outcome =>
    cases h
    exact leads_done .refl (by simpa [After.isPlaced] using ha) fun key _ => rfl
  | shutDown n | evicted n =>
    cases h
    exact leads_done (.single .letGo) rfl fun key _ => rfl
  | sweep n keys =>
    obtain ⟨all, hclear, hk⟩ := he n keys rfl
    exact (sweep_leads hclear hk h).after (.single .letGo) fun key _ => rfl

theorem leave_leads (ho : outcome.isPrompt = false) (h : d.leave n outcome = some step) :
    Leads errand kept ⟨d, .cache n :: outcome.things, news⟩ step news := by
  have hgo : Acts errand kept ⟨d, .cache n :: outcome.things, news⟩
      ⟨d.letGo n, outcome.things, news⟩ :=
    .single .letGo
  have hplaced : (After.answer outcome).isPlaced = true := by simp [After.isPlaced, ho]
  simp only [leave] at h
  split at h
  · rename_i hlast
    have hnobody : (d.letGo n).holders n = 0 := by
      rw [holders, eq_of_beq hlast]
      rfl
    have hpush : Acts errand kept ⟨d.letGo n, outcome.things, news⟩
        ⟨(d.letGo n).push (.draining ((d.letGo n).doomedPools n) 0 (.answer outcome)), [], news⟩ :=
      acts_push (.draining (doomedPools_perm _ n) (.inr hnobody) hplaced)
    refine (drainPools_leads (fun _ hend => ?_) h).after (hgo.trans hpush) fun key _ => rfl
    exact conclude_leads hplaced (by simp [Errand.Serves]) hend
  · cases h
    exact leads_done hgo ho fun key _ => rfl

theorem outcomeOf_things (o : Yard.Outcome) :
    (outcomeOf o).things = (Yard.Reaction.done o).things := by
  cases o <;> rfl

theorem outcomeOf_placed (o : Yard.Outcome) : (outcomeOf o).isPrompt = false := by
  cases o <;> rfl

/-- Whoever waits for the end of a step of the yard goes on. -/
theorem settled_leads {o : Yard.Outcome} (hp : d.Placed)
    (he : ∀ rest closed after frames, d.frames = .draining rest closed after :: frames →
      errand.Serves after)
    (h : d.react (.done o) = some step) :
    Leads errand kept ⟨d, (Yard.Reaction.done o).things, news⟩ step news := by
  simp only [react] at h
  split at h
  · rename_i n frames hf
    have hpop : Acts errand kept ⟨d, (Yard.Reaction.done o).things, news⟩
        ⟨{ d with frames }, .cache n :: (outcomeOf o).things, news⟩ := by
      rw [outcomeOf_things]
      exact .single (.pop hf rfl)
    exact (leave_leads (outcomeOf_placed o) h).after hpop fun key _ => rfl
  · rename_i rest closed after frames hf
    split at h
    · rename_i count
      have ha : after.isPlaced = true := hp (.draining rest closed after) (by simp [hf])
      have hcount : Acts errand kept ⟨d, [], news⟩
          ⟨push { d with frames } (.draining rest (closed + count) after), [], news⟩ :=
        .single (.recount hf (List.Subset.refl rest) fun m hm => .inl hm)
      refine (drainPools_leads (fun _ hend => ?_) h).after hcount fun key _ => rfl
      exact conclude_leads ha (he rest closed after frames hf) hend
    · cases h
  · cases h

/-- A step of the yard comes to something that has to be asked for. -/
theorem asked_leads {deed : Yard.Deed} (hd : errand.Allows d.owners deed)
    (hy : d.yard.Does deed (y, reaction))
    (hs : ∀ {tops entries}, Passing (d.connections ++ made) reaction tops entries →
      Shift d deed reaction (tops ++ frames) made entries)
    (h : ask { d with yard := y, frames, connections := d.connections ++ made } reaction =
      some step) : Leads errand kept ⟨d, [], news⟩ step news := by
  obtain ⟨f, hf, hstep, hthings, hasks⟩ := ask_passing h
  have hact : Act errand kept ⟨d, [], news⟩ step.2.entries ⟨_, reaction.things ++ [], news⟩ :=
    .work hd hy (hs hf)
  rw [hthings, List.append_nil] at hact
  obtain ⟨e, r⟩ := step
  subst hstep
  exact leads_ask (.last .refl hact) hasks fun key _ => rfl

theorem react_leads {deed : Yard.Deed} (hd : errand.Allows d.owners deed)
    (hy : d.yard.Does deed (y, reaction))
    (hs : ∀ {tops entries}, Passing (d.connections ++ made) reaction tops entries →
      Shift d deed reaction (tops ++ frames) made entries)
    (hp : ∀ f ∈ frames, f.isPlaced = true)
    (he : ∀ rest closed after below, frames = .draining rest closed after :: below →
      errand.Serves after)
    (h : react { d with yard := y, frames, connections := d.connections ++ made } reaction =
      some step) : Leads errand kept ⟨d, [], news⟩ step news := by
  cases reaction with
  | done o =>
    have hact : Act errand kept ⟨d, [], news⟩ [] ⟨_, (Yard.Reaction.done o).things ++ [], news⟩ :=
      .work hd hy (hs (.done o))
    rw [List.append_nil] at hact
    exact (settled_leads (d := { d with yard := y, frames, connections := d.connections ++ made })
      hp he h).after (.single hact) fun key _ => rfl
  | allocate | destroy | work => exact asked_leads hd hy hs h

theorem callYard_leads {call : Yard.Call} (hf : d.frames = .inPool n :: frames)
    (hn : d.owners[call.pool]? = some n) (hp : d.Placed)
    (hc : errand.Allows d.owners (.call call)) (h : d.callYard call = some step) :
    Leads errand kept ⟨d, [], news⟩ step news := by
  obtain ⟨⟨yard, reaction⟩, hy, h⟩ := Option.bind_eq_some_iff.mp h
  have hshift {tops : List Frame} {entries : List Entry}
      (hx : Passing (d.connections ++ []) reaction tops entries) :
      Shift d (.call call) reaction (tops ++ d.frames) [] entries := by
    rw [List.append_nil] at hx
    rw [hf]
    exact .call hf hn hx
  refine react_leads hc (.call hy) hshift hp (by simp [hf]) ?_
  rw [List.append_nil]
  exact h

theorem release_things {lease : Lease}
    (h : y.call (.release lease.pool lease) = some (y', reaction)) :
    reaction = .done .returned := by
  obtain ⟨p, -, h⟩ := Option.map_eq_some_iff.mp h
  obtain rfl : (y.start lease.pool p (.release lease.pool lease)).2 = reaction :=
    congrArg Prod.snd h
  simp [Yard.start]

theorem releaseYard_leads {lease : Lease} (hf : d.frames = .inPool n :: frames) (hp : d.Placed)
    (h : d.callYard (.release lease.pool lease) = some step) :
    Leads errand kept ⟨d, [.lease lease], news⟩ step news := by
  obtain ⟨⟨yard, reaction⟩, hy, h⟩ := Option.bind_eq_some_iff.mp h
  obtain rfl := release_things hy
  have hleads : Leads errand kept ⟨{ d with yard }, [], news⟩ step news :=
    settled_leads (d := { d with yard }) hp (by simp [hf]) h
  exact hleads.after (.single (.giveBack hy)) fun key _ => rfl

/-- The frame on top has got its reply, and the yard is told. -/
theorem replyYard_leads {f : Frame} {r : Yard.Reply} (hf : d.frames = f :: frames)
    (hr : f.Tells r made) (hp : d.Placed)
    (he : ∀ rest closed after below, frames = .draining rest closed after :: below →
      errand.Serves after)
    (h : replyYard { d with frames, connections := d.connections ++ made } r = some step) :
    Leads errand kept ⟨d, [], news⟩ step news := by
  obtain ⟨⟨yard, reaction⟩, hy, h⟩ := Option.bind_eq_some_iff.mp h
  obtain ⟨task, ht, -⟩ := Option.bind_eq_some_iff.mp hy
  obtain ⟨tasks, htasks⟩ := List.head?_eq_some_iff.mp (List.head?_eq_getElem? .. ▸ ht)
  exact react_leads (allows_answer ..) (.reply htasks hy) (.answer hf hr)
    (fun g hg => hp g (by simp [hf, hg])) he h

/-- The pools of the cache are open, and have nothing to be closed. -/
def Fresh (d : Desk) (n : Nat) : Prop :=
  ∀ m ∈ d.poolsOf n, ∀ p, d.yard.pools[m]? = some p → p.slots = [] ∧ p.drained = false

theorem call_drain_empty {pool : Nat} {p : Pool} (hp : y.pools[pool]? = some p)
    (hs : p.slots = []) : ∃ p', p'.slots = [] ∧
      (y.call (.drain pool)).map (fun step => (step.1.pools, step.2)) =
        some (y.pools.set pool p', .done (.counted 0)) := by
  obtain ⟨hfree, hloaned⟩ := List.append_eq_nil_iff.mp hs
  simp only [Yard.call, Yard.Call.pool, hp, Option.map_some, Yard.start]
  cases hd : p.drained with
  | true => exact ⟨p, hs, by simp [Yard.set_same hp]⟩
  | false =>
    refine ⟨(p.drain y.order).2, rfl, ?_⟩
    simp [Yard.giveUp_eq, Pool.drain, hfree, hloaned, Yard.giving, Yard.put, Yard.publish]

/-- Pools without a connection are drained at once. -/
theorem drainUntil_empty (h : ∀ m ∈ pools, ∀ p, y.pools[m]? = some p → p.slots = []) :
    (drainUntil y closed pools).2.2 = none := by
  induction pools generalizing y closed with
  | nil => rfl
  | cons pool rest ih =>
    have hrest := fun m hm => h m (List.mem_cons_of_mem pool hm)
    unfold drainUntil
    cases hp : y.pools[pool]? with
    | none =>
      simp only [Yard.call, Yard.Call.pool, hp, Option.map_none]
      exact ih hrest
    | some p =>
      obtain ⟨p', hs, hcall⟩ := call_drain_empty hp (h pool List.mem_cons_self p hp)
      obtain ⟨⟨z, reaction⟩, hstep, heq⟩ := Option.map_eq_some_iff.mp hcall
      obtain ⟨hpools, rfl⟩ := Prod.mk.inj heq
      rw [hstep]
      refine ih fun m hm q hq => ?_
      rw [hpools] at hq
      by_cases hne : pool = m
      · subst hne
        rw [List.getElem?_set_self (List.getElem?_eq_some_iff.mp hp).1] at hq
        exact Option.some.inj hq ▸ hs
      · rw [List.getElem?_set_ne hne] at hq
        exact hrest m hm q hq

/-- Who leaves a cache with nothing to be closed comes to an end at once. The last holder has
drained its pools by then. -/
theorem leave_fresh (hn : (d.letGo n).Fresh n) (h : d.leave n outcome = some step) :
    ∃ yard, step = ({ d.letGo n with yard }, .done outcome) ∧
      ((d.letGo n).caches[n]?.map Held.holders ≠ some 0 ∧ yard = d.yard ∨
        (d.letGo n).holders n = 0 ∧ ∃ closed,
          drainUntil d.yard 0 ((d.letGo n).doomedPools n) = (yard, closed, none)) := by
  simp only [leave] at h
  split at h
  · rename_i hlast
    have hnobody : (d.letGo n).holders n = 0 := by
      rw [holders, eq_of_beq hlast]
      rfl
    simp only [drainCache, drainPools] at h
    have hstop : (drainUntil (d.letGo n).yard 0 ((d.letGo n).doomedPools n)).2.2 = none :=
      drainUntil_empty fun m hm p hp => (hn m ((doomedPools_perm _ n).mem_iff.mp hm) p hp).1
    generalize hu : drainUntil (d.letGo n).yard 0 _ = drained at h
    rw [hu] at hstop
    obtain ⟨yard, closed, stop⟩ := drained
    cases hstop
    cases h
    exact ⟨yard, rfl, .inr ⟨hnobody, closed, hu⟩⟩
  · rename_i hlast
    cases h
    exact ⟨d.yard, rfl, .inl ⟨fun hnobody => hlast (beq_iff_eq.mpr hnobody), rfl⟩⟩

theorem leave_fresh_acts (hn : (d.letGo n).Fresh n) (h : d.leave n outcome = some step) :
    Acts errand kept ⟨d, .cache n :: hand, news⟩ ⟨step.1, hand, news⟩ := by
  have hgo : Acts errand kept ⟨d, .cache n :: hand, news⟩ ⟨d.letGo n, hand, news⟩ :=
    .single .letGo
  obtain ⟨yard, rfl, ⟨-, rfl⟩ | ⟨hnobody, closed, hu⟩⟩ := leave_fresh hn h
  · exact hgo
  · -- the drains come to their end, and nothing waits for it
    have hpush : Act errand kept ⟨d.letGo n, hand, news⟩ []
        ⟨(d.letGo n).push (.draining ((d.letGo n).doomedPools n) 0 (.answer .nothing)), hand,
          news⟩ :=
      .push (f := .draining _ 0 (.answer .nothing))
        (.draining (doomedPools_perm _ n) (.inr hnobody) rfl)
    have hacts : Acts errand kept _
        ⟨push { d.letGo n with yard } (.draining [] closed (.answer .nothing)), hand, news⟩ :=
      drainUntil_acts (d := d.letGo n) hu
    have hpop : Act errand kept
        ⟨push { d.letGo n with yard } (.draining [] closed (.answer .nothing)), hand, news⟩ []
        ⟨{ d.letGo n with yard }, hand, news⟩ :=
      .pop (f := .draining [] closed (.answer .nothing)) rfl rfl
    exact hgo.trans (.head hpush (hacts.tail hpop))

theorem failed_leads {error : TenantError} (he : error.isUnplaced = false)
    (h : d.leave n (.failed error) = some step) :
    Leads errand kept ⟨d, [.cache n], news⟩ step news := by
  have hprompt : (Outcome.failed error).isPrompt = false := he
  exact leave_leads hprompt h

/-- Who opens a cache to register it is on that errand, and holds the cache alone. -/
def Purpose.Fits (errand : Errand) (d : Desk) (n : Nat) (purpose : Purpose) : Prop :=
  ∀ key, purpose = .register key → errand = .find key ∧ d.holders n = 1

theorem Purpose.Fits.begins (h : purpose.Fits errand d n) :
    purpose.things n = [] ∨ d.holders n = 1 := by
  cases purpose with
  | register key => exact .inr (h key rfl).2
  | report | explain => exact .inl rfl

/-- Of two caches for one key the one registered first stays. -/
theorem register_leads {key : Key} (he : errand = .find key) (hfresh : d.Fresh n)
    (hc : d.cache? n = some c) (ho : c.isOpen = true)
    (h : d.finish n (.ok ()) (.register key) = some step) :
    Leads errand kept ⟨d, [.cache n], news⟩ step news := by
  simp only [finish] at h
  split at h
  · -- somebody else was faster: the caller gets theirs, and the own cache goes
    rename_i stored hs
    have hhold : Acts errand kept ⟨d, [.cache n], news⟩
        ⟨d.hold stored, [.cache stored, .cache n], news⟩ :=
      .single (.hold (.inr ⟨key, hs⟩))
    have hswap : Acts errand kept ⟨d.hold stored, [.cache stored, .cache n], news⟩
        ⟨d.hold stored, [.cache n, .cache stored], news⟩ :=
      .single (.arrange (List.Perm.swap _ _ _))
    have hfresh : ((d.hold stored).letGo n).Fresh n := by
      intro m hm
      rw [poolsOf, cache?_letGo, cache?_hold] at hm
      exact hfresh m hm
    have hacts := hhold.trans (hswap.trans (leave_fresh_acts hfresh h))
    obtain ⟨yard, rfl, -⟩ := leave_fresh hfresh h
    refine ⟨.quiet hacts, rfl, ?_, ?_⟩
    · intro m hm
      cases hm
      exact ⟨key, he, hs⟩
    · intro _ _ hno
      exact absurd rfl (hno stored)
  · rename_i hs
    cases h
    have hreg : Acts errand kept ⟨d, [.cache n], news⟩ ⟨_, [], news⟩ :=
      .single (.register he hs hc ho)
    have hentry : registered? { d with registry := d.registry ++ [(key, n)] } key = some n := by
      simp only [registered?, List.lookup_append] at hs ⊢
      simp [hs]
    refine ⟨.quiet (hreg.trans (.single (.hold (.inr ⟨key, hentry⟩)))), rfl, ?_, ?_⟩
    · intro m hm
      cases hm
      exact ⟨key, he, hentry⟩
    · intro _ _ hno
      exact absurd rfl (hno n)

theorem finish_leads {result : Except TenantError Unit}
    (he : purpose.Fits errand d n)
    (hok : result = .ok () → ∀ key, purpose = .register key →
      d.Fresh n ∧ ∃ c, d.cache? n = some c ∧ c.isOpen = true)
    (herror : ∀ error, result = .error error → error.isUnplaced = false)
    (h : d.finish n result purpose = some step) :
    Leads errand kept ⟨d, purpose.things n, news⟩ step news := by
  cases purpose with
  | report =>
    cases result with
    | ok u =>
      cases h
      exact leads_done .refl rfl fun key _ => rfl
    | error fault =>
      cases h
      exact leads_done (acts_note _) rfl fun key _ => rfl
  | explain =>
    cases result with
    | ok u =>
      cases h
      exact leads_done .refl rfl fun key _ => rfl
    | error fault =>
      cases h
      exact leads_done .refl (herror fault rfl) fun key _ => rfl
  | register key =>
    cases result with
    | ok u =>
      obtain ⟨hfresh, c, hc, ho⟩ := hok rfl key rfl
      exact register_leads (he key rfl).1 hfresh hc ho h
    | error fault => exact failed_leads (herror fault rfl) h

theorem Unopened.record (h : Unopened d n c) (version : IdentityVersion)
    (result : Except CatalogError Snapshot) : Unopened (d.record version result) n c := by
  cases result <;> exact h.congr rfl rfl

theorem cache?_openTenant (hc : d.cache? n = some c) (catalog : Catalog) (bounds : PoolBounds)
    (s : Snapshot) (project : Project) (m : Nat) :
    (d.openTenant n c catalog bounds s project).cache? m = if n = m then some { c with
      opened := some ⟨project, catalog.publish s,
        s.regions.zip (List.range' d.yard.pools.length s.regions.length)⟩ } else d.cache? m := by
  have hyard : cache? { d with
      yard := (s.regions.map (c.newPool bounds project.name)).foldl Yard.addPool d.yard
      owners := d.owners ++ s.regions.map fun _ => n } n = some c := hc
  exact cache?_setCache hyard _ m

theorem poolsOf_openTenant (hc : d.cache? n = some c) (catalog : Catalog) (bounds : PoolBounds)
    (s : Snapshot) (project : Project) :
    (d.openTenant n c catalog bounds s project).poolsOf n =
      List.range' d.yard.pools.length s.regions.length := by
  rw [poolsOf, cache?_openTenant hc, if_pos rfl, Option.map_some, Option.getD_some,
    poolNumbers_opened]

/-- The pools of a tenant that has just been opened are open and empty. -/
theorem fresh_openTenant (hc : d.cache? n = some c) (catalog : Catalog) (bounds : PoolBounds)
    (s : Snapshot) (project : Project) : (d.openTenant n c catalog bounds s project).Fresh n := by
  intro m hm p hp
  rw [poolsOf_openTenant hc] at hm
  rw [pools_openTenant, List.getElem?_append_right (List.mem_range'_1.mp hm).1,
    List.getElem?_map] at hp
  obtain ⟨region, -, rfl⟩ := Option.map_eq_some_iff.mp hp
  exact ⟨rfl, rfl⟩

/-- With an answer an initialization fails, or it waits for another attempt, or the cache is open.
-/
theorem judge_cases {result : Except CatalogError Snapshot}
    (h : d.judge n c bounds catalog tries purpose result = some step) :
    (∃ error, result = .error error ∧ (d.record catalog.version result).finish n
      (.error (.initFailed ⟨error, tries⟩)) purpose = some step) ∨
    (∃ error wait, result = .error error ∧ tries < c.provider.retry.policy.limit ∧
      step = ((d.record catalog.version result).push (.sleeping n catalog (tries + 1) purpose),
        .sleep wait)) ∨
    ∃ s, result = .ok s ∧ ((d.record catalog.version result).openTenant n c catalog bounds s
      (s.project?.getD ⟨"", c.requested⟩)).finish n (.ok ()) purpose = some step := by
  unfold judge at h
  cases result with
  | ok s => exact .inr (.inr ⟨s, rfl, h⟩)
  | error error =>
    split at h
    · rename_i failure hj
      obtain ⟨_, heq, rfl⟩ := RetryPolicy.error_of_judge_gaveUp hj
      cases heq
      exact .inl ⟨error, rfl, h⟩
    · rename_i wait next hj
      obtain ⟨hlt, rfl⟩ := RetryPolicy.lt_of_judge_again hj
      exact .inr (.inl ⟨error, wait, rfl, hlt, (Option.some.inj h).symm⟩)
    · rename_i s hj
      cases RetryPolicy.ok_of_judge_succeeded hj

theorem judge_leads {result : Except CatalogError Snapshot} (hu : Unopened d n c)
    (he : purpose.Fits errand d n)
    (hb : c.provider.pool.bounds = .ok bounds)
    (h : d.judge n c bounds catalog tries purpose result = some step) :
    Leads errand kept ⟨d, purpose.things n, news⟩ step
      ((result.toOption.map (n, ·)).toList ++ news) := by
  have hrec : Acts errand kept ⟨d, purpose.things n, news⟩ ⟨_, purpose.things n, news⟩ :=
    acts_record catalog.version result
  have hu := hu.record catalog.version result
  have he : purpose.Fits errand (d.record catalog.version result) n := by
    cases result <;> exact he
  obtain ⟨error, rfl, h⟩ | ⟨error, wait, rfl, -, rfl⟩ | ⟨s, rfl, h⟩ := judge_cases h
  · exact (finish_leads he (by simp) (by simp [TenantError.isUnplaced]) h).after hrec
      fun key _ => rfl
  · have hbegins : Begins _ (.sleeping n catalog (tries + 1) purpose) :=
      .opening rfl hu he.begins
    exact leads_ask (.quiet (hrec.trans (acts_push hbegins))) (by simp) fun key _ => rfl
  · have hc := (cache?_openTenant hu.1 catalog bounds s
      (s.project?.getD ⟨"", c.requested⟩) n).trans (if_pos rfl)
    refine (finish_leads ?_ (fun _ _ _ => ⟨?_, _, hc, rfl⟩) (by simp) h).after
      (hrec.tail (.openTenant hu hb)) fun key _ => rfl
    · intro key hk
      exact ⟨(he key hk).1, (holders_setCache ..).trans (he key hk).2⟩
    · exact fresh_openTenant hu.1 catalog bounds s _

theorem attempt_leads (hu : Unopened d n c) (he : purpose.Fits errand d n)
    (hb : c.provider.pool.bounds = .ok bounds)
    (h : d.attempt n c bounds catalog tries purpose = some step) :
    Leads errand kept ⟨d, purpose.things n, news⟩ step news := by
  have hcount : Acts errand kept ⟨d, purpose.things n, news⟩
      ⟨d.count (.initAttempts c.provider.name), purpose.things n, news⟩ := .single (.count _)
  have hu : Unopened (d.count (.initAttempts c.provider.name)) n c := hu.congr rfl rfl
  have he : purpose.Fits errand (d.count (.initAttempts c.provider.name)) n := he
  unfold attempt at h
  split at h
  · exact (judge_leads hu he hb h).after hcount fun key _ => rfl
  · cases h
    have hbegins : Begins _ (.authenticating n catalog tries purpose) := .opening rfl hu he.begins
    exact leads_ask (.quiet (hcount.trans (acts_push hbegins))) (by simp) fun key _ => rfl

theorem startInit_leads (hc : d.cache? n = some c) (hn : c.opened = none → n ∉ d.openings)
    (he : purpose.Fits errand d n) (hr : ∀ key, purpose = .register key → c.opened = none)
    (h : d.startInit n c purpose = some step) :
    Leads errand kept ⟨d, purpose.things n, news⟩ step news := by
  unfold startInit at h
  split at h
  · rename_i ho
    refine finish_leads he (fun _ key hk => ?_) (by simp) h
    simp [TenantCache.isOpen, hr key hk] at ho
  · rename_i ho
    have hopened : c.opened = none := by simpa [TenantCache.isOpen] using ho
    split at h
    · exact finish_leads he (by simp) (by simp [TenantError.isUnplaced]) h
    · rename_i bounds hb
      split at h
      · have hnoted : purpose.Fits errand (d.note .unsupportedVersion) n := he
        exact (finish_leads hnoted (by simp) (by simp [TenantError.isUnplaced]) h).after
          (acts_note _) fun key _ => rfl
      · exact attempt_leads ⟨hc, hopened, hn hopened⟩ he hb h

end Tenancy.Desk
