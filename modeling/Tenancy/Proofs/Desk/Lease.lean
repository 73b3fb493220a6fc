import Tenancy.Proofs.Desk.Run
import Tenancy.Proofs.Yard.Loans

namespace Tenancy

namespace Yard

variable {n created created' : Nat} {p p' : Pool} {d : Deed} {x : Reaction} {new : List Task}
  {es : List Event}

/-- How often the pool of that lease has lent it and did not get it back. -/
def lentOut (es : List Event) (lease : Lease) : Nat :=
  (loans (es.filter fun e => e.deed.pool == lease.pool)).count ⟨.lease, lease⟩

/-- A step that gives no lease back takes none off. -/
theorem count_settle {e : Event} (he : ∀ m lease, e.deed ≠ .call (.release m lease))
    (xs : List Loan) (lease : Lease) :
    (e.settle xs).count ⟨.lease, lease⟩ = xs.count ⟨.lease, lease⟩ := by
  obtain ⟨deed, next, reaction⟩ := e
  cases deed with
  | call c =>
    cases c with
    | release m lease => exact absurd rfl (he m lease)
    | _ => rfl
  | answer task r =>
    cases task with
    | holding m slot =>
      obtain heq | ⟨guard, before, after, -, hg, hsplit, heq⟩ :=
        xs.exists_or_eq_self_of_eraseP fun x => x.use == .checkout && x.lease.slot == slot
      · exact congrArg (List.count _) heq
      · have hne : (guard == (⟨.lease, lease⟩ : Loan)) = false := by
          apply beq_false_of_ne
          rintro rfl
          cases hg
        change (xs.eraseP _).count _ = _
        rw [heq, hsplit, List.count_append, List.count_append, List.count_cons, hne]
        simp
    | _ => rfl

theorem count_loan? (d : Deed) (next : Nat) (x : Reaction) (lease : Lease) :
    (Event.loan? ⟨d, next, x⟩).toList.count ⟨.lease, lease⟩ = x.things.count (.lease lease) := by
  cases x with
  | done outcome =>
    cases outcome with
    | leased l => simp [Event.loan?, Reaction.things, List.count_cons]
    | _ => rfl
  | work l => simp [Event.loan?, Reaction.things]
  | _ => rfl

/-- What a step hands out is lent from then on. -/
theorem Turn.lentOut (h : Turn d.pool created p d x p' new created')
    (hd : ∀ m lease, d ≠ .call (.release m lease)) (es : List Event) (lease : Lease) :
    lentOut (⟨d, created, x⟩ :: es) lease = x.things.count (.lease lease) + lentOut es lease := by
  by_cases hp : d.pool = lease.pool
  · rw [Yard.lentOut, List.filter_cons_of_pos (by simpa using hp), loans, List.count_append,
      count_settle hd, count_loan?]
    rfl
  · rw [Yard.lentOut, List.filter_cons_of_neg (by simpa using hp)]
    have hnone : x.things.count (.lease lease) = 0 := by
      apply List.count_eq_zero.mpr
      intro hm
      obtain rfl : x = .done (.leased lease) := by
        unfold Reaction.things at hm
        split at hm
        · simpa [eq_comm] using hm
        · cases hm
      exact hp (h.loan (x := ⟨.lease, lease⟩) rfl es).1.symm
    rw [hnone, Nat.zero_add]
    rfl

theorem lentOut_release (es : List Event) (lease l : Lease) (created : Nat) :
    lentOut (⟨.call (.release lease.pool lease), created, .done .returned⟩ :: es) l =
      lentOut es l - if lease = l then 1 else 0 := by
  by_cases hp : lease.pool = l.pool
  · have hloans (es : List Event) : loans (⟨.call (.release lease.pool lease), created,
        .done .returned⟩ :: es) = (loans es).erase ⟨.lease, lease⟩ := if_pos rfl
    rw [lentOut, List.filter_cons_of_pos (by simpa [Deed.pool, Call.pool] using hp), hloans,
      List.count_erase]
    simp [lentOut]
  · have hne : lease ≠ l := fun h => hp (h ▸ rfl)
    rw [lentOut, List.filter_cons_of_neg (by simpa [Deed.pool, Call.pool] using hp), if_neg hne]
    rfl

end Yard

namespace Desk

variable {errand : Errand} {kept kept' hand hand' : List Thing} {d : Desk}
  {news : List (Nat × Snapshot)} {entries : List Entry} {x y : Scene} {es : List Yard.Event}

/-- The yard has taken those steps, and every lease that somebody has is lent in them, as often as
there is one. -/
structure BackedBy (es : List Yard.Event) (kept : List Thing) (x : Scene) : Prop where
  followed : (⟨x.desk.yard, es⟩ : Yard.History).Followed
  lent : ∀ lease,
    (kept ++ x.hand ++ x.desk.waiting).count (.lease lease) ≤ Yard.lentOut es lease

/-- Every lease that somebody has is lent. -/
def Backed (kept : List Thing) (x : Scene) : Prop := ∃ es, BackedBy es kept x

theorem BackedBy.move (h : (kept ++ hand).Perm (kept' ++ hand'))
    (hb : BackedBy es kept ⟨d, hand, news⟩) : BackedBy es kept' ⟨d, hand', news⟩ := by
  refine ⟨hb.followed, fun lease => ?_⟩
  rw [List.count_append, ← h.count_eq, ← List.count_append]
  exact hb.lent lease

theorem Backed.move (h : (kept ++ hand).Perm (kept' ++ hand')) (hb : Backed kept ⟨d, hand, news⟩) :
    Backed kept' ⟨d, hand', news⟩ := by
  obtain ⟨es, hb⟩ := hb
  exact ⟨es, hb.move h⟩

/-- The yard stays as it is, and nobody has more leases than before. -/
theorem BackedBy.same {d' : Desk} {news' : List (Nat × Snapshot)}
    (hb : BackedBy es kept ⟨d, hand, news⟩) (hp : d'.yard.pools = d.yard.pools)
    (hc : d'.yard.created = d.yard.created) (ht : d'.yard.tasks = d.yard.tasks)
    (hl : ∀ lease, (hand' ++ d'.waiting).count (.lease lease) ≤
      (hand ++ d.waiting).count (.lease lease)) : BackedBy es kept ⟨d', hand', news'⟩ := by
  refine ⟨hb.followed.congr hp hc ht, fun lease => ?_⟩
  have hnow := hl lease
  have hbefore := hb.lent lease
  simp only [List.count_append] at hnow hbefore ⊢
  omega

/-- A step of the yard hands out what it lends. -/
theorem BackedBy.step {deed : Yard.Deed} {yard : Yard} {reaction : Yard.Reaction}
    (hb : BackedBy es kept ⟨d, hand, news⟩) (hd : ∀ m lease, deed ≠ .call (.release m lease))
    (h : d.yard.Does deed (yard, reaction)) :
    BackedBy (⟨deed, d.yard.created, reaction⟩ :: es) kept
      ⟨{ d with yard }, reaction.things ++ hand, news⟩ := by
  obtain ⟨hf, hlent⟩ := hb
  obtain ⟨rest, ht, hs⟩ := h.stride
  -- only who gives a lease back has to have it
  have hfair : Yard.Deed.Fair ((⟨d.yard, es⟩ : Yard.History).eventsOf deed.pool) deed := by
    cases deed with
    | call c =>
      cases c with
      | release m lease => exact absurd rfl (hd m lease)
      | _ => trivial
    | answer task r => trivial
  refine ⟨Yard.History.followed_record hf (List.Perm.of_eq ht) hfair hs, fun lease => ?_⟩
  obtain ⟨p, p', new, -, turn, -, -⟩ := hs
  have hnow : Yard.lentOut (⟨deed, d.yard.created, reaction⟩ :: es) lease =
      reaction.things.count (.lease lease) + Yard.lentOut es lease := turn.lentOut hd es lease
  have hbefore := hlent lease
  simp only [List.count_append] at hbefore ⊢
  change _ + (_ + _) + d.waiting.count _ ≤ _
  rw [hnow]
  omega

theorem BackedBy.giveBack {lease : Lease} {yard : Yard} {reaction : Yard.Reaction}
    (hb : BackedBy es kept ⟨d, .lease lease :: hand, news⟩)
    (h : d.yard.call (.release lease.pool lease) = some (yard, reaction)) :
    BackedBy (⟨.call (.release lease.pool lease), d.yard.created, .done .returned⟩ :: es) kept
      ⟨{ d with yard }, hand, news⟩ := by
  obtain ⟨hf, hlent⟩ := hb
  have hfair : Yard.Deed.Fair ((⟨d.yard, es⟩ : Yard.History).eventsOf lease.pool)
      (.call (.release lease.pool lease)) := by
    intro _
    have hcount := hlent lease
    simp only [List.count_append, List.count_cons_self] at hcount
    exact List.count_pos_iff.mp (show 0 < Yard.lentOut es lease by omega)
  obtain rfl := release_things h
  refine ⟨Yard.History.followed_record (d := .call (.release lease.pool lease)) hf
    (List.Perm.refl d.yard.tasks) hfair (Yard.call_stride h), fun l => ?_⟩
  have hnow := Yard.lentOut_release es lease l d.yard.created
  have hbefore := hlent l
  simp only [List.count_append, List.count_cons, beq_iff_eq, Thing.lease.injEq] at hbefore ⊢
  change _ + _ + d.waiting.count _ ≤ _
  rw [hnow]
  change _ + (_ + _) + d.waiting.count _ ≤ _ at hbefore
  omega

/-- Frames without a lease may come and go. -/
theorem BackedBy.refit {frames : List Frame} (hb : BackedBy es kept ⟨d, hand, news⟩)
    (hw : frames.flatMap Frame.things = d.waiting) :
    BackedBy es kept ⟨{ d with frames }, hand, news⟩ :=
  hb.same rfl rfl rfl fun lease => by
    change (hand ++ frames.flatMap Frame.things).count _ ≤ _
    exact Nat.le_of_eq (by rw [hw])

/-- Every change keeps leases backed, and the yard takes at most further steps in it. -/
theorem Act.backedBy (h : Act errand kept x entries y) (hb : BackedBy es kept x) :
    ∃ es', es <:+ es' ∧ BackedBy es' kept y := by
  have hsame {y : Scene} (hb : BackedBy es kept y) : ∃ es', es <:+ es' ∧ BackedBy es' kept y :=
    ⟨es, List.suffix_refl es, hb⟩
  cases h with
  | arrange hperm => exact hsame (hb.move (hperm.append_left kept))
  | reorder | note | count | register | hold | letGo | add | publish =>
    exact hsame (hb.same rfl rfl rfl fun lease => by
      simp [waiting, Desk.reorder, Desk.note, Desk.count, Desk.hold, Desk.letGo, Desk.add, setCache])
  | lose lease =>
    exact hsame (hb.same rfl rfl rfl fun l => (List.sublist_cons_self _ _).count_le _)
  | @work d hand news deed yard reaction frames made _ hd h hshift =>
    have hstep := (hb.step hd.1 h).refit hshift.idle.1
    exact ⟨_, List.suffix_cons _ _, hstep.same rfl rfl rfl fun lease => Nat.le_refl _⟩
  | giveBack h => exact ⟨_, List.suffix_cons _ _, hb.giveBack h⟩
  | recount hf | connect hf | abandon hf =>
    refine hsame (hb.same rfl rfl rfl fun lease => ?_)
    simp [waiting, hf, Frame.things]
  | push =>
    refine hsame (hb.same rfl rfl rfl fun lease => ?_)
    simp only [waiting_push, List.count_append]
    omega
  | @pop d hand _ f frames hf =>
    refine hsame (hb.same rfl rfl rfl fun lease => ?_)
    simp only [waiting, hf, List.flatMap_cons, List.count_append]
    omega
  | unregister _ _ _ _ ha =>
    refine hsame (hb.same rfl rfl rfl fun lease => ?_)
    simp [waiting, Desk.push, Frame.things, ha.fits.1]
  | @openTenant d hand news n c catalog bounds s project hn hbounds =>
    refine hsame ⟨Yard.History.Followed.addPools hb.followed ?_, hb.lent⟩
    intro p hp
    obtain ⟨region, -, rfl⟩ := List.mem_map.mp hp
    simp only [Pool.of?, TenantCache.newPool, PoolBounds.check_of_ok hbounds]
    rfl

theorem Act.backed (h : Act errand kept x entries y) (hb : Backed kept x) : Backed kept y := by
  obtain ⟨es, hb⟩ := hb
  obtain ⟨es', -, hb'⟩ := h.backedBy hb
  exact ⟨es', hb'⟩

variable {n : Nat} {lease : Lease} {p : Pool} {c : TenantCache} {region : String}

/-- A release on a pool of a cache that somebody else holds as well comes to its end at once. -/
theorem onPool_release (hn : 0 < d.holders n) (hp : d.yard.pools[lease.pool]? = some p) :
    d.onPool n (.ok lease.pool) (fun pool => .release pool lease) =
      some ({ d with yard := d.yard.giveBack lease.pool p lease.slot }, .done .nothing) := by
  have hcall : d.yard.call (.release lease.pool lease) =
      some (d.yard.giveBack lease.pool p lease.slot, .done .returned) := by
    simp [Yard.call, Yard.Call.pool, Yard.start, hp]
  have hyard : ((d.hold n).push (.inPool n)).yard.call (.release lease.pool lease) = _ := hcall
  simp only [onPool, callYard, hyard]
  exact leave_hold (d := { d with yard := d.yard.giveBack lease.pool p lease.slot }) hn .nothing

theorem release_home (hn : 0 < d.holders n) (hp : d.yard.pools[lease.pool]? = some p)
    (hm : lease.pool ∈ c.poolNumbers) (hr : region ∈ c.regions) :
    ∃ d', d.release n c region lease = some (d', .done .nothing) ∧
      d'.yard.pools = d.yard.pools.set lease.pool (p.takeBack lease.slot) := by
  obtain ⟨named, hnamed⟩ := TenantCache.exists_poolOf_iff.mpr hr
  obtain ⟨-, -, hpools⟩ := Yard.giveBack_fields hp lease.slot
  by_cases hown : lease.pool = named
  · subst hown
    refine ⟨{ d with yard := d.yard.giveBack lease.pool p lease.slot }, ?_, hpools⟩
    simp only [release, hnamed, ↓reduceIte]
    exact onPool_release hn hp
  · have hp' : (d.note .wrongRegion).yard.pools[lease.pool]? = some p := hp
    obtain ⟨-, -, hpools⟩ := Yard.giveBack_fields hp' lease.slot
    refine ⟨{ d with yard := (d.note .wrongRegion).yard.giveBack lease.pool p lease.slot }, ?_,
      hpools⟩
    simp only [release, hnamed, hown, ↓reduceIte, List.contains_iff_mem.mpr hm]
    exact onPool_release (d := d.note .wrongRegion) hn hp'

/-- Nobody takes a lease back under a region that the tenant has no pool for. -/
theorem release_lost (ho : c.isOpen = true) (hr : region ∉ c.regions) :
    d.release n c region lease = some (d, .done (.failed (.unknownRegion region))) := by
  simp only [release, TenantCache.poolOf_unknown ho hr]

namespace History

variable {s s' : History} {moves : List Move} {providers : List Config.Provider}

theorem backed_start (providers : List Config.Provider) : Backed [] ⟨{ providers }, [], []⟩ :=
  ⟨[], Yard.History.followed_start, fun _ => Nat.zero_le _⟩

theorem backed_of_run (hs : run providers moves = some s) :
    Backed s.kept ⟨s.desk, [], s.news⟩ :=
  runFrom_keeps (s := ⟨{ providers }, []⟩) (fun h _ => h.backed) Backed.move
    (backed_start providers) (sound_start providers) hs

/-- Whoever has a lease of a pool has a slot that is on loan there, up to the drain of the pool. -/
theorem lease_on_loan (hs : run providers moves = some s) (hl : .lease lease ∈ s.kept) :
    ∃ p, s.desk.yard.pools[lease.pool]? = some p ∧ (p.loaned.map Slot.id).Nodup ∧
      (p.drained = false → ⟨lease.slot, lease.resource⟩ ∈ p.loaned) := by
  obtain ⟨es, hf, hlent⟩ := backed_of_run hs
  have hpos := hlent lease
  have hkept := List.count_pos_iff.mpr hl
  simp only [List.count_append] at hpos
  have hm : ⟨.lease, lease⟩ ∈
      Yard.loans ((⟨s.desk.yard, es⟩ : Yard.History).eventsOf lease.pool) :=
    List.count_pos_iff.mp (show 0 < Yard.lentOut es lease by omega)
  by_cases hlt : lease.pool < s.desk.yard.pools.length
  · have hcourse := hf.1 lease.pool _ (List.getElem?_eq_getElem hlt)
    refine ⟨_, List.getElem?_eq_getElem hlt, hcourse.numbered.loaned_distinct, fun hd => ?_⟩
    exact ((hcourse.loans_apart hd).1 _ hm).1
  · -- a pool that is not there has lent nothing
    rw [(hf.2 _ (Nat.le_of_not_lt hlt)).2] at hm
    cases hm

theorem allows_release (hs : Sound s.kept ⟨s.desk, [], s.news⟩) (hc : s.desk.cache? n = some c)
    (hk : .cache n ∈ s.kept) (hl : .lease lease ∈ s.kept) (ho : c.isOpen = true) (region : String) :
    s.allows (.release n region lease) = true := by
  simp [allows, Call.cache?, Call.things, hk, hl, not_opening hs hc ho]

/-- Under every region that the tenant has a pool for, a lease goes back to the pool that lent it,
and no other pool changes. Under any other name it goes nowhere: the desk stays as it is, and the
slot on loan. -/
theorem lease_goes_home (hs : run providers moves = some s) (hc : s.desk.cache? n = some c)
    (hk : .cache n ∈ s.kept) (hl : .lease lease ∈ s.kept) (hm : lease.pool ∈ c.poolNumbers) :
    ∃ p, s.desk.yard.pools[lease.pool]? = some p ∧ (p.drained = false →
      ⟨lease.slot, lease.resource⟩ ∈ p.loaned ∧ ∀ region,
        (region ∈ c.regions → ∃ s',
          s.Takes (.call (.release n region lease)) (.done .nothing) s' ∧
          s'.desk.yard.pools = s.desk.yard.pools.set lease.pool { p with
            free := ⟨lease.slot, lease.resource⟩ :: p.free
            loaned := p.loaned.filter (·.id != lease.slot) }) ∧
        (region ∉ c.regions → ∃ s',
          s.Takes (.call (.release n region lease)) (.done (.failed (.unknownRegion region))) s' ∧
          s'.desk = s.desk)) := by
  have hsound := sound_of_run hs
  obtain ⟨p, hp, hdistinct, hloaned⟩ := lease_on_loan hs hl
  refine ⟨p, hp, fun hd => ⟨hloaned hd, fun region => ?_⟩⟩
  have hpos := hsound.holds (List.mem_append_left _ (List.mem_append_left _ hk))
  have hopen : c.isOpen = true := c.isOpen_of_poolNumbers hm
  have ha := allows_release hsound hc hk hl hopen region
  have hback : p.takeBack lease.slot = _ := Pool.takeBack_of_mem hdistinct (hloaned hd)
  constructor
  · intro hr
    obtain ⟨d', hd', hpools⟩ := release_home hpos hp hm hr
    have hcall : s.desk.call (.release n region lease) = some (d', .done .nothing) := by
      simpa [Desk.call, hc] using hd'
    exact ⟨_, takes_call ha hcall, hpools.trans (by rw [hback])⟩
  · intro hr
    have hcall : s.desk.call (.release n region lease) =
        some (s.desk, .done (.failed (.unknownRegion region))) := by
      simpa [Desk.call, hc] using release_lost hopen hr
    exact ⟨_, takes_call ha hcall, rfl⟩

/-- One of two regions' pools has lent a connection. -/
def reserving : List Move :=
  opening ["east", "west"] ++ [.call (.reserve 0 "east"), .reply .succeeded, .reply .succeeded]

theorem exists_reserving : ∃ s c p, run [] reserving = some s ∧ s.desk.cache? 0 = some c ∧
    s.kept = [.lease ⟨0, 0, 0⟩, .cache 0] ∧ c.regions = ["east", "west"] ∧
    c.poolNumbers = [0, 1] ∧ s.desk.yard.pools[0]? = some p ∧ p.drained = false ∧
    p.free = [] ∧ p.loaned = [⟨0, 0⟩] := by
  have hdesk : (run [] reserving).map (fun s => (s.kept,
      (s.desk.cache? 0).map fun c => (c.regions, c.poolNumbers))) =
      some ([.lease ⟨0, 0, 0⟩, .cache 0], some (["east", "west"], [0, 1])) := by
    decide +kernel
  have hyard : (run [] reserving).bind (fun s =>
      s.desk.yard.pools[0]?.map fun p => (p.drained, p.free, p.loaned)) =
      some (false, [], [⟨0, 0⟩]) := by
    decide +kernel
  obtain ⟨s, hs, hdesk⟩ := Option.map_eq_some_iff.mp hdesk
  simp only [Prod.mk.injEq, Option.map_eq_some_iff] at hdesk
  obtain ⟨hkept, c, hc, hregions, hpools⟩ := hdesk
  simp only [hs, Option.bind_some, Option.map_eq_some_iff, Prod.mk.injEq] at hyard
  obtain ⟨p, hp, hd, hf, hl⟩ := hyard
  exact ⟨s, c, p, hs, hc, hkept, hregions, hpools, hp, hd, hf, hl⟩

theorem lease_goes_home_reserving : ∃ s s' p, run [] reserving = some s ∧
    s.desk.yard.pools[0]? = some p ∧ p.loaned = [⟨0, 0⟩] ∧
    s.Takes (.call (.release 0 "west" ⟨0, 0, 0⟩)) (.done .nothing) s' ∧
    s'.desk.yard.pools = s.desk.yard.pools.set 0 { p with free := [⟨0, 0⟩], loaned := [] } := by
  obtain ⟨s, c, p, hs, hc, hkept, hregions, hpools, hp, hd, hf, hl⟩ := exists_reserving
  have hkept : .cache 0 ∈ s.kept ∧ .lease ⟨0, 0, 0⟩ ∈ s.kept := by simp [hkept]
  obtain ⟨q, hq, hhome⟩ := lease_goes_home hs hc hkept.1 hkept.2 (by simp [hpools])
  obtain rfl := Option.some.inj (hp.symm.trans hq)
  obtain ⟨s', hstep, hset⟩ := ((hhome hd).2 "west").1 (by simp [hregions])
  rw [hf, hl] at hset
  exact ⟨s, s', p, hs, hp, hl, hstep, hset⟩

/-- Released under a name that is no region of the tenant, a lease is gone, and its slot stays on
loan. -/
theorem lease_lost_unknown_region : ∃ s s' c p, run [] reserving = some s ∧
    s.desk.cache? 0 = some c ∧ c.isOpen = true ∧ .lease ⟨0, 0, 0⟩ ∈ s.kept ∧ 0 ∈ c.poolNumbers ∧
    s.Takes (.call (.release 0 "north" ⟨0, 0, 0⟩)) (.done (.failed (.unknownRegion "north"))) s' ∧
    .lease ⟨0, 0, 0⟩ ∉ s'.kept ∧ s'.desk.yard.pools[0]? = some p ∧ p.drained = false ∧
    ⟨0, 0⟩ ∈ p.loaned ∧ p.free = [] := by
  obtain ⟨s, c, p, hs, hc, hkept, hregions, hpools, hp, hd, hf, hl⟩ := exists_reserving
  have hopen : c.isOpen = true := TenantCache.isOpen_of_poolNumbers (n := 0) (by simp [hpools])
  have hlease : .lease ⟨0, 0, 0⟩ ∈ s.kept := by simp [hkept]
  have ha := allows_release (sound_of_run hs) hc (by simp [hkept]) hlease hopen "north"
  have hcall : s.desk.call (.release 0 "north" ⟨0, 0, 0⟩) =
      some (s.desk, .done (.failed (.unknownRegion "north"))) := by
    simpa [Desk.call, hc] using release_lost hopen (by simp [hregions])
  have hgone : .lease ⟨0, 0, 0⟩ ∉ (s.record (.call (.release 0 "north" ⟨0, 0, 0⟩))
      (s.desk, .done (.failed (.unknownRegion "north")))).kept := by
    change _ ∉ [] ++ s.kept.diff [.lease ⟨0, 0, 0⟩]
    rw [hkept]
    decide
  exact ⟨s, _, c, p, hs, hc, hopen, hlease, by simp [hpools], takes_call ha hcall, hgone,
    hp, hd, by simp [hl], hf⟩

end History
end Desk
end Tenancy
