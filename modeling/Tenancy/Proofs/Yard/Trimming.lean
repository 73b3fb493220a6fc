import Tenancy.Proofs.Yard.Recency

namespace Tenancy

namespace Pool

variable {p : Pool} {count : Nat}

/-- The pool after its last `count` free resources were taken out, or all if it has fewer. -/
def without (p : Pool) (count : Nat) : Pool :=
  { p with free := p.free.take (p.free.length - count) }

/-- The last `count` free resources, the one that came back first at the head. -/
def oldest (p : Pool) (count : Nat) : List Slot := (p.free.drop (p.free.length - count)).reverse

theorem trim_eq (p : Pool) (count : Nat) : p.trim count = (p.oldest count, p.without count) := rfl

@[simp] theorem without_zero (p : Pool) : p.without 0 = p := by
  simp [without]

@[simp] theorem oldest_zero (p : Pool) : p.oldest 0 = [] := by
  simp [oldest]

/-- More than there are is as good as all. -/
theorem length_sub_min (p : Pool) (count : Nat) :
    p.free.length - min count p.free.length = p.free.length - count := by
  omega

theorem without_min (p : Pool) (count : Nat) :
    p.without (min count p.free.length) = p.without count := by
  rw [without, length_sub_min, without]

theorem oldest_min (p : Pool) (count : Nat) :
    p.oldest (min count p.free.length) = p.oldest count := by
  rw [oldest, length_sub_min, oldest]

theorem live_without (p : Pool) (count : Nat) :
    (p.without count).live = p.free.length - count + p.loaned.length := by
  simp only [without, live, List.length_take]
  omega

theorem excess_eq (p : Pool) : p.excess = min (p.live - p.bounds.minSize) p.free.length := rfl

/-- Shrinking stops at the least size, or where everything left is on loan. -/
theorem live_shrunk (h : p.bounds.minSize < p.live) :
    (p.without p.excess).live = max p.bounds.minSize p.loaned.length := by
  have hlive : p.live = p.free.length + p.loaned.length := rfl
  rw [live_without, excess_eq]
  omega

theorem excess_of_small (h : p.live ≤ p.bounds.minSize) : p.excess = 0 := by
  rw [excess_eq, Nat.sub_eq_zero_of_le h, Nat.zero_min]

theorem excess_shrunk (p : Pool) : (p.without p.excess).excess = 0 := by
  have hlive : p.live = p.free.length + p.loaned.length := rfl
  have hfree : (p.without p.excess).free.length = p.free.length - p.excess := by
    simp [without]
  have hbounds : (p.without p.excess).bounds = p.bounds := rfl
  rw [excess_eq (p.without p.excess), hfree, live_without, hbounds]
  rw [excess_eq]
  omega

end Pool

namespace Yard.History

variable {n k count total : Nat} {p : Pool} {s s' u v : History} {c : Call} {rest resources : List Nat}
  {reply : Reply} {r : Reaction} {ts : List Task} {moves : List Move}

/-- The call, and then that many replies at once to what it asks for. -/
def atOnce (c : Call) (k : Nat) : List Move := .call c :: List.replicate k (.answer 0 .destroyed)

/-- Going on with the giving up of resources leaves every pool as it is. -/
theorem Takes.destroying (h : s.Takes (.answer (.destroying n rest total) reply) r s') :
    s'.yard.pools = s.yard.pools := by
  obtain ⟨i, q, -, hq, hstep⟩ := h.resumed
  cases reply with
  | destroyed =>
    simp only [resume, destroyNext_eq, Option.some.injEq, Prod.mk.injEq] at hstep
    rw [← hstep.1]
  | made | nothing | finished | unwind => simp [resume] at hstep

/-- Replies at once bring the giving up to its end. -/
theorem answers_destroying (hp : s.yard.pools[n]? = some p)
    (ht : s.yard.tasks = (giving n total resources).2 ++ ts)
    (hr : s.events.head?.map Event.reaction = some (giving n total resources).1) :
    ∃ s', s.runFrom (List.replicate resources.length (.answer 0 .destroyed)) = some s' ∧
      s'.yard.pools = s.yard.pools ∧ s'.yard.tasks = ts ∧
      s'.events.head?.map Event.reaction = some (.done (.counted total)) := by
  induction resources generalizing s with
  | nil => exact ⟨s, rfl, rfl, ht, hr⟩
  | cons resource rest ih =>
    have htop : s.yard.tasks = .destroying n rest total :: ts := ht
    have hadvance : s.advance (.answer 0 .destroyed) =
        some (s.record (.answer (.destroying n rest total) .destroyed)
          (destroyNext { s.yard with tasks := ts } n total rest)) := by
      simp [advance, answer, htop, Task.pool, hp, resume]
    obtain ⟨s', hs', hpools, htasks, hdone⟩ :=
      ih (s := s.record (.answer (.destroying n rest total) .destroyed)
          (destroyNext { s.yard with tasks := ts } n total rest))
        (by simpa [record, destroyNext_eq] using hp) (by simp [record, destroyNext_eq])
        (by simp [record, destroyNext_eq])
    refine ⟨s', ?_, ?_, htasks, hdone⟩
    · rw [List.length_cons, List.replicate_succ]
      simpa [runFrom, hadvance] using hs'
    · rw [hpools]
      simp [record, destroyNext_eq]

/-- The call takes `k` free resources out of pool `n`, those that came back first, and gives up each
of them once. Whatever goes on between its steps, by itself it leaves all else as it is. -/
structure TakesOut (n k : Nat) (p : Pool) (s : History) (c : Call) : Prop where
  begins : ∃ r s₁, s.Takes (.call c) r s₁
  unlinks : ∀ r s₁, s.Takes (.call c) r s₁ →
    s₁.yard.pools = s.yard.pools.set n (p.without k)
  ends : ∃ s', GivesUp n s (.call c) ((p.oldest k).map Slot.resource) k s'
  once : ∀ xs total s', GivesUp n s (.call c) xs total s' →
    total = k ∧ xs.length = k ∧ xs = (p.oldest k).map Slot.resource ∧ xs.Nodup ∧
      ∀ x ∈ xs, (destroyed (s'.eventsOf n)).count x = 1
  /-- If nobody uses the pools meanwhile, that is all that happens to them. -/
  alone : ∃ s', s.runFrom (atOnce c k) = some s' ∧
    s'.yard.pools = s.yard.pools.set n (p.without k) ∧
    s'.events.head?.map Event.reaction = some (.done (.counted k))

theorem advance_trims (hp : s.yard.pools[n]? = some p) (hc : Trims c n p count) :
    s.advance (.call c) =
      some (s.record (.call c) (s.yard.giveUp n (p.oldest count) (p.without count))) := by
  obtain ⟨rfl, ha⟩ := hc.call (s := s)
  have hcall : s.yard.call c = some (s.yard.start c.pool p c) := by simp [Yard.call, hp]
  rw [hc.start, p.trim_eq] at hcall
  simp [advance, ha, hcall]

/-- The first step does to the pools all that the call does to them. -/
theorem Takes.trims (h : s.Takes (.call c) r s') (hp : s.yard.pools[n]? = some p)
    (hc : Trims c n p count) :
    s' = s.record (.call c) (s.yard.giveUp n (p.oldest count) (p.without count)) := by
  obtain ⟨rfl, ha⟩ := hc.call (s := s)
  obtain ⟨-, rfl⟩ := (takes_call_iff hp ha).mp h
  rw [hc.start, p.trim_eq]

theorem pools_giveUp (y : Yard) (n : Nat) (slots : List Slot) (q : Pool) :
    (y.giveUp n slots q).1.pools = y.pools.set n q := by
  rw [giveUp_eq]
  rfl

theorem length_oldest (p : Pool) (count : Nat) :
    (p.oldest count).length = min count p.free.length :=
  p.length_trim count

theorem runs_atOnce (hp : s.yard.pools[n]? = some p) (hc : Trims c n p count) :
    ∃ s', s.runFrom (atOnce c (min count p.free.length)) = some s' ∧
      s'.yard.pools = s.yard.pools.set n (p.without count) ∧
      s'.events.head?.map Event.reaction = some (.done (.counted (min count p.free.length))) := by
  have hlength := length_oldest p count
  have hlt := (List.getElem?_eq_some_iff.mp hp).1
  have hafter := pools_giveUp s.yard n (p.oldest count) (p.without count)
  obtain ⟨t, ht⟩ : ∃ t, t = s.record (.call c)
    (s.yard.giveUp n (p.oldest count) (p.without count)) := ⟨_, rfl⟩
  have htasks : t.yard.tasks =
      (giving n (p.oldest count).length ((p.oldest count).map Slot.resource)).2 ++
        s.yard.tasks := by
    rw [ht, record, giveUp_eq]
  have hasked : t.events.head?.map Event.reaction =
      some (giving n (p.oldest count).length ((p.oldest count).map Slot.resource)).1 := by
    rw [ht, record, giveUp_eq]
    rfl
  have hpool : t.yard.pools[n]? = some (p.without count) := by
    rw [ht, record, hafter, List.getElem?_set_self hlt]
  obtain ⟨s', hs', hpools, -, hdone⟩ := answers_destroying hpool htasks hasked
  subst ht
  rw [List.length_map, hlength] at hs'
  rw [hlength] at hdone
  refine ⟨s', ?_, hpools.trans hafter, hdone⟩
  simpa [runFrom, atOnce, advance_trims hp hc] using hs'

theorem Followed.takesOut (hf : s.Followed) (hp : s.yard.pools[n]? = some p)
    (hc : Trims c n p count) : TakesOut n (min count p.free.length) p s c := by
  have hgives := giving_trim (s := s) hp hc
  rw [p.length_trim] at hgives
  obtain ⟨hpool, ha⟩ := hc.call (s := s)
  obtain ⟨r, s₁, h⟩ := exists_call (hpool.symm ▸ hp) ha
  refine ⟨⟨r, s₁, h⟩, ?_, ?_, ?_, ?_⟩
  · intro r s₁ h
    rw [h.trims hp hc, p.without_min]
    exact pools_giveUp _ _ _ _
  · rw [p.oldest_min]
    exact hf.givesUp h hgives
  · intro xs total s' hx
    obtain ⟨rfl, rfl⟩ := hx.all hgives
    rw [p.oldest_min]
    refine ⟨rfl, ?_, rfl, ?_, hf.givesUp_once hp hx hpool⟩
    · rw [List.length_map, p.length_trim]
    · have hslots := (p.slots_trim count).map Slot.resource
      have hnodup := hslots.nodup_iff.mpr (hf.1 n p hp).numbered.resources_distinct
      rw [List.map_append] at hnodup
      exact (List.nodup_append.mp hnodup).1
  · rw [p.without_min]
    exact runs_atOnce hp hc

/-- There is nothing to give up in a pool that has been shrunk. -/
theorem ends_shrink (hp : s.yard.pools[n]? = some p) (he : p.excess = 0) :
    s.Ends (.call (.shrink n)) (.counted 0) := by
  have hstart : s.yard.start n p (.shrink n) = s.yard.giveUp n [] p := by
    rw [start, he, p.trim_eq, p.oldest_zero, p.without_zero]
  apply ends_call hp rfl rfl
  rw [hstart]
  exact ⟨rfl, set_same hp⟩

/-- Trimming is exact. By a number it takes that many free resources out of the pool, or all if
there are fewer; shrinking takes those beyond the least size. They are taken out at once, those that
came back first, and given up one after the other, and whatever else a pool has stays as it is.
Shrinking leaves the least size, or what is on loan if that is more, and a pool that is not above
its least size as it is; who shrinks it again at once gives nothing up. -/
theorem trimming_exact (hs : run moves = some s) (hp : s.yard.pools[n]? = some p) :
    (∀ count, TakesOut n (min count p.free.length) p s (.trim n count)) ∧
    (∀ k, k = min p.free.length (p.free.length + p.loaned.length - p.bounds.minSize) →
      TakesOut n k p s (.shrink n) ∧
      (∀ r s₁, s.Takes (.call (.shrink n)) r s₁ → ∃ p₁, s₁.yard.pools[n]? = some p₁ ∧
        (p.bounds.minSize < p.live → p₁.live = max p.bounds.minSize p.loaned.length) ∧
        (p.live ≤ p.bounds.minSize → p₁ = p) ∧
        (p.bounds.minSize ≤ p.live → p.bounds.minSize ≤ p₁.live)) ∧
      ∀ s', s.runFrom (atOnce (.shrink n) k) = some s' →
        s'.Ends (.call (.shrink n)) (.counted 0)) ∧
    ∀ rest total reply r (u v : History),
      u.Takes (.answer (.destroying n rest total) reply) r v →
      v.yard.pools = u.yard.pools := by
  have hf := followed_of_run hs
  have hlt := (List.getElem?_eq_some_iff.mp hp).1
  refine ⟨fun count => hf.takesOut hp (.inl rfl), ?_, fun _ _ _ _ _ _ h => h.destroying⟩
  rintro k rfl
  have hexcess : min p.free.length (p.free.length + p.loaned.length - p.bounds.minSize) =
      p.excess := Nat.min_comm _ _
  have htakes : TakesOut n (min p.excess p.free.length) p s (.shrink n) :=
    hf.takesOut hp (.inr ⟨rfl, rfl⟩)
  rw [p.excess_eq, Nat.min_eq_left (Nat.min_le_right _ _), ← p.excess_eq] at htakes
  rw [hexcess]
  refine ⟨htakes, ?_, ?_⟩
  · intro r s₁ h
    refine ⟨p.without p.excess, ?_, Pool.live_shrunk, ?_, ?_⟩
    · rw [htakes.unlinks r s₁ h, List.getElem?_set_self hlt]
    · intro hsmall
      rw [Pool.excess_of_small hsmall, p.without_zero]
    · intro hsize
      have hlive : p.live = p.free.length + p.loaned.length := rfl
      rw [p.live_without, p.excess_eq]
      omega
  · intro s' hs'
    obtain ⟨t, ht, hpools, -⟩ := htakes.alone
    obtain rfl := Option.some.inj (ht.symm.trans hs')
    refine ends_shrink (p := p.without p.excess) ?_ p.excess_shrunk
    rw [hpools, List.getElem?_set_self hlt]

theorem trimming_exact_crowd : ∃ s p s' t,
    run (.addPool "db" ⟨2, 3⟩ {} :: crowd.take 8) = some s ∧ s.yard.pools[0]? = some p ∧
    p.free.map Slot.resource = [2, 1] ∧ p.loaned.map Slot.resource = [0] ∧
    GivesUp 0 s (.call (.trim 0 5)) [1, 2] 2 s' ∧
    s.runFrom (atOnce (.shrink 0) 1) = some t ∧
    t.yard.pools = s.yard.pools.set 0 { p with free := [⟨0, 2⟩] } ∧
    t.Ends (.call (.shrink 0)) (.counted 0) := by
  have hs : run (.addPool "db" ⟨2, 3⟩ {} :: crowd.take 8) = some _ := rfl
  obtain ⟨htrim, hshrink, -⟩ := trimming_exact (n := 0) hs rfl
  obtain ⟨s', hgives⟩ := (htrim 5).ends
  obtain ⟨htakes, -, hagain⟩ := hshrink 1 rfl
  obtain ⟨t, ht, hpools, -⟩ := htakes.alone
  exact ⟨_, _, s', t, hs, rfl, rfl, rfl, hgives, ht, hpools, hagain t ht⟩

end Yard.History
end Tenancy
