import Tenancy.Proofs.Yard.Drain

namespace Tenancy

theorem Metrics.read_change {κ : Type} [DecidableEq κ] (key k : κ) (f : Nat → Nat)
    (entries : List (κ × Nat)) :
    read k (change key f entries) = if key = k then f (read key entries) else read k entries := by
  induction entries with
  | nil => by_cases hk : key = k <;> simp [change, read, hk]
  | cons e entries ih =>
    obtain ⟨k', n⟩ := e
    by_cases he : k' = key
    · subst he
      by_cases hk : k' = k <;> simp [change, read, hk]
    · rw [change, if_neg he]
      by_cases hk' : k' = k
      · subst hk'
        simp [read, Ne.symm he]
      · simpa [read, he, hk'] using ih

theorem Metrics.shown_set (m : Metrics) (g g' : Gauge) (n : Nat) :
    (m.set g n).shown g' = if g = g' then n else m.shown g' :=
  read_change g g' _ _

/-- How many resources are free, and how many on loan. -/
def Pool.counts (p : Pool) : Nat × Nat := (p.free.length, p.loaned.length)

namespace Yard

variable {y y' : Yard} {n : Nat} {p p' : Pool} {deed : Deed} {r : Reaction} {label : String}

/-- What is shown under the label: free resources, and those on loan. -/
def gauges (y : Yard) (label : String) : Nat × Nat :=
  (y.metrics.shown (.freeConnections label), y.metrics.shown (.allocatedConnections label))

theorem gauges_publish (y : Yard) (p : Pool) (label : String) :
    (y.publish p).gauges label = if p.label = label then p.counts else y.gauges label := by
  by_cases hl : p.label = label <;> simp [gauges, publish, Metrics.shown_set, Pool.counts, hl]

/-- What a step on a pool, which is `p` before and `p'` after it, shows: nothing, where the sizes
stay as they are, or the sizes of the pool. -/
inductive Shows (deed : Deed) (p p' : Pool) (y y' : Yard) : Prop
  | nothing (hc : p'.counts = p.counts) (hg : y'.gauges = y.gauges)
  | sizes (hd : p.drained = true → deed.Trims)
      (hg : ∀ label, y'.gauges label = if p.label = label then p'.counts else y.gauges label)

theorem giveBack_shows (y : Yard) (n : Nat) (he : Emptied p) (id : Nat) :
    Shows deed p (p.takeBack id) y (y.giveBack n p id) := by
  unfold giveBack Pool.takeBack
  cases hg : p.giveBack? id with
  | none => cases hd : p.drained <;> exact .nothing rfl rfl
  | some p' =>
    have hlabel : p'.label = p.label := by
      obtain ⟨slot, -, rfl⟩ := Option.map_eq_some_iff.mp hg
      rfl
    refine .sizes (fun hd => ?_) fun label => ?_
    · simp [Pool.giveBack?, (he hd).2] at hg
    · rw [← hlabel]
      exact gauges_publish _ p' label

theorem reserve_shows (hp : y.pools[n]? = some p) (use : Use) :
    ∃ p', (y.reserve n p use).1.pools = y.pools.set n p' ∧
      Shows deed p p' y (y.reserve n p use).1 := by
  unfold reserve
  cases hd : p.drained with
  | true => exact ⟨p, (set_same hp).symm, .nothing rfl rfl⟩
  | false =>
    cases hf : p.free with
    | nil =>
      have hr : p.reuse? = none := by simp [Pool.reuse?, hf]
      cases hm : p.isFull with
      | true =>
        simp only [hr, Bool.false_eq_true, ↓reduceIte]
        exact ⟨p, (set_same hp).symm, .nothing rfl rfl⟩
      | false =>
        simp only [hr, Bool.false_eq_true, ↓reduceIte]
        exact ⟨p.announce, rfl, .nothing rfl rfl⟩
    | cons slot free =>
      have hr : p.reuse? = some (slot, { p with free, loaned := slot :: p.loaned }) := by
        simp [Pool.reuse?, hf]
      simp only [hr, Bool.false_eq_true, ↓reduceIte, handOut_eq]
      refine ⟨_, rfl, .sizes (fun h => absurd (hd.symm.trans h) (by decide)) fun label => ?_⟩
      exact gauges_publish _ _ label

theorem start_shows {c : Call} (hp : y.pools[c.pool]? = some p) (he : Emptied p) :
    ∃ p', (y.start c.pool p c).1.pools = y.pools.set c.pool p' ∧
      Shows (.call c) p p' y (y.start c.pool p c).1 := by
  cases c with
  | reserve n => exact reserve_shows hp .lease
  | checkout n => exact reserve_shows hp .checkout
  | release n lease =>
    simp only [start]
    split
    · exact ⟨_, (giveBack_fields hp lease.slot).2.2, giveBack_shows y n he lease.slot⟩
    · exact ⟨p, (set_same hp).symm, .nothing rfl rfl⟩
  | trim n count =>
    simp only [start, giveUp_eq]
    exact ⟨_, rfl, .sizes (fun _ => .inl ⟨n, count, rfl⟩) (gauges_publish _ _)⟩
  | shrink n =>
    simp only [start, giveUp_eq]
    exact ⟨_, rfl, .sizes (fun _ => .inr ⟨n, rfl⟩) (gauges_publish _ _)⟩
  | drain n =>
    simp only [start]
    cases hd : p.drained with
    | true => exact ⟨p, (set_same hp).symm, .nothing rfl rfl⟩
    | false =>
      simp only [Bool.false_eq_true, ↓reduceIte, giveUp_eq]
      exact ⟨_, rfl, .sizes (fun h => absurd (hd.symm.trans h) (by decide)) (gauges_publish _ _)⟩

theorem resume_shows {task : Task} {reply : Reply} {step : Yard × Reaction}
    (hp : y.pools[task.pool]? = some p) (he : Emptied p) (h : y.resume p task reply = some step) :
    ∃ p', step.1.pools = y.pools.set task.pool p' ∧
      Shows (.answer task reply) p p' y step.1 := by
  cases task with
  | allocating n slot use =>
    cases reply with
    | made =>
      simp only [resume] at h
      cases hd : p.drained with
      | true =>
        have hs : p.settle.drained = true := hd
        simp only [hs, ↓reduceIte, Option.some.injEq] at h
        subst h
        exact ⟨p.settle, rfl, .nothing rfl rfl⟩
      | false =>
        have hs : p.settle.drained = false := hd
        simp only [hs, Bool.false_eq_true, ↓reduceIte, handOut_eq, Option.some.injEq] at h
        subst h
        refine ⟨_, rfl, .sizes (fun h => absurd (hd.symm.trans h) (by decide)) fun label => ?_⟩
        exact gauges_publish _ _ label
    | nothing | unwind =>
      cases h
      exact ⟨p.settle, rfl, .nothing rfl rfl⟩
    | destroyed | finished => simp [resume] at h
  | discarding n =>
    cases reply with
    | destroyed =>
      cases h
      exact ⟨p, (set_same hp).symm, .nothing rfl rfl⟩
    | _ => simp [resume] at h
  | destroying n rest total =>
    cases reply with
    | destroyed =>
      simp only [resume, destroyNext_eq, Option.some.injEq] at h
      subst h
      exact ⟨p, (set_same hp).symm, .nothing rfl rfl⟩
    | _ => simp [resume] at h
  | holding n slot =>
    cases reply with
    | finished | unwind =>
      cases h
      exact ⟨_, (giveBack_fields hp slot).2.2, giveBack_shows y n he slot⟩
    | made | nothing | destroyed => simp [resume] at h

/-- Every step of the yard shows the sizes of its pool if they change. -/
theorem Does.shows (h : y.Does deed (y', r))
    (he : ∀ p, y.pools[deed.pool]? = some p → Emptied p) :
    ∃ p p', y.pools[deed.pool]? = some p ∧ y'.pools = y.pools.set deed.pool p' ∧
      p'.label = p.label ∧ Shows deed p p' y y' := by
  obtain ⟨rest, -, p, p', new, hp, turn, hpools, -⟩ := h.stride
  refine ⟨p, p', hp, hpools, turn.label, ?_⟩
  have hlt := (List.getElem?_eq_some_iff.mp hp).1
  obtain ⟨q, hq, hshows⟩ : ∃ q, y'.pools = y.pools.set deed.pool q ∧ Shows deed p q y y' := by
    cases h with
    | call h =>
      obtain ⟨q, hq, heq⟩ := Option.map_eq_some_iff.mp h
      obtain rfl := Option.some.inj (hp.symm.trans hq)
      obtain ⟨p', hpools, hshows⟩ := start_shows hp (he p hp)
      rw [heq] at hpools hshows
      exact ⟨p', hpools, hshows⟩
    | @reply task tasks reply _ ht h =>
      simp only [Yard.reply, answer, ht, List.getElem?_cons_zero, Option.bind_some] at h
      obtain ⟨q, hq, h⟩ := Option.bind_eq_some_iff.mp h
      obtain rfl := Option.some.inj (hp.symm.trans hq)
      obtain ⟨p', hpools, hshows⟩ :=
        resume_shows (y := { y with tasks := (task :: tasks).eraseIdx 0 }) hq (he p hp) h
      refine ⟨p', hpools, ?_⟩
      cases hshows with
      | nothing hc hg => exact .nothing hc hg
      | sizes hd hg => exact .sizes hd hg
  have hsame : q = p' := by
    have hboth :
        (y.pools.set deed.pool q)[deed.pool]? = (y.pools.set deed.pool p')[deed.pool]? := by
      rw [← hq, ← hpools]
    simpa [hlt] using hboth
  exact hsame ▸ hshows

end Yard
end Tenancy
