import Tenancy.Proofs.Pool
import Tenancy.Proofs.Yard.History

namespace Tenancy.Yard

def Use.call : Use → Nat → Call
  | .lease, n => .reserve n
  | .checkout, n => .checkout n

theorem Use.pool_call (use : Use) (n : Nat) : (use.call n).pool = n := by
  cases use <;> rfl

/-- How a slot is handed out, and what waits afterwards. -/
def handing (n : Nat) (slot : Slot) : Use → Reaction × List Task
  | .lease => (.done (.leased ⟨n, slot.id, slot.resource⟩), [])
  | .checkout => (.work ⟨n, slot.id, slot.resource⟩, [.holding n slot.id])

/-- How the giving up of resources goes on, and what waits afterwards. -/
def giving (n total : Nat) : List Nat → Reaction × List Task
  | [] => (.done (.counted total), [])
  | resource :: rest => (.destroy n resource, [.destroying n rest total])

/-- What a deed does to pool `n`, which is `p` before: the reaction, the pool and the new tasks
after it, and the number of resources made on the whole yard before and after. -/
inductive Turn (n created : Nat) (p : Pool) :
    Deed → Reaction → Pool → List Task → Nat → Prop
  | drained {use : Use} (hd : p.drained = true) :
      Turn n created p (.call (use.call n)) (.done (.refused (.drained p.label))) p [] created
  | full {use : Use} (hd : p.drained = false) (hf : p.free = []) (hm : p.isFull = true) :
      Turn n created p (.call (use.call n))
        (.done (.refused (.atCapacity p.label p.bounds.maxSize))) p [] created
  | reuse {use : Use} {slot free} (hd : p.drained = false) (hf : p.free = slot :: free) :
      Turn n created p (.call (use.call n)) (handing n slot use).1
        { p with free, loaned := slot :: p.loaned } (handing n slot use).2 created
  | announce {use : Use} (hd : p.drained = false) (hf : p.free = []) (hm : p.isFull = false) :
      Turn n created p (.call (use.call n)) (.allocate n) p.announce
        [.allocating n p.nextId use] created
  | release {lease} (hl : lease.pool = n) :
      Turn n created p (.call (.release n lease)) (.done .returned) (p.takeBack lease.slot) []
        created
  | foreign {lease} (hl : lease.pool ≠ n) :
      Turn n created p (.call (.release n lease)) (.done .returned) p [] created
  | trim {c count} (hc : c = .trim n count ∨ c = .shrink n ∧ count = p.excess) :
      Turn n created p (.call c)
        (giving n (p.trim count).1.length ((p.trim count).1.map Slot.resource)).1 (p.trim count).2
        (giving n (p.trim count).1.length ((p.trim count).1.map Slot.resource)).2 created
  | drain {order : Arrangement Slot} (hd : p.drained = false) :
      Turn n created p (.call (.drain n))
        (giving n (p.drain order).1.length ((p.drain order).1.map Slot.resource)).1
        (p.drain order).2
        (giving n (p.drain order).1.length ((p.drain order).1.map Slot.resource)).2 created
  | drainAgain (hd : p.drained = true) :
      Turn n created p (.call (.drain n)) (.done (.counted 0)) p [] created
  | lend {slot use} (hd : p.drained = false) :
      Turn n created p (.answer (.allocating n slot use) .made) (handing n ⟨slot, created⟩ use).1
        (p.settle.lend ⟨slot, created⟩) (handing n ⟨slot, created⟩ use).2 (created + 1)
  | lendLate {slot use} (hd : p.drained = true) :
      Turn n created p (.answer (.allocating n slot use) .made) (.destroy n created) p.settle
        [.discarding n] (created + 1)
  | notMade {slot use r o}
      (hr : r = .nothing ∧ o = .refused (.unavailable p.label) ∨ r = .unwind ∧ o = .unwound) :
      Turn n created p (.answer (.allocating n slot use) r) (.done o) p.settle [] created
  | discard :
      Turn n created p (.answer (.discarding n) .destroyed) (.done (.refused (.drained p.label)))
        p [] created
  | destroyNext {rest total} :
      Turn n created p (.answer (.destroying n rest total) .destroyed) (giving n total rest).1 p
        (giving n total rest).2 created
  | dropGuard {slot r o} (hr : r = .finished ∧ o = .returned ∨ r = .unwind ∧ o = .unwound) :
      Turn n created p (.answer (.holding n slot) r) (.done o) (p.takeBack slot) [] created

variable {y : Yard} {p p' : Pool} {n created created' : Nat} {d : Deed} {r : Reaction}
  {new : List Task} {step : Yard × Reaction}

theorem handing_tasks (h : t ∈ (handing n slot use).2) : t.pool = n := by
  cases use with
  | lease => simp [handing] at h
  | checkout =>
    simp only [handing, List.mem_singleton] at h
    subst h
    rfl

theorem giving_tasks (h : t ∈ (giving n total resources).2) : t.pool = n := by
  cases resources with
  | nil => simp [giving] at h
  | cons resource rest =>
    simp only [giving, List.mem_singleton] at h
    subst h
    rfl

theorem giving_ne_refused (error : PoolError) (resources : List Nat) :
    (giving n total resources).1 ≠ .done (.refused error) := by
  cases resources <;> simp [giving]

/-- A step on one pool leaves no task on another. -/
theorem Turn.tasks_pool (h : Turn n created p d r p' new created') : ∀ t ∈ new, t.pool = n := by
  intro t ht
  cases h with
  | reuse | lend => exact handing_tasks ht
  | trim | drain | destroyNext => exact giving_tasks ht
  | announce | lendLate =>
    simp only [List.mem_singleton] at ht
    subst ht
    rfl
  | _ => simp at ht

/-- What waits for the reaction of pool `n` to be replied to. -/
inductive Waits (n : Nat) : Reaction → List Task → Prop
  | done (outcome : Outcome) : Waits n (.done outcome) []
  | allocate (slot : Nat) (use : Use) : Waits n (.allocate n) [.allocating n slot use]
  | discard (resource : Nat) : Waits n (.destroy n resource) [.discarding n]
  | destroy (resource : Nat) (rest : List Nat) (total : Nat) :
      Waits n (.destroy n resource) [.destroying n rest total]
  | work (lease : Lease) (slot : Nat) : Waits n (.work lease) [.holding n slot]

theorem waits_handing (n : Nat) (slot : Slot) (use : Use) :
    Waits n (handing n slot use).1 (handing n slot use).2 := by
  cases use with
  | lease => exact .done _
  | checkout => exact .work _ _

theorem waits_giving (n total : Nat) (resources : List Nat) :
    Waits n (giving n total resources).1 (giving n total resources).2 := by
  cases resources with
  | nil => exact .done _
  | cons resource rest => exact .destroy resource rest total

theorem Turn.waits (h : Turn n created p d r p' new created') : Waits n r new := by
  cases h with
  | reuse | lend => exact waits_handing n _ _
  | trim | drain | destroyNext => exact waits_giving n _ _
  | announce => exact .allocate _ _
  | lendLate => exact .discard _
  | _ => exact .done _

theorem Turn.created_le (h : Turn n created p d r p' new created') : created ≤ created' := by
  cases h with
  | lend | lendLate => exact Nat.le_succ created
  | _ => exact Nat.le_refl created

/-- The yard's step on pool `n` that leaves the tasks `rest` alone. -/
def Stride (y : Yard) (n : Nat) (rest : List Task) (d : Deed) (step : Yard × Reaction) : Prop :=
  ∃ p p' new, y.pools[n]? = some p ∧
    Turn n y.created p d step.2 p' new step.1.created ∧
    step.1.pools = y.pools.set n p' ∧ step.1.tasks = new ++ rest

/-- A step is a turn of its own pool and leaves the others alone. -/
theorem Stride.pool {k : Nat} {rest : List Task} (h : Stride y k rest d step)
    (hp : y.pools[n]? = some p) :
    ∃ p', step.1.pools[n]? = some p' ∧
      (k = n → ∃ new created, Turn n y.created p d step.2 p' new created) ∧ (k ≠ n → p' = p) := by
  obtain ⟨q, q', new, hq, turn, hpools, -⟩ := h
  rw [hpools]
  by_cases hn : k = n
  · subst hn
    obtain rfl : q = p := Option.some.inj (hq.symm.trans hp)
    have hlt := (List.getElem?_eq_some_iff.mp hp).1
    exact ⟨q', List.getElem?_set_self hlt, fun _ => ⟨new, _, turn⟩, fun h => absurd rfl h⟩
  · exact ⟨p, by rw [List.getElem?_set_ne hn, hp], fun h => absurd h hn, fun _ => rfl⟩

/-- What every turn of a pool keeps is kept by a step. -/
theorem Stride.keeps {P : Pool → Prop} {k : Nat} {rest : List Task} (h : Stride y k rest d step)
    (hturn : ∀ {created p d r p' new created'},
      Turn n created p d r p' new created' → P p → P p')
    (hp : ∃ p, y.pools[n]? = some p ∧ P p) : ∃ p, step.1.pools[n]? = some p ∧ P p := by
  obtain ⟨p, hp, hP⟩ := hp
  obtain ⟨p', hp', hown, hother⟩ := h.pool hp
  refine ⟨p', hp', ?_⟩
  by_cases hn : k = n
  · obtain ⟨new, created, turn⟩ := hown hn
    exact hturn turn hP
  · rw [hother hn]
    exact hP

theorem set_same {pools : List Pool} (hp : pools[n]? = some p) : pools.set n p = pools := by
  obtain ⟨hn, rfl⟩ := List.getElem?_eq_some_iff.mp hp
  exact List.set_getElem_self hn

theorem handOut_eq (y : Yard) (n : Nat) (slot : Slot) (use : Use) :
    y.handOut n slot use =
      ({ y with tasks := (handing n slot use).2 ++ y.tasks }, (handing n slot use).1) := by
  cases use <;> rfl

theorem destroyNext_eq (y : Yard) (n total : Nat) (resources : List Nat) :
    y.destroyNext n total resources =
      ({ y with tasks := (giving n total resources).2 ++ y.tasks },
        (giving n total resources).1) := by
  cases resources <;> rfl

theorem giveUp_eq (y : Yard) (n : Nat) (slots : List Slot) (p : Pool) :
    y.giveUp n slots p =
      ({ (y.put n p).publish p with
          tasks := (giving n slots.length (slots.map Slot.resource)).2 ++ y.tasks },
        (giving n slots.length (slots.map Slot.resource)).1) := by
  rw [giveUp, destroyNext_eq]
  rfl

theorem giveBack_fields (hp : y.pools[n]? = some p) (id : Nat) :
    (y.giveBack n p id).created = y.created ∧ (y.giveBack n p id).tasks = y.tasks ∧
      (y.giveBack n p id).pools = y.pools.set n (p.takeBack id) := by
  unfold giveBack Pool.takeBack
  cases hg : p.giveBack? id with
  | some p' => exact ⟨rfl, rfl, rfl⟩
  | none =>
    have hs := (set_same hp).symm
    cases p.drained
    · exact ⟨rfl, rfl, hs⟩
    · exact ⟨rfl, rfl, hs⟩

theorem reserve_stride (hp : y.pools[n]? = some p) (use : Use) :
    Stride y n y.tasks (.call (use.call n)) (y.reserve n p use) := by
  unfold reserve
  cases hd : p.drained with
  | true => exact ⟨p, p, [], hp, .drained hd, (set_same hp).symm, rfl⟩
  | false =>
    cases hf : p.free with
    | nil =>
      have hr : p.reuse? = none := by simp [Pool.reuse?, hf]
      cases hm : p.isFull with
      | true =>
        simp only [hr, Bool.false_eq_true, ↓reduceIte]
        exact ⟨p, p, [], hp, .full hd hf hm, (set_same hp).symm, rfl⟩
      | false =>
        simp only [hr, Bool.false_eq_true, ↓reduceIte]
        exact ⟨p, p.announce, [.allocating n p.nextId use], hp, .announce hd hf hm, rfl, rfl⟩
    | cons slot free =>
      have hr : p.reuse? = some (slot, { p with free, loaned := slot :: p.loaned }) := by
        simp [Pool.reuse?, hf]
      simp only [hr, Bool.false_eq_true, ↓reduceIte, handOut_eq]
      exact ⟨p, _, _, hp, .reuse hd hf, rfl, rfl⟩

/-- Beginning an operation is a turn of its pool. -/
theorem start_stride {c : Call} (hp : y.pools[c.pool]? = some p) :
    Stride y c.pool y.tasks (.call c) (y.start c.pool p c) := by
  cases c with
  | reserve n => exact reserve_stride hp .lease
  | checkout n => exact reserve_stride hp .checkout
  | release n lease =>
    change Stride y n y.tasks _ (if lease.pool = n then _ else _)
    split
    next hl =>
      obtain ⟨hc, ht, hs⟩ := giveBack_fields hp lease.slot
      exact ⟨p, _, [], hp, hc ▸ .release hl, hs, ht⟩
    next hl => exact ⟨p, p, [], hp, .foreign hl, (set_same hp).symm, rfl⟩
  | trim n count =>
    rw [start, giveUp_eq]
    exact ⟨p, _, _, hp, .trim (.inl rfl), rfl, rfl⟩
  | shrink n =>
    rw [start, giveUp_eq]
    exact ⟨p, _, _, hp, .trim (.inr ⟨rfl, rfl⟩), rfl, rfl⟩
  | drain n =>
    simp only [start]
    cases hd : p.drained with
    | true => exact ⟨p, p, [], hp, .drainAgain hd, (set_same hp).symm, rfl⟩
    | false =>
      simp only [Bool.false_eq_true, ↓reduceIte, giveUp_eq]
      exact ⟨p, _, _, hp, .drain hd, rfl, rfl⟩

/-- Going on with an operation is a turn of its pool. -/
theorem resume_stride {task : Task} {r : Reply} (hp : y.pools[task.pool]? = some p)
    (h : y.resume p task r = some step) : Stride y task.pool y.tasks (.answer task r) step := by
  cases task with
  | allocating n slot use =>
    cases r with
    | made =>
      simp only [resume] at h
      cases hd : p.drained with
      | true =>
        have hs : p.settle.drained = true := hd
        simp only [hs, ↓reduceIte, Option.some.injEq] at h
        subst h
        exact ⟨p, _, [.discarding n], hp, .lendLate hd, rfl, rfl⟩
      | false =>
        have hs : p.settle.drained = false := hd
        simp only [hs, Bool.false_eq_true, ↓reduceIte, handOut_eq, Option.some.injEq] at h
        subst h
        exact ⟨p, _, _, hp, .lend hd, rfl, rfl⟩
    | nothing =>
      cases h
      exact ⟨p, _, [], hp, .notMade (.inl ⟨rfl, rfl⟩), rfl, rfl⟩
    | unwind =>
      cases h
      exact ⟨p, _, [], hp, .notMade (.inr ⟨rfl, rfl⟩), rfl, rfl⟩
    | destroyed | finished => simp [resume] at h
  | discarding n =>
    cases r with
    | destroyed =>
      cases h
      exact ⟨p, p, [], hp, .discard, (set_same hp).symm, rfl⟩
    | _ => simp [resume] at h
  | destroying n rest total =>
    cases r with
    | destroyed =>
      simp only [resume, destroyNext_eq, Option.some.injEq] at h
      subst h
      exact ⟨p, p, _, hp, .destroyNext, (set_same hp).symm, rfl⟩
    | _ => simp [resume] at h
  | holding n slot =>
    obtain ⟨hc, ht, hs⟩ := giveBack_fields hp slot
    cases r with
    | finished =>
      cases h
      exact ⟨p, _, [], hp, hc ▸ .dropGuard (.inl ⟨rfl, rfl⟩), hs, ht⟩
    | unwind =>
      cases h
      exact ⟨p, _, [], hp, hc ▸ .dropGuard (.inr ⟨rfl, rfl⟩), hs, ht⟩
    | made | nothing | destroyed => simp [resume] at h

theorem call_stride {c : Call} (h : y.call c = some step) :
    Stride y c.pool y.tasks (.call c) step := by
  obtain ⟨p, hp, rfl⟩ := Option.map_eq_some_iff.mp h
  exact start_stride hp

theorem answer_stride {i : Nat} {task : Task} {r : Reply} (ht : y.tasks[i]? = some task)
    (h : y.answer i r = some step) :
    Stride y task.pool (y.tasks.eraseIdx i) (.answer task r) step := by
  simp only [answer, ht, Option.bind_some] at h
  obtain ⟨p, hp, hr⟩ := Option.bind_eq_some_iff.mp h
  exact resume_stride (y := { y with tasks := y.tasks.eraseIdx i }) hp hr

end Tenancy.Yard
