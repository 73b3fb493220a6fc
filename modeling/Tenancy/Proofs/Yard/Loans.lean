import Tenancy.Proofs.Yard.Slots

namespace Tenancy.Yard

variable {n created created' : Nat} {p p' : Pool} {d : Deed} {r : Reaction} {new ts ts' : List Task}
  {es es' : List Event} {xs : List Loan} {x : Loan}

/-- The slots that somebody works on and gives back when done. -/
def held (ts : List Task) : List Nat :=
  ts.filterMap fun | .holding _ slot => some slot | _ => none

def guards (xs : List Loan) : List Nat :=
  (xs.filter (·.use == .checkout)).map (·.lease.slot)

/-- Up to its drain a pool has on loan what it handed out and did not get back. -/
structure Lent (p : Pool) (ts : List Task) (es : List Event) : Prop where
  guarded : (guards (loans es)).Perm (held ts)
  lent : p.drained = false → ((loans es).map Loan.slot).Perm p.loaned

@[simp] theorem held_giving (resources : List Nat) :
    held ((giving n total resources).2 ++ ts) = held ts := by
  cases resources <;> rfl

/-- Nothing is handed out or given back. -/
theorem Lent.keep (h : Lent p ts es) (hl : loans es' = loans es) (hh : held ts' = held ts)
    (hd : p'.drained = false → p.drained = false ∧ p'.loaned = p.loaned) : Lent p' ts' es' := by
  refine ⟨?_, ?_⟩
  · rw [hl, hh]
    exact h.guarded
  · intro hp
    obtain ⟨hp, hs⟩ := hd hp
    rw [hl, hs]
    exact h.lent hp

/-- Handing out puts a slot on loan. -/
theorem Lent.handOut {slot : Slot} {use : Use} (h : Lent p ts es)
    (hl : loans es' = ⟨use, ⟨n, slot.id, slot.resource⟩⟩ :: loans es)
    (hd : p.drained = false) (hs : p'.loaned = slot :: p.loaned) :
    Lent p' ((handing n slot use).2 ++ ts) es' := by
  refine ⟨?_, ?_⟩
  · rw [hl]
    cases use with
    | lease => exact h.guarded
    | checkout => exact h.guarded.cons slot.id
  · intro _
    rw [hl, hs]
    exact (h.lent hd).cons slot

/-- Giving back takes the slot of one loan off. -/
theorem Lent.giveBack (h : Lent p ts es) (hu : (p.loaned.map Slot.id).Nodup)
    (hx : (loans es).Perm (x :: xs)) (hl : loans es' = xs)
    (hh : (held ts).Perm (guards [x] ++ held ts')) :
    Lent (p.takeBack x.lease.slot) ts' es' := by
  refine ⟨?_, ?_⟩
  · have hg : (guards (loans es)).Perm (guards [x] ++ guards xs) := by
      rw [guards, guards, guards, ← List.map_append, ← List.filter_append]
      exact (hx.filter _).map _
    rw [hl]
    exact (List.perm_append_left_iff _).mp (hg.symm.trans (h.guarded.trans hh))
  · intro hd
    rw [Pool.takeBack_drained] at hd
    have hlent := h.lent hd
    have hslots : (x.slot :: xs.map Loan.slot).Perm p.loaned :=
      (hx.map Loan.slot).symm.trans hlent
    have hmem : x.slot ∈ p.loaned := hslots.subset List.mem_cons_self
    have hback := Pool.takeBack_of_mem hu hmem
    rw [hl, show p.takeBack x.lease.slot = _ from hback]
    exact (hslots.trans (Pool.perm_cons_filter hu hmem)).cons_inv

theorem mem_guards {id : Nat} (h : id ∈ guards xs) :
    ∃ x ∈ xs, x.use = .checkout ∧ x.lease.slot = id := by
  obtain ⟨x, hx, rfl⟩ := List.mem_map.mp h
  obtain ⟨hm, hu⟩ := List.mem_filter.mp hx
  exact ⟨x, hm, by simpa using hu, rfl⟩

theorem loan?_giving (d : Deed) (next total : Nat) (resources : List Nat) :
    Event.loan? ⟨d, next, (giving n total resources).1⟩ = none := by
  cases resources <;> rfl

theorem loans_handing_call (next : Nat) (slot : Slot) (use : Use) :
    loans (⟨.call (use.call n), next, (handing n slot use).1⟩ :: es) =
      ⟨use, ⟨n, slot.id, slot.resource⟩⟩ :: loans es := by
  cases use <;> rfl

theorem loans_handing_made (next id : Nat) (slot : Slot) (use : Use) :
    loans (⟨.answer (.allocating n id use) .made, next, (handing n slot use).1⟩ :: es) =
      ⟨use, ⟨n, slot.id, slot.resource⟩⟩ :: loans es := by
  cases use <;> rfl

theorem Turn.lent (h : Turn n created p d r p' new created')
    (hu : (p.loaned.map Slot.id).Nodup) (hf : Deed.Fair es d)
    (hl : Lent p (d.answered ++ ts) es) :
    Lent p' (new ++ ts) (⟨d, created, r⟩ :: es) := by
  cases h with
  | @drained use | @full use | @announce use =>
    cases use <;> exact hl.keep rfl rfl fun hd => ⟨hd, rfl⟩
  | drainAgain | discard | lendLate => exact hl.keep rfl rfl fun hd => ⟨hd, rfl⟩
  | notMade ho =>
    obtain ⟨rfl, rfl⟩ | ⟨rfl, rfl⟩ := ho <;> exact hl.keep rfl rfl fun hd => ⟨hd, rfl⟩
  | @foreign lease hp =>
    have hs : loans (⟨.call (.release n lease), created, .done .returned⟩ :: es) = loans es :=
      if_neg hp
    exact hl.keep hs rfl fun hd => ⟨hd, rfl⟩
  | reuse hd => exact hl.handOut (loans_handing_call _ _ _) hd rfl
  | @lend slot use hd =>
    have hl : Lent p ts es := hl.keep rfl rfl fun hd => ⟨hd, rfl⟩
    have hs : (p.settle.lend ⟨slot, created⟩).loaned = ⟨slot, created⟩ :: p.loaned := rfl
    exact hl.handOut (loans_handing_made created slot ⟨slot, created⟩ use) hd hs
  | trim hc =>
    refine hl.keep ?_ (held_giving _) fun hd => ⟨hd, rfl⟩
    rw [loans, loan?_giving]
    obtain rfl | ⟨rfl, -⟩ := hc <;> rfl
  | drain =>
    refine hl.keep ?_ (held_giving _) fun hd => by cases hd
    rw [loans, loan?_giving]
    rfl
  | destroyNext =>
    refine hl.keep ?_ (held_giving _) fun hd => ⟨hd, rfl⟩
    rw [loans, loan?_giving]
    rfl
  | @release lease hp =>
    have hs : loans (⟨.call (.release n lease), created, .done .returned⟩ :: es) =
        (loans es).erase ⟨.lease, lease⟩ := if_pos hp
    exact hl.giveBack hu (List.perm_cons_erase (hf hp)) hs (List.Perm.refl _)
  | @dropGuard slot r o ho =>
    have hg : slot ∈ guards (loans es) := hl.guarded.symm.subset List.mem_cons_self
    obtain ⟨y, hy, hyuse, hyslot⟩ := mem_guards hg
    obtain ⟨x, before, after, -, hx, hsplit, herase⟩ := List.exists_of_eraseP
      (p := fun x : Loan => x.use == .checkout && x.lease.slot == slot) hy (by simp [hyuse, hyslot])
    simp only [Bool.and_eq_true, beq_iff_eq] at hx
    obtain ⟨huse, rfl⟩ := hx
    have hs : loans (⟨.answer (.holding n x.lease.slot) r, created, .done o⟩ :: es) =
        before ++ after := by
      rw [← herase]
      obtain ⟨-, rfl⟩ | ⟨-, rfl⟩ := ho <;> rfl
    have hperm : (loans es).Perm (x :: (before ++ after)) := hsplit ▸ List.perm_middle
    refine hl.giveBack hu hperm hs ?_
    rw [show guards [x] = [x.lease.slot] by simp [guards, huse]]
    exact List.Perm.refl _

theorem Course.lent (h : Course n created p ts es) : Lent p ts es := by
  induction h with
  | new hp =>
    rw [Pool.of?_ok hp]
    exact ⟨List.Perm.nil, fun _ => List.Perm.nil⟩
  | later _ _ ih => exact ih
  | perm _ ht ih => exact ⟨ih.guarded.trans (ht.filterMap _), ih.lent⟩
  | turn hc hf ht ih => exact ht.lent hc.numbered.loaned_distinct hf ih

/-- Slots with distinct numbers hold distinct resources. -/
theorem Numbered.resources_distinct (h : Numbered created p ts es) :
    (p.slots.map Slot.resource).Nodup := by
  refine List.Nodup.map_on ?_ (List.Nodup.of_map _ h.distinct)
  intro a ha b hb he
  exact List.inj_on_of_nodup_map h.fresh (h.known a ha) (h.known b hb) he

theorem Numbered.made_inj (h : Numbered created p ts es) {a b : Slot} (ha : a ∈ made es)
    (hb : b ∈ made es) (he : a.id = b.id) : a = b :=
  List.inj_on_of_nodup_map h.once.of_append_left ha hb he

/-- What is handed out was free or has just been made. -/
theorem Turn.loan (h : Turn n created p d r p' new created')
    (hx : Event.loan? ⟨d, created, r⟩ = some x) (es : List Event) :
    x.lease.pool = n ∧ (x.slot ∈ p.free ∨ x.slot ∈ made [⟨d, created, r⟩]) ∧ p'.drained = false ∧
      loans (⟨d, created, r⟩ :: es) = x :: loans es := by
  cases h with
  | @reuse use slot free hd hf =>
    have hfree : slot ∈ p.free := by simp [hf]
    cases use <;> cases hx <;> exact ⟨rfl, .inl hfree, hd, rfl⟩
  | @lend slot use hd =>
    cases use <;> cases hx <;> exact ⟨rfl, .inr List.mem_cons_self, hd, rfl⟩
  | trim | drain | destroyNext =>
    rw [loan?_giving] at hx
    cases hx
  | notMade ho | dropGuard ho => obtain ⟨-, rfl⟩ | ⟨-, rfl⟩ := ho <;> cases hx
  | _ => cases hx

/-- Every lease ever handed out names a resource made for the pool, under its number. -/
theorem Course.issued_made (h : Course n created p ts es) :
    ∀ l ∈ issued es, l.pool = n ∧ (⟨l.slot, l.resource⟩ : Slot) ∈ made es := by
  induction h with
  | new => simp [issued]
  | later _ _ ih => exact ih
  | perm _ _ ih => exact ih
  | @turn created _ p p' d r new ts es hc _ ht ih =>
    intro l hl
    rw [made_cons]
    rw [issued_cons, List.mem_append] at hl
    rcases hl with hl | hl
    · obtain ⟨x, hx, rfl⟩ : ∃ x, Event.loan? ⟨d, created, r⟩ = some x ∧ x.lease = l := by
        simpa [issued] using hl
      obtain ⟨hp, hfree | hnew, -⟩ := ht.loan hx es
      · have hknown := hc.numbered.known x.slot (List.mem_append_left _ hfree)
        exact ⟨hp, List.mem_append_right _ hknown⟩
      · exact ⟨hp, List.mem_append_left _ hnew⟩
    · obtain ⟨hp, hm⟩ := ih l hl
      exact ⟨hp, List.mem_append_right _ hm⟩

/-- Until the drain each loan has its own slot and its own resource, and none of them is free. -/
theorem Course.loans_apart (h : Course n created p ts es) (hd : p.drained = false) :
    (∀ x ∈ loans es, x.slot ∈ p.loaned ∧ x.lease.resource ∉ p.free.map Slot.resource) ∧
      ((loans es).map (·.lease.slot)).Nodup ∧ ((loans es).map (·.lease.resource)).Nodup := by
  have hlent := h.lent.lent hd
  have hres := h.numbered.resources_distinct
  rw [Pool.slots, List.map_append] at hres
  refine ⟨?_, ?_, ?_⟩
  · intro x hx
    have hloaned : x.slot ∈ p.loaned := hlent.subset (List.mem_map_of_mem hx)
    refine ⟨hloaned, ?_⟩
    intro hfree
    exact (List.nodup_append.mp hres).2.2 _ hfree _ (List.mem_map_of_mem hloaned) rfl
  · have hids := (hlent.map Slot.id).nodup_iff.mpr h.numbered.loaned_distinct
    rwa [List.map_map] at hids
  · have hloaned := (hlent.map Slot.resource).nodup_iff.mpr hres.of_append_right
    rwa [List.map_map] at hloaned

namespace History

variable {s s' : History} {moves : List Move}

/-- What a step hands out is on loan afterwards, beside what was before. -/
theorem Takes.loans_apart (hs : run moves = some s) (hp : s.yard.pools[n]? = some p)
    (h : s.Takes d r s') (hd : d.pool = n) (hx : Event.loan? ⟨d, s.yard.created, r⟩ = some x) :
    ∀ y ∈ loans (s.eventsOf n),
      y.lease.slot ≠ x.lease.slot ∧ y.lease.resource ≠ x.lease.resource := by
  obtain ⟨m, hm, he⟩ := h
  obtain ⟨p', hp', hown, -⟩ := Takes.pool ⟨m, hm, he⟩ hp
  obtain ⟨new, created, turn⟩ := hown hd
  have hs' : run (moves ++ [m]) = some s' := by simp [run_append hs, runFrom, hm]
  have hes : s'.eventsOf n = ⟨d, s.yard.created, r⟩ :: s.eventsOf n := by
    simp [eventsOf, he, hd]
  obtain ⟨-, -, hd', hloans⟩ := turn.loan hx (s.eventsOf n)
  obtain ⟨-, hids, hres⟩ := (course_of_run hs' hp').loans_apart hd'
  rw [hes, hloans, List.map_cons, List.nodup_cons] at hids hres
  intro y hy
  exact ⟨fun h => hids.1 (h ▸ List.mem_map_of_mem hy), fun h => hres.1 (h ▸ List.mem_map_of_mem hy)⟩

/-- A resource is its holder's alone. No two slots have one number, and a number once handed out
always stands for the same resource. Until the drain of its pool every lease and every guard that is
out has its slot on loan with its own resource, which no other of them has and which is not free;
and nothing is handed out that another has not given back. -/
theorem exclusive_use (hs : run moves = some s) (hp : s.yard.pools[n]? = some p) :
    ((p.free ++ p.loaned).map Slot.id).Nodup ∧
    (∀ slot ∈ p.free ++ p.loaned, slot.id < p.nextId) ∧
    (∀ l ∈ issued (s.eventsOf n), l.pool = n ∧ ⟨l.slot, l.resource⟩ ∈ made (s.eventsOf n) ∧
      ∀ l' ∈ issued (s.eventsOf n), l'.slot = l.slot → l' = l) ∧
    (∀ slot, .holding n slot ∈ s.yard.tasks →
      ∃ x ∈ loans (s.eventsOf n), x.use = .checkout ∧ x.lease.slot = slot) ∧
    (p.drained = false →
      (∀ x ∈ loans (s.eventsOf n), x.slot ∈ p.loaned ∧
        x.lease.resource ∉ p.free.map Slot.resource) ∧
      ((loans (s.eventsOf n)).map (·.lease.slot)).Nodup ∧
      ((loans (s.eventsOf n)).map (·.lease.resource)).Nodup) ∧
    ∀ d r s' x, s.Takes d r s' → d.pool = n → Event.loan? ⟨d, s.yard.created, r⟩ = some x →
      ∀ y ∈ loans (s.eventsOf n),
        y.lease.slot ≠ x.lease.slot ∧ y.lease.resource ≠ x.lease.resource := by
  have hc := course_of_run hs hp
  have hn := hc.numbered
  refine ⟨hn.distinct, ?_, ?_, ?_, hc.loans_apart, ?_⟩
  · intro slot hslot
    exact hn.below _ (List.mem_append_left _ (List.mem_map_of_mem (hn.known slot hslot)))
  · intro l hl
    obtain ⟨hpool, hmade⟩ := hc.issued_made l hl
    refine ⟨hpool, hmade, ?_⟩
    intro l' hl' he
    obtain ⟨hpool', hmade'⟩ := hc.issued_made l' hl'
    have hslot := hn.made_inj hmade' hmade he
    cases l
    cases l'
    simp_all
  · intro slot ht
    have hg : slot ∈ guards (loans (s.eventsOf n)) := by
      apply hc.lent.guarded.symm.subset
      exact List.mem_filterMap.mpr ⟨_, List.mem_filter.mpr ⟨ht, by simp [Task.pool]⟩, rfl⟩
    exact mem_guards hg
  · intro d r s' x h hd hx
    exact h.loans_apart hs hp hd hx

theorem exclusive_use_crowd : ∃ s p,
    run (.addPool "db" ⟨0, 3⟩ {} :: crowd) = some s ∧ s.yard.pools[0]? = some p ∧
    p.drained = false ∧ loans (s.eventsOf 0) = [⟨.checkout, ⟨0, 2, 0⟩⟩] ∧
    ∀ x ∈ loans (s.eventsOf 0), x.slot ∈ p.loaned ∧
      x.lease.resource ∉ p.free.map Slot.resource := by
  have hs : run (.addPool "db" ⟨0, 3⟩ {} :: crowd) = some _ := rfl
  obtain ⟨-, -, -, -, hout, -⟩ := exclusive_use (n := 0) hs rfl
  exact ⟨_, _, hs, rfl, rfl, rfl, (hout rfl).1⟩

end History
end Tenancy.Yard
