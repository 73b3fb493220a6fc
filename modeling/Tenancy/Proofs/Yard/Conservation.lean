import Tenancy.Proofs.Yard.Slots

namespace Tenancy.Yard

variable {n created created' : Nat} {p p' : Pool} {d : Deed} {r : Reaction} {new ts ts' : List Task}
  {es : List Event}

/-- What an operation is going to say it gave up. A resource made too late counts for one. -/
def promise : Task → Nat
  | .destroying _ _ total => total
  | .discarding _ => 1
  | _ => 0

def promised : List Task → Nat
  | [] => 0
  | t :: ts => promise t + promised ts

@[simp] theorem destroyed_handing (d : Deed) (next : Nat) (use : Use) :
    destroyed [⟨d, next, (handing n slot use).1⟩] = [] := by
  cases use <;> rfl

@[simp] theorem doomed_handing (use : Use) : doomed (handing n slot use).2 = [] := by
  cases use <;> rfl

@[simp] theorem counted_handing (d : Deed) (next : Nat) (use : Use) :
    counted [⟨d, next, (handing n slot use).1⟩] = 0 := by
  cases use <;> rfl

@[simp] theorem promised_handing (use : Use) : promised (handing n slot use).2 = 0 := by
  cases use <;> rfl

theorem destroyed_giving (n total : Nat) (d : Deed) (next : Nat) (resources : List Nat) :
    destroyed [⟨d, next, (giving n total resources).1⟩] ++ doomed (giving n total resources).2 =
      resources := by
  cases resources <;> simp [giving, destroyed, doomed, Event.destroyed?]

theorem count_giving (n total : Nat) (d : Deed) (next : Nat) (resources : List Nat) (x : Nat) :
    (destroyed [⟨d, next, (giving n total resources).1⟩]).count x +
      (doomed (giving n total resources).2).count x = resources.count x := by
  rw [← List.count_append, destroyed_giving]

theorem length_giving (n total : Nat) (d : Deed) (next : Nat) (resources : List Nat) :
    (destroyed [⟨d, next, (giving n total resources).1⟩]).length +
      (doomed (giving n total resources).2).length = resources.length := by
  rw [← List.length_append, destroyed_giving]

/-- Either the operation tells its total now, or it still owes it. -/
theorem counted_giving (n total : Nat) (d : Deed) (next : Nat) (resources : List Nat) :
    counted [⟨d, next, (giving n total resources).1⟩] +
      promised (giving n total resources).2 = total := by
  cases resources <;> simp [giving, counted, promised, promise, Event.counted]

@[simp] theorem doomed_destroying (n total : Nat) (rest : List Nat) :
    doomed [.destroying n rest total] = rest := by
  simp [doomed]

theorem count_slots {slots slots' : List Slot} (h : slots.Perm slots') (x : Nat) :
    (slots.map Slot.resource).count x = (slots'.map Slot.resource).count x :=
  (h.map Slot.resource).count_eq x

/-- The slots that a pool loses are destroyed at once or later. -/
theorem count_lost {lost slots slots' : List Slot} (h : (lost ++ slots').Perm slots) (n : Nat)
    (d : Deed) (next x : Nat) :
    (slots.map Slot.resource).count x = (slots'.map Slot.resource).count x +
      (destroyed [⟨d, next, (giving n lost.length (lost.map Slot.resource)).1⟩]).count x +
        (doomed (giving n lost.length (lost.map Slot.resource)).2).count x := by
  have hgiven := count_giving n lost.length d next (lost.map Slot.resource) x
  have hlost := count_slots h x
  rw [List.map_append, List.count_append] at hlost
  omega

/-- Their number is told now, or still owed. -/
theorem tally_lost (lost : List Slot) (n : Nat) (d : Deed) (next : Nat) :
    (destroyed [⟨d, next, (giving n lost.length (lost.map Slot.resource)).1⟩]).length +
        (doomed (giving n lost.length (lost.map Slot.resource)).2).length =
      counted [⟨d, next, (giving n lost.length (lost.map Slot.resource)).1⟩] +
        promised (giving n lost.length (lost.map Slot.resource)).2 := by
  rw [length_giving, counted_giving, List.length_map]

/-- What a step brings in or takes over it passes on: to the pool, to be destroyed at once, or to be
destroyed later. -/
theorem Turn.balance (h : Turn n created p d r p' new created')
    (hu : (p.loaned.map Slot.id).Nodup) (x : Nat) :
    (p.slots.map Slot.resource).count x + ((made [⟨d, created, r⟩]).map Slot.resource).count x +
        (doomed d.answered).count x =
      (p'.slots.map Slot.resource).count x + (destroyed [⟨d, created, r⟩]).count x +
        (doomed new).count x := by
  cases h with
  | drained | full | foreign | drainAgain | discard | announce => rfl
  | reuse hd hf =>
    rw [destroyed_handing, doomed_handing, count_slots (Pool.slots_reuse hf) x]
    rfl
  | release | dropGuard =>
    rw [count_slots (Pool.slots_takeBack hu _) x]
    rfl
  | @trim c count => exact count_lost (p.slots_trim count) n (.call c) created x
  | drain => exact count_lost (p.slots_drain _) n (.call (.drain n)) created x
  | @destroyNext rest total =>
    have hgiven := count_giving n total (.answer (.destroying n rest total) .destroyed)
      created rest x
    simp only [Deed.answered, doomed_destroying]
    change _ + 0 + _ = _
    omega
  | @lend slot use =>
    have hnew : (p.settle.lend ⟨slot, created⟩).slots.Perm (⟨slot, created⟩ :: p.slots) :=
      List.perm_middle
    rw [destroyed_handing, doomed_handing, count_slots hnew x, List.map_cons, List.count_cons]
    simp only [made, Event.made?, List.filterMap_cons, List.filterMap_nil, List.map_cons,
      List.map_nil, List.count_cons, List.count_nil]
    change _ + 0 = _ + 0 + 0
    omega
  | lendLate =>
    change _ + _ + 0 = _ + _ + 0
    rfl
  | notMade ho =>
    obtain ⟨rfl, rfl⟩ | ⟨rfl, rfl⟩ := ho <;> rfl

/-- Whatever a step destroys or takes over to destroy, it counts or goes on promising. -/
theorem Turn.tally (h : Turn n created p d r p' new created') :
    (destroyed [⟨d, created, r⟩]).length + (doomed new).length + promised d.answered =
      counted [⟨d, created, r⟩] + late [⟨d, created, r⟩] + promised new +
        (doomed d.answered).length := by
  cases h with
  | drained | full | foreign | drainAgain | discard | announce | release | lendLate => rfl
  | reuse =>
    rw [destroyed_handing, doomed_handing, counted_handing, promised_handing]
    rfl
  | lend =>
    rw [destroyed_handing, doomed_handing, counted_handing, promised_handing]
    rfl
  | @trim c count => exact tally_lost (p.trim count).1 n (.call c) created
  | @drain order => exact tally_lost (p.drain order).1 n (.call (.drain n)) created
  | @destroyNext rest total =>
    have hlength := length_giving n total (.answer (.destroying n rest total) .destroyed)
      created rest
    have htotal := counted_giving n total (.answer (.destroying n rest total) .destroyed)
      created rest
    simp only [Deed.answered, doomed_destroying]
    change _ + total = _ + 0 + _ + _
    omega
  | notMade ho | dropGuard ho =>
    obtain ⟨rfl, rfl⟩ | ⟨rfl, rfl⟩ := ho <;> rfl

theorem doomed_append (ts ts' : List Task) : doomed (ts ++ ts') = doomed ts ++ doomed ts' :=
  List.flatMap_append

theorem promised_append (ts ts' : List Task) :
    promised (ts ++ ts') = promised ts + promised ts' := by
  induction ts with
  | nil => simp [promised]
  | cons t ts ih => rw [List.cons_append, promised, ih, promised, Nat.add_assoc]

theorem doomed_perm (h : ts.Perm ts') : (doomed ts).Perm (doomed ts') := h.flatMap_right _

theorem promised_perm (h : ts.Perm ts') : promised ts = promised ts' := by
  induction h with
  | nil => rfl
  | cons t _ ih => rw [promised, ih, promised]
  | swap t t' ts => exact Nat.add_left_comm _ _ _
  | trans _ _ ih ih' => exact ih.trans ih'

/-- Each resource made for the pool is as often in one of the places as it was made. -/
theorem Course.balance (h : Course n created p ts es) (x : Nat) :
    (p.slots.map Slot.resource).count x + (destroyed es).count x + (doomed ts).count x =
      ((made es).map Slot.resource).count x := by
  induction h with
  | new hp =>
    rw [Pool.of?_ok hp]
    rfl
  | later _ _ ih => exact ih
  | perm _ ht ih => rwa [← (doomed_perm ht).count_eq x]
  | @turn created _ p p' d r new ts es hc _ ht ih =>
    have hb := ht.balance hc.numbered.loaned_distinct x
    rw [destroyed_cons, made_cons, doomed_append, List.map_append, List.count_append,
      List.count_append, List.count_append]
    rw [doomed_append, List.count_append] at ih
    omega

/-- As many were destroyed as the operations said, and as they are still going to say. -/
theorem Course.tally (h : Course n created p ts es) :
    (destroyed es).length + (doomed ts).length = counted es + late es + promised ts := by
  induction h with
  | new => rfl
  | later _ _ ih => exact ih
  | perm _ ht ih => rwa [← (doomed_perm ht).length_eq, ← promised_perm ht]
  | @turn created _ p p' d r new ts es _ _ ht ih =>
    have hb := ht.tally
    rw [destroyed_cons, counted_cons, late_cons, doomed_append, promised_append,
      List.length_append, List.length_append]
    rw [doomed_append, promised_append, List.length_append] at ih
    omega

/-- No resource is destroyed twice. -/
theorem Course.destroyed_once (h : Course n created p ts es) : (destroyed es).Nodup := by
  apply List.nodup_iff_count_le_one.mpr
  intro x
  have hb := h.balance x
  have hmade := List.nodup_iff_count_le_one.mp h.numbered.fresh x
  omega

theorem doomed_quiet (h : Quiet ts) : doomed ts = [] := by
  apply List.flatMap_eq_nil_iff.mpr
  intro t ht
  obtain ⟨n, slot, rfl⟩ := h t ht
  rfl

theorem promised_quiet (h : Quiet ts) : promised ts = 0 := by
  induction ts with
  | nil => rfl
  | cons t ts ih =>
    obtain ⟨n, slot, rfl⟩ := h t List.mem_cons_self
    exact (Nat.zero_add _).trans (ih fun t ht => h t (List.mem_cons_of_mem _ ht))

namespace History

variable {s : History} {moves : List Move}

/-- Every resource made for a pool is in exactly one place: free, on loan, destroyed, or taken out
by an operation in progress that is going to destroy it. Between operations nothing is on the way,
and as many have been destroyed as the operations said, beside those that were made too late. -/
theorem resources_conserved (hs : run moves = some s) (hp : s.yard.pools[n]? = some p) :
    (p.free.map Slot.resource ++ p.loaned.map Slot.resource ++ destroyed (s.eventsOf n) ++
      doomed (s.tasksOf n)).Perm ((made (s.eventsOf n)).map Slot.resource) ∧
    (p.free.map Slot.resource ++ p.loaned.map Slot.resource ++ destroyed (s.eventsOf n) ++
      doomed (s.tasksOf n)).Nodup ∧
    (destroyed (s.eventsOf n)).Nodup ∧
    (Quiet (s.tasksOf n) →
      (p.free.map Slot.resource ++ p.loaned.map Slot.resource ++ destroyed (s.eventsOf n)).Perm
        ((made (s.eventsOf n)).map Slot.resource) ∧
      (destroyed (s.eventsOf n)).length = counted (s.eventsOf n) + late (s.eventsOf n)) := by
  have hc := course_of_run hs hp
  have hplaces : (p.free.map Slot.resource ++ p.loaned.map Slot.resource ++
      destroyed (s.eventsOf n) ++ doomed (s.tasksOf n)).Perm
      ((made (s.eventsOf n)).map Slot.resource) := by
    apply List.perm_iff_count.mpr
    intro x
    have hb := hc.balance x
    simpa only [Pool.slots, List.map_append, List.count_append] using hb
  have honce := hplaces.nodup_iff.mpr hc.numbered.fresh
  refine ⟨hplaces, honce, honce.of_append_left.of_append_right, ?_⟩
  intro hq
  have htally := hc.tally
  rw [doomed_quiet hq] at hplaces htally
  rw [promised_quiet hq] at htally
  exact ⟨by simpa using hplaces, htally⟩

theorem resources_conserved_crowd : ∃ s p,
    run (.addPool "db" ⟨0, 3⟩ {} :: crowd) = some s ∧ s.yard.pools[0]? = some p ∧
    destroyed (s.eventsOf 0) = [1] ∧ doomed (s.tasksOf 0) = [2] ∧
    (p.free.map Slot.resource ++ p.loaned.map Slot.resource ++ destroyed (s.eventsOf 0) ++
      doomed (s.tasksOf 0)).Perm ((made (s.eventsOf 0)).map Slot.resource) := by
  have hs : run (.addPool "db" ⟨0, 3⟩ {} :: crowd) = some _ := rfl
  exact ⟨_, _, hs, rfl, rfl, rfl, (resources_conserved hs rfl).1⟩

end History
end Tenancy.Yard
