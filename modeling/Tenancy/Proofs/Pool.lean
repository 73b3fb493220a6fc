import Mathlib.Data.List.Nodup
import Tenancy.Pool

namespace Tenancy

/-- Bounds that were read have nothing left to find fault with. -/
theorem PoolBounds.check_of_ok {min max : Int} {bounds : PoolBounds}
    (h : of? min max = .ok bounds) : bounds.check = .ok bounds := by
  unfold of? at h
  split at h
  · cases h
  · split at h
    · cases h
    · split at h
      · cases h
      · cases h
        refine if_neg ?_
        simp only
        omega

namespace Pool

variable {p : Pool} {id : Nat}

/-- The pool after somebody came to give that number back, whether or not it was on loan. -/
def takeBack (p : Pool) (id : Nat) : Pool := (p.giveBack? id).getD p

/-- Everything the pool has, on loan or not. -/
def slots (p : Pool) : List Slot := p.free ++ p.loaned

theorem of?_ok {name : String} {b : PoolBounds} {s : Settings} (h : of? name b s = .ok p) :
    p = { label := name, bounds := b, settings := s } := by
  unfold of? PoolBounds.check at h
  split at h
  · cases h
  · cases h
    rfl

/-- Giving back moves at most one slot, and nothing else of the pool. -/
theorem takeBack_eq (p : Pool) (id : Nat) :
    p.takeBack id = p ∨ ∃ slot ∈ p.loaned, slot.id = id ∧ p.takeBack id =
      { p with free := slot :: p.free, loaned := p.loaned.filter (·.id != id) } := by
  unfold takeBack giveBack?
  cases hf : p.loaned.find? (·.id == id) with
  | none => exact .inl rfl
  | some slot =>
    have hid : slot.id = id := by
      simpa using List.find?_some (p := fun s : Slot => s.id == id) hf
    exact .inr ⟨slot, List.mem_of_find?_eq_some hf, hid, rfl⟩

@[simp] theorem takeBack_bounds : (p.takeBack id).bounds = p.bounds := by
  obtain h | ⟨slot, -, -, h⟩ := p.takeBack_eq id <;> rw [h]

@[simp] theorem takeBack_pending : (p.takeBack id).pending = p.pending := by
  obtain h | ⟨slot, -, -, h⟩ := p.takeBack_eq id <;> rw [h]

@[simp] theorem takeBack_nextId : (p.takeBack id).nextId = p.nextId := by
  obtain h | ⟨slot, -, -, h⟩ := p.takeBack_eq id <;> rw [h]

@[simp] theorem takeBack_drained : (p.takeBack id).drained = p.drained := by
  obtain h | ⟨slot, -, -, h⟩ := p.takeBack_eq id <;> rw [h]

@[simp] theorem takeBack_label : (p.takeBack id).label = p.label := by
  obtain h | ⟨slot, -, -, h⟩ := p.takeBack_eq id <;> rw [h]

@[simp] theorem takeBack_settings : (p.takeBack id).settings = p.settings := by
  obtain h | ⟨slot, -, -, h⟩ := p.takeBack_eq id <;> rw [h]

/-- A pool with nothing on loan has nothing to take back. -/
theorem takeBack_of_loaned_nil (hl : p.loaned = []) : p.takeBack id = p := by
  obtain h | ⟨slot, hm, -, -⟩ := p.takeBack_eq id
  · exact h
  · simp [hl] at hm

theorem trim_of_free_nil (hf : p.free = []) (count : Nat) : p.trim count = ([], p) := by
  have htake : p.free.take (p.free.length - count) = p.free := by rw [hf, List.take_nil]
  simp only [trim, htake, Prod.mk.injEq, and_true]
  rw [hf, List.drop_nil, List.reverse_nil]

theorem live_takeBack_le : (p.takeBack id).live ≤ p.live := by
  obtain h | ⟨slot, hm, hid, h⟩ := p.takeBack_eq id
  · exact Nat.le_of_eq (congrArg live h)
  · have hlt : (p.loaned.filter (·.id != id)).length < p.loaned.length :=
      List.length_filter_lt_length_iff_exists.mpr ⟨slot, hm, by simp [hid]⟩
    rw [h]
    simp only [live, List.length_cons]
    omega

theorem live_trim_le (p : Pool) (count : Nat) : (p.trim count).2.live ≤ p.live := by
  simp only [trim, live, List.length_take]
  omega

theorem live_drain (p : Pool) (order : Arrangement Slot) : (p.drain order).2.live = 0 := rfl

theorem isFull_iff :
    p.isFull = true ↔ 0 < p.bounds.maxSize ∧ p.bounds.maxSize ≤ p.live + p.pending := by
  simp only [isFull, PoolBounds.isUnbounded, Bool.and_eq_true, Bool.not_eq_true',
    beq_eq_false_iff_ne, decide_eq_true_eq]
  omega

/-- With distinct numbers, dropping a number drops one slot. -/
theorem perm_cons_filter {slots : List Slot} {slot : Slot} (hu : (slots.map Slot.id).Nodup)
    (hm : slot ∈ slots) : slots.Perm (slot :: slots.filter (·.id != slot.id)) := by
  induction slots with
  | nil => cases hm
  | cons a slots ih =>
    obtain ⟨hn, hu⟩ := List.nodup_cons.mp hu
    rcases List.mem_cons.mp hm with rfl | hm
    · have hkeep : slots.filter (·.id != slot.id) = slots := by
        apply List.filter_eq_self.mpr
        intro b hb
        have hne : b.id ≠ slot.id := fun he => hn (List.mem_map.mpr ⟨b, hb, he⟩)
        simpa using hne
      simp [hkeep]
    · have hne : a.id ≠ slot.id := fun he => hn (List.mem_map.mpr ⟨slot, hm, he.symm⟩)
      rw [List.filter_cons_of_pos (by simpa using hne)]
      exact ((ih hu hm).cons a).trans (List.Perm.swap _ _ _)

/-- What is on loan under a number is found under it. -/
theorem takeBack_of_mem {slot : Slot} (hu : (p.loaned.map Slot.id).Nodup) (hm : slot ∈ p.loaned) :
    p.takeBack slot.id =
      { p with free := slot :: p.free, loaned := p.loaned.filter (·.id != slot.id) } := by
  unfold takeBack giveBack?
  cases hf : p.loaned.find? (·.id == slot.id) with
  | none => simpa using List.find?_eq_none.mp hf slot hm
  | some found =>
    have hid : found.id = slot.id := by
      simpa using List.find?_some (p := fun s : Slot => s.id == slot.id) hf
    obtain rfl : found = slot :=
      List.inj_on_of_nodup_map hu (List.mem_of_find?_eq_some hf) hm hid
    rfl

theorem slots_takeBack (hu : (p.loaned.map Slot.id).Nodup) (id : Nat) :
    (p.takeBack id).slots.Perm p.slots := by
  obtain h | ⟨slot, hm, rfl, h⟩ := p.takeBack_eq id
  · rw [h]
  · rw [h]
    exact (List.perm_middle.symm.trans
      ((perm_cons_filter hu hm).symm.append_left p.free))

/-- Trimming parts the free ones: those at the head stay, and the others go from the end on. -/
theorem trim_parts (p : Pool) (count : Nat) :
    p.free = (p.trim count).2.free ++ (p.trim count).1.reverse := by
  simp [Pool.trim]

theorem length_trim (p : Pool) (count : Nat) :
    (p.trim count).1.length = min count p.free.length := by
  simp only [Pool.trim, List.length_reverse, List.length_drop]
  omega

theorem slots_trim (p : Pool) (count : Nat) :
    ((p.trim count).1 ++ (p.trim count).2.slots).Perm p.slots := by
  have hfree := (List.reverse_perm (p.free.drop (p.free.length - count))).append_right
    (p.free.take (p.free.length - count))
  have hboth := List.perm_append_comm.trans
    (List.Perm.of_eq (List.take_append_drop (p.free.length - count) p.free))
  simp only [trim, slots, ← List.append_assoc]
  exact (hfree.trans hboth).append_right p.loaned

theorem slots_drain (p : Pool) (order : Arrangement Slot) :
    ((p.drain order).1 ++ (p.drain order).2.slots).Perm p.slots := by
  simp only [drain, slots, List.append_nil]
  exact (order.perm p.loaned).append_left p.free

theorem slots_reuse {slot : Slot} {free : List Slot} (hf : p.free = slot :: free) :
    { p with free, loaned := slot :: p.loaned : Pool }.slots.Perm p.slots := by
  simp only [slots, hf]
  exact List.perm_middle

end Pool
end Tenancy
