import Tenancy.Proofs.Yard.Conservation

namespace Tenancy.Yard

variable {y : Yard} {n m x created created' : Nat} {p p' : Pool} {d : Deed} {r : Reaction}
  {rest new : List Task} {step : Yard × Reaction}

def stock (y : Yard) : List Nat := (y.pools.flatMap Pool.slots).map Slot.resource ++ doomed y.tasks

/-- The yard has the resource, and has it from pool `m`. -/
def Stocks (y : Yard) (m x : Nat) : Prop :=
  (∃ p, y.pools[m]? = some p ∧ x ∈ p.slots.map Slot.resource) ∨
    ∃ task ∈ y.tasks, task.pool = m ∧ x ∈ doomed [task]

theorem mem_doomed {ts : List Task} : x ∈ doomed ts ↔ ∃ task ∈ ts, x ∈ doomed [task] := by
  simp [doomed, List.mem_flatMap]

theorem mem_stock : x ∈ y.stock ↔ ∃ m, y.Stocks m x := by
  simp only [stock, Stocks, List.mem_append, exists_or]
  refine or_congr ?_ ?_
  · simp only [List.map_flatMap, List.mem_flatMap]
    constructor
    · rintro ⟨p, hp, hx⟩
      obtain ⟨m, hm, rfl⟩ := List.mem_iff_getElem.mp hp
      exact ⟨m, _, List.getElem?_eq_getElem hm, hx⟩
    · rintro ⟨m, p, hp, hx⟩
      exact ⟨p, List.mem_of_getElem? hp, hx⟩
  · rw [mem_doomed]
    constructor
    · rintro ⟨task, ht, hx⟩
      exact ⟨task.pool, task, ht, rfl, hx⟩
    · rintro ⟨m, task, ht, -, hx⟩
      exact ⟨task, ht, hx⟩

theorem Turn.created_eq (h : Turn n created p d r p' new created') :
    created' = created + (made [⟨d, created, r⟩]).length := by
  cases h with
  | notMade ho =>
    obtain ⟨rfl, rfl⟩ | ⟨rfl, rfl⟩ := ho
    · rfl
    · rfl
  | _ => rfl

/-- A step passes on all that there is and what is made: to the yard, or to its end. -/
theorem Stride.stock (h : Stride y d.pool rest d step) (ht : y.tasks = d.answered ++ rest)
    (hu : ∀ p, y.pools[d.pool]? = some p → (p.loaned.map Slot.id).Nodup) :
    ((made [⟨d, y.created, step.2⟩]).map Slot.resource ++ y.stock).Perm
      (destroyed [⟨d, y.created, step.2⟩] ++ step.1.stock) := by
  obtain ⟨p, p', new, hp, turn, hpools, htasks⟩ := h
  obtain ⟨hn, rfl⟩ := List.getElem?_eq_some_iff.mp hp
  -- the pools before and after the one that the step is about
  have hbefore : y.pools = y.pools.take d.pool ++ y.pools[d.pool] :: y.pools.drop (d.pool + 1) := by
    rw [← List.drop_eq_getElem_cons hn, List.take_append_drop]
  have hafter : step.1.pools = y.pools.take d.pool ++ p' :: y.pools.drop (d.pool + 1) := by
    rw [hpools, List.set_eq_take_append_cons_drop, if_pos hn]
  have hbalance := turn.balance (hu _ hp)
  apply List.perm_iff_count.mpr
  intro x
  have hx := hbalance x
  rw [Yard.stock, Yard.stock, hafter, htasks, ht]
  nth_rewrite 1 [hbefore]
  simp only [List.flatMap_append, List.flatMap_cons, List.map_append, doomed_append,
    List.count_append]
  omega

/-- What a pool has after a step, it had before, or it was made for it. -/
theorem Stride.stocks (h : Stride y d.pool rest d step) (ht : y.tasks = d.answered ++ rest)
    (hu : ∀ p, y.pools[d.pool]? = some p → (p.loaned.map Slot.id).Nodup)
    (hx : step.1.Stocks m x) :
    y.Stocks m x ∨ m = d.pool ∧ x ∈ (made [⟨d, y.created, step.2⟩]).map Slot.resource := by
  obtain ⟨p, p', new, hp, turn, hpools, htasks⟩ := h
  have hbalance := turn.balance (hu p hp) x
  -- what the pool that the step is about has now
  have hown (h : x ∈ p'.slots.map Slot.resource ∨ x ∈ doomed new) :
      y.Stocks d.pool x ∨
        d.pool = d.pool ∧ x ∈ (Yard.made [⟨d, y.created, step.2⟩]).map Slot.resource := by
    have hpos : 0 < (p'.slots.map Slot.resource).count x + (doomed new).count x := by
      rcases h with h | h
      · exact Nat.add_pos_left (List.count_pos_iff.mpr h) _
      · exact Nat.add_pos_right _ (List.count_pos_iff.mpr h)
    by_cases hslots : x ∈ p.slots.map Slot.resource
    · exact .inl (.inl ⟨p, hp, hslots⟩)
    by_cases hdoomed : x ∈ doomed d.answered
    · obtain ⟨task, htask, hxt⟩ := mem_doomed.mp hdoomed
      exact .inl (.inr ⟨task, by simp [ht, htask], History.answered_pool d task htask, hxt⟩)
    · refine .inr ⟨rfl, List.count_pos_iff.mp ?_⟩
      have hnone := List.count_eq_zero.mpr hslots
      have hnone' := List.count_eq_zero.mpr hdoomed
      omega
  rcases hx with ⟨q, hq, hx⟩ | ⟨task, htask, rfl, hx⟩
  · rw [hpools] at hq
    by_cases hm : d.pool = m
    · rw [← hm, List.getElem?_set_self (List.getElem?_eq_some_iff.mp hp).1] at hq
      cases hq
      exact hm ▸ hown (.inl hx)
    · rw [List.getElem?_set_ne hm] at hq
      exact .inl (.inl ⟨q, hq, hx⟩)
  · rw [htasks] at htask
    rcases List.mem_append.mp htask with htask | htask
    · have hpool := turn.tasks_pool task htask
      rw [hpool]
      exact hown (.inr (mem_doomed.mpr ⟨task, htask, hx⟩))
    · exact .inl (.inr ⟨task, by simp [ht, htask], rfl, hx⟩)

/-- New pools are empty. -/
theorem stock_addPools {made : List Pool} (hm : ∀ p ∈ made, p.slots = []) {y' : Yard}
    (hp : y'.pools = y.pools ++ made) (ht : y'.tasks = y.tasks) : y'.stock = y.stock := by
  rw [stock, stock, hp, ht, List.flatMap_append, List.flatMap_eq_nil_iff.mpr hm, List.append_nil]

theorem stocks_addPools {made : List Pool} (hm : ∀ p ∈ made, p.slots = []) {y' : Yard}
    (hp : y'.pools = y.pools ++ made) (ht : y'.tasks = y.tasks) (hx : y'.Stocks m x) :
    y.Stocks m x := by
  rcases hx with ⟨p, hm', hx⟩ | hx
  · rw [hp] at hm'
    rcases Nat.lt_or_ge m y.pools.length with hlt | hge
    · rw [List.getElem?_append_left hlt] at hm'
      exact .inl ⟨p, hm', hx⟩
    · rw [List.getElem?_append_right hge] at hm'
      rw [hm p (List.mem_of_getElem? hm')] at hx
      cases hx
  · rw [ht] at hx
    exact .inr hx

end Tenancy.Yard
