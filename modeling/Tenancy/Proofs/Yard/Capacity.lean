import Tenancy.Proofs.Yard.Course

namespace Tenancy.Yard

variable {n created created' : Nat} {p p' : Pool} {d : Deed} {r : Reaction} {new ts : List Task}
  {es : List Event}

@[simp] theorem running_cons_allocating :
    running (.allocating n slot use :: ts) = running ts + 1 := by
  simp [running]

@[simp] theorem running_cons_discarding : running (.discarding n :: ts) = running ts := by
  simp [running]

@[simp] theorem running_cons_destroying :
    running (.destroying n rest total :: ts) = running ts := by
  simp [running]

@[simp] theorem running_cons_holding : running (.holding n slot :: ts) = running ts := by
  simp [running]

@[simp] theorem running_handing (use : Use) :
    running ((handing n slot use).2 ++ ts) = running ts := by
  cases use <;> simp [handing]

@[simp] theorem running_giving (resources : List Nat) :
    running ((giving n total resources).2 ++ ts) = running ts := by
  cases resources <;> simp [giving]

theorem running_pos (h : .allocating n slot use ∈ ts) : 0 < running ts :=
  List.countP_pos_iff.mpr ⟨_, h, rfl⟩

theorem running_quiet (h : Quiet ts) : running ts = 0 := by
  apply List.countP_eq_zero.mpr
  intro t ht
  obtain ⟨n, slot, rfl⟩ := h t ht
  simp

/-- A slot is taken when a resource begins to be made and retired when that has ended, whatever the
end. -/
theorem Turn.pending (h : Turn n created p d r p' new created')
    (hp : p.pending = running (d.answered ++ ts)) : p'.pending = running (new ++ ts) := by
  cases h with
  | lend | lendLate | notMade =>
    simp only [Deed.answered, List.cons_append, List.nil_append, running_cons_allocating] at hp
    simp [Pool.settle, Pool.lend, hp]
  | announce => simpa [Pool.announce, Deed.answered] using hp
  | _ => simpa [Pool.trim, Pool.drain, Deed.answered] using hp

theorem Course.pending (h : Course n created p ts es) : p.pending = running ts := by
  induction h with
  | new hp =>
    rw [Pool.of?_ok hp]
    rfl
  | later _ _ ih => exact ih
  | perm _ ht ih => exact ih.trans (ht.countP_eq _)
  | turn _ _ ht ih => exact ht.pending ih

theorem Turn.bounds (h : Turn n created p d r p' new created') : p'.bounds = p.bounds := by
  cases h <;> simp [Pool.announce, Pool.settle, Pool.lend, Pool.trim, Pool.drain]

/-- A pool with a greatest size has no more resources than that, those in the making included. -/
def Fits (p : Pool) : Prop :=
  0 < p.bounds.maxSize → p.live + p.pending ≤ p.bounds.maxSize

/-- What the maker hands over takes the place of the slot that was pending for it. -/
theorem Turn.fits (h : Turn n created p d r p' new created')
    (hp : p.pending = running (d.answered ++ ts)) (hf : Fits p) : Fits p' := by
  intro hm
  rw [h.bounds] at hm ⊢
  have hf := hf hm
  cases h with
  | reuse hd hfree =>
    simp only [Pool.live, hfree, List.length_cons] at hf ⊢
    omega
  | announce hd hfree hroom =>
    have hroom : ¬p.bounds.maxSize ≤ p.live + p.pending := by
      intro hle
      simp [Pool.isFull_iff.mpr ⟨hm, hle⟩] at hroom
    simp only [Pool.announce, Pool.live] at hroom ⊢
    omega
  | release | dropGuard =>
    rw [Pool.takeBack_pending]
    exact Nat.le_trans (Nat.add_le_add_right Pool.live_takeBack_le _) hf
  | trim =>
    exact Nat.le_trans (Nat.add_le_add_right (p.live_trim_le _) _) hf
  | drain =>
    rw [Pool.live_drain]
    exact Nat.le_trans (Nat.add_le_add_right (Nat.zero_le _) _) hf
  | lend =>
    simp only [Deed.answered, List.cons_append, List.nil_append, running_cons_allocating] at hp
    simp only [Pool.live, Pool.settle, Pool.lend, List.length_cons] at hf ⊢
    omega
  | lendLate | notMade =>
    simp only [Pool.live, Pool.settle] at hf ⊢
    omega
  | _ => exact hf

theorem Course.fits (h : Course n created p ts es) : Fits p := by
  induction h with
  | new hp =>
    rw [Pool.of?_ok hp]
    exact fun _ => Nat.zero_le _
  | later _ _ ih => exact ih
  | perm _ _ ih => exact ih
  | turn hc _ ht ih => exact ht.fits hc.pending ih

namespace History

variable {s s' s₀ : History} {before after : List Move} {bounds : PoolBounds}

/-- A pool stays in its place and keeps its bounds. -/
theorem advance_bounds {m : Move} (h : s.advance m = some s')
    (hp : ∃ p, s.yard.pools[n]? = some p ∧ p.bounds = bounds) :
    ∃ p, s'.yard.pools[n]? = some p ∧ p.bounds = bounds :=
  advance_keeps (fun turn hb => turn.bounds.trans hb) h hp

theorem advance_addPool (h : s.advance (.addPool label bounds settings) = some s') :
    ∃ p, s'.yard.pools[s.yard.pools.length]? = some p ∧ p.bounds = bounds := by
  obtain ⟨p, hp, rfl⟩ := Option.map_eq_some_iff.mp h
  refine ⟨p, by simp [addPool], ?_⟩
  rw [Pool.of?_ok (ok_of_toOption hp)]

/-- A pool made with a greatest size never has more resources than that, however operations nest:
those in the making count. -/
theorem capacity_respected (h₀ : run before = some s₀) (hm : 0 < bounds.maxSize)
    (hs : run (before ++ .addPool label bounds settings :: after) = some s) :
    ∃ p, s.yard.pools[s₀.yard.pools.length]? = some p ∧ p.bounds = bounds ∧
      p.free.length + p.loaned.length + p.pending ≤ bounds.maxSize := by
  have hafter := hs
  rw [run_append h₀, runFrom, List.foldlM_cons] at hafter
  obtain ⟨s₁, h₁, hafter⟩ := Option.bind_eq_some_iff.mp hafter
  obtain ⟨p, hp, rfl⟩ :=
    runFrom_invariant (advance_addPool h₁) (fun _ _ _ h ht => advance_bounds ht h) hafter
  exact ⟨p, hp, rfl, (course_of_run hs hp).fits hm⟩

theorem capacity_respected_crowd : ∃ s p,
    run (.addPool "db" ⟨0, 3⟩ {} :: crowd) = some s ∧ s.yard.pools[0]? = some p ∧
    p.loaned.length = 1 ∧ p.pending = 2 ∧ p.free.length + p.loaned.length + p.pending ≤ 3 := by
  have hs : run ([] ++ .addPool "db" ⟨0, 3⟩ {} :: crowd) = some _ := rfl
  obtain ⟨p, hp, -, hfits⟩ := capacity_respected rfl (by decide) hs
  cases hp
  exact ⟨_, _, hs, rfl, rfl, rfl, hfits⟩

end History
end Tenancy.Yard
