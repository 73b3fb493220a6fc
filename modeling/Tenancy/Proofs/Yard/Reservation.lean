import Tenancy.Proofs.Yard.Capacity
import Tenancy.Proofs.Yard.Progress

namespace Tenancy.Yard

variable {n created created' : Nat} {p p' : Pool} {d : Deed} {r : Reaction} {new : List Task}

/-- The deed begins a reservation or goes on with one. -/
def Deed.reserves : Deed → Bool
  | .call (.reserve _) | .call (.checkout _) => true
  | .answer (.allocating ..) _ | .answer (.discarding _) _ => true
  | _ => false

/-- Only handing out moves slots in a reservation. -/
theorem Turn.reserves_untouched (h : Turn n created p d r p' new created')
    (hd : d.reserves = true) (hr : Event.loan? ⟨d, created, r⟩ = none) :
    p'.free = p.free ∧ p'.loaned = p.loaned := by
  cases h with
  | @reuse use | @lend _ use => cases use <;> simp [handing, Event.loan?] at hr
  | trim hc =>
    obtain rfl | ⟨rfl, -⟩ := hc <;> simp [Deed.reserves] at hd
  | release | dropGuard | drain => simp [Deed.reserves] at hd
  | _ => exact ⟨rfl, rfl⟩

/-- The pools have the slots free that they had, and the same on loan. -/
def Unmoved (before after : List Pool) : Prop :=
  ∀ (k : Nat) (p : Pool), before[k]? = some p →
    ∃ p', after[k]? = some p' ∧ p'.free = p.free ∧ p'.loaned = p.loaned

theorem Unmoved.refl (pools : List Pool) : Unmoved pools pools :=
  fun _ p hp => ⟨p, hp, rfl, rfl⟩

theorem Stride.unmoved {y : Yard} {rest : List Task} {step : Yard × Reaction}
    (h : Stride y d.pool rest d step) (hd : d.reserves = true)
    (hr : Event.loan? ⟨d, y.created, step.2⟩ = none) : Unmoved y.pools step.1.pools := by
  intro k p hp
  obtain ⟨p', hp', hown, hother⟩ := h.pool hp
  by_cases hk : d.pool = k
  · obtain ⟨new, created, turn⟩ := hown hk
    exact ⟨p', hp', turn.reserves_untouched hd hr⟩
  · rw [hother hk] at hp'
    exact ⟨p, hp', rfl, rfl⟩

theorem Turn.atCapacity
    (h : Turn n created p d (.done (.refused (.atCapacity label size))) p' new created') :
    p.drained = false ∧ p.free = [] ∧ p.isFull = true ∧ ∃ use : Use, d = .call (use.call n) := by
  generalize hr : Reaction.done (.refused (.atCapacity label size)) = r at h
  cases h with
  | @full use hd hf hm => exact ⟨hd, hf, hm, use, rfl⟩
  | @reuse use | @lend _ use => cases use <;> simp [handing] at hr
  | trim | drain | destroyNext => exact absurd hr.symm (giving_ne_refused _ _)
  | notMade ho | dropGuard ho => obtain ⟨-, rfl⟩ | ⟨-, rfl⟩ := ho <;> simp at hr
  | _ => simp at hr

theorem reserve_full (hd : p.drained = false) (hf : p.free = []) (hm : p.isFull = true) (y : Yard)
    (use : Use) :
    y.reserve n p use = (y.count p .atCapacity,
      .done (.refused (.atCapacity p.label p.bounds.maxSize))) := by
  simp [reserve, hd, Pool.reuse?, hf, hm]

theorem reserve_free {slot : Slot} {free : List Slot} (hd : p.drained = false)
    (hf : p.free = slot :: free) (y : Yard) (use : Use) :
    y.reserve n p use =
      (((y.put n { p with free, loaned := slot :: p.loaned }).count
        { p with free, loaned := slot :: p.loaned } .reused).publish
          { p with free, loaned := slot :: p.loaned }).handOut n slot use := by
  simp [reserve, hd, Pool.reuse?, hf]

namespace History

variable {s s' s₁ s₂ s₃ s₄ : History} {moves : List Move}

/-- A reservation on pool `n` that hands nothing out, from its first step to its last. It is refused
at once, or its maker has nothing for it or breaks off, or what the maker has is too late and is
destroyed. `gaps` are the stretches between its own steps, in which anything may go on. -/
inductive Fruitless (n : Nat) (use : Use) :
    History → List (History × History) → History → Prop
  | refused {s s' error} (h : s.Takes (.call (use.call n)) (.done (.refused error)) s') :
      Fruitless n use s [] s'
  | unmade {s s₁ s₂ s' moves slot rest reply o}
      (h₁ : s.Takes (.call (use.call n)) (.allocate n) s₁)
      (ht : s₁.yard.tasks = .allocating n slot use :: rest) (hg : s₁.runFrom moves = some s₂)
      (h₂ : s₂.Takes (.answer (.allocating n slot use) reply) (.done o) s')
      (ho : o = .unwound ∨ ∃ error, o = .refused error) :
      Fruitless n use s [(s₁, s₂)] s'
  | late {s s₁ s₂ s₃ s₄ s' moves moves' slot rest resource error}
      (h₁ : s.Takes (.call (use.call n)) (.allocate n) s₁)
      (ht : s₁.yard.tasks = .allocating n slot use :: rest) (hg : s₁.runFrom moves = some s₂)
      (h₂ : s₂.Takes (.answer (.allocating n slot use) .made) (.destroy n resource) s₃)
      (hg' : s₃.runFrom moves' = some s₄)
      (h₃ : s₄.Takes (.answer (.discarding n) .destroyed) (.done (.refused error)) s') :
      Fruitless n use s [(s₁, s₂), (s₃, s₄)] s'

/-- Every pool has the same slots free and the same on loan. -/
def Untouched (s s' : History) : Prop :=
  ∀ (k : Nat) (p : Pool), s.yard.pools[k]? = some p →
    ∃ p', s'.yard.pools[k]? = some p' ∧ p'.free = p.free ∧ p'.loaned = p.loaned

/-- Outside the gaps nothing was touched. -/
def UntouchedOutside : History → List (History × History) → History → Prop
  | s, [], s' => Untouched s s'
  | s, (a, b) :: gaps, s' => Untouched s a ∧ UntouchedOutside b gaps s'

theorem Takes.untouched (h : s.Takes d r s') (hd : d.reserves = true)
    (hr : Event.loan? ⟨d, s.yard.created, r⟩ = none) : Untouched s s' := by
  obtain ⟨rest, -, hs⟩ := h.stride
  exact hs.unmoved hd hr

theorem reserves_call (use : Use) (n : Nat) : Deed.reserves (.call (use.call n)) = true := by
  cases use <;> rfl

theorem Fruitless.untouchedOutside {use : Use} {gaps : List (History × History)}
    (h : Fruitless n use s gaps s') : UntouchedOutside s gaps s' := by
  have hc := reserves_call use n
  cases h with
  | refused h => exact h.untouched hc rfl
  | unmade h₁ _ _ h₂ ho =>
    refine ⟨h₁.untouched hc rfl, h₂.untouched rfl ?_⟩
    obtain rfl | ⟨error, rfl⟩ := ho <;> rfl
  | late h₁ _ _ h₂ _ h₃ =>
    exact ⟨h₁.untouched hc rfl, h₂.untouched rfl rfl, h₃.untouched rfl rfl⟩

theorem Takes.atCapacity (h : s.Takes d (.done (.refused (.atCapacity label size))) s')
    (hd : d.pool = n) (hp : s.yard.pools[n]? = some p) :
    p.drained = false ∧ p.free = [] ∧ p.isFull = true ∧ ∃ use : Use, d = .call (use.call n) := by
  obtain ⟨p', -, hown, -⟩ := h.pool hp
  obtain ⟨new, created, turn⟩ := hown hd
  exact turn.atCapacity

theorem takes_atCapacity_iff (hp : s.yard.pools[n]? = some p) (use : Use) :
    (∃ s' label size,
      s.Takes (.call (use.call n)) (.done (.refused (.atCapacity label size))) s') ↔
    p.drained = false ∧ p.free = [] ∧ p.isFull = true := by
  constructor
  · rintro ⟨s', label, size, h⟩
    obtain ⟨hd, hf, hm, -⟩ := h.atCapacity (Use.pool_call use n) hp
    exact ⟨hd, hf, hm⟩
  · rintro ⟨hd, hf, hm⟩
    have hp' : s.yard.pools[(use.call n).pool]? = some p := by rwa [Use.pool_call]
    refine ⟨_, p.label, p.bounds.maxSize,
      (takes_call_iff hp' (allows_use s use n)).mpr ⟨?_, rfl⟩⟩
    rw [Use.pool_call, start_use, reserve_full hd hf hm]

/-- No capacity is lost: what is pending is being made, so the count never drops below zero and is
zero between operations. A reservation is refused for want of room exactly when lent and pending
resources fill the pool, and one that hands nothing out moves nothing by itself. -/
theorem no_capacity_lost (hs : run moves = some s) (hp : s.yard.pools[n]? = some p) :
    p.pending = running (s.tasksOf n) ∧
    (∀ slot use, .allocating n slot use ∈ s.yard.tasks → 0 < p.pending) ∧
    (Quiet (s.tasksOf n) → p.pending = 0) ∧
    (∀ use : Use,
      (∃ s' label size,
        s.Takes (.call (use.call n)) (.done (.refused (.atCapacity label size))) s') ↔
      p.drained = false ∧ p.free = [] ∧ 0 < p.bounds.maxSize ∧
        p.bounds.maxSize ≤ p.loaned.length + running (s.tasksOf n)) ∧
    (∀ d label size s', d.pool = n → s.Takes d (.done (.refused (.atCapacity label size))) s' →
      ∃ use : Use, d = .call (use.call n)) ∧
    ∀ use gaps s', Fruitless n use s gaps s' → UntouchedOutside s gaps s' := by
  have hpending := (course_of_run hs hp).pending
  refine ⟨hpending, ?_, ?_, ?_, ?_, fun _ _ _ h => h.untouchedOutside⟩
  · intro slot use ht
    rw [hpending]
    exact running_pos (List.mem_filter.mpr ⟨ht, by simp [Task.pool]⟩)
  · intro hq
    rw [hpending, running_quiet hq]
  · intro use
    rw [takes_atCapacity_iff hp use, ← hpending, Pool.isFull_iff]
    constructor
    · rintro ⟨hd, hf, hm, hle⟩
      exact ⟨hd, hf, hm, by simpa [Pool.live, hf] using hle⟩
    · rintro ⟨hd, hf, hm, hle⟩
      exact ⟨hd, hf, hm, by simpa [Pool.live, hf] using hle⟩
  · intro d label size s' hd h
    exact (h.atCapacity hd hp).2.2.2

theorem no_capacity_lost_crowd : ∃ s p,
    run (.addPool "db" ⟨0, 3⟩ {} :: crowd) = some s ∧ s.yard.pools[0]? = some p ∧
    p.loaned.length = 1 ∧ running (s.tasksOf 0) = 2 ∧ p.pending = running (s.tasksOf 0) ∧
    ∃ s' label size,
      s.Takes (.call (.reserve 0)) (.done (.refused (.atCapacity label size))) s' := by
  have hs : run (.addPool "db" ⟨0, 3⟩ {} :: crowd) = some _ := rfl
  obtain ⟨hpending, -, -, hfull, -⟩ := no_capacity_lost (n := 0) hs rfl
  exact ⟨_, _, hs, rfl, rfl, rfl, hpending, (hfull .lease).mpr ⟨rfl, rfl, by decide, by decide⟩⟩

end History
end Tenancy.Yard
