import Tenancy.Proofs.Yard.Drain
import Tenancy.Proofs.Yard.Reservation

namespace Tenancy.Yard

variable {n created created' : Nat} {p p' : Pool} {d : Deed} {new ts : List Task} {es : List Event}
  {error : PoolError} {r : Reaction}

/-- A reservation ends because nothing was made for it. -/
def Deed.unmade : Deed → Bool
  | .answer (.allocating ..) .nothing => true
  | _ => false

theorem discarding_not_mem_giving (resources : List Nat) :
    .discarding n ∉ (giving n total resources).2 := by
  cases resources <;> simp [giving]

/-- Only a drained pool destroys what was made for it at once. -/
theorem Course.discarding_drained (h : Course n created p ts es) :
    .discarding n ∈ ts → p.drained = true := by
  induction h with
  | new => simp
  | later _ _ ih => exact ih
  | perm _ ht ih => exact fun hm => ih (ht.mem_iff.mpr hm)
  | @turn _ _ _ _ d _ _ ts _ _ _ turn ih =>
    intro hm
    rcases List.mem_append.mp hm with hnew | hold
    · cases turn with
      | lendLate hd => exact hd
      | @reuse use | @lend _ use => cases use <;> simp [handing] at hnew
      | trim | drain | destroyNext => exact absurd hnew (discarding_not_mem_giving _)
      | _ => simp at hnew
    · exact turn.stays_drained (ih (List.mem_append_right _ hold))

/-- The three ways in which a reservation is refused. -/
theorem Turn.refused (h : Turn n created p d (.done (.refused error)) p' new created')
    (hd : d = .answer (.discarding n) .destroyed → p.drained = true) :
    p'.drained = p.drained ∧ p'.label = p.label ∧ d.reserves = true ∧
      (p.drained = true ∧ d.unmade = false ∧ error = .drained p.label ∨
        p.drained = false ∧ d.unmade = false ∧ error = .atCapacity p.label p.bounds.maxSize ∨
        d.unmade = true ∧ error = .unavailable p.label) := by
  generalize hr : Reaction.done (.refused error) = r at h
  cases h with
  | @drained use hdrained =>
    cases hr
    cases use <;> exact ⟨rfl, rfl, rfl, .inl ⟨hdrained, rfl, rfl⟩⟩
  | @full use hopen =>
    cases hr
    cases use <;> exact ⟨rfl, rfl, rfl, .inr (.inl ⟨hopen, rfl, rfl⟩)⟩
  | discard =>
    cases hr
    exact ⟨rfl, rfl, rfl, .inl ⟨hd rfl, rfl, rfl⟩⟩
  | notMade ho =>
    obtain ⟨rfl, rfl⟩ | ⟨rfl, rfl⟩ := ho
    · cases hr
      exact ⟨rfl, rfl, rfl, .inr (.inr ⟨rfl, rfl⟩)⟩
    · cases hr
  | @reuse use | @lend _ use => cases use <;> simp [handing] at hr
  | trim | drain | destroyNext => exact absurd hr.symm (giving_ne_refused _ _)
  | dropGuard ho => obtain ⟨-, rfl⟩ | ⟨-, rfl⟩ := ho <;> simp at hr
  | _ => simp at hr

namespace History

variable {s s' : History} {moves : List Move}

theorem Takes.unmade {slot : Nat} {use : Use}
    (h : s.Takes (.answer (.allocating n slot use) .nothing) r s')
    (hp : s.yard.pools[n]? = some p) :
    r = .done (.refused (.unavailable p.label)) ∧ s'.yard.pools[n]? = some p.settle := by
  have hlt := (List.getElem?_eq_some_iff.mp hp).1
  obtain ⟨rest, q, q', new, created, -, hq, turn, hpools, -⟩ := h.turn
  obtain rfl := Option.some.inj (hp.symm.trans hq)
  cases turn with
  | notMade ho =>
    obtain ⟨-, rfl⟩ | ⟨hno, -⟩ := ho
    · exact ⟨rfl, by rw [hpools]; exact List.getElem?_set_self hlt⟩
    · cases hno

/-- A refused reservation is worth another try exactly if its pool is open, or if nothing was made
for it: then it says that there was no connection, whether or not the pool was drained meanwhile.
Otherwise a drained pool refuses as one that is drained. -/
theorem retryable_iff_open_or_unmade (hs : run moves = some s) (hd : d.pool = n)
    (h : s.Takes d (.done (.refused error)) s') :
    ∃ p, s'.yard.pools[n]? = some p ∧ d.reserves = true ∧
      (error.kind.retryable = true ↔ p.drained = false ∨ d.unmade = true) ∧
      (d.unmade = true → error = .unavailable p.label) ∧
      (d.unmade = false → p.drained = true → error = .drained p.label) := by
  have hf := followed_of_run hs
  obtain ⟨rest, p, p', new, created, ht, hp, turn, hpools, -⟩ := h.turn
  subst hd
  have hlt := (List.getElem?_eq_some_iff.mp hp).1
  have hdiscard : d = .answer (.discarding d.pool) .destroyed → p.drained = true := by
    intro he
    have hm : .discarding d.pool ∈ s.tasksOf d.pool := by
      refine List.mem_filter.mpr ⟨ht.mem_iff.mpr ?_, by simp [Task.pool]⟩
      rw [he]
      exact List.mem_cons_self
    exact (hf.1 _ p hp).discarding_drained hm
  obtain ⟨hdrained, hlabel, hres, hways⟩ := turn.refused hdiscard
  refine ⟨p', by rw [hpools, List.getElem?_set_self hlt], hres, ?_⟩
  rw [hdrained, hlabel]
  obtain ⟨hp, hu, rfl⟩ | ⟨hp, hu, rfl⟩ | ⟨hu, rfl⟩ := hways
  · simp [hp, hu, PoolError.kind, FailureKind.retryable]
  · simp [hp, hu, PoolError.kind, FailureKind.retryable]
  · simp [hu, PoolError.kind, FailureKind.retryable]

theorem retryable_iff_open_or_unmade_crowd : ∃ s s' p,
    run (.addPool "db" ⟨0, 3⟩ {} :: crowd) = some s ∧
    s.Takes (.call (.reserve 0)) (.done (.refused (.atCapacity "db" 3))) s' ∧
    s'.yard.pools[0]? = some p ∧ p.drained = false := by
  obtain ⟨s, hs, s', h⟩ : ∃ s, run (.addPool "db" ⟨0, 3⟩ {} :: crowd) = some s ∧
      ∃ s', s.Takes (.call (.reserve 0)) (.done (.refused (.atCapacity "db" 3))) s' :=
    ⟨_, rfl, _, .call (.reserve 0), rfl, rfl⟩
  obtain ⟨p, hp, -, hretry, -⟩ := retryable_iff_open_or_unmade (n := 0) hs rfl h
  obtain hopen | hunmade := hretry.mp rfl
  · exact ⟨s, s', p, hs, h, hp, hopen⟩
  · cases hunmade

/-- Drained while a resource was being made, a pool answers that there was no connection, which is
worth another try. -/
theorem retryable_on_drained : ∃ s r s₁ s' p,
    run [.addPool "db" ⟨0, 1⟩ {}, .call (.reserve 0)] = some s ∧
    s.Takes (.call (.drain 0)) r s₁ ∧
    s₁.Takes (.answer (.allocating 0 0 .lease) .nothing) (.done (.refused (.unavailable "db"))) s' ∧
    (PoolError.unavailable "db").kind.retryable = true ∧
    s'.yard.pools[0]? = some p ∧ p.drained = true := by
  obtain ⟨s, hs, hp, ht⟩ : ∃ s, run [.addPool "db" ⟨0, 1⟩ {}, .call (.reserve 0)] = some s ∧
      s.yard.pools[0]? = some
        { label := "db", bounds := ⟨0, 1⟩, settings := {}, pending := 1, nextId := 1 } ∧
      s.yard.tasks = [.allocating 0 0 .lease] := ⟨_, rfl, by rfl, by rfl⟩
  obtain ⟨r, s₁, hdrain⟩ := exists_call (c := .drain 0) hp rfl
  have ht₁ : .allocating 0 0 .lease ∈ s₁.yard.tasks := hdrain.still_waits (by simp [ht])
  have hf₁ := hdrain.followed (followed_of_run hs)
  have hp₁ := hdrain.drain hp rfl
  have ha : Task.awaits (.allocating 0 0 .lease) .nothing = true := rfl
  obtain ⟨r', s', h⟩ := hf₁.exists_answer ht₁ ha
  obtain ⟨rfl, hp'⟩ := h.unmade hp₁
  exact ⟨s, r, s₁, s', _, hs, hdrain, h, rfl, hp', rfl⟩

end History
end Tenancy.Yard
