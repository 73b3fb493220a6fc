import Tenancy.Proofs.Yard.Course

namespace Tenancy.Yard

variable {task : Task} {reply : Reply} {c : Call} {p : Pool} {r : Reaction}

/-- Reserving and checking out begin alike. -/
theorem start_use (y : Yard) (n : Nat) (p : Pool) (use : Use) :
    y.start n p (use.call n) = y.reserve n p use := by
  cases use <;> rfl

/-- The replies that a task waits for. -/
def Task.awaits : Task → Reply → Bool
  | .allocating .., .made | .allocating .., .nothing | .allocating .., .unwind => true
  | .discarding _, .destroyed | .destroying .., .destroyed => true
  | .holding .., .finished | .holding .., .unwind => true
  | _, _ => false

theorem exists_resume (y : Yard) (p : Pool) (h : task.awaits reply = true) :
    ∃ step, y.resume p task reply = some step := by
  cases task with
  | allocating n slot use =>
    cases reply with
    | made =>
      simp only [resume]
      split <;> exact ⟨_, rfl⟩
    | nothing => exact ⟨_, rfl⟩
    | unwind => exact ⟨_, rfl⟩
    | destroyed | finished => cases h
  | discarding n =>
    cases reply with
    | destroyed => exact ⟨_, rfl⟩
    | made | nothing | finished | unwind => cases h
  | destroying n rest total =>
    cases reply with
    | destroyed => exact ⟨_, rfl⟩
    | made | nothing | finished | unwind => cases h
  | holding n slot =>
    cases reply with
    | finished => exact ⟨_, rfl⟩
    | unwind => exact ⟨_, rfl⟩
    | made | nothing | destroyed => cases h

namespace History

variable {s s' : History}

/-- A task waits only for pools that are there. -/
theorem Followed.pool_of_task (hf : s.Followed) (ht : task ∈ s.yard.tasks) :
    ∃ p, s.yard.pools[task.pool]? = some p := by
  by_cases hlt : task.pool < s.yard.pools.length
  · exact ⟨_, List.getElem?_eq_getElem hlt⟩
  · have hnone := (hf.2 _ (Nat.le_of_not_lt hlt)).1
    have hm : task ∈ s.tasksOf task.pool := List.mem_filter.mpr ⟨ht, by simp⟩
    rw [hnone] at hm
    cases hm

/-- Whatever waits goes on when it gets a reply that it waits for. -/
theorem Followed.exists_answer (hf : s.Followed) (ht : task ∈ s.yard.tasks)
    (hr : task.awaits reply = true) : ∃ r s', s.Takes (.answer task reply) r s' := by
  obtain ⟨p, hp⟩ := hf.pool_of_task ht
  obtain ⟨i, hi⟩ := List.getElem?_of_mem ht
  obtain ⟨step, hstep⟩ := exists_resume { s.yard with tasks := s.yard.tasks.eraseIdx i } p hr
  have ha : s.yard.answer i reply = some step := by
    simp [answer, hi, hp, hstep]
  exact ⟨_, _, .answer i reply, by simp [advance, hi, ha]; rfl, rfl⟩

/-- The deed tells what was done. -/
theorem Takes.cases {d : Deed} (h : s.Takes d r s') :
    (∃ c, d = .call c ∧ s.allows c = true ∧ s.yard.call c = some (s'.yard, r) ∧
      s' = s.record d (s'.yard, r)) ∨
    ∃ i task reply, d = .answer task reply ∧ s.yard.tasks[i]? = some task ∧
      s.yard.answer i reply = some (s'.yard, r) := by
  obtain ⟨m, hm, he⟩ := h
  cases m with
  | addPool label bounds settings =>
    obtain ⟨q, -, rfl⟩ := Option.map_eq_some_iff.mp hm
    simp at he
  | call c =>
    by_cases ha : s.allows c = true
    · simp only [advance, ha, ↓reduceIte] at hm
      obtain ⟨step, hstep, rfl⟩ := Option.map_eq_some_iff.mp hm
      obtain ⟨rfl, rfl⟩ : Deed.call c = d ∧ step.2 = r := by simpa [record] using he
      exact .inl ⟨c, rfl, ha, hstep, rfl⟩
    · simp [advance, ha] at hm
  | answer i reply =>
    obtain ⟨task, ht, hm⟩ := Option.bind_eq_some_iff.mp hm
    obtain ⟨step, hstep, rfl⟩ := Option.map_eq_some_iff.mp hm
    obtain ⟨rfl, rfl⟩ : Deed.answer task reply = d ∧ step.2 = r := by simpa [record] using he
    exact .inr ⟨i, task, reply, rfl, ht, hstep⟩
  | forget lease =>
    simp only [advance] at hm
    split at hm
    · cases hm
      simp at he
    · cases hm
  | reorder order =>
    cases hm
    simp at he

/-- An operation that may begin begins in one way. -/
theorem takes_call_iff (hp : s.yard.pools[c.pool]? = some p) (ha : s.allows c = true) :
    s.Takes (.call c) r s' ↔
      r = (s.yard.start c.pool p c).2 ∧ s' = s.record (.call c) (s.yard.start c.pool p c) := by
  have hcall : s.yard.call c = some (s.yard.start c.pool p c) := by simp [call, hp]
  constructor
  · intro h
    obtain ⟨c', hc, -, hstep, hs'⟩ | ⟨i, task, reply, hc, -⟩ := h.cases
    · cases hc
      have hstart := Option.some.inj (hcall.symm.trans hstep)
      rw [hs', hstart]
      exact ⟨rfl, rfl⟩
    · cases hc
  · rintro ⟨rfl, rfl⟩
    exact ⟨.call c, by simp [advance, ha, hcall], rfl⟩

theorem allows_use (s : History) (use : Use) (n : Nat) : s.allows (use.call n) = true := by
  cases use <;> rfl

theorem exists_call (hp : s.yard.pools[c.pool]? = some p) (ha : s.allows c = true) :
    ∃ r s', s.Takes (.call c) r s' :=
  ⟨_, _, (takes_call_iff hp ha).mpr ⟨rfl, rfl⟩⟩

/-- An answer takes the task off and resumes it. -/
theorem Takes.resumed (h : s.Takes (.answer task reply) r s') :
    ∃ i p, s.yard.tasks[i]? = some task ∧ s.yard.pools[task.pool]? = some p ∧
      Yard.resume { s.yard with tasks := s.yard.tasks.eraseIdx i } p task reply =
        some (s'.yard, r) := by
  obtain ⟨c, hd, -⟩ | ⟨i, task', reply', hd, ht, hstep⟩ := h.cases
  · cases hd
  · cases hd
    simp only [answer, ht, Option.bind_some] at hstep
    obtain ⟨p, hp, hr⟩ := Option.bind_eq_some_iff.mp hstep
    exact ⟨i, p, ht, hp, hr⟩

end History
end Tenancy.Yard
