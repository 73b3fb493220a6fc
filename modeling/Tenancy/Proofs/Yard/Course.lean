import Mathlib.Data.List.Perm.Basic
import Tenancy.Proofs.Basic
import Tenancy.Proofs.Yard.Turn

namespace Tenancy.Yard

/-- The task that the deed takes off the waiting ones. -/
def Deed.answered : Deed → List Task
  | .call _ => []
  | .answer task _ => [task]

/-- The deed gives up free resources, also of a drained pool, which has none. -/
def Deed.Trims (deed : Deed) : Prop :=
  (∃ n count, deed = .call (.trim n count)) ∨ ∃ n, deed = .call (.shrink n)

/-- One step of the yard; a reply goes to the task on top. -/
inductive Does (y : Yard) : Deed → Yard × Reaction → Prop
  | call {c step} (h : y.call c = some step) : Does y (.call c) step
  | reply {task tasks r step} (ht : y.tasks = task :: tasks) (h : y.reply r = some step) :
      Does y (.answer task r) step

theorem Does.stride {y : Yard} {d : Deed} {step : Yard × Reaction} (h : y.Does d step) :
    ∃ rest, y.tasks = d.answered ++ rest ∧ Stride y d.pool rest d step := by
  cases h with
  | call h => exact ⟨y.tasks, rfl, call_stride h⟩
  | @reply task tasks r _ ht h =>
    have hs := answer_stride (i := 0) (by rw [ht]; rfl) h
    rw [ht] at hs
    exact ⟨tasks, ht, hs⟩

/-- A lease that comes back to its own pool was handed out and is not back yet. -/
def Deed.Fair (es : List Event) : Deed → Prop
  | .call (.release n lease) => lease.pool = n → ⟨.lease, lease⟩ ∈ loans es
  | _ => True

/-- Pool `n`, the tasks that wait for it and the steps it has taken, beside the number of resources
made on the whole yard. What holds of a pool throughout is shown by induction on this. -/
inductive Course (n : Nat) : Nat → Pool → List Task → List Event → Prop
  | new {created label bounds settings p} (hp : Pool.of? label bounds settings = .ok p) :
      Course n created p [] []
  /-- Other pools get resources. -/
  | later {created created' p ts es} (h : Course n created p ts es) (hc : created ≤ created') :
      Course n created' p ts es
  /-- The order of the tasks means nothing to the pool. -/
  | perm {created p ts ts' es} (h : Course n created p ts es) (ht : ts.Perm ts') :
      Course n created p ts' es
  | turn {created created' p p' d r new ts es} (h : Course n created p (d.answered ++ ts) es)
      (hd : Deed.Fair es d) (ht : Turn n created p d r p' new created') :
      Course n created' p' (new ++ ts) (⟨d, created, r⟩ :: es)

namespace History

/-- Each pool of the yard is on its course, and of a pool not yet made nothing is known. -/
def Followed (s : History) : Prop :=
  (∀ n p, s.yard.pools[n]? = some p →
    Course n s.yard.created p (s.tasksOf n) (s.eventsOf n)) ∧
  ∀ n, s.yard.pools.length ≤ n → s.tasksOf n = [] ∧ s.eventsOf n = []

variable {s s' : History} {moves : List Move} {n k : Nat} {p : Pool}

theorem filter_pool_eq {ts : List Task} (h : ∀ t ∈ ts, t.pool = n) :
    ts.filter (fun t => t.pool == n) = ts :=
  List.filter_eq_self.mpr fun t ht => by simpa using h t ht

theorem filter_pool_nil {ts : List Task} (h : ∀ t ∈ ts, t.pool = k) (hn : n ≠ k) :
    ts.filter (fun t => t.pool == n) = [] :=
  List.filter_eq_nil_iff.mpr fun t ht => by simpa [h t ht] using hn.symm

theorem answered_pool (d : Deed) : ∀ t ∈ d.answered, t.pool = d.pool := by
  intro t ht
  cases d with
  | call c => simp [Deed.answered] at ht
  | answer task r =>
    simp only [Deed.answered, List.mem_singleton] at ht
    subst ht
    rfl

theorem eventsOf_record (s : History) (d : Deed) (step : Yard × Reaction) (n : Nat) :
    (s.record d step).eventsOf n =
      if d.pool = n then ⟨d, s.yard.created, step.2⟩ :: s.eventsOf n else s.eventsOf n := by
  by_cases h : d.pool = n <;> simp [eventsOf, record, h]

theorem followed_start : ({} : History).Followed :=
  ⟨fun n p hp => by simp at hp, fun n _ => ⟨rfl, rfl⟩⟩

theorem followed_addPool (hf : s.Followed) (hp : Pool.of? label bounds settings = .ok p) :
    { s with yard := s.yard.addPool p : History }.Followed := by
  refine ⟨?_, ?_⟩
  · intro n q hq
    simp only [addPool] at hq
    by_cases hn : n < s.yard.pools.length
    · rw [List.getElem?_append_left hn] at hq
      exact hf.1 n q hq
    · rw [List.getElem?_append_right (Nat.le_of_not_lt hn)] at hq
      obtain ⟨ht, he⟩ := hf.2 n (Nat.le_of_not_lt hn)
      have hqp : q = p := by simpa using List.mem_of_getElem? hq
      subst hqp
      change Course n _ q (s.tasksOf n) (s.eventsOf n)
      rw [ht, he]
      exact .new hp
  · intro n hn
    simp only [addPool, List.length_append] at hn
    exact hf.2 n (by omega)

/-- Pools are made under new numbers. -/
theorem Followed.addPools {y : Yard} {es : List Event} {made : List Pool}
    (hf : (⟨y, es⟩ : History).Followed)
    (hm : ∀ p ∈ made, Pool.of? p.label p.bounds p.settings = .ok p) :
    (⟨made.foldl addPool y, es⟩ : History).Followed := by
  induction made generalizing y with
  | nil => exact hf
  | cons p made ih =>
    apply ih (followed_addPool (s := ⟨y, es⟩) hf (hm p List.mem_cons_self))
    exact fun q hq => hm q (List.mem_cons_of_mem p hq)

/-- Pools, tasks and the number of resources made say which course the pools are on. -/
theorem Followed.congr {y y' : Yard} {es : List Event} (hf : (⟨y, es⟩ : History).Followed)
    (hp : y'.pools = y.pools) (hc : y'.created = y.created) (ht : y'.tasks = y.tasks) :
    (⟨y', es⟩ : History).Followed := by
  simpa only [Followed, tasksOf, eventsOf, hp, hc, ht] using hf

/-- A step follows its own pool by a turn, and every other pool by nothing. -/
theorem followed_record {d : Deed} {rest : List Task} {step : Yard × Reaction} (hf : s.Followed)
    (ht : s.yard.tasks.Perm (d.answered ++ rest)) (hd : Deed.Fair (s.eventsOf d.pool) d)
    (hs : Stride s.yard d.pool rest d step) : (s.record d step).Followed := by
  obtain ⟨p, p', new, hp, turn, hpools, htasks⟩ := hs
  have hlt := (List.getElem?_eq_some_iff.mp hp).1
  have hperm (n : Nat) := ht.filter fun t => t.pool == n
  refine ⟨?_, ?_⟩
  · intro n q hq
    simp only [record, hpools] at hq
    rw [eventsOf_record]
    simp only [tasksOf, record, htasks, List.filter_append]
    by_cases hn : d.pool = n
    · subst hn
      rw [List.getElem?_set_self hlt, Option.some.injEq] at hq
      subst hq
      rw [if_pos rfl, filter_pool_eq turn.tasks_pool]
      refine .turn ((hf.1 _ p hp).perm ?_) hd turn
      have := hperm d.pool
      rwa [List.filter_append, filter_pool_eq (answered_pool d)] at this
    · rw [List.getElem?_set_ne hn] at hq
      rw [if_neg hn, filter_pool_nil turn.tasks_pool (Ne.symm hn), List.nil_append]
      refine ((hf.1 n q hq).perm ?_).later turn.created_le
      have := hperm n
      rwa [List.filter_append, filter_pool_nil (answered_pool d) (Ne.symm hn),
        List.nil_append] at this
  · intro n hn
    simp only [record, hpools, List.length_set] at hn
    have hne : d.pool ≠ n := by omega
    obtain ⟨hnone, hevents⟩ := hf.2 n hn
    rw [eventsOf_record, if_neg hne]
    refine ⟨?_, hevents⟩
    simp only [tasksOf, record, htasks, List.filter_append]
    rw [filter_pool_nil turn.tasks_pool (Ne.symm hne), List.nil_append]
    have := hperm n
    rw [List.filter_append, filter_pool_nil (answered_pool d) (Ne.symm hne),
      List.nil_append, show s.yard.tasks.filter _ = [] from hnone] at this
    exact List.nil_perm.mp this

theorem fair_of_allows {c : Call} (h : s.allows c = true) :
    Deed.Fair (s.eventsOf c.pool) (.call c) := by
  cases c with
  | release n lease =>
    intro hl
    change _ ∈ loans (s.eventsOf n)
    rw [← hl]
    simpa [allows, isOut] using h
  | _ => trivial

theorem fair_answer (es : List Event) (task : Task) (r : Reply) :
    Deed.Fair es (.answer task r) := trivial

/-- A move makes a pool, or changes nothing but the order of what is given up, or is a step of one
pool. -/
theorem advance_cases {m : Move} (h : s.advance m = some s') :
    (∃ label bounds settings p, Pool.of? label bounds settings = .ok p ∧
      s' = { s with yard := s.yard.addPool p }) ∨
    (∃ order, s' = { s with yard := { s.yard with order } }) ∨
    ∃ d rest step, Deed.Fair (s.eventsOf d.pool) d ∧ s.yard.tasks.Perm (d.answered ++ rest) ∧
      Stride s.yard d.pool rest d step ∧ s' = s.record d step := by
  cases m with
  | addPool label bounds settings =>
    obtain ⟨p, hp, rfl⟩ := Option.map_eq_some_iff.mp h
    exact .inl ⟨label, bounds, settings, p, ok_of_toOption hp, rfl⟩
  | call c =>
    simp only [advance] at h
    split at h
    · rename_i ha
      obtain ⟨step, hstep, rfl⟩ := Option.map_eq_some_iff.mp h
      exact .inr (.inr ⟨_, _, step, fair_of_allows ha, List.Perm.refl _, call_stride hstep, rfl⟩)
    · cases h
  | answer i r =>
    obtain ⟨task, ht, h⟩ := Option.bind_eq_some_iff.mp h
    obtain ⟨step, hstep, rfl⟩ := Option.map_eq_some_iff.mp h
    obtain ⟨hi, rfl⟩ := List.getElem?_eq_some_iff.mp ht
    exact .inr (.inr ⟨_, _, step, fair_answer _ _ _, (List.getElem_cons_eraseIdx_perm hi).symm,
      answer_stride ht hstep, rfl⟩)
  | forget lease =>
    simp only [advance] at h
    split at h
    · cases h
      exact .inr (.inl ⟨s.yard.order, rfl⟩)
    · cases h
  | reorder order =>
    cases h
    exact .inr (.inl ⟨order, rfl⟩)

theorem followed_advance {m : Move} (hf : s.Followed) (h : s.advance m = some s') :
    s'.Followed := by
  obtain ⟨label, bounds, settings, p, hp, rfl⟩ | ⟨order, rfl⟩ | ⟨d, rest, step, hd, ht, hs, rfl⟩ :=
    advance_cases h
  · exact followed_addPool hf hp
  · exact hf
  · exact followed_record hf ht hd hs

theorem runFrom_invariant {P : History → Prop} (h : P s)
    (hstep : ∀ t m t', P t → advance t m = some t' → P t')
    (hr : s.runFrom moves = some s') : P s' :=
  foldlM_invariant h (fun m _ t t' => hstep t m t') hr

/-- What every turn of a pool keeps is kept by a move. -/
theorem advance_keeps {P : Pool → Prop} {m : Move}
    (hturn : ∀ {created p d r p' new created'},
      Turn n created p d r p' new created' → P p → P p')
    (h : s.advance m = some s') (hp : ∃ p, s.yard.pools[n]? = some p ∧ P p) :
    ∃ p, s'.yard.pools[n]? = some p ∧ P p := by
  obtain ⟨-, -, -, q, -, rfl⟩ | ⟨order, rfl⟩ | ⟨d, rest, step, -, -, hs, rfl⟩ := advance_cases h
  · obtain ⟨p, hp, hP⟩ := hp
    have hlt := (List.getElem?_eq_some_iff.mp hp).1
    exact ⟨p, by simpa [addPool, List.getElem?_append_left hlt] using hp, hP⟩
  · exact hp
  · exact hs.keeps hturn hp

theorem runFrom_keeps {P : Pool → Prop}
    (hturn : ∀ {created p d r p' new created'},
      Turn n created p d r p' new created' → P p → P p')
    (h : s.runFrom moves = some s') (hp : s.yard.pools[n]? = some p) (hP : P p) :
    ∃ p, s'.yard.pools[n]? = some p ∧ P p :=
  runFrom_invariant (P := fun t => ∃ p, t.yard.pools[n]? = some p ∧ P p) ⟨p, hp, hP⟩
    (fun _ _ _ ht hm => advance_keeps hturn hm ht) h

theorem Followed.runFrom (hf : s.Followed) (h : s.runFrom moves = some s') : s'.Followed :=
  runFrom_invariant hf (fun _ _ _ => followed_advance) h

theorem followed_of_run (hs : run moves = some s) : s.Followed :=
  followed_start.runFrom hs

/-- In every run each pool is on its course. -/
theorem course_of_run (hs : run moves = some s) (hp : s.yard.pools[n]? = some p) :
    Course n s.yard.created p (s.tasksOf n) (s.eventsOf n) :=
  (followed_of_run hs).1 n p hp

/-- One move of the run is that step. -/
def Takes (s : History) (d : Deed) (r : Reaction) (s' : History) : Prop :=
  ∃ m, s.advance m = some s' ∧ s'.events = ⟨d, s.yard.created, r⟩ :: s.events

theorem Takes.stride {d : Deed} {r : Reaction} (h : s.Takes d r s') :
    ∃ rest, s.yard.tasks.Perm (d.answered ++ rest) ∧
      Stride s.yard d.pool rest d (s'.yard, r) := by
  obtain ⟨m, hm, he⟩ := h
  obtain ⟨-, -, -, q, -, rfl⟩ | ⟨order, rfl⟩ | ⟨d', rest, step, -, ht, hs, rfl⟩ := advance_cases hm
  · simp at he
  · simp at he
  · obtain ⟨rfl, rfl⟩ : d' = d ∧ step.2 = r := by simpa [record] using he
    exact ⟨rest, ht, hs⟩

/-- A step is a turn of its pool, and takes off the task that it answers. -/
theorem Takes.turn {d : Deed} {r : Reaction} (h : s.Takes d r s') :
    ∃ rest p p' new created, s.yard.tasks.Perm (d.answered ++ rest) ∧
      s.yard.pools[d.pool]? = some p ∧ Turn d.pool s.yard.created p d r p' new created ∧
      s'.yard.pools = s.yard.pools.set d.pool p' ∧ s'.yard.tasks = new ++ rest := by
  obtain ⟨rest, ht, p, p', new, hp, turn, hpools, htasks⟩ := h.stride
  exact ⟨rest, p, p', new, _, ht, hp, turn, hpools, htasks⟩

/-- Whoever begins an operation takes no task off. -/
theorem Takes.still_waits {c : Call} {r : Reaction} {t : Task} (h : s.Takes (.call c) r s')
    (ht : t ∈ s.yard.tasks) : t ∈ s'.yard.tasks := by
  obtain ⟨rest, p, p', new, created, hperm, -, -, -, htasks⟩ := h.turn
  rw [htasks]
  exact List.mem_append_right _ (hperm.mem_iff.mp ht)

theorem Takes.pool {d : Deed} {r : Reaction} (h : s.Takes d r s')
    (hp : s.yard.pools[n]? = some p) :
    ∃ p', s'.yard.pools[n]? = some p' ∧
      (d.pool = n → ∃ new created, Turn n s.yard.created p d r p' new created) ∧
      (d.pool ≠ n → p' = p) := by
  obtain ⟨rest, -, hs⟩ := h.stride
  exact hs.pool hp

theorem Takes.runs {d : Deed} {r : Reaction} (h : s.Takes d r s') :
    ∃ m, s.runFrom [m] = some s' := by
  obtain ⟨m, hm, -⟩ := h
  exact ⟨m, by simp [History.runFrom, hm]⟩

theorem advance_events {m : Move} (h : s.advance m = some s') :
    s'.events = s.events ∨ ∃ e, s'.events = e :: s.events := by
  obtain ⟨-, -, -, q, -, rfl⟩ | ⟨order, rfl⟩ | ⟨d, rest, step, -, -, hs, rfl⟩ := advance_cases h
  · exact .inl rfl
  · exact .inl rfl
  · exact .inr ⟨_, rfl⟩

theorem Takes.events_cons {d : Deed} {r : Reaction} (h : s.Takes d r s') :
    s'.eventsOf d.pool = ⟨d, s.yard.created, r⟩ :: s.eventsOf d.pool := by
  obtain ⟨m, -, he⟩ := h
  simp [History.eventsOf, he]

end History
end Tenancy.Yard
