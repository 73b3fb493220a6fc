import Tenancy.Proofs.Yard.Loans
import Tenancy.Proofs.Yard.Progress
import Tenancy.Proofs.Yard.Stock

namespace Tenancy.Yard

variable {n k created : Nat} {p : Pool} {d : Deed} {r : Reaction} {ts : List Task}
  {es : List Event} {slot : Slot}

/-- What is made has the number of the step that made it. -/
theorem Event.resource_made {e : Event} (h : e.made? = some slot) : slot.resource = e.next := by
  unfold made? at h
  split at h
  · cases h
    rfl
  · cases h

/-- Whatever a pool has, hands out or gives up was made for it. -/
theorem Course.made_of_resource {x : Nat} (h : Course n created p ts es)
    (hx : x ∈ p.slots.map Slot.resource ∨ x ∈ (issued es).map Lease.resource ∨
      x ∈ destroyed es ∨ x ∈ doomed ts) : x ∈ (made es).map Slot.resource := by
  have hbalance := h.balance x
  have hcount : 0 < ((made es).map Slot.resource).count x ↔ x ∈ (made es).map Slot.resource :=
    List.count_pos_iff
  rcases hx with hx | hx | hx | hx
  · have := List.count_pos_iff.mpr hx
    exact hcount.mp (by omega)
  · obtain ⟨lease, hl, rfl⟩ := List.mem_map.mp hx
    obtain ⟨-, hmade⟩ := h.issued_made lease hl
    exact List.mem_map.mpr ⟨_, hmade, rfl⟩
  · have := List.count_pos_iff.mpr hx
    exact hcount.mp (by omega)
  · have := List.count_pos_iff.mpr hx
    exact hcount.mp (by omega)

namespace History

variable {s s' : History} {moves : List Move}

/-- Resources are counted over the whole yard, and no two steps have made the same one. -/
structure Apart (s : History) : Prop where
  past : ∀ e ∈ s.events, ∀ slot, e.made? = some slot → slot.resource < s.yard.created
  once : ∀ e ∈ s.events, ∀ e' ∈ s.events, ∀ slot slot', e.made? = some slot →
    e'.made? = some slot' → slot.resource = slot'.resource → e = e'

theorem apart_start : ({} : History).Apart := by
  refine ⟨?_, ?_⟩
  · intro e he
    cases he
  · intro e he
    cases he

/-- What a step makes is new on the whole yard. -/
theorem Apart.record {rest : List Task} {step : Yard × Reaction} (h : s.Apart)
    (hs : Stride s.yard d.pool rest d step) : (s.record d step).Apart := by
  obtain ⟨p, p', new, -, turn, -, -⟩ := hs
  have hcreated := turn.created_eq
  have hpast (e : Event) (he : e ∈ s.events) (slot : Slot) (hm : e.made? = some slot) :
      slot.resource < s.yard.created := h.past e he slot hm
  refine ⟨?_, ?_⟩
  · intro e he slot hm
    change slot.resource < step.1.created
    rcases List.mem_cons.mp he with rfl | he
    · have hone : made [⟨d, s.yard.created, step.2⟩] = [slot] := by simp [made, hm]
      rw [hone] at hcreated
      have hnext : slot.resource = s.yard.created := Event.resource_made hm
      simp only [List.length_singleton] at hcreated
      omega
    · have := hpast e he slot hm
      omega
  · intro e he e' he' slot slot' hm hm' heq
    rcases List.mem_cons.mp he with rfl | he
    · rcases List.mem_cons.mp he' with rfl | he'
      · rfl
      · have := hpast e' he' slot' hm'
        have hnext : slot.resource = s.yard.created := Event.resource_made hm
        omega
    · rcases List.mem_cons.mp he' with rfl | he'
      · have := hpast e he slot hm
        have hnext : slot'.resource = s.yard.created := Event.resource_made hm'
        omega
      · exact h.once e he e' he' slot slot' hm hm' heq

theorem Apart.advance {m : Move} (h : s.Apart) (hm : s.advance m = some s') : s'.Apart := by
  obtain ⟨label, bounds, settings, p, -, rfl⟩ | ⟨order, rfl⟩ | ⟨d, rest, step, -, -, hs, rfl⟩ :=
    advance_cases hm
  · exact ⟨h.past, h.once⟩
  · exact ⟨h.past, h.once⟩
  · exact h.record hs

theorem apart_of_run (hs : run moves = some s) : s.Apart :=
  runFrom_invariant apart_start (fun _ _ _ h hm => h.advance hm) hs

/-- No resource is made for two pools. -/
theorem Apart.made_disjoint (h : s.Apart) (hn : n ≠ k) :
    List.Disjoint ((made (s.eventsOf n)).map Slot.resource)
      ((made (s.eventsOf k)).map Slot.resource) := by
  intro x hx hx'
  obtain ⟨slot, hslot, rfl⟩ := List.mem_map.mp hx
  obtain ⟨slot', hslot', heq⟩ := List.mem_map.mp hx'
  obtain ⟨e, he, hm⟩ := List.mem_filterMap.mp hslot
  obtain ⟨e', he', hm'⟩ := List.mem_filterMap.mp hslot'
  obtain ⟨he, hpool⟩ := List.mem_filter.mp he
  obtain ⟨he', hpool'⟩ := List.mem_filter.mp he'
  have hsame := h.once e he e' he' slot slot' hm hm' heq.symm
  subst hsame
  simp only [beq_iff_eq] at hpool hpool'
  exact hn (hpool.symm.trans hpool')

/-- An operation from the step `d` on, or a part of it. Whenever it asks for somebody else's work,
anything may go on until the work is replied to; `gaps` are these stretches. -/
inductive Goes : Deed → History → List (History × History) → History → Prop
  | last {d : Deed} {s : History} {r : Reaction} {s' : History} (h : s.Takes d r s') :
      Goes d s [] s'
  | pause {d : Deed} {s : History} {r : Reaction} {s₁ s₂ s' : History} {task : Task}
      {tasks : List Task} {moves : List Move} {reply : Reply} {gaps : List (History × History)}
      (h : s.Takes d r s₁) (hr : ∀ outcome, r ≠ .done outcome)
      (ht : s₁.yard.tasks = task :: tasks) (hg : s₁.runFrom moves = some s₂)
      (hnext : Goes (.answer task reply) s₂ gaps s') : Goes d s ((s₁, s₂) :: gaps) s'

/-- Outside the gaps pool `k` stays what it is. -/
def UnchangedOutside (k : Nat) : History → List (History × History) → History → Prop
  | s, [], s' => s'.yard.pools[k]? = s.yard.pools[k]?
  | s, (a, b) :: gaps, s' =>
    a.yard.pools[k]? = s.yard.pools[k]? ∧ UnchangedOutside k b gaps s'

theorem Takes.unchanged (h : s.Takes d r s') (hk : d.pool ≠ k) :
    s'.yard.pools[k]? = s.yard.pools[k]? := by
  obtain ⟨rest, p, p', new, created, -, -, -, hpools, -⟩ := h.turn
  rw [hpools, List.getElem?_set_ne hk]

/-- What waits for the work that a step asks for waits on the same pool. -/
theorem Takes.task_pool {task : Task} {tasks : List Task} (h : s.Takes d r s')
    (hr : ∀ outcome, r ≠ .done outcome) (ht : s'.yard.tasks = task :: tasks) :
    task.pool = d.pool := by
  obtain ⟨rest, p, p', new, created, -, -, turn, -, htasks⟩ := h.turn
  have hwaits := turn.waits
  have hnew : task ∈ new := by
    rw [htasks] at ht
    cases hwaits with
    | done outcome => exact absurd rfl (hr outcome)
    | allocate | discard | destroy | work =>
      obtain ⟨rfl, -⟩ := List.cons.inj ht
      exact List.mem_singleton_self _
  exact turn.tasks_pool task hnew

/-- An operation touches its own pool only, but for what others do in its gaps. -/
theorem Goes.unchangedOutside {gaps : List (History × History)} (h : Goes d s gaps s')
    (hk : d.pool ≠ k) : UnchangedOutside k s gaps s' := by
  induction h with
  | last h => exact h.unchanged hk
  | @pause d s r s₁ s₂ s' task tasks moves reply gaps h hr ht hg hnext ih =>
    have hpool : task.pool = d.pool := h.task_pool hr ht
    refine ⟨h.unchanged hk, ih ?_⟩
    change task.pool ≠ k
    rw [hpool]
    exact hk

/-- What was made for one pool is nowhere in another. -/
theorem made_apart (hs : run moves = some s) (hn : n ≠ k) (hslot : slot ∈ made (s.eventsOf n)) :
    (∀ p, s.yard.pools[k]? = some p → slot.resource ∉ p.free.map Slot.resource ∧
      slot.resource ∉ p.loaned.map Slot.resource) ∧
    slot.resource ∉ (issued (s.eventsOf k)).map Lease.resource ∧
    slot.resource ∉ destroyed (s.eventsOf k) ∧ slot.resource ∉ doomed (s.tasksOf k) := by
  have hdisjoint := (apart_of_run hs).made_disjoint hn
  have hmade : slot.resource ∈ (made (s.eventsOf n)).map Slot.resource := List.mem_map_of_mem hslot
  -- of a pool that is not there nothing was ever told
  rcases Nat.lt_or_ge k s.yard.pools.length with hlt | hge
  · have hcourse := course_of_run hs (List.getElem?_eq_getElem hlt)
    have hnone := fun h => hdisjoint hmade (hcourse.made_of_resource h)
    refine ⟨?_, ?_, ?_, ?_⟩
    · intro p hp
      rw [List.getElem?_eq_getElem hlt] at hp
      cases hp
      have hslots := fun h => hnone (.inl h)
      rw [Pool.slots, List.map_append, List.mem_append] at hslots
      exact ⟨fun h => hslots (.inl h), fun h => hslots (.inr h)⟩
    · exact fun h => hnone (.inr (.inl h))
    · exact fun h => hnone (.inr (.inr (.inl h)))
    · exact fun h => hnone (.inr (.inr (.inr h)))
  · obtain ⟨htasks, hevents⟩ := (followed_of_run hs).2 k hge
    rw [htasks, hevents]
    refine ⟨?_, by simp [issued], by simp [destroyed], by simp [doomed]⟩
    intro p hp
    rw [List.getElem?_eq_none hge] at hp
    cases hp

/-- Whoever brings a lease to another pool than its own is turned away. -/
theorem takes_foreign_iff {lease : Lease} {t : History} (hp : s.yard.pools[n]? = some p)
    (ha : s.isOut lease = true) (hl : lease.pool ≠ n) :
    s.Takes (.call (.release n lease)) r t ↔ r = .done .returned ∧
      t = s.record (.call (.release n lease)) (s.yard.note .foreignLease, .done .returned) := by
  have hstart : s.yard.start n p (.release n lease) =
      (s.yard.note .foreignLease, .done .returned) := if_neg hl
  have hstep : s.Takes (.call (.release n lease)) r t ↔
      r = (s.yard.start n p (.release n lease)).2 ∧
        t = s.record (.call (.release n lease)) (s.yard.start n p (.release n lease)) :=
    takes_call_iff hp ha
  rw [hstep, hstart]

/-- A resource made for one pool is never in another, nor handed out or destroyed by it. An
operation changes no pool but its own, apart from what goes on while it waits for others. And
whoever gives a lease back to another pool than the one it came from changes no pool at all, and
nobody is asked for anything. -/
theorem pools_isolated (hs : run moves = some s) :
    (∀ n k, n ≠ k → ∀ slot ∈ made (s.eventsOf n),
      (∀ p, s.yard.pools[k]? = some p → slot.resource ∉ p.free.map Slot.resource ∧
        slot.resource ∉ p.loaned.map Slot.resource) ∧
      slot.resource ∉ (issued (s.eventsOf k)).map Lease.resource ∧
      slot.resource ∉ destroyed (s.eventsOf k) ∧ slot.resource ∉ doomed (s.tasksOf k)) ∧
    (∀ d gaps s' k, Goes d s gaps s' → d.pool ≠ k → UnchangedOutside k s gaps s') ∧
    ∀ n p lease, s.yard.pools[n]? = some p → s.isOut lease = true → lease.pool ≠ n →
      ∃ s', s'.yard.pools = s.yard.pools ∧ s'.yard.tasks = s.yard.tasks ∧
        ∀ r t, s.Takes (.call (.release n lease)) r t ↔ r = .done .returned ∧ t = s' := by
  refine ⟨?_, ?_, ?_⟩
  · intro n k hn slot hslot
    exact made_apart hs hn hslot
  · intro d gaps s' k h hk
    exact h.unchangedOutside hk
  · intro n p lease hp ha hl
    refine ⟨s.record (.call (.release n lease)) (s.yard.note .foreignLease, .done .returned), rfl,
      rfl, ?_⟩
    intro r t
    exact takes_foreign_iff hp ha hl

/-- While a resource is being made for one pool, another pool lends one under the same number. -/
def sideBySide : List Move :=
  [.addPool "a" ⟨0, 1⟩ {}, .addPool "b" ⟨0, 1⟩ {}, .call (.reserve 0), .call (.reserve 1),
    .answer 0 .made, .answer 0 .made]

theorem pools_isolated_sideBySide : ∃ s s', run sideBySide = some s ∧
    made (s.eventsOf 0) = [⟨0, 1⟩] ∧ made (s.eventsOf 1) = [⟨0, 0⟩] ∧
    1 ∉ (issued (s.eventsOf 1)).map Lease.resource ∧ 1 ∉ destroyed (s.eventsOf 1) ∧
    s.Takes (.call (.release 0 ⟨1, 0, 0⟩)) (.done .returned) s' ∧
    s'.yard.pools = s.yard.pools := by
  have hs : run sideBySide = some _ := rfl
  obtain ⟨hapart, -, hforeign⟩ := pools_isolated hs
  obtain ⟨-, hissued, hdestroyed, -⟩ := hapart 0 1 (by decide) ⟨0, 1⟩ List.mem_cons_self
  obtain ⟨s', hpools, -, htakes⟩ := hforeign 0 _ ⟨1, 0, 0⟩ rfl rfl (by decide)
  exact ⟨_, s', hs, rfl, rfl, hissued, hdestroyed, (htakes _ _).mpr ⟨rfl, rfl⟩, hpools⟩

end History
end Tenancy.Yard
