import Tenancy.Proofs.Desk.Ledger

namespace Tenancy

namespace Yard

variable {y y' : Yard} {d : Deed} {rest : List Task} {es : List Event} {reaction : Reaction}
  {n resource : Nat}

theorem drain_asks {pool : Nat} (h : y.call (.drain pool) = some (y', reaction)) :
    (∃ count, reaction = .done (.counted count)) ∨
      ∃ resource, reaction = .destroy pool resource := by
  obtain ⟨p, -, hstart⟩ := Option.map_eq_some_iff.mp h
  simp only [start] at hstart
  split at hstart
  · cases hstart
    exact .inl ⟨0, rfl⟩
  · rw [giveUp_eq] at hstart
    cases hstart
    cases (p.drain y.order).1.map Slot.resource with
    | nil => exact .inl ⟨_, rfl⟩
    | cons resource rest => exact .inr ⟨resource, rfl⟩

namespace History

variable {s : History} {p : Pool}

/-- What is destroyed was made. -/
theorem Followed.destroyed_lt (hf : s.Followed) (hp : s.yard.pools[n]? = some p)
    (hx : resource ∈ destroyed (s.eventsOf n)) : resource < s.yard.created := by
  have hc := hf.1 n p hp
  have hbalance := hc.balance resource
  have hpos := List.count_pos_iff.mpr hx
  obtain ⟨slot, hslot, rfl⟩ := List.mem_map.mp (List.count_pos_iff.mp
    (show 0 < ((made (s.eventsOf n)).map Slot.resource).count resource by omega))
  exact hc.numbered.past slot hslot

/-- What a step is about to destroy was made by then. -/
theorem destroys_lt (hf : s.Followed) (ht : s.yard.tasks.Perm (d.answered ++ rest))
    (hd : Deed.Fair (s.eventsOf d.pool) d)
    (hs : Stride s.yard d.pool rest d (y', .destroy n resource)) : resource < y'.created := by
  have hnext := followed_record hf ht hd hs
  obtain ⟨p, p', new, hp, -, hpools, -⟩ := hs
  have hp' : (s.record d (y', .destroy n resource)).yard.pools[d.pool]? = some p' := by
    change y'.pools[d.pool]? = some p'
    rw [show y'.pools = _ from hpools, List.getElem?_set_self (List.getElem?_eq_some_iff.mp hp).1]
  refine hnext.destroyed_lt hp' ?_
  rw [eventsOf_record, if_pos rfl]
  exact List.mem_cons_self

end History
end Yard

namespace Desk

variable {d : Desk} {step : Desk × Request} {n : Nat} {outcome : Outcome} {after : After}
  {y y' : Yard} {reaction : Yard.Reaction}

/-- Somebody else holds the cache as well. -/
theorem leave_shared (h : 1 < d.holders n) (outcome : Outcome) :
    d.leave n outcome = some (d.letGo n, .done outcome) := by
  have hholders := holders_letGo (d := d) n n
  rw [if_pos rfl] at hholders
  obtain ⟨k, hk, hpos⟩ := exists_of_holders (d := d.letGo n) (n := n) (by omega)
  simp [leave, hk, Nat.ne_of_gt hpos]

/-- There is a connection for each resource that the yard has made. -/
def Provided (y : Yard) (made : Nat) : Prop :=
  (∃ es, (⟨y, es⟩ : Yard.History).Followed) ∧ y.created ≤ made

variable {made : Nat}

/-- Draining a pool makes nothing, and asks for nothing but the end of what was made. -/
theorem Provided.drain {pool : Nat} (hy : Provided y made)
    (h : y.call (.drain pool) = some (y', reaction)) :
    Provided y' made ∧ ((∃ count, reaction = .done (.counted count)) ∨
      ∃ resource, reaction = .destroy pool resource ∧ resource < made) := by
  obtain ⟨⟨es, hf⟩, hcreated⟩ := hy
  have hs : Yard.Stride y pool y.tasks (.call (.drain pool)) (y', reaction) := Yard.call_stride h
  have hnext := Yard.History.followed_record (d := .call (.drain pool)) hf
    (List.Perm.refl y.tasks) trivial hs
  have hsame : y'.created = y.created := by
    obtain ⟨p, p', new, -, turn, -, -⟩ := hs
    exact turn.created_eq
  refine ⟨⟨⟨_, hnext⟩, hsame ▸ hcreated⟩, (Yard.drain_asks h).imp_right ?_⟩
  rintro ⟨resource, rfl⟩
  have hlt := Yard.History.destroys_lt (d := .call (.drain pool)) hf (List.Perm.refl y.tasks)
    trivial hs
  exact ⟨resource, rfl, by omega⟩

theorem Provided.drainUntil (hy : Provided y made) (closed : Nat) (pools : List Nat) :
    Provided (drainUntil y closed pools).1 made ∧ ∀ rest reaction,
      (Desk.drainUntil y closed pools).2.2 = some (rest, reaction) →
        ∃ pool resource, reaction = .destroy pool resource ∧ resource < made := by
  induction pools generalizing y closed with
  | nil => exact ⟨hy, fun _ _ h => by cases h⟩
  | cons pool rest ih =>
    unfold Desk.drainUntil
    split
    · exact ih hy closed
    · rename_i hdrain
      exact ih (hy.drain hdrain).1 _
    · rename_i yard reaction hnot hdrain
      obtain ⟨hnext, hasks⟩ := hy.drain hdrain
      refine ⟨hnext, fun _ _ h => ?_⟩
      cases h
      obtain ⟨count, rfl⟩ | hasks := hasks
      · exact absurd rfl (hnot count)
      · exact ⟨pool, hasks⟩

/-- Whoever is told to close what was made can do so. -/
theorem ask_destroy (pool : Nat) {resource : Nat} (h : resource < d.connections.length) :
    d.ask (.destroy pool resource) =
      some (d.push .closing, .close d.connections[resource]) := by
  simp [ask, h]

theorem exists_leave (hd : Provided d.yard d.connections.length) (n : Nat) (outcome : Outcome) :
    ∃ step, d.leave n outcome = some step := by
  simp only [leave, drainCache, drainPools]
  split
  · obtain ⟨-, hstop⟩ := hd.drainUntil 0 ((d.letGo n).doomedPools n)
    split
    · exact ⟨_, rfl⟩
    · rename_i rest reaction heq
      obtain ⟨pool, resource, rfl, hlt⟩ := hstop rest reaction heq
      exact ⟨_, ask_destroy pool (by exact hlt)⟩
  · exact ⟨_, rfl⟩

end Desk
end Tenancy
