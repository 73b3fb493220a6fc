import Tenancy.Proofs.Yard.Drain
import Tenancy.Proofs.Yard.Reservation

namespace Tenancy.Yard

variable {n created created' count : Nat} {p p' : Pool} {d : Deed} {r : Reaction}
  {new ts : List Task} {e : Event} {es : List Event} {slots slots' : List Slot} {x : Loan}

/-- The loan that ends in that step, of those before it: a lease comes back to its pool, or the work
on what was checked out is over. -/
def Event.returns (e : Event) (loans : List Loan) : Option Loan :=
  match e.deed with
  | .call (.release n lease) => if lease.pool = n then some ⟨.lease, lease⟩ else none
  | .answer (.holding _ slot) _ =>
    loans.find? fun x => x.use == .checkout && x.lease.slot == slot
  | _ => none

/-- How many steps the pool had taken when that resource last came back, if it ever did. -/
def lastReturn : List Event → Nat → Option Nat
  | [], _ => none
  | e :: es, resource =>
    if (e.returns (loans es)).any (·.lease.resource == resource) then some es.length
    else lastReturn es resource

/-- The first resource last came back before the second did. -/
def Earlier (es : List Event) (x y : Nat) : Prop :=
  ∃ t u, lastReturn es x = some t ∧ lastReturn es y = some u ∧ t < u

/-- All slots have come back, each later than those behind it. -/
structure Recent (es : List Event) (slots : List Slot) : Prop where
  returned : ∀ slot ∈ slots, ∃ t, lastReturn es slot.resource = some t
  sorted : slots.Pairwise fun a b => Earlier es b.resource a.resource

theorem lastReturn_lt {resource t : Nat} (h : lastReturn es resource = some t) : t < es.length := by
  induction es with
  | nil => cases h
  | cons e es ih =>
    simp only [lastReturn] at h
    split at h
    · cases h
      exact Nat.lt_succ_self _
    · exact Nat.lt_succ_of_lt (ih h)

theorem lastReturn_returned (h : e.returns (loans es) = some x) :
    lastReturn (e :: es) x.lease.resource = some es.length := by
  simp [lastReturn, h]

theorem lastReturn_of_ne {resource : Nat}
    (h : ∀ x, e.returns (loans es) = some x → x.lease.resource ≠ resource) :
    lastReturn (e :: es) resource = lastReturn es resource := by
  simp only [lastReturn]
  cases hx : e.returns (loans es) with
  | none => rfl
  | some x => simp [h x hx]

theorem Recent.nil (es : List Event) : Recent es [] :=
  ⟨fun _ h => (List.not_mem_nil h).elim, List.Pairwise.nil⟩

/-- Who leaves does not change the order of the others. -/
theorem Recent.sublist (h : Recent es slots) (hs : slots'.Sublist slots) : Recent es slots' :=
  ⟨fun slot hm => h.returned slot (hs.subset hm), h.sorted.sublist hs⟩

/-- A step in which none of them comes back. -/
theorem Recent.step (h : Recent es slots)
    (hne : ∀ x, e.returns (loans es) = some x → x.lease.resource ∉ slots.map Slot.resource) :
    Recent (e :: es) slots := by
  have hkeep : ∀ slot ∈ slots,
      lastReturn (e :: es) slot.resource = lastReturn es slot.resource := by
    intro slot hm
    apply lastReturn_of_ne
    rintro x hx he
    exact hne x hx (he ▸ List.mem_map_of_mem hm)
  refine ⟨?_, ?_⟩
  · intro slot hm
    rw [hkeep slot hm]
    exact h.returned slot hm
  · refine h.sorted.imp_of_mem ?_
    intro a b ha hb hlater
    rw [Earlier, hkeep a ha, hkeep b hb]
    exact hlater

/-- What has just come back goes to the head. -/
theorem Recent.comeBack (h : Recent es slots) (hx : e.returns (loans es) = some x)
    (hfree : x.lease.resource ∉ slots.map Slot.resource) : Recent (e :: es) (x.slot :: slots) := by
  have hnow : lastReturn (e :: es) x.slot.resource = some es.length := lastReturn_returned hx
  have hrest : Recent (e :: es) slots := by
    refine h.step ?_
    intro y hy
    obtain rfl := Option.some.inj (hx.symm.trans hy)
    exact hfree
  refine ⟨?_, List.pairwise_cons.mpr ⟨?_, hrest.sorted⟩⟩
  · intro slot hm
    rcases List.mem_cons.mp hm with rfl | hm
    · exact ⟨_, hnow⟩
    · exact hrest.returned slot hm
  · intro slot hm
    obtain ⟨t, ht⟩ := hrest.returned slot hm
    obtain ⟨u, hu⟩ := h.returned slot hm
    have hsame : lastReturn (e :: es) slot.resource = lastReturn es slot.resource := by
      apply lastReturn_of_ne
      intro y hy he
      obtain rfl := Option.some.inj (hx.symm.trans hy)
      exact hfree (he ▸ List.mem_map_of_mem hm)
    exact ⟨u, es.length, hsame.trans hu, hnow, lastReturn_lt hu⟩

/-- A step takes slots from the free ones at most, or one comes back that was out. -/
theorem Turn.returns (h : Turn n created p d r p' new created') (hf : Deed.Fair es d)
    (hl : Lent p (d.answered ++ ts) es) :
    (Event.returns ⟨d, created, r⟩ (loans es) = none ∧ p'.free.Sublist p.free) ∨
      ∃ x ∈ loans es, Event.returns ⟨d, created, r⟩ (loans es) = some x ∧
        p' = p.takeBack x.lease.slot := by
  cases h with
  | @drained use | @full use | @announce use => cases use <;> exact .inl ⟨rfl, List.Sublist.refl _⟩
  | @reuse use slot free hd hfree =>
    refine .inl ⟨by cases use <;> rfl, ?_⟩
    rw [hfree]
    exact List.sublist_cons_self slot free
  | foreign hne => exact .inl ⟨if_neg hne, List.Sublist.refl _⟩
  | trim hc =>
    refine .inl ⟨?_, List.take_sublist _ _⟩
    obtain rfl | ⟨rfl, -⟩ := hc <;> rfl
  | drain => exact .inl ⟨rfl, List.nil_sublist _⟩
  | @release lease hpool => exact .inr ⟨⟨.lease, lease⟩, hf hpool, if_pos hpool, rfl⟩
  | @dropGuard slot r o =>
    have hg : slot ∈ guards (loans es) := hl.guarded.symm.subset List.mem_cons_self
    obtain ⟨y, hy, huse, hslot⟩ := mem_guards hg
    obtain ⟨x, hx⟩ := Option.isSome_iff_exists.mp (List.find?_isSome
      (p := fun x : Loan => x.use == .checkout && x.lease.slot == slot) |>.mpr
        ⟨y, hy, by simp [huse, hslot]⟩)
    have hfound := List.find?_some hx
    simp only [Bool.and_eq_true, beq_iff_eq] at hfound
    refine .inr ⟨x, List.mem_of_find?_eq_some hx, hx, ?_⟩
    rw [hfound.2]
  | _ => exact .inl ⟨rfl, List.Sublist.refl _⟩

theorem Course.recent (h : Course n created p ts es) : Recent es p.free := by
  induction h with
  | new hp =>
    rw [Pool.of?_ok hp]
    exact .nil []
  | later _ _ ih => exact ih
  | perm _ _ ih => exact ih
  | @turn created _ p p' d r new ts es hc hf ht ih =>
    obtain ⟨hnone, hsub⟩ | ⟨x, hx, hret, rfl⟩ := ht.returns hf hc.lent
    · refine (ih.step ?_).sublist hsub
      intro x hx
      cases hnone.symm.trans hx
    · cases hd : p.drained with
      | true =>
        rw [Pool.takeBack_of_loaned_nil (hc.emptied hd).2, (hc.emptied hd).1]
        exact .nil _
      | false =>
        obtain ⟨hout, -⟩ := hc.loans_apart hd
        obtain ⟨hloaned, hfree⟩ := hout x hx
        have hback := Pool.takeBack_of_mem hc.numbered.loaned_distinct hloaned
        rw [show p.takeBack x.lease.slot = _ from hback]
        exact ih.comeBack hret hfree

/-- Those given up came back before those kept, and the first of them before all others. -/
theorem Recent.parts {kept gone : List Slot} (h : Recent es (kept ++ gone.reverse)) :
    (gone.map Slot.resource).Pairwise (Earlier es) ∧
      ∀ x ∈ gone.map Slot.resource, ∀ y ∈ kept.map Slot.resource, Earlier es x y := by
  obtain ⟨-, hgone, hcross⟩ := List.pairwise_append.mp h.sorted
  refine ⟨List.pairwise_map.mpr (List.pairwise_reverse.mp hgone), ?_⟩
  intro x hx y hy
  obtain ⟨a, ha, rfl⟩ := List.mem_map.mp hx
  obtain ⟨b, hb, rfl⟩ := List.mem_map.mp hy
  exact hcross b hb a (List.mem_reverse.mpr ha)

namespace History

variable {s s' : History} {moves : List Move} {c : Call}

/-- The call trims the pool, to its least size or by a number. -/
def Trims (c : Call) (n : Nat) (p : Pool) (count : Nat) : Prop :=
  c = .trim n count ∨ c = .shrink n ∧ count = p.excess

theorem Trims.call (h : Trims c n p count) : c.pool = n ∧ s.allows c = true := by
  obtain rfl | ⟨rfl, -⟩ := h <;> exact ⟨rfl, rfl⟩

theorem Trims.start (h : Trims c n p count) (y : Yard) :
    y.start n p c = y.giveUp n (p.trim count).1 (p.trim count).2 := by
  obtain rfl | ⟨rfl, rfl⟩ := h <;> rfl

theorem giving_trim (hp : s.yard.pools[n]? = some p) (hc : Trims c n p count) :
    Giving n (p.trim count).1.length ((p.trim count).1.map Slot.resource) s (.call c) := by
  intro r s' h
  obtain ⟨rfl, ha⟩ := hc.call (s := s)
  obtain ⟨rfl, rfl⟩ := (takes_call_iff hp ha).mp h
  rw [hc.start, giveUp_eq]
  exact ⟨rfl, s.yard.tasks, rfl⟩

/-- What is free goes out first, and the head of it. -/
theorem Takes.reuses {use : Use} {slot : Slot} {free : List Slot}
    (h : s.Takes (.call (use.call n)) r s') (hp : s.yard.pools[n]? = some p)
    (hd : p.drained = false) (hf : p.free = slot :: free) :
    r = (handing n slot use).1 ∧
      s'.yard.pools[n]? = some { p with free, loaned := slot :: p.loaned } := by
  have hlt := (List.getElem?_eq_some_iff.mp hp).1
  have hpool := Use.pool_call use n
  obtain ⟨rfl, rfl⟩ := (takes_call_iff (hpool.symm ▸ hp) (allows_use s use n)).mp h
  rw [hpool, start_use, reserve_free hd hf, handOut_eq]
  exact ⟨rfl, List.getElem?_set_self hlt⟩

/-- A pool with something free is not drained. -/
theorem Followed.undrained (hf : s.Followed) (hp : s.yard.pools[n]? = some p)
    (hne : p.free ≠ []) : p.drained = false := by
  cases hd : p.drained with
  | false => rfl
  | true => exact absurd ((hf.1 n p hp).emptied hd).1 hne

/-- Free resources stand in the order in which they last came back, the latest first, wherever
operations have got to. So a reservation that finds some free hands the one out that came back last,
at once and without having one made, and a trim gives those up that came back first, from the
earliest on, whatever goes on between one and the next. -/
theorem latest_first (hs : run moves = some s) (hp : s.yard.pools[n]? = some p) :
    Recent (s.eventsOf n) p.free ∧
    (p.free ≠ [] → ∀ use : Use, (∃ r s', s.Takes (.call (use.call n)) r s') ∧
      ∀ r s', s.Takes (.call (use.call n)) r s' → ∃ slot rest,
        p.free = slot :: rest ∧ r = (handing n slot use).1 ∧
        s'.yard.pools[n]? = some { p with free := rest, loaned := slot :: p.loaned } ∧
        ∀ other ∈ rest, Earlier (s.eventsOf n) other.resource slot.resource) ∧
    ∀ c count, Trims c n p count →
      (∃ xs total s', GivesUp n s (.call c) xs total s') ∧
      ∀ xs total s', GivesUp n s (.call c) xs total s' →
        total = xs.length ∧ xs.length = min count p.free.length ∧
        ∃ kept, p.free.map Slot.resource = kept ++ xs.reverse ∧
          xs.Pairwise (Earlier (s.eventsOf n)) ∧
          ∀ x ∈ xs, ∀ y ∈ kept, Earlier (s.eventsOf n) x y := by
  have hf := followed_of_run hs
  have hrecent := (hf.1 n p hp).recent
  refine ⟨hrecent, ?_, ?_⟩
  · intro hne use
    have hd := hf.undrained hp hne
    refine ⟨exists_call (by rwa [Use.pool_call]) (allows_use s use n), ?_⟩
    intro r s' h
    obtain ⟨slot, rest, hfree⟩ := List.exists_cons_of_ne_nil hne
    obtain ⟨hr, hp'⟩ := h.reuses hp hd hfree
    have hsorted := hrecent.sorted
    rw [hfree] at hsorted
    exact ⟨slot, rest, hfree, hr, hp', (List.pairwise_cons.mp hsorted).1⟩
  · intro c count hc
    have hgives := giving_trim (s := s) hp hc
    have hcall : c.pool = n ∧ s.allows c = true := by
      obtain rfl | ⟨rfl, -⟩ := hc <;> exact ⟨rfl, rfl⟩
    refine ⟨?_, ?_⟩
    · obtain ⟨r, s₁, h⟩ := exists_call (hcall.1.symm ▸ hp) hcall.2
      obtain ⟨s', h⟩ := hf.givesUp h hgives
      exact ⟨_, _, s', h⟩
    · intro xs total s' h
      obtain ⟨rfl, rfl⟩ := h.all hgives
      have hparts := p.trim_parts count
      obtain ⟨hgone, hkept⟩ := Recent.parts (hparts ▸ hrecent)
      refine ⟨by simp, by simp [p.length_trim], _, ?_, hgone, hkept⟩
      rw [← List.map_reverse, ← List.map_append, ← hparts]

theorem latest_first_crowd : ∃ s p,
    run (.addPool "db" ⟨0, 3⟩ {} :: crowd.take 8) = some s ∧ s.yard.pools[0]? = some p ∧
    p.free.map Slot.resource = [2, 1] ∧ Earlier (s.eventsOf 0) 1 2 ∧
    (∀ r s', s.Takes (.call (.reserve 0)) r s' → r = .done (.leased ⟨0, 0, 2⟩)) ∧
    ∃ s', GivesUp 0 s (.call (.trim 0 2)) [1, 2] 2 s' := by
  have hs : run (.addPool "db" ⟨0, 3⟩ {} :: crowd.take 8) = some _ := rfl
  obtain ⟨-, hreuse, htrim⟩ := latest_first (n := 0) hs rfl
  obtain ⟨-, hreuse⟩ := hreuse (by decide) .lease
  obtain ⟨⟨xs, total, s', h⟩, hgone⟩ := htrim (.trim 0 2) 2 (.inl rfl)
  obtain ⟨rfl, hlength, kept, hfree, hearlier, -⟩ := hgone xs total s' h
  have hsplit : [] ++ [2, 1] = kept ++ xs.reverse := hfree
  obtain ⟨-, hxs⟩ := List.append_inj' hsplit (by simp [hlength])
  obtain rfl : xs = [1, 2] := List.reverse_eq_iff.mp hxs.symm
  refine ⟨_, _, hs, rfl, rfl, List.rel_of_pairwise_cons hearlier List.mem_cons_self, ?_, s', h⟩
  intro r s₁ h₁
  obtain ⟨slot, rest, hcons, hr, -⟩ := hreuse r s₁ h₁
  cases hcons
  exact hr

end History
end Tenancy.Yard
