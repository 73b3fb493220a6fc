import Tenancy.Proofs.Yard.Drain
import Tenancy.Proofs.Yard.Reservation

namespace Tenancy.Yard

variable {n created created' : Nat} {p p' : Pool} {d : Deed} {r : Reaction} {new ts : List Task}
  {e : Event} {es es' : List Event} {x : Loan} {lease : Lease} {y : Yard}

theorem settle_sublist (e : Event) (xs : List Loan) : (e.settle xs).Sublist xs := by
  obtain ⟨deed, next, reaction⟩ := e
  cases deed with
  | call c =>
    cases c with
    | release n lease =>
      simp only [Event.settle]
      split
      · exact List.erase_sublist
      · exact List.Sublist.refl xs
    | _ => exact List.Sublist.refl xs
  | answer task reply =>
    cases task with
    | holding n slot => exact List.eraseP_sublist
    | _ => exact List.Sublist.refl xs

/-- What is out was handed out. -/
theorem issued_of_loans (h : x ∈ loans es) : x.lease ∈ issued es := by
  induction es with
  | nil => cases h
  | cons e es ih =>
    rw [issued_cons, List.mem_append]
    rcases List.mem_append.mp h with h | h
    · refine .inl (List.mem_map_of_mem (List.mem_filterMap.mpr ⟨e, List.mem_singleton_self e, ?_⟩))
      exact Option.mem_toList.mp h
    · exact .inr (ih ((settle_sublist e _).subset h))

theorem issued_mono (h : es <:+ es') : issued es ⊆ issued es' := by
  obtain ⟨before, rfl⟩ := h
  intro l hl
  rw [issued, List.filterMap_append, List.map_append]
  exact List.mem_append_right _ hl

/-- No two loans have one slot or one resource, also of a drained pool. -/
theorem Course.loans_distinct (h : Course n created p ts es) :
    ((loans es).map (·.lease.slot)).Nodup ∧ ((loans es).map (·.lease.resource)).Nodup := by
  induction h with
  | new => exact ⟨List.nodup_nil, List.nodup_nil⟩
  | later _ _ ih => exact ih
  | perm _ _ ih => exact ih
  | @turn created created' p p' d r new ts es hc hf ht ih =>
    cases hx : Event.loan? ⟨d, created, r⟩ with
    | some x =>
      -- only a pool that is open hands out, and there loans are slots
      obtain ⟨-, -, hopen, -⟩ := ht.loan hx es
      exact ((Course.turn hc hf ht).loans_apart hopen).2
    | none =>
      have hsub : (loans (⟨d, created, r⟩ :: es)).Sublist (loans es) := by
        rw [loans, hx]
        exact settle_sublist _ _
      exact ⟨ih.1.sublist (hsub.map _), ih.2.sublist (hsub.map _)⟩

theorem Course.exists_guard {slot : Nat} (h : Course n created p ts es)
    (ht : .holding n slot ∈ ts) :
    ∃ l, ⟨.checkout, l⟩ ∈ loans es ∧ l.pool = n ∧ l.slot = slot := by
  have hg : slot ∈ guards (loans es) :=
    h.lent.guarded.symm.subset (List.mem_filterMap.mpr ⟨_, ht, rfl⟩)
  obtain ⟨⟨use, l⟩, hx, rfl, hslot⟩ := mem_guards hg
  exact ⟨l, hx, (h.issued_made l (issued_of_loans hx)).1, hslot⟩

/-- A number stands for one resource, and a slot that is held is out on a guard. -/
theorem Course.guard (h : Course n created p ts es) (hl : lease ∈ issued es)
    (ht : .holding n lease.slot ∈ ts) : ⟨.checkout, lease⟩ ∈ loans es := by
  obtain ⟨l, hm, hpool, hslot⟩ := h.exists_guard ht
  obtain ⟨hpool', hmade⟩ := h.issued_made lease hl
  have hsame := h.numbered.made_inj (h.issued_made l (issued_of_loans hm)).2 hmade hslot
  cases l
  cases lease
  simp_all

/-- Up to the drain a guard has the resource that is on loan under its number. -/
theorem Course.guard_of_loaned (h : Course n created p ts es) (hd : p.drained = false)
    (hn : lease.pool = n) (hl : ⟨lease.slot, lease.resource⟩ ∈ p.loaned)
    (ht : .holding n lease.slot ∈ ts) : ⟨.checkout, lease⟩ ∈ loans es := by
  obtain ⟨l, hm, hpool, hslot⟩ := h.exists_guard ht
  have hsame := List.inj_on_of_nodup_map h.numbered.loaned_distinct ((h.loans_apart hd).1 _ hm).1
    hl hslot
  cases l
  cases lease
  simp_all [Loan.slot]

theorem count_holding_le (ts : List Task) (n slot : Nat) :
    ts.count (.holding n slot) ≤ (held ts).count slot := by
  induction ts with
  | nil => exact Nat.le_refl 0
  | cons t ts ih =>
    cases t with
    | holding m k =>
      have hheld : held (.holding m k :: ts) = k :: held ts := rfl
      rw [hheld, List.count_cons, List.count_cons]
      by_cases hk : k = slot
      · subst hk
        simp only [BEq.rfl, ↓reduceIte]
        split <;> omega
      · have hne : (Task.holding m k == .holding n slot) = false := by simp [hk]
        rw [hne]
        simpa [hk] using ih
    | _ => simpa [held] using ih

/-- Nobody else works on a slot that is held. -/
theorem Course.holds_once (h : Course n created p ts es) (ht : .holding n slot ∈ ts) :
    ts.count (.holding n slot) = 1 := by
  have hsub : (guards (loans es)).Sublist ((loans es).map (·.lease.slot)) :=
    List.filter_sublist.map _
  have hnodup := h.lent.guarded.nodup_iff.mp (h.loans_distinct.1.sublist hsub)
  have hle := count_holding_le ts n slot
  have hone := List.nodup_iff_count_le_one.mp hnodup slot
  have hpos := List.count_pos_iff.mpr ht
  omega

variable {rest : List Task} {step : Yard × Reaction} {task : Task} {reply : Reply}

/-- A checkout begins with that deed, or goes on with it. -/
def Deed.checksOut : Deed → Bool
  | .call (.checkout _) | .answer (.allocating _ _ .checkout) _ | .answer (.discarding _) _ => true
  | _ => false

theorem reserves_of_checksOut (h : d.checksOut = true) : d.reserves = true := by
  cases d with
  | call c =>
    cases c with
    | checkout => rfl
    | _ => cases h
  | answer task reply =>
    cases task with
    | allocating | discarding => rfl
    | _ => cases h

/-- What the pool has for a checkout: at the call, and when it is told what was made. -/
inductive Offers (n : Nat) (p : Pool) : Deed → Reaction → Prop
  | drained (hd : p.drained = true) :
      Offers n p (.call (.checkout n)) (.done (.refused (.drained p.label)))
  | full (hd : p.drained = false) (hf : p.free = []) (hm : p.isFull = true) :
      Offers n p (.call (.checkout n)) (.done (.refused (.atCapacity p.label p.bounds.maxSize)))
  | free {slot free} (hd : p.drained = false) (hf : p.free = slot :: free) :
      Offers n p (.call (.checkout n)) (.work ⟨n, slot.id, slot.resource⟩)
  | room (hd : p.drained = false) (hf : p.free = []) (hm : p.isFull = false) :
      Offers n p (.call (.checkout n)) (.allocate n)
  | made {slot resource} (hd : p.drained = false) :
      Offers n p (.answer (.allocating n slot .checkout) .made) (.work ⟨n, slot, resource⟩)
  | late {slot resource} (hd : p.drained = true) :
      Offers n p (.answer (.allocating n slot .checkout) .made) (.destroy n resource)
  | nothing {slot} :
      Offers n p (.answer (.allocating n slot .checkout) .nothing)
        (.done (.refused (.unavailable p.label)))
  | unwind {slot} :
      Offers n p (.answer (.allocating n slot .checkout) .unwind) (.done .unwound)
  | destroyed :
      Offers n p (.answer (.discarding n) .destroyed) (.done (.refused (.drained p.label)))

theorem Turn.offers (h : Turn n created p d r p' new created') (hd : d.checksOut = true) :
    Offers n p d r := by
  cases h with
  | @drained use hdrained =>
    cases use <;> cases hd
    exact .drained hdrained
  | @full use hopen hfree hfull =>
    cases use <;> cases hd
    exact .full hopen hfree hfull
  | @reuse use slot free hopen hfree =>
    cases use <;> cases hd
    exact .free hopen hfree
  | @announce use hopen hfree hroom =>
    cases use <;> cases hd
    exact .room hopen hfree hroom
  | @lend slot use hopen =>
    cases use <;> cases hd
    exact .made hopen
  | @lendLate slot use hdrained =>
    cases use <;> cases hd
    exact .late hdrained
  | @notMade slot use r o hr =>
    cases use <;> cases hd
    obtain ⟨rfl, rfl⟩ | ⟨rfl, rfl⟩ := hr
    · exact .nothing
    · exact .unwind
  | discard => exact .destroyed
  | trim hc => obtain rfl | ⟨rfl, -⟩ := hc <;> cases hd
  | _ => cases hd

theorem Stride.offers (h : Stride y n rest d step) (hd : d.checksOut = true) :
    ∃ p, y.pools[n]? = some p ∧ Offers n p d step.2 := by
  obtain ⟨p, p', new, hp, turn, -⟩ := h
  exact ⟨p, hp, turn.offers hd⟩

/-- Unless something was made, a checkout that was answered is over. -/
theorem Offers.over (h : Offers n p (.answer task reply) r) (hr : reply ≠ .made) :
    ∃ o, r = .done o := by
  cases h with
  | made | late => exact absurd rfl hr
  | nothing | unwind | destroyed => exact ⟨_, rfl⟩

theorem Offers.lends_nothing {o : Outcome} (h : Offers n p d (.done o)) :
    Event.loan? ⟨d, created, .done o⟩ = none := by
  cases h <;> rfl

/-- A checkout that ends without work has made nothing. -/
theorem Stride.created_of_over {y' : Yard} {o : Outcome} (h : Stride y n rest d (y', .done o))
    (hd : d.checksOut = true) : y'.created = y.created := by
  obtain ⟨p, p', new, -, turn, -⟩ := h
  generalize hr : Reaction.done o = r at turn
  generalize y'.created = made at turn ⊢
  cases turn with
  | @lend slot use =>
    cases use <;> cases hd
    cases hr
  | lendLate => cases hr
  | _ => rfl

/-- Where there is room, the checkout waits for what is made. -/
theorem Stride.room {y' : Yard} (h : Stride y n rest (.call (.checkout n)) (y', .allocate n)) :
    (∃ p, y'.pools[n]? = some p) ∧ ∃ slot, y'.tasks = .allocating n slot .checkout :: rest := by
  obtain ⟨p, p', new, hp, turn, hpools, htasks⟩ := h
  have hp' : y'.pools[n]? = some p' := by
    rw [show y'.pools = _ from hpools, List.getElem?_set_self (List.getElem?_eq_some_iff.mp hp).1]
  generalize hd : Deed.call (.checkout n) = d at turn
  generalize hr : Reaction.allocate n = r at turn
  change y'.tasks = new ++ rest at htasks
  generalize y'.created = made at turn ⊢
  cases turn with
  | @announce use =>
    cases use <;> cases hd
    exact ⟨⟨_, hp'⟩, _, htasks⟩
  | @reuse use | @lend _ use => cases use <;> cases hr
  | trim | drain | destroyNext => exact absurd hr.symm (giving_ne_allocate _)
  | _ => cases hr

/-- What was made too late waits for its end. -/
theorem Stride.late {slot resource : Nat} {y' : Yard}
    (h : Stride y n rest (.answer (.allocating n slot .checkout) .made)
      (y', .destroy n resource)) : y'.tasks = .discarding n :: rest ∧ resource = y.created := by
  obtain ⟨p, p', new, -, turn, -, htasks⟩ := h
  change y'.tasks = new ++ rest at htasks
  generalize hr : Reaction.destroy n resource = r at turn
  generalize y'.created = made at turn
  cases turn with
  | lend => cases hr
  | lendLate =>
    cases hr
    exact ⟨htasks, rfl⟩
  | notMade => cases hr

/-- A slot of the pool goes on loan, the head of the free ones or a new one. Nothing else of the
free ones and those on loan changes, and no other pool. -/
structure Lends (n : Nat) (lease : Lease) (before after : Yard) : Prop where
  pool : lease.pool = n
  moves : ∃ p p', before.pools[n]? = some p ∧ p.drained = false ∧ p'.drained = false ∧
    after.pools = before.pools.set n p' ∧
    p'.loaned = ⟨lease.slot, lease.resource⟩ :: p.loaned ∧
    (p.free = ⟨lease.slot, lease.resource⟩ :: p'.free ∨
      p'.free = p.free ∧ lease.resource = before.created)

/-- The slot goes to the head of the free ones; into a pool drained meanwhile nothing goes. -/
def GivesBack (n : Nat) (lease : Lease) (before after : List Pool) : Prop :=
  ∃ p, before[n]? = some p ∧
    (p.drained = false → after = before.set n { p with
      free := ⟨lease.slot, lease.resource⟩ :: p.free
      loaned := p.loaned.filter (·.id != lease.slot) }) ∧
    (p.drained = true → after = before)

/-- How work on a slot can end, and what is told then. -/
inductive Ending : Reply → Outcome → Prop
  | finished : Ending .finished .returned
  | unwind : Ending .unwind .unwound

theorem Turn.work (h : Turn n created p d (.work lease) p' new created') :
    lease.pool = n ∧ p.drained = false ∧ p'.drained = false ∧ new = [.holding n lease.slot] ∧
      p'.loaned = ⟨lease.slot, lease.resource⟩ :: p.loaned ∧
      (p.free = ⟨lease.slot, lease.resource⟩ :: p'.free ∨
        p'.free = p.free ∧ lease.resource = created) := by
  generalize hr : Reaction.work lease = r at h
  cases h with
  | @reuse use slot free hd hf =>
    cases use <;> cases hr
    exact ⟨rfl, hd, hd, rfl, rfl, .inl hf⟩
  | @lend slot use hd =>
    cases use <;> cases hr
    exact ⟨rfl, hd, hd, rfl, rfl, .inr ⟨rfl, rfl⟩⟩
  | trim | drain | destroyNext =>
    unfold giving at hr
    split at hr <;> cases hr
  | _ => cases hr

theorem Stride.lends {rest : List Task} {y' : Yard} (h : Stride y n rest d (y', .work lease)) :
    Lends n lease y y' ∧ y'.tasks = .holding n lease.slot :: rest := by
  obtain ⟨p, p', new, hp, turn, hpools, htasks⟩ := h
  obtain ⟨hpool, hd, hd', rfl, hloaned, hfree⟩ := turn.work
  exact ⟨⟨hpool, p, p', hp, hd, hd', hpools, hloaned, hfree⟩, htasks⟩

namespace History

variable {s s' u : History} {moves more : List Move}

/-- The slot is out on that guard, and on no other lease or guard is it or its resource. Up to the
drain it is on loan and not free. -/
structure HeldAlone (n : Nat) (lease : Lease) (s : History) : Prop where
  out : ⟨.checkout, lease⟩ ∈ loans (s.eventsOf n)
  alone : ∀ x ∈ (loans (s.eventsOf n)).erase ⟨.checkout, lease⟩,
    x.lease.slot ≠ lease.slot ∧ x.lease.resource ≠ lease.resource
  once : s.yard.tasks.count (.holding n lease.slot) = 1
  loaned : ∃ p, s.yard.pools[n]? = some p ∧ (p.drained = false →
    ⟨lease.slot, lease.resource⟩ ∈ p.loaned ∧ lease.resource ∉ p.free.map Slot.resource)

theorem Followed.heldAlone (hf : s.Followed) (hl : lease ∈ issued (s.eventsOf n))
    (ht : .holding n lease.slot ∈ s.yard.tasks) : s.HeldAlone n lease := by
  obtain ⟨p, hp⟩ := hf.pool_of_task ht
  have hc := hf.1 n p hp
  have hmem : .holding n lease.slot ∈ s.tasksOf n := List.mem_filter.mpr ⟨ht, by simp [Task.pool]⟩
  have hout := hc.guard hl hmem
  refine ⟨hout, ?_, ?_, p, hp, fun hd => (hc.loans_apart hd).1 _ hout⟩
  · obtain ⟨hslots, hresources⟩ := hc.loans_distinct
    have hperm := List.perm_cons_erase hout
    have hslots := (hperm.map (·.lease.slot)).nodup_iff.mp hslots
    have hresources := (hperm.map (·.lease.resource)).nodup_iff.mp hresources
    rw [List.map_cons, List.nodup_cons] at hslots hresources
    intro x hx
    exact ⟨fun he => hslots.1 (List.mem_map.mpr ⟨x, hx, he⟩),
      fun he => hresources.1 (List.mem_map.mpr ⟨x, hx, he⟩)⟩
  · rw [← hc.holds_once hmem]
    exact (List.count_filter (by simp [Task.pool])).symm

/-- What is held goes back to where it came from. -/
theorem Followed.givesBack (hf : s.Followed) (hh : s.HeldAlone n lease)
    (hp : s.yard.pools[n]? = some p) :
    GivesBack n lease s.yard.pools (s.yard.pools.set n (p.takeBack lease.slot)) := by
  obtain ⟨q, hq, hloaned⟩ := hh.loaned
  obtain rfl := Option.some.inj (hp.symm.trans hq)
  have hc := hf.1 n p hp
  refine ⟨p, hp, fun hd => ?_, fun hd => ?_⟩
  · have hback := Pool.takeBack_of_mem hc.numbered.loaned_distinct (hloaned hd).1
    rw [show p.takeBack lease.slot = _ from hback]
  · rw [Pool.takeBack_of_loaned_nil (hc.emptied hd).2, set_same hp]

theorem events_suffix (h : s.runFrom moves = some s') : s.events <:+ s'.events := by
  refine runFrom_invariant (P := fun t => s.events <:+ t.events) (List.suffix_refl _) ?_ h
  intro t m t' ht hm
  obtain he | ⟨e, he⟩ := advance_events hm
  · rwa [he]
  · rw [he]
    exact ht.trans (List.suffix_cons _ _)

/-- From a checkout of the pool to the end of the work on it. The pool hands a slot out if it has
one or gets one in time. What hands nothing out moves no slot. What hands a slot out has taken it
from the pool; its holder has it alone, whatever is done to the pool meanwhile, and at the end of
the work, be it broken off or not, it goes back. -/
structure Bracketed (n : Nat) (s : History) : Prop where
  begins : ∃ r s', s.Takes (.call (.checkout n)) r s'
  answered : ∀ task reply, (Deed.answer task reply).checksOut = true → task ∈ s.yard.tasks →
    task.awaits reply = true → ∃ r s', s.Takes (.answer task reply) r s'
  offers : ∀ d r s', d.pool = n → d.checksOut = true → s.Takes d r s' →
    ∃ p, s.yard.pools[n]? = some p ∧ Offers n p d r
  idle : ∀ d r s', d.reserves = true → s.Takes d r s' →
    Event.loan? ⟨d, s.yard.created, r⟩ = none → Untouched s s'
  lends : ∀ d lease s', d.pool = n → s.Takes d (.work lease) s' →
    Lends n lease s.yard s'.yard ∧ .holding n lease.slot ∈ s'.yard.tasks ∧
    ∀ more u, s'.runFrom more = some u → .holding n lease.slot ∈ u.yard.tasks →
      u.HeldAlone n lease ∧ ∀ reply o, Ending reply o →
        (∃ r u', u.Takes (.answer (.holding n lease.slot) reply) r u') ∧
        ∀ r u', u.Takes (.answer (.holding n lease.slot) reply) r u' →
          r = .done o ∧ GivesBack n lease u.yard.pools u'.yard.pools

theorem Followed.returned {reply : Reply} {o : Outcome} {rest : List Task} {y' : Yard}
    (hf : s.Followed) (hh : s.HeldAlone n lease) (he : Ending reply o)
    (hs : Stride s.yard n rest (.answer (.holding n lease.slot) reply) (y', r)) :
    r = .done o ∧ y'.created = s.yard.created ∧ GivesBack n lease s.yard.pools y'.pools := by
  obtain ⟨p, p', new, hp, turn, hpools, -⟩ := hs
  have hback := hf.givesBack hh hp
  change y'.pools = _ at hpools
  rw [hpools]
  generalize hc : y'.created = created at turn
  cases turn with
  | dropGuard ho =>
    refine ⟨?_, rfl, hback⟩
    cases he <;> obtain ⟨hr, rfl⟩ | ⟨hr, rfl⟩ := ho <;> first | rfl | cases hr

theorem Followed.bracketed (hf : s.Followed) (hp : s.yard.pools[n]? = some p) :
    Bracketed n s where
  begins := exists_call hp rfl
  answered task reply _ ht ha := hf.exists_answer ht ha
  offers d r s' hn hd h := by
    obtain ⟨rest, -, hs⟩ := h.stride
    exact hn ▸ hs.offers hd
  idle d r s' hd h hr := h.untouched hd hr
  lends d lease s' hn h := by
    obtain ⟨rest, hperm, hstride⟩ := h.stride
    rw [hn] at hstride
    obtain ⟨hlends, htasks⟩ := hstride.lends
    have hf' := h.followed hf
    have hissued : lease ∈ issued (s'.eventsOf n) := by
      rw [← hn, h.events_cons, issued_cons]
      exact List.mem_append_left _ List.mem_cons_self
    refine ⟨hlends, by simp [show s'.yard.tasks = _ from htasks], fun more u hu ht => ?_⟩
    have hfu := hf'.runFrom hu
    have hmono := issued_mono ((events_suffix hu).filter fun e => e.deed.pool == n)
    have hh := hfu.heldAlone (hmono hissued) ht
    refine ⟨hh, fun reply o he => ⟨hfu.exists_answer ht ?_, fun r u' hends => ?_⟩⟩
    · cases he <;> rfl
    · obtain ⟨rest, -, hs⟩ := hends.stride
      obtain ⟨hr, -, hback⟩ := hfu.returned hh he hs
      exact ⟨hr, hback⟩

end History
end Tenancy.Yard
