import Tenancy.Proofs.Yard.Conservation
import Tenancy.Proofs.Yard.Loans
import Tenancy.Proofs.Yard.Progress

namespace Tenancy.Yard

variable {n created created' total count : Nat} {p p' : Pool} {d : Deed} {r : Reaction}
  {new ts : List Task} {es : List Event} {rest resources : List Nat} {y : Yard} {c : Call}

/-- A drained pool is empty. -/
def Emptied (p : Pool) : Prop := p.drained = true → p.free = [] ∧ p.loaned = []

theorem Turn.emptied (h : Turn n created p d r p' new created') (he : Emptied p) : Emptied p' := by
  intro hd
  cases h with
  | reuse hno | lend hno => exact absurd (hno.symm.trans hd) (by decide)
  | drain => exact ⟨rfl, rfl⟩
  | release | dropGuard =>
    rw [Pool.takeBack_drained] at hd
    rw [Pool.takeBack_of_loaned_nil (he hd).2]
    exact he hd
  | @trim c count =>
    rw [Pool.trim_of_free_nil (he hd).1]
    exact he hd
  | _ => exact he hd

theorem Course.emptied (h : Course n created p ts es) : Emptied p := by
  induction h with
  | new hp =>
    rw [Pool.of?_ok hp]
    exact fun _ => ⟨rfl, rfl⟩
  | later _ _ ih => exact ih
  | perm _ _ ih => exact ih
  | turn _ _ ht ih => exact ht.emptied ih

/-- Nobody takes a drain back. -/
theorem Turn.stays_drained (h : Turn n created p d r p' new created') (hd : p.drained = true) :
    p'.drained = true := by
  cases h with
  | drain => rfl
  | release | dropGuard => rwa [Pool.takeBack_drained]
  | _ => exact hd

/-- A pool is drained at most once, and is drained then. -/
theorem Turn.drains (h : Turn n created p (.call (.drain n)) r p' new created') :
    p'.drained = true ∧ (p.drained = true → new = []) := by
  generalize hc : Deed.call (.drain n) = d at h
  cases h with
  | drain hd => exact ⟨rfl, fun hdrained => by cases hd.symm.trans hdrained⟩
  | drainAgain hd => exact ⟨hd, fun _ => rfl⟩
  | @drained use | @full use | @reuse use | @announce use => cases use <;> cases hc
  | trim ho =>
    cases hc
    obtain ho | ⟨ho, -⟩ := ho <;> cases ho
  | _ => cases hc

theorem Turn.label (h : Turn n created p d r p' new created') : p'.label = p.label := by
  cases h with
  | release | dropGuard => exact Pool.takeBack_label
  | _ => rfl

theorem Turn.settings (h : Turn n created p d r p' new created') : p'.settings = p.settings := by
  cases h with
  | release | dropGuard => exact Pool.takeBack_settings
  | _ => rfl

theorem giving_ne_allocate (resources : List Nat) :
    (giving n total resources).1 ≠ .allocate k := by
  cases resources <;> simp [giving]

/-- A drained pool hands nothing out and has nothing made for it. -/
theorem Turn.drained_idle (h : Turn n created p d r p' new created') (hd : p.drained = true) :
    Event.loan? ⟨d, created, r⟩ = none ∧ r ≠ .allocate n := by
  cases h with
  | full hno | reuse hno | announce hno | drain hno | lend hno =>
    exact absurd (hno.symm.trans hd) (by decide)
  | trim | destroyNext => exact ⟨loan?_giving _ _ _ _, giving_ne_allocate _⟩
  | notMade ho | dropGuard ho => obtain ⟨-, rfl⟩ | ⟨-, rfl⟩ := ho <;> exact ⟨rfl, by simp⟩
  | _ => exact ⟨rfl, by simp⟩

theorem start_reserve_drained (hd : p.drained = true) (use : Use) :
    (y.start n p (use.call n)).2 = .done (.refused (.drained p.label)) ∧
      (y.start n p (use.call n)).1.pools = y.pools := by
  rw [start_use]
  simp [reserve, hd, Yard.count]

/-- There is nothing to give up any more. -/
theorem start_spent (hp : y.pools[n]? = some p) (hd : p.drained = true) (hf : p.free = [])
    (hc : c = .drain n ∨ c = .shrink n ∨ ∃ count, c = .trim n count) :
    (y.start n p c).2 = .done (.counted 0) ∧ (y.start n p c).1.pools = y.pools := by
  have hnone : (y.giveUp n [] p).2 = .done (.counted 0) ∧ (y.giveUp n [] p).1.pools = y.pools :=
    ⟨rfl, set_same hp⟩
  rcases hc with rfl | rfl | ⟨count, rfl⟩
  · simp [start, hd]
  · simpa only [start, Pool.trim_of_free_nil hf] using hnone
  · simpa only [start, Pool.trim_of_free_nil hf] using hnone

theorem giveBack_drained (hd : p.drained = true) (hl : p.loaned = []) (y : Yard) (n id : Nat) :
    y.giveBack n p id = y := by
  simp [giveBack, Pool.giveBack?, hl, hd]

theorem start_release_drained (hd : p.drained = true) (hl : p.loaned = []) {lease : Lease}
    (hn : lease.pool = n) : y.start n p (.release n lease) = (y, .done .returned) := by
  simp [start, hn, giveBack_drained hd hl]

namespace History

variable {s s' s₁ s₂ : History} {moves more : List Move}

/-- Resources are given up one after the other, from a step with that deed to the end of the
operation: which ones, and what the operation says in the end. Between its steps anything may go
on. -/
inductive GivesUp (n : Nat) : History → Deed → List Nat → Nat → History → Prop
  | done {s s' : History} {d : Deed} {count : Nat} (h : s.Takes d (.done (.counted count)) s') :
      GivesUp n s d [] count s'
  | next {s s₁ s₂ s' : History} {d : Deed} {resource total count : Nat} {rest resources : List Nat}
      {ts : List Task} {moves : List Move} (h : s.Takes d (.destroy n resource) s₁)
      (ht : s₁.yard.tasks = .destroying n rest total :: ts) (hg : s₁.runFrom moves = some s₂)
      (hn : GivesUp n s₂ (.answer (.destroying n rest total) .destroyed) resources count s') :
      GivesUp n s d (resource :: resources) count s'

/-- The step begins to give these up, or goes on with them. -/
def Giving (n total : Nat) (resources : List Nat) (s : History) (d : Deed) : Prop :=
  ∀ r s', s.Takes d r s' → r = (giving n total resources).1 ∧
    ∃ ts, s'.yard.tasks = (giving n total resources).2 ++ ts

theorem giving_answer (s : History) (n total : Nat) (rest : List Nat) :
    Giving n total rest s (.answer (.destroying n rest total) .destroyed) := by
  intro r s' h
  obtain ⟨ts, p, p', new, created, -, -, turn, -, htasks⟩ := h.turn
  cases turn with
  | destroyNext => exact ⟨rfl, ts, htasks⟩

theorem giving_drain (hp : s.yard.pools[n]? = some p) (hd : p.drained = false) :
    Giving n (p.drain s.yard.order).1.length ((p.drain s.yard.order).1.map Slot.resource) s (.call (.drain n)) := by
  intro r s' h
  obtain ⟨rfl, rfl⟩ := (takes_call_iff hp rfl).mp h
  simp only [start, hd, Bool.false_eq_true, ↓reduceIte, giveUp_eq, record]
  exact ⟨rfl, s.yard.tasks, rfl⟩

/-- All of them are given up, in their order, and the operation says how many it began with. -/
theorem GivesUp.all (h : GivesUp n s d xs count s') (hg : Giving n total resources s d) :
    xs = resources ∧ count = total := by
  induction h generalizing total resources with
  | done h =>
    obtain ⟨hr, -⟩ := hg _ _ h
    cases resources with
    | nil => exact ⟨rfl, by simpa [giving] using hr⟩
    | cons => simp [giving] at hr
  | next h ht _ _ ih =>
    obtain ⟨hr, ts, hts⟩ := hg _ _ h
    cases resources with
    | nil => simp [giving] at hr
    | cons =>
      obtain ⟨rfl, rfl⟩ := ih (giving_answer _ n _ _)
      simp_all [giving]

theorem GivesUp.runs (h : GivesUp n s d xs count s') : ∃ moves, s.runFrom moves = some s' := by
  induction h with
  | done h =>
    obtain ⟨m, hm⟩ := h.runs
    exact ⟨_, hm⟩
  | next h _ hg _ ih =>
    obtain ⟨m, hm⟩ := h.runs
    obtain ⟨moves, hmoves⟩ := ih
    exact ⟨_, (runFrom_append hm _).trans ((runFrom_append hg _).trans hmoves)⟩

/-- What was destroyed once stays destroyed. -/
theorem destroyed_stays (h : s.runFrom moves = some s') (hx : x ∈ destroyed (s.eventsOf n)) :
    x ∈ destroyed (s'.eventsOf n) := by
  refine runFrom_invariant (P := fun t => x ∈ destroyed (t.eventsOf n)) hx ?_ h
  intro t m t' ht hm
  obtain he | ⟨e, he⟩ := advance_events hm
  · simpa only [eventsOf, he] using ht
  · simp only [eventsOf, he, List.filter_cons]
    split
    · rw [destroyed_cons]
      exact List.mem_append_right _ ht
    · exact ht

theorem GivesUp.destroyed (h : GivesUp n s d xs count s') (hd : d.pool = n) :
    ∀ x ∈ xs, x ∈ destroyed (s'.eventsOf n) := by
  induction h with
  | done => simp
  | next h _ hg hn ih =>
    intro x hx
    rcases List.mem_cons.mp hx with rfl | hx
    · obtain ⟨moves, hmoves⟩ := hn.runs
      refine destroyed_stays hmoves (destroyed_stays hg ?_)
      rw [← hd, h.events_cons]
      exact List.mem_cons_self
    · exact ih rfl x hx

theorem Takes.followed (h : s.Takes d r s') (hf : s.Followed) : s'.Followed := by
  obtain ⟨m, hm, -⟩ := h
  exact followed_advance hf hm

/-- Once begun, the giving up can be brought to its end. -/
theorem Followed.givesUp (hf : s.Followed) (h : s.Takes d r s₁)
    (hg : Giving n total resources s d) :
    ∃ s', GivesUp n s d resources total s' := by
  induction resources generalizing s d r s₁ with
  | nil =>
    obtain ⟨rfl, -⟩ := hg _ _ h
    exact ⟨s₁, .done h⟩
  | cons resource rest ih =>
    obtain ⟨rfl, ts, ht⟩ := hg _ _ h
    have hf₁ := h.followed hf
    have hm : .destroying n rest total ∈ s₁.yard.tasks := by simp [ht, giving]
    have ha : Task.awaits (.destroying n rest total) .destroyed = true := rfl
    obtain ⟨r', s₂, h'⟩ := hf₁.exists_answer hm ha
    obtain ⟨s', hs'⟩ := ih hf₁ h' (giving_answer s₁ n total rest)
    have hnone : s₁.runFrom [] = some s₁ := rfl
    exact ⟨s', .next h ht hnone hs'⟩

/-- The deed can be done, it ends its operation like that, and it leaves every pool as it is. -/
def Ends (s : History) (d : Deed) (o : Outcome) : Prop :=
  (∃ r s', s.Takes d r s') ∧
    ∀ r s', s.Takes d r s' → r = .done o ∧ s'.yard.pools = s.yard.pools

/-- What is left of a drained pool, whatever else goes on. -/
structure Shut (n : Nat) (s : History) (p : Pool) : Prop where
  drained : p.drained = true
  empty : p.free = [] ∧ p.loaned = []
  /-- Nothing is handed out and nothing is asked for. -/
  idle : ∀ d r s', d.pool = n → s.Takes d r s' →
    Event.loan? ⟨d, s.yard.created, r⟩ = none ∧ r ≠ .allocate n
  refuses : ∀ use : Use, s.Ends (.call (use.call n)) (.refused (.drained p.label))
  /-- There is nothing to give up. -/
  spent : ∀ c, c = .drain n ∨ c = .shrink n ∨ (∃ count, c = .trim n count) →
    s.Ends (.call c) (.counted 0)
  /-- A lease that comes back changes nothing at all, and neither does one that does not. -/
  leases : ∀ lease, lease.pool = n → s.isOut lease = true →
    s.Ends (.call (.release n lease)) .returned ∧
    (∀ r s', s.Takes (.call (.release n lease)) r s' → s'.yard = s.yard) ∧
    s.advance (.forget lease) = some s
  /-- Of the work on what was checked out only the waiting ends. -/
  guards : ∀ slot, .holding n slot ∈ s.yard.tasks →
    s.Ends (.answer (.holding n slot) .finished) .returned ∧
    s.Ends (.answer (.holding n slot) .unwind) .unwound ∧
    ∀ reply r s', s.Takes (.answer (.holding n slot) reply) r s' →
      s'.yard = { s.yard with tasks := s'.yard.tasks }
  /-- What is made too late is destroyed, once and for all, before its reservation is refused. -/
  late : ∀ slot use, .allocating n slot use ∈ s.yard.tasks →
    (∃ r s₁, s.Takes (.answer (.allocating n slot use) .made) r s₁) ∧
    ∀ r s₁, s.Takes (.answer (.allocating n slot use) .made) r s₁ →
      r = .destroy n s.yard.created ∧ .discarding n ∈ s₁.yard.tasks ∧
      ∀ more s₂, s₁.runFrom more = some s₂ →
        (destroyed (s₂.eventsOf n)).count s.yard.created = 1 ∧
        (.discarding n ∈ s₂.yard.tasks →
          s₂.Ends (.answer (.discarding n) .destroyed) (.refused (.drained p.label)))

theorem ends_call {o : Outcome} (hp : s.yard.pools[n]? = some p) (hn : c.pool = n)
    (ha : s.allows c = true)
    (hs : (s.yard.start n p c).2 = .done o ∧ (s.yard.start n p c).1.pools = s.yard.pools) :
    s.Ends (.call c) o := by
  subst hn
  refine ⟨exists_call hp ha, ?_⟩
  intro r s' h
  obtain ⟨rfl, rfl⟩ := (takes_call_iff hp ha).mp h
  exact hs

theorem Followed.ends_answer {task : Task} {reply : Reply} {o : Outcome} (hf : s.Followed)
    (ht : task ∈ s.yard.tasks) (ha : task.awaits reply = true)
    (hp : s.yard.pools[task.pool]? = some p)
    (hr : ∀ y step, resume y p task reply = some step →
      step.2 = .done o ∧ step.1.pools = y.pools) : s.Ends (.answer task reply) o := by
  refine ⟨hf.exists_answer ht ha, ?_⟩
  intro r s' h
  obtain ⟨i, q, -, hq, hstep⟩ := h.resumed
  obtain rfl := Option.some.inj (hp.symm.trans hq)
  exact hr _ _ hstep

theorem ends_release (hp : s.yard.pools[n]? = some p) (hd : p.drained = true) (hl : p.loaned = [])
    {lease : Lease} (hn : lease.pool = n) (ho : s.isOut lease = true) :
    s.Ends (.call (.release n lease)) .returned ∧
      ∀ r s', s.Takes (.call (.release n lease)) r s' → s'.yard = s.yard := by
  have hs : s.yard.start n p (.release n lease) = (s.yard, .done .returned) :=
    start_release_drained hd hl hn
  have ha : s.allows (.release n lease) = true := ho
  refine ⟨ends_call hp rfl ha (by simp [hs]), ?_⟩
  intro r s' h
  obtain ⟨-, rfl⟩ := (takes_call_iff hp ha).mp h
  exact congrArg Prod.fst hs

theorem Followed.ends_holding {slot : Nat} (hf : s.Followed) (hp : s.yard.pools[n]? = some p)
    (hd : p.drained = true) (hl : p.loaned = []) (ht : .holding n slot ∈ s.yard.tasks) :
    s.Ends (.answer (.holding n slot) .finished) .returned ∧
      s.Ends (.answer (.holding n slot) .unwind) .unwound := by
  constructor <;> refine hf.ends_answer ht rfl hp ?_ <;> intro y step h
  all_goals
    simp only [resume, giveBack_drained hd hl, Option.some.injEq] at h
    subst h
    exact ⟨rfl, rfl⟩

theorem Takes.holding_drained {slot : Nat} {reply : Reply}
    (h : s.Takes (.answer (.holding n slot) reply) r s') (hp : s.yard.pools[n]? = some p)
    (hd : p.drained = true) (hl : p.loaned = []) :
    s'.yard = { s.yard with tasks := s'.yard.tasks } := by
  obtain ⟨i, q, -, hq, hstep⟩ := h.resumed
  obtain rfl := Option.some.inj (hp.symm.trans hq)
  cases reply with
  | finished | unwind =>
    simp only [resume, giveBack_drained hd hl, Option.some.injEq, Prod.mk.injEq] at hstep
    rw [← hstep.1]
  | made | nothing | destroyed => simp [resume] at hstep

/-- What is made for a drained pool is destroyed, and the reservation ends with that. -/
theorem Takes.made_late {slot : Nat} {use : Use}
    (h : s.Takes (.answer (.allocating n slot use) .made) r s₁) (hp : s.yard.pools[n]? = some p)
    (hd : p.drained = true) : r = .destroy n s.yard.created ∧ .discarding n ∈ s₁.yard.tasks := by
  obtain ⟨rest, q, q', new, created, -, hq, turn, -, htasks⟩ := h.turn
  obtain rfl := Option.some.inj (hp.symm.trans hq)
  cases turn with
  | lend hno => exact absurd (hno.symm.trans hd) (by decide)
  | lendLate => exact ⟨rfl, htasks ▸ List.mem_cons_self⟩
  | notMade ho => obtain ⟨hno, -⟩ | ⟨hno, -⟩ := ho <;> cases hno

theorem Followed.ends_discarding (hf : s.Followed) (hp : s.yard.pools[n]? = some p)
    (ht : .discarding n ∈ s.yard.tasks) :
    s.Ends (.answer (.discarding n) .destroyed) (.refused (.drained p.label)) := by
  refine hf.ends_answer ht rfl hp ?_
  intro y step h
  cases h
  exact ⟨rfl, rfl⟩

theorem Followed.destroyed_count (hf : s.Followed) (hp : s.yard.pools[n]? = some p)
    (hx : x ∈ destroyed (s.eventsOf n)) : (destroyed (s.eventsOf n)).count x = 1 :=
  List.count_eq_one_of_mem (hf.1 n p hp).destroyed_once hx

theorem stays_drained (h : s.runFrom more = some s') (hp : s.yard.pools[n]? = some p)
    (hd : p.drained = true) :
    ∃ p', s'.yard.pools[n]? = some p' ∧ p'.drained = true ∧ p'.label = p.label :=
  runFrom_keeps (P := fun q => q.drained = true ∧ q.label = p.label)
    (fun turn hq => ⟨turn.stays_drained hq.1, turn.label.trans hq.2⟩) h hp ⟨hd, rfl⟩

theorem Followed.shut (hf : s.Followed) (hp : s.yard.pools[n]? = some p)
    (hd : p.drained = true) : Shut n s p := by
  obtain ⟨hfree, hloaned⟩ := (hf.1 n p hp).emptied hd
  constructor
  case drained => exact hd
  case empty => exact ⟨hfree, hloaned⟩
  case idle =>
    intro d r s' hn h
    obtain ⟨p', -, hown, -⟩ := h.pool hp
    obtain ⟨new, created, turn⟩ := hown hn
    exact turn.drained_idle hd
  case refuses =>
    intro use
    exact ends_call hp (Use.pool_call use n) (allows_use s use n) (start_reserve_drained hd use)
  case spent =>
    intro c hc
    have hn : c.pool = n ∧ s.allows c = true := by
      rcases hc with rfl | rfl | ⟨count, rfl⟩ <;> exact ⟨rfl, rfl⟩
    exact ends_call hp hn.1 hn.2 (start_spent hp hd hfree hc)
  case leases =>
    intro lease hn ho
    obtain ⟨hends, hsame⟩ := ends_release hp hd hloaned hn ho
    exact ⟨hends, hsame, by simp [advance, ho]⟩
  case guards =>
    intro slot ht
    obtain ⟨hfinished, hunwind⟩ := hf.ends_holding hp hd hloaned ht
    exact ⟨hfinished, hunwind, fun _ _ _ h => h.holding_drained hp hd hloaned⟩
  case late =>
    intro slot use ht
    refine ⟨hf.exists_answer ht rfl, ?_⟩
    intro r s₁ h
    obtain ⟨rfl, ht₁⟩ := h.made_late hp hd
    refine ⟨rfl, ht₁, ?_⟩
    intro more s₂ hg
    -- the resource counts as destroyed from here on, and no pool destroys one twice
    obtain ⟨m, hm⟩ := h.runs
    obtain ⟨p₂, hp₂, -, hlabel⟩ := stays_drained ((runFrom_append hm more).trans hg) hp hd
    have hf₂ := (h.followed hf).runFrom hg
    have hmem : s.yard.created ∈ destroyed (s₁.eventsOf n) := by
      rw [show s₁.eventsOf n = _ from h.events_cons]
      exact List.mem_cons_self
    refine ⟨hf₂.destroyed_count hp₂ (destroyed_stays hg hmem), ?_⟩
    intro ht₂
    rw [← hlabel]
    exact hf₂.ends_discarding hp₂ ht₂

theorem Followed.stays_shut (hf : s.Followed) (hp : s.yard.pools[n]? = some p)
    (hd : p.drained = true) (h : s.runFrom more = some s') :
    ∃ p', s'.yard.pools[n]? = some p' ∧ Shut n s' p' := by
  obtain ⟨p', hp', hd', -⟩ := stays_drained h hp hd
  exact ⟨p', hp', (hf.runFrom h).shut hp' hd'⟩

theorem Takes.drain (h : s.Takes (.call (.drain n)) r s₁) (hp : s.yard.pools[n]? = some p)
    (hd : p.drained = false) : s₁.yard.pools[n]? = some (p.drain s.yard.order).2 := by
  obtain ⟨-, rfl⟩ := (takes_call_iff hp rfl).mp h
  have hlt := (List.getElem?_eq_some_iff.mp hp).1
  simp only [start, hd, Bool.false_eq_true, ↓reduceIte, giveUp_eq, record]
  exact List.getElem?_set_self hlt

/-- What is given up is destroyed just then, and never again. -/
theorem Followed.givesUp_once (hf : s.Followed) (hp : s.yard.pools[n]? = some p)
    (h : GivesUp n s (.call c) xs count s') (hc : c.pool = n) :
    ∀ x ∈ xs, (destroyed (s'.eventsOf n)).count x = 1 := by
  intro x hx
  obtain ⟨moves, hmoves⟩ := h.runs
  obtain ⟨p', hp', -⟩ := runFrom_keeps (P := fun _ => True) (fun _ _ => trivial) hmoves hp trivial
  exact (hf.runFrom hmoves).destroyed_count hp' (h.destroyed hc x hx)

/-- The first drain gives up what the pool has, each resource once. -/
theorem Followed.drain_all (hf : s.Followed) (hp : s.yard.pools[n]? = some p)
    (hd : p.drained = false) (h : GivesUp n s (.call (.drain n)) xs count s') :
    count = p.free.length + p.loaned.length ∧
      xs.Perm ((p.free ++ p.loaned).map Slot.resource) ∧ xs.Nodup ∧
      ∀ x ∈ xs, (destroyed (s'.eventsOf n)).count x = 1 := by
  obtain ⟨rfl, rfl⟩ := h.all (giving_drain hp hd)
  have hslots : (p.drain s.yard.order).1.Perm (p.free ++ p.loaned) := by
    have hall := p.slots_drain s.yard.order
    rwa [show (p.drain s.yard.order).2.slots = [] from rfl, List.append_nil] at hall
  have hres := hslots.map Slot.resource
  refine ⟨by simpa using hslots.length_eq, hres, ?_, hf.givesUp_once hp h rfl⟩
  exact hres.nodup_iff.mpr (hf.1 n p hp).numbered.resources_distinct

/-- Drain is final. The first drain gives up all that the pool has, free or on loan, each resource
once, and says how many there were; wherever it waits it can be brought to its end. From its first
step on the pool is shut, whatever was going on and whatever goes on later. -/
theorem drain_terminal (hs : run moves = some s) (hp : s.yard.pools[n]? = some p) :
    (p.drained = false →
      (∃ xs count s', GivesUp n s (.call (.drain n)) xs count s') ∧
      (∀ xs count s', GivesUp n s (.call (.drain n)) xs count s' →
        count = p.free.length + p.loaned.length ∧
        xs.Perm ((p.free ++ p.loaned).map Slot.resource) ∧ xs.Nodup ∧
        ∀ x ∈ xs, (destroyed (s'.eventsOf n)).count x = 1) ∧
      ∀ r s₁ more s', s.Takes (.call (.drain n)) r s₁ → s₁.runFrom more = some s' →
        ∃ p', s'.yard.pools[n]? = some p' ∧ Shut n s' p') ∧
    (p.drained = true → ∀ more s', s.runFrom more = some s' →
      ∃ p', s'.yard.pools[n]? = some p' ∧ Shut n s' p') ∧
    ∀ rest total, .destroying n rest total ∈ s.yard.tasks →
      ∃ s', GivesUp n s (.answer (.destroying n rest total) .destroyed) rest total s' := by
  have hf := followed_of_run hs
  refine ⟨?_, fun hd more s' h => hf.stays_shut hp hd h, ?_⟩
  · intro hd
    have hgives := giving_drain hp hd
    refine ⟨?_, fun xs count s' h => hf.drain_all hp hd h, ?_⟩
    · obtain ⟨r, s₁, h⟩ := exists_call (c := .drain n) hp rfl
      obtain ⟨s', h⟩ := hf.givesUp h hgives
      exact ⟨_, _, s', h⟩
    · intro r s₁ more s' h hmore
      exact (h.followed hf).stays_shut (h.drain hp hd) rfl hmore
  · intro rest total ht
    have ha : Task.awaits (.destroying n rest total) .destroyed = true := rfl
    obtain ⟨r, s₁, h⟩ := hf.exists_answer ht ha
    exact hf.givesUp h (giving_answer s n total rest)

theorem drain_terminal_crowd : ∃ s p s',
    run (.addPool "db" ⟨0, 3⟩ {} :: crowd) = some s ∧ s.yard.pools[0]? = some p ∧
    running (s.tasksOf 0) = 2 ∧ GivesUp 0 s (.call (.drain 0)) [0] 1 s' ∧
    ∀ r s₁ more s₂, s.Takes (.call (.drain 0)) r s₁ → s₁.runFrom more = some s₂ →
      ∃ p₂, s₂.yard.pools[0]? = some p₂ ∧ Shut 0 s₂ p₂ := by
  have hs : run (.addPool "db" ⟨0, 3⟩ {} :: crowd) = some _ := rfl
  obtain ⟨hfirst, -⟩ := drain_terminal (n := 0) hs rfl
  obtain ⟨⟨xs, count, s', h⟩, hall, hshut⟩ := hfirst rfl
  obtain ⟨rfl, hperm, -⟩ := hall xs count s' h
  obtain rfl : xs = [0] := List.perm_singleton.mp hperm
  exact ⟨_, _, s', hs, rfl, rfl, h, hshut⟩

end History
end Tenancy.Yard
