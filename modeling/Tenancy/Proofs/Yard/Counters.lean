import Mathlib.Algebra.GroupWithZero.Nat
import Tenancy.Proofs.Yard.Gauges

namespace Tenancy

theorem Metrics.counted_count (m : Metrics) (c k : Counter) :
    (m.count c).counted k = m.counted k + if c = k then 1 else 0 := by
  by_cases hk : c = k
  · subst hk
    simp [counted, count, read_change]
  · simp [counted, count, read_change, hk]

/-- Every way in which a request for a connection can end. -/
def Reservation.all : List Reservation := [reused, created, atCapacity, unavailable, drained]

namespace Yard

variable {y : Yard} {n created created' : Nat} {p p' : Pool} {deed d : Deed} {r : Reaction}
  {new ts : List Task} {es : List Event} {step : Yard × Reaction} {o : Reservation}

/-- How the reservation ended that ends with that reaction. One that hands a resource out at once
has found it free, and one that waited for it had it made. -/
def Deed.ends? (deed : Deed) : Reaction → Option Reservation
  | .done (.leased _) | .work _ =>
    match deed with
    | .call _ => some .reused
    | .answer .. => some .created
  | .done (.refused (.drained _)) => some .drained
  | .done (.refused (.atCapacity ..)) => some .atCapacity
  | .done (.refused (.unavailable _)) => some .unavailable
  | _ => none

def Event.ended? (e : Event) : Option Reservation := e.deed.ends? e.reaction

/-- Somebody asks for a resource. -/
def Event.isRequest (e : Event) : Bool :=
  match e.deed with
  | .call (.reserve _) | .call (.checkout _) => true
  | _ => false

/-- A reservation is broken off by whoever was to make its resource. -/
def Event.isBroken (e : Event) : Bool :=
  match e.deed, e.reaction with
  | .answer (.allocating ..) _, .done .unwound => true
  | _, _ => false

/-- How many reservations ended like that. -/
def tally (o : Reservation) (es : List Event) : Nat := es.countP fun e => e.ended? == some o

def requests (es : List Event) : Nat := es.countP Event.isRequest

def broken (es : List Event) : Nat := es.countP Event.isBroken

/-- How many reservations wait. -/
def underway (ts : List Task) : Nat :=
  ts.countP fun | .allocating .. | .discarding .. => true | _ => false

/-- The step adds one to the counter of the reservation that it ends, and touches no other. -/
def Counts (deed : Deed) (p : Pool) (y : Yard) (step : Yard × Reaction) : Prop :=
  ∀ k, step.1.metrics.counted k = y.metrics.counted k +
    if (deed.ends? step.2).map (Counter.reservations p.label) = some k then 1 else 0

theorem counts_nothing (hm : step.1.metrics.counters = y.metrics.counters)
    (he : deed.ends? step.2 = none) : Counts deed p y step := by
  intro k
  simp [he, Metrics.counted, hm]

theorem counts_end (hm : step.1.metrics.counters =
      (y.metrics.count (.reservations p.label o)).counters)
    (he : deed.ends? step.2 = some o) : Counts deed p y step := by
  intro k
  have hcounted : step.1.metrics.counted k =
      (y.metrics.count (.reservations p.label o)).counted k := by
    simp [Metrics.counted, hm]
  rw [hcounted, Metrics.counted_count, he]
  simp

theorem ends?_handing (slot : Slot) (use : Use) :
    deed.ends? (handing n slot use).1 =
      match deed with
      | .call _ => some .reused
      | .answer .. => some .created := by
  cases use <;> rfl

theorem ends?_giving (total : Nat) (resources : List Nat) :
    deed.ends? (giving n total resources).1 = none := by
  cases resources <;> rfl

theorem giveBack_counters (y : Yard) (n : Nat) (p : Pool) (id : Nat) :
    (y.giveBack n p id).metrics.counters = y.metrics.counters := by
  unfold giveBack
  cases p.giveBack? id with
  | some p' => rfl
  | none => cases p.drained <;> rfl

theorem reserve_counts (y : Yard) (n : Nat) (p : Pool) (use : Use) :
    Counts (.call (use.call n)) p y (y.reserve n p use) := by
  unfold reserve
  cases hd : p.drained with
  | true => exact counts_end rfl rfl
  | false =>
    cases hf : p.free with
    | nil =>
      have hr : p.reuse? = none := by simp [Pool.reuse?, hf]
      simp only [hr, Bool.false_eq_true, ↓reduceIte]
      cases hm : p.isFull with
      | true => exact counts_end rfl rfl
      | false => exact counts_nothing rfl rfl
    | cons slot free =>
      have hr : p.reuse? = some (slot, { p with free, loaned := slot :: p.loaned }) := by
        simp [Pool.reuse?, hf]
      simp only [hr, Bool.false_eq_true, ↓reduceIte, handOut_eq]
      exact counts_end (o := .reused) rfl (ends?_handing slot use)

theorem start_counts (y : Yard) (p : Pool) (c : Call) :
    Counts (.call c) p y (y.start c.pool p c) := by
  cases c with
  | reserve n => exact reserve_counts y n p .lease
  | checkout n => exact reserve_counts y n p .checkout
  | release n lease =>
    simp only [start]
    split
    · exact counts_nothing (giveBack_counters y n p lease.slot) rfl
    · exact counts_nothing rfl rfl
  | trim n count =>
    simp only [start, giveUp_eq]
    exact counts_nothing rfl (ends?_giving _ _)
  | shrink n =>
    simp only [start, giveUp_eq]
    exact counts_nothing rfl (ends?_giving _ _)
  | drain n =>
    simp only [start]
    split
    · exact counts_nothing rfl rfl
    · rw [giveUp_eq]
      exact counts_nothing rfl (ends?_giving _ _)

theorem resume_counts {task : Task} {reply : Reply} (h : y.resume p task reply = some step) :
    Counts (.answer task reply) p y step := by
  cases task with
  | allocating n slot use =>
    cases reply with
    | made =>
      simp only [resume] at h
      split at h
      · cases h
        exact counts_nothing rfl rfl
      · rw [handOut_eq, Option.some.injEq] at h
        subst h
        exact counts_end (o := .created) rfl (ends?_handing _ use)
    | nothing =>
      cases h
      exact counts_end (o := .unavailable) rfl rfl
    | unwind =>
      cases h
      exact counts_nothing rfl rfl
    | destroyed | finished => simp [resume] at h
  | discarding n =>
    cases reply with
    | destroyed =>
      cases h
      exact counts_end (o := .drained) rfl rfl
    | _ => simp [resume] at h
  | destroying n rest total =>
    cases reply with
    | destroyed =>
      simp only [resume, destroyNext_eq, Option.some.injEq] at h
      subst h
      exact counts_nothing rfl (ends?_giving _ _)
    | _ => simp [resume] at h
  | holding n slot =>
    cases reply with
    | finished | unwind =>
      cases h
      exact counts_nothing (giveBack_counters y n p slot) rfl
    | made | nothing | destroyed => simp [resume] at h

theorem Counts.reservations (h : Counts deed p y step) (label : String) (o : Reservation) :
    step.1.metrics.counted (.reservations label o) = y.metrics.counted (.reservations label o) +
      if p.label = label ∧ deed.ends? step.2 = some o then 1 else 0 := by
  rw [h]
  cases deed.ends? step.2 with
  | none => simp
  | some o' => simp

/-- The pool of a step keeps its label. -/
theorem Stride.label {rest : List Task} (h : Stride y n rest d step) (hp : y.pools[n]? = some p)
    (hpools : step.1.pools = y.pools.set n p') : p'.label = p.label := by
  obtain ⟨q, hq, hturn, -⟩ := h.pool hp
  obtain ⟨new, created, turn⟩ := hturn rfl
  rw [hpools, List.getElem?_set_self (List.getElem?_eq_some_iff.mp hp).1] at hq
  cases hq
  exact turn.label

/-- How many reservations ended and were not broken off. -/
def ended (es : List Event) : Nat := es.countP fun e => e.ended?.isSome

theorem sum_tally (es : List Event) : (Reservation.all.map fun o => tally o es).sum = ended es := by
  induction es with
  | nil => rfl
  | cons e es ih =>
    simp only [Reservation.all, List.map_cons, List.map_nil, List.sum_cons, List.sum_nil, tally,
      ended, List.countP_cons] at ih ⊢
    cases he : e.ended? with
    | none => simpa using ih
    | some o =>
      rw [← ih]
      cases o <;> simp <;> omega

/-- Whoever asks for a resource waits for it, or is told how it ended, or is broken off. -/
theorem Turn.requested (h : Turn n created p d r p' new created') :
    requests [⟨d, created, r⟩] + underway d.answered =
      ended [⟨d, created, r⟩] + broken [⟨d, created, r⟩] + underway new := by
  cases h with
  | @drained use | @full use | @announce use => cases use <;> rfl
  | @reuse use => cases use <;> rfl
  | @lend _ use => cases use <;> rfl
  | trim hc =>
    obtain rfl | ⟨rfl, -⟩ := hc
    all_goals cases (p.trim _).1.map Slot.resource <;> rfl
  | @drain order => cases (p.drain order).1.map Slot.resource <;> rfl
  | @destroyNext rest => cases rest <;> rfl
  | notMade ho | dropGuard ho => obtain ⟨rfl, rfl⟩ | ⟨rfl, rfl⟩ := ho <;> rfl
  | _ => rfl

theorem Course.requested (h : Course n created p ts es) :
    requests es = ended es + broken es + underway ts := by
  induction h with
  | new => rfl
  | later _ _ ih => exact ih
  | perm _ ht ih => rw [ih, underway, underway, ht.countP_eq]
  | @turn created _ _ _ d r new ts es _ _ ht ih =>
    have hturn := ht.requested
    simp only [requests, ended, broken, underway, List.countP_cons, List.countP_append,
      List.countP_nil] at ih hturn ⊢
    omega

namespace History

variable {s s' : History} {moves : List Move} {label : String}

/-- What operators read under the label of pool `n`, which is `p`. -/
structure Reported (s : History) (n : Nat) (p : Pool) : Prop where
  sizes : s.yard.gauges p.label = p.counts
  ends : ∀ o, s.yard.metrics.counted (.reservations p.label o) = tally o (s.eventsOf n)

/-- Every pool is reported, and nothing is told under labels that no pool has. -/
structure Faithful (s : History) : Prop where
  pools : ∀ n p, s.yard.pools[n]? = some p → s.Reported n p
  others : ∀ label, label ∉ s.yard.pools.map Pool.label → s.yard.gauges label = (0, 0) ∧
    ∀ o, s.yard.metrics.counted (.reservations label o) = 0

theorem faithful_start : ({} : History).Faithful := by
  refine ⟨?_, ?_⟩
  · intro n p hp
    simp at hp
  · intro label _
    exact ⟨rfl, fun o => rfl⟩

/-- A new pool is empty, and nobody has asked it for anything. -/
theorem Faithful.addPool {bounds : PoolBounds} {settings : Settings} (h : s.Faithful)
    (hf : s.Followed) (hp : Pool.of? label bounds settings = .ok p)
    (hl : label ∉ s.yard.pools.map Pool.label) :
    { s with yard := s.yard.addPool p : History }.Faithful := by
  obtain rfl := Pool.of?_ok hp
  refine ⟨?_, ?_⟩
  · intro n q hq
    rcases Nat.lt_or_ge n s.yard.pools.length with hlt | hge
    · rw [Yard.addPool, List.getElem?_append_left hlt] at hq
      obtain ⟨hsizes, hends⟩ := h.pools n q hq
      exact ⟨hsizes, hends⟩
    · rw [Yard.addPool, List.getElem?_append_right hge] at hq
      obtain ⟨-, hevents⟩ := hf.2 n hge
      obtain ⟨hgauges, hcounters⟩ := h.others label hl
      obtain rfl := List.mem_singleton.mp (List.mem_of_getElem? hq)
      refine ⟨hgauges, fun o => (hcounters o).trans ?_⟩
      change 0 = tally o (s.eventsOf n)
      rw [hevents]
      rfl
  · intro other ho
    refine h.others other fun hm => ho ?_
    rw [Yard.addPool, List.map_append]
    exact List.mem_append_left _ hm

theorem labels_set {pools : List Pool} (hp : pools[n]? = some p) (hl : p'.label = p.label) :
    (pools.set n p').map Pool.label = pools.map Pool.label := by
  have hn : (pools.map Pool.label)[n]? = some p.label := by rw [List.getElem?_map, hp]; rfl
  obtain ⟨hlt, hget⟩ := List.getElem?_eq_some_iff.mp hn
  rw [List.map_set, hl, ← hget, List.set_getElem_self]

/-- Pools with different labels are different pools. -/
theorem label_ne {k : Nat} {pools : List Pool} (hl : (pools.map Pool.label).Nodup) (hn : n ≠ k)
    (hp : pools[n]? = some p) (hk : pools[k]? = some p') : p.label ≠ p'.label := by
  intro hsame
  have hlt : n < (pools.map Pool.label).length := by
    simpa using (List.getElem?_eq_some_iff.mp hp).1
  refine hn ((List.getElem?_inj hlt hl).mp ?_)
  rw [List.getElem?_map, List.getElem?_map, hp, hk, Option.map_some, Option.map_some, hsame]

/-- A step shows the sizes of its own pool and counts the reservation that it ends, and leaves
alone what is told of other pools. -/
theorem Faithful.record (h : s.Faithful) (hl : (s.yard.pools.map Pool.label).Nodup)
    (hp : s.yard.pools[d.pool]? = some p) (hpools : step.1.pools = s.yard.pools.set d.pool p')
    (hlabel : p'.label = p.label) (hshows : Shows d p p' s.yard step.1)
    (hcounts : Counts d p s.yard step) : (s.record d step).Faithful := by
  have hgauges (other : String) (ho : p.label ≠ other) :
      step.1.gauges other = s.yard.gauges other := by
    cases hshows with
    | nothing _ hg => exact congrFun hg other
    | sizes _ hg => rw [hg, if_neg ho]
  have hcounters (other : String) (ho : p.label ≠ other) (o : Reservation) :
      step.1.metrics.counted (.reservations other o) =
        s.yard.metrics.counted (.reservations other o) := by
    rw [hcounts.reservations, if_neg fun h => ho h.1, Nat.add_zero]
  refine ⟨?_, ?_⟩
  · intro n q hq
    rw [History.record, hpools] at hq
    by_cases hn : d.pool = n
    · subst hn
      rw [List.getElem?_set_self (List.getElem?_eq_some_iff.mp hp).1] at hq
      cases hq
      obtain ⟨hsizes, hends⟩ := h.pools _ p hp
      refine ⟨?_, fun o => ?_⟩
      · cases hshows with
        | nothing hc hg => exact (congrFun hg p'.label).trans (hlabel ▸ hc ▸ hsizes)
        | sizes _ hg => exact (hg p'.label).trans (if_pos hlabel.symm)
      · change step.1.metrics.counted _ = _
        rw [hlabel, hcounts.reservations, hends, eventsOf_record, if_pos rfl]
        simp [tally, List.countP_cons, Event.ended?]
    · rw [List.getElem?_set_ne hn] at hq
      obtain ⟨hsizes, hends⟩ := h.pools n q hq
      have hne := label_ne hl hn hp hq
      refine ⟨(hgauges _ hne).trans hsizes, fun o => (hcounters _ hne o).trans ?_⟩
      rw [hends, eventsOf_record, if_neg hn]
  · intro other ho
    change other ∉ step.1.pools.map Pool.label at ho
    rw [hpools, labels_set hp hlabel] at ho
    have hne : p.label ≠ other := by
      rintro rfl
      exact ho (List.mem_map_of_mem (List.mem_of_getElem? hp))
    obtain ⟨hnone, hzero⟩ := h.others other ho
    exact ⟨(hgauges other hne).trans hnone, fun o => (hcounters other hne o).trans (hzero o)⟩

/-- A move makes a pool, or changes nothing but the order of what is given up, or is a step that
shows and counts what it does. -/
theorem advance_reports {m : Move} (hf : s.Followed) (h : s.advance m = some s') :
    (∃ label bounds settings p, Pool.of? label bounds settings = .ok p ∧
      s' = { s with yard := s.yard.addPool p }) ∨
    (∃ order, s' = { s with yard := { s.yard with order } }) ∨
    ∃ d p p' step, s.yard.pools[d.pool]? = some p ∧ step.1.pools = s.yard.pools.set d.pool p' ∧
      p'.label = p.label ∧ Shows d p p' s.yard step.1 ∧ Counts d p s.yard step ∧
      s' = s.record d step := by
  cases m with
  | addPool label bounds settings =>
    obtain ⟨p, hp, rfl⟩ := Option.map_eq_some_iff.mp h
    exact .inl ⟨label, bounds, settings, p, ok_of_toOption hp, rfl⟩
  | call c =>
    simp only [advance] at h
    split at h
    · obtain ⟨step, hstep, rfl⟩ := Option.map_eq_some_iff.mp h
      have hstride := call_stride hstep
      obtain ⟨p, hp, rfl⟩ := Option.map_eq_some_iff.mp hstep
      obtain ⟨p', hpools, hshows⟩ := start_shows hp (hf.1 _ p hp).emptied
      exact .inr (.inr ⟨.call c, p, p', _, hp, hpools, hstride.label hp hpools, hshows,
        start_counts s.yard p c, rfl⟩)
    · cases h
  | answer i r =>
    obtain ⟨task, ht, h⟩ := Option.bind_eq_some_iff.mp h
    obtain ⟨step, hstep, rfl⟩ := Option.map_eq_some_iff.mp h
    have hstride := answer_stride ht hstep
    simp only [answer, ht, Option.bind_some] at hstep
    obtain ⟨p, hp, hstep⟩ := Option.bind_eq_some_iff.mp hstep
    obtain ⟨p', hpools, hshows⟩ := resume_shows
      (y := { s.yard with tasks := s.yard.tasks.eraseIdx i }) hp (hf.1 _ p hp).emptied hstep
    have hcounts := resume_counts hstep
    refine .inr (.inr ⟨.answer task r, p, p', step, hp, hpools, hstride.label hp hpools, ?_,
      hcounts, rfl⟩)
    cases hshows with
    | nothing hc hg => exact .nothing hc hg
    | sizes hd hg => exact .sizes hd hg
  | forget lease =>
    simp only [advance] at h
    split at h
    · cases h
      exact .inr (.inl ⟨s.yard.order, rfl⟩)
    · cases h
  | reorder order =>
    cases h
    exact .inr (.inl ⟨order, rfl⟩)

/-- What is told stays true as long as no two pools have one label. -/
theorem faithful_advance {m : Move} (hf : s.Followed)
    (h : (s.yard.pools.map Pool.label).Nodup → s.Faithful) (hm : s.advance m = some s')
    (hl : (s'.yard.pools.map Pool.label).Nodup) : s'.Faithful := by
  obtain ⟨label, bounds, settings, p, hp, rfl⟩ | ⟨order, rfl⟩ |
    ⟨d, p, p', step, hp, hpools, hlabel, hshows, hcounts, rfl⟩ := advance_reports hf hm
  · have hname : p.label = label := by rw [Pool.of?_ok hp]
    rw [Yard.addPool, List.map_append, List.map_singleton, hname,
      List.nodup_append_comm, List.singleton_append, List.nodup_cons] at hl
    exact (h hl.2).addPool hf hp hl.1
  · refine ⟨fun n q hq => ?_, (h hl).others⟩
    obtain ⟨hsizes, hends⟩ := (h hl).pools n q hq
    exact ⟨hsizes, hends⟩
  · have hsame : step.1.pools.map Pool.label = s.yard.pools.map Pool.label := by
      rw [hpools, labels_set hp hlabel]
    change (step.1.pools.map Pool.label).Nodup at hl
    rw [hsame] at hl
    exact (h hl).record hl hp hpools hlabel hshows hcounts

theorem faithful_of_run (hs : run moves = some s) (hl : (s.yard.pools.map Pool.label).Nodup) :
    s.Faithful := by
  have hkeeps := runFrom_invariant (s := {})
    (P := fun s : History => s.Followed ∧ ((s.yard.pools.map Pool.label).Nodup → s.Faithful))
    ⟨followed_start, fun _ => faithful_start⟩
    (fun _ _ _ ht hm => ⟨followed_advance ht.1 hm, faithful_advance ht.1 ht.2 hm⟩) hs
  exact hkeeps.2 hl

/-- Where all labels are different, the gauges of a label show the sizes of its pool at every point
of a run, and its counters how many reservations have ended in each way. All that were asked for
are counted, but for those that still wait and those that were broken off. -/
theorem metrics_faithful (hs : run moves = some s) (hl : (s.yard.pools.map Pool.label).Nodup)
    (hp : s.yard.pools[n]? = some p) :
    s.yard.metrics.shown (.freeConnections p.label) = p.free.length ∧
    s.yard.metrics.shown (.allocatedConnections p.label) = p.loaned.length ∧
    (∀ o, s.yard.metrics.counted (.reservations p.label o) = tally o (s.eventsOf n)) ∧
    requests (s.eventsOf n) =
      (Reservation.all.map fun o => s.yard.metrics.counted (.reservations p.label o)).sum +
        broken (s.eventsOf n) + underway (s.tasksOf n) := by
  obtain ⟨hsizes, hends⟩ := (faithful_of_run hs hl).pools n p hp
  obtain ⟨hfree, hloaned⟩ := Prod.mk.inj hsizes
  have hrequests := (course_of_run hs hp).requested
  refine ⟨hfree, hloaned, hends, ?_⟩
  rw [hrequests, ← sum_tally]
  congr 3
  exact List.map_congr_left fun o _ => (hends o).symm

theorem metrics_faithful_crowd : ∃ s p,
    run (.addPool "db" ⟨0, 3⟩ {} :: .addPool "log" ⟨0, 1⟩ {} :: crowd) = some s ∧
    (s.yard.pools.map Pool.label).Nodup ∧ s.yard.pools[0]? = some p ∧
    s.yard.metrics.shown (.freeConnections "db") = 0 ∧
    s.yard.metrics.shown (.allocatedConnections "db") = 1 ∧
    s.yard.metrics.counted (.reservations "db" .created) = 3 ∧
    requests (s.eventsOf 0) = 5 ∧ underway (s.tasksOf 0) = 2 := by
  have hs : run (.addPool "db" ⟨0, 3⟩ {} :: .addPool "log" ⟨0, 1⟩ {} :: crowd) = some _ := rfl
  have hl : (["db", "log"] : List String).Nodup := by decide
  obtain ⟨hfree, hloaned, hends, -⟩ := metrics_faithful (n := 0) hs hl rfl
  exact ⟨_, _, hs, hl, rfl, hfree, hloaned, hends .created, rfl, rfl⟩

end History
end Yard
end Tenancy
