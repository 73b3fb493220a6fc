import Tenancy.Proofs.Desk.Region
import Tenancy.Proofs.Yard.Gauges

namespace Tenancy.Desk

variable {errand : Errand} {kept hand : List Thing} {d : Desk} {news : List (Nat × Snapshot)}
  {entries : List Entry} {x y : Scene} {n m : Nat} {c : TenantCache}

/-- Every pool is listed by the cache that it belongs to. -/
def Listed (d : Desk) : Prop := ∀ m n, d.owners[m]? = some n → m ∈ d.poolsOf n

theorem poolsOf_of_unopened (hc : d.cache? n = some c) (ho : c.opened = none) :
    d.poolsOf n = [] := by
  simp [poolsOf, hc, TenantCache.poolNumbers, ho]

theorem poolsOf_of_opened {o : OpenTenant} (ho : d.opened? n = some o) :
    d.poolsOf n = o.pools.map Prod.snd := by
  obtain ⟨c, hc, hopened⟩ := Option.bind_eq_some_iff.mp ho
  simp [poolsOf, hc, TenantCache.poolNumbers, hopened]

theorem exists_cache_of_mem (h : m ∈ d.poolsOf n) :
    ∃ c, d.cache? n = some c ∧ m ∈ c.poolNumbers := by
  cases hc : d.cache? n with
  | none => simp [poolsOf, hc] at h
  | some c => exact ⟨c, rfl, by simpa [poolsOf, hc] using h⟩

theorem poolsOf_add (hc : c.opened = none) (n : Nat) : (d.add c).1.poolsOf n = d.poolsOf n := by
  cases hn : d.cache? n with
  | some k => simp only [poolsOf, hn, cache?_add_of_some hn]
  | none =>
    cases hk : (d.add c).1.cache? n with
    | none => simp only [poolsOf, hn, hk]
    | some k =>
      obtain hold | rfl := cache?_add_cases hk
      · cases hn.symm.trans hold
      · simp [poolsOf, hn, hk, TenantCache.poolNumbers, hc]

theorem poolsOf_publish (hc : d.cache? n = some c) (s : Snapshot) (k : Nat) :
    (d.setCache n (c.publish s)).poolsOf k = d.poolsOf k := by
  simp only [poolsOf, cache?_setCache hc]
  split
  · rename_i hk
    subst hk
    simp [hc, poolNumbers_publish]
  · rfl

/-- Pools are made where a cache is opened, and nowhere else. -/
theorem Act.owners (h : Act errand kept x entries y) :
    (y.desk.owners = x.desk.owners ∧ ∀ n, y.desk.poolsOf n = x.desk.poolsOf n) ∨
    ∃ n c count, Unopened x.desk n c ∧ x.desk.yard.pools.length = y.desk.yard.pools.length - count ∧
      y.desk.owners = x.desk.owners ++ List.replicate count n ∧
      y.desk.poolsOf n = List.range' x.desk.yard.pools.length count ∧
      ∀ k, k ≠ n → y.desk.poolsOf k = x.desk.poolsOf k := by
  cases h with
  | hold | letGo => exact .inl ⟨rfl, fun n => by simp [poolsOf]⟩
  | add c hc => exact .inl ⟨rfl, poolsOf_add hc⟩
  | publish hc => exact .inl ⟨rfl, poolsOf_publish hc _⟩
  | @openTenant d hand news n c catalog bounds s project hu =>
    refine .inr ⟨n, c, s.regions.length, hu, ?_, ?_, poolsOf_openTenant hu.1 .., fun k hk => ?_⟩
    · simp [pools_openTenant]
    · exact congrArg (d.owners ++ ·) List.map_const
    · rw [poolsOf, cache?_openTenant hu.1, if_neg (Ne.symm hk), poolsOf]
  | _ => exact .inl ⟨rfl, fun n => rfl⟩

theorem Act.listed (h : Act errand kept x entries y) (hs : Sound kept x) (hl : x.desk.Listed) :
    y.desk.Listed := by
  intro m k hm
  obtain ⟨ho, hp⟩ | ⟨n, c, count, hu, -, ho, hnew, hold⟩ := h.owners
  · rw [hp]
    exact hl m k (ho ▸ hm)
  · rw [ho] at hm
    rcases Nat.lt_or_ge m x.desk.owners.length with hlt | hge
    · rw [List.getElem?_append_left hlt] at hm
      have hlisted := hl m k hm
      by_cases hk : k = n
      · rw [hk, poolsOf_of_unopened hu.1 hu.2.1] at hlisted
        cases hlisted
      · rwa [hold k hk]
    · rw [List.getElem?_append_right hge, List.getElem?_replicate] at hm
      split at hm
      · cases hm
        rw [hnew, List.mem_range'_1, ← hs.spread]
        omega
      · cases hm

theorem Act.owners_grow (h : Act errand kept x entries y) :
    x.desk.owners <+: y.desk.owners := by
  obtain ⟨ho, -⟩ | ⟨n, c, count, -, -, ho, -, -⟩ := h.owners
  · exact ho ▸ List.prefix_rfl
  · rw [ho]
    exact List.prefix_append _ _

/-- The pool is drained, and nobody is making a connection for it. -/
def Idle (d : Desk) (m : Nat) : Prop :=
  (∃ p, d.yard.pools[m]? = some p ∧ p.drained = true) ∧ .connecting m ∉ d.frames

theorem Passing.connecting {connections : List Connection} {reaction : Yard.Reaction}
    {tops : List Frame} (h : Passing connections reaction tops entries) :
    (.connecting m ∈ tops → reaction = .allocate m) ∧ ∀ c, .connected m c ∉ entries := by
  cases h with
  | allocate pool =>
    refine ⟨fun hm => ?_, by simp⟩
    simp only [List.mem_singleton, Frame.connecting.injEq] at hm
    rw [hm]
  | _ => simp

theorem Shift.connecting {deed : Yard.Deed} {reaction : Yard.Reaction} {frames : List Frame}
    {made : List Connection} (h : Shift d deed reaction frames made entries) :
    (.connecting m ∈ frames → .connecting m ∈ d.frames ∨ reaction = .allocate m) ∧
      ∀ c, .connected m c ∉ entries := by
  cases h with
  | call hf _ hx | drain hf hx | answer hf _ hx =>
    refine ⟨fun hm => ?_, hx.connecting.2⟩
    rcases List.mem_append.mp hm with hm | hm
    · exact .inr (hx.connecting.1 hm)
    · rw [hf]
      simp only [List.mem_cons, reduceCtorEq, false_or] at hm ⊢
      simp [hm]

/-- A connection is asked for only where there is a pool that is not drained, and made only where
it was asked for. -/
theorem Act.connecting (h : Act errand kept x entries y) :
    (.connecting m ∈ y.desk.frames → .connecting m ∈ x.desk.frames ∨
      ∃ p, x.desk.yard.pools[m]? = some p ∧ p.drained = false) ∧
    ∀ c, .connected m c ∈ entries → .connecting m ∈ x.desk.frames := by
  cases h with
  | work hd h hs =>
    obtain ⟨hconnecting, hentries⟩ := hs.connecting (m := m)
    refine ⟨fun hm => ?_, fun c hc => absurd hc (hentries c)⟩
    obtain hm | rfl := hconnecting hm
    · exact .inl hm
    · obtain ⟨rest, -, p, p', new, hp, turn, -, -⟩ := h.stride
      refine .inr ⟨p, ?_, ?_⟩
      · cases turn.waits
        exact hp
      · by_contra hdrained
        have hne := (turn.drained_idle (by simpa using hdrained)).2
        cases turn.waits
        exact hne rfl
  | push hf =>
    refine ⟨fun hm => ?_, by simp⟩
    rcases List.mem_cons.mp hm with rfl | hm
    · cases hf with
      | opening ho => cases ho
    · exact .inl hm
  | unregister =>
    refine ⟨fun hm => ?_, by simp⟩
    rcases List.mem_cons.mp hm with hm | hm
    · cases hm
    · exact .inl hm
  | recount hf | abandon hf =>
    refine ⟨fun hm => .inl ?_, by simp⟩
    simp only [hf, List.mem_cons, reduceCtorEq, false_or] at hm ⊢
    exact hm
  | connect hf =>
    simp only [hf, List.mem_cons, reduceCtorEq, false_or, Frame.connecting.injEq]
    refine ⟨fun hm => .inl (.inr hm), fun c hc => ?_⟩
    simp only [Entry.connected.injEq, List.not_mem_nil, or_false] at hc
    exact .inl hc.1
  | pop hf =>
    rw [hf]
    exact ⟨fun hm => .inl (List.mem_cons_of_mem _ hm), by simp⟩
  | _ => exact ⟨.inl, by simp⟩

/-- Pools never change their number, and keep what every turn of theirs keeps. -/
theorem Act.keeps_pool {P : Pool → Prop} (h : Act errand kept x entries y)
    (hturn : ∀ {created p deed reaction p' new created'},
      Yard.Turn m created p deed reaction p' new created' → P p → P p')
    (hm : ∃ p, x.desk.yard.pools[m]? = some p ∧ P p) :
    ∃ p, y.desk.yard.pools[m]? = some p ∧ P p := by
  cases h with
  | work _ h =>
    obtain ⟨rest, -, hs⟩ := h.stride
    exact hs.keeps hturn hm
  | giveBack h => exact (Yard.call_stride h).keeps hturn hm
  | openTenant =>
    obtain ⟨p, hp, hP⟩ := hm
    refine ⟨p, ?_, hP⟩
    rw [pools_openTenant, List.getElem?_append_left (List.getElem?_eq_some_iff.mp hp).1]
    exact hp
  | _ => exact hm

/-- A drained pool stays so. -/
theorem Act.drained (h : Act errand kept x entries y)
    (hm : ∃ p, x.desk.yard.pools[m]? = some p ∧ p.drained = true) :
    ∃ p, y.desk.yard.pools[m]? = some p ∧ p.drained = true :=
  h.keeps_pool (fun turn hd => turn.stays_drained hd) hm

/-- No connection is made any more for a drained pool. -/
theorem Act.idle (h : Act errand kept x entries y) (hm : x.desk.Idle m) :
    y.desk.Idle m ∧ ∀ c, .connected m c ∉ entries := by
  obtain ⟨hdrained, hframes⟩ := hm
  refine ⟨⟨h.drained hdrained, fun hm => ?_⟩, fun c hc => hframes (h.connecting.2 c hc)⟩
  obtain hm | ⟨p, hp, hopen⟩ := h.connecting.1 hm
  · exact hframes hm
  · obtain ⟨p', hp', hd⟩ := hdrained
    obtain rfl := Option.some.inj (hp.symm.trans hp')
    cases hopen.symm.trans hd

theorem drained_of_call {y y' : Yard} {c : Yard.Call} {reaction : Yard.Reaction}
    (h : y.call c = some (y', reaction)) (hm : ∀ p, y.pools[m]? = some p → p.drained = true)
    {p' : Pool} (hp : y'.pools[m]? = some p') : p'.drained = true := by
  have hs := Yard.call_stride h
  obtain ⟨q, q', new, -, -, hpools, -⟩ := id hs
  have hlt : m < y.pools.length := by
    have hlt := (List.getElem?_eq_some_iff.mp hp).1
    rwa [hpools, List.length_set] at hlt
  obtain ⟨q', hq', hd⟩ := hs.keeps (fun turn hd => turn.stays_drained hd)
    ⟨_, List.getElem?_eq_getElem hlt, hm _ (List.getElem?_eq_getElem hlt)⟩
  obtain rfl := Option.some.inj (hp.symm.trans hq')
  exact hd

theorem drainUntil_keeps {P : Yard → Prop}
    (hP : ∀ {y pool y' reaction}, y.call (.drain pool) = some (y', reaction) → P y → P y')
    {y y' : Yard} {closed closed' : Nat} {pools : List Nat}
    {stop : Option (List Nat × Yard.Reaction)}
    (h : drainUntil y closed pools = (y', closed', stop)) (hy : P y) : P y' := by
  induction pools generalizing y closed with
  | nil =>
    cases h
    exact hy
  | cons pool rest ih =>
    unfold drainUntil at h
    split at h
    · exact ih h hy
    · rename_i hdrain
      exact ih h (hP hdrain hy)
    · rename_i hdrain
      cases h
      exact hP hdrain hy

/-- Once all of them are drained, the pools are drained. -/
theorem drainUntil_drains {y y' : Yard} {closed closed' : Nat} {pools : List Nat}
    (h : drainUntil y closed pools = (y', closed', none)) (hm : m ∈ pools) :
    ∀ p, y'.pools[m]? = some p → p.drained = true := by
  induction pools generalizing y closed with
  | nil => cases hm
  | cons pool rest ih =>
    have hkeeps {y : Yard} {closed : Nat} (h : drainUntil y closed rest = (y', closed', none))
        (hy : ∀ p, y.pools[m]? = some p → p.drained = true) :
        ∀ p, y'.pools[m]? = some p → p.drained = true :=
      drainUntil_keeps (P := fun y => ∀ p, y.pools[m]? = some p → p.drained = true)
        (fun hcall hy _ => drained_of_call hcall hy) h hy
    unfold drainUntil at h
    rcases List.mem_cons.mp hm with rfl | hm
    · split at h
      · rename_i hnone
        have hgone : y.pools[m]? = none := Option.map_eq_none_iff.mp hnone
        exact hkeeps h (by simp [hgone])
      · rename_i z count hdrain
        refine hkeeps h fun p hp => ?_
        obtain ⟨q, q', new, hq, turn, hpools, -⟩ := Yard.call_stride hdrain
        have hlt : m < y.pools.length := (List.getElem?_eq_some_iff.mp hq).1
        have hset : z.pools = y.pools.set m q' := hpools
        rw [hset, List.getElem?_set_self hlt] at hp
        cases hp
        exact turn.drains.1
      · cases h
    · split at h
      · exact ih h hm
      · exact ih h hm
      · cases h

/-- Whoever drains a pool shows that it is empty now, and shows nothing of other pools. -/
theorem drain_shows {y y' : Yard} {pool : Nat} {reaction : Yard.Reaction}
    (h : y.call (.drain pool) = some (y', reaction)) (label : String) :
    (y'.gauges label = y.gauges label ∨ y'.gauges label = (0, 0)) ∧
      ∀ p, y.pools[pool]? = some p → p.drained = false → p.label = label →
        y'.gauges label = (0, 0) := by
  obtain ⟨p, hp, heq⟩ := Option.map_eq_some_iff.mp h
  simp only [Yard.start] at heq
  cases hd : p.drained with
  | true =>
    rw [if_pos hd] at heq
    cases heq
    refine ⟨.inl rfl, fun q hq hopen => ?_⟩
    obtain rfl := Option.some.inj (hp.symm.trans hq)
    cases hd.symm.trans hopen
  | false =>
    rw [if_neg (by simp [hd]), Yard.giveUp_eq] at heq
    cases heq
    have hshown := Yard.gauges_publish (y.put pool (p.drain y.order).2) (p.drain y.order).2 label
    refine ⟨?_, fun q hq _ hl => ?_⟩
    · by_cases hl : p.label = label
      · exact .inr (hshown.trans (if_pos hl))
      · exact .inl (hshown.trans (if_neg hl))
    · obtain rfl := Option.some.inj (hp.symm.trans hq)
      exact hshown.trans (if_pos hl)

/-- Who drains a pool leaves the others as they are, and all labels. -/
theorem pool_of_drain {y y' : Yard} {pool : Nat} {reaction : Yard.Reaction} {p : Pool}
    (h : y.call (.drain pool) = some (y', reaction)) (hp : y'.pools[m]? = some p) :
    ∃ q, y.pools[m]? = some q ∧ q.label = p.label ∧ (pool ≠ m → p = q) := by
  have hlt := (List.getElem?_eq_some_iff.mp hp).1
  rw [length_of_does (.call h)] at hlt
  obtain ⟨p', hp', hown, hother⟩ := (Yard.call_stride h).pool (List.getElem?_eq_getElem hlt)
  obtain rfl := Option.some.inj (hp.symm.trans hp')
  refine ⟨_, List.getElem?_eq_getElem hlt, ?_, hother⟩
  by_cases hk : pool = m
  · obtain ⟨new, created, turn⟩ := hown hk
    exact turn.label.symm
  · rw [hother hk]

/-- Under the label of the pool it is shown that there is nothing. -/
def Blank (m : Nat) (y : Yard) : Prop :=
  ∀ p, y.pools[m]? = some p → y.gauges p.label = (0, 0)

theorem Blank.drain {y y' : Yard} {pool : Nat} {reaction : Yard.Reaction} (hy : Blank m y)
    (h : y.call (.drain pool) = some (y', reaction)) : Blank m y' := by
  intro p hp
  obtain ⟨q, hq, hlabel, -⟩ := pool_of_drain h hp
  obtain hsame | hzero := (drain_shows h p.label).1
  · rw [hsame, ← hlabel]
    exact hy q hq
  · exact hzero

theorem drainUntil_shows {y y' : Yard} {closed closed' : Nat} {pools : List Nat}
    (h : drainUntil y closed pools = (y', closed', none)) (hm : m ∈ pools)
    (hd : ∀ p, y.pools[m]? = some p → p.drained = false) : Blank m y' := by
  induction pools generalizing y closed with
  | nil => cases hm
  | cons pool rest ih =>
    unfold drainUntil at h
    by_cases hk : pool = m
    · subst hk
      split at h
      · rename_i hnone
        have hgone : y.pools[pool]? = none := Option.map_eq_none_iff.mp hnone
        have hblank : Blank pool y := by simp [Blank, hgone]
        exact drainUntil_keeps (fun h hy => Blank.drain hy h) h hblank
      · rename_i hdrain
        refine drainUntil_keeps (fun h hy => Blank.drain hy h) h fun p hp => ?_
        obtain ⟨q, hq, hlabel, -⟩ := pool_of_drain hdrain hp
        exact (drain_shows hdrain p.label).2 q hq (hd q hq) hlabel
      · cases h
    · have hm : m ∈ rest := (List.mem_cons.mp hm).resolve_left (Ne.symm hk)
      split at h
      · exact ih h hm hd
      · rename_i hdrain
        refine ih h hm fun p hp => ?_
        obtain ⟨q, hq, -, hsame⟩ := pool_of_drain hdrain hp
        exact hsame hk ▸ hd q hq
      · cases h

/-- Connections are made for pools that there are. -/
def Bounded (log : List Entry) (d : Desk) : Prop :=
  ∀ m, (.connecting m ∈ d.frames ∨ ∃ c, .connected m c ∈ log) → m < d.owners.length

theorem Act.bounded {log : List Entry} (h : Act errand kept x entries y) (hs : Sound kept x)
    (hb : Bounded log x.desk) : Bounded (entries ++ log) y.desk := by
  intro m hm
  refine Nat.lt_of_lt_of_le ?_ h.owners_grow.length_le
  simp only [List.mem_append, exists_or] at hm
  obtain hm | ⟨c, hc⟩ | hm := hm
  · obtain hm | ⟨p, hp, -⟩ := h.connecting.1 hm
    · exact hb m (.inl hm)
    · rw [hs.spread]
      exact (List.getElem?_eq_some_iff.mp hp).1
  · exact hb m (.inl (h.connecting.2 c hc))
  · exact hb m (.inr hm)

namespace History

variable {s s' : History} {moves : List Move} {providers : List Config.Provider}

theorem listed_of_run (hs : run providers moves = some s) : s.desk.Listed :=
  runFrom_keeps (s := ⟨{ providers }, []⟩) (P := fun _ x => x.desk.Listed)
    (fun h hs => h.listed hs) (fun _ h => h) (fun m n hm => by simp at hm)
    (sound_start providers) hs

theorem bounded_of_run (hs : run providers moves = some s) : Bounded s.log s.desk :=
  (runFrom_invariant (s := ⟨{ providers }, []⟩) (P := fun log _ x => Bounded log x.desk)
    (fun h hs => h.bounded hs) (fun _ h => h) (sound_start providers)
    (fun m hm => by simp [log] at hm) hs).2

/-- A pool belongs to one cache for good. -/
theorem owner_stays (hs : Sound s.kept ⟨s.desk, [], s.news⟩) (hm : s.desk.owners[m]? = some n)
    (hr : s.runFrom moves = some s') : s'.desk.owners[m]? = some n := by
  have hgrow : s.desk.owners <+: s'.desk.owners :=
    runFrom_keeps (P := fun _ x => s.desk.owners <+: x.desk.owners)
      (fun h _ hp => hp.trans h.owners_grow) (fun _ h => h) List.prefix_rfl hs hr
  obtain ⟨more, hmore⟩ := hgrow
  rw [← hmore, List.getElem?_append_left (List.getElem?_eq_some_iff.mp hm).1]
  exact hm

/-- For a drained pool no connection is made, in no later step. -/
theorem idle_stays (hs : Sound s.kept ⟨s.desk, [], s.news⟩) (hm : s.desk.Idle m)
    (hr : s.runFrom moves = some s') :
    s'.desk.Idle m ∧ ∀ c, .connected m c ∈ s'.log ↔ .connected m c ∈ s.log :=
  (runFrom_invariant (P := fun log _ x => x.desk.Idle m ∧
      ∀ c, Entry.connected m c ∈ log ↔ Entry.connected m c ∈ s.log)
    (fun h _ hp => ⟨(h.idle hp.1).1, fun c => by simp [(h.idle hp.1).2 c, hp.2 c]⟩)
    (fun _ h => h) hs ⟨hm, fun c => Iff.rfl⟩ hr).2

end History

end Tenancy.Desk
