import Mathlib.Data.List.Nodup
import Tenancy.Proofs.Desk.Act

namespace Tenancy.Desk

variable {errand : Errand} {kept hand hand' : List Thing} {d d' : Desk}
  {news news' : List (Nat × Snapshot)} {x y : Scene} {n m : Nat} {c : TenantCache} {key : Key}
  {entries : List Entry}

/-- Everything that waits has come to a pool. -/
def Placed (d : Desk) : Prop := ∀ f ∈ d.frames, f.isPlaced = true

/-- What waiting operations have. -/
def waiting (d : Desk) : List Thing := d.frames.flatMap Frame.things

/-- What the registry has, and what waiting operations have. -/
def stored (d : Desk) : List Thing := d.registry.map (fun e => .cache e.2) ++ d.waiting

/-- What no change of a desk breaks: a cache counts exactly those who hold it, a cache that is being
opened is not open and is being opened once, whoever opens one to register it holds it alone, no key
is registered twice, and each pool belongs to the cache that lists it. -/
structure Sound (kept : List Thing) (x : Scene) : Prop where
  placed : x.desk.Placed
  once : x.desk.openings.Nodup
  closed : ∀ n ∈ x.desk.openings, ∃ c, x.desk.cache? n = some c ∧ c.opened = none
  alone : ∀ f ∈ x.desk.frames, ∀ n, f.opening? = some n → f.things = [] ∨ x.desk.holders n = 1
  keys : (x.desk.registry.map Prod.fst).Nodup
  held : ∀ n, x.desk.holders n = (kept ++ x.hand ++ x.desk.stored).count (.cache n)
  owned : ∀ n c, x.desk.cache? n = some c → ∀ m ∈ c.poolNumbers, x.desk.owners[m]? = some n
  spread : x.desk.owners.length = x.desk.yard.pools.length

theorem exists_of_holders (h : 0 < d.holders n) : ∃ k, d.caches[n]? = some k ∧ 0 < k.holders := by
  unfold holders at h
  cases hk : d.caches[n]? with
  | none => simp [hk] at h
  | some k => exact ⟨k, rfl, by simpa [hk] using h⟩

theorem holders_hold (h : 0 < d.holders n) (m : Nat) :
    (d.hold n).holders m = d.holders m + if n = m then 1 else 0 := by
  by_cases hm : n = m
  · subst hm
    obtain ⟨k, hk, -⟩ := exists_of_holders h
    simp [holders, hold, hk]
  · simp [holders, hold, hm]

theorem holders_letGo (n m : Nat) :
    (d.letGo n).holders m = d.holders m - if n = m then 1 else 0 := by
  by_cases hm : n = m
  · subst hm
    cases hk : d.caches[n]? <;> simp [holders, letGo, hk]
  · simp [holders, letGo, hm]

@[simp] theorem holders_setCache (n m : Nat) (c : TenantCache) :
    (d.setCache n c).holders m = d.holders m := by
  by_cases hm : n = m
  · subst hm
    cases hk : d.caches[n]? <;> simp [holders, setCache, hk]
  · simp [holders, setCache, hm]

theorem holders_add (c : TenantCache) (m : Nat) :
    (d.add c).1.holders m = d.holders m + if d.caches.length = m then 1 else 0 := by
  unfold holders add
  rcases Nat.lt_trichotomy m d.caches.length with hm | rfl | hm
  · simp [List.getElem?_append_left hm, Nat.ne_of_gt hm]
  · simp
  · simp [List.getElem?_append_right (Nat.le_of_lt hm), Nat.ne_of_lt hm, Nat.le_of_lt hm,
      Nat.sub_ne_zero_of_lt hm]

@[simp] theorem cache?_hold (n m : Nat) : (d.hold n).cache? m = d.cache? m := by
  simp only [cache?, hold, List.getElem?_modify, Option.map_eq_map, Option.map_map]
  congr 1
  funext k
  simp only [Function.comp]
  split <;> rfl

@[simp] theorem cache?_letGo (n m : Nat) : (d.letGo n).cache? m = d.cache? m := by
  simp only [cache?, letGo, List.getElem?_modify, Option.map_eq_map, Option.map_map]
  congr 1
  funext k
  simp only [Function.comp]
  split <;> rfl

theorem cache?_setCache (hc : d.cache? n = some c) (c' : TenantCache) (m : Nat) :
    (d.setCache n c').cache? m = if n = m then some c' else d.cache? m := by
  by_cases hm : n = m
  · subst hm
    obtain ⟨k, hk, -⟩ := Option.map_eq_some_iff.mp hc
    simp [setCache, cache?, hk]
  · simp [setCache, cache?, hm]

theorem cache?_add_of_some (hc : d.cache? n = some c) (c' : TenantCache) :
    (d.add c').1.cache? n = some c := by
  obtain ⟨k, hk, rfl⟩ := Option.map_eq_some_iff.mp hc
  have hlt := (List.getElem?_eq_some_iff.mp hk).1
  simp [add, cache?, List.getElem?_append_left hlt, hk]

/-- A new cache has the next number. -/
theorem cache?_add_self (d : Desk) (c : TenantCache) :
    (d.add c).1.cache? d.caches.length = some c := by
  simp [add, cache?]

theorem openings_push (f : Frame) :
    (d.push f).openings = f.opening?.toList ++ d.openings := by
  simp only [openings, push, List.filterMap_cons]
  cases f.opening? <;> rfl

theorem waiting_push (f : Frame) : (d.push f).waiting = f.things ++ d.waiting := rfl

theorem stored_push (f : Frame) (n : Nat) :
    (d.push f).stored.count (.cache n) = f.things.count (.cache n) + d.stored.count (.cache n) := by
  simp only [stored, waiting_push, List.count_append]
  exact Nat.add_left_comm _ _ _

/-- What a key is registered for is taken out with the key. -/
theorem registry_perm (hk : (d.registry.map Prod.fst).Nodup) (h : d.registered? key = some n) :
    d.registry.Perm ((key, n) :: d.registry.filter fun e => !(e.1 == key)) := by
  obtain ⟨before, rest, hsplit, hbefore⟩ := List.lookup_eq_some_iff.mp h
  rw [hsplit] at hk ⊢
  have hrest : ∀ e ∈ rest, (!(e.1 == key)) = true := by
    intro e he
    have hnot := (List.nodup_cons.mp (List.nodup_append.mp (by simpa using hk)).2.1).1
    have hne : e.1 ≠ key := fun heq => hnot (heq ▸ List.mem_map_of_mem he)
    simpa using hne
  have hfirst : ∀ e ∈ before, (!(e.1 == key)) = true := by
    intro e he
    simpa [BEq.comm] using hbefore e he
  rw [List.filter_append, List.filter_cons_of_neg (by simp), List.filter_eq_self.mpr hfirst,
    List.filter_eq_self.mpr hrest]
  exact List.perm_middle

theorem registered_mem (h : d.registered? key = some n) :
    Thing.cache n ∈ d.registry.map fun e => Thing.cache e.2 := by
  obtain ⟨before, rest, hsplit, -⟩ := List.lookup_eq_some_iff.mp h
  simp [hsplit]

theorem Passing.idle {connections : List Connection} {reaction : Yard.Reaction} {tops : List Frame}
    (h : Passing connections reaction tops entries) :
    tops.flatMap Frame.things = [] ∧ tops.filterMap Frame.opening? = [] ∧
      ∀ f ∈ tops, f.isPlaced = true ∧ f.opening? = none := by
  cases h <;> simp [Frame.things, Frame.opening?, Frame.isPlaced]

theorem Frame.Tells.idle {f : Frame} {r : Yard.Reply} {made : List Connection}
    (h : f.Tells r made) : f.things = [] ∧ f.opening? = none := by
  cases h <;> exact ⟨rfl, rfl⟩

/-- A step of the yard changes neither what waiting operations have nor what they are going to
tell. -/
theorem Shift.idle {deed : Yard.Deed} {reaction : Yard.Reaction} {frames : List Frame}
    {made : List Connection} (h : Shift d deed reaction frames made entries) :
    frames.flatMap Frame.things = d.waiting ∧ frames.filterMap Frame.opening? = d.openings ∧
      (d.Placed → ∀ f ∈ frames, f.isPlaced = true ∧ (f.opening? = none ∨ f ∈ d.frames)) := by
  cases h with
  | @call _ _ _ tops _ fs hf _ hx =>
    obtain ⟨hthings, hopening, hplaced⟩ := hx.idle
    refine ⟨?_, ?_, fun hp f hm => ?_⟩
    · rw [waiting, hf, List.flatMap_append, hthings, List.nil_append]
    · rw [openings, hf, List.filterMap_append, hopening, List.nil_append]
    · rcases List.mem_append.mp hm with hm | hm
      · exact (hplaced f hm).imp_right .inl
      · rw [← hf] at hm
        exact ⟨hp f hm, .inr hm⟩
  | @drain pool rest closed closed' after _ tops _ fs hf hx =>
    obtain ⟨hthings, hopening, hplaced⟩ := hx.idle
    refine ⟨?_, ?_, fun hp f hm => ?_⟩
    · rw [waiting, hf, List.flatMap_append, hthings]
      rfl
    · rw [openings, hf, List.filterMap_append, hopening]
      rfl
    · rcases List.mem_append.mp hm with hm | hm
      · exact (hplaced f hm).imp_right .inl
      · rcases List.mem_cons.mp hm with rfl | hm
        · exact ⟨hp (.draining (pool :: rest) closed after) (by simp [hf]), .inl rfl⟩
        · have hold : f ∈ d.frames := by simp [hf, hm]
          exact ⟨hp f hold, .inr hold⟩
  | @answer _ _ g _ _ tops _ fs hf hr hx =>
    obtain ⟨hthings, hopening, hplaced⟩ := hx.idle
    obtain ⟨hnothing, hnone⟩ := hr.idle
    refine ⟨?_, ?_, fun hp f hm => ?_⟩
    · rw [waiting, hf, List.flatMap_append, hthings, List.flatMap_cons, hnothing]
    · simp only [openings, hf, List.filterMap_append, hopening, List.filterMap_cons, hnone]
      rfl
    · rcases List.mem_append.mp hm with hm | hm
      · exact (hplaced f hm).imp_right .inl
      · have hold : f ∈ d.frames := by simp [hf, hm]
        exact ⟨hp f hold, .inr hold⟩

theorem length_of_does {y y' : Yard} {deed : Yard.Deed} {reaction : Yard.Reaction}
    (h : y.Does deed (y', reaction)) : y'.pools.length = y.pools.length := by
  obtain ⟨rest, -, p, p', new, -, -, hpools, -⟩ := h.stride
  rw [hpools, List.length_set]

theorem pools_foldl_addPool (made : List Pool) (y : Yard) :
    (made.foldl Yard.addPool y).pools = y.pools ++ made := by
  induction made generalizing y with
  | nil => exact (List.append_nil _).symm
  | cons p made ih =>
    rw [List.foldl_cons, ih]
    exact List.append_assoc y.pools [p] made

theorem pools_openTenant (n : Nat) (c : TenantCache) (catalog : Catalog) (bounds : PoolBounds)
    (s : Snapshot) (project : Project) :
    (d.openTenant n c catalog bounds s project).yard.pools =
      d.yard.pools ++ s.regions.map (c.newPool bounds project.name) :=
  pools_foldl_addPool _ _

/-- Nothing but the frames changes, and whatever is held is waited with or in hand as before. -/
theorem Sound.refit (hs : Sound kept ⟨d, hand, news⟩) (hc : d'.caches = d.caches)
    (hr : d'.registry = d.registry) (how : d'.owners = d.owners)
    (hl : d'.yard.pools.length = d.yard.pools.length)
    (hf : ∀ f ∈ d'.frames, f.isPlaced = true ∧ (f.opening? = none ∨ f ∈ d.frames))
    (ho : d'.openings = d.openings)
    (hh : ∀ n, (hand' ++ d'.waiting).count (.cache n) = (hand ++ d.waiting).count (.cache n)) :
    Sound kept ⟨d', hand', news'⟩ := by
  obtain ⟨-, once, closed, alone, keys, held, owned, spread⟩ := hs
  refine ⟨fun f hm => (hf f hm).1, ?_, ?_, ?_, ?_, ?_, ?_, ?_⟩
  · simpa only [ho] using once
  · simpa only [ho, cache?, hc] using closed
  · intro f hm n hn
    obtain hnone | hold := (hf f hm).2
    · cases hnone.symm.trans hn
    · simpa only [holders, hc] using alone f hold n hn
  · simpa only [hr] using keys
  · intro n
    have hn := held n
    have hcount := hh n
    simp only [holders, stored, List.count_append, hc, hr] at hn hcount ⊢
    omega
  · simpa only [cache?, hc, how] using owned
  · simpa only [how, hl] using spread

/-- Caches, registry and frames stay, and so do the caches in hand. -/
theorem Sound.same (hs : Sound kept ⟨d, hand, news⟩) (hc : d'.caches = d.caches)
    (hf : d'.frames = d.frames) (hr : d'.registry = d.registry) (how : d'.owners = d.owners)
    (hl : d'.yard.pools.length = d.yard.pools.length)
    (hh : ∀ n, hand'.count (.cache n) = hand.count (.cache n)) :
    Sound kept ⟨d', hand', news'⟩ := by
  refine hs.refit hc hr how hl (fun f hm => ?_) (by simp only [openings, hf]) fun n => ?_
  · rw [hf] at hm
    exact ⟨hs.placed f hm, .inr hm⟩
  · simp only [waiting, hf, List.count_append, hh]

theorem Sound.holds (hs : Sound kept x) (h : .cache n ∈ kept ++ x.hand ++ x.desk.stored) :
    0 < x.desk.holders n := by
  rw [hs.held n]
  exact List.count_pos_iff.mpr h

theorem Sound.holds_kept (hs : Sound kept x) (h : .cache n ∈ kept) : 0 < x.desk.holders n :=
  hs.holds (List.mem_append_left _ (List.mem_append_left _ h))

theorem Sound.holds_registered {key : Key} (hs : Sound kept x)
    (h : x.desk.registered? key = some n) : 0 < x.desk.holders n :=
  hs.holds (List.mem_append_right _ (List.mem_append_left _ (registered_mem h)))

/-- Who opens a cache to register it holds it. -/
theorem count_waiting {f : Frame} (hm : f ∈ d.frames) (hn : f.opening? = some n)
    (hf : f.things ≠ []) : 0 < d.waiting.count (.cache n) := by
  refine List.count_pos_iff.mpr (List.mem_flatMap.mpr ⟨f, hm, ?_⟩)
  cases f with
  | authenticating k catalog tries purpose | sleeping k catalog tries purpose =>
    cases hn
    cases purpose with
    | register key => exact List.mem_singleton_self _
    | report | explain => exact absurd rfl hf
  | _ => cases hn

/-- Where somebody else has a cache, nobody is opening it to register it. -/
theorem Sound.not_alone {f : Frame} (hs : Sound kept x) (hm : f ∈ x.desk.frames)
    (hn : f.opening? = some n)
    (h : .cache n ∈ kept ++ x.hand ∨ ∃ key, x.desk.registered? key = some n) :
    f.things = [] := by
  by_contra hf
  obtain hnone | hone := hs.alone f hm n hn
  · exact hf hnone
  · have hwaits := count_waiting hm hn hf
    have hheld := hs.held n
    simp only [stored, List.count_append] at hheld
    obtain h | ⟨key, h⟩ := h
    · have hpos := List.count_pos_iff.mpr h
      rw [List.count_append] at hpos
      omega
    · have hpos : 0 < (x.desk.registry.map fun e => Thing.cache e.2).count (.cache n) :=
        List.count_pos_iff.mpr (registered_mem h)
      omega

theorem Sound.push {f : Frame} (hs : Sound kept ⟨d, f.things ++ hand, news⟩)
    (hp : f.isPlaced = true)
    (ho : ∀ n, f.opening? = some n → (∃ c, Unopened d n c) ∧ (f.things = [] ∨ d.holders n = 1)) :
    Sound kept ⟨d.push f, hand, news⟩ := by
  obtain ⟨placed, once, closed, alone, keys, held, owned, spread⟩ := hs
  refine ⟨?_, ?_, ?_, ?_, keys, ?_, owned, spread⟩
  · intro g hg
    rcases List.mem_cons.mp hg with rfl | hg
    · exact hp
    · exact placed g hg
  · rw [openings_push]
    cases hn : f.opening? with
    | none => exact once
    | some n =>
      obtain ⟨⟨c, -, -, hnew⟩, -⟩ := ho n hn
      exact List.nodup_cons.mpr ⟨hnew, once⟩
  · intro n hn
    rw [openings_push] at hn
    rcases List.mem_append.mp hn with hn | hn
    · obtain ⟨⟨c, hc, hopened, -⟩, -⟩ := ho n (by simpa using hn)
      exact ⟨c, hc, hopened⟩
    · exact closed n hn
  · intro g hg n hn
    rcases List.mem_cons.mp hg with rfl | hg
    · exact (ho n hn).2
    · exact alone g hg n hn
  · intro n
    have hn := held n
    simp only [List.count_append, stored_push] at hn ⊢
    change d.holders n = _
    omega

theorem Begins.fits {f : Frame} (h : d.Begins f) :
    f.isPlaced = true ∧ ∀ n, f.opening? = some n →
      (∃ c, Unopened d n c) ∧ (f.things = [] ∨ d.holders n = 1) := by
  cases h with
  | inPool | refreshing => exact ⟨rfl, by simp [Frame.opening?]⟩
  | @opening f n c hf hu hn =>
    refine ⟨?_, fun m hm => ?_⟩
    · cases f with
      | draining => cases hf
      | _ => rfl
    · obtain rfl := Option.some.inj (hf.symm.trans hm)
      exact ⟨⟨c, hu⟩, hn⟩
  | draining _ _ ha => exact ⟨ha, by simp [Frame.opening?]⟩

theorem After.Removes.fits {after : After} (h : after.Removes n) :
    after.things = [.cache n] ∧ after.isPlaced = true := by
  cases h <;> exact ⟨rfl, rfl⟩

theorem Sound.pop {f : Frame} {frames : List Frame} (hs : Sound kept ⟨d, hand, news⟩)
    (hf : d.frames = f :: frames) :
    Sound kept ⟨{ d with frames }, f.things ++ hand, news⟩ := by
  -- all of it is known of the desk that the frame is pushed to
  have hd : d = Desk.push { d with frames } f := by rw [Desk.push, ← hf]
  obtain ⟨placed, once, closed, alone, keys, held, owned, spread⟩ := hs
  rw [hd] at placed once closed alone held
  rw [openings_push] at once closed
  refine ⟨fun g hg => placed g (List.mem_cons_of_mem f hg), once.of_append_right,
    fun n hn => closed n (List.mem_append_right _ hn),
    fun g hg => alone g (List.mem_cons_of_mem f hg), keys, ?_, owned, spread⟩
  intro n
  have hn := held n
  simp only [List.count_append, stored_push] at hn ⊢
  change holders { d with frames } n = _ at hn
  omega

/-- What waits on top changes, and has nothing that could be held. -/
theorem Sound.swap {f g : Frame} {frames : List Frame} (hs : Sound kept ⟨d, hand, news⟩)
    (hf : d.frames = f :: frames) (hd : d'.caches = d.caches) (hr : d'.registry = d.registry)
    (how : d'.owners = d.owners) (hl : d'.yard.pools.length = d.yard.pools.length)
    (hg : d'.frames = g :: frames) (ht : g.things = f.things) (hfo : f.opening? = none)
    (hgo : g.opening? = none) (hp : f.isPlaced = true → g.isPlaced = true) :
    Sound kept ⟨d', hand, news⟩ := by
  refine hs.refit hd hr how hl (fun h hm => ?_) ?_ fun n => ?_
  · rw [hg] at hm
    rcases List.mem_cons.mp hm with rfl | hm
    · exact ⟨hp (hs.placed f (by simp [hf])), .inl hgo⟩
    · have hold : h ∈ d.frames := by simp [hf, hm]
      exact ⟨hs.placed h hold, .inr hold⟩
  · simp only [openings, hf, hg, List.filterMap_cons, hfo, hgo]
  · simp only [waiting, hf, hg, List.flatMap_cons, ht]

theorem Sound.unregister (hs : Sound kept ⟨d, hand, news⟩) (hk : d.registered? key = some n) :
    Sound kept ⟨{ d with registry := d.registry.filter fun e => !(e.1 == key) },
      .cache n :: hand, news⟩ := by
  obtain ⟨placed, once, closed, alone, keys, held, owned, spread⟩ := hs
  refine ⟨placed, once, closed, alone, keys.sublist (List.filter_sublist.map _), ?_, owned, spread⟩
  intro m
  have hm := held m
  have hperm := ((registry_perm keys hk).map fun e => Thing.cache e.2).count_eq (.cache m)
  simp only [stored, List.count_append, List.map_cons, List.count_cons] at hm hperm ⊢
  change d.holders m = _ + _ + (_ + d.waiting.count _)
  omega

theorem Sound.register (hs : Sound kept ⟨d, .cache n :: hand, news⟩)
    (hk : d.registered? key = none) :
    Sound kept ⟨{ d with registry := d.registry ++ [(key, n)] }, hand, news⟩ := by
  obtain ⟨placed, once, closed, alone, keys, held, owned, spread⟩ := hs
  have hnew : key ∉ d.registry.map Prod.fst := by
    intro hm
    obtain ⟨e, he, rfl⟩ := List.mem_map.mp hm
    simpa using List.lookup_eq_none_iff.mp hk e he
  refine ⟨placed, once, closed, alone, ?_, ?_, owned, spread⟩
  · rw [List.map_append]
    exact keys.append (List.nodup_singleton key) (List.disjoint_singleton.mpr hnew)
  · intro m
    have hm := held m
    simp only [stored, List.count_append, List.map_append, List.map_cons, List.map_nil,
      List.count_cons, List.count_nil] at hm ⊢
    change d.holders m = _ + _ + (_ + d.waiting.count _)
    omega

theorem cache?_add_cases {c' : TenantCache} (h : (d.add c).1.cache? n = some c') :
    d.cache? n = some c' ∨ c' = c := by
  rcases Nat.lt_or_ge n d.caches.length with hn | hn
  · exact .inl (by simpa [add, cache?, List.getElem?_append_left hn] using h)
  · simp only [add, cache?, List.getElem?_append_right hn] at h
    cases hm : n - d.caches.length with
    | zero => exact .inr (by simpa [hm, eq_comm] using h)
    | succ m => simp [hm] at h

theorem Sound.add (hs : Sound kept ⟨d, hand, news⟩) (hc : c.opened = none) :
    Sound kept ⟨(d.add c).1, .cache d.caches.length :: hand, news⟩ := by
  obtain ⟨placed, once, closed, alone, keys, held, owned, spread⟩ := hs
  refine ⟨placed, once, ?_, ?_, keys, ?_, ?_, spread⟩
  · intro n hn
    obtain ⟨k, hk, hopened⟩ := closed n hn
    exact ⟨k, cache?_add_of_some hk c, hopened⟩
  · intro f hf n hn
    refine (alone f hf n hn).imp_right fun hone => ?_
    obtain ⟨k, hk, -⟩ := exists_of_holders (Nat.lt_of_lt_of_eq Nat.one_pos hone.symm)
    have hlt := (List.getElem?_eq_some_iff.mp hk).1
    rw [holders_add, if_neg (Nat.ne_of_gt hlt)]
    exact hone
  · intro m
    have hm := held m
    rw [holders_add]
    simp only [List.count_append, List.count_cons, beq_iff_eq, Thing.cache.injEq] at hm ⊢
    change _ = _ + _ + d.stored.count _
    omega
  · intro m k hk number hnumber
    obtain hk | rfl := cache?_add_cases hk
    · exact owned m k hk number hnumber
    · simp [TenantCache.poolNumbers, hc] at hnumber

theorem Sound.hold (hs : Sound kept ⟨d, hand, news⟩)
    (h : .cache n ∈ kept ++ hand ∨ ∃ key, d.registered? key = some n) :
    Sound kept ⟨d.hold n, .cache n :: hand, news⟩ := by
  have hpos : 0 < d.holders n := by
    apply hs.holds
    rcases h with h | ⟨key, h⟩
    · exact List.mem_append_left _ h
    · exact List.mem_append_right _ (List.mem_append_left _ (registered_mem h))
  have hnot {f : Frame} (hf : f ∈ d.frames) (hn : f.opening? = some n) : f.things = [] :=
    hs.not_alone hf hn h
  obtain ⟨placed, once, closed, alone, keys, held, owned, spread⟩ := hs
  refine ⟨placed, once, ?_, ?_, keys, ?_, ?_, spread⟩
  · intro m hm
    rw [cache?_hold]
    exact closed m hm
  · intro f hf m hm
    rw [holders_hold hpos]
    by_cases hnm : n = m
    · subst hnm
      exact .inl (hnot hf hm)
    · rw [if_neg hnm]
      exact alone f hf m hm
  · intro m
    have hm := held m
    rw [holders_hold hpos]
    simp only [List.count_append, List.count_cons, beq_iff_eq, Thing.cache.injEq] at hm ⊢
    change _ = _ + _ + d.stored.count _
    omega
  · intro m k hk
    rw [cache?_hold] at hk
    exact owned m k hk

theorem Sound.letGo (hs : Sound kept ⟨d, .cache n :: hand, news⟩) :
    Sound kept ⟨d.letGo n, hand, news⟩ := by
  have hnot {f : Frame} (hf : f ∈ d.frames) (hn : f.opening? = some n) : f.things = [] :=
    hs.not_alone hf hn (.inl (by simp))
  obtain ⟨placed, once, closed, alone, keys, held, owned, spread⟩ := hs
  refine ⟨placed, once, ?_, ?_, keys, ?_, ?_, spread⟩
  · intro m hm
    rw [cache?_letGo]
    exact closed m hm
  · intro f hf m hm
    rw [holders_letGo]
    by_cases hnm : n = m
    · subst hnm
      exact .inl (hnot hf hm)
    · rw [if_neg hnm]
      exact alone f hf m hm
  · intro m
    have hm := held m
    rw [holders_letGo]
    simp only [List.count_append, List.count_cons, beq_iff_eq, Thing.cache.injEq] at hm ⊢
    change _ = _ + _ + d.stored.count _
    omega
  · intro m k hk
    rw [cache?_letGo] at hk
    exact owned m k hk

/-- A cache that nobody is opening may change, but for pools of other caches. -/
theorem Sound.setCache (hs : Sound kept ⟨d, hand, news⟩) (hc : d.cache? n = some c)
    (hn : n ∉ d.openings) {c' : TenantCache} (hm : ∀ m ∈ c'.poolNumbers, d.owners[m]? = some n) :
    Sound kept ⟨d.setCache n c', hand, news'⟩ := by
  obtain ⟨placed, once, closed, alone, keys, held, owned, spread⟩ := hs
  refine ⟨placed, once, ?_, ?_, keys, ?_, ?_, spread⟩
  · intro m hm
    have hne : n ≠ m := fun h => hn (h ▸ hm)
    rw [cache?_setCache hc, if_neg hne]
    exact closed m hm
  · intro f hf m hm
    rw [holders_setCache]
    exact alone f hf m hm
  · intro m
    rw [holders_setCache]
    exact held m
  · intro m k hk
    rw [cache?_setCache hc] at hk
    split at hk
    · rename_i hnm
      subst hnm
      cases hk
      exact hm
    · exact owned m k hk

/-- Pools are made for a cache. -/
theorem Sound.extend (hs : Sound kept ⟨d, hand, news⟩) {yard : Yard} {n count : Nat}
    (hl : yard.pools.length = d.yard.pools.length + count) :
    Sound kept ⟨{ d with yard, owners := d.owners ++ List.replicate count n }, hand, news⟩ := by
  obtain ⟨placed, once, closed, alone, keys, held, owned, spread⟩ := hs
  refine ⟨placed, once, closed, alone, keys, held, ?_, ?_⟩
  · intro m k hk number hnumber
    have hold := owned m k hk number hnumber
    rw [List.getElem?_append_left (List.getElem?_eq_some_iff.mp hold).1]
    exact hold
  · change (d.owners ++ _).length = yard.pools.length
    rw [List.length_append, List.length_replicate, hl]
    exact congrArg (· + count) spread

/-- The pools of a cache that has just been opened are the last ones made. -/
theorem poolNumbers_opened (c : TenantCache) (project : Project) (catalog : Catalog)
    (regions : List String) (first : Nat) :
    { c with opened := some ⟨project, catalog,
        regions.zip (List.range' first regions.length)⟩ : TenantCache }.poolNumbers =
      List.range' first regions.length :=
  List.map_snd_zip (by simp)

theorem Sound.openTenant {catalog : Catalog} {bounds : PoolBounds} {s : Snapshot}
    {project : Project} (hs : Sound kept ⟨d, hand, news⟩) (hu : Unopened d n c) :
    Sound kept ⟨d.openTenant n c catalog bounds s project, hand, news'⟩ := by
  have hmade := congrArg List.length
    (pools_foldl_addPool (s.regions.map (c.newPool bounds project.name)) d.yard)
  rw [List.length_append, List.length_map] at hmade
  have hspread := hs.spread
  have hextended := hs.extend (n := n) hmade
  rw [← List.map_const] at hextended
  refine hextended.setCache hu.1 hu.2.2 fun m hm => ?_
  rw [poolNumbers_opened] at hm
  have hrange := List.mem_range'_1.mp hm
  change d.owners.length = d.yard.pools.length at hspread
  change (d.owners ++ _)[m]? = _
  rw [List.getElem?_append_right (by omega), List.map_const, List.getElem?_replicate, if_pos]
  omega

theorem poolNumbers_publish (c : TenantCache) (s : Snapshot) :
    (c.publish s).poolNumbers = c.poolNumbers := by
  cases hc : c.opened <;> simp [TenantCache.poolNumbers, TenantCache.publish, hc]

theorem things_count (reaction : Yard.Reaction) (n : Nat) :
    reaction.things.count (.cache n) = 0 := by
  apply List.count_eq_zero.mpr
  unfold Yard.Reaction.things
  split <;> simp

theorem Act.sound (h : Act errand kept x entries y) (hs : Sound kept x) : Sound kept y := by
  cases h with
  | arrange hperm => exact hs.same rfl rfl rfl rfl rfl fun n => (hperm.count_eq _).symm
  | note | count | reorder => exact hs.same rfl rfl rfl rfl rfl fun n => rfl
  | @work d hand _ deed y reaction frames made _ _ h hshift =>
    obtain ⟨hthings, hopenings, hplaced⟩ := hshift.idle
    refine hs.refit rfl rfl rfl (length_of_does h) (hplaced hs.placed) hopenings fun n => ?_
    change (reaction.things ++ hand ++ frames.flatMap Frame.things).count _ = _
    rw [hthings, List.append_assoc, List.count_append, things_count, Nat.zero_add]
  | giveBack h => exact hs.same rfl rfl rfl rfl (length_of_does (.call h)) fun n => by simp
  | lose => exact hs.same rfl rfl rfl rfl rfl fun n => by simp
  | recount hf => exact hs.swap hf rfl rfl rfl rfl rfl rfl rfl rfl id
  | push hf => exact hs.push hf.fits.1 hf.fits.2
  | pop hf => exact hs.pop hf
  | hold hn =>
    exact hs.hold (hn.imp_left (List.mem_append_left _))
  | letGo => exact hs.letGo
  | add c hc => exact hs.add hc
  | register _ hk => exact hs.register hk
  | @unregister _ hand news _ _ n pools closed after _ _ hk _ ha =>
    have hout := hs.unregister hk
    rw [← List.singleton_append, ← ha.fits.1] at hout
    exact hout.push (f := .draining _ closed after) ha.fits.2 (by simp [Frame.opening?])
  | connect hf | abandon hf => exact hs.swap hf rfl rfl rfl rfl rfl rfl rfl rfl id
  | openTenant hu => exact hs.openTenant hu
  | @publish d hand news n c o s hc ho =>
    refine hs.setCache hc ?_ ?_
    · intro hn
      obtain ⟨k, hk, hopened⟩ := hs.closed n hn
      rw [hc] at hk
      cases hk
      simp [ho] at hopened
    · rw [poolNumbers_publish]
      exact hs.owned n c hc

theorem Acts.sound (h : Acts errand kept x y) (hs : Sound kept x) : Sound kept y := by
  induction h with
  | refl => exact hs
  | tail _ hact ih => exact hact.sound ih

end Tenancy.Desk
