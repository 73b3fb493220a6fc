import Tenancy.Proofs.Desk.Retired

namespace Tenancy.Desk

variable {errand : Errand} {kept hand : List Thing} {d : Desk} {news : List (Nat × Snapshot)}
  {entries : List Entry} {x y : Scene} {n m : Nat} {c : TenantCache} {key : Key}

theorem lookup_filter_ne {k : Key} (h : k ≠ key) (entries : List (Key × Nat)) :
    (entries.filter fun e => !(e.1 == k)).lookup key = entries.lookup key := by
  induction entries with
  | nil => rfl
  | cons e entries ih =>
    by_cases hk : e.1 = k
    · rw [List.filter_cons_of_neg (by simp [hk]), ih, List.lookup_cons,
        beq_false_of_ne (hk ▸ h.symm)]
    · rw [List.filter_cons_of_pos (by simp [hk]), List.lookup_cons, List.lookup_cons, ih]

theorem lookup_filter_self (entries : List (Key × Nat)) :
    (entries.filter fun e => !(e.1 == key)).lookup key = none := by
  refine List.lookup_eq_none_iff.mpr fun e he => ?_
  have hne := (List.mem_filter.mp he).2
  simpa [BEq.comm] using hne

/-- What one change does to the entry of a key. -/
theorem Act.entry (h : Act errand kept x entries y) (key : Key) :
    y.desk.registered? key = x.desk.registered? key ∨
    (x.desk.registered? key = none ∧ ∃ n o, errand = .find key ∧
      y.desk.registered? key = some n ∧ y.desk.opened? n = some o) ∨
    (y.desk.registered? key = none ∧ ∃ keys, errand = .clear keys ∧ key ∈ keys) := by
  cases h with
  | @register d hand news k n c he hk hc ho =>
    by_cases hkey : k = key
    · subst hkey
      obtain ⟨o, ho⟩ := Option.isSome_iff_exists.mp ho
      refine .inr (.inl ⟨hk, n, o, he, ?_, ?_⟩)
      · simp only [registered?, List.lookup_append] at hk ⊢
        simp [hk]
      · change (d.cache? n).bind TenantCache.opened = some o
        rw [hc, Option.bind_some, ho]
    · refine .inl ?_
      simp only [registered?, List.lookup_append, List.lookup_cons,
        beq_false_of_ne (Ne.symm hkey), List.lookup_nil, Option.or_none]
  | @unregister d hand news k keys n pools closed after he hm hk hp ha =>
    by_cases hkey : k = key
    · subst hkey
      exact .inr (.inr ⟨lookup_filter_self _, keys, he, hm⟩)
    · exact .inl (lookup_filter_ne hkey _)
  | _ => exact .inl rfl

/-- Every cache of the registry is open. -/
def Stored (d : Desk) : Prop := ∀ key n, d.registered? key = some n → ∃ o, d.opened? n = some o

theorem Act.stored (h : Act errand kept x entries y) (hx : x.desk.Stored) : y.desk.Stored := by
  intro key n hn
  obtain hsame | ⟨-, m, o, -, hm, ho⟩ | ⟨hnone, -⟩ := h.entry key
  · obtain ⟨o, ho⟩ := hx key n (hsame ▸ hn)
    obtain ⟨o', ho', -⟩ := h.pools ⟨o, ho, rfl⟩
    exact ⟨o', ho'⟩
  · obtain rfl := Option.some.inj (hm.symm.trans hn)
    exact ⟨o, ho⟩
  · cases hnone.symm.trans hn

/-- An entry goes only on an errand to take it out, and no step changes it. -/
theorem Walk.entry (h : Walk errand kept x entries y) (hk : x.desk.registered? key = some n) :
    y.desk.registered? key = some n ∨
      y.desk.registered? key = none ∧ ∃ keys, errand = .clear keys ∧ key ∈ keys := by
  refine h.keeps (P := fun _ y => y.desk.registered? key = some n ∨
    y.desk.registered? key = none ∧ ∃ keys, errand = .clear keys ∧ key ∈ keys) [] ?_ (.inl hk)
  intro _ x entries y hact hx
  obtain hsame | ⟨hnone, m, o, hfind, -⟩ | hout := hact.entry key
  · rwa [hsame]
  · obtain hx | ⟨-, keys, hclear, -⟩ := hx
    · cases hnone.symm.trans hx
    · cases hfind.symm.trans hclear
  · exact .inr hout

theorem letGo_last (h : d.holders n = 1) :
    (d.letGo n).caches[n]?.map Held.holders = some 0 := by
  obtain ⟨k, hk, -⟩ := exists_of_holders (Nat.lt_of_lt_of_eq Nat.one_pos h.symm)
  have hone : k.holders = 1 := by simpa [holders, hk] using h
  simp [letGo, hk, hone]

theorem holders_hold_ne (h : m ≠ n) : (d.hold m).holders n = d.holders n := by
  simp [holders, hold, h]

/-- The cache has just been opened, and nobody holds it any more. Its pools, which are new, are
drained and shown to be empty. -/
structure Dropped (d : Desk) (n : Nat) (d' : Desk) : Prop where
  nobody : d'.holders n = 0
  opened : ∃ o, d'.opened? n = some o
  fresh : ∀ m ∈ d'.poolsOf n, d.yard.pools.length ≤ m
  drained : ∀ m ∈ d'.poolsOf n, ∀ p, d'.yard.pools[m]? = some p →
    p.drained = true ∧ d'.yard.gauges p.label = (0, 0)

theorem finish_lost {d' : Desk} {own : Nat} (hfresh : d.Fresh own) (hone : d.holders own = 1)
    (hn : n ≠ own)
    (h : d.finish own (.ok ()) (.register key) = some (d', .done (.cached n))) :
    d'.holders own = 0 ∧ d'.frames = d.frames ∧ d'.cache? own = d.cache? own ∧
      ∀ m ∈ d.poolsOf own, ∀ p, d'.yard.pools[m]? = some p →
        p.drained = true ∧ d'.yard.gauges p.label = (0, 0) := by
  simp only [finish] at h
  split at h
  · rename_i stored hs
    have hpools : ((d.hold stored).letGo own).poolsOf own = d.poolsOf own := by
      simp only [poolsOf, cache?_letGo, cache?_hold]
    have hfresh : ((d.hold stored).letGo own).Fresh own := by
      intro m hm
      rw [hpools] at hm
      exact hfresh m hm
    obtain ⟨yard, heq, hlast⟩ := leave_fresh hfresh h
    cases heq
    have hheld : (d.hold n).holders own = 1 := (holders_hold_ne hn).trans hone
    obtain ⟨hothers, -⟩ | ⟨hnobody, closed, hu⟩ := hlast
    · exact absurd (letGo_last hheld) hothers
    · have hdoomed {m : Nat} (hm : m ∈ d.poolsOf own) :
          m ∈ ((d.hold n).letGo own).doomedPools own :=
        (doomedPools_perm _ own).mem_iff.mpr (hpools ▸ hm)
      refine ⟨hnobody, rfl, ?_, fun m hm p hp => ⟨drainUntil_drains hu (hdoomed hm) p hp, ?_⟩⟩
      · exact (cache?_letGo own own).trans (cache?_hold n own)
      · exact drainUntil_shows hu (hdoomed hm) (fun q hq => (hfresh m (hpools ▸ hm) q hq).2) p hp
  · cases h
    exact absurd rfl hn

theorem judge_lost {d' : Desk} {own : Nat} {bounds : PoolBounds} {catalog : Catalog}
    {tries : UInt32} {result : Except CatalogError Snapshot} (hu : Unopened d own c)
    (hone : d.holders own = 1) (hn : n ≠ own)
    (h : d.judge own c bounds catalog tries (.register key) result =
      some (d', .done (.cached n))) : d'.frames = d.frames ∧ Dropped d own d' := by
  have hu := hu.record catalog.version result
  have hone : (d.record catalog.version result).holders own = 1 := by cases result <;> exact hone
  obtain ⟨error, rfl, h⟩ | ⟨error, wait, rfl, -, h⟩ | ⟨s, rfl, h⟩ := judge_cases h
  · -- a failure gives nobody a cache
    have hleads : Leads (.clear []) [] ⟨_, [.cache own], []⟩ (d', .done (.cached n)) [] :=
      failed_leads rfl h
    obtain ⟨key, hfind, -⟩ := hleads.meets.1 n rfl
    cases hfind
  · cases h
  · have hfresh := fresh_openTenant hu.1 catalog bounds s (s.project?.getD ⟨"", c.requested⟩)
    have hpools := poolsOf_openTenant hu.1 catalog bounds s (s.project?.getD ⟨"", c.requested⟩)
    have hcache := cache?_openTenant hu.1 catalog bounds s (s.project?.getD ⟨"", c.requested⟩) own
    obtain ⟨hnobody, hframes, hsame, hdrained⟩ :=
      finish_lost hfresh ((holders_setCache ..).trans hone) hn h
    rw [if_pos rfl, ← hsame] at hcache
    refine ⟨hframes, hnobody, ⟨_, by rw [opened?, hcache]; rfl⟩, fun m hm => ?_, fun m hm => ?_⟩
    · rw [poolsOf, hsame, ← poolsOf, hpools] at hm
      exact (List.mem_range'_1.mp hm).1
    · rw [poolsOf, hsame] at hm
      exact hdrained m hm

/-- Whoever has opened a cache and gets another one has lost a race. -/
theorem reply_lost {d' : Desk} {own : Nat} {catalog : Catalog} {tries : UInt32}
    {frames : List Frame} {r : Reply} (hs : Sound kept ⟨d, hand, news⟩)
    (hf : d.frames = .authenticating own catalog tries (.register key) :: frames)
    (h : d.reply r = some (d', .done (.cached n))) (hn : n ≠ own) :
    d'.frames = frames ∧ Dropped d own d' := by
  have hone : d.holders own = 1 := by
    obtain hnone | hone :=
      hs.alone (.authenticating own catalog tries (.register key)) (by simp [hf]) own rfl
    · cases hnone
    · exact hone
  simp only [reply, hf] at h
  cases r with
  | answered now answer =>
    obtain ⟨c, hc, h⟩ := Option.bind_eq_some_iff.mp h
    obtain ⟨bounds, hb, h⟩ := Option.bind_eq_some_iff.mp h
    obtain ⟨hframes, hnobody, hopen, hfresh, hdrained⟩ :=
      judge_lost (unopened_of_popped hs hf rfl hc) hone hn h
    exact ⟨hframes, hnobody, hopen, hfresh, hdrained⟩
  | succeeded | failed | slept | finished | unwind => cases h

namespace History

variable {s s' t u : History} {moves more : List Move} {providers : List Config.Provider}
  {deed : Deed} {r : Request}

/-- The connector is at work for the cache, or was. -/
def Connects (s : History) (n : Nat) : Prop := ∃ m, s.desk.owners[m]? = some n ∧
  (.connecting m ∈ s.desk.frames ∨ ∃ c, .connected m c ∈ s.log)

/-- The step ends a search for the cache of that key, and gives that cache. -/
def Finds (s : History) (key : Key) (n : Nat) (s' : History) : Prop :=
  ∃ deed, s.Takes deed (.done (.cached n)) s' ∧ s.desk.errand deed = .find key

/-- Steps none of which takes the key out of the registry. -/
inductive Keeping (key : Key) : History → History → Prop
  | refl (s : History) : Keeping key s s
  | step {s t u : History} {m : Move} (h : s.advance m = some t)
      (hk : s.desk.registered? key ≠ none → t.desk.registered? key ≠ none)
      (rest : Keeping key t u) : Keeping key s u

theorem Takes.meets (hs : Sound s.kept ⟨s.desk, [], s.news⟩) (h : s.Takes deed r s')
    (hd : ∀ n, deed ≠ .make n) : (s.desk.errand deed).Meets s.desk.registry (s'.desk, r) := by
  obtain ⟨m, hm, he⟩ := h
  obtain ⟨c, hc, rfl⟩ | ⟨_, _, _, rfl⟩ | ⟨call, step, ha, hstep, rfl⟩ |
    ⟨frame, frames, reply, step, hf, hstep, rfl⟩ := advance_cases hm
  · obtain ⟨rfl, -, -⟩ : .make s.desk.caches.length = deed ∧ _ ∧ _ = r := by
      simpa [record] using he
    exact absurd rfl (hd _)
  · obtain ⟨rfl, -, rfl⟩ : .reorder = deed ∧ _ ∧ .done .nothing = r := by
      simpa [record] using he
    exact ⟨fun n hn => by simp at hn, fun key _ _ => rfl⟩
  · obtain ⟨rfl, -, rfl⟩ : .call call = deed ∧ _ ∧ step.2 = r := by simpa [record] using he
    obtain hleads | ⟨-, -, -, -, -, -, rfl⟩ := call_leads (sound_allowed ha hs)
        (fun n hn => (kept_of_allows ha hn).2) (fun n hn => cache_kept ha hn) hstep
    · exact hleads.meets
    · exact ⟨fun n hn => by simp at hn, fun key _ _ => rfl⟩
  · obtain ⟨rfl, -, rfl⟩ : .answer frame reply = deed ∧ _ ∧ step.2 = r := by
      simpa [record] using he
    obtain ⟨-, hleads⟩ | ⟨-, -, -, -, -, -, rfl⟩ := reply_leads hs hf hstep
    · exact hleads.meets
    · exact ⟨fun n hn => by simp at hn, fun key _ _ => rfl⟩

theorem advance_entry {m : Move} (hs : Sound s.kept ⟨s.desk, [], s.news⟩)
    (h : s.advance m = some s') (hk : s.desk.registered? key = some n) :
    s'.desk.registered? key = some n ∨ s'.desk.registered? key = none := by
  obtain ⟨e, given, got, rest, -, -, -, hwalk⟩ := advance_walk h hs
  exact (hwalk.entry hk).imp_right And.left

/-- Where nobody takes it out, an entry stays what it is. -/
theorem Keeping.entry (h : Keeping key s t) (hs : Sound s.kept ⟨s.desk, [], s.news⟩)
    (hk : s.desk.registered? key = some n) :
    t.desk.registered? key = some n ∧ Sound t.kept ⟨t.desk, [], t.news⟩ := by
  induction h with
  | refl s => exact ⟨hk, hs⟩
  | step h hkeeps _ ih =>
    refine ih (sound_advance hs h) ?_
    obtain hsame | hnone := advance_entry hs h hk
    · exact hsame
    · exact absurd hnone (hkeeps (by simp [hk]))

theorem Finds.registered (h : s.Finds key n s') (hs : Sound s.kept ⟨s.desk, [], s.news⟩) :
    s'.desk.registered? key = some n := by
  obtain ⟨deed, h, he⟩ := h
  have hd (n : Nat) : deed ≠ .make n := by
    rintro rfl
    cases he
  obtain ⟨key', hfind, hk⟩ := (h.meets hs hd).1 n rfl
  cases he.symm.trans hfind
  exact hk

theorem stored_of_run (hs : run providers moves = some s) : s.desk.Stored :=
  runFrom_keeps (s := ⟨{ providers }, []⟩) (P := fun _ x => x.desk.Stored)
    (fun h _ => h.stored) (fun _ h => h) (fun key n hn => by simp [registered?] at hn)
    (sound_start providers) hs

/-- While a cache is being opened, no connection has ever been made for it. -/
theorem unopened_connects {before : List Move} (hs : run providers moves = some s)
    (ho : n ∈ s.desk.openings) (hb : before <+: moves) (ht : run providers before = some t) :
    ¬ t.Connects n := by
  rintro ⟨m, hm, -⟩
  obtain ⟨c, hc, hopened⟩ := (sound_of_run hs).closed n ho
  have hlisted := listed_of_run hs m n
  rw [poolsOf_of_unopened hc hopened] at hlisted
  obtain ⟨more, rfl⟩ := hb
  have hmore : t.runFrom more = some s := by
    rw [run_append ht] at hs
    exact hs
  cases hlisted (owner_stays (sound_of_run ht) hm hmore)

/-- Whoever has opened a cache to register it, and gets another one, has dropped it. -/
theorem Takes.lost {own : Nat} {catalog : Catalog} {tries : UInt32} {reply : Reply}
    (h : s.Takes (.answer (.authenticating own catalog tries (.register key)) reply)
      (.done (.cached n)) s')
    (hs : Sound s.kept ⟨s.desk, [], s.news⟩) (hn : n ≠ own) :
    own ∈ s.desk.openings ∧ s'.desk.frames ⊆ s.desk.frames ∧ s'.log = s.log ∧
      Dropped s.desk own s'.desk := by
  obtain ⟨frames, ⟨d', request⟩, hf, hstep, hcached, rfl⟩ := h.of_answer
  cases hcached
  obtain ⟨hframes, hdropped⟩ := reply_lost hs hf hstep hn
  refine ⟨by simp [openings, hf, Frame.opening?], ?_, rfl, hdropped⟩
  change d'.frames ⊆ _
  rw [hframes, hf]
  exact List.subset_cons_self _ _

/-- After a race was lost, no connection is ever made for the cache. -/
theorem dropped_connects (hs : run providers moves = some s)
    (hs' : run providers more = some s') (hframes : s'.desk.frames ⊆ s.desk.frames)
    (hlog : s'.log = s.log) (hd : Dropped s.desk n s'.desk) {later : List Move}
    (ht : s'.runFrom later = some t) : ¬ t.Connects n := by
  rintro ⟨m, hm, hconnects⟩
  have hsound := sound_of_run hs'
  have hrun : run providers (more ++ later) = some t := (run_append hs').trans ht
  -- the pools of the cache are those that it had when the race was lost
  obtain ⟨o, ho⟩ := hd.opened
  obtain ⟨o', ho', hpools⟩ := pools_stay hsound ho ht
  have hlisted : m ∈ s'.desk.poolsOf n := by
    have hlisted := listed_of_run hrun m n hm
    rw [poolsOf_of_opened ho', hpools, ← poolsOf_of_opened ho] at hlisted
    exact hlisted
  obtain ⟨c, hc, hm'⟩ := exists_cache_of_mem hlisted
  have hlt := (List.getElem?_eq_some_iff.mp (hsound.owned n c hc m hm')).1
  rw [hsound.spread] at hlt
  have hnew : ¬ m < s.desk.owners.length := by
    rw [(sound_of_run hs).spread]
    exact Nat.not_lt.mpr (hd.fresh m hlisted)
  have hbounded := bounded_of_run hs m
  have hidle : s'.desk.Idle m :=
    ⟨⟨_, List.getElem?_eq_getElem hlt, (hd.drained m hlisted _ (List.getElem?_eq_getElem hlt)).1⟩,
      fun hc => hnew (hbounded (.inl (hframes hc)))⟩
  obtain ⟨hidle, hsame⟩ := idle_stays hsound hidle ht
  obtain hconnecting | ⟨c, hc⟩ := hconnects
  · exact hidle.2 hconnecting
  · rw [hsame, hlog] at hc
    exact hnew (hbounded (.inr ⟨c, hc⟩))

/-- No key has two caches, and every cache of the registry is open. Whoever looks for a cache gets
the one registered at that moment, and while nobody takes it out, everybody gets that one; whoever
gets none has left the registry as it was. A cache that came too late is let go, and neither before
nor afterwards is its connector asked for anything. -/
theorem registry_agrees (hs : run providers moves = some s) :
    (s.desk.registry.map Prod.fst).Nodup ∧
    (∀ key n, s.desk.registered? key = some n → ∃ o, s.desk.opened? n = some o) ∧
    (∀ key n s', s.Finds key n s' → s'.desk.registered? key = some n ∧
      ∀ n' t u, Keeping key s' t → t.Finds key n' u → n' = n) ∧
    (∀ key deed r s', s.Takes deed r s' → s.desk.errand deed = .find key →
      (∀ n, r ≠ .done (.cached n)) → s'.desk.registry = s.desk.registry) ∧
    ∀ own catalog tries key reply n s',
      s.Takes (.answer (.authenticating own catalog tries (.register key)) reply)
        (.done (.cached n)) s' → n ≠ own →
      s'.desk.holders own = 0 ∧
      (∀ before t, before <+: moves → run providers before = some t → ¬ t.Connects own) ∧
      ∀ later t, s'.runFrom later = some t → ¬ t.Connects own := by
  have hsound := sound_of_run hs
  refine ⟨hsound.keys, stored_of_run hs, ?_, ?_, ?_⟩
  · intro key n s' h
    have hk := h.registered hsound
    obtain ⟨deed, ⟨m, hm, -⟩, -⟩ := h
    refine ⟨hk, fun n' t u hkeeps h' => ?_⟩
    obtain ⟨hkt, hsound'⟩ := hkeeps.entry (sound_advance hsound hm) hk
    have hku := h'.registered hsound'
    obtain ⟨deed', ⟨m', hm', -⟩, he'⟩ := h'
    obtain hsame | hnone := advance_entry hsound' hm' hkt
    · exact Option.some.inj (hku.symm.trans hsame)
    · cases hku.symm.trans hnone
  · intro key deed r s' h he hno
    have hd (n : Nat) : deed ≠ .make n := by
      rintro rfl
      cases he
    exact (h.meets hsound hd).2 key he hno
  · intro own catalog tries key reply n s' h hn
    obtain ⟨hopening, hframes, hlog, hdropped⟩ := h.lost hsound hn
    obtain ⟨m, hm⟩ := h.runFrom
    have hs' := (run_append hs).trans hm
    exact ⟨hdropped.nobody, fun before t hb ht => unopened_connects hs hopening hb ht,
      fun later t ht => dropped_connects hs hs' hframes hlog hdropped ht⟩

/-- While a cache is being opened, another one is opened for the same key and registered. -/
def racing : List Move :=
  [.call (.getOrOpen ("cloud", "demo")), .call (.getOrOpen ("cloud", "demo")),
    .reply (.answered 0 (.ok (grantOf ["east"])))]

theorem registry_agrees_racing : ∃ s s' catalog, run [cloud] racing = some s ∧
    s.desk.registered? ("cloud", "demo") = some 1 ∧
    s.Takes (.answer (.authenticating 0 catalog 1 (.register ("cloud", "demo")))
      (.answered 0 (.ok (grantOf ["east"])))) (.done (.cached 1)) s' ∧
    s'.desk.registered? ("cloud", "demo") = some 1 ∧ s'.desk.holders 0 = 0 ∧ ¬ s'.Connects 0 := by
  have hrun : (run [cloud] racing).bind (fun s =>
      (s.desk.reply (.answered 0 (.ok (grantOf ["east"])))).map fun step =>
        (s.desk.frames, step.2, s.desk.registered? ("cloud", "demo"))) =
      some ([.authenticating 0 ⟨.v2, (TenantCache.ofConfig 0 cloud
        { name := "demo", userid := "ops" }).target, {}⟩ 1 (.register ("cloud", "demo"))],
        .done (.cached 1), some 1) := by
    decide +kernel
  obtain ⟨s, hs, hrun⟩ := Option.bind_eq_some_iff.mp hrun
  obtain ⟨⟨d, r⟩, hreply, hrun⟩ := Option.map_eq_some_iff.mp hrun
  simp only [Prod.mk.injEq] at hrun
  obtain ⟨hf, rfl, hk⟩ := hrun
  have htakes := takes_reply hf hreply
  obtain ⟨-, -, hfinds, -, hlost⟩ := registry_agrees hs
  obtain ⟨hnobody, -, hlater⟩ := hlost _ _ _ _ _ _ _ htakes (by decide)
  have hfound := (hfinds ("cloud", "demo") 1 _ ⟨_, htakes, rfl⟩).1
  exact ⟨s, _, _, hs, hk, htakes, hfound, hnobody, hlater [] _ rfl⟩

end History

end Tenancy.Desk
