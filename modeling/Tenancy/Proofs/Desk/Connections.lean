import Tenancy.Proofs.Desk.Ledger
import Tenancy.Proofs.Desk.Registry

namespace Tenancy.Desk

variable {errand : Errand} {kept hand : List Thing} {d : Desk} {news : List (Nat × Snapshot)}
  {log entries : List Entry} {x y : Scene} {n m : Nat} {connection : Connection}

def IsDrained (d : Desk) (m : Nat) : Prop := ∃ p, d.yard.pools[m]? = some p ∧ p.drained = true

/-- While the cache is registered nobody has to drain its pools. Then somebody does who has the
cache meanwhile. -/
def Retiring (d : Desk) (n : Nat) : Prop :=
  (∃ key, d.registered? key = some n) ∨ ∀ m ∈ d.poolsOf n, d.IsDrained m ∨
    ∃ rest closed after, .draining rest closed after ∈ d.frames ∧ m ∈ rest ∧
      .cache n ∈ after.things

/-- An operation that is about a pool of the cache has the cache. -/
def Keeps (d : Desk) (n : Nat) (task : Yard.Task) (b : Frame) : Prop :=
  task.pool ∈ d.poolsOf n → .cache n ∈ b.things

/-- The cache is open, its pools are drained once it is no longer registered, and whoever works on one
of them has it. -/
structure Guarded (log : List Entry) (n : Nat) (d : Desk) : Prop where
  opened : ∃ o, d.opened? n = some o
  retiring : d.Retiring n
  stacked : Stacked log (d.Keeps n) d.frames d.yard.tasks

theorem stored_of_frame {f : Frame} (hf : f ∈ d.frames) (hn : .cache n ∈ f.things) :
    .cache n ∈ d.stored :=
  List.mem_append_right _ (List.mem_flatMap.mpr ⟨f, hf, hn⟩)

theorem Retiring.stored (h : d.Retiring n) (hm : m ∈ d.poolsOf n) (hd : ¬ d.IsDrained m) :
    .cache n ∈ d.stored := by
  obtain ⟨key, hk⟩ | h := h
  · exact List.mem_append_left _ (registered_mem hk)
  · obtain hdrained | ⟨rest, closed, after, hf, -, hn⟩ := h m hm
    · exact absurd hdrained hd
    · exact stored_of_frame hf hn

theorem Act.poolsOf (h : Act errand kept x entries y) (ho : ∃ o, x.desk.opened? n = some o) :
    y.desk.poolsOf n = x.desk.poolsOf n := by
  obtain ⟨o, ho⟩ := ho
  obtain ⟨o', ho', hpools⟩ := h.pools ⟨o, ho, rfl⟩
  rw [poolsOf_of_opened ho, poolsOf_of_opened ho', hpools]

/-- Who is draining pools goes on until they are drained. -/
theorem Act.still_draining {rest : List Nat} {closed : Nat} {after : After}
    (h : Act errand kept x entries y) (hm : m < x.desk.yard.pools.length)
    (hf : .draining rest closed after ∈ x.desk.frames) (hr : m ∈ rest) :
    y.desk.IsDrained m ∨ ∃ rest' closed', .draining rest' closed' after ∈ y.desk.frames ∧
      m ∈ rest' := by
  have hbelow {g : Frame} {below frames : List Frame} (hx : x.desk.frames = g :: below)
      (hy : below ⊆ frames) (hg : g ≠ .draining rest closed after) :
      ∃ rest' closed', .draining rest' closed' after ∈ frames ∧ m ∈ rest' := by
    rw [hx] at hf
    rcases List.mem_cons.mp hf with rfl | hf
    · exact absurd rfl hg
    · exact ⟨rest, closed, hy hf, hr⟩
  cases h with
  | work _ hy hs =>
    cases hs with
    | call hx => exact .inr (hbelow hx (fun g hg => by simp [hg]) (by simp))
    | @drain pool rest' closed' closed'' after' _ tops _ below hx =>
      rw [hx] at hf
      rcases List.mem_cons.mp hf with heq | hf
      · cases heq
        rcases List.mem_cons.mp hr with rfl | hr
        · obtain ⟨-, -, p, p', new, hp, turn, hpools, -⟩ := hy.stride
          refine .inl ⟨p', ?_, turn.drains.1⟩
          exact (congrArg (·[m]?) hpools).trans (List.getElem?_set_self hm)
        · exact .inr ⟨rest', closed'', List.mem_append_right _ List.mem_cons_self, hr⟩
      · exact .inr ⟨rest, closed, List.mem_append_right _ (List.mem_cons_of_mem _ hf), hr⟩
    | answer hx hg =>
      refine .inr (hbelow hx (List.subset_append_right _ _) fun heq => ?_)
      rw [heq] at hg
      cases hg
  | @recount d hand news pools rest' closed' closed'' after' below hx hsub hp =>
    rw [show d.frames = _ from hx] at hf
    rcases List.mem_cons.mp hf with heq | hf
    · cases heq
      obtain hm' | hnone := hp m hr
      · exact .inr ⟨rest', closed'', List.mem_cons_self, hm'⟩
      · exact absurd (List.getElem?_eq_none_iff.mp hnone) (Nat.not_le.mpr hm)
    · exact .inr ⟨rest, closed, List.mem_cons_of_mem _ hf, hr⟩
  | push | unregister => exact .inr ⟨rest, closed, List.mem_cons_of_mem _ hf, hr⟩
  | pop hx hs =>
    refine .inr (hbelow hx (List.Subset.refl _) fun heq => ?_)
    rw [heq] at hs
    rw [List.isEmpty_iff.mp hs] at hr
    cases hr
  | connect hx | abandon hx => exact .inr (hbelow hx (List.subset_cons_self _ _) (by simp))
  | _ => exact .inr ⟨rest, closed, hf, hr⟩

theorem Act.retiring (h : Act errand kept x entries y) (hs : Sound kept x)
    (ho : ∃ o, x.desk.opened? n = some o) (hr : x.desk.Retiring n) : y.desk.Retiring n := by
  have hpools := h.poolsOf ho
  obtain ⟨key, hk⟩ | hr := hr
  · obtain hsame | ⟨hnone, -⟩ | ⟨hgone, -⟩ := h.entry key
    · exact .inl ⟨key, hsame.trans hk⟩
    · cases hnone.symm.trans hk
    · -- who takes the cache out goes on to drain its pools
      cases h with
      | @unregister d hand news k keys n' pools closed after he hm hk' hp ha =>
        by_cases hkey : k = key
        · subst hkey
          obtain rfl := Option.some.inj (hk'.symm.trans hk)
          refine .inr fun m hm => .inr ⟨pools, closed, after, List.mem_cons_self, ?_, ?_⟩
          · exact hp.mem_iff.mpr (hpools ▸ hm)
          · simp [ha.fits.1]
        · exact .inl ⟨key, (lookup_filter_ne hkey _).trans hk⟩
      | register he hk' =>
        simp only [registered?, List.lookup_append] at hgone hk
        simp [hk] at hgone
      | _ => cases hgone.symm.trans hk
  · refine .inr fun m hm => ?_
    rw [hpools] at hm
    obtain hdrained | ⟨rest, closed, after, hf, hmem, hn⟩ := hr m hm
    · exact .inl (h.drained hdrained)
    · obtain ⟨c, hc, hnumber⟩ := exists_cache_of_mem hm
      have hlt := (List.getElem?_eq_some_iff.mp (hs.owned n c hc m hnumber)).1
      rw [hs.spread] at hlt
      obtain hdrained | ⟨rest', closed', hf', hmem'⟩ := h.still_draining hlt hf hmem
      · exact .inl hdrained
      · exact .inr ⟨rest', closed', after, hf', hmem', hn⟩

theorem Act.guarded (h : Act errand kept x entries y) (hs : Sound kept x)
    (ho : Ordered log x.desk) (hg : Guarded log n x.desk) : Guarded (entries ++ log) n y.desk := by
  obtain ⟨opened, retiring, stacked⟩ := hg
  have hpools := h.poolsOf opened
  have howner (m : Nat) (hm : m ∈ x.desk.poolsOf n) : x.desk.owners[m]? = some n := by
    obtain ⟨c, hc, hnumber⟩ := exists_cache_of_mem hm
    exact hs.owned n c hc m hnumber
  refine ⟨?_, h.retiring hs opened retiring, ?_⟩
  · obtain ⟨o, ho⟩ := opened
    obtain ⟨o', ho', -⟩ := h.pools ⟨o, ho, rfl⟩
    exact ⟨o', ho'⟩
  · refine (h.stacked stacked ?_ ?_ ?_).mono (List.Subset.refl _) fun task b hb hm => ?_
    · intro k below task _ hk hm
      obtain rfl := Option.some.inj ((howner _ hm).symm.trans hk)
      exact List.mem_cons_self
    · intro pool rest closed closed' after below p task hf hp hd ht hm
      rw [ht] at hm
      have htidy := ho.tidy (pool :: rest) closed after (by simp [hf]) pool List.mem_cons_self
      obtain ⟨k, hk, hthings⟩ := htidy
      obtain rfl := Option.some.inj ((howner _ hm).symm.trans hk)
      refine hthings.resolve_right fun hnobody => ?_
      have hopen : ¬ x.desk.IsDrained pool := by
        rintro ⟨q, hq, hdrained⟩
        obtain rfl := Option.some.inj (hp.symm.trans hq)
        cases hd.symm.trans hdrained
      have hpos := hs.holds (List.mem_append_right _ (retiring.stored hm hopen))
      exact Nat.ne_of_gt hpos hnobody
    · intro task task' b ht hb hm
      exact hb (ht ▸ hm)
    · exact hb (hpools ▸ hm)

/-- The connection is not in use, and never will be. -/
def Discarded (connection : Connection) (d : Desk) : Prop :=
  connection ∉ d.connections ++ d.logins ∧ connection.number < d.connected

theorem Act.discarded (h : Act errand kept x entries y) (ho : Ordered log x.desk)
    (hx : Discarded connection x.desk) : Discarded connection y.desk := by
  obtain ⟨hout, hpast⟩ := hx
  -- whatever is in use afterwards was in use before, if it is not new
  suffices hsub : ∀ c ∈ y.desk.connections ++ y.desk.logins,
      c ∈ x.desk.connections ++ x.desk.logins ∨ c.number = x.desk.connected by
    refine ⟨fun hc => ?_, ?_⟩
    · obtain hc | hnew := hsub _ hc
      · exact hout hc
      · exact Nat.ne_of_lt hpast hnew
    · cases h with
      | connect => exact Nat.lt_succ_of_lt hpast
      | _ => exact hpast
  intro c hc
  cases h with
  | @work d hand news deed yard reaction frames made entries _ hy hs =>
    obtain ⟨rest, ht, -⟩ := hy.stride
    refine .inl ?_
    rw [(hs.transfer ho.stacked ht).logins, ← List.append_assoc]
    exact hc
  | @connect d hand news pool connection' below hf hn =>
    rcases List.mem_cons.mp (List.perm_middle.subset hc) with rfl | hc
    · exact .inr hn
    · refine .inl ?_
      rw [logins, hf]
      exact hc
  | abandon hf | recount hf | pop hf =>
    refine .inl ?_
    rw [logins, hf]
    rcases List.mem_append.mp hc with hc | hc
    · exact List.mem_append_left _ hc
    · exact List.mem_append_right _ (((List.sublist_cons_self _ _).filterMap _).subset hc)
  | push hf =>
    refine .inl ?_
    rw [logins, Desk.push, List.filterMap_cons_none (Frame.login?_of_isPlain hf.isPlain)] at hc
    exact hc
  | _ => exact .inl hc

namespace History

variable {s s' t : History} {moves more later : List Move} {providers : List Config.Provider}
  {key : Key} {r : Request}

/-- The connection was made for that cache. -/
def Connected (s : History) (n : Nat) (connection : Connection) : Prop :=
  ∃ m, s.desk.owners[m]? = some n ∧ .connected m connection ∈ s.log

theorem log_grows (hr : s.runFrom more = some t) : s.log <:+ t.log := by
  refine foldlM_invariant (P := fun t : History => s.log <:+ t.log) List.suffix_rfl ?_ hr
  intro m _ t t' ht hm
  have hcons : ∃ e, t'.events = e :: t.events := by
    obtain ⟨c, -, rfl⟩ | ⟨_, _, _, rfl⟩ | ⟨call, step, -, -, rfl⟩ |
      ⟨frame, frames, r, step, -, -, rfl⟩ := advance_cases hm
    · exact ⟨_, rfl⟩
    · exact ⟨_, rfl⟩
    · exact ⟨_, rfl⟩
    · exact ⟨_, rfl⟩
  obtain ⟨e, he⟩ := hcons
  refine ht.trans ?_
  rw [log, log, he, List.flatMap_cons]
  exact List.suffix_append _ _

/-- Once a connection has been closed, it stays closed once. -/
theorem closed_stays (ht : run providers moves = some t) (hs : s.log <:+ t.log)
    (hc : (closed s.log).count connection = 1) : (closed t.log).count connection = 1 := by
  have hgrown : (closed s.log).Sublist (closed t.log) := hs.sublist.filterMap _
  have hle := hgrown.count_le connection
  have honce := List.nodup_iff_count_le_one.mp (ledger_of_run ht).closed_once.1 connection
  omega

theorem login_failed (hs : run providers moves = some s)
    (h : s.Takes (.answer (.loggingIn connection) .failed) r s') :
    r = .close connection ∧ s'.desk.frames = .abandoning :: s.desk.frames.tail ∧
      ∀ later t, s'.runFrom later = some t → connection ∉ t.desk.connections := by
  obtain ⟨m, hm⟩ := h.runFrom
  have hs' := (run_append hs).trans hm
  have hledger := ledger_of_run hs
  obtain ⟨frames, step, hf, hstep, rfl, rfl⟩ := h.of_answer
  rw [reply, hf] at hstep
  cases hstep
  refine ⟨rfl, by rw [hf]; rfl, fun later t ht hc => ?_⟩
  have hlogins : s.desk.logins = connection :: frames.filterMap Frame.login? := by
    rw [logins, hf]
    rfl
  have hapart := hledger.apart
  have hknown := hledger.known connection
  rw [hlogins] at hapart hknown
  have hdiscarded : Discarded connection
      (s.record (.answer (.loggingIn connection) .failed)
        (Desk.push (Desk.note { s.desk with frames } .loginFailed) .abandoning,
          .close connection)).desk :=
    ⟨(List.nodup_cons.mp (List.perm_middle.nodup_iff.mp hapart)).1,
      hledger.past connection (hknown (by simp))⟩
  have hout := runFrom_ordered (P := fun _ d => Discarded connection d)
    (fun h _ ho hx => h.discarded ho hx) hs' hdiscarded ht
  exact hout.1 (List.mem_append_left _ hc)

theorem guarded_of_registered (hs : run providers moves = some s)
    (hk : s.desk.registered? key = some n) : Guarded s.log n s.desk := by
  have hsound := sound_of_run hs
  obtain ⟨stacked, -⟩ := ordered_of_run hs
  refine ⟨stored_of_run hs key n hk, .inl ⟨key, hk⟩, ?_⟩
  refine stacked.mono (List.Subset.refl _) fun task b hb hm => ?_
  obtain ⟨c, hc, hnumber⟩ := exists_cache_of_mem hm
  have howner := hsound.owned n c hc task.pool hnumber
  cases b with
  | inPool k =>
    obtain rfl := Option.some.inj (howner.symm.trans hb)
    exact List.mem_cons_self
  | draining rest closed after =>
    obtain ⟨k, hk', hthings⟩ := hb
    obtain rfl := Option.some.inj (howner.symm.trans hk')
    refine hthings.resolve_right fun hnobody => ?_
    exact Nat.ne_of_gt (hsound.holds_registered hk) hnobody
  | _ => cases hb

/-- Nobody works on the pool, which is drained, and all its connections have been closed. -/
theorem retired (hs' : run providers moves = some s') (hg : Guarded s'.log n s'.desk)
    (hn : .cache n ∉ s'.desk.stored) (hm : m ∈ s'.desk.poolsOf n) :
    s'.desk.Idle m ∧
      ∀ c, .connected m c ∈ s'.log → (closed s'.log).count c = 1 := by
  obtain ⟨p, hp, hdrained⟩ : s'.desk.IsDrained m := by
    by_contra hd
    exact hn (hg.retiring.stored hm hd)
  have hquiet : ∀ task ∈ s'.desk.yard.tasks, task.pool ≠ m := by
    rintro task ht rfl
    obtain ⟨b, hb, hkeeps⟩ := hg.stacked.exists_serves ht
    exact hn (stored_of_frame hb (hkeeps hm))
  refine ⟨⟨⟨p, hp, hdrained⟩, fun hf => ?_⟩, fun c hc => ?_⟩
  · obtain ⟨task, ht, hw⟩ := hg.stacked.exists_awaits hf rfl
    cases hw
    exact hquiet _ ht rfl
  · refine (ledger_of_run hs').all_closed hg.stacked (fun q hq => ?_) hquiet hc
    obtain rfl := Option.some.inj (hp.symm.trans hq)
    obtain ⟨es, hf, -⟩ := backed_of_run hs'
    obtain ⟨hfree, hloaned⟩ := (hf.1 m p hp).emptied hdrained
    rw [Pool.slots, hfree, hloaned, List.append_nil]

/-- No connection is closed twice. One that cannot log in is closed before its reservation goes on,
and no pool ever gets it. Once a cache has been taken out of the registry and nobody works on it
any more, each connection ever made for it has been closed once, and none is made for it any more,
whatever callers do with it. -/
theorem connections_closed_once (hs : run providers moves = some s) :
    ((opened s.log).map Connection.number).Nodup ∧
    (closed s.log).Nodup ∧ closed s.log ⊆ opened s.log ∧
    (∀ connection r s', s.Takes (.answer (.loggingIn connection) .failed) r s' →
      r = .close connection ∧ s'.desk.frames = .abandoning :: s.desk.frames.tail ∧
      ∀ later t, s'.runFrom later = some t → connection ∉ t.desk.connections) ∧
    ∀ key n more s', s.desk.registered? key = some n → s.runFrom more = some s' →
      .cache n ∉ s'.desk.stored → ∀ later t, s'.runFrom later = some t →
      (∀ m, t.desk.owners[m]? = some n → .connecting m ∉ t.desk.frames) ∧
      ∀ connection, t.Connected n connection → s'.Connected n connection ∧
        (closed s'.log).count connection = 1 ∧ (closed t.log).count connection = 1 := by
  have hledger := ledger_of_run hs
  refine ⟨hledger.distinct, hledger.closed_once.1, hledger.closed_once.2,
    fun connection r s' h => login_failed hs h, ?_⟩
  intro key n more s' hk hmore hn later t hlater
  have hs' : run providers (moves ++ more) = some s' := (run_append hs).trans hmore
  have ht : run providers (moves ++ more ++ later) = some t := (run_append hs').trans hlater
  have hsound' := sound_of_run hs'
  have hg := runFrom_ordered (P := fun log d => Guarded log n d) Act.guarded hs
    (guarded_of_registered hs hk) hmore
  -- the pools of the cache stay the same
  have hpool (m : Nat) (hm : t.desk.owners[m]? = some n) : m ∈ s'.desk.poolsOf n := by
    obtain ⟨o, ho⟩ := hg.opened
    obtain ⟨o', ho', hpools⟩ := pools_stay hsound' ho hlater
    have hlisted := listed_of_run ht m n hm
    rw [poolsOf_of_opened ho', hpools, ← poolsOf_of_opened ho] at hlisted
    exact hlisted
  refine ⟨fun m hm => ?_, ?_⟩
  · exact (idle_stays hsound' (retired hs' hg hn (hpool m hm)).1 hlater).1.2
  · rintro c ⟨m, hm, hc⟩
    obtain ⟨hidle, hclosed⟩ := retired hs' hg hn (hpool m hm)
    have hc' := ((idle_stays hsound' hidle hlater).2 c).mp hc
    obtain ⟨k, hk, hnumber⟩ := exists_cache_of_mem (hpool m hm)
    exact ⟨⟨m, hsound'.owned n k hk m hnumber, hc'⟩, hclosed c hc',
      closed_stays ht (log_grows hlater) (hclosed c hc')⟩

/-- A tenant is opened. The first connection cannot log in, and the second one is leased. -/
def renting : List Move :=
  [.call (.getOrOpen ("cloud", "demo")), .reply (.answered 0 (.ok (grantOf ["east"]))),
    .call (.reserve 0 "east"), .reply .succeeded, .reply .failed, .reply .succeeded,
    .call (.reserve 0 "east"), .reply .succeeded, .reply .succeeded]

/-- The tenant is evicted. Its caller still has the cache and the lease. -/
def evicting : List Move := [.call (.evict ("cloud", "demo")), .reply .failed]

/-- The caller goes on with what it has. -/
def lingering : List Move := [.call (.reserve 0 "east"), .call (.release 0 "east" ⟨0, 1, 0⟩)]

theorem connections_closed_once_evicting : ∃ s s' t connection,
    run [cloud] renting = some s ∧ s.desk.registered? ("cloud", "demo") = some 0 ∧
    s.runFrom evicting = some s' ∧ .cache 0 ∉ s'.desk.stored ∧ .cache 0 ∈ s'.kept ∧
    s'.runFrom lingering = some t ∧ connection.number = 1 ∧ t.Connected 0 connection ∧
    (closed s'.log).count connection = 1 ∧ (closed t.log).count connection = 1 := by
  let connection : Connection := ⟨1, 0, "east", "demo", "ops"⟩
  have hrun : (run [cloud] renting).bind (fun s => (s.runFrom evicting).bind fun s' =>
      (s'.runFrom lingering).map fun t => (s.desk.registered? ("cloud", "demo"), s'.desk.stored,
        s'.kept.contains (.cache 0), t.desk.owners, t.log.contains (.connected 0 connection))) =
      some (some 0, [], true, [0], true) := by
    decide +kernel
  obtain ⟨s, hs, h⟩ := Option.bind_eq_some_iff.mp hrun
  obtain ⟨s', hs', h⟩ := Option.bind_eq_some_iff.mp h
  obtain ⟨t, ht, h⟩ := Option.map_eq_some_iff.mp h
  simp only [Prod.mk.injEq, List.contains_iff_mem] at h
  obtain ⟨hk, hstored, hkept, howners, hmade⟩ := h
  have hstored' : .cache 0 ∉ s'.desk.stored := by simp [hstored]
  have hconnected : t.Connected 0 connection := ⟨0, by simp [howners], hmade⟩
  obtain ⟨-, -, -, -, hretired⟩ := connections_closed_once hs
  obtain ⟨-, hclosed⟩ := hretired _ _ _ _ hk hs' hstored' _ _ ht
  obtain ⟨-, hbefore, hafter⟩ := hclosed connection hconnected
  exact ⟨s, s', t, connection, hs, hk, hs', hstored', hkept, ht, rfl, hconnected, hbefore, hafter⟩

end History

end Tenancy.Desk
