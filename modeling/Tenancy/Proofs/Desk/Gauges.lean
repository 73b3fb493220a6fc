import Tenancy.Proofs.Desk.Lease
import Tenancy.Proofs.Desk.Registry
import Tenancy.Proofs.Desk.Stack

namespace Tenancy.Desk

variable {errand : Errand} {kept hand : List Thing} {d : Desk} {news : List (Nat × Snapshot)}
  {entries : List Entry} {x y : Scene} {n m k bound : Nat} {p q : Pool} {label : String}
  {idle : List Nat}

/-- The gauges under that label show the sizes of the pool, which has it. -/
def Truthful (d : Desk) (m : Nat) (label : String) : Prop :=
  ∃ p, d.yard.pools[m]? = some p ∧ p.label = label ∧ d.yard.gauges label = p.counts

/-- Under every label the sizes of one of its pools are shown, or none where it has no pool. -/
def Shared (d : Desk) : Prop := ∀ label,
  (∃ m, d.Truthful m label) ∨
    d.yard.gauges label = (0, 0) ∧
      ∀ (m : Nat) (p : Pool), d.yard.pools[m]? = some p → p.label ≠ label

/-- All other pools with the label are drained, and belong to one of those caches. -/
def Sole (d : Desk) (m : Nat) (label : String) (idle : List Nat) : Prop :=
  ∀ (k : Nat) (p : Pool), k ≠ m → d.yard.pools[k]? = some p → p.label = label →
    p.drained = true ∧ ∃ n ∈ idle, d.owners[k]? = some n

theorem counts_of_drained (hb : Backed kept x) (hm : x.desk.yard.pools[m]? = some p)
    (hd : p.drained = true) : p.counts = (0, 0) := by
  obtain ⟨es, hf, -⟩ := hb
  obtain ⟨hfree, hloaned⟩ := (hf.1 m p hm).emptied hd
  simp [Pool.counts, hfree, hloaned]

/-- A change makes empty pools, or has the yard take a step, or leaves the pools and what is shown
of them alone. -/
theorem Act.shows (h : Act errand kept x entries y) (hb : Backed kept x) :
    y.desk.yard.pools = x.desk.yard.pools ∧ y.desk.yard.gauges = x.desk.yard.gauges ∨
    (∃ made, y.desk.yard.pools = x.desk.yard.pools ++ made ∧
      y.desk.yard.gauges = x.desk.yard.gauges ∧ ∀ p ∈ made, p.counts = (0, 0)) ∨
    ∃ deed p p', x.desk.yard.pools[Yard.Deed.pool deed]? = some p ∧
      y.desk.yard.pools = x.desk.yard.pools.set deed.pool p' ∧ p'.label = p.label ∧
      Yard.Shows deed p p' x.desk.yard y.desk.yard ∧
      (deed.Trims → ∃ n, errand = .trim n ∧ x.desk.owners[deed.pool]? = some n) := by
  have hempty (m : Nat) (p : Pool) (hm : x.desk.yard.pools[m]? = some p) : Yard.Emptied p := by
    obtain ⟨es, hf, -⟩ := hb
    exact (hf.1 m p hm).emptied
  cases h with
  | work hd hy =>
    obtain ⟨p, p', hp, hpools, hlabel, hshows⟩ := hy.shows fun p hp => hempty _ p hp
    exact .inr (.inr ⟨_, p, p', hp, hpools, hlabel, hshows, hd.2⟩)
  | @giveBack d hand news yard reaction lease hy =>
    have hdoes : d.yard.Does (.call (.release lease.pool lease)) (yard, reaction) := .call hy
    obtain ⟨p, p', hp, hpools, hlabel, hshows⟩ := hdoes.shows fun p hp => hempty _ p hp
    refine .inr (.inr ⟨_, p, p', hp, hpools, hlabel, hshows, ?_⟩)
    simp [Yard.Deed.Trims]
  | @openTenant d hand news n c catalog bounds s project =>
    refine .inr (.inl ⟨_, pools_openTenant n c catalog bounds s project, ?_, fun p hp => ?_⟩)
    · funext label
      rw [Yard.gauges, (work_openTenant d n c catalog bounds s project).2.2, ← Yard.gauges]
    · obtain ⟨region, -, rfl⟩ := List.mem_map.mp hp
      rfl
  | _ => exact .inl ⟨rfl, rfl⟩

/-- Pools keep their labels, and new ones are empty. -/
theorem Act.relabels (h : Act errand kept x entries y) (hb : Backed kept x)
    (hq : y.desk.yard.pools[m]? = some q) :
    (∃ p, x.desk.yard.pools[m]? = some p ∧ p.label = q.label) ∨
      x.desk.yard.pools.length ≤ m ∧ q.counts = (0, 0) := by
  obtain ⟨hpools, -⟩ | ⟨made, hpools, -, hempty⟩ | ⟨deed, p, p', hp, hpools, hlabel, -⟩ :=
    h.shows hb
  · exact .inl ⟨q, hpools ▸ hq, rfl⟩
  · rw [hpools] at hq
    rcases Nat.lt_or_ge m x.desk.yard.pools.length with hlt | hge
    · rw [List.getElem?_append_left hlt] at hq
      exact .inl ⟨q, hq, rfl⟩
    · rw [List.getElem?_append_right hge] at hq
      exact .inr ⟨hge, hempty q (List.mem_of_getElem? hq)⟩
  · rw [hpools] at hq
    by_cases hk : deed.pool = m
    · rw [← hk, List.getElem?_set_self (List.getElem?_eq_some_iff.mp hp).1] at hq
      cases hq
      exact .inl ⟨p, hk ▸ hp, hlabel.symm⟩
    · rw [List.getElem?_set_ne hk] at hq
      exact .inl ⟨q, hq, rfl⟩

/-- What is shown under a label stays and stays true, or the sizes of another pool replace it. A
drained pool only shows its own if it is trimmed. -/
theorem Act.gauges (h : Act errand kept x entries y) (hb : Backed kept x) (label : String) :
    y.desk.yard.gauges label = x.desk.yard.gauges label ∧
      (∀ m, x.desk.Truthful m label → y.desk.Truthful m label) ∨
    ∃ k p, x.desk.yard.pools[k]? = some p ∧ p.label = label ∧ y.desk.Truthful k label ∧
      (p.drained = true → ∃ n, errand = .trim n ∧ x.desk.owners[k]? = some n) := by
  obtain ⟨hpools, hgauges⟩ | ⟨made, hpools, hgauges, -⟩ |
    ⟨deed, p, p', hp, hpools, hlabel, hshows, htrims⟩ := h.shows hb
  · refine .inl ⟨congrFun hgauges label, fun m hm => ?_⟩
    simpa only [Truthful, hpools, hgauges] using hm
  · refine .inl ⟨congrFun hgauges label, ?_⟩
    rintro m ⟨q, hq, hl, hg⟩
    refine ⟨q, ?_, hl, hgauges ▸ hg⟩
    rw [hpools, List.getElem?_append_left (List.getElem?_eq_some_iff.mp hq).1]
    exact hq
  · have hlt := (List.getElem?_eq_some_iff.mp hp).1
    have hown : y.desk.yard.pools[deed.pool]? = some p' := by
      rw [hpools, List.getElem?_set_self hlt]
    have hother {m : Nat} (hm : deed.pool ≠ m) :
        y.desk.yard.pools[m]? = x.desk.yard.pools[m]? := by
      rw [hpools, List.getElem?_set_ne hm]
    cases hshows with
    | nothing hc hg =>
      refine .inl ⟨congrFun hg label, ?_⟩
      rintro m ⟨q, hq, hl, hshown⟩
      by_cases hm : deed.pool = m
      · subst hm
        obtain rfl := Option.some.inj (hp.symm.trans hq)
        exact ⟨p', hown, hlabel.trans hl, by rw [hg, hc, hshown]⟩
      · exact ⟨q, (hother hm).trans hq, hl, hg ▸ hshown⟩
    | sizes hd hg =>
      by_cases hl : p.label = label
      · exact .inr ⟨deed.pool, p, hp, hl, ⟨p', hown, hlabel.trans hl, by rw [hg, if_pos hl]⟩,
          fun hdrained => htrims (hd hdrained)⟩
      · refine .inl ⟨by rw [hg, if_neg hl], ?_⟩
        rintro m ⟨q, hq, hlq, hshown⟩
        have hm : deed.pool ≠ m := by
          rintro rfl
          obtain rfl := Option.some.inj (hp.symm.trans hq)
          exact hl hlq
        exact ⟨q, (hother hm).trans hq, hlq, by rw [hg, if_neg hl, hshown]⟩

/-- What is shown comes from a pool with that label. -/
theorem Act.shared (h : Act errand kept x entries y) (hb : Backed kept x)
    (hx : x.desk.Shared) : y.desk.Shared := by
  intro label
  obtain ⟨hgauges, hkeeps⟩ | ⟨k, -, -, -, hk, -⟩ := h.gauges hb label
  · obtain ⟨m, hm⟩ | ⟨hg, hnone⟩ := hx label
    · exact .inl ⟨m, hkeeps m hm⟩
    · by_cases hnew : ∃ (m : Nat) (q : Pool), y.desk.yard.pools[m]? = some q ∧ q.label = label
      · obtain ⟨m, q, hq, hl⟩ := hnew
        obtain ⟨p, hp, hlabel⟩ | ⟨-, hempty⟩ := h.relabels hb hq
        · exact absurd (hlabel.trans hl) (hnone m p hp)
        · exact .inl ⟨m, q, hq, hl, by rw [hgauges, hg, hempty]⟩
      · exact .inr ⟨hgauges.trans hg, fun m q hq hl => hnew ⟨m, q, hq, hl⟩⟩
  · exact .inl ⟨k, hk⟩

/-- The gauges of the pool are true, and all others with its label are drained; or a pool with the
label has been made under a number from `bound` on. -/
def Outlasts (bound m : Nat) (label : String) (idle : List Nat) (d : Desk) : Prop :=
  bound ≤ d.yard.pools.length ∧ ((d.Truthful m label ∧ d.Sole m label idle) ∨
    ∃ k q, bound ≤ k ∧ d.yard.pools[k]? = some q ∧ q.label = label)

theorem Act.outlasts (h : Act errand kept x entries y) (hb : Backed kept x)
    (hidle : ∀ n ∈ idle, errand ≠ .trim n) (hx : Outlasts bound m label idle x.desk) :
    Outlasts bound m label idle y.desk := by
  obtain ⟨hbound, hx⟩ := hx
  refine ⟨Nat.le_trans hbound h.pools_le, ?_⟩
  by_cases hnew : ∃ (k : Nat) (q : Pool), bound ≤ k ∧ y.desk.yard.pools[k]? = some q ∧
      q.label = label
  · exact .inr hnew
  obtain ⟨htrue, hsole⟩ | ⟨k, q, hk, hq, hlabel⟩ := hx
  · refine .inl ⟨?_, fun k q hk hq hlabel => ?_⟩
    · obtain ⟨-, hkeeps⟩ | ⟨k, p, hp, hlabel, htrue', htrims⟩ := h.gauges hb label
      · exact hkeeps m htrue
      · by_cases hk : k = m
        · exact hk ▸ htrue'
        · obtain ⟨hdrained, n, hn, howner⟩ := hsole k p hk hp hlabel
          obtain ⟨n', he, howner'⟩ := htrims hdrained
          obtain rfl := Option.some.inj (howner.symm.trans howner')
          exact absurd he (hidle n hn)
    · obtain ⟨p, hp, hsame⟩ | ⟨hge, -⟩ := h.relabels hb hq
      · obtain ⟨hdrained, n, hn, howner⟩ := hsole k p hk hp (hsame.trans hlabel)
        obtain ⟨q', hq', hdrained'⟩ := h.drained ⟨p, hp, hdrained⟩
        obtain rfl := Option.some.inj (hq.symm.trans hq')
        obtain ⟨more, hmore⟩ := h.owners_grow
        refine ⟨hdrained', n, hn, ?_⟩
        rw [← hmore, List.getElem?_append_left (List.getElem?_eq_some_iff.mp howner).1]
        exact howner
      · exact absurd ⟨k, q, Nat.le_trans hbound hge, hq, hlabel⟩ hnew
  · -- the pool made since keeps its label
    have hlt := (List.getElem?_eq_some_iff.mp hq).1
    have hq' := List.getElem?_eq_getElem (Nat.lt_of_lt_of_le hlt h.pools_le)
    obtain ⟨p, hp, hsame⟩ | ⟨hge, -⟩ := h.relabels hb hq'
    · obtain rfl := Option.some.inj (hp.symm.trans hq)
      exact absurd ⟨k, _, hk, hq', hsame.symm.trans hlabel⟩ hnew
    · exact absurd hlt (Nat.not_lt.mpr hge)

namespace History

variable {s s' : History} {moves : List Move} {providers : List Config.Provider}

theorem shared_of_run (hs : run providers moves = some s) : s.desk.Shared :=
  (runFrom_keeps (s := ⟨{ providers }, []⟩) (P := fun kept x => Backed kept x ∧ x.desk.Shared)
    (fun h _ hx => ⟨h.backed hx.1, h.shared hx.1 hx.2⟩)
    (fun hperm hx => hx.imp_left (Backed.move hperm))
    ⟨backed_start providers, fun label => .inr ⟨rfl, fun m p hp => by simp at hp⟩⟩
    (sound_start providers) hs).2

/-- Where all other pools with its label are drained, the sizes of an empty pool are shown. -/
theorem truthful_of_sole (hs : run providers moves = some s)
    (hp : s.desk.yard.pools[m]? = some p) (hsole : s.desk.Sole m p.label idle)
    (hempty : p.counts = (0, 0)) : s.desk.Truthful m p.label := by
  refine ⟨p, hp, rfl, ?_⟩
  obtain ⟨k, q, hq, hlabel, hg⟩ | ⟨hg, -⟩ := shared_of_run hs p.label
  · by_cases hk : k = m
    · subst hk
      obtain rfl := Option.some.inj (hp.symm.trans hq)
      exact hg
    · have hdrained := (hsole k q hk hq hlabel).1
      rw [hg, hempty, counts_of_drained (backed_of_run hs) hq hdrained]
  · rw [hg, hempty]

/-- Nobody calls on a cache any more that nobody has. -/
theorem uncalled (hs : Sound s.kept ⟨s.desk, [], s.news⟩) (ho : ∃ o, s.desk.opened? n = some o)
    (hn : s.desk.holders n = 0) (hr : s.runFrom moves = some s') {call : Call}
    (hc : .call call ∈ moves) : call.cache? ≠ some n := by
  intro hcache
  obtain ⟨before, after, rfl⟩ := List.append_of_mem hc
  rw [runFrom, List.foldlM_append] at hr
  obtain ⟨t, ht, hr⟩ := Option.bind_eq_some_iff.mp hr
  obtain ⟨u, hu, -⟩ := Option.bind_eq_some_iff.mp hr
  obtain ⟨-, hnobody⟩ := runFrom_keeps
    (P := fun _ x => (∃ o, x.desk.opened? n = some o) ∧ x.desk.holders n = 0)
    (fun h hs hx => by
      obtain ⟨⟨o, ho⟩, hn⟩ := hx
      obtain ⟨o', ho', -⟩ := h.pools ⟨o, ho, rfl⟩
      obtain ⟨c, hc, -⟩ := Option.bind_eq_some_iff.mp ho
      exact ⟨⟨o', ho'⟩, h.nobody hs ⟨c, hc⟩ hn⟩)
    (fun _ h => h) ⟨ho, hn⟩ hs ht
  simp only [advance] at hu
  split at hu
  · rename_i ha
    have hkept := (kept_of_allows ha hcache).1
    exact Nat.ne_of_gt ((sound_runFrom hs ht).holds_kept hkept) hnobody
  · cases hu

theorem untrimmed (hs : Sound s.kept ⟨s.desk, [], s.news⟩) (ho : ∃ o, s.desk.opened? n = some o)
    (hn : s.desk.holders n = 0) (hr : s.runFrom moves = some s') :
    ∀ move ∈ moves, ¬ move.Trims n := by
  intro move hm htrims
  cases move with
  | make | reorder | reply => exact htrims
  | call call =>
    refine uncalled hs ho hn hr hm ?_
    cases call with
    | trim | shrink => exact congrArg some htrims
    | _ => cases htrims

/-- Under a label the sizes of one of its pools are shown. Once all others with the label are
drained, they are those of the pool that is not: from when it is empty, or its sizes are shown,
while nobody trims the others, up to the next pool that is made with the label. A cache that has
lost a race has its pools drained and is never trimmed, but under its labels it has shown that there
is nothing. -/
theorem gauges_of_sole_pool (hs : run providers moves = some s) :
    (∀ label, (∃ m, s.desk.Truthful m label) ∨ s.desk.yard.gauges label = (0, 0) ∧
      ∀ (m : Nat) (p : Pool), s.desk.yard.pools[m]? = some p → p.label ≠ label) ∧
    (∀ m p idle, s.desk.yard.pools[m]? = some p → s.desk.Sole m p.label idle →
      (p.counts = (0, 0) ∨ s.desk.yard.gauges p.label = p.counts) →
      ∀ more t, (∀ move ∈ more, ∀ n ∈ idle, ¬ move.Trims n) → s.runFrom more = some t →
        t.desk.Truthful m p.label ∨
          ∃ k q, s.desk.yard.pools.length ≤ k ∧ t.desk.yard.pools[k]? = some q ∧
            q.label = p.label) ∧
    ∀ own catalog tries key reply n s',
      s.Takes (.answer (.authenticating own catalog tries (.register key)) reply)
        (.done (.cached n)) s' → n ≠ own →
      (∀ m ∈ s'.desk.poolsOf own, ∀ p, s'.desk.yard.pools[m]? = some p →
        p.drained = true ∧ s'.desk.yard.gauges p.label = (0, 0)) ∧
      ∀ more t, s'.runFrom more = some t → ∀ move ∈ more, ¬ move.Trims own := by
  have hsound := sound_of_run hs
  refine ⟨shared_of_run hs, fun m p idle hp hsole hshown more t hidle ht => ?_, ?_⟩
  · have htruthful : s.desk.Truthful m p.label := by
      obtain hempty | hshown := hshown
      · exact truthful_of_sole hs hp hsole hempty
      · exact ⟨p, hp, rfl, hshown⟩
    have hkeeps := runFrom_untrimmed (P := fun _ kept x => Backed kept x ∧
        Outlasts s.desk.yard.pools.length m p.label idle x.desk) hidle
      (fun htrims h _ hx => ⟨h.backed hx.1, h.outlasts hx.1 htrims hx.2⟩)
      (fun hperm hx => hx.imp_left (Backed.move hperm)) hsound
      ⟨backed_of_run hs, Nat.le_refl _, .inl ⟨htruthful, hsole⟩⟩ ht
    exact hkeeps.2.2.2.imp_left And.left
  · intro own catalog tries key reply n s' h hn
    obtain ⟨-, -, -, hdropped⟩ := h.lost hsound hn
    obtain ⟨move, hmove, -⟩ := h
    exact ⟨hdropped.drained, fun more t ht =>
      untrimmed (sound_advance hsound hmove) hdropped.opened hdropped.nobody ht⟩

/-- A tenant is opened. -/
def tenanting : List Move :=
  [.call (.getOrOpen ("cloud", "demo")), .reply (.answered 0 (.ok (grantOf ["east"])))]

/-- A connection is leased from the cache. -/
def leasing (n : Nat) : List Move :=
  [.call (.reserve n "east"), .reply .succeeded, .reply .succeeded]

theorem gauges_of_sole_pool_leasing : ∃ s t p, run [cloud] tenanting = some s ∧
    s.runFrom (leasing 0) = some t ∧ t.desk.yard.pools[0]? = some p ∧
    p.label = "cloud/demo/east" ∧ p.counts = (0, 1) ∧ t.desk.yard.gauges p.label = (0, 1) := by
  have hrun : (run [cloud] tenanting).bind (fun s => (s.runFrom (leasing 0)).map fun t =>
      (s.desk.yard.pools.map (fun p => (p.label, p.counts)),
        t.desk.yard.pools.map fun p => (p.label, p.counts))) =
      some ([("cloud/demo/east", (0, 0))], [("cloud/demo/east", (0, 1))]) := by
    decide +kernel
  obtain ⟨s, hs, h⟩ := Option.bind_eq_some_iff.mp hrun
  obtain ⟨t, ht, h⟩ := Option.map_eq_some_iff.mp h
  obtain ⟨hbefore, hafter⟩ := Prod.mk.inj h
  obtain ⟨p, hp, hpool⟩ := List.map_eq_singleton_iff.mp hbefore
  obtain ⟨q, hq, hpool'⟩ := List.map_eq_singleton_iff.mp hafter
  obtain ⟨hlabel, hempty⟩ := Prod.mk.inj hpool
  obtain ⟨hlabel', hcounts⟩ := Prod.mk.inj hpool'
  have hsole : s.desk.Sole 0 p.label [] := by
    intro k r hk hr
    rw [hp, List.getElem?_singleton, if_neg hk] at hr
    cases hr
  obtain ⟨-, hkeeps, -⟩ := gauges_of_sole_pool hs
  obtain ⟨r, hr, hl, hg⟩ | ⟨k, r, hk, hr, -⟩ := hkeeps 0 p [] (by simp [hp]) hsole (.inl hempty) _ t
      (by simp) ht
  · rw [hq, List.getElem?_cons_zero, Option.some.injEq] at hr
    subst hr
    exact ⟨s, t, q, hs, ht, by simp [hq], hlabel', hcounts, by rw [hl, hg, hcounts]⟩
  · -- no other pool is made
    rw [hp] at hk
    have hne : k ≠ 0 := Nat.ne_of_gt hk
    rw [hq, List.getElem?_singleton, if_neg hne] at hr
    cases hr

/-- Two searches for one tenant run inside each other. The inner one registers its cache, a
connection of which is leased, and then the outer one opens its own cache and loses the race. -/
def displacing : List Move :=
  .call (.getOrOpen ("cloud", "demo")) :: .call (.getOrOpen ("cloud", "demo")) ::
    .reply (.answered 0 (.ok (grantOf ["east"]))) :: leasing 1 ++
    [.reply (.answered 0 (.ok (grantOf ["east"])))]

/-- The cache that lost the race has changed what is shown for the one that won. -/
theorem gauges_of_lost_race : ∃ s p, run [cloud] displacing = some s ∧
    s.desk.registry = [(("cloud", "demo"), 1)] ∧ s.desk.poolsOf 1 = [0] ∧
    s.desk.yard.pools[0]? = some p ∧ p.label = "cloud/demo/east" ∧ p.counts = (0, 1) ∧
    s.desk.yard.gauges p.label = (0, 0) := by
  have hcaches : (run [cloud] displacing).map (fun s => (s.desk.registry, s.desk.poolsOf 1)) =
      some ([(("cloud", "demo"), 1)], [0]) := by
    decide +kernel
  have hshown : (run [cloud] displacing).bind (fun s => s.desk.yard.pools[0]?.map fun p =>
      (p.label, p.counts, s.desk.yard.gauges p.label)) =
      some ("cloud/demo/east", (0, 1), (0, 0)) := by
    decide +kernel
  obtain ⟨s, hs, hcaches⟩ := Option.map_eq_some_iff.mp hcaches
  obtain ⟨hregistry, hpools⟩ := Prod.mk.inj hcaches
  rw [hs, Option.bind_some] at hshown
  obtain ⟨p, hp, hpool⟩ := Option.map_eq_some_iff.mp hshown
  simp only [Prod.mk.injEq] at hpool
  obtain ⟨hlabel, hcounts, hgauges⟩ := hpool
  exact ⟨s, p, hs, hregistry, hpools, hp, hlabel, hcounts, hgauges⟩

end History

end Tenancy.Desk
