import Tenancy.Proofs.Desk.Step

namespace Tenancy.Desk

variable {kept kept' hand hand' : List Thing} {d : Desk} {news : List (Nat × Snapshot)}
  {step : Desk × Request}

/-- A call, whether or not it finds a pool. -/
theorem call_walk {call : Call} (hs : Sound kept ⟨d, call.things, news⟩)
    (hn : ∀ n, call.cache? = some n → n ∉ d.openings)
    (hk : ∀ n, call.cache? = some n → call ≠ .drop n → .cache n ∈ kept)
    (h : d.call call = some step) :
    Walk (d.errand (.call call)) kept ⟨d, call.things, news⟩ step.2.entries
      ⟨step.1, step.2.things, news⟩ := by
  obtain hleads | ⟨n, c, error, -, -, hplace, rfl⟩ := call_leads hs hn hk h
  · exact hleads.walk
  · cases call with
    | release n region lease => exact .quiet (.single (.lose lease))
    | reserve | withConnection | trim | shrink | drain => exact .quiet .refl
    | _ => cases hplace

/-- What callers hand over and what they get does not change what there is. -/
theorem Sound.move (h : (kept ++ hand).Perm (kept' ++ hand')) (hs : Sound kept ⟨d, hand, news⟩) :
    Sound kept' ⟨d, hand', news⟩ := by
  obtain ⟨placed, once, closed, alone, keys, held, owned, spread⟩ := hs
  refine ⟨placed, once, closed, alone, keys, ?_, owned, spread⟩
  intro n
  rw [held n, List.count_append, h.count_eq, ← List.count_append]

theorem sound_start (providers : List Config.Provider) : Sound [] ⟨{ providers }, [], []⟩ := by
  refine ⟨?_, List.nodup_nil, ?_, ?_, List.nodup_nil, fun n => rfl, ?_, rfl⟩
  · intro f hf
    cases hf
  · intro n hn
    cases hn
  · intro f hf
    cases hf
  · intro n c hc
    cases hc

namespace History

variable {s s' : History} {moves : List Move} {providers : List Config.Provider} {call : Call}
  {deed : Deed} {r : Request} {n : Nat} {c : TenantCache}

theorem run_append {more : List Move} (hs : run providers moves = some s) :
    run providers (moves ++ more) = s.runFrom more := by
  rw [run, runFrom, List.foldlM_append, show moves.foldlM advance _ = some s from hs]
  rfl

theorem kept_of_allows (h : s.allows call = true) (hc : call.cache? = some n) :
    .cache n ∈ s.kept ∧ n ∉ s.desk.openings := by
  simp only [allows, Bool.and_eq_true, hc, Option.all_some] at h
  simpa using h.1

theorem things_of_allows (h : s.allows call = true) :
    s.kept.Perm (call.things ++ s.kept.diff call.things) := by
  simp only [allows, Bool.and_eq_true] at h
  cases call with
  | release _ _ lease =>
    have hm : .lease lease ∈ s.kept := by simpa [Call.things] using h.2
    simpa [Call.things] using List.perm_cons_erase hm
  | drop n =>
    have hm : .cache n ∈ s.kept := by simpa [Call.things] using h.2
    simpa [Call.things] using List.perm_cons_erase hm
  | _ => exact List.Perm.refl _

theorem sound_allowed (h : s.allows call = true) (hs : Sound s.kept ⟨s.desk, [], s.news⟩) :
    Sound (s.kept.diff call.things) ⟨s.desk, call.things, s.news⟩ :=
  hs.move (by simpa using (things_of_allows h).trans List.perm_append_comm)

/-- Who calls on a cache still has it afterwards, unless it is dropped. -/
theorem cache_kept (h : s.allows call = true) (hc : call.cache? = some n) (hd : call ≠ .drop n) :
    .cache n ∈ s.kept.diff call.things := by
  refine List.mem_diff_of_mem (kept_of_allows h hc).1 ?_
  cases call with
  | drop m =>
    cases hc
    exact absurd rfl hd
  | _ => simp [Call.things]

theorem advance_cases {m : Move} (h : s.advance m = some s') :
    (∃ c, c.opened = none ∧
      s' = s.record (.make s.desk.caches.length)
        ((s.desk.add c).1, .done (.cached s.desk.caches.length))) ∨
    (∃ slots pools keys,
      s' = s.record .reorder (s.desk.reorder slots pools keys, .done .nothing)) ∨
    (∃ call step, s.allows call = true ∧ s.desk.call call = some step ∧
      s' = s.record (.call call) step) ∨
    ∃ frame frames r step, s.desk.frames = frame :: frames ∧ s.desk.reply r = some step ∧
      s' = s.record (.answer frame r) step := by
  cases m with
  | make c =>
    simp only [advance] at h
    split at h
    · cases h
    · rename_i hc
      cases h
      exact .inl ⟨c, by simpa [TenantCache.isOpen] using hc, rfl⟩
  | reorder slots pools keys =>
    cases h
    exact .inr (.inl ⟨slots, pools, keys, rfl⟩)
  | call c =>
    simp only [advance] at h
    split at h
    · rename_i ha
      obtain ⟨step, hstep, rfl⟩ := Option.map_eq_some_iff.mp h
      exact .inr (.inr (.inl ⟨c, step, ha, hstep, rfl⟩))
    · cases h
  | reply r =>
    obtain ⟨frame, hf, h⟩ := Option.bind_eq_some_iff.mp h
    obtain ⟨step, hstep, rfl⟩ := Option.map_eq_some_iff.mp h
    obtain ⟨frames, hframes⟩ := List.head?_eq_some_iff.mp hf
    exact .inr (.inr (.inr ⟨frame, frames, r, step, hframes, hstep, rfl⟩))

theorem Takes.runFrom (h : s.Takes deed r s') : ∃ m, s.runFrom [m] = some s' := by
  obtain ⟨m, hm, -⟩ := h
  refine ⟨m, ?_⟩
  rw [History.runFrom, List.foldlM_cons, hm]
  rfl

theorem Takes.of_call (h : s.Takes (.call call) r s') : ∃ step, s.allows call = true ∧
    s.desk.call call = some step ∧ r = step.2 ∧ s' = s.record (.call call) step := by
  obtain ⟨m, hm, he⟩ := h
  obtain ⟨c, -, rfl⟩ | ⟨_, _, _, rfl⟩ | ⟨call', step, ha, hstep, rfl⟩ |
    ⟨_, _, _, step, -, -, rfl⟩ := advance_cases hm
  · simp [record] at he
  · simp [record] at he
  · obtain ⟨rfl, -, hr⟩ : call' = call ∧ _ ∧ step.2 = r := by simpa [record] using he
    exact ⟨step, ha, hstep, hr.symm, rfl⟩
  · simp [record] at he

theorem Takes.of_answer {frame : Frame} {reply : Reply} (h : s.Takes (.answer frame reply) r s') :
    ∃ frames step, s.desk.frames = frame :: frames ∧ s.desk.reply reply = some step ∧
      r = step.2 ∧ s' = s.record (.answer frame reply) step := by
  obtain ⟨m, hm, he⟩ := h
  obtain ⟨c, -, rfl⟩ | ⟨_, _, _, rfl⟩ | ⟨_, step, -, -, rfl⟩ |
    ⟨f, frames, reply', step, hf, hstep, rfl⟩ := advance_cases hm
  · simp [record] at he
  · simp [record] at he
  · simp [record] at he
  · obtain ⟨⟨rfl, rfl⟩, -, hr⟩ : (f = frame ∧ reply' = reply) ∧ _ ∧ step.2 = r := by
      simpa [record] using he
    exact ⟨frames, step, hf, hstep, hr.symm, rfl⟩

/-- Who gets a reply goes on to an end, or to something asked for, or has got a connection. -/
theorem reply_walk {r : Reply} {frame : Frame} {frames : List Frame} {kept : List Thing}
    {d : Desk} {news : List (Nat × Snapshot)} {step : Desk × Request}
    (hs : Sound kept ⟨d, [], news⟩) (hf : d.frames = frame :: frames) (h : d.reply r = some step) :
    Walk (d.errand (.answer frame r)) kept ⟨d, [], news⟩
      (Event.entries ⟨.answer frame r, d.learns (.answer frame r), step.2⟩)
      ⟨step.1, step.2.things, (d.learns (.answer frame r)).toList ++ news⟩ := by
  obtain ⟨hother, hleads⟩ | ⟨pool, connection, credentials, rfl, rfl, hn, rfl⟩ :=
    reply_leads hs hf h
  · have hentries : Event.entries ⟨.answer frame r, d.learns (.answer frame r), step.2⟩ =
        step.2.entries := by
      unfold Event.entries
      split
      · rename_i heq _
        cases heq
        exact absurd rfl (hother _ rfl)
      · rfl
    rw [hentries]
    exact hleads.walk
  · exact .last .refl (.connect hf hn)

/-- One step of a run: callers hand something over, the operation goes its way, and they get what
it has in hand at the end. -/
theorem advance_walk {m : Move} (h : s.advance m = some s')
    (hs : Sound s.kept ⟨s.desk, [], s.news⟩) :
    ∃ e given got rest, s'.events = e :: s.events ∧ s.kept.Perm (given ++ rest) ∧
      s'.kept = got ++ rest ∧
      Walk (s.desk.errand e.deed) rest ⟨s.desk, given, s.news⟩ e.entries
        ⟨s'.desk, got, s'.news⟩ := by
  obtain ⟨c, hc, rfl⟩ | ⟨slots, pools, keys, rfl⟩ | ⟨call, step, ha, hstep, rfl⟩ |
    ⟨frame, frames, r, step, hf, hstep, rfl⟩ := advance_cases h
  · exact ⟨_, [], [.cache _], s.kept, rfl, List.Perm.refl _, rfl, .quiet (.single (.add c hc))⟩
  · exact ⟨_, [], [], s.kept, rfl, List.Perm.refl _, rfl,
      .quiet (.single (.reorder slots pools keys))⟩
  · exact ⟨_, call.things, step.2.things, _, rfl, things_of_allows ha, rfl,
      call_walk (sound_allowed ha hs) (fun n hn => (kept_of_allows ha hn).2)
        (fun n hn => cache_kept ha hn) hstep⟩
  · refine ⟨_, [], step.2.things, s.kept, rfl, List.Perm.refl _, rfl, ?_⟩
    have hnews : (s.record (.answer frame r) step).news =
        (s.desk.learns (.answer frame r)).toList ++ s.news := by
      simp only [news, record, List.filterMap_cons]
      cases s.desk.learns (.answer frame r) <;> rfl
    rw [hnews]
    exact reply_walk hs hf hstep

/-- Only who asks for it is on the errand to trim a pool. -/
theorem trims_of_errand {m : Move} {e : Event} (h : s.advance m = some s')
    (he : s'.events = e :: s.events) (hn : s.desk.errand e.deed = .trim n) : m.Trims n := by
  obtain ⟨deed, learned, request⟩ := e
  cases m with
  | make c =>
    simp only [advance] at h
    split at h
    · cases h
    · cases h
      obtain ⟨rfl, -⟩ : .make (s.desk.add c).2 = deed ∧ _ := by simpa [record] using he
      cases hn
  | reorder slots pools keys =>
    cases h
    obtain ⟨rfl, -⟩ : .reorder = deed ∧ _ := by simpa [record] using he
    cases hn
  | call call =>
    simp only [advance] at h
    split at h
    · obtain ⟨step, -, rfl⟩ := Option.map_eq_some_iff.mp h
      obtain ⟨rfl, -⟩ : .call call = deed ∧ _ := by simpa [record] using he
      cases call with
      | trim | shrink =>
        cases hn
        rfl
      | _ => cases hn
    · cases h
  | reply r =>
    obtain ⟨frame, -, h⟩ := Option.bind_eq_some_iff.mp h
    obtain ⟨step, -, rfl⟩ := Option.map_eq_some_iff.mp h
    obtain ⟨rfl, -⟩ : .answer frame r = deed ∧ _ := by simpa [record] using he
    cases frame with
    | authenticating _ _ _ purpose | sleeping _ _ _ purpose => cases purpose <;> cases hn
    | _ =>
      simp only [errand, Frame.errand] at hn
      split at hn <;> cases hn

/-- What every change keeps of a sound desk and of what the connector has done, and what does not
depend on whether callers have a thing or the operation has it in hand, a step of a run keeps. -/
theorem advance_keeps {P : List Entry → List Thing → Scene → Prop} {m : Move}
    (hact : ∀ {log errand kept x entries y}, (∀ n, errand = .trim n → m.Trims n) →
      Act errand kept x entries y → Sound kept x → P log kept x → P (entries ++ log) kept y)
    (hmove : ∀ {log kept kept' hand hand' d news}, (kept ++ hand).Perm (kept' ++ hand') →
      P log kept ⟨d, hand, news⟩ → P log kept' ⟨d, hand', news⟩)
    (hs : Sound s.kept ⟨s.desk, [], s.news⟩) (h : s.advance m = some s')
    (hp : P s.log s.kept ⟨s.desk, [], s.news⟩) :
    Sound s'.kept ⟨s'.desk, [], s'.news⟩ ∧ P s'.log s'.kept ⟨s'.desk, [], s'.news⟩ := by
  obtain ⟨e, given, got, rest, he, hperm, hkept, hwalk⟩ := advance_walk h hs
  -- what callers give goes into the hand before the step, and what they get out of it afterwards
  have hgive : (s.kept ++ []).Perm (rest ++ given) := by
    rw [List.append_nil]
    exact hperm.trans List.perm_append_comm
  have hget : (rest ++ got).Perm (s'.kept ++ []) := by
    rw [hkept, List.append_nil]
    exact List.perm_append_comm
  have hlog : s'.log = e.entries ++ s.log := by rw [log, he, List.flatMap_cons, log]
  rw [hlog]
  obtain ⟨hsound, hlast⟩ := hwalk.keeps (P := fun log x => Sound rest x ∧ P log rest x) s.log
    (fun ha hx => ⟨ha.sound hx.1, hact (fun n => trims_of_errand h he) ha hx.1 hx.2⟩)
    ⟨hs.move hgive, hmove hgive hp⟩
  exact ⟨hsound.move hget, hmove hget hlast⟩

theorem sound_advance {m : Move} (hs : Sound s.kept ⟨s.desk, [], s.news⟩)
    (h : s.advance m = some s') : Sound s'.kept ⟨s'.desk, [], s'.news⟩ :=
  (advance_keeps (P := fun _ _ _ => True) (fun _ _ _ _ => trivial) (fun _ _ => trivial) hs h
    trivial).1

/-- In a run in which nobody trims those caches, no change is on an errand to do so. -/
theorem runFrom_untrimmed {P : List Entry → List Thing → Scene → Prop} {idle : List Nat}
    (hidle : ∀ m ∈ moves, ∀ n ∈ idle, ¬ m.Trims n)
    (hact : ∀ {log errand kept x entries y}, (∀ n ∈ idle, errand ≠ .trim n) →
      Act errand kept x entries y → Sound kept x → P log kept x → P (entries ++ log) kept y)
    (hmove : ∀ {log kept kept' hand hand' d news}, (kept ++ hand).Perm (kept' ++ hand') →
      P log kept ⟨d, hand, news⟩ → P log kept' ⟨d, hand', news⟩)
    (hs : Sound s.kept ⟨s.desk, [], s.news⟩) (hp : P s.log s.kept ⟨s.desk, [], s.news⟩)
    (hr : s.runFrom moves = some s') :
    Sound s'.kept ⟨s'.desk, [], s'.news⟩ ∧ P s'.log s'.kept ⟨s'.desk, [], s'.news⟩ :=
  foldlM_invariant (P := fun s : History => Sound s.kept ⟨s.desk, [], s.news⟩ ∧
      P s.log s.kept ⟨s.desk, [], s.news⟩) ⟨hs, hp⟩
    (fun m hm _ _ ht hstep => advance_keeps
      (fun htrims => hact fun n hn he => hidle m hm n hn (htrims n he)) hmove ht.1 hstep ht.2) hr

theorem runFrom_invariant {P : List Entry → List Thing → Scene → Prop}
    (hact : ∀ {log errand kept x entries y}, Act errand kept x entries y → Sound kept x →
      P log kept x → P (entries ++ log) kept y)
    (hmove : ∀ {log kept kept' hand hand' d news}, (kept ++ hand).Perm (kept' ++ hand') →
      P log kept ⟨d, hand, news⟩ → P log kept' ⟨d, hand', news⟩)
    (hs : Sound s.kept ⟨s.desk, [], s.news⟩) (hp : P s.log s.kept ⟨s.desk, [], s.news⟩)
    (hr : s.runFrom moves = some s') :
    Sound s'.kept ⟨s'.desk, [], s'.news⟩ ∧ P s'.log s'.kept ⟨s'.desk, [], s'.news⟩ := by
  have hnone : ∀ m ∈ moves, ∀ n ∈ ([] : List Nat), ¬ m.Trims n := by simp
  exact runFrom_untrimmed hnone (fun _ => hact) hmove hs hp hr

theorem sound_runFrom (hs : Sound s.kept ⟨s.desk, [], s.news⟩)
    (hr : s.runFrom moves = some s') : Sound s'.kept ⟨s'.desk, [], s'.news⟩ :=
  (runFrom_invariant (P := fun _ _ _ => True) (fun _ _ _ => trivial) (fun _ _ => trivial) hs
    trivial hr).1

theorem sound_of_run (hs : run providers moves = some s) : Sound s.kept ⟨s.desk, [], s.news⟩ :=
  sound_runFrom (s := ⟨{ providers }, []⟩) (sound_start providers) hs

/-- Beside what is sound throughout, something else that every change keeps. -/
theorem runFrom_keeps {P : List Thing → Scene → Prop}
    (hact : ∀ {errand kept x entries y}, Act errand kept x entries y → Sound kept x →
      P kept x → P kept y)
    (hmove : ∀ {kept kept' hand hand' d news}, (kept ++ hand).Perm (kept' ++ hand') →
      P kept ⟨d, hand, news⟩ → P kept' ⟨d, hand', news⟩)
    (hstart : P s.kept ⟨s.desk, [], s.news⟩) (hsound : Sound s.kept ⟨s.desk, [], s.news⟩)
    (hr : s.runFrom moves = some s') : P s'.kept ⟨s'.desk, [], s'.news⟩ :=
  (runFrom_invariant (P := fun _ kept x => P kept x) hact hmove hsound hstart hr).2

/-- Nobody uses an open cache to open it. -/
theorem not_opening (hs : Sound s.kept ⟨s.desk, [], s.news⟩) (hc : s.desk.cache? n = some c)
    (ho : c.isOpen = true) : n ∉ s.desk.openings := by
  intro hn
  obtain ⟨k, hk, hopened⟩ := hs.closed n hn
  obtain rfl := Option.some.inj (hk.symm.trans hc)
  simp [TenantCache.isOpen, hopened] at ho

/-- Only a call tells that it never came to a pool, and it tells so at once. -/
theorem Takes.unplaced (hs : run providers moves = some s) (h : s.Takes deed r s')
    (hr : r.isUnplaced = true) : ∃ call n c error, deed = .call call ∧ call.cache? = some n ∧
      s.desk.cache? n = some c ∧ call.place? c = some (.error error) ∧
      r = .done (.failed error) ∧ s'.desk = s.desk := by
  have hsound := sound_of_run hs
  obtain ⟨m, hm, he⟩ := h
  obtain ⟨c, hc, rfl⟩ | ⟨_, _, _, rfl⟩ | ⟨call, step, ha, hstep, rfl⟩ |
    ⟨frame, frames, reply, step, hf, hstep, rfl⟩ := advance_cases hm
  · obtain ⟨-, -, rfl⟩ : _ ∧ _ ∧ .done (.cached s.desk.caches.length) = r := by
      simpa [record] using he
    cases hr
  · obtain ⟨-, -, rfl⟩ : _ ∧ _ ∧ .done .nothing = r := by simpa [record] using he
    cases hr
  · obtain ⟨rfl, -, rfl⟩ : .call call = deed ∧ _ ∧ step.2 = r := by simpa [record] using he
    obtain ⟨-, hplaced, -⟩ | ⟨n, c, error, hcache, hc, hplace, rfl⟩ :=
      call_leads (sound_allowed ha hsound) (fun n hn => (kept_of_allows ha hn).2)
        (fun n hn => cache_kept ha hn) hstep
    · rw [hr] at hplaced
      cases hplaced
    · exact ⟨call, n, c, error, rfl, hcache, hc, hplace, rfl, rfl⟩
  · obtain ⟨-, -, rfl⟩ : _ ∧ _ ∧ step.2 = r := by simpa [record] using he
    obtain ⟨-, hleads⟩ | ⟨_, _, _, _, _, _, rfl⟩ := reply_leads hsound hf hstep
    · rw [hleads.placed] at hr
      cases hr
    · cases hr

end History
end Tenancy.Desk
