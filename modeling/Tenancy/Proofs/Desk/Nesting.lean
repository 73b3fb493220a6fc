import Tenancy.Proofs.Desk.Stack

namespace Tenancy.Desk

variable {d d' d'' : Desk} {step : Desk × Request} {n : Nat} {c : TenantCache} {closed : Nat}
  {outcome : Outcome} {after : After} {reaction : Yard.Reaction} {f : Frame}
  {frames : List Frame} {key : Key} {pools : List Nat} {purpose : Purpose} {catalog : Catalog}
  {bounds : PoolBounds} {tries : UInt32} {result : Except TenantError Unit}

/-- What waited before waits still, with nothing but new things above it. -/
def Above (d d' : Desk) : Prop := d.frames <:+ d'.frames ∧ d.yard.tasks <:+ d'.yard.tasks

theorem Above.refl (d : Desk) : Above d d := ⟨List.suffix_refl _, List.suffix_refl _⟩

theorem Above.trans (h : Above d d') (h' : Above d' d'') : Above d d'' :=
  ⟨h.1.trans h'.1, h.2.trans h'.2⟩

theorem above_of_eq (hf : d'.frames = d.frames) (ht : d'.yard.tasks = d.yard.tasks) :
    Above d d' :=
  ⟨by simp [hf], by simp [ht]⟩

theorem above_push (d : Desk) (f : Frame) : Above d (d.push f) :=
  ⟨List.suffix_cons _ _, List.suffix_refl _⟩

theorem above_record (d : Desk) (version : IdentityVersion)
    (result : Except CatalogError Snapshot) : Above d (d.record version result) := by
  cases result with
  | ok s => exact .refl d
  | error error => exact .refl d

theorem above_openTenant (d : Desk) (n : Nat) (c : TenantCache) (catalog : Catalog)
    (bounds : PoolBounds) (s : Snapshot) (project : Project) :
    Above d (d.openTenant n c catalog bounds s project) :=
  above_of_eq rfl (work_openTenant d n c catalog bounds s project).1

theorem tasks_of_call {y : Yard} {call : Yard.Call} {next : Yard × Yard.Reaction}
    (h : y.call call = some next) : y.tasks <:+ next.1.tasks := by
  obtain ⟨p, p', new, -, -, -, htasks⟩ := Yard.call_stride h
  exact ⟨new, htasks.symm⟩

theorem ask_above (h : d.ask reaction = some step) : Above d step.1 := by
  obtain ⟨f, -, hstep, -⟩ := ask_passing h
  rw [hstep]
  exact above_push d f

theorem drainUntil_above (d : Desk) (closed : Nat) (pools : List Nat) :
    Above d { d with yard := (drainUntil d.yard closed pools).1 } := by
  suffices h : ∀ (y : Yard) (closed : Nat), y.tasks <:+ (drainUntil y closed pools).1.tasks from
    ⟨List.suffix_refl _, h d.yard closed⟩
  induction pools with
  | nil => exact fun y _ => List.suffix_refl _
  | cons pool rest ih =>
    intro y closed
    unfold drainUntil
    split
    · exact ih y closed
    · rename_i hdrain
      exact (tasks_of_call hdrain).trans (ih _ _)
    · rename_i hdrain
      exact tasks_of_call hdrain

theorem sweep_above {keys : List Key} (h : d.sweep closed keys = some step) : Above d step.1 := by
  induction keys generalizing d closed with
  | nil =>
    cases h
    exact .refl d
  | cons key keys ih =>
    unfold sweep at h
    split at h
    · exact ih h
    · rename_i n hn
      have hdrain := drainUntil_above d closed (d.doomedPools n)
      dsimp only at h
      split at h
      · have hrest := ih h
        exact hdrain.trans hrest
      · have hpush := (above_push _ _).trans (ask_above h)
        exact hdrain.trans hpush

theorem conclude_above (h : d.conclude closed after = some step) : Above d step.1 := by
  cases after with
  | answer outcome | shutDown n | evicted n =>
    cases h
    exact .refl d
  | sweep n keys => exact sweep_above (d := d.letGo n) h

theorem drainPools_above (h : d.drainPools closed pools after = some step) : Above d step.1 := by
  simp only [drainPools] at h
  have hdrain := drainUntil_above d closed pools
  split at h
  · exact hdrain.trans (conclude_above h)
  · exact hdrain.trans ((above_push _ _).trans (ask_above h))

theorem leave_above (h : d.leave n outcome = some step) : Above d step.1 := by
  simp only [leave] at h
  split at h
  · exact drainPools_above (d := d.letGo n) h
  · cases h
    exact .refl d

/-- The desk without the operation on top. -/
def uncovered (d : Desk) : Desk := { d with frames := d.frames.tail }

theorem uncovered_above (d : Desk) : Above d.uncovered d :=
  ⟨List.tail_suffix _, List.suffix_refl _⟩

/-- A step of the yard ends at most the operation on top. -/
theorem react_above (h : d.react reaction = some step) : Above d.uncovered step.1 := by
  cases reaction with
  | done o =>
    simp only [react] at h
    split at h
    · rename_i n below hf
      have hleave := leave_above h
      rwa [show below = d.frames.tail by rw [hf]; rfl] at hleave
    · rename_i rest closed after below hf
      split at h
      · have hdrain := drainPools_above h
        rwa [show below = d.frames.tail by rw [hf]; rfl] at hdrain
      · cases h
    · cases h
  | allocate | destroy | work =>
    simp only [react] at h
    exact d.uncovered_above.trans (ask_above h)

theorem callYard_above {call : Yard.Call} (h : d.callYard call = some step) :
    Above d.uncovered step.1 := by
  obtain ⟨⟨yard, reaction⟩, hy, h⟩ := Option.bind_eq_some_iff.mp h
  have hcall : Above d.uncovered (uncovered { d with yard }) :=
    ⟨List.suffix_refl _, tasks_of_call hy⟩
  exact hcall.trans (react_above h)

theorem replyYard_above {reply : Yard.Reply} (h : d.replyYard reply = some step) :
    Above { d.uncovered with yard := { d.yard with tasks := d.yard.tasks.tail } } step.1 := by
  obtain ⟨⟨yard, reaction⟩, hy, h⟩ := Option.bind_eq_some_iff.mp h
  obtain ⟨task, ht, -⟩ := Option.bind_eq_some_iff.mp hy
  obtain ⟨p, p', new, -, -, -, htasks⟩ := Yard.answer_stride ht hy
  rw [List.eraseIdx_zero] at htasks
  have hreply : Above { d.uncovered with yard := { d.yard with tasks := d.yard.tasks.tail } }
      (uncovered { d with yard }) := ⟨List.suffix_refl _, new, htasks.symm⟩
  exact hreply.trans (react_above h)

theorem onPool_above {place : Except TenantError Nat} {call : Nat → Yard.Call}
    (h : d.onPool n place call = some step) : Above d step.1 := by
  cases place with
  | error error => exact leave_above (d := d.hold n) h
  | ok pool => exact callYard_above (d := (d.hold n).push (.inPool n)) h

theorem release_above {region : String} {lease : Lease}
    (h : d.release n c region lease = some step) : Above d step.1 := by
  unfold release at h
  split at h
  · cases h
    exact .refl d
  · split at h
    · exact onPool_above h
    · split at h
      · exact onPool_above (d := d.note .wrongRegion) h
      · cases h
        exact .refl d

theorem evict_above (h : d.evict key = some step) : Above d step.1 := by
  unfold evict at h
  split at h
  · cases h
    exact .refl d
  · rename_i n _
    exact drainPools_above (d := { d with registry := d.registry.filter _ }) h

theorem finish_above (h : d.finish n result purpose = some step) : Above d step.1 := by
  cases purpose with
  | report | explain =>
    cases result with
    | ok u | error error =>
      cases h
      exact .refl d
  | register key =>
    cases result with
    | error error => exact leave_above h
    | ok u =>
      simp only [finish] at h
      split at h
      · exact leave_above (d := d.hold _) h
      · cases h
        exact .refl d

theorem judge_above {result : Except CatalogError Snapshot}
    (h : d.judge n c bounds catalog tries purpose result = some step) : Above d step.1 := by
  have hrec := above_record d catalog.version result
  obtain ⟨error, rfl, h⟩ | ⟨error, wait, rfl, -, rfl⟩ | ⟨s, rfl, h⟩ := judge_cases h
  · exact hrec.trans (finish_above h)
  · exact hrec.trans (above_push _ _)
  · exact hrec.trans ((above_openTenant ..).trans (finish_above h))

theorem attempt_above (h : d.attempt n c bounds catalog tries purpose = some step) :
    Above d step.1 := by
  unfold attempt at h
  split at h
  · exact judge_above (d := d.count _) h
  · cases h
    exact above_push d _

theorem startInit_above (h : d.startInit n c purpose = some step) : Above d step.1 := by
  unfold startInit at h
  split at h
  · exact finish_above h
  · split at h
    · exact finish_above h
    · split at h
      · exact finish_above (d := d.note .unsupportedVersion) h
      · exact attempt_above h

theorem getOrOpen_above (h : d.getOrOpen key = some step) : Above d step.1 := by
  obtain ⟨n, -, rfl⟩ | ⟨error, -, rfl⟩ | ⟨source, p, t, -, -, h⟩ := getOrOpen_cases h
  · exact .refl d
  · exact .refl d
  · exact startInit_above (d := (d.add (TenantCache.ofConfig source p t)).1) h

theorem refresh_above (h : d.refresh n c = some step) : Above d step.1 := by
  unfold refresh at h
  split at h
  · cases h
    exact .refl d
  · split at h
    · cases h
      exact above_record d _ _
    · cases h
      exact above_push d _

theorem refreshed_above {now : Instant} {answer : Except IdentityError Grant} {o : OpenTenant}
    (h : d.refreshed n o c now answer = some step) : Above d step.1 := by
  simp only [refreshed] at h
  have hrec := above_record d o.catalog.version (o.catalog.evaluate now answer)
  split at h
  · exact hrec.trans (leave_above h)
  · rename_i s _
    exact hrec.trans (leave_above (d := (d.record _ _).setCache n (c.publish s)) h)

/-- What begins leaves all that waits. -/
theorem call_above {call : Call} (h : d.call call = some step) : Above d step.1 := by
  cases call with
  | openCache n | tryOpenCache n =>
    simp only [Desk.call] at h
    split at h
    · cases h
    · obtain ⟨c, -, h⟩ := Option.bind_eq_some_iff.mp h
      exact startInit_above h
  | getOrOpen key => exact getOrOpen_above h
  | get key =>
    simp only [Desk.call] at h
    split at h
    · cases h
      exact .refl d
    · cases h
      exact .refl d
  | evict key => exact evict_above h
  | shutDownAll => exact sweep_above h
  | drop n => exact leave_above h
  | reserve n region | withConnection n url | trim n region count | shrink n region
  | drain n region =>
    obtain ⟨c, -, h⟩ := Option.bind_eq_some_iff.mp h
    exact onPool_above h
  | release n region lease =>
    obtain ⟨c, -, h⟩ := Option.bind_eq_some_iff.mp h
    exact release_above h
  | shutDown n => exact drainPools_above (d := d.hold n) h
  | refresh n =>
    obtain ⟨c, -, h⟩ := Option.bind_eq_some_iff.mp h
    exact refresh_above h

/-- Who waited with nothing beneath goes on alone. -/
theorem reply_plain_above {reply : Reply} (hd : d.frames = f :: frames) (hf : f.isPlain = true)
    (h : d.reply reply = some step) : Above { d with frames } step.1 := by
  simp only [Desk.reply, hd] at h
  cases f with
  | connecting | loggingIn | abandoning | closing | working => cases hf
  | inPool | draining => cases reply <;> cases h
  | authenticating n catalog tries purpose =>
    cases reply with
    | answered now answer =>
      obtain ⟨c, -, h⟩ := Option.bind_eq_some_iff.mp h
      obtain ⟨bounds, -, h⟩ := Option.bind_eq_some_iff.mp h
      exact judge_above h
    | succeeded | failed | slept | finished | unwind => cases h
  | sleeping n catalog tries purpose =>
    cases reply with
    | slept =>
      obtain ⟨c, -, h⟩ := Option.bind_eq_some_iff.mp h
      obtain ⟨bounds, -, h⟩ := Option.bind_eq_some_iff.mp h
      exact attempt_above h
    | succeeded | failed | answered | finished | unwind => cases h
  | refreshing n =>
    cases reply with
    | answered now answer =>
      obtain ⟨c, -, h⟩ := Option.bind_eq_some_iff.mp h
      obtain ⟨o, -, h⟩ := Option.bind_eq_some_iff.mp h
      exact refreshed_above h
    | succeeded | failed | slept | finished | unwind => cases h

/-- Who waited for a task of the yard takes it off, and ends at most the operation beneath. -/
theorem reply_waits_above {reply : Reply} (hd : d.frames = f :: frames) (hf : f.isPlain = false)
    (h : d.reply reply = some step) :
    frames.tail <:+ step.1.frames ∧ d.yard.tasks.tail <:+ step.1.yard.tasks := by
  have hyard {e : Desk} {yardReply : Yard.Reply} (hframes : e.frames = frames)
      (htasks : e.yard.tasks = d.yard.tasks) (h : e.replyYard yardReply = some step) :
      frames.tail <:+ step.1.frames ∧ d.yard.tasks.tail <:+ step.1.yard.tasks := by
    have habove := replyYard_above h
    rwa [Above, uncovered, hframes, htasks] at habove
  simp only [Desk.reply, hd] at h
  cases f with
  | connecting pool =>
    cases reply with
    | succeeded =>
      obtain ⟨c, -, h⟩ := Option.bind_eq_some_iff.mp h
      obtain ⟨p, -, h⟩ := Option.bind_eq_some_iff.mp h
      cases h
      exact ⟨(List.tail_suffix _).trans (List.suffix_cons _ _), List.tail_suffix _⟩
    | failed => exact hyard (e := note { d with frames } .connectFailed) rfl rfl h
    | unwind => exact hyard (e := { d with frames }) rfl rfl h
    | answered | slept | finished => cases h
  | loggingIn connection =>
    cases reply with
    | succeeded =>
      exact hyard (e := { d with frames, connections := d.connections ++ [connection] }) rfl rfl h
    | failed =>
      cases h
      exact ⟨(List.tail_suffix _).trans (List.suffix_cons _ _), List.tail_suffix _⟩
    | answered | slept | finished | unwind => cases h
  | abandoning =>
    cases reply with
    | succeeded | failed => exact hyard (e := { d with frames }) rfl rfl h
    | answered | slept | finished | unwind => cases h
  | closing =>
    cases reply with
    | succeeded => exact hyard (e := { d with frames }) rfl rfl h
    | failed => exact hyard (e := note { d with frames } .closeFailed) rfl rfl h
    | answered | slept | finished | unwind => cases h
  | working =>
    cases reply with
    | finished | unwind => exact hyard (e := { d with frames }) rfl rfl h
    | succeeded | failed | answered | slept => cases h
  | _ => cases hf

variable {log log' : List Entry} {serves serves' : Yard.Task → Frame → Prop}
  {tasks : List Yard.Task}

/-- Each task has one frame that waits for it. -/
theorem Stacked.length_tasks (h : Stacked log serves frames tasks) :
    tasks.length = frames.countP fun f => !f.isPlain := by
  induction h with
  | nil => rfl
  | plain hf _ ih => simp [hf, ih]
  | waits hw hb _ _ ih => simp [hw.isPlain, hb, ih]

namespace History

variable {s t u : History} {moves : List Move} {providers : List Config.Provider} {b : Frame}

/-- What is done while the operation on top waits: whatever begins ends before it goes on. -/
inductive Meanwhile (s : History) : History → Prop
  | refl : Meanwhile s s
  | step {u m t} (h : Meanwhile s u) (hm : u.advance m = some t)
      (hr : ∀ r, m = .reply r → s.desk.frames.length < u.desk.frames.length) : Meanwhile s t

theorem Meanwhile.runs (h : Meanwhile s u) : ∃ moves, s.runFrom moves = some u := by
  induction h with
  | refl => exact ⟨[], rfl⟩
  | @step u m t _ hm _ ih =>
    obtain ⟨moves, hmoves⟩ := ih
    refine ⟨moves ++ [m], ?_⟩
    rw [runFrom, List.foldlM_append, show moves.foldlM advance s = some u from hmoves]
    simp [hm]

/-- A reply to what is above leaves alone what waits below. -/
theorem reply_above {reply : Reply} {e : Desk} {g : Frame} {below : List Frame}
    {step : Desk × Request} (hs : Stacked log serves s.desk.frames s.desk.yard.tasks)
    (hf : s.desk.frames = f :: frames) (hw : f.isPlain = false) (ha : Above s.desk e)
    (he : e.frames = g :: below) (hl : s.desk.frames.length < e.frames.length)
    (hu : Stacked log' serves' e.frames e.yard.tasks) (h : e.reply reply = some step) :
    Above s.desk step.1 := by
  obtain ⟨hframes, htasks⟩ := ha
  have hbelow : s.desk.frames <:+ below := by
    rw [he] at hframes hl
    refine (List.suffix_cons_iff.mp hframes).resolve_left fun heq => ?_
    rw [heq] at hl
    exact Nat.lt_irrefl _ hl
  by_cases hg : g.isPlain = true
  · obtain ⟨hf', ht'⟩ := reply_plain_above he hg h
    exact ⟨hbelow.trans hf', htasks.trans ht'⟩
  · rw [he] at hu
    obtain ⟨b, under, task, rest, rfl, hrest, -, hb, -, hu⟩ := hu.of_waits (by simpa using hg)
    obtain ⟨hf', ht'⟩ := reply_waits_above he (by simpa using hg) h
    have hunder : s.desk.frames <:+ under := by
      refine (List.suffix_cons_iff.mp hbelow).resolve_left fun heq => ?_
      cases hf.symm.trans heq
      cases hw.symm.trans hb
    -- each task below has its frame below
    have hless : s.desk.yard.tasks.length ≤ rest.length := by
      rw [hs.length_tasks, hu.length_tasks]
      exact hunder.sublist.countP_le
    have hbeneath : s.desk.yard.tasks <:+ rest := by
      rw [hrest] at htasks
      refine (List.suffix_cons_iff.mp htasks).resolve_left fun heq => ?_
      rw [heq] at hless
      exact Nat.not_succ_le_self _ hless
    rw [hrest] at ht'
    exact ⟨hunder.trans hf', hbeneath.trans ht'⟩

/-- What waits for a reply waits as it did, whatever goes on meanwhile. -/
theorem Meanwhile.above (hs : run providers moves = some s) (hf : s.desk.frames = f :: frames)
    (hw : f.isPlain = false) (h : Meanwhile s u) : Above s.desk u.desk := by
  induction h with
  | refl => exact .refl _
  | @step u m t h hm hr ih =>
    cases m with
    | make c =>
      simp only [advance] at hm
      split at hm
      · cases hm
      · cases hm
        exact ih
    | reorder slots pools keys =>
      cases hm
      exact ih
    | call c =>
      simp only [advance] at hm
      split at hm
      · obtain ⟨step, hstep, rfl⟩ := Option.map_eq_some_iff.mp hm
        exact ih.trans (call_above hstep)
      · cases hm
    | reply r =>
      obtain ⟨g, hg, hm⟩ := Option.bind_eq_some_iff.mp hm
      obtain ⟨step, hstep, rfl⟩ := Option.map_eq_some_iff.mp hm
      obtain ⟨below, hbelow⟩ := List.head?_eq_some_iff.mp hg
      obtain ⟨more, hmore⟩ := h.runs
      exact reply_above (ordered_of_run hs).stacked hf hw ih hbelow (hr r rfl)
        (ordered_of_run ((run_append hs).trans hmore)).stacked hstep

/-- Where the frames are the same again, the tasks are. -/
theorem Meanwhile.same_tasks (hs : run providers moves = some s) (hf : s.desk.frames = f :: frames)
    (hw : f.isPlain = false) (h : Meanwhile s u) (hu : u.desk.frames = s.desk.frames) :
    u.desk.yard.tasks = s.desk.yard.tasks := by
  obtain ⟨more, hmore⟩ := h.runs
  refine ((h.above hs hf hw).2.eq_of_length ?_).symm
  rw [(ordered_of_run hs).stacked.length_tasks,
    (ordered_of_run ((run_append hs).trans hmore)).stacked.length_tasks, hu]

end History
end Tenancy.Desk
