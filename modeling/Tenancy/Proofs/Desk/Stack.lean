import Tenancy.Proofs.Desk.Retired

namespace Tenancy.Desk

variable {errand : Errand} {kept hand : List Thing} {d : Desk} {news : List (Nat × Snapshot)}
  {log log' entries : List Entry} {x y : Scene} {n m : Nat} {f b : Frame}
  {frames below : List Frame} {task : Yard.Task} {tasks new : List Yard.Task}
  {serves serves' : Yard.Task → Frame → Prop}

/-- The frame gets the reply to the task. A connection that logs in was made for the pool that the
task is about. -/
inductive Awaits (log : List Entry) : Frame → Yard.Task → Prop
  | connecting (m slot : Nat) (use : Yard.Use) :
      Awaits log (.connecting m) (.allocating m slot use)
  | loggingIn {m : Nat} {connection : Connection} (slot : Nat) (use : Yard.Use)
      (h : .connected m connection ∈ log) :
      Awaits log (.loggingIn connection) (.allocating m slot use)
  | abandoning (m slot : Nat) (use : Yard.Use) : Awaits log .abandoning (.allocating m slot use)
  | discarding (m : Nat) : Awaits log .closing (.discarding m)
  | destroying (m : Nat) (rest : List Nat) (total : Nat) :
      Awaits log .closing (.destroying m rest total)
  | working (m slot : Nat) : Awaits log .working (.holding m slot)

/-- The frames and the tasks they wait for, where whoever waits for a task serves the operation
beneath. -/
inductive Stacked (log : List Entry) (serves : Yard.Task → Frame → Prop) :
    List Frame → List Yard.Task → Prop
  | nil : Stacked log serves [] []
  | plain {f : Frame} {frames : List Frame} {tasks : List Yard.Task} (hf : f.isPlain = true)
      (h : Stacked log serves frames tasks) : Stacked log serves (f :: frames) tasks
  | waits {f b : Frame} {frames : List Frame} {task : Yard.Task} {tasks : List Yard.Task}
      (hf : Awaits log f task) (hb : b.isPlain = true) (hs : serves task b)
      (h : Stacked log serves frames tasks) :
      Stacked log serves (f :: b :: frames) (task :: tasks)

theorem Awaits.mono (h : Awaits log f task) (hl : log ⊆ log') : Awaits log' f task := by
  cases h with
  | connecting m slot use => exact .connecting m slot use
  | loggingIn slot use h => exact .loggingIn slot use (hl h)
  | abandoning m slot use => exact .abandoning m slot use
  | discarding m => exact .discarding m
  | destroying m rest total => exact .destroying m rest total
  | working m slot => exact .working m slot

theorem Awaits.isPlain (h : Awaits log f task) : f.isPlain = false := by
  cases h <;> rfl

theorem Stacked.mono (h : Stacked log serves frames tasks) (hl : log ⊆ log')
    (hs : ∀ task b, serves task b → serves' task b) : Stacked log' serves' frames tasks := by
  induction h with
  | nil => exact .nil
  | plain hf _ ih => exact .plain hf ih
  | waits hf hb hserves _ ih => exact .waits (hf.mono hl) hb (hs _ _ hserves) ih

theorem Stacked.of_plain (h : Stacked log serves (f :: frames) tasks) (hf : f.isPlain = true) :
    Stacked log serves frames tasks := by
  cases h with
  | plain _ h => exact h
  | waits hw => cases hw.isPlain.symm.trans hf

/-- What gets a reply from the yard stands on the operation that goes on with it. -/
theorem Stacked.of_waits (h : Stacked log serves (f :: frames) tasks) (hf : f.isPlain = false) :
    ∃ b below task rest, frames = b :: below ∧ tasks = task :: rest ∧ Awaits log f task ∧
      b.isPlain = true ∧ serves task b ∧ Stacked log serves below rest := by
  cases h with
  | plain hp => cases hf.symm.trans hp
  | waits hw hb hs h => exact ⟨_, _, _, _, rfl, rfl, hw, hb, hs, h⟩

theorem Stacked.exists_serves (h : Stacked log serves frames tasks) (ht : task ∈ tasks) :
    ∃ b ∈ frames, serves task b := by
  induction h with
  | nil => cases ht
  | plain _ _ ih =>
    obtain ⟨b, hb, hs⟩ := ih ht
    exact ⟨b, List.mem_cons_of_mem _ hb, hs⟩
  | @waits f b _ _ _ _ _ hs _ ih =>
    rcases List.mem_cons.mp ht with rfl | ht
    · exact ⟨b, by simp, hs⟩
    · obtain ⟨b, hb, hs⟩ := ih ht
      exact ⟨b, by simp [hb], hs⟩

theorem Stacked.exists_awaits (h : Stacked log serves frames tasks) (hm : f ∈ frames)
    (hf : f.isPlain = false) : ∃ task ∈ tasks, Awaits log f task := by
  induction h with
  | nil => cases hm
  | plain hp _ ih =>
    rcases List.mem_cons.mp hm with rfl | hm
    · cases hf.symm.trans hp
    · exact ih hm
  | waits hw hb _ _ ih =>
    rcases List.mem_cons.mp hm with rfl | hm
    · exact ⟨_, List.mem_cons_self, hw⟩
    · rcases List.mem_cons.mp hm with rfl | hm
      · cases hf.symm.trans hb
      · obtain ⟨task, ht, hw⟩ := ih hm
        exact ⟨task, List.mem_cons_of_mem _ ht, hw⟩

/-- An operation goes on to wait for what the yard asks for, if it asks for anything. -/
theorem Stacked.pass {connections : List Connection} {reaction : Yard.Reaction}
    {tops : List Frame} (hx : Passing connections reaction tops entries)
    (hw : Yard.Waits n reaction new) (hb : b.isPlain = true)
    (hs : ∀ task ∈ new, serves task b) (h : Stacked log serves frames tasks) :
    Stacked log serves (tops ++ b :: frames) (new ++ tasks) := by
  cases hx with
  | done outcome =>
    cases hw
    exact .plain hb h
  | allocate pool =>
    cases hw
    exact .waits (.connecting _ _ _) hb (hs _ List.mem_cons_self) h
  | destroy hc =>
    cases hw with
    | discard => exact .waits (.discarding _) hb (hs _ List.mem_cons_self) h
    | destroy => exact .waits (.destroying _ _ _) hb (hs _ List.mem_cons_self) h
  | work lease =>
    cases hw
    exact .waits (.working _ _) hb (hs _ List.mem_cons_self) h

/-- A step of the yard keeps the tasks that it is not about where they were, and puts new ones on
top. -/
theorem Shift.stacked {deed : Yard.Deed} {yard : Yard} {reaction : Yard.Reaction}
    {made : List Connection} (hy : d.yard.Does deed (yard, reaction))
    (h : Shift d deed reaction frames made entries)
    (hd : Stacked log serves d.frames d.yard.tasks)
    (hcall : ∀ n below task, d.frames = .inPool n :: below →
      d.owners[task.pool]? = some n → serves task (.inPool n))
    (hdrain : ∀ pool rest closed closed' after below p task,
      d.frames = .draining (pool :: rest) closed after :: below →
      d.yard.pools[pool]? = some p → p.drained = false → task.pool = pool →
      serves task (.draining rest closed' after))
    (hpool : ∀ task task' b, task'.pool = task.pool → serves task b → serves task' b) :
    Stacked log serves frames yard.tasks := by
  obtain ⟨rest, hrest, p, p', new, hp, turn, -, htasks⟩ := hy.stride
  have hnew := turn.tasks_pool
  change yard.tasks = new ++ rest at htasks
  rw [htasks]
  cases h with
  | @call c n _ tops _ below hf hn hx =>
    rw [hf, hrest] at hd
    refine .pass hx turn.waits rfl (fun task ht => hcall n below task hf ?_) (hd.of_plain rfl)
    rw [hnew task ht]
    exact hn
  | @drain pool left closed closed' after _ tops _ below hf hx =>
    rw [hf, hrest] at hd
    refine .pass hx turn.waits rfl (fun task ht => ?_) (hd.of_plain rfl)
    refine hdrain pool left closed closed' after below p task hf hp ?_ (hnew task ht)
    by_contra hdrained
    rw [turn.drains.2 (by simpa using hdrained)] at ht
    cases ht
  | @answer task r f _ _ tops _ below hf hr hx =>
    rw [hf, hrest] at hd
    obtain ⟨b, under, task', tasks, rfl, htask, hw, hb, hs, hd⟩ := hd.of_waits hr.isPlain
    cases htask
    refine .pass hx turn.waits hb (fun task' ht => hpool task task' b ?_ hs) hd
    exact hnew task' ht

theorem Frame.isPlain_of_isSpent {f : Frame} (h : f.isSpent = true) : f.isPlain = true := by
  cases f with
  | draining => rfl
  | _ => exact h

theorem Begins.isPlain (h : d.Begins f) : f.isPlain = true := by
  cases h with
  | inPool | refreshing | draining => rfl
  | opening ho =>
    cases f with
    | authenticating | sleeping => rfl
    | _ => cases ho

theorem work_openTenant (d : Desk) (n : Nat) (c : TenantCache) (catalog : Catalog)
    (bounds : PoolBounds) (s : Snapshot) (project : Project) :
    (d.openTenant n c catalog bounds s project).yard.tasks = d.yard.tasks ∧
      (d.openTenant n c catalog bounds s project).yard.created = d.yard.created ∧
      (d.openTenant n c catalog bounds s project).yard.metrics = d.yard.metrics := by
  have hfold (made : List Pool) (y : Yard) :
      (made.foldl Yard.addPool y).tasks = y.tasks ∧
        (made.foldl Yard.addPool y).created = y.created ∧
        (made.foldl Yard.addPool y).metrics = y.metrics := by
    induction made generalizing y with
    | nil => exact ⟨rfl, rfl, rfl⟩
    | cons p made ih => exact ih (y.addPool p)
  exact hfold _ _

/-- What no change breaks: frames wait for tasks, and tasks have frames that wait for them. -/
theorem Act.stacked (h : Act errand kept x entries y)
    (hx : Stacked log serves x.desk.frames x.desk.yard.tasks)
    (hcall : ∀ n below task, x.desk.frames = .inPool n :: below →
      x.desk.owners[task.pool]? = some n → serves task (.inPool n))
    (hdrain : ∀ pool rest closed closed' after below p task,
      x.desk.frames = .draining (pool :: rest) closed after :: below →
      x.desk.yard.pools[pool]? = some p → p.drained = false → task.pool = pool →
      serves task (.draining rest closed' after))
    (hpool : ∀ task task' b, task'.pool = task.pool → serves task b → serves task' b) :
    Stacked (entries ++ log) serves y.desk.frames y.desk.yard.tasks := by
  have hlog : log ⊆ entries ++ log := List.subset_append_right _ _
  cases h with
  | work _ hy hs =>
    exact (hs.stacked hy hx hcall hdrain hpool).mono hlog fun _ _ h => h
  | @giveBack d hand news yard reaction lease hy =>
    obtain ⟨p, p', new, -, turn, -, htasks⟩ := Yard.call_stride hy
    obtain rfl := release_things hy
    have hnone : new = [] := by cases turn.waits; rfl
    rw [hnone] at htasks
    change Stacked log serves d.frames yard.tasks
    rw [show yard.tasks = d.yard.tasks from htasks]
    exact hx
  | recount hf =>
    rw [hf] at hx
    exact .plain rfl (hx.of_plain rfl)
  | push hf => exact .plain hf.isPlain hx
  | pop hf hs =>
    rw [hf] at hx
    exact hx.of_plain (Frame.isPlain_of_isSpent hs)
  | unregister => exact .plain rfl hx
  | @connect d hand news pool connection below hf =>
    rw [hf] at hx
    obtain ⟨b, under, task, tasks, rfl, htasks, hw, hb, hs, hx⟩ := hx.of_waits rfl
    change Stacked _ serves (.loggingIn connection :: b :: under) d.yard.tasks
    rw [htasks]
    cases hw with
    | connecting _ slot use =>
      exact .waits (.loggingIn slot use List.mem_cons_self) hb hs (hx.mono hlog fun _ _ h => h)
  | @abandon d hand news connection below hf =>
    rw [hf] at hx
    obtain ⟨b, under, task, tasks, rfl, htasks, hw, hb, hs, hx⟩ := hx.of_waits rfl
    change Stacked _ serves (.abandoning :: b :: under) d.yard.tasks
    rw [htasks]
    cases hw with
    | loggingIn slot use =>
      exact .waits (.abandoning _ slot use) hb hs (hx.mono hlog fun _ _ h => h)
  | openTenant =>
    rw [(work_openTenant ..).1]
    exact hx
  | _ => exact hx

/-- Whoever drains the pool holds the cache that it belongs to, unless nobody does. -/
def DrainsFor (d : Desk) (after : After) (m : Nat) : Prop :=
  ∃ n, d.owners[m]? = some n ∧ (.cache n ∈ after.things ∨ d.holders n = 0)

/-- The frame is an operation that may have begun the task. -/
def Serves (d : Desk) (task : Yard.Task) : Frame → Prop
  | .inPool n => d.owners[task.pool]? = some n
  | .draining _ _ after => d.DrainsFor after task.pool
  | _ => False

structure Ordered (log : List Entry) (d : Desk) : Prop where
  stacked : Stacked log d.Serves d.frames d.yard.tasks
  tidy : ∀ rest closed after, .draining rest closed after ∈ d.frames →
    ∀ m ∈ rest, d.DrainsFor after m

/-- Nobody gets hold of a cache that nobody holds. -/
theorem Act.nobody (h : Act errand kept x entries y) (hs : Sound kept x)
    (hc : ∃ c, x.desk.cache? n = some c) (hn : x.desk.holders n = 0) : y.desk.holders n = 0 := by
  cases h with
  | @hold d hand news k hk =>
    have hne : k ≠ n := by
      rintro rfl
      obtain hk | ⟨key, hk⟩ := hk
      · exact Nat.ne_of_gt (hs.holds_kept hk) hn
      · exact Nat.ne_of_gt (hs.holds_registered hk) hn
    simpa [holders, Desk.hold, hne] using hn
  | letGo =>
    rw [holders_letGo, hn]
    exact Nat.zero_sub _
  | @add d hand news c =>
    obtain ⟨c, hc⟩ := hc
    obtain ⟨k, hk, -⟩ := Option.map_eq_some_iff.mp hc
    rw [holders_add, if_neg (Nat.ne_of_gt (List.getElem?_eq_some_iff.mp hk).1)]
    exact hn
  | openTenant | publish => exact (holders_setCache ..).trans hn
  | _ => exact hn

theorem Act.drainsFor {after : After} (h : Act errand kept x entries y) (hs : Sound kept x)
    (hl : x.desk.Listed) (hd : x.desk.DrainsFor after m) : y.desk.DrainsFor after m := by
  obtain ⟨n, hm, hn⟩ := hd
  refine ⟨n, ?_, hn.imp_right fun hn => ?_⟩
  · obtain ⟨more, hmore⟩ := h.owners_grow
    rw [← hmore, List.getElem?_append_left (List.getElem?_eq_some_iff.mp hm).1]
    exact hm
  · obtain ⟨c, hc, -⟩ := exists_cache_of_mem (hl m n hm)
    exact h.nobody hs ⟨c, hc⟩ hn

theorem Act.keeps_serving (h : Act errand kept x entries y) (hs : Sound kept x) (hl : x.desk.Listed)
    (hb : x.desk.Serves task b) : y.desk.Serves task b := by
  cases b with
  | inPool n =>
    obtain ⟨more, hmore⟩ := h.owners_grow
    change y.desk.owners[task.pool]? = some n
    have hm : x.desk.owners[task.pool]? = some n := hb
    rw [← hmore, List.getElem?_append_left (List.getElem?_eq_some_iff.mp hm).1]
    exact hm
  | draining => exact h.drainsFor hs hl hb
  | _ => exact hb

theorem Passing.no_draining {connections : List Connection} {reaction : Yard.Reaction}
    {tops : List Frame} (h : Passing connections reaction tops entries) {rest : List Nat}
    {closed : Nat} {after : After} : .draining rest closed after ∉ tops := by
  cases h <;> simp

/-- Whoever drains pools was draining them before, or has begun to. -/
theorem Act.draining {rest : List Nat} {closed : Nat} {after : After}
    (h : Act errand kept x entries y) (hm : .draining rest closed after ∈ y.desk.frames) :
    (∃ rest' closed', .draining rest' closed' after ∈ x.desk.frames ∧ rest ⊆ rest') ∨
      ∃ n, rest.Perm (x.desk.poolsOf n) ∧
        (.cache n ∈ after.things ∨ x.desk.holders n = 0) := by
  cases h with
  | work _ _ hs =>
    refine .inl ?_
    cases hs with
    | call hf _ hx =>
      rcases List.mem_append.mp hm with hm | hm
      · exact absurd hm hx.no_draining
      · exact ⟨rest, closed, hf ▸ hm, List.Subset.refl rest⟩
    | drain hf hx =>
      rcases List.mem_append.mp hm with hm | hm
      · exact absurd hm hx.no_draining
      · rw [hf]
        rcases List.mem_cons.mp hm with heq | hm
        · cases heq
          exact ⟨_, _, List.mem_cons_self, List.subset_cons_self _ _⟩
        · exact ⟨rest, closed, List.mem_cons_of_mem _ hm, List.Subset.refl rest⟩
    | answer hf _ hx =>
      rcases List.mem_append.mp hm with hm | hm
      · exact absurd hm hx.no_draining
      · exact ⟨rest, closed, hf ▸ List.mem_cons_of_mem _ hm, List.Subset.refl rest⟩
  | recount hf hr =>
    refine .inl ?_
    rw [hf]
    rcases List.mem_cons.mp hm with heq | hm
    · cases heq
      exact ⟨_, _, List.mem_cons_self, hr⟩
    · exact ⟨rest, closed, List.mem_cons_of_mem _ hm, List.Subset.refl rest⟩
  | push hf =>
    rcases List.mem_cons.mp hm with rfl | hm
    · cases hf with
      | opening ho => cases ho
      | draining hp hn => exact .inr ⟨_, hp, hn⟩
    · exact .inl ⟨rest, closed, hm, List.Subset.refl rest⟩
  | unregister _ _ _ hp ha =>
    rcases List.mem_cons.mp hm with heq | hm
    · cases heq
      exact .inr ⟨_, hp, .inl (by simp [ha.fits.1])⟩
    · exact .inl ⟨rest, closed, hm, List.Subset.refl rest⟩
  | pop hf => exact .inl ⟨rest, closed, hf ▸ List.mem_cons_of_mem _ hm, List.Subset.refl rest⟩
  | connect hf | abandon hf =>
    refine .inl ⟨rest, closed, ?_, List.Subset.refl rest⟩
    rw [hf]
    exact List.mem_cons_of_mem _ (by simpa using hm)
  | _ => exact .inl ⟨rest, closed, hm, List.Subset.refl rest⟩

theorem Act.ordered (h : Act errand kept x entries y) (hs : Sound kept x) (hl : x.desk.Listed)
    (ho : Ordered log x.desk) : Ordered (entries ++ log) y.desk := by
  obtain ⟨stacked, tidy⟩ := ho
  refine ⟨?_, fun rest closed after hm m hr => ?_⟩
  · refine (h.stacked stacked ?_ ?_ ?_).mono (List.Subset.refl _) fun _ _ => h.keeps_serving hs hl
    · exact fun n below task _ hn => hn
    · rintro pool rest closed closed' after below p task hf - - rfl
      exact tidy (task.pool :: rest) closed after (by simp [hf]) task.pool List.mem_cons_self
    · intro task task' b hpool hb
      cases b with
      | inPool | draining =>
        simp only [Serves, hpool]
        exact hb
      | _ => exact hb
  · refine h.drainsFor hs hl ?_
    obtain ⟨rest', closed', hm', hsub⟩ | ⟨n, hp, hn⟩ := h.draining hm
    · exact tidy rest' closed' after hm' m (hsub hr)
    · obtain ⟨c, hc, hnumber⟩ := exists_cache_of_mem (hp.mem_iff.mp hr)
      exact ⟨n, hs.owned n c hc m hnumber, hn⟩

namespace History

variable {s t : History} {moves more : List Move} {providers : List Config.Provider}

theorem ordered_of_run (hs : run providers moves = some s) : Ordered s.log s.desk :=
  (runFrom_invariant (s := ⟨{ providers }, []⟩)
    (P := fun log _ x => x.desk.Listed ∧ Ordered log x.desk)
    (fun h hs hp => ⟨h.listed hs hp.1, h.ordered hs hp.1 hp.2⟩) (fun _ h => h)
    (sound_start providers) ⟨fun m n hm => by simp at hm, .nil, fun _ _ _ hm => by cases hm⟩ hs).2.2

/-- What every change of an ordered desk keeps. -/
theorem runFrom_ordered {P : List Entry → Desk → Prop}
    (hact : ∀ {log errand kept x entries y}, Act errand kept x entries y → Sound kept x →
      Ordered log x.desk → P log x.desk → P (entries ++ log) y.desk)
    (hs : run providers moves = some s) (hp : P s.log s.desk) (hr : s.runFrom more = some t) :
    P t.log t.desk :=
  (runFrom_invariant (P := fun log _ x => x.desk.Listed ∧ Ordered log x.desk ∧ P log x.desk)
    (fun h hs hx => ⟨h.listed hs hx.1, h.ordered hs hx.1 hx.2.1, hact h hs hx.2.1 hx.2.2⟩)
    (fun _ h => h) (sound_of_run hs) ⟨listed_of_run hs, ordered_of_run hs, hp⟩ hr).2.2.2

end History

end Tenancy.Desk
