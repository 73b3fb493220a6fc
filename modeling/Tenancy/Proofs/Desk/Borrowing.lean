import Tenancy.Proofs.Desk.Leaving
import Tenancy.Proofs.Desk.Nesting
import Tenancy.Proofs.Desk.TrustedHosts
import Tenancy.Proofs.Serving
import Tenancy.Proofs.Yard.Guards

namespace Tenancy

namespace TenantCache

/-- The pool for a URL is that of the region which serves it, or there is none. -/
inductive Finds (c : TenantCache) (url : String) : Except TenantError Nat → Prop
  | unopened (hc : c.opened = none) : Finds c url (.error (.notInitialized c.label))
  | unserved {o} (hc : c.opened = some o)
      (hs : ∀ region, ¬o.catalog.snapshot.Serves url region) : Finds c url (.error (.noRoute url))
  | poolless {o region} (hc : c.opened = some o) (hs : o.catalog.snapshot.Serves url region)
      (hp : o.pools.lookup region = none) : Finds c url (.error (.unknownRegion region))
  | served {o region m} (hc : c.opened = some o) (hs : o.catalog.snapshot.Serves url region)
      (hp : o.pools.lookup region = some m) : Finds c url (.ok m)

theorem finds_poolServing (c : TenantCache) (url : String) : c.Finds url (c.poolServing url) := by
  cases hc : c.opened with
  | none =>
    rw [poolServing_of_error (regionOf_unopened hc url)]
    exact .unopened hc
  | some o =>
    have hregion := regionOf_opened hc url
    cases hr : o.catalog.regionOf url with
    | none =>
      rw [hr] at hregion
      rw [poolServing_of_error hregion]
      refine .unserved hc fun region hs => ?_
      cases hr.symm.trans (Catalog.regionOf_iff_serves.mpr hs)
    | some region =>
      rw [hr] at hregion
      rw [poolServing_of_ok hregion, poolOf_opened hc]
      have hs := Catalog.regionOf_iff_serves.mp hr
      cases hp : o.pools.lookup region with
      | none => exact .poolless hc hs hp
      | some m => exact .served hc hs hp

end TenantCache

namespace Desk

variable {d e : Desk} {step : Desk × Request} {n m : Nat} {below : List Frame} {lease : Lease}
  {outcome : Outcome} {pools : List Pool} {kept kept' hand hand' : List Thing}
  {news : List (Nat × Snapshot)} {errand : Errand} {entries : List Entry} {x y : Scene}

/-- The lease, or the guard with what is on it, was handed out at some time. -/
def Issued (lease : Lease) (kept : List Thing) (x : Scene) : Prop :=
  ∃ es, BackedBy es kept x ∧
    lease ∈ Yard.issued ((⟨x.desk.yard, es⟩ : Yard.History).eventsOf lease.pool)

theorem Issued.move (h : (kept ++ hand).Perm (kept' ++ hand'))
    (hi : Issued lease kept ⟨d, hand, news⟩) : Issued lease kept' ⟨d, hand', news⟩ := by
  obtain ⟨es, hb, hl⟩ := hi
  exact ⟨es, hb.move h, hl⟩

theorem Act.issued (h : Act errand kept x entries y) (hi : Issued lease kept x) :
    Issued lease kept y := by
  obtain ⟨es, hb, hl⟩ := hi
  obtain ⟨es', hgrown, hb'⟩ := h.backedBy hb
  exact ⟨es', hb', Yard.issued_mono (hgrown.filter _) hl⟩

/-- What pool `m` is told with a deed of the operation on cache `n`. -/
inductive Deed.Tells (n m : Nat) : Deed → Yard.Deed → Prop
  | call {url} : Tells n m (.call (.withConnection n url)) (.call (.checkout m))
  | unconnected {slot} :
      Tells n m (.answer (.connecting m) .failed) (.answer (.allocating m slot .checkout) .nothing)
  | broken {slot} :
      Tells n m (.answer (.connecting m) .unwind) (.answer (.allocating m slot .checkout) .unwind)
  | loggedIn {connection slot} :
      Tells n m (.answer (.loggingIn connection) .succeeded)
        (.answer (.allocating m slot .checkout) .made)
  | abandoned {reply slot} :
      Tells n m (.answer .abandoning reply) (.answer (.allocating m slot .checkout) .nothing)
  | closed {reply} : Tells n m (.answer .closing reply) (.answer (.discarding m) .destroyed)

/-- What the connector is asked for after that deed, and where the operation waits then: a pool that
has nothing free and has room gets a connection that has logged in. -/
inductive Deed.Connects (n m : Nat) (p : Pool) : Deed → Frame → Request → Prop
  | connect {url source settings} (hd : p.drained = false) (hf : p.free = [])
      (hm : p.isFull = false) :
      Connects n m p (.call (.withConnection n url)) (.connecting m) (.connect source settings)
  | login {connection credentials} :
      Connects n m p (.answer (.connecting m) .succeeded) (.loggingIn connection)
        (.login connection credentials)
  | abandon {connection} :
      Connects n m p (.answer (.loggingIn connection) .failed) .abandoning (.close connection)
  | close {connection} (hd : p.drained = true) :
      Connects n m p (.answer (.loggingIn connection) .succeeded) .closing (.close connection)

theorem Deed.Tells.checksOut {deed : Deed} {told : Yard.Deed} (h : deed.Tells n m told) :
    told.pool = m ∧ told.checksOut = true := by
  cases h <;> exact ⟨rfl, rfl⟩

theorem Deed.Tells.awaits {deed : Deed} {task : Yard.Task} {reply : Yard.Reply}
    (h : deed.Tells n m (.answer task reply)) : task.awaits reply = true := by
  cases h <;> rfl

theorem Deed.Connects.isPlain {deed : Deed} {p : Pool} {f : Frame} {r : Request}
    (h : deed.Connects n m p f r) : f.isPlain = false := by
  cases h <;> rfl

/-- The replies of the connector that the frame waits for. -/
def Frame.awaits : Frame → Reply → Bool
  | .connecting _, .succeeded | .connecting _, .failed | .connecting _, .unwind => true
  | .loggingIn _, .succeeded | .loggingIn _, .failed => true
  | .abandoning, .succeeded | .abandoning, .failed => true
  | .closing, .succeeded | .closing, .failed => true
  | _, _ => false

/-- How work can end, and what the caller is told then. -/
inductive Finishes : Reply → Outcome → Prop
  | finished : Finishes .finished .nothing
  | unwind : Finishes .unwind .unwound

namespace History

variable {s t u v : History} {c : TenantCache} {url : String} {r : Request} {f : Frame}
  {task : Yard.Task} {moves : List Move} {providers : List Config.Provider} {deed : Deed} {p : Pool}

/-- The operation on cache `n` lets go of it and is over, and this is how the pools are left. Only
who was the last to hold the cache goes on to drain its pools. -/
structure Leaves (n : Nat) (below : List Frame) (outcome : Outcome) (pools : List Pool)
    (v : History) (r : Request) (t : History) : Prop where
  ends : ∃ e : Desk, e.yard.pools = pools ∧ e.frames = below ∧
    e.leave n outcome = some (t.desk, r)
  shared : .cache n ∈ v.kept →
    r = .done outcome ∧ t.desk.yard.pools = pools ∧ t.desk.frames = below

/-- One piece of work has the slot of that pool, and nobody else has the slot or its resource. Up to
the drain it is on loan and not free. -/
structure Exclusive (m : Nat) (lease : Lease) (u : History) : Prop where
  once : u.desk.yard.tasks.count (.holding m lease.slot) = 1
  unleased : ∀ l, .lease l ∈ u.kept → l.pool = m →
    l.slot ≠ lease.slot ∧ l.resource ≠ lease.resource
  loaned : ∃ p, u.desk.yard.pools[m]? = some p ∧ (p.drained = false →
    ⟨lease.slot, lease.resource⟩ ∈ p.loaned ∧ lease.resource ∉ p.free.map Slot.resource ∧
    ∀ slot ∈ p.loaned, slot.id ≠ lease.slot → slot.resource ≠ lease.resource)

/-- From one deed on, an operation of cache `n` comes to work on a connection of pool `m`, or to
none if the pool has none for it. Without one it ends, and by itself it has moved no slot of any
pool. With one it works once: whatever goes on meanwhile nobody else has the connection, and however
the work ends, its slot goes back to the pool. -/
inductive Borrowing (n m : Nat) (below : List Frame) :
    History → Deed → Request → History → Prop
  | over {v t : History} {deed : Deed} {told : Yard.Deed} {r : Request} {p o pools}
      (hp : v.desk.yard.pools[m]? = some p) (ht : deed.Tells n m told)
      (ho : Yard.Offers m p told (.done o)) (hm : Yard.Unmoved v.desk.yard.pools pools)
      (hl : Leaves n below (outcomeOf o) pools v r t) : Borrowing n m below v deed r t
  | asks {v t : History} {deed : Deed} {r : Request} {f : Frame} {p}
      (hp : v.desk.yard.pools[m]? = some p) (hs : deed.Connects n m p f r)
      (hm : Yard.Unmoved v.desk.yard.pools t.desk.yard.pools)
      (hf : t.desk.frames = f :: .inPool n :: below)
      (hstep : ∀ u reply, t.Meanwhile u → u.desk.frames = t.desk.frames →
        f.awaits reply = true → ∃ r' t', u.Takes (.answer f reply) r' t')
      (hnext : ∀ u reply r' t', t.Meanwhile u → u.desk.frames = t.desk.frames →
        u.Takes (.answer f reply) r' t' → Borrowing n m below u (.answer f reply) r' t') :
      Borrowing n m below v deed r t
  | lent {v t : History} {deed : Deed} {told : Yard.Deed} {p lease connection}
      (hp : v.desk.yard.pools[m]? = some p) (ht : deed.Tells n m told)
      (ho : Yard.Offers m p told (.work lease))
      (hl : Yard.Lends m lease v.desk.yard t.desk.yard)
      (hf : t.desk.frames = .working :: .inPool n :: below)
      (hc : t.desk.connections[lease.resource]? = some connection)
      (hm : .connected m connection ∈ t.log)
      (halone : ∀ u, t.Meanwhile u → Exclusive m lease u)
      (hends : ∀ u reply outcome, t.Meanwhile u → u.desk.frames = t.desk.frames →
        Finishes reply outcome → (∃ r t', u.Takes (.answer .working reply) r t') ∧
          ∀ r t', u.Takes (.answer .working reply) r t' →
            ∃ pools, Yard.GivesBack m lease u.desk.yard.pools pools ∧
              Leaves n below outcome pools u r t') :
      Borrowing n m below v deed (.work lease) t

/-- The operation on cache `n` waits at that frame for that task. -/
structure Waits (n : Nat) (below : List Frame) (f : Frame) (task : Yard.Task) (s : History) :
    Prop where
  reached : ∃ providers moves, run providers moves = some s
  frames : s.desk.frames = f :: .inPool n :: below
  tasks : ∃ rest, s.desk.yard.tasks = task :: rest

theorem Waits.mem_tasks (h : Waits n below f task s) : task ∈ s.desk.yard.tasks := by
  obtain ⟨rest, htasks⟩ := h.tasks
  rw [htasks]
  exact List.mem_cons_self

theorem Waits.followed (h : Waits n below f task s) :
    ∃ es, (⟨s.desk.yard, es⟩ : Yard.History).Followed := by
  obtain ⟨⟨providers, moves, hs⟩, -, -⟩ := h
  obtain ⟨es, hb⟩ := backed_of_run hs
  exact ⟨es, hb.followed⟩

/-- Whatever goes on meanwhile, the operation waits for the same when its turn comes. -/
theorem Waits.meanwhile (h : Waits n below f task t) (hf : f.isPlain = false)
    (hu : t.Meanwhile u) (hframes : u.desk.frames = t.desk.frames) : Waits n below f task u := by
  obtain ⟨⟨providers, moves, hs⟩, hwaits, rest, htasks⟩ := h
  obtain ⟨more, hmore⟩ := hu.runs
  exact ⟨⟨providers, _, (run_append hs).trans hmore⟩, hframes.trans hwaits, rest,
    (hu.same_tasks hs hwaits hf hframes).trans htasks⟩

theorem Waits.pool (h : Waits n below f task s) : ∃ p, s.desk.yard.pools[task.pool]? = some p := by
  obtain ⟨es, hf⟩ := h.followed
  exact hf.pool_of_task h.mem_tasks

theorem Waits.reaches {reply : Reply} (h : Waits n below f task u)
    (hstep : u.desk.reply reply = some step) :
    ∃ providers moves, run providers moves = some (u.record (.answer f reply) step) := by
  obtain ⟨⟨providers, moves, hs⟩, hwaits, -⟩ := h
  obtain ⟨m, hm⟩ := (takes_reply hwaits hstep).runFrom
  exact ⟨providers, _, (run_append hs).trans hm⟩

/-- Whatever is replied, the operation goes on as it should. -/
theorem Borrowing.of_replies (hw : Waits n below f task t) (hp : v.desk.yard.pools[m]? = some p)
    (hs : deed.Connects n m p f r) (hm : Yard.Unmoved v.desk.yard.pools t.desk.yard.pools)
    (hall : ∀ u reply, Waits n below f task u →
      (∃ step, u.desk.reply reply = some step ∧
        Borrowing n m below u (.answer f reply) step.2 (u.record (.answer f reply) step)) ∨
      u.desk.reply reply = none ∧ f.awaits reply = false) : Borrowing n m below v deed r t := by
  have hf := hs.isPlain
  refine .asks hp hs hm hw.frames (fun u reply hu hframes hreply => ?_)
    (fun u reply r' t' hu hframes ht => ?_)
  · obtain ⟨step, hstep, -⟩ | ⟨-, hnot⟩ := hall u reply (hw.meanwhile hf hu hframes)
    · exact ⟨_, _, takes_reply (hframes.trans hw.frames) hstep⟩
    · cases hreply.symm.trans hnot
  · obtain ⟨_, step', -, hstep', rfl, rfl⟩ := ht.of_answer
    obtain ⟨step, hstep, hnext⟩ | ⟨hnone, -⟩ := hall u reply (hw.meanwhile hf hu hframes)
    · obtain rfl := Option.some.inj (hstep.symm.trans hstep')
      exact hnext
    · cases hnone.symm.trans hstep'

/-- Where a step has made nothing, there is still a connection for each resource. -/
theorem provided_of_created {yard : Yard} (hs : run providers moves = some s)
    (hf : ∃ es, (⟨yard, es⟩ : Yard.History).Followed)
    (hc : yard.created = s.desk.yard.created) : Provided yard s.desk.connections.length :=
  ⟨hf, Nat.le_of_eq (hc.trans (ledger_of_run hs).counted)⟩

/-- The desk of `v` at the moment when its yard goes on, with the operation on cache `n` on top. -/
structure Poised (n : Nat) (below : List Frame) (v : History) (e : Desk) : Prop where
  frames : e.frames = .inPool n :: below
  pools : e.yard.pools = v.desk.yard.pools
  shared : .cache n ∈ v.kept → 1 < e.holders n

theorem Poised.leaves {yard : Yard} {o : Yard.Outcome} (he : Poised n below v e)
    (hy : Provided yard e.connections.length) (deed : Deed) :
    ∃ step, react { e with yard } (.done o) = some step ∧
      Leaves n below (outcomeOf o) yard.pools v step.2 (v.record deed step) := by
  obtain ⟨step, hstep⟩ := exists_leave (d := { e with yard, frames := below }) hy n (outcomeOf o)
  have hreact : react { e with yard } (.done o) = some step := by
    simp only [react, he.frames]
    exact hstep
  refine ⟨step, hreact, ⟨{ e with yard, frames := below }, rfl, rfl, hstep⟩, fun hk => ?_⟩
  have hshared := leave_shared (d := { e with yard, frames := below }) (he.shared hk) (outcomeOf o)
  obtain rfl := Option.some.inj (hstep.symm.trans hshared)
  exact ⟨rfl, rfl, rfl⟩

/-- The desk of which the yard is told a reply: the frame that waited for it is gone. -/
structure Told (d : Desk) (frames : List Frame) (e : Desk) : Prop where
  frames : e.frames = frames
  pools : e.yard.pools = d.yard.pools
  created : e.yard.created = d.yard.created
  tasks : e.yard.tasks = d.yard.tasks
  caches : e.caches = d.caches

theorem told_pop (d : Desk) (frames : List Frame) : Told d frames { d with frames } :=
  ⟨rfl, rfl, rfl, rfl, rfl⟩

theorem Told.note {frames : List Frame} (h : Told d frames e) (notice : Notice) :
    Told d frames (e.note notice) :=
  ⟨h.frames, h.pools, h.created, h.tasks, h.caches⟩

/-- A caller and the operation itself hold the cache. -/
theorem holders_inPool (hs : Sound kept ⟨d, [], news⟩) (hk : .cache n ∈ kept)
    (hf : .inPool n ∈ d.frames) : 1 < d.holders n := by
  have hwaiting : 0 < d.waiting.count (.cache n) :=
    List.count_pos_iff.mpr (List.mem_flatMap.mpr ⟨_, hf, List.mem_singleton_self _⟩)
  have hkept := List.count_pos_iff.mpr hk
  have hheld := hs.held n
  simp only [stored, List.count_append] at hheld
  omega

theorem Waits.poised (hw : Waits n below f task u) (he : Told u.desk (.inPool n :: below) e) :
    Poised n below u e := by
  obtain ⟨⟨providers, moves, hs⟩, hframes, -⟩ := hw
  refine ⟨he.frames, he.pools, fun hk => ?_⟩
  have hholders := holders_inPool (sound_of_run hs) hk (hframes ▸ by simp)
  rwa [holders, he.caches]

theorem Waits.replies (hw : Waits n below f task u) (reply : Yard.Reply)
    (he : Told u.desk (.inPool n :: below) e) (ha : task.awaits reply = true) :
    ∃ rest next, e.yard.reply reply = some next ∧
      e.yard.tasks = task :: rest ∧ Yard.Stride e.yard task.pool rest (.answer task reply) next ∧
      ∃ es, (⟨next.1, es⟩ : Yard.History).Followed := by
  obtain ⟨es, hf⟩ := hw.followed
  have hf := hf.congr he.pools he.created he.tasks
  obtain ⟨p, hp⟩ := hf.pool_of_task (show task ∈ e.yard.tasks from he.tasks ▸ hw.mem_tasks)
  obtain ⟨-, -, rest, htasks⟩ := hw
  have ht : e.yard.tasks = task :: rest := he.tasks.trans htasks
  obtain ⟨next, hnext⟩ := Yard.exists_resume { e.yard with tasks := rest } p ha
  have hreply : e.yard.reply reply = some next := by
    simp only [Yard.reply, Yard.answer, ht, List.getElem?_cons_zero, Option.bind_some,
      List.eraseIdx_zero, List.tail_cons]
    rw [show e.yard.pools[task.pool]? = some p from hp]
    exact hnext
  obtain ⟨rest', ht', hs⟩ := (Yard.Does.reply ht hreply).stride
  obtain rfl : rest = rest' := (List.cons.inj (ht.symm.trans ht')).2
  exact ⟨rest, next, hreply, ht, hs, _,
    Yard.History.followed_record hf (List.Perm.of_eq ht) (Yard.History.fair_answer _ task reply) hs⟩

/-- Where the pool has nothing, the operation ends and has moved nothing. -/
theorem Poised.over {yard : Yard} {rest : List Yard.Task} {o : Yard.Outcome} {told : Yard.Deed}
    (he : Poised n below v e) (deed : Deed) (hv : run providers moves = some v)
    (hc : e.connections = v.desk.connections) (hcreated : e.yard.created = v.desk.yard.created)
    (ht : deed.Tells n m told) (hs : Yard.Stride e.yard m rest told (yard, .done o))
    (hf : ∃ es, (⟨yard, es⟩ : Yard.History).Followed) :
    ∃ step, react { e with yard } (.done o) = some step ∧
      Borrowing n m below v deed step.2 (v.record deed step) := by
  obtain ⟨rfl, hd⟩ := ht.checksOut
  obtain ⟨p, hp, ho⟩ := hs.offers hd
  have hy : Provided yard e.connections.length :=
    hc ▸ provided_of_created hv hf ((hs.created_of_over hd).trans hcreated)
  obtain ⟨step, hstep, hleaves⟩ := he.leaves (o := o) hy deed
  have hunmoved := hs.unmoved (Yard.reserves_of_checksOut hd) ho.lends_nothing
  rw [he.pools] at hp hunmoved
  exact ⟨step, hstep, .over hp ht ho hunmoved hleaves⟩

/-- A reply that brings no connection ends the operation. -/
theorem Waits.fails {answer : Reply} {reply : Yard.Reply} (hw : Waits n below f task u)
    (he : Told u.desk (.inPool n :: below) e) (hc : e.connections = u.desk.connections)
    (ht : Deed.Tells n m (.answer f answer) (.answer task reply)) (hr : reply ≠ .made)
    (h : u.desk.reply answer = e.replyYard reply) :
    ∃ step, u.desk.reply answer = some step ∧
      Borrowing n m below u (.answer f answer) step.2 (u.record (.answer f answer) step) := by
  obtain ⟨rest, ⟨yard, reaction⟩, hreply, -, hs, hf⟩ := hw.replies reply he ht.awaits
  obtain ⟨rfl, hd⟩ := ht.checksOut
  obtain ⟨p, -, ho⟩ := hs.offers hd
  obtain ⟨o, rfl⟩ := ho.over hr
  obtain ⟨providers, moves, hv⟩ := hw.reached
  obtain ⟨step, hstep, hborrowing⟩ := (hw.poised he).over _ hv hc he.created ht hs hf
  refine ⟨step, ?_, hborrowing⟩
  simp only [h, replyYard, hreply]
  exact hstep

variable {slot : Nat} {connection : Connection}

theorem reply_of_frames {frames : List Frame} (hf : d.frames = f :: frames) (reply : Reply) :
    d.reply reply = resume { d with frames } f reply := by
  rw [Desk.reply, hf]

/-- A connection that could not log in is closed. -/
theorem borrowing_abandoning (hw : Waits n below .abandoning (.allocating m slot .checkout) t)
    (hp : v.desk.yard.pools[m]? = some p) (hs : deed.Connects n m p .abandoning r)
    (hm : Yard.Unmoved v.desk.yard.pools t.desk.yard.pools) : Borrowing n m below v deed r t := by
  refine .of_replies hw hp hs hm fun u reply hu => ?_
  have hreply := reply_of_frames hu.frames reply
  cases reply with
  | succeeded | failed => exact .inl (hu.fails (told_pop ..) rfl .abandoned (by simp) hreply)
  | _ => exact .inr ⟨hreply, rfl⟩

/-- A connection made for a pool that was drained meanwhile is closed. -/
theorem borrowing_closing (hw : Waits n below .closing (.discarding m) t)
    (hp : v.desk.yard.pools[m]? = some p) (hs : deed.Connects n m p .closing r)
    (hm : Yard.Unmoved v.desk.yard.pools t.desk.yard.pools) : Borrowing n m below v deed r t := by
  refine .of_replies hw hp hs hm fun u reply hu => ?_
  have hreply := reply_of_frames hu.frames reply
  cases reply with
  | succeeded => exact .inl (hu.fails (told_pop ..) rfl .closed (by simp) hreply)
  | failed =>
    exact .inl (hu.fails ((told_pop ..).note .closeFailed) rfl .closed (by simp) hreply)
  | _ => exact .inr ⟨hreply, rfl⟩

theorem exclusive_of_issued (hi : Issued lease u.kept ⟨u.desk, [], u.news⟩) (hn : lease.pool = m)
    (ht : .holding m lease.slot ∈ u.desk.yard.tasks) : Exclusive m lease u := by
  subst hn
  obtain ⟨es, hb, hl⟩ := hi
  have hh := hb.followed.heldAlone hl ht
  obtain ⟨p, hp, hloaned⟩ := hh.loaned
  refine ⟨hh.once, fun l hl hpool => hh.alone ⟨.lease, l⟩ ?_, p, hp, fun hd => ?_⟩
  · have hkept := List.count_pos_iff.mpr hl
    have hcount := hb.lent l
    simp only [List.count_append] at hcount
    have hout : ⟨.lease, l⟩ ∈ Yard.loans ((⟨u.desk.yard, es⟩ : Yard.History).eventsOf l.pool) :=
      List.count_pos_iff.mp (show 0 < Yard.lentOut es l by omega)
    rw [hpool] at hout
    exact (List.mem_erase_of_ne (by simp)).mpr hout
  · obtain ⟨hout, hfree⟩ := hloaned hd
    refine ⟨hout, hfree, fun slot hslot hne heq => hne ?_⟩
    have hdistinct := (hb.followed.1 _ p hp).numbered.resources_distinct
    rw [Pool.slots, List.map_append] at hdistinct
    have hsame := List.inj_on_of_nodup_map hdistinct.of_append_right hslot hout heq
    rw [hsame]

/-- However the work ends, its slot goes back. -/
theorem Waits.ends {reply : Reply} (hw : Waits n below .working (.holding m lease.slot) u)
    (hi : Issued lease u.kept ⟨u.desk, [], u.news⟩) (hn : lease.pool = m)
    (hr : Finishes reply outcome) : ∃ step, u.desk.reply reply = some step ∧
      ∃ pools, Yard.GivesBack m lease u.desk.yard.pools pools ∧
        Leaves n below outcome pools u step.2 (u.record (.answer .working reply) step) := by
  subst hn
  obtain ⟨es, hb, hl⟩ := hi
  have hh := hb.followed.heldAlone hl hw.mem_tasks
  have htold := told_pop u.desk (.inPool n :: below)
  have hends {told : Yard.Reply} {o : Yard.Outcome} (he : Yard.Ending told o)
      (ho : outcomeOf o = outcome)
      (hreply : u.desk.reply reply = replyYard { u.desk with frames := .inPool n :: below } told) :
      ∃ step, u.desk.reply reply = some step ∧
        ∃ pools, Yard.GivesBack lease.pool lease u.desk.yard.pools pools ∧
          Leaves n below outcome pools u step.2 (u.record (.answer .working reply) step) := by
    have ha : Yard.Task.awaits (.holding lease.pool lease.slot) told = true := by
      cases he <;> rfl
    obtain ⟨rest, ⟨yard, reaction⟩, hnext, ht, hs, hf⟩ := hw.replies told htold ha
    obtain ⟨rfl, hcreated, hback⟩ := hb.followed.returned hh he hs
    have hy : Provided yard u.desk.connections.length := by
      obtain ⟨providers, moves, hs⟩ := hw.reached
      exact provided_of_created hs hf hcreated
    obtain ⟨step, hstep, hleaves⟩ := (hw.poised htold).leaves (o := o) hy (.answer .working reply)
    refine ⟨step, ?_, yard.pools, hback, ho ▸ hleaves⟩
    simp only [hreply, replyYard, hnext]
    exact hstep
  have hreply := reply_of_frames hw.frames reply
  cases hr with
  | finished => exact hends .finished rfl hreply
  | unwind => exact hends .unwind rfl hreply

/-- Whoever has got a connection works on it, and nobody else does until the work has ended. -/
theorem borrowing_work {tasks : List Yard.Task} {told : Yard.Deed}
    (hs : run providers moves = some t) (hp : v.desk.yard.pools[m]? = some p)
    (hd : deed.Tells n m told) (ho : Yard.Offers m p told (.work lease))
    (hl : Yard.Lends m lease v.desk.yard t.desk.yard)
    (hf : t.desk.frames = .working :: .inPool n :: below)
    (ht : t.desk.yard.tasks = .holding m lease.slot :: tasks) :
    Borrowing n m below v deed (.work lease) t := by
  have hw : Waits n below .working (.holding m lease.slot) t :=
    ⟨⟨providers, moves, hs⟩, hf, tasks, ht⟩
  have hn := hl.pool
  obtain ⟨q, p', hq, -, hopen, hpools, hloaned, -⟩ := hl.moves
  have hp' : t.desk.yard.pools[m]? = some p' := by
    rw [hpools, List.getElem?_set_self (List.getElem?_eq_some_iff.mp hq).1]
  have hslot : ⟨lease.slot, lease.resource⟩ ∈ p'.loaned := by
    rw [hloaned]
    exact List.mem_cons_self
  have hstocks : t.desk.yard.Stocks m lease.resource :=
    .inl ⟨p', hp', List.mem_map.mpr ⟨_, List.mem_append_right _ hslot, rfl⟩⟩
  obtain ⟨connection, hc, hmade⟩ := (ledger_of_run hs).traced m lease.resource hstocks
  have hissued : Issued lease t.kept ⟨t.desk, [], t.news⟩ := by
    obtain ⟨es, hb⟩ := backed_of_run hs
    subst hn
    have hcourse := hb.followed.1 _ p' hp'
    have hheld : .holding lease.pool lease.slot ∈
        (⟨t.desk.yard, es⟩ : Yard.History).tasksOf lease.pool :=
      List.mem_filter.mpr ⟨by rw [ht]; exact List.mem_cons_self, by simp [Yard.Task.pool]⟩
    exact ⟨es, hb, Yard.issued_of_loans (hcourse.guard_of_loaned hopen rfl hslot hheld)⟩
  have hkeeps {u : History} (hu : t.Meanwhile u) : Issued lease u.kept ⟨u.desk, [], u.news⟩ := by
    obtain ⟨more, hmore⟩ := hu.runs
    exact runFrom_keeps (fun h _ => h.issued) Issued.move hissued (sound_of_run hs) hmore
  refine .lent hp hd ho hl hf hc hmade (fun u hu => ?_) (fun u reply outcome hu hframes hfin => ?_)
  · refine exclusive_of_issued (hkeeps hu) hn ((hu.above hs hf rfl).2.subset ?_)
    rw [ht]
    exact List.mem_cons_self
  · obtain ⟨step, hstep, hpools⟩ := (hw.meanwhile rfl hu hframes).ends (hkeeps hu) hn hfin
    refine ⟨⟨_, _, takes_reply (hframes.trans hf) hstep⟩, fun r t' htakes => ?_⟩
    obtain ⟨_, step', -, hstep', rfl, rfl⟩ := htakes.of_answer
    obtain rfl := Option.some.inj (hstep.symm.trans hstep')
    exact hpools

/-- The connection that was made last is closed. -/
theorem ask_destroy_last {connections : List Connection} {resource : Nat}
    (hc : d.connections = connections ++ [connection]) (hr : resource = connections.length) :
    d.ask (.destroy m resource) = some (d.push .closing, .close connection) := by
  simp [ask, hc, hr]

/-- A connection that has logged in is worked on, unless its pool was drained meanwhile. -/
theorem borrowing_loggingIn
    (hw : Waits n below (.loggingIn connection) (.allocating m slot .checkout) t)
    (hp : v.desk.yard.pools[m]? = some p) (hs : deed.Connects n m p (.loggingIn connection) r)
    (hm : Yard.Unmoved v.desk.yard.pools t.desk.yard.pools) : Borrowing n m below v deed r t := by
  refine .of_replies hw hp hs hm fun u reply hu => ?_
  have hreply := reply_of_frames hu.frames reply
  cases reply with
  | succeeded =>
    refine .inl ?_
    have htold : Told u.desk (.inPool n :: below) { u.desk with
        frames := .inPool n :: below, connections := u.desk.connections ++ [connection] } :=
      ⟨rfl, rfl, rfl, rfl, rfl⟩
    obtain ⟨rest, ⟨yard, reaction⟩, hnext, ht, hs, -⟩ := hu.replies .made htold rfl
    simp only [resume, replyYard, hnext] at hreply
    obtain ⟨q, hq, ho⟩ := Yard.Stride.offers hs rfl
    have hq : u.desk.yard.pools[m]? = some q := hq
    have hoffer := ho
    cases ho with
    | made =>
      obtain ⟨hlends, htasks⟩ := Yard.Stride.lends hs
      obtain ⟨providers, moves, hrun⟩ := hu.reaches hreply
      exact ⟨_, hreply, borrowing_work hrun hq .loggedIn hoffer hlends rfl htasks⟩
    | late hdrained =>
      obtain ⟨htasks, rfl⟩ := Yard.Stride.late hs
      obtain ⟨providers, moves, hrun⟩ := hu.reached
      have hcounted := (ledger_of_run hrun).counted
      have hreply := hreply.trans (ask_destroy_last (m := m) rfl hcounted)
      have hunmoved := Yard.Stride.unmoved (d := .answer (.allocating m slot .checkout) .made) hs
        rfl rfl
      exact ⟨_, hreply, borrowing_closing ⟨hu.reaches hreply, rfl, rest, htasks⟩ hq
        (.close hdrained) hunmoved⟩
  | failed =>
    obtain ⟨q, hq⟩ := hu.pool
    exact .inl ⟨_, hreply,
      borrowing_abandoning ⟨hu.reaches hreply, rfl, hu.tasks⟩ hq .abandon (.refl _)⟩
  | _ => exact .inr ⟨hreply, rfl⟩

/-- The pool that an operation is about belongs to the cache that it holds. -/
theorem Waits.owner (hw : Waits n below f task u) (hf : f.isPlain = false) :
    ∃ c, u.desk.owner? task.pool = some c := by
  obtain ⟨⟨providers, moves, hs⟩, hframes, rest, htasks⟩ := hw
  have hstacked := (ordered_of_run hs).stacked
  rw [hframes, htasks] at hstacked
  obtain ⟨b, below', task', tasks', hbelow, htask, -, -, hserves, -⟩ := hstacked.of_waits hf
  cases hbelow
  cases htask
  have hpos : 0 < u.desk.holders n := (sound_of_run hs).holds (by
    simp [stored, waiting, hframes, Frame.things])
  obtain ⟨k, hk, -⟩ := exists_of_holders hpos
  refine ⟨k.cache, ?_⟩
  rw [owner?, show u.desk.owners[task.pool]? = some n from hserves]
  simp [cache?, hk]

/-- The connector makes a connection, which then logs in, or there is none. -/
theorem borrowing_connecting (hw : Waits n below (.connecting m) (.allocating m slot .checkout) t)
    (hp : v.desk.yard.pools[m]? = some p) (hs : deed.Connects n m p (.connecting m) r)
    (hm : Yard.Unmoved v.desk.yard.pools t.desk.yard.pools) : Borrowing n m below v deed r t := by
  refine .of_replies hw hp hs hm fun u reply hu => ?_
  have hreply := reply_of_frames hu.frames reply
  cases reply with
  | succeeded =>
    obtain ⟨c, hc⟩ := hu.owner rfl
    obtain ⟨q, hq⟩ := hu.pool
    have hc : owner? { u.desk with frames := .inPool n :: below } m = some c := hc
    have hq : u.desk.yard.pools[m]? = some q := hq
    simp only [resume, hc, hq, Option.bind_eq_bind, Option.bind_some] at hreply
    exact .inl ⟨_, hreply,
      borrowing_loggingIn ⟨hu.reaches hreply, rfl, hu.tasks⟩ hq .login (.refl _)⟩
  | failed =>
    exact .inl (hu.fails ((told_pop ..).note .connectFailed) rfl .unconnected (by simp) hreply)
  | unwind => exact .inl (hu.fails (told_pop ..) rfl .broken (by simp) hreply)
  | _ => exact .inr ⟨hreply, rfl⟩

theorem call_withConnection_unplaced {error : TenantError} (h : 0 < d.holders n)
    (hc : d.cache? n = some c) (hp : c.poolServing url = .error error) :
    d.call (.withConnection n url) = some (d, .done (.failed error)) :=
  call_unplaced h rfl hc (congrArg some hp)

theorem poised_call (hs : run providers moves = some s) (n : Nat) :
    Poised n s.desk.frames s ((s.desk.hold n).push (.inPool n)) := by
  refine ⟨rfl, rfl, fun hk => ?_⟩
  obtain ⟨k, hcache, hpos⟩ := exists_of_holders ((sound_of_run hs).holds_kept hk)
  have hholders : ((s.desk.hold n).push (.inPool n)).holders n = k.holders + 1 := by
    simp [holders, Desk.hold, Desk.push, hcache]
  omega

theorem ask_allocate (hc : d.owner? m = some c) (hp : d.yard.pools[m]? = some p) :
    d.ask (.allocate m) = some (d.push (.connecting m), .connect c.source p.settings) := by
  simp [ask, hc, hp]

/-- Who finds a pool checks a connection out of it. -/
theorem borrowing_call (hs : run providers moves = some s)
    (hc : s.desk.cache? n = some c) (hp : c.poolServing url = .ok m)
    (ha : s.allows (.withConnection n url) = true) :
    ∃ step, s.desk.call (.withConnection n url) = some step ∧
      Borrowing n m s.desk.frames s (.call (.withConnection n url)) step.2
        (s.record (.call (.withConnection n url)) step) := by
  have hsound := sound_of_run hs
  have hpoised := poised_call hs n
  have howner := hsound.owned n c hc m (TenantCache.poolServing_ok hp)
  obtain ⟨p, hpool⟩ : ∃ p, s.desk.yard.pools[m]? = some p :=
    ⟨_, List.getElem?_eq_getElem (hsound.spread ▸ (List.getElem?_eq_some_iff.mp howner).1)⟩
  have hcall : s.desk.call (.withConnection n url) =
      callYard ((s.desk.hold n).push (.inPool n)) (.checkout m) := by
    simp [Desk.call, hc, onPool, hp]
  obtain ⟨⟨yard, reaction⟩, hnext⟩ : ∃ next, s.desk.yard.call (.checkout m) = some next :=
    ⟨_, by simp [Yard.call, Yard.Call.pool, hpool]; rfl⟩
  have hyard : ((s.desk.hold n).push (.inPool n)).yard.call (.checkout m) =
      some (yard, reaction) := hnext
  simp only [callYard, hyard] at hcall
  have hstride : Yard.Stride s.desk.yard m s.desk.yard.tasks (.call (.checkout m))
      (yard, reaction) := Yard.call_stride hnext
  have hreached {step : Desk × Request}
      (hstep : s.desk.call (.withConnection n url) = some step) :
      ∃ moves, run providers moves = some (s.record (.call (.withConnection n url)) step) := by
    obtain ⟨move, hmove⟩ := (takes_call ha hstep).runFrom
    exact ⟨_, (run_append hs).trans hmove⟩
  obtain ⟨q, hq, ho⟩ := hstride.offers rfl
  have hoffer := ho
  cases ho with
  | drained | full =>
    obtain ⟨es, hb⟩ := backed_of_run hs
    have hfollowed := Yard.History.followed_record (d := .call (.checkout m)) hb.followed
      (List.Perm.refl _) trivial hstride
    obtain ⟨step, hstep, hborrowing⟩ := hpoised.over (.call (.withConnection n url)) hs rfl rfl .call
      hstride ⟨_, hfollowed⟩
    exact ⟨step, hcall.trans hstep, hborrowing⟩
  | free =>
    obtain ⟨hlends, htasks⟩ := hstride.lends
    obtain ⟨moves, hrun⟩ := hreached hcall
    exact ⟨_, hcall, borrowing_work hrun hq .call hoffer hlends rfl htasks⟩
  | room hopen hfree hroom =>
    obtain ⟨⟨q', hq'⟩, slot, htasks⟩ := hstride.room
    have howned : owner? { (s.desk.hold n).push (.inPool n) with yard } m = some c := by
      change (s.desk.owners[m]?).bind (s.desk.hold n).cache? = some c
      rw [howner, Option.bind_some, cache?_hold, hc]
    have hstep := hcall.trans (ask_allocate howned hq')
    obtain ⟨moves, hrun⟩ := hreached hstep
    have hunmoved := Yard.Stride.unmoved (d := .call (.checkout m)) hstride rfl rfl
    exact ⟨_, hstep, borrowing_connecting ⟨⟨providers, moves, hrun⟩, rfl, _, htasks⟩ hq
      (.connect hopen hfree hroom) hunmoved⟩

/-- The pool that a URL leads to is the one made for its region. -/
theorem region_of_finds (hs : run providers moves = some s) (hc : s.desk.cache? n = some c)
    (hf : c.Finds url (.ok m)) : ∃ o region p, c.opened = some o ∧
      o.catalog.snapshot.Serves url region ∧ s.desk.yard.pools[m]? = some p ∧
      p.settings.region = some region := by
  cases hf with
  | @served o region m ho hserves hlookup =>
    obtain ⟨before, after, hsplit, -⟩ := List.lookup_eq_some_iff.mp hlookup
    obtain ⟨p, hp, hsettings⟩ := equipped_of_run hs n c o hc ho region m (by simp [hsplit])
    refine ⟨o, region, p, ho, hserves, hp, ?_⟩
    rw [hsettings]
    exact c.region_poolSettings o.project.name region

/-- Work on a connection is bracketed. Who calls for it on a cache that is not open, or for a URL
that no region serves, or whose region has no pool, is told so, and nothing has changed. Otherwise
the pool is the one made for the region of the first compute endpoint that meets the URL, and the
work is done on a connection borrowed from it. Every guard of a pool is bracketed alike. -/
theorem borrowing_bracketed :
    (∀ providers moves (s : History) n url, run providers moves = some s →
      s.allows (.withConnection n url) = true →
      ∃ c, s.desk.cache? n = some c ∧ c.Finds url (c.poolServing url) ∧
        (∃ r t, s.Takes (.call (.withConnection n url)) r t) ∧
        ∀ r t, s.Takes (.call (.withConnection n url)) r t →
          (∀ error, c.poolServing url = .error error →
            r = .done (.failed error) ∧ t.desk = s.desk) ∧
          ∀ m, c.poolServing url = .ok m →
            Borrowing n m s.desk.frames s (.call (.withConnection n url)) r t ∧
            ∃ o region p, c.opened = some o ∧ o.catalog.snapshot.Serves url region ∧
              s.desk.yard.pools[m]? = some p ∧ p.settings.region = some region) ∧
    ∀ moves (y : Yard.History) m p, Yard.History.run moves = some y →
      y.yard.pools[m]? = some p → y.Bracketed m := by
  refine ⟨fun providers moves s n url hs ha => ?_, fun moves y m p hy hp =>
    (Yard.History.followed_of_run hy).bracketed hp⟩
  have hsound := sound_of_run hs
  have hpos := hsound.holds_kept (kept_of_allows ha rfl).1
  obtain ⟨k, hk, -⟩ := exists_of_holders hpos
  have hc : s.desk.cache? n = some k.cache := by simp [cache?, hk]
  refine ⟨k.cache, hc, k.cache.finds_poolServing url, ?_, ?_⟩
  · cases hp : k.cache.poolServing url with
    | error error =>
      exact ⟨_, _, takes_call ha (call_withConnection_unplaced hpos hc hp)⟩
    | ok m =>
      obtain ⟨step, hstep, -⟩ := borrowing_call hs hc hp ha
      exact ⟨_, _, takes_call ha hstep⟩
  · intro r t ht
    obtain ⟨step', -, hstep', rfl, rfl⟩ := ht.of_call
    refine ⟨fun error hp => ?_, fun m hp => ?_⟩
    · have hstep := call_withConnection_unplaced hpos hc hp
      obtain rfl := Option.some.inj (hstep.symm.trans hstep')
      exact ⟨rfl, rfl⟩
    · obtain ⟨step, hstep, hborrowing⟩ := borrowing_call hs hc hp ha
      obtain rfl := Option.some.inj (hstep.symm.trans hstep')
      exact ⟨hborrowing, region_of_finds hs hc (hp ▸ k.cache.finds_poolServing url)⟩

/-- A connection is free: it was reserved and has come back. -/
def lending : List Move :=
  opening ["east"] ++ [.call (.reserve 0 "east"), .reply .succeeded, .reply .succeeded,
    .call (.release 0 "east" ⟨0, 0, 0⟩)]

theorem borrowing_bracketed_free_connection : ∃ s c t p y, run [] lending = some s ∧
    s.desk.cache? 0 = some c ∧ c.poolServing "a://east" = .ok 0 ∧
    s.Takes (.call (.withConnection 0 "a://east")) (.work ⟨0, 0, 0⟩) t ∧
    Borrowing 0 0 [] s (.call (.withConnection 0 "a://east")) (.work ⟨0, 0, 0⟩) t ∧
    s.desk.yard.pools[0]? = some p ∧ p.settings.region = some "east" ∧
    Yard.History.run (.addPool "db" ⟨0, 3⟩ {} :: Yard.History.crowd) = some y ∧ y.Bracketed 0 := by
  have hdesk : (run [] lending).bind (fun s => (s.desk.cache? 0).bind fun c =>
      (s.desk.call (.withConnection 0 "a://east")).map fun step =>
        (s.allows (.withConnection 0 "a://east"), s.desk.frames,
          (c.poolServing "a://east").toOption, c.opened.bind (·.catalog.regionOf "a://east"),
          step.2)) =
      some (true, [], some 0, some "east", .work ⟨0, 0, 0⟩) := by
    decide +kernel
  obtain ⟨s, hs, hdesk⟩ := Option.bind_eq_some_iff.mp hdesk
  obtain ⟨c, hc, hdesk⟩ := Option.bind_eq_some_iff.mp hdesk
  obtain ⟨⟨d, r⟩, hcall, hdesk⟩ := Option.map_eq_some_iff.mp hdesk
  simp only [Prod.mk.injEq] at hdesk
  obtain ⟨ha, hframes, hplace, hroute, rfl⟩ := hdesk
  have hplace := ok_of_toOption hplace
  have hy : Yard.History.run (.addPool "db" ⟨0, 3⟩ {} :: Yard.History.crowd) = some _ := rfl
  obtain ⟨c', hc', -, -, hsteps⟩ := borrowing_bracketed.1 [] lending s 0 "a://east" hs ha
  obtain rfl := Option.some.inj (hc.symm.trans hc')
  have htakes := takes_call ha hcall
  obtain ⟨hborrowing, o, region, p, ho, hserves, hp, hregion⟩ := (hsteps _ _ htakes).2 0 hplace
  rw [hframes] at hborrowing
  rw [ho, Option.bind_some, Catalog.regionOf_iff_serves.mpr hserves] at hroute
  exact ⟨s, c, _, p, _, hs, hc, hplace, htakes, hborrowing, hp, hregion.trans hroute, hy,
    borrowing_bracketed.2 _ _ 0 _ hy rfl⟩

end History
end Desk
end Tenancy
