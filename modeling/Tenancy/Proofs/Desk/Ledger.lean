import Tenancy.Proofs.Desk.Lease
import Tenancy.Proofs.Desk.Stack
import Tenancy.Proofs.Yard.Stock

namespace Tenancy.Desk

variable {errand : Errand} {kept hand : List Thing} {d d' : Desk} {news : List (Nat × Snapshot)}
  {log entries : List Entry} {x y : Scene} {frames : List Frame}

def Entry.opened? : Entry → Option Connection
  | .connected _ connection => some connection
  | .closed _ => none

def Entry.closed? : Entry → Option Connection
  | .connected .. => none
  | .closed connection => some connection

/-- What the connector made. -/
def opened (log : List Entry) : List Connection := log.filterMap Entry.opened?

/-- What the connector was told to close. -/
def closed (log : List Entry) : List Connection := log.filterMap Entry.closed?

def Frame.login? : Frame → Option Connection
  | .loggingIn connection => some connection
  | _ => none

/-- The connections that log in. -/
def logins (d : Desk) : List Connection := d.frames.filterMap Frame.login?

/-- The connections that the yard has. -/
def stocked (d : Desk) : List Connection := d.yard.stock.filterMap (d.connections[·]?)

/-- Where every connection is that the connector ever made: it logs in, or the yard has it, or the
connector was told to close it. Each is in one place. -/
structure Ledger (log : List Entry) (d : Desk) : Prop where
  distinct : ((opened log).map Connection.number).Nodup
  past : ∀ connection ∈ opened log, connection.number < d.connected
  counted : d.yard.created = d.connections.length
  apart : (d.connections ++ d.logins).Nodup
  known : ∀ connection ∈ d.connections ++ d.logins, connection ∈ opened log
  traced : ∀ m number, d.yard.Stocks m number →
    ∃ connection, d.connections[number]? = some connection ∧ .connected m connection ∈ log
  accounts : (opened log).Perm (d.logins ++ d.stocked ++ closed log)

theorem mem_opened {connection : Connection} :
    connection ∈ opened log ↔ ∃ m, .connected m connection ∈ log := by
  simp only [opened, List.mem_filterMap]
  constructor
  · rintro ⟨e, he, h⟩
    cases e with
    | connected m c =>
      cases h
      exact ⟨m, he⟩
    | closed => cases h
  · rintro ⟨m, h⟩
    exact ⟨_, h, rfl⟩

theorem Passing.places {connections : List Connection} {reaction : Yard.Reaction}
    {tops : List Frame} (h : Passing connections reaction tops entries) (deed : Yard.Deed)
    (next : Nat) :
    tops.filterMap Frame.login? = [] ∧ opened entries = [] ∧ closed entries =
      (Yard.destroyed [⟨deed, next, reaction⟩]).filterMap (connections[·]?) := by
  cases h with
  | destroy hc => exact ⟨rfl, rfl, by simp [Yard.destroyed, Yard.Event.destroyed?, closed,
      Entry.closed?, hc]⟩
  | _ => exact ⟨rfl, rfl, rfl⟩

/-- What the yard is told has been made is the connection that logged in. -/
theorem Awaits.made {f : Frame} {task : Yard.Task} {r : Yard.Reply} {made : List Connection}
    (h : Awaits log f task) (hr : f.Tells r made) (next : Nat) (reaction : Yard.Reaction) :
    [f].filterMap Frame.login? = made ∧
      (Yard.made [⟨.answer task r, next, reaction⟩]).map Slot.resource =
        List.range' next made.length ∧
      ∀ connection ∈ made, .connected task.pool connection ∈ log := by
  cases hr with
  | loggedIn =>
    cases h with
    | loggingIn slot use h =>
      refine ⟨rfl, rfl, fun c hc => ?_⟩
      obtain rfl := List.mem_singleton.mp hc
      exact h
  | _ => cases h <;> exact ⟨rfl, rfl, by simp⟩

/-- What a step of the yard brings from the frames into the yard, and out of it. -/
structure Transfer (log : List Entry) (d : Desk) (deed : Yard.Deed) (reaction : Yard.Reaction)
    (frames : List Frame) (made : List Connection) (entries : List Entry) : Prop where
  logins : d.logins = made ++ frames.filterMap Frame.login?
  resources : (Yard.made [⟨deed, d.yard.created, reaction⟩]).map Slot.resource =
    List.range' d.yard.created made.length
  known : ∀ connection ∈ made, .connected deed.pool connection ∈ log
  opened : opened entries = []
  closed : closed entries =
    (Yard.destroyed [⟨deed, d.yard.created, reaction⟩]).filterMap ((d.connections ++ made)[·]?)

theorem Shift.transfer {deed : Yard.Deed} {reaction : Yard.Reaction} {made : List Connection}
    {serves : Yard.Task → Frame → Prop} (h : Shift d deed reaction frames made entries)
    (hd : Stacked log serves d.frames d.yard.tasks) {rest : List Yard.Task}
    (ht : d.yard.tasks = deed.answered ++ rest) :
    Transfer log d deed reaction frames made entries := by
  cases h with
  | @call c n _ tops _ below hf hn hx =>
    obtain ⟨hlogins, hopened, hclosed⟩ := hx.places (.call c) d.yard.created
    refine ⟨?_, rfl, by simp, hopened, ?_⟩
    · rw [logins, hf, List.filterMap_append, hlogins]
      rfl
    · rw [hclosed, List.append_nil]
  | @drain pool left count count' after _ tops _ below hf hx =>
    obtain ⟨hlogins, hopened, hclosed⟩ := hx.places (.call (.drain pool)) d.yard.created
    refine ⟨?_, rfl, by simp, hopened, ?_⟩
    · rw [logins, hf, List.filterMap_append, hlogins]
      rfl
    · rw [hclosed, List.append_nil]
  | @answer task r f _ _ tops _ below hf hr hx =>
    rw [hf, ht] at hd
    obtain ⟨b, under, task', tasks, rfl, htask, hw, -⟩ := hd.of_waits hr.isPlain
    cases htask
    obtain ⟨hlogins, hopened, hclosed⟩ := hx.places (.answer task r) d.yard.created
    obtain ⟨hlogin, hmade, hlog⟩ := hw.made hr d.yard.created reaction
    refine ⟨?_, hmade, hlog, hopened, hclosed⟩
    rw [logins, hf, List.filterMap_append, hlogins, ← List.singleton_append,
      List.filterMap_append, hlogin]
    rfl

/-- What stands behind the numbers after those in use. -/
theorem filterMap_range' {α : Type} (xs ys : List α) :
    (List.range' xs.length ys.length).filterMap ((xs ++ ys)[·]?) = ys := by
  induction ys generalizing xs with
  | nil => rfl
  | cons y ys ih =>
    have hrest := ih (xs ++ [y])
    rw [List.length_append, List.append_assoc] at hrest
    rw [List.length_cons, List.range'_succ, List.filterMap_cons_some (b := y) (by simp)]
    exact congrArg (y :: ·) hrest

/-- What was made and what the yard had, is what it gives up and what it has after the step. -/
theorem Ledger.stocked_pass {deed : Yard.Deed} {yard : Yard} {reaction : Yard.Reaction}
    {made : List Connection} {rest : List Yard.Task} (hl : Ledger log d)
    (hu : ∀ (m : Nat) (p : Pool), d.yard.pools[m]? = some p → (p.loaned.map Slot.id).Nodup)
    (ht : d.yard.tasks = deed.answered ++ rest)
    (hs : Yard.Stride d.yard deed.pool rest deed (yard, reaction))
    (hp : Transfer log d deed reaction frames made entries) :
    (made ++ d.stocked).Perm (closed entries ++
      stocked { d with yard, frames, connections := d.connections ++ made }) := by
  have hstock := (hs.stock ht (hu deed.pool)).filterMap ((d.connections ++ made)[·]?)
  rw [List.filterMap_append, List.filterMap_append, hp.resources, hl.counted, filterMap_range',
    ← hl.counted, ← hp.closed] at hstock
  -- what the yard had before stands where it stood
  have hstocked : d.yard.stock.filterMap ((d.connections ++ made)[·]?) = d.stocked := by
    refine List.filterMap_congr fun number hm => ?_
    obtain ⟨m, hm⟩ := Yard.mem_stock.mp hm
    obtain ⟨connection, hc, -⟩ := hl.traced m number hm
    exact List.getElem?_append_left (List.getElem?_eq_some_iff.mp hc).1
  rw [hstocked] at hstock
  exact hstock

theorem Ledger.pass {deed : Yard.Deed} {yard : Yard} {reaction : Yard.Reaction}
    {made : List Connection} {rest : List Yard.Task} (hl : Ledger log d)
    (hu : ∀ (m : Nat) (p : Pool), d.yard.pools[m]? = some p → (p.loaned.map Slot.id).Nodup)
    (ht : d.yard.tasks = deed.answered ++ rest)
    (hs : Yard.Stride d.yard deed.pool rest deed (yard, reaction))
    (hp : Transfer log d deed reaction frames made entries) :
    Ledger (entries ++ log)
      { d with yard, frames, connections := d.connections ++ made } := by
  have hstock := hl.stocked_pass hu ht hs hp
  obtain ⟨distinct, past, counted, apart, known, traced, accounts⟩ := hl
  obtain ⟨hlogins, hmade, hlog, hopened, -⟩ := hp
  have hsame : opened (entries ++ log) = opened log := by
    rw [opened, List.filterMap_append]
    exact congrArg (· ++ opened log) hopened
  have hplaces : (d.connections ++ d.logins).Perm
      ((d.connections ++ made) ++ frames.filterMap Frame.login?) := by
    rw [hlogins, List.append_assoc]
  rw [counted] at hmade
  refine ⟨hsame ▸ distinct, hsame ▸ past, ?_, hplaces.nodup_iff.mp apart, ?_, ?_, ?_⟩
  · obtain ⟨p, p', new, -, turn, -, -⟩ := hs
    have hlength := congrArg List.length hmade
    rw [List.length_map, List.length_range'] at hlength
    rw [List.length_append, ← hlength, ← counted]
    exact turn.created_eq
  · intro connection hc
    rw [hsame]
    exact known connection (hplaces.symm.subset hc)
  · intro m number hstocks
    obtain hold | ⟨rfl, hnew⟩ := hs.stocks ht (hu deed.pool) hstocks
    · obtain ⟨connection, hc, hm⟩ := traced m number hold
      refine ⟨connection, ?_, List.mem_append_right _ hm⟩
      rw [List.getElem?_append_left (List.getElem?_eq_some_iff.mp hc).1]
      exact hc
    · rw [counted, hmade] at hnew
      obtain ⟨i, hi, rfl⟩ := List.mem_range'.mp hnew
      refine ⟨made[i], ?_, List.mem_append_right _ (hlog _ (List.getElem_mem hi))⟩
      simp [hi]
  · rw [hsame]
    refine accounts.trans (List.perm_iff_count.mpr fun connection => ?_)
    have hcount := hstock.count_eq connection
    have hnew : closed (entries ++ log) = closed entries ++ closed log := List.filterMap_append
    rw [hlogins, hnew]
    simp only [List.count_append] at hcount ⊢
    change _ = (frames.filterMap Frame.login?).count connection +
      (stocked { d with yard, frames, connections := d.connections ++ made }).count connection + _
    omega

/-- The connections stay where they are. -/
theorem Ledger.same (hl : Ledger log d) (hs : d'.yard.stock = d.yard.stock)
    (hm : ∀ m number, d'.yard.Stocks m number → d.yard.Stocks m number)
    (hy : d'.yard.created = d.yard.created) (hc : d'.connections = d.connections)
    (hn : d'.connected = d.connected) (hf : d'.logins = d.logins) : Ledger log d' := by
  obtain ⟨distinct, past, counted, apart, known, traced, accounts⟩ := hl
  refine ⟨distinct, hn ▸ past, ?_, ?_, ?_, ?_, ?_⟩
  · rw [hy, hc, counted]
  · rwa [hc, hf]
  · rwa [hc, hf]
  · intro m number hx
    rw [hc]
    exact traced m number (hm m number hx)
  · rwa [hf, stocked, hs, hc]

/-- The connector makes a connection, with the next number. -/
theorem Ledger.connect {m : Nat} {connection : Connection} (hl : Ledger log d)
    (hf : d.frames = .connecting m :: frames) (hn : connection.number = d.connected) :
    Ledger (.connected m connection :: log)
      { d with connected := d.connected + 1, frames := .loggingIn connection :: frames } := by
  obtain ⟨distinct, past, counted, apart, known, traced, accounts⟩ := hl
  have hlogins : d.logins = frames.filterMap Frame.login? := by
    rw [logins, hf]
    rfl
  have hnew : ∀ c ∈ opened log, c.number ≠ connection.number :=
    fun c hc => Nat.ne_of_lt (hn ▸ past c hc)
  rw [hlogins] at apart known accounts
  refine ⟨?_, ?_, counted, ?_, ?_, ?_, ?_⟩
  · refine List.nodup_cons.mpr ⟨fun hm => ?_, distinct⟩
    obtain ⟨c, hc, he⟩ := List.mem_map.mp hm
    exact hnew c hc he
  · intro c hc
    rcases List.mem_cons.mp hc with rfl | hc
    · exact hn ▸ Nat.lt_succ_self _
    · exact Nat.lt_succ_of_lt (past c hc)
  · have hout : connection ∉ d.connections ++ frames.filterMap Frame.login? :=
      fun hm => hnew connection (known connection hm) rfl
    exact List.perm_middle.nodup_iff.mpr (List.nodup_cons.mpr ⟨hout, apart⟩)
  · intro c hc
    rcases List.mem_cons.mp (List.perm_middle.subset hc) with rfl | hc
    · exact List.mem_cons_self
    · exact List.mem_cons_of_mem _ (known c hc)
  · intro k number hx
    obtain ⟨c, hc, hm⟩ := traced k number hx
    exact ⟨c, hc, List.mem_cons_of_mem _ hm⟩
  · exact accounts.cons connection

/-- A connection that did not log in is closed. -/
theorem Ledger.abandon {connection : Connection} (hl : Ledger log d)
    (hf : d.frames = .loggingIn connection :: frames) :
    Ledger (.closed connection :: log) { d with frames := .abandoning :: frames } := by
  obtain ⟨distinct, past, counted, apart, known, traced, accounts⟩ := hl
  have hlogins : d.logins = connection :: frames.filterMap Frame.login? := by
    rw [logins, hf]
    rfl
  rw [hlogins] at apart known accounts
  have hsub : (d.connections ++ frames.filterMap Frame.login?).Sublist
      (d.connections ++ connection :: frames.filterMap Frame.login?) :=
    (List.sublist_cons_self _ _).append_left _
  refine ⟨distinct, past, counted, apart.sublist hsub, fun c hc => known c (hsub.subset hc), ?_, ?_⟩
  · intro m number hx
    obtain ⟨c, hc, hm⟩ := traced m number hx
    exact ⟨c, hc, List.mem_cons_of_mem _ hm⟩
  · exact accounts.trans List.perm_middle.symm

/-- No slot of a pool is on loan twice. -/
theorem Backed.distinct (hb : Backed kept x) (m : Nat) (p : Pool)
    (hp : x.desk.yard.pools[m]? = some p) : (p.loaned.map Slot.id).Nodup := by
  obtain ⟨es, hf, -⟩ := hb
  exact (hf.1 m p hp).numbered.loaned_distinct

theorem Frame.login?_of_isPlain {f : Frame} (h : f.isPlain = true) : f.login? = none := by
  cases f with
  | loggingIn => cases h
  | _ => rfl

/-- Every change keeps each connection in one place. -/
theorem Act.ledger (h : Act errand kept x entries y) (hb : Backed kept x)
    (ho : Ordered log x.desk) (hl : Ledger log x.desk) : Ledger (entries ++ log) y.desk := by
  cases h with
  | @work d hand news deed yard reaction frames made entries _ hy hs =>
    obtain ⟨rest, ht, hstride⟩ := hy.stride
    exact hl.pass hb.distinct ht hstride (hs.transfer ho.stacked ht)
  | @giveBack d hand news yard reaction lease hy =>
    obtain rfl := release_things hy
    have hstride : Yard.Stride d.yard (Yard.Deed.call (.release lease.pool lease)).pool
        d.yard.tasks (.call (.release lease.pool lease)) (yard, .done .returned) :=
      Yard.call_stride hy
    have hpass : Ledger ([] ++ log)
        { d with yard, frames := d.frames, connections := d.connections ++ [] } :=
      hl.pass hb.distinct rfl hstride ⟨rfl, rfl, by simp, rfl, rfl⟩
    simpa using hpass
  | @openTenant d hand news n c catalog bounds s project =>
    have hempty : ∀ p ∈ s.regions.map (c.newPool bounds project.name), p.slots = [] := by
      intro p hp
      obtain ⟨region, -, rfl⟩ := List.mem_map.mp hp
      rfl
    have hpools := pools_openTenant (d := d) n c catalog bounds s project
    obtain ⟨htasks, hcreated, -⟩ := work_openTenant d n c catalog bounds s project
    exact hl.same (Yard.stock_addPools hempty hpools htasks)
      (fun m number => Yard.stocks_addPools hempty hpools htasks)
      hcreated rfl rfl rfl
  | connect hf hn => exact hl.connect hf hn
  | abandon hf => exact hl.abandon hf
  | recount hf =>
    refine hl.same rfl (fun _ _ h => h) rfl rfl rfl ?_
    rw [logins, logins, hf]
    rfl
  | pop hf hs =>
    refine hl.same rfl (fun _ _ h => h) rfl rfl rfl ?_
    rw [logins, logins, hf, List.filterMap_cons_none (Frame.login?_of_isPlain
      (Frame.isPlain_of_isSpent hs))]
  | push hf =>
    refine hl.same rfl (fun _ _ h => h) rfl rfl rfl ?_
    exact List.filterMap_cons_none (Frame.login?_of_isPlain hf.isPlain)
  | _ => exact hl.same rfl (fun _ _ h => h) rfl rfl rfl rfl

theorem Ledger.opened_nodup (hl : Ledger log d) : (opened log).Nodup := hl.distinct.of_map

/-- No connection is closed twice, and only what the connector made is closed. -/
theorem Ledger.closed_once (hl : Ledger log d) : (closed log).Nodup ∧ closed log ⊆ opened log :=
  ⟨(hl.accounts.nodup_iff.mp hl.opened_nodup).of_append_right,
    fun _ hc => hl.accounts.symm.subset (List.mem_append_right _ hc)⟩

/-- A connection was made for one pool. -/
theorem one_pool {m k : Nat} {connection : Connection} (h : (opened log).Nodup)
    (hm : .connected m connection ∈ log) (hk : .connected k connection ∈ log) : k = m := by
  induction log with
  | nil => cases hm
  | cons e log ih =>
    cases e with
    | closed c => exact ih h (by simpa using hm) (by simpa using hk)
    | connected j c =>
      obtain ⟨hnew, h⟩ := List.nodup_cons.mp h
      simp only [List.mem_cons, Entry.connected.injEq] at hm hk
      obtain ⟨rfl, rfl⟩ | hm := hm
      · obtain ⟨rfl, -⟩ | hk := hk
        · rfl
        · exact absurd (mem_opened.mpr ⟨k, hk⟩) hnew
      · obtain ⟨-, rfl⟩ | hk := hk
        · exact absurd (mem_opened.mpr ⟨m, hm⟩) hnew
        · exact ih h hm hk

/-- Where a pool is empty and no operation is about it, all that was made for it has been closed. -/
theorem Ledger.all_closed {m : Nat} {connection : Connection} {serves : Yard.Task → Frame → Prop}
    (hl : Ledger log d) (hd : Stacked log serves d.frames d.yard.tasks)
    (hp : ∀ p, d.yard.pools[m]? = some p → p.slots = [])
    (ht : ∀ task ∈ d.yard.tasks, task.pool ≠ m) (hc : .connected m connection ∈ log) :
    (closed log).count connection = 1 := by
  have hone : (opened log).count connection = 1 :=
    List.count_eq_one_of_mem hl.opened_nodup (mem_opened.mpr ⟨m, hc⟩)
  rw [hl.accounts.count_eq, List.count_append, List.count_append] at hone
  have hlogins : d.logins.count connection = 0 := by
    refine List.count_eq_zero.mpr fun hm => ?_
    obtain ⟨f, hf, hlogin⟩ := List.mem_filterMap.mp hm
    have hplain : f.isPlain = false := by
      cases f with
      | loggingIn => rfl
      | _ => cases hlogin
    obtain ⟨task, htask, hw⟩ := hd.exists_awaits hf hplain
    cases hw with
    | loggingIn slot use hk =>
      cases hlogin
      exact ht _ htask (one_pool hl.opened_nodup hc hk)
    | _ => cases hlogin
  have hstocked : d.stocked.count connection = 0 := by
    refine List.count_eq_zero.mpr fun hm => ?_
    obtain ⟨number, hnumber, hat⟩ := List.mem_filterMap.mp hm
    obtain ⟨k, hstocks⟩ := Yard.mem_stock.mp hnumber
    obtain ⟨c, hc', hk⟩ := hl.traced k number hstocks
    obtain rfl := Option.some.inj (hc'.symm.trans hat)
    obtain rfl := one_pool hl.opened_nodup hc hk
    rcases hstocks with ⟨p, hpool, hx⟩ | ⟨task, htask, hpool, -⟩
    · rw [hp p hpool] at hx
      cases hx
    · exact ht task htask hpool
  omega

namespace History

variable {s : History} {moves : List Move} {providers : List Config.Provider}

theorem ledger_of_run (hs : run providers moves = some s) : Ledger s.log s.desk := by
  have hempty : Ledger [] { providers } := by
    refine ⟨List.nodup_nil, by simp [opened], rfl, List.nodup_nil, ?_, ?_, .nil⟩
    · intro c hc
      cases hc
    · rintro m number (⟨p, hp, -⟩ | ⟨task, ht, -⟩)
      · cases hp
      · cases ht
  exact (runFrom_invariant (s := ⟨{ providers }, []⟩)
    (P := fun log kept x => Backed kept x ∧ x.desk.Listed ∧ Ordered log x.desk ∧
      Ledger log x.desk)
    (fun h hs hx => by
      obtain ⟨hb, hl, ho, hledger⟩ := hx
      exact ⟨h.backed hb, h.listed hs hl, h.ordered hs hl ho, h.ledger hb ho hledger⟩)
    (fun hperm hx => hx.imp_left (Backed.move hperm)) (sound_start providers)
    ⟨backed_start providers, fun m n hm => by simp at hm, ⟨.nil, fun _ _ _ hm => by cases hm⟩,
      hempty⟩
    hs).2.2.2.2

end History

end Tenancy.Desk
