import Tenancy.Proofs.Tables
import Tenancy.Rehearsal.Catalog

namespace Tenancy.Catalog

/-- A step of a run. -/
inductive Event where
  /-- An authentication begins and asks the identity service. -/
  | asked (request : AuthRequest)
  /-- An authentication ends before the identity service is asked. -/
  | refused (error : CatalogError)
  /-- An authentication ends after the identity service answered. -/
  | ended (now : Instant) (answer : Except IdentityError Grant)
      (result : Except CatalogError Snapshot)
  /-- An authentication ends because the identity service broke down. -/
  | unwound
  /-- Somebody reads the catalog. -/
  | read (snapshot : Snapshot)
  /-- Somebody takes the snapshot, to look at it under that name. -/
  | taken (name : String) (snapshot : Snapshot)
  /-- Somebody looks at a snapshot that was taken before. -/
  | seen (name : String) (snapshot : Snapshot)

namespace Event

/-- The snapshot of an authentication that ends well. -/
def published? : Event → Option Snapshot
  | ended _ _ (.ok s) => some s
  | _ => none

/-- An authentication ends, and not well. -/
def fails : Event → Bool
  | refused _ | ended _ _ (.error _) | unwound => true
  | _ => false

/-- An authentication begins, or it ends and not well. -/
def isIdle (e : Event) : Bool :=
  match e with
  | asked _ => true
  | e => e.fails

/-- A snapshot is taken under that name. -/
def takes (name : String) : Event → Bool
  | taken name' _ => name' == name
  | _ => false

theorem published?_of_isIdle {e : Event} (h : e.isIdle = true) : e.published? = none := by
  cases e with
  | ended _ _ result =>
    cases result with
    | error error => rfl
    | ok snapshot => cases h
  | _ => rfl

theorem takes_of_isIdle {e : Event} (h : e.isIdle = true) (name : String) :
    e.takes name = false := by
  cases e with
  | taken => cases h
  | _ => rfl

end Event

/-- A catalog, how many authentications wait, what readers have taken, and the steps, the latest
first. -/
structure History where
  catalog : Catalog
  waiting : Nat := 0
  held : List (String × Snapshot) := []
  events : List Event := []

inductive Move where
  | init
  | answer (now : Instant) (answer : Except IdentityError Grant)
  | unwind
  | read
  | take (name : String)
  | look (name : String)

namespace History

def record (s : History) (e : Event) : History := { s with events := e :: s.events }

/-- One step of a run. -/
def advance (s : History) : Move → Option History
  | .init =>
    match s.catalog.request? with
    | .ok request => some { s.record (.asked request) with waiting := s.waiting + 1 }
    | .error error => some (s.record (.refused error))
  | .answer now answer =>
    if s.waiting = 0 then none
    else
      let result := s.catalog.evaluate now answer
      let catalog := match result with
        | .ok snapshot => s.catalog.publish snapshot
        | .error _ => s.catalog
      some { s.record (.ended now answer result) with catalog, waiting := s.waiting - 1 }
  | .unwind =>
    if s.waiting = 0 then none
    else some { s.record .unwound with waiting := s.waiting - 1 }
  | .read => some (s.record (.read s.catalog.snapshot))
  | .take name => some { s.record (.taken name s.catalog.snapshot) with
      held := (name, s.catalog.snapshot) :: s.held }
  | .look name => (s.held.lookup name).map fun snapshot => s.record (.seen name snapshot)

def runFrom (s : History) (moves : List Move) : Option History := moves.foldlM advance s

/-- The run of those moves from a catalog nobody has authenticated, if they can all be made. -/
def run (version : IdentityVersion) (target : CatalogTarget) (moves : List Move) :
    Option History :=
  runFrom { catalog := ⟨version, target, {}⟩ } moves

end History

variable {version : IdentityVersion} {target : CatalogTarget} {s s' t : History}
  {moves : List Move} {move : Move} {e : Event} {events earlier later : List Event}
  {snapshot : Snapshot} {name : String}

/-- After those steps that snapshot is current: nobody has authenticated the catalog and it is the
one a catalog begins with, or it is that of the authentication that ended well last. -/
def Stands (version : IdentityVersion) (events : List Event) (snapshot : Snapshot) : Prop :=
  (snapshot = {} ∧ ∀ e ∈ events, e.published? = none) ∨
    ∃ later now grant earlier,
      events = later ++ .ended now (.ok grant) (.ok snapshot) :: earlier ∧
      Snapshot.ofGrant version now grant = .ok snapshot ∧ ∀ e ∈ later, e.published? = none

/-- What a step hands out after those steps: a reader gets the current snapshot, and whoever looks
at one that was taken sees the same again. -/
def Hands (version : IdentityVersion) (earlier : List Event) : Event → Prop
  | .read snapshot | .taken _ snapshot => Stands version earlier snapshot
  | .seen name snapshot => ∃ between before, earlier = between ++ .taken name snapshot :: before ∧
      (∀ e ∈ between, e.takes name = false) ∧ Stands version before snapshot
  | _ => True

theorem Stands.keeps (h : Stands version events snapshot) (he : e.published? = none) :
    Stands version (e :: events) snapshot := by
  obtain ⟨rfl, hnone⟩ | ⟨later, now, grant, earlier, rfl, hmade, hnone⟩ := h
  · exact .inl ⟨rfl, List.forall_mem_cons.mpr ⟨he, hnone⟩⟩
  · exact .inr ⟨e :: later, now, grant, earlier, rfl, hmade, List.forall_mem_cons.mpr ⟨he, hnone⟩⟩

theorem Stands.coherent (h : Stands version events snapshot) : snapshot.tables.Coherent := by
  obtain ⟨rfl, -⟩ | ⟨-, now, grant, -, -, hmade, -⟩ := h
  · exact Snapshot.named_empty.coherent
  · exact (Snapshot.named_ofGrant hmade).coherent

namespace History

/-- What a step may do to the catalog and to what readers have taken. -/
inductive Step (s : History) : Event → Catalog → List (String × Snapshot) → Prop
  /-- An authentication begins, or it ends and not well. -/
  | idle (e : Event) (he : e.isIdle = true) : Step s e s.catalog s.held
  | publishes (now : Instant) (grant : Grant) (snapshot : Snapshot)
      (h : Snapshot.ofGrant s.catalog.version now grant = .ok snapshot) :
      Step s (.ended now (.ok grant) (.ok snapshot)) (s.catalog.publish snapshot) s.held
  | reads : Step s (.read s.catalog.snapshot) s.catalog s.held
  | takes (name : String) :
      Step s (.taken name s.catalog.snapshot) s.catalog ((name, s.catalog.snapshot) :: s.held)
  | looks (name : String) (snapshot : Snapshot) (h : s.held.lookup name = some snapshot) :
      Step s (.seen name snapshot) s.catalog s.held

theorem step_of_advance (h : s.advance move = some s') :
    ∃ e, s'.events = e :: s.events ∧ s.Step e s'.catalog s'.held := by
  cases move with
  | init =>
    simp only [advance] at h
    split at h <;> cases h
    · exact ⟨_, rfl, .idle _ rfl⟩
    · exact ⟨_, rfl, .idle _ rfl⟩
  | answer now answer =>
    simp only [advance] at h
    split at h
    · cases h
    · cases h
      refine ⟨_, rfl, ?_⟩
      cases answer with
      | error error => exact .idle _ rfl
      | ok grant =>
        cases hresult : s.catalog.evaluate now (.ok grant) with
        | error error => exact .idle _ rfl
        | ok snapshot => exact .publishes now grant snapshot hresult
  | unwind =>
    simp only [advance] at h
    split at h <;> cases h
    exact ⟨_, rfl, .idle _ rfl⟩
  | read =>
    cases h
    exact ⟨_, rfl, .reads⟩
  | take name =>
    cases h
    exact ⟨_, rfl, .takes name⟩
  | look name =>
    obtain ⟨snapshot, hlookup, rfl⟩ := Option.map_eq_some_iff.mp h
    exact ⟨_, rfl, .looks name snapshot hlookup⟩

/-- What holds of every catalog that is used in order. -/
structure Sound (v : IdentityVersion) (s : History) : Prop where
  version : s.catalog.version = v
  current : Stands v s.events s.catalog.snapshot
  held : ∀ name snapshot, s.held.lookup name = some snapshot →
    Hands v s.events (.seen name snapshot)
  handed : ∀ later e earlier, s.events = later ++ e :: earlier → Hands v earlier e
  published : ∀ e ∈ s.events, ∀ snapshot, e.published? = some snapshot → ∃ now grant,
    e = .ended now (.ok grant) (.ok snapshot) ∧ Snapshot.ofGrant v now grant = .ok snapshot

section Step

variable {v : IdentityVersion} {c : Catalog} {held : List (String × Snapshot)}

theorem Step.same_version (h : s.Step e c held) : c.version = s.catalog.version := by
  cases h <;> rfl

theorem Step.current (h : s.Step e c held) (hs : s.Sound v) :
    Stands v (e :: s.events) c.snapshot := by
  cases h with
  | idle e he => exact hs.current.keeps (Event.published?_of_isIdle he)
  | publishes now grant snapshot hmade =>
    rw [hs.version] at hmade
    exact .inr ⟨[], now, grant, s.events, rfl, hmade, nofun⟩
  | reads | takes | looks => exact hs.current.keeps rfl

theorem Step.hands (h : s.Step e c held) (hs : s.Sound v) : Hands v s.events e := by
  cases h with
  | idle e he =>
    cases e with
    | read | taken | seen => cases he
    | _ => trivial
  | publishes => trivial
  | reads => exact hs.current
  | takes => exact hs.current
  | looks name snapshot hlookup => exact hs.held name snapshot hlookup

/-- What was taken stays as it was taken until something else is taken under its name. -/
theorem Step.sees (h : s.Step e c held) (hs : s.Sound v) (hl : held.lookup name = some snapshot) :
    Hands v (e :: s.events) (.seen name snapshot) := by
  have hkeeps (ht : e.takes name = false) (hl : s.held.lookup name = some snapshot) :
      Hands v (e :: s.events) (.seen name snapshot) := by
    obtain ⟨between, before, hevents, hnone, hstood⟩ := hs.held name snapshot hl
    exact ⟨e :: between, before, congrArg (e :: ·) hevents,
      List.forall_mem_cons.mpr ⟨ht, hnone⟩, hstood⟩
  cases h with
  | idle e he => exact hkeeps (Event.takes_of_isIdle he name) hl
  | publishes | reads | looks => exact hkeeps rfl hl
  | takes name' =>
    rw [List.lookup_cons] at hl
    by_cases hname : name = name'
    · subst hname
      simp only [beq_self_eq_true, Option.some.injEq] at hl
      subst hl
      exact ⟨[], s.events, rfl, nofun, hs.current⟩
    · rw [beq_false_of_ne hname] at hl
      exact hkeeps (beq_false_of_ne (Ne.symm hname)) hl

theorem Step.published (h : s.Step e c held) (hs : s.Sound v) (he : e.published? = some snapshot) :
    ∃ now grant, e = .ended now (.ok grant) (.ok snapshot) ∧
      Snapshot.ofGrant v now grant = .ok snapshot := by
  cases h with
  | idle e hidle => cases (Event.published?_of_isIdle hidle).symm.trans he
  | publishes now grant snapshot hmade =>
    cases he
    exact ⟨now, grant, rfl, hs.version ▸ hmade⟩
  | reads | takes | looks => cases he

theorem Step.leaves (h : s.Step e c held) (he : e.fails = true) : c = s.catalog := by
  cases h with
  | publishes => cases he
  | idle | reads | takes | looks => rfl

theorem sound_start (v : IdentityVersion) (target : CatalogTarget) :
    Sound v { catalog := ⟨v, target, {}⟩ } where
  version := rfl
  current := .inl ⟨rfl, nofun⟩
  held := nofun
  handed later e earlier h := by
    cases later <;> cases h
  published := nofun

theorem Sound.advance (hs : s.Sound v) (h : s.advance move = some s') : s'.Sound v := by
  obtain ⟨e, hevents, hstep⟩ := step_of_advance h
  refine ⟨hstep.same_version.trans hs.version, ?_, ?_, ?_, ?_⟩
  · rw [hevents]
    exact hstep.current hs
  · intro name snapshot hl
    rw [hevents]
    exact hstep.sees hs hl
  · intro later e' earlier hsplit
    rw [hevents] at hsplit
    cases later with
    | nil =>
      cases hsplit
      exact hstep.hands hs
    | cons e'' later =>
      obtain ⟨-, hsplit⟩ := List.cons.inj hsplit
      exact hs.handed later e' earlier hsplit
  · rw [hevents]
    exact List.forall_mem_cons.mpr ⟨fun _ => hstep.published hs, hs.published⟩

theorem sound_of_run {v : IdentityVersion} (hs : run v target moves = some s) : s.Sound v :=
  foldlM_invariant (sound_start v target) (fun _ _ _ _ => Sound.advance) hs

end Step

/-- The current snapshot is the one a catalog begins with until an authentication ends well, and
then that of the one that ended well last; one that does not end well leaves it. What was handed out
stays as it was handed out. The tables of every snapshot fit together. -/
theorem publication_atomic (hs : run version target moves = some s) :
    Stands version s.events s.catalog.snapshot ∧
      (∀ move s', s.advance move = some s' → ∃ e, s'.events = e :: s.events ∧
        (e.fails = true → s'.catalog = s.catalog)) ∧
      (∀ later e earlier, s.events = later ++ e :: earlier → Hands version earlier e) ∧
      s.catalog.snapshot.tables.Coherent ∧
      ∀ e ∈ s.events, ∀ snapshot, e.published? = some snapshot → snapshot.tables.Coherent ∧
        ∃ now grant, e = .ended now (.ok grant) (.ok snapshot) ∧
          Tables.ofGrant version now grant = .ok snapshot.tables := by
  obtain ⟨hversion, hcurrent, -, hhanded, hpublished⟩ := sound_of_run hs
  refine ⟨hcurrent, ?_, hhanded, hcurrent.coherent, ?_⟩
  · intro move s' h
    obtain ⟨e, hevents, hstep⟩ := step_of_advance h
    exact ⟨e, hevents, hstep.leaves⟩
  · intro e he snapshot hsnapshot
    obtain ⟨now, grant, rfl, hmade⟩ := hpublished e he snapshot hsnapshot
    refine ⟨(Snapshot.named_ofGrant hmade).coherent, now, grant, rfl, ?_⟩
    rw [Tables.ofGrant_eq, hmade]
    rfl

/-- One endpoint in that region. -/
def grantIn (region : String) : Grant where
  token := ⟨"token", ⟨0, 0, 0⟩, ⟨0, 3600, 0⟩⟩
  project := ⟨"id", "demo"⟩
  catalog := [{ type := "compute", endpoints := [⟨region, "a://" ++ region, none⟩] }]

/-- While one authentication waits, another ends well; then the first fails. A snapshot taken
between is looked at when a third has ended well. -/
def nesting : List Move :=
  [.init, .init, .answer 0 (.ok (grantIn "east")), .take "first",
    .answer 0 (.error (.unreachable "")), .init, .answer 0 (.ok (grantIn "west")), .look "first"]

theorem publication_atomic_nesting : ∃ s first,
    run .v2 ⟨"a:/v2", "demo", none, ⟨"ops", "secret"⟩, {}⟩ nesting = some s ∧
    s.catalog.snapshot.regions = ["west"] ∧ s.held = [("first", first)] ∧
    first.regions = ["east"] ∧ Stands .v2 s.events s.catalog.snapshot ∧
    s.catalog.snapshot.tables.Coherent := by
  have hrun : (run .v2 ⟨"a:/v2", "demo", none, ⟨"ops", "secret"⟩, {}⟩ nesting).map (fun s =>
      (s.catalog.snapshot.regions, s.held.map fun x => (x.1, x.2.regions))) =
      some (["west"], [("first", ["east"])]) := by
    decide +kernel
  obtain ⟨s, hs, hread⟩ := Option.map_eq_some_iff.mp hrun
  obtain ⟨hregions, hheld⟩ := Prod.mk.inj hread
  obtain ⟨x, rest, hheld, hx, hrest⟩ := List.map_eq_cons_iff.mp hheld
  obtain rfl := List.map_eq_nil_iff.mp hrest
  obtain ⟨name, first⟩ := x
  obtain ⟨rfl, hfirst⟩ := Prod.mk.inj hx
  obtain ⟨hcurrent, -, -, hcoherent, -⟩ := publication_atomic hs
  exact ⟨s, first, hs, hregions, hheld, hfirst, hcurrent, hcoherent⟩

section Rehearsals

open Rehearsal

variable {stage stage' : CatalogStage}

/-- The run has come to where the rehearsal is. -/
structure Follows (s : History) (stage : CatalogStage) : Prop where
  catalog : s.catalog = stage.catalog
  held : s.held = stage.held

/-- Moves that lead from where the one rehearsal is to where the other is, with as many
authentications waiting as before. -/
def Reaches (stage stage' : CatalogStage) : Prop :=
  ∀ s : History, s.Follows stage → ∃ moves s', s.runFrom moves = some s' ∧ s'.Follows stage' ∧
    s'.waiting = s.waiting

theorem runFrom_cons {m : Move} (h : s.advance m = some t) :
    s.runFrom (m :: moves) = t.runFrom moves := by
  rw [runFrom, List.foldlM_cons, h]
  rfl

theorem runFrom_append {more : List Move} (h : s.runFrom moves = some t) :
    s.runFrom (moves ++ more) = t.runFrom more := by
  rw [runFrom, List.foldlM_append]
  exact congrArg (· >>= _) h

theorem Reaches.refl (stage : CatalogStage) : Reaches stage stage :=
  fun s h => ⟨[], s, rfl, h, rfl⟩

theorem Reaches.single (m : Move) (h : ∀ s : History, s.Follows stage →
      ∃ s', s.advance m = some s' ∧ s'.Follows stage' ∧ s'.waiting = s.waiting) :
    Reaches stage stage' := by
  intro s hs
  obtain ⟨s', hm, hs', hw⟩ := h s hs
  exact ⟨[m], s', runFrom_cons hm, hs', hw⟩

theorem Reaches.trans {stage'' : CatalogStage} (h : Reaches stage stage')
    (h' : Reaches stage' stage'') : Reaches stage stage'' := by
  intro s hs
  obtain ⟨moves, t, hrun, ht, hw⟩ := h s hs
  obtain ⟨more, u, hrun', hu, hw'⟩ := h' t ht
  exact ⟨moves ++ more, u, (runFrom_append hrun).trans hrun', hu, hw'.trans hw⟩

theorem follows_conclude {now : Instant} {answer : Except IdentityError Grant}
    (hs : s.Follows stage) (hw : s.waiting ≠ 0) (steps : List (AuthRequest ⊕ List CatalogStep)) :
    ∃ s', s.advance (.answer now answer) = some s' ∧ s'.waiting = s.waiting - 1 ∧
      s'.Follows (stage.conclude (stage.catalog.evaluate now answer) steps).1 := by
  refine ⟨_, if_neg hw, rfl, ?_⟩
  simp only [← hs.catalog, CatalogStage.conclude]
  cases hresult : s.catalog.evaluate now answer with
  | error error => exact ⟨rfl, hs.held⟩
  | ok snapshot => exact ⟨rfl, hs.held⟩

/-- Whatever goes on while the identity service is asked goes on between two moves. -/
theorem reaches_init {request : AuthRequest} {answer : Except IdentityError Grant}
    {steps : List (AuthRequest ⊕ List CatalogStep)} {cues : List (Cue IdentityAnswer CatalogOp)}
    (hask : stage.catalog.request? = .ok request) (h : Reaches { stage with cues } stage') :
    Reaches stage
      (stage'.conclude (stage'.catalog.evaluate CatalogStage.now answer) steps).1 := by
  intro s hs
  rw [← hs.catalog] at hask
  obtain ⟨asked, hasked, hfollows, hwaiting⟩ : ∃ asked, s.advance .init = some asked ∧
      asked.Follows { stage with cues } ∧ asked.waiting = s.waiting + 1 := by
    simp only [advance, hask]
    exact ⟨_, rfl, ⟨hs.catalog, hs.held⟩, rfl⟩
  obtain ⟨moves, t, hrun, ht, hw⟩ := h asked hfollows
  have hwaits : t.waiting ≠ 0 := by omega
  obtain ⟨u, hu, hw', hfollows'⟩ := follows_conclude ht hwaits steps
  refine ⟨.init :: (moves ++ [.answer CatalogStage.now answer]), u, ?_, hfollows', by omega⟩
  exact (runFrom_cons hasked).trans ((runFrom_append hrun).trans (runFrom_cons hu))

/-- One operation; what goes on during an authentication is a shorter rehearsal. -/
theorem reaches_run {fuel : Nat} (op : CatalogOp) (stage : CatalogStage)
    (h : ∀ fewer, fuel = fewer + 1 → ∀ ops stage,
      Reaches stage (CatalogStage.runAll fewer ops stage).1) :
    Reaches stage (CatalogStage.run fuel op stage).1 := by
  unfold CatalogStage.run
  cases op with
  | init =>
    simp only
    split
    · rename_i error hrefused
      refine .single .init fun s hs => ?_
      rw [← hs.catalog] at hrefused
      simp only [advance, hrefused]
      exact ⟨_, rfl, ⟨hs.catalog, hs.held⟩, rfl⟩
    · rename_i request hask
      split
      · exact reaches_init hask (h _ rfl _ _)
      · exact reaches_init hask (.refl _)
  | hold name =>
    refine .single (.take name) fun s hs => ⟨_, rfl, ⟨hs.catalog, ?_⟩, rfl⟩
    simp only [CatalogStage.plain, hs.catalog, hs.held]
  | held name =>
    simp only
    split <;> exact .refl _
  | script cues => exact fun s hs => ⟨[], s, rfl, ⟨hs.catalog, hs.held⟩, rfl⟩
  | _ => exact .refl _

theorem reaches_runAll (fuel : Nat) (ops : List CatalogOp) (stage : CatalogStage) :
    Reaches stage (CatalogStage.runAll fuel ops stage).1 := by
  induction fuel using Nat.strongRecOn generalizing ops stage with
  | ind fuel ih =>
    unfold CatalogStage.runAll
    split
    · rename_i fuel op ops
      have hone : Reaches stage (CatalogStage.run fuel op stage).1 := by
        refine reaches_run op stage fun fewer hfewer ops stage => ih fewer (by omega) ops stage
      exact hone.trans (ih fuel (Nat.lt_succ_self fuel) ops _)
    · exact .refl _

/-- Every rehearsal of a catalog that nobody has authenticated is a run. -/
theorem exists_run_of_rehearsal (version : IdentityVersion) (target : CatalogTarget) (fuel : Nat)
    (ops : List CatalogOp) (cues : List (Cue IdentityAnswer CatalogOp)) :
    ∃ moves s, run version target moves = some s ∧ s.waiting = 0 ∧
      s.Follows (CatalogStage.runAll fuel ops { catalog := ⟨version, target, {}⟩, cues }).1 := by
  obtain ⟨moves, s, hs, hfollows, hwaiting⟩ :=
    reaches_runAll fuel ops { catalog := ⟨version, target, {}⟩, cues }
      { catalog := ⟨version, target, {}⟩ } ⟨rfl, rfl⟩
  exact ⟨moves, s, hs, hwaiting, hfollows⟩

end Rehearsals

end History
end Tenancy.Catalog
