import Tenancy.Proofs.Desk.Sound
import Tenancy.Proofs.Yard.Counters

namespace Tenancy

def Counter.isReservation : Counter → Bool
  | .reservations .. => true
  | _ => false

namespace Yard

variable {y : Yard} {counter : Counter}

/-- A step of the yard counts nothing but reservations. -/
theorem Does.counted {deed : Deed} {step : Yard × Reaction} (h : y.Does deed step)
    (hc : counter.isReservation = false) :
    step.1.metrics.counted counter = y.metrics.counted counter := by
  have hkind {p : Pool} (hcounts : Counts deed p y step) :
      step.1.metrics.counted counter = y.metrics.counted counter := by
    rw [hcounts counter]
    cases deed.ends? step.2 with
    | none => simp
    | some o => cases counter <;> simp_all [Counter.isReservation]
  cases h with
  | @call c _ h =>
    obtain ⟨p, -, rfl⟩ := Option.map_eq_some_iff.mp h
    exact hkind (start_counts y p c)
  | @reply task tasks r _ ht h =>
    simp only [Yard.reply, Yard.answer, ht, List.getElem?_cons_zero, Option.bind_some] at h
    obtain ⟨p, -, h⟩ := Option.bind_eq_some_iff.mp h
    have hcounts := resume_counts h
    exact hkind hcounts

end Yard

namespace Desk

variable {d d' d'' : Desk} {step : Desk × Request} {n : Nat} {c : TenantCache} {closed : Nat}
  {outcome : Outcome} {after : After} {reaction : Yard.Reaction} {f : Frame}
  {frames : List Frame} {key : Key} {pools : List Nat}

/-- The frame waits neither for the identity service nor for another attempt to ask it. -/
def Frame.isAside : Frame → Bool
  | .authenticating .. | .sleeping .. | .refreshing _ => false
  | _ => true

/-- Who waits to ask the identity service, or for its answer. -/
def askers (d : Desk) : List Frame := d.frames.filter fun f => !f.isAside

/-- What such an operation leaves alone. It may hold caches and let them go, and it may take entries
out of the registry. -/
structure Aside (d d' : Desk) : Prop where
  providers : d'.providers = d.providers
  caches : ∀ n, d'.cache? n = d.cache? n
  registry : d'.registry ⊆ d.registry
  askers : d'.askers = d.askers
  counted : ∀ counter : Counter, counter.isReservation = false →
    d'.yard.metrics.counted counter = d.yard.metrics.counted counter

/-- What such an operation comes to. The connector is asked for a connection for a pool, and is told
the settings of that pool. -/
inductive Fetches (d : Desk) : Request → Prop
  | connect {pool p c} (hp : d.yard.pools[pool]? = some p) (hc : d.owner? pool = some c) :
      Fetches d (.connect c.source p.settings)
  | login (connection : Connection) (credentials : Credentials) :
      Fetches d (.login connection credentials)
  | close (connection : Connection) : Fetches d (.close connection)
  | work (lease : Lease) : Fetches d (.work lease)
  | done (outcome : Outcome) : Fetches d (.done outcome)

structure Passes (d : Desk) (step : Desk × Request) : Prop where
  aside : Aside d step.1
  fetches : step.1.Fetches step.2

theorem Aside.refl (d : Desk) : Aside d d :=
  ⟨rfl, fun _ => rfl, List.Subset.refl _, rfl, fun _ _ => rfl⟩

theorem Aside.trans (h : Aside d d') (h' : Aside d' d'') : Aside d d'' :=
  ⟨h'.providers.trans h.providers, fun n => (h'.caches n).trans (h.caches n),
    List.Subset.trans h'.registry h.registry, h'.askers.trans h.askers,
    fun c hc => (h'.counted c hc).trans (h.counted c hc)⟩

theorem Aside.passes (h : Aside d d') (hp : Passes d' step) : Passes d step :=
  ⟨h.trans hp.aside, hp.fetches⟩

theorem Aside.done (h : Aside d d') (outcome : Outcome) : Passes d (d', .done outcome) :=
  ⟨h, .done outcome⟩

theorem askers_cons (hd : d.frames = f :: frames) (hf : f.isAside = true) :
    d.askers = askers { d with frames } := by
  rw [askers, hd, List.filter_cons_of_neg (by simp [hf])]
  rfl

theorem aside_push (hf : f.isAside = true) : Aside d (d.push f) :=
  ⟨rfl, fun _ => rfl, List.Subset.refl _, askers_cons rfl hf, fun _ _ => rfl⟩

theorem aside_pop (hd : d.frames = f :: frames) (hf : f.isAside = true) :
    Aside d { d with frames } :=
  ⟨rfl, fun _ => rfl, List.Subset.refl _, (askers_cons hd hf).symm, fun _ _ => rfl⟩

theorem aside_yard {yard : Yard} (h : ∀ counter : Counter, counter.isReservation = false →
    yard.metrics.counted counter = d.yard.metrics.counted counter) : Aside d { d with yard } :=
  ⟨rfl, fun _ => rfl, List.Subset.refl _, rfl, h⟩

theorem aside_note (d : Desk) (notice : Notice) : Aside d (d.note notice) :=
  aside_yard fun _ _ => rfl

theorem aside_hold (d : Desk) (n : Nat) : Aside d (d.hold n) :=
  ⟨rfl, cache?_hold n, List.Subset.refl _, rfl, fun _ _ => rfl⟩

theorem aside_letGo (d : Desk) (n : Nat) : Aside d (d.letGo n) :=
  ⟨rfl, cache?_letGo n, List.Subset.refl _, rfl, fun _ _ => rfl⟩

theorem aside_reorder (d : Desk) (slots : Arrangement Slot) (pools : Arrangement Nat)
    (keys : Arrangement Key) : Aside d (d.reorder slots pools keys) :=
  ⟨rfl, fun _ => rfl, List.Subset.refl _, rfl, fun _ _ => rfl⟩

theorem aside_filter (d : Desk) (keep : Key × Nat → Bool) :
    Aside d { d with registry := d.registry.filter keep } :=
  ⟨rfl, fun _ => rfl, List.filter_subset_self _, rfl, fun _ _ => rfl⟩

theorem ask_passes (h : d.ask reaction = some step) : Passes d step := by
  cases reaction with
  | allocate pool =>
    obtain ⟨c, hc, h⟩ := Option.bind_eq_some_iff.mp h
    obtain ⟨p, hp, h⟩ := Option.bind_eq_some_iff.mp h
    cases h
    exact ⟨aside_push rfl, .connect hp hc⟩
  | destroy pool resource =>
    obtain ⟨connection, -, h⟩ := Option.bind_eq_some_iff.mp h
    cases h
    exact ⟨aside_push rfl, .close connection⟩
  | work lease =>
    cases h
    exact ⟨aside_push rfl, .work lease⟩
  | done o => cases h

theorem drainUntil_counted (y : Yard) (closed : Nat) (pools : List Nat) {counter : Counter}
    (hc : counter.isReservation = false) :
    (drainUntil y closed pools).1.metrics.counted counter = y.metrics.counted counter := by
  induction pools generalizing y closed with
  | nil => rfl
  | cons pool rest ih =>
    unfold drainUntil
    split
    · exact ih y closed
    · rename_i hdrain
      exact (ih _ _).trans ((Yard.Does.call hdrain).counted hc)
    · rename_i hdrain
      exact (Yard.Does.call hdrain).counted hc

/-- Draining pools counts nothing but reservations. -/
theorem aside_drainUntil (d : Desk) (closed : Nat) (pools : List Nat) :
    Aside d { d with yard := (drainUntil d.yard closed pools).1 } :=
  aside_yard fun _ hc => drainUntil_counted d.yard closed pools hc

theorem sweep_passes {keys : List Key} (h : d.sweep closed keys = some step) : Passes d step := by
  induction keys generalizing d closed with
  | nil =>
    cases h
    exact (Aside.refl d).done _
  | cons key keys ih =>
    unfold sweep at h
    split at h
    · exact ih h
    · rename_i n hn
      have hout := (aside_drainUntil d closed (d.doomedPools n)).trans
        (aside_filter _ fun e => !(e.1 == key))
      dsimp only at h
      split at h
      · exact (hout.trans (aside_letGo _ n)).passes (ih h)
      · exact (hout.trans (aside_push rfl)).passes (ask_passes h)

theorem conclude_passes (h : d.conclude closed after = some step) : Passes d step := by
  cases after with
  | answer outcome =>
    cases h
    exact (Aside.refl d).done _
  | shutDown n | evicted n =>
    cases h
    exact (aside_letGo d n).done _
  | sweep n keys => exact (aside_letGo d n).passes (sweep_passes h)

theorem drainPools_passes (h : d.drainPools closed pools after = some step) : Passes d step := by
  simp only [drainPools] at h
  have hdrain := aside_drainUntil d closed pools
  split at h
  · exact hdrain.passes (conclude_passes h)
  · exact (hdrain.trans (aside_push rfl)).passes (ask_passes h)

theorem leave_passes (h : d.leave n outcome = some step) : Passes d step := by
  simp only [leave] at h
  split at h
  · exact (aside_letGo d n).passes (drainPools_passes h)
  · cases h
    exact (aside_letGo d n).done _

theorem react_passes (h : d.react reaction = some step) : Passes d step := by
  cases reaction with
  | done o =>
    simp only [react] at h
    split at h
    · rename_i n frames hf
      exact (aside_pop hf rfl).passes (leave_passes h)
    · rename_i rest closed after frames hf
      split at h
      · exact (aside_pop hf rfl).passes (drainPools_passes h)
      · cases h
    · cases h
  | allocate | destroy | work =>
    simp only [react] at h
    exact ask_passes h

theorem callYard_passes {call : Yard.Call} (h : d.callYard call = some step) : Passes d step := by
  obtain ⟨⟨yard, reaction⟩, hy, h⟩ := Option.bind_eq_some_iff.mp h
  exact (aside_yard fun _ hc => (Yard.Does.call hy).counted hc).passes (react_passes h)

theorem replyYard_passes {reply : Yard.Reply} (h : d.replyYard reply = some step) :
    Passes d step := by
  obtain ⟨⟨yard, reaction⟩, hy, h⟩ := Option.bind_eq_some_iff.mp h
  obtain ⟨task, ht, -⟩ := Option.bind_eq_some_iff.mp hy
  obtain ⟨tasks, htasks⟩ := List.head?_eq_some_iff.mp (List.head?_eq_getElem? .. ▸ ht)
  exact (aside_yard fun _ hc => (Yard.Does.reply htasks hy).counted hc).passes (react_passes h)

theorem onPool_passes {place : Except TenantError Nat} {call : Nat → Yard.Call}
    (h : d.onPool n place call = some step) : Passes d step := by
  cases place with
  | error error => exact (aside_hold d n).passes (leave_passes h)
  | ok pool => exact ((aside_hold d n).trans (aside_push rfl)).passes (callYard_passes h)

theorem release_passes {region : String} {lease : Lease}
    (h : d.release n c region lease = some step) : Passes d step := by
  unfold release at h
  split at h
  · cases h
    exact (Aside.refl d).done _
  · split at h
    · exact onPool_passes h
    · split at h
      · exact (aside_note d _).passes (onPool_passes h)
      · cases h
        exact (aside_note d _).done _

theorem evict_passes (h : d.evict key = some step) : Passes d step := by
  unfold evict at h
  split at h
  · cases h
    exact (Aside.refl d).done _
  · exact (aside_filter d _).passes (drainPools_passes h)

/-- Calls that neither open a cache nor authenticate. -/
def Call.isAside : Call → Bool
  | .openCache _ | .tryOpenCache _ | .getOrOpen _ | .refresh _ => false
  | _ => true

theorem call_passes {call : Call} (hc : call.isAside = true) (h : d.call call = some step) :
    Passes d step := by
  cases call with
  | openCache | tryOpenCache | getOrOpen | refresh => cases hc
  | get key =>
    simp only [Desk.call] at h
    split at h
    · cases h
      exact (aside_hold d _).done _
    · cases h
      exact (Aside.refl d).done _
  | evict key => exact evict_passes h
  | shutDownAll => exact sweep_passes h
  | drop n => exact leave_passes h
  | reserve n region | withConnection n url | trim n region count | shrink n region
  | drain n region =>
    obtain ⟨c, -, h⟩ := Option.bind_eq_some_iff.mp h
    exact onPool_passes h
  | release n region lease =>
    obtain ⟨c, -, h⟩ := Option.bind_eq_some_iff.mp h
    exact release_passes h
  | shutDown n => exact (aside_hold d n).passes (drainPools_passes h)

theorem reply_passes {r : Reply} (hd : d.frames = f :: frames) (hf : f.isAside = true)
    (h : d.reply r = some step) : Passes d step := by
  have hpop : Aside d { d with frames } := aside_pop hd hf
  have hnoted (notice : Notice) (reply : Yard.Reply)
      (h : (note { d with frames } notice).replyYard reply = some step) : Passes d step :=
    (hpop.trans (aside_note _ notice)).passes (replyYard_passes h)
  simp only [Desk.reply, hd] at h
  cases f with
  | connecting pool =>
    cases r with
    | succeeded =>
      obtain ⟨c, -, h⟩ := Option.bind_eq_some_iff.mp h
      obtain ⟨p, -, h⟩ := Option.bind_eq_some_iff.mp h
      cases h
      have hmade : Aside { d with frames } { d with frames, connected := d.connected + 1 } :=
        ⟨rfl, fun _ => rfl, List.Subset.refl _, rfl, fun _ _ => rfl⟩
      exact ⟨hpop.trans (hmade.trans (aside_push rfl)), .login _ _⟩
    | failed => exact hnoted .connectFailed .nothing h
    | unwind => exact hpop.passes (replyYard_passes h)
    | answered | slept | finished => cases h
  | loggingIn connection =>
    cases r with
    | succeeded =>
      have hmade : Aside { d with frames }
          { d with frames, connections := d.connections ++ [connection] } :=
        ⟨rfl, fun _ => rfl, List.Subset.refl _, rfl, fun _ _ => rfl⟩
      exact (hpop.trans hmade).passes (replyYard_passes h)
    | failed =>
      cases h
      exact ⟨hpop.trans ((aside_note _ _).trans (aside_push rfl)), .close connection⟩
    | answered | slept | finished | unwind => cases h
  | abandoning =>
    cases r with
    | succeeded | failed => exact hpop.passes (replyYard_passes h)
    | answered | slept | finished | unwind => cases h
  | closing =>
    cases r with
    | succeeded => exact hpop.passes (replyYard_passes h)
    | failed => exact hnoted .closeFailed .destroyed h
    | answered | slept | finished | unwind => cases h
  | working =>
    cases r with
    | finished | unwind => exact hpop.passes (replyYard_passes h)
    | succeeded | failed | answered | slept => cases h
  | authenticating | sleeping | refreshing => cases hf
  | inPool n | draining rest closed after => cases r <;> cases h

end Desk
end Tenancy
