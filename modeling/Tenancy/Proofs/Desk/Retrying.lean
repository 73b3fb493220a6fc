import Tenancy.Proofs.Desk.Attempts
import Tenancy.Proofs.Desk.Nesting

namespace Tenancy

open RetryPolicy (Step Row Meets Passing)

/-- What an attempt comes to if the service is to answer so. It is not asked without a domain that
it needs. -/
def Catalog.attempted (catalog : Catalog) (now : Instant) (answer : Except IdentityError Grant) :
    Except CatalogError Snapshot :=
  catalog.request?.bind fun _ => catalog.evaluate now answer

namespace Desk

variable {d : Desk} {step : Desk × Request} {n : Nat} {c : TenantCache} {catalog : Catalog}
  {bounds : PoolBounds} {tries : UInt32} {outcome : Except CatalogError Snapshot}
  {result : Except (GaveUp CatalogError) Snapshot} {frames : List Frame}
  {steps : List (Step CatalogError Snapshot)}

/-- What is said of a row of attempts that ended like this. -/
inductive Tells : Except (GaveUp CatalogError) Snapshot → Outcome → Prop
  | opened {snapshot} : Tells (.ok snapshot) .nothing
  | failed {failure} : Tells (.error failure) (.failed (.initFailed failure))

/-- How it goes on after an attempt with that outcome. -/
inductive Judged (d : Desk) (n : Nat) (c : TenantCache) (catalog : Catalog) (tries : UInt32)
    (outcome : Except CatalogError Snapshot) : Desk × Request → Prop
  | ended {d' result ending}
      (h : c.provider.retry.policy.Row CatalogError.isConnection tries
        [.tried tries.toNat outcome] result)
      (he : Tells result ending) : Judged d n c catalog tries outcome (d', .done ending)
  | again {d' wait next}
      (h : c.provider.retry.policy.judge CatalogError.isConnection tries outcome =
        .again wait next)
      (hcaches : d'.caches = d.caches)
      (hframes : d'.frames = .sleeping n catalog next .explain :: d.frames) :
      Judged d n c catalog tries outcome (d', .sleep wait)

theorem record_keeps (d : Desk) (version : IdentityVersion) (outcome : Except CatalogError Snapshot) :
    (d.record version outcome).caches = d.caches ∧ (d.record version outcome).frames = d.frames := by
  cases outcome <;> exact ⟨rfl, rfl⟩

theorem judge_judged (d : Desk) (n : Nat) (c : TenantCache) (bounds : PoolBounds)
    (catalog : Catalog) (tries : UInt32) (outcome : Except CatalogError Snapshot) :
    ∃ step, d.judge n c bounds catalog tries .explain outcome = some step ∧
      Judged d n c catalog tries outcome step := by
  simp only [judge]
  cases hj : c.provider.retry.policy.judge CatalogError.isConnection tries outcome with
  | succeeded s => exact ⟨_, rfl, .ended (.succeeded hj) .opened⟩
  | gaveUp failure => exact ⟨_, rfl, .ended (.gaveUp hj) .failed⟩
  | again wait next =>
    obtain ⟨hcaches, hframes⟩ := record_keeps d catalog.version outcome
    exact ⟨_, rfl, .again hj hcaches (congrArg _ hframes)⟩

theorem attempt_caches (h : d.attempt n c bounds catalog tries .explain = some step) :
    step.1.caches = d.caches := by
  obtain ⟨step', hstep, hcases⟩ := attempt_cases d n c bounds catalog tries
  obtain rfl := Option.some.inj (hstep.symm.trans h)
  rcases hcases with hrejected | ⟨-, -, hcaches, -, -⟩
  · exact hrejected.caches
  · exact hcaches

namespace History

/-- The attempt of that number has an outcome, at once or by an answer of the identity service, and
then there is something else to do. Before the answer anything may go on that ends before it. -/
inductive Tries (n : Nat) (catalog : Catalog) (tries : UInt32) :
    Request → History → Except CatalogError Snapshot → Request → History → Prop
  | unasked {r s error} (h : catalog.request? = .error error) :
      Tries n catalog tries r s (.error error) r s
  | answered {source request s frames u now answer r' t}
      (hf : s.desk.frames = .authenticating n catalog tries .explain :: frames)
      (hu : Meanwhile s u) (hframes : u.desk.frames = s.desk.frames)
      (ht : u.Takes (.answer (.authenticating n catalog tries .explain) (.answered now answer))
        r' t) :
      Tries n catalog tries (.authenticate source request) s (catalog.evaluate now answer) r' t

/-- The attempts of an opening, from the one of that number to the end of the operation, and the
waits between them. -/
inductive Retries (n : Nat) (catalog : Catalog) : UInt32 → Request → History →
    List (Step CatalogError Snapshot) → Outcome → History → Prop
  | ended {tries r s outcome ending t} (h : Tries n catalog tries r s outcome (.done ending) t) :
      Retries n catalog tries r s [.tried tries.toNat outcome] ending t
  | again {tries r s outcome wait t next frames u r' v steps ending w}
      (h : Tries n catalog tries r s outcome (.sleep wait) t)
      (hf : t.desk.frames = .sleeping n catalog next .explain :: frames)
      (hu : Meanwhile t u) (hframes : u.desk.frames = t.desk.frames)
      (hslept : u.Takes (.answer (.sleeping n catalog next .explain) .slept) r' v)
      (hrest : Retries n catalog next r' v steps ending w) :
      Retries n catalog tries r s (.tried tries.toNat outcome :: .waited wait.total :: steps)
        ending w

variable {s t u : History} {moves : List Move} {providers : List Config.Provider} {r r' : Request}
  {start : History} {ending : Outcome}

/-- The step that led here has begun that attempt. -/
structure Begun (start : History) (n : Nat) (c : TenantCache) (bounds : PoolBounds)
    (catalog : Catalog) (tries : UInt32) (r : Request) (s : History) : Prop where
  untouched : Untouched start n c s
  attempt : ∃ d : Desk, d.attempt n c bounds catalog tries .explain = some (s.desk, r)

/-- An attempt that has an outcome is judged. -/
theorem Begun.judged (h : Begun start n c bounds catalog tries r s)
    (hc : Openable c catalog bounds) (ht : Tries n catalog tries r s outcome r' t) :
    ∃ d : Desk, Judged d n c catalog tries outcome (t.desk, r') ∧
      (t.desk.caches = d.caches → Untouched start n c t) := by
  obtain ⟨huntouched, d, hattempt⟩ := h
  cases ht with
  | unasked hask =>
    simp only [Desk.attempt, hask] at hattempt
    obtain ⟨step, hstep, hjudged⟩ :=
      judge_judged (d.count (.initAttempts c.provider.name)) n c bounds catalog tries (.error _)
    obtain rfl := Option.some.inj (hstep.symm.trans hattempt)
    exact ⟨_, hjudged, fun _ => huntouched⟩
  | @answered source request s frames u now answer r' t hf hu hframes ht =>
    obtain ⟨moves, hmoves⟩ := hu.runs
    have hwaits := huntouched.waits hmoves (hframes.trans hf) rfl
    obtain ⟨_, step, -, hstep, rfl, rfl⟩ := ht.of_answer
    rw [reply_answered (hframes.trans hf) hwaits.cache hc.bounds] at hstep
    obtain ⟨step', hstep', hjudged⟩ :=
      judge_judged { u.desk with frames } n c bounds catalog tries (catalog.evaluate now answer)
    obtain rfl := Option.some.inj (hstep'.symm.trans hstep)
    exact ⟨_, hjudged, fun hcaches => hwaits.takes hc.unopened ht hcaches⟩

/-- The next attempt is begun after the wait. -/
theorem Untouched.begun (h : Untouched start n c t) (hc : Openable c catalog bounds)
    (hf : t.desk.frames = .sleeping n catalog tries .explain :: frames) (hu : Meanwhile t u)
    (hframes : u.desk.frames = t.desk.frames)
    (hslept : u.Takes (.answer (.sleeping n catalog tries .explain) .slept) r s) :
    Begun start n c bounds catalog tries r s := by
  obtain ⟨moves, hmoves⟩ := hu.runs
  have hwaits := h.waits hmoves (hframes.trans hf) rfl
  obtain ⟨_, step, -, hstep, rfl, rfl⟩ := hslept.of_answer
  rw [reply_slept (hframes.trans hf) hwaits.cache hc.bounds] at hstep
  have hcaches := attempt_caches hstep
  exact ⟨hwaits.takes hc.unopened hslept hcaches, _, hstep⟩

/-- Whatever is done meanwhile, the attempts are such a row. -/
theorem Retries.row (h : Retries n catalog tries r s steps ending t)
    (hc : Openable c catalog bounds) (hs : Begun start n c bounds catalog tries r s) :
    ∃ result, c.provider.retry.policy.Row CatalogError.isConnection tries steps result ∧
      Tells result ending := by
  induction h with
  | ended h =>
    obtain ⟨d, hjudged, -⟩ := hs.judged hc h
    cases hjudged with
    | ended hrow htells => exact ⟨_, hrow, htells⟩
  | again h hf hu hframes hslept hrest ih =>
    obtain ⟨d, hjudged, huntouched⟩ := hs.judged hc h
    cases hjudged with
    | again hagain hcaches hsleeping =>
      obtain ⟨hframe, -⟩ := List.cons.inj (hf.symm.trans hsleeping)
      cases hframe
      obtain ⟨result, hrow, htells⟩ := ih ((huntouched hcaches).begun hc hf hu hframes hslept)
      exact ⟨result, .again hagain hrow, htells⟩

/-- Whatever the service answers, the attempt has an outcome. -/
theorem Begun.exists_tries (h : Begun start n c bounds catalog tries r s)
    (hc : Openable c catalog bounds) (now : Instant) (answer : Except IdentityError Grant) :
    ∃ r' t, Tries n catalog tries r s (catalog.attempted now answer) r' t := by
  obtain ⟨huntouched, d, hattempt⟩ := h
  unfold Catalog.attempted
  cases hask : catalog.request? with
  | error error => exact ⟨r, s, .unasked hask⟩
  | ok request =>
    simp only [Desk.attempt, hask] at hattempt
    obtain ⟨hdesk, rfl⟩ := Prod.mk.inj (Option.some.inj hattempt)
    have hf : s.desk.frames = .authenticating n catalog tries .explain :: d.frames := by
      rw [← hdesk]
      rfl
    obtain ⟨step, hstep, -⟩ :=
      judge_judged { s.desk with frames := d.frames } n c bounds catalog tries
        (catalog.evaluate now answer)
    rw [← reply_answered hf huntouched.cache hc.bounds] at hstep
    exact ⟨_, _, .answered hf .refl rfl (takes_reply hf hstep)⟩

/-- There are only so many attempts, and each can be made. -/
theorem Begun.exists_retries {tries : UInt32} {r : Request} {s : History}
    (h : Begun start n c bounds catalog tries r s) (hc : Openable c catalog bounds)
    (answers : Nat → Instant × Except IdentityError Grant) :
    ∃ steps ending t, Retries n catalog tries r s steps ending t ∧
      ∀ i outcome, .tried i outcome ∈ steps →
        outcome = catalog.attempted (answers i).1 (answers i).2 := by
  obtain ⟨r', t, htries⟩ := h.exists_tries hc (answers tries.toNat).1 (answers tries.toNat).2
  obtain ⟨d, hjudged, huntouched⟩ := h.judged hc htries
  cases hjudged with
  | ended =>
    refine ⟨_, _, t, .ended htries, ?_⟩
    intro i outcome hi
    cases List.mem_singleton.mp hi
    rfl
  | @again _ wait _ hagain hcaches hframes =>
    obtain ⟨hlt, rfl⟩ := RetryPolicy.lt_of_judge_again hagain
    have hwaits := huntouched hcaches
    obtain ⟨step, hstep, -⟩ :=
      attempt_cases { t.desk with frames := d.frames } n c bounds catalog (tries + 1)
    rw [← reply_slept hframes hwaits.cache hc.bounds] at hstep
    have hslept := takes_reply hframes hstep
    have hnext := hwaits.begun hc hframes .refl rfl hslept
    obtain ⟨steps, ending, w, hrest, ho⟩ := hnext.exists_retries hc answers
    refine ⟨_, ending, w, .again htries hframes .refl rfl hslept hrest, ?_⟩
    intro i outcome hi
    rcases Step.tried_mem_again_iff.mp hi with ⟨rfl, rfl⟩ | hi
    · rfl
    · exact ho i outcome hi
  termination_by c.provider.retry.policy.limit.toNat - tries.toNat
  decreasing_by
    have hless := UInt32.lt_iff_toNat_lt.mp hlt
    rw [toNat_succ_of_lt hlt]
    omega

/-- An opening makes its first attempt, or ends with something else than failed attempts. -/
theorem startInit_begun {deed : Deed} (h : Untouched start n c s)
    (hstep : s.desk.startInit n c .explain = some step)
    (ht : s.Takes deed step.2 (s.record deed step)) :
    (∃ ending, step.2 = .done ending ∧ ∀ failure, ending ≠ .failed (.initFailed failure)) ∨
    ∃ catalog bounds, Openable c catalog bounds ∧
      Begun start n c bounds catalog 1 step.2 (s.record deed step) := by
  unfold startInit at hstep
  split at hstep
  · cases hstep
    exact .inl ⟨_, rfl, by simp⟩
  · rename_i hclosed
    have hopened : c.opened = none := by simpa [TenantCache.isOpen] using hclosed
    split at hstep
    · cases hstep
      exact .inl ⟨_, rfl, by simp⟩
    · rename_i bounds hb
      split at hstep
      · cases hstep
        exact .inl ⟨_, rfl, by simp⟩
      · rename_i catalog hcatalog
        have hcaches := attempt_caches hstep
        exact .inr ⟨catalog, bounds, ⟨hopened, hb, hcatalog⟩,
          h.takes hopened ht hcaches, _, hstep⟩

/-- The attempts are what the policy of the provider makes of their outcomes, and a failure tells
how many there were. With a connection error they were as many as there may be, and with any other
the last of them was the first to come to such an error. -/
def FollowsPolicy (c : TenantCache) (steps : List (Step CatalogError Snapshot)) (ending : Outcome) :
    Prop :=
  ∃ outcomes last result,
    c.provider.retry.policy.Meets CatalogError.isConnection outcomes 1 last steps result ∧
    Tells result ending ∧
    ∀ failure, ending = .failed (.initFailed failure) →
      failure.attempts.toNat = last ∧ outcomes last = .error failure.error ∧
      (failure.error.kind = .connection → last = max 1 c.provider.retry.maxAttempts.toNat) ∧
      (failure.error.kind = .protocol →
        ¬ RetryPolicy.Passing CatalogError.isConnection (outcomes last))

theorem Retries.follows (h : Retries n catalog 1 r s steps ending t)
    (hc : Openable c catalog bounds) (hs : Begun start n c bounds catalog 1 r s) :
    FollowsPolicy c steps ending := by
  obtain ⟨result, hrow, htells⟩ := h.row hc hs
  obtain ⟨outcomes, ho⟩ := hrow.exists_outcomes
  obtain ⟨last, hmeets⟩ := hrow.meets c.provider.retry.policy.one_le_limit ho
  rw [UInt32.toNat_one] at hmeets
  refine ⟨outcomes, last, result, hmeets, htells, ?_⟩
  rintro failure rfl
  cases htells
  have hdecides := hmeets.decides
  cases hdecides with
  | @failure error attempts herror hattempts =>
    refine ⟨hattempts, herror, ?_, ?_⟩
    · intro hkind
      apply hmeets.at_limit
      by_contra hfatal
      simp [CatalogError.kind, hfatal] at hkind
    · intro hkind hpassing
      rw [herror, RetryPolicy.passing_error_iff] at hpassing
      simp [CatalogError.kind, hpassing] at hkind

/-- The retry loop is exact: for every policy and all outcomes of the attempts it makes the attempts
up to the first that is not worth another one, or up to the limit, with the waits between them, and
ends as the last attempt does. An opening that gets as far as an attempt is such a loop: whatever
the identity service answers it comes to an end, and whatever is done meanwhile it follows the
policy of its provider. -/
theorem attempts_exact :
    (∀ (ε α : Type) (p : RetryPolicy) (transient : ε → Bool) (outcomes : Nat → Except ε α),
      p.Exact transient outcomes (p.run transient fun i => outcomes i.toNat)) ∧
    ∀ {providers moves s n c r t}, run providers moves = some s → s.desk.cache? n = some c →
      s.Takes (.call (.tryOpenCache n)) r t →
      (∃ ending, r = .done ending ∧ ∀ failure, ending ≠ .failed (.initFailed failure)) ∨
      ∃ catalog bounds, Openable c catalog bounds ∧
        (∀ answers : Nat → Instant × Except IdentityError Grant,
          ∃ steps ending u, Retries n catalog 1 r t steps ending u ∧
            ∀ i outcome, .tried i outcome ∈ steps →
              outcome = catalog.attempted (answers i).1 (answers i).2) ∧
        ∀ steps ending u, Retries n catalog 1 r t steps ending u →
          FollowsPolicy c steps ending := by
  refine ⟨fun ε α p transient outcomes => p.run_exact transient outcomes, ?_⟩
  intro providers moves s n c r t hs hc ht
  have huntouched : Untouched s n c s := ⟨sound_of_run hs, routed_of_run hs, hc, Nat.le_refl _⟩
  obtain ⟨step, -, hstep, rfl, rfl⟩ := ht.of_call
  simp only [call, hc, Option.bind_eq_bind, Option.bind_some] at hstep
  split at hstep
  · cases hstep
  · rcases startInit_begun huntouched hstep ht with hended | ⟨catalog, bounds, hopenable, hbegun⟩
    · exact .inl hended
    · refine .inr ⟨catalog, bounds, hopenable, ?_, ?_⟩
      · intro answers
        exact hbegun.exists_retries hopenable answers
      · intro steps ending u hretries
        exact hretries.follows hopenable hbegun

/-- The service is not reached, and after a wait it refuses. -/
def refusedLater : List (Step CatalogError Snapshot) :=
  [.tried 1 (.error (.identity (.unreachable "down"))), .waited 5_000_000_000,
    .tried 2 (.error (.identity (.rejected "closed")))]

theorem attempts_exact_refused_later : ∃ s t u c r catalog,
    run [] [.make ownCache] = some s ∧ s.desk.cache? 0 = some c ∧
    s.Takes (.call (.tryOpenCache 0)) r t ∧
    Retries 0 catalog 1 r t refusedLater
      (.failed (.initFailed ⟨.identity (.rejected "closed"), 2⟩)) u ∧
    FollowsPolicy c refusedLater (.failed (.initFailed ⟨.identity (.rejected "closed"), 2⟩)) := by
  have hsteps : (run [] [.make ownCache]).bind (fun s => (s.desk.cache? 0).bind fun c =>
      (s.desk.call (.tryOpenCache 0)).bind fun step =>
      (step.1.reply (.answered 0 (.error (.unreachable "down")))).bind fun step₁ =>
      (step₁.1.reply .slept).bind fun step₂ =>
      (step₂.1.reply (.answered 0 (.error (.rejected "closed")))).map fun step₃ =>
        (s.allows (.tryOpenCache 0), Catalog.of? c.target,
          [step.1.frames, step₁.1.frames, step₂.1.frames], [step.2, step₁.2, step₂.2, step₃.2])) =
      some (true, some ⟨.v2, ownCache.target, {}⟩,
        [[.authenticating 0 ⟨.v2, ownCache.target, {}⟩ 1 .explain],
          [.sleeping 0 ⟨.v2, ownCache.target, {}⟩ 2 .explain],
          [.authenticating 0 ⟨.v2, ownCache.target, {}⟩ 2 .explain]],
        [.authenticate 0 ⟨.v2, "a:/v2", "demo", none, ownCache.credentials, {}⟩,
          .sleep (.ofSeconds 5),
          .authenticate 0 ⟨.v2, "a:/v2", "demo", none, ownCache.credentials, {}⟩,
          .done (.failed (.initFailed ⟨.identity (.rejected "closed"), 2⟩))]) := by
    decide +kernel
  obtain ⟨s, hs, hsteps⟩ := Option.bind_eq_some_iff.mp hsteps
  obtain ⟨c, hc, hsteps⟩ := Option.bind_eq_some_iff.mp hsteps
  obtain ⟨⟨d, r⟩, hcall, hsteps⟩ := Option.bind_eq_some_iff.mp hsteps
  obtain ⟨⟨d₁, r₁⟩, hanswer, hsteps⟩ := Option.bind_eq_some_iff.mp hsteps
  obtain ⟨⟨d₂, r₂⟩, hslept, hsteps⟩ := Option.bind_eq_some_iff.mp hsteps
  obtain ⟨⟨d₃, r₃⟩, hrefuse, hsteps⟩ := Option.map_eq_some_iff.mp hsteps
  simp only [Prod.mk.injEq, List.cons.injEq, and_true] at hsteps
  obtain ⟨ha, hcatalog, ⟨hf, hf₁, hf₂⟩, rfl, rfl, rfl, rfl⟩ := hsteps
  obtain ⟨t, rfl, hasked⟩ : ∃ t, t.desk = d ∧ s.Takes (.call (.tryOpenCache 0)) _ t :=
    ⟨_, rfl, takes_call ha hcall⟩
  obtain ⟨t₁, rfl, hfailed⟩ : ∃ t₁, t₁.desk = d₁ ∧ t.Takes (.answer _ _) _ t₁ :=
    ⟨_, rfl, takes_reply hf hanswer⟩
  obtain ⟨t₂, rfl, hwaited⟩ : ∃ t₂, t₂.desk = d₂ ∧ t₁.Takes (.answer _ _) _ t₂ :=
    ⟨_, rfl, takes_reply hf₁ hslept⟩
  have hrefused := takes_reply hf₂ hrefuse
  obtain ⟨u, hretries⟩ : ∃ u, Retries 0 ⟨.v2, ownCache.target, {}⟩ 1 _ t refusedLater
      (.failed (.initFailed ⟨.identity (.rejected "closed"), 2⟩)) u :=
    ⟨_, .again (.answered hf .refl rfl hfailed) hf₁ .refl rfl hwaited
      (.ended (.answered hf₂ .refl rfl hrefused))⟩
  obtain ⟨_, hended, -⟩ | ⟨catalog, bounds, hopenable, -, hfollows⟩ :=
    attempts_exact.2 hs hc hasked
  · cases hended
  · obtain rfl := Option.some.inj (hopenable.catalog.symm.trans hcatalog)
    exact ⟨s, t, u, c, _, _, hs, hc, hasked, hretries, hfollows _ _ _ hretries⟩

end History
end Desk
end Tenancy
