import Tenancy.Proofs.Duration
import Tenancy.Retry

namespace Tenancy

theorem toNat_succ_of_lt {a b : UInt32} (h : a < b) : (a + 1).toNat = a.toNat + 1 := by
  have hlt := UInt32.lt_iff_toNat_lt.mp h
  have hsize := b.toNat_lt
  rw [UInt32.toNat_add]
  exact Nat.mod_eq_of_lt (by simp; omega)

namespace RetryPolicy

variable {ε α : Type} {p : RetryPolicy} {transient : ε → Bool} {n : UInt32}
  {outcome : Except ε α} {outcomes : Nat → Except ε α} {result : Except (GaveUp ε) α}
  {first last : Nat}

theorem limit_toNat (p : RetryPolicy) : p.limit.toNat = max 1 p.maxAttempts.toNat := by
  unfold limit
  split
  · rename_i h
    simp [h]
  · rename_i h
    have hpos : p.maxAttempts.toNat ≠ 0 := fun hzero => h (UInt32.toNat_inj.mp hzero)
    omega

/-- The outcome is an error that is worth another attempt. -/
def Passing (transient : ε → Bool) (outcome : Except ε α) : Prop :=
  ∃ error, outcome = .error error ∧ transient error = true

@[simp] theorem not_passing_ok (value : α) : ¬ Passing transient (.ok value : Except ε α) := by
  simp [Passing]

@[simp] theorem passing_error_iff {error : ε} :
    Passing transient (.error error : Except ε α) ↔ transient error = true := by
  simp [Passing]

/-- Another attempt follows exactly a transient error before the limit. -/
theorem judge_cases (p : RetryPolicy) (transient : ε → Bool) (n : UInt32) (outcome : Except ε α) :
    (∃ value, outcome = .ok value ∧ p.judge transient n outcome = .succeeded value) ∨
    (∃ error, outcome = .error error ∧ p.judge transient n outcome = .gaveUp ⟨error, n⟩ ∧
      (transient error = false ∨ p.limit ≤ n)) ∨
    Passing transient outcome ∧ n < p.limit ∧
      p.judge transient n outcome = .again (linearBackoff n p.delay) (n + 1) := by
  cases outcome with
  | ok value => exact .inl ⟨value, rfl, rfl⟩
  | error error =>
    refine .inr ?_
    simp only [judge]
    split
    · rename_i hmore
      obtain ⟨htransient, hlt⟩ := Bool.and_eq_true_iff.mp hmore
      exact .inr ⟨⟨error, rfl, htransient⟩, by simpa using hlt, rfl⟩
    · rename_i hend
      refine .inl ⟨error, rfl, rfl, ?_⟩
      cases htransient : transient error with
      | false => exact .inl rfl
      | true => exact .inr (UInt32.not_lt.mp (by simpa [htransient] using hend))

/-- An attempt of that number with its outcome, or a wait of so many nanoseconds. -/
inductive Step (ε α : Type) where
  | tried (attempt : Nat) (outcome : Except ε α)
  | waited (nanoseconds : Nat)

def Step.attempt? : Step ε α → Option Nat
  | tried attempt _ => some attempt
  | waited _ => none

def Step.wait? : Step ε α → Option Nat
  | tried _ _ => none
  | waited nanoseconds => some nanoseconds

/-- The wait between two attempts is none of them. -/
theorem Step.tried_mem_again_iff {i m wait : Nat} {o : Except ε α} {steps : List (Step ε α)} :
    .tried i o ∈ .tried m outcome :: .waited wait :: steps ↔
      i = m ∧ o = outcome ∨ .tried i o ∈ steps := by
  simp

/-- What the policy makes of the attempts from number `n` on, up to the last. -/
inductive Row (p : RetryPolicy) (transient : ε → Bool) :
    UInt32 → List (Step ε α) → Except (GaveUp ε) α → Prop
  | succeeded {n outcome value} (h : p.judge transient n outcome = .succeeded value) :
      Row p transient n [.tried n.toNat outcome] (.ok value)
  | gaveUp {n outcome failure} (h : p.judge transient n outcome = .gaveUp failure) :
      Row p transient n [.tried n.toNat outcome] (.error failure)
  | again {n outcome wait next steps result} (h : p.judge transient n outcome = .again wait next)
      (hrest : Row p transient next steps result) :
      Row p transient n (.tried n.toNat outcome :: .waited wait.total :: steps) result

/-- Attempts up to the first that is not worth another one, or up to the limit. -/
structure IsLast (p : RetryPolicy) (transient : ε → Bool) (outcomes : Nat → Except ε α)
    (first last : Nat) : Prop where
  first_le : first ≤ last
  le_limit : last ≤ max 1 p.maxAttempts.toNat
  before : ∀ i, first ≤ i → i < last → Passing transient (outcomes i)
  ends : last = max 1 p.maxAttempts.toNat ∨ ¬ Passing transient (outcomes last)

/-- The attempts with their outcomes, and after each but the last a wait that is as many times the
delay as attempts were made. -/
def schedule (p : RetryPolicy) (outcomes : Nat → Except ε α) (first last : Nat) :
    List (Step ε α) :=
  ((List.range' first (last - first)).flatMap fun i =>
    [.tried i (outcomes i), .waited (min (i * p.delay.total) Duration.largest.total)]) ++
  [.tried last (outcomes last)]

/-- The last attempt decides. -/
inductive Decides (outcomes : Nat → Except ε α) (last : Nat) : Except (GaveUp ε) α → Prop
  | value {value} (h : outcomes last = .ok value) : Decides outcomes last (.ok value)
  | failure {error} {attempts : UInt32} (h : outcomes last = .error error)
      (hattempts : attempts.toNat = last) : Decides outcomes last (.error ⟨error, attempts⟩)

/-- That is all that happens, and how it ends. -/
structure Meets (p : RetryPolicy) (transient : ε → Bool) (outcomes : Nat → Except ε α)
    (first last : Nat) (steps : List (Step ε α)) (result : Except (GaveUp ε) α) : Prop where
  isLast : p.IsLast transient outcomes first last
  made : steps = p.schedule outcomes first last
  decides : Decides outcomes last result

theorem schedule_self (p : RetryPolicy) (outcomes : Nat → Except ε α) (n : Nat) :
    p.schedule outcomes n n = [.tried n (outcomes n)] := by
  simp [schedule]

theorem schedule_of_lt (h : first < last) : p.schedule outcomes first last =
    .tried first (outcomes first) ::
      .waited (min (first * p.delay.total) Duration.largest.total) ::
        p.schedule outcomes (first + 1) last := by
  obtain ⟨k, rfl⟩ := Nat.exists_eq_add_of_lt h
  have hcount : first + k + 1 - first = k + 1 := by omega
  have hrest : first + k + 1 - (first + 1) = k := by omega
  simp [schedule, hcount, hrest, List.range'_succ]

/-- The numbers of the attempts, and how long the waits are. -/
theorem schedule_attempts (h : first ≤ last) :
    (p.schedule outcomes first last).filterMap Step.attempt? =
      List.range' first (last - first + 1) := by
  have hlast : first + (last - first) = last := by omega
  simp [schedule, List.filterMap_flatMap, List.filterMap_cons, Step.attempt?, List.range'_1_concat,
    hlast]

theorem schedule_waits : (p.schedule outcomes first last).filterMap Step.wait? =
    (List.range' first (last - first)).map fun i =>
      min (i * p.delay.total) Duration.largest.total := by
  simp [schedule, List.filterMap_flatMap, List.filterMap_cons, Step.wait?, List.map_eq_flatMap]

/-- A row that ends with its first attempt. -/
theorem meets_self (hfirst : n.toNat ≤ max 1 p.maxAttempts.toNat)
    (hends : n.toNat = max 1 p.maxAttempts.toNat ∨ ¬ Passing transient (outcomes n.toNat))
    (hresult : Decides outcomes n.toNat result) :
    p.Meets transient outcomes n.toNat n.toNat [.tried n.toNat (outcomes n.toNat)] result := by
  refine ⟨⟨Nat.le_refl _, hfirst, ?_, hends⟩, (schedule_self p outcomes n.toNat).symm, hresult⟩
  intro i hi hlt
  omega

/-- A policy does what it says: the outcomes of the attempts decide which is the last. -/
theorem Row.meets {steps : List (Step ε α)} (h : p.Row transient n steps result)
    (hn : n ≤ p.limit) (ho : ∀ i outcome, .tried i outcome ∈ steps → outcome = outcomes i) :
    ∃ last, p.Meets transient outcomes n.toNat last steps result := by
  induction h with
  | @succeeded n outcome value h =>
    have hfirst := UInt32.le_iff_toNat_le.mp hn
    rw [limit_toNat] at hfirst
    obtain rfl := ok_of_judge_succeeded h
    have hvalue := ho _ _ List.mem_cons_self
    have hends : ¬ Passing transient (outcomes n.toNat) := by
      rw [← hvalue]
      exact not_passing_ok value
    rw [hvalue]
    exact ⟨_, meets_self hfirst (.inr hends) (.value hvalue.symm)⟩
  | @gaveUp n outcome failure h =>
    have hfirst := UInt32.le_iff_toNat_le.mp hn
    rw [limit_toNat] at hfirst
    rcases judge_cases p transient n outcome with
      ⟨value, -, hj⟩ | ⟨error, rfl, hj, hwhy⟩ | ⟨-, -, hj⟩
    · cases hj.symm.trans h
    · cases hj.symm.trans h
      have herror := ho _ _ List.mem_cons_self
      have hends : n.toNat = max 1 p.maxAttempts.toNat ∨ ¬ Passing transient (outcomes n.toNat) := by
        rcases hwhy with hfatal | hlimit
        · rw [← herror, passing_error_iff, hfatal]
          exact .inr Bool.false_ne_true
        · rw [← limit_toNat] at hfirst ⊢
          exact .inl (Nat.le_antisymm hfirst (UInt32.le_iff_toNat_le.mp hlimit))
      rw [herror]
      exact ⟨_, meets_self hfirst hends (.failure herror.symm rfl)⟩
    · cases hj.symm.trans h
  | @again n outcome wait next steps result h hrest ih =>
    rcases judge_cases p transient n outcome with
      ⟨value, -, hj⟩ | ⟨error, -, hj, -⟩ | ⟨hpassing, hlt, hj⟩
    · cases hj.symm.trans h
    · cases hj.symm.trans h
    · cases hj.symm.trans h
      have hnext := toNat_succ_of_lt hlt
      have hle : n + 1 ≤ p.limit := by
        rw [UInt32.le_iff_toNat_le, hnext]
        exact UInt32.lt_iff_toNat_lt.mp hlt
      have hone := ho _ _ List.mem_cons_self
      obtain ⟨last, hlast, hmade, hdecides⟩ :=
        ih hle fun i outcome hi => ho i outcome (Step.tried_mem_again_iff.mpr (.inr hi))
      rw [hnext] at hlast hmade
      refine ⟨last, ⟨?_, hlast.le_limit, ?_, hlast.ends⟩, ?_, hdecides⟩
      · exact Nat.le_of_succ_le hlast.first_le
      · intro i hi hbefore
        rcases Nat.eq_or_lt_of_le hi with rfl | hi
        · rwa [← hone]
        · exact hlast.before i hi hbefore
      · rw [schedule_of_lt hlast.first_le, ← hone, ← hmade, linearBackoff, Duration.total_times]

theorem Row.le_of_tried {steps : List (Step ε α)} {i : Nat} (h : p.Row transient n steps result)
    (hi : .tried i outcome ∈ steps) : n.toNat ≤ i := by
  induction h with
  | succeeded | gaveUp =>
    cases List.mem_singleton.mp hi
    exact Nat.le_refl _
  | again h hrest ih =>
    obtain ⟨hlt, rfl⟩ := lt_of_judge_again h
    rcases Step.tried_mem_again_iff.mp hi with ⟨rfl, -⟩ | hi
    · exact Nat.le_refl _
    · have hnext := ih hi
      rw [toNat_succ_of_lt hlt] at hnext
      exact Nat.le_of_succ_le hnext

/-- No two attempts have one number. -/
theorem Row.exists_outcomes {steps : List (Step ε α)} (h : p.Row transient n steps result) :
    ∃ outcomes : Nat → Except ε α, ∀ i outcome, .tried i outcome ∈ steps → outcome = outcomes i := by
  induction h with
  | @succeeded n outcome | @gaveUp n outcome =>
    refine ⟨fun _ => outcome, ?_⟩
    intro i o hi
    cases List.mem_singleton.mp hi
    rfl
  | @again n outcome wait next steps result h hrest ih =>
    obtain ⟨outcomes, ho⟩ := ih
    obtain ⟨hlt, rfl⟩ := lt_of_judge_again h
    refine ⟨fun i => if i = n.toNat then outcome else outcomes i, ?_⟩
    intro i o hi
    rcases Step.tried_mem_again_iff.mp hi with ⟨rfl, rfl⟩ | hi
    · simp
    · have hnext := hrest.le_of_tried hi
      rw [toNat_succ_of_lt hlt] at hnext
      have hne : i ≠ n.toNat := by omega
      simpa [hne] using ho i o hi

/-- A transient error is the end only at the limit. -/
theorem Meets.at_limit {steps : List (Step ε α)} {failure : GaveUp ε}
    (h : p.Meets transient outcomes first last steps (.error failure))
    (ht : transient failure.error = true) : last = max 1 p.maxAttempts.toNat := by
  obtain ⟨hlast, -, hdecides⟩ := h
  cases hdecides with
  | failure herror =>
    apply hlast.ends.resolve_right
    rwa [herror, passing_error_iff, not_not]

section Loop

variable {outcome : UInt32 → Except ε α}

theorem runFrom_succeeded {value : α} (h : p.judge transient n (outcome n) = .succeeded value) :
    p.runFrom transient outcome n = ⟨[n], [], .ok value⟩ := by
  unfold runFrom
  split
  all_goals
    rename_i hj
    cases h.symm.trans hj
  rfl

theorem runFrom_gaveUp {failure : GaveUp ε}
    (h : p.judge transient n (outcome n) = .gaveUp failure) :
    p.runFrom transient outcome n = ⟨[n], [], .error failure⟩ := by
  unfold runFrom
  split
  all_goals
    rename_i hj
    cases h.symm.trans hj
  rfl

theorem runFrom_again {wait : Duration} {next : UInt32}
    (h : p.judge transient n (outcome n) = .again wait next) :
    p.runFrom transient outcome n =
      ⟨n :: (p.runFrom transient outcome next).calls,
        wait :: (p.runFrom transient outcome next).waits,
        (p.runFrom transient outcome next).result⟩ := by
  rw [runFrom]
  split
  all_goals
    rename_i hj
    cases h.symm.trans hj
  rfl

/-- The loop makes such a row, attempt by attempt. -/
theorem exists_row (p : RetryPolicy) (transient : ε → Bool) (outcome : UInt32 → Except ε α)
    (n : UInt32) : ∃ steps, p.Row transient n steps (p.runFrom transient outcome n).result ∧
      (p.runFrom transient outcome n).calls.map UInt32.toNat = steps.filterMap Step.attempt? ∧
      (p.runFrom transient outcome n).waits.map Duration.total = steps.filterMap Step.wait? ∧
      ∀ i o, .tried i o ∈ steps → ∃ m : UInt32, i = m.toNat ∧ o = outcome m := by
  induction n using runFrom.induct p transient outcome with
  | case1 n value h =>
    rw [runFrom_succeeded h]
    refine ⟨[.tried n.toNat (outcome n)], .succeeded h, rfl, rfl, ?_⟩
    intro i o hi
    cases List.mem_singleton.mp hi
    exact ⟨n, rfl, rfl⟩
  | case2 n failure h =>
    rw [runFrom_gaveUp h]
    refine ⟨[.tried n.toNat (outcome n)], .gaveUp h, rfl, rfl, ?_⟩
    intro i o hi
    cases List.mem_singleton.mp hi
    exact ⟨n, rfl, rfl⟩
  | case3 n wait next h ih =>
    obtain ⟨steps, hrow, hcalls, hwaits, ho⟩ := ih
    rw [runFrom_again h]
    refine ⟨.tried n.toNat (outcome n) :: .waited wait.total :: steps, .again h hrow, ?_, ?_, ?_⟩
    · simpa [List.filterMap_cons, Step.attempt?] using hcalls
    · simpa [List.filterMap_cons, Step.wait?] using hwaits
    · intro i o hi
      rcases Step.tried_mem_again_iff.mp hi with ⟨rfl, rfl⟩ | hi
      · exact ⟨n, rfl, rfl⟩
      · exact ho i o hi

/-- The first attempt can always be made. -/
theorem one_le_limit (p : RetryPolicy) : 1 ≤ p.limit := by
  rw [UInt32.le_iff_toNat_le, limit_toNat]
  exact Nat.le_max_left _ _

/-- A finished row of attempts is what its policy makes of those outcomes: so many calls, numbered
from one on without an overflow, and between any two of them a wait. -/
def Exact (p : RetryPolicy) (transient : ε → Bool) (outcomes : Nat → Except ε α)
    (attempts : Attempts ε α) : Prop :=
  ∃ last steps, p.Row transient 1 steps attempts.result ∧
    p.Meets transient outcomes 1 last steps attempts.result ∧
    attempts.calls.map UInt32.toNat = List.range' 1 last ∧
    attempts.waits.map Duration.total =
      (List.range' 1 (last - 1)).map fun i => min (i * p.delay.total) Duration.largest.total

/-- The loop does what its policy says, whatever the outcomes of the attempts are. -/
theorem run_exact (p : RetryPolicy) (transient : ε → Bool) (outcomes : Nat → Except ε α) :
    p.Exact transient outcomes (p.run transient fun n => outcomes n.toNat) := by
  obtain ⟨steps, hrow, hcalls, hwaits, ho⟩ :=
    p.exists_row transient (fun n => outcomes n.toNat) 1
  obtain ⟨last, hmeets⟩ := hrow.meets p.one_le_limit fun i o hi => by
    obtain ⟨m, rfl, rfl⟩ := ho i o hi
    rfl
  rw [UInt32.toNat_one] at hmeets
  have hlast := hmeets.isLast.first_le
  rw [hmeets.made] at hcalls hwaits
  rw [schedule_attempts hlast, Nat.sub_add_cancel hlast] at hcalls
  rw [schedule_waits] at hwaits
  exact ⟨last, steps, hrow, hmeets, hcalls, hwaits⟩

end Loop

end RetryPolicy
end Tenancy
