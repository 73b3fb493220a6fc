import Tenancy.Proofs.Retry

namespace Tenancy

namespace Duration

variable {b c : Duration} {n m : UInt32} {x y z : UInt64}

/-- The sum, unless it needs more than 64 bits. -/
def wordSum? (x y : UInt64) : Option UInt64 :=
  if x.toNat + y.toNat < UInt64.size then some (x + y) else none

/-- The product, unless it needs more than 64 bits. -/
def wordProduct? (x y : UInt64) : Option UInt64 :=
  if x.toNat * y.toNat < UInt64.size then some (x * y) else none

/-- The nanoseconds taken `n` times, in a word that would wrap around. -/
def nanosWord (b : Duration) (n : UInt32) : UInt64 := .ofNat b.nanos * n.toUInt64

/-- The seconds taken `n` times and what the nanoseconds carry, if both steps stay in a word. -/
def secondsWord? (b : Duration) (n : UInt32) : Option UInt64 :=
  (wordProduct? (.ofNat b.seconds) n.toUInt64).bind fun seconds =>
    wordSum? seconds (b.nanosWord n / 1_000_000_000)

theorem nanosWord_mod_lt (b : Duration) (n : UInt32) :
    (b.nanosWord n % 1_000_000_000).toNat < 1_000_000_000 := by
  rw [UInt64.toNat_mod]
  exact Nat.mod_lt _ (by decide)

/-- The length taken `n` times, word by word. -/
def timesInWords (b : Duration) (n : UInt32) : Duration :=
  match b.secondsWord? n with
  | some seconds => ⟨seconds.toNat, (b.nanosWord n % 1_000_000_000).toNat,
    seconds.toNat_lt_size, b.nanosWord_mod_lt n⟩
  | none => largest

theorem wordSum?_eq_some_iff : wordSum? x y = some z ↔ z.toNat = x.toNat + y.toNat := by
  unfold wordSum?
  split
  · rename_i h
    rw [Option.some_inj, ← UInt64.toNat_inj, UInt64.toNat_add, Nat.mod_eq_of_lt h, eq_comm]
  · rename_i h
    have hz := z.toNat_lt_size
    simp only [reduceCtorEq, false_iff]
    omega

theorem wordProduct?_eq_some_iff : wordProduct? x y = some z ↔ z.toNat = x.toNat * y.toNat := by
  unfold wordProduct?
  split
  · rename_i h
    rw [Option.some_inj, ← UInt64.toNat_inj, UInt64.toNat_mul, Nat.mod_eq_of_lt h, eq_comm]
  · rename_i h
    have hz := z.toNat_lt_size
    simp only [reduceCtorEq, false_iff]
    omega

/-- Less than 10^9 times less than 2^32 is less than 2^64. -/
theorem toNat_nanosWord (b : Duration) (n : UInt32) :
    (b.nanosWord n).toNat = b.nanos * n.toNat := by
  have hnanos := b.nanos_lt
  have hword : b.nanos < UInt64.size := Nat.lt_trans hnanos (by decide)
  have hproduct : b.nanos * n.toNat < 1_000_000_000 * UInt32.size :=
    Nat.mul_lt_mul'' hnanos n.toNat_lt_size
  have hfits : b.nanos * n.toNat < UInt64.size := Nat.lt_trans hproduct (by decide)
  rw [nanosWord, UInt64.toNat_mul, UInt64.toNat_ofNat_of_lt' hword, UInt32.toNat_toUInt64]
  exact Nat.mod_eq_of_lt hfits

theorem secondsWord?_eq_some_iff : b.secondsWord? n = some z ↔
    z.toNat = b.seconds * n.toNat + b.nanos * n.toNat / 1_000_000_000 := by
  have hcarry : (b.nanosWord n / 1_000_000_000).toNat = b.nanos * n.toNat / 1_000_000_000 := by
    rw [UInt64.toNat_div, toNat_nanosWord]
    rfl
  simp only [secondsWord?, Option.bind_eq_some_iff, wordProduct?_eq_some_iff,
    wordSum?_eq_some_iff, hcarry, UInt64.toNat_ofNat_of_lt' b.seconds_lt, UInt32.toNat_toUInt64]
  constructor
  · rintro ⟨seconds, hseconds, hz⟩
    rw [hz, hseconds]
  · intro hz
    have hfits : b.seconds * n.toNat < UInt64.size := by
      have := z.toNat_lt_size
      omega
    have hseconds := UInt64.toNat_ofNat_of_lt' hfits
    exact ⟨_, hseconds, by rw [hz, hseconds]⟩

/-- The seconds leave their word exactly if the whole product is longer than the largest length: the
carry alone does not make the difference. -/
theorem secondsWord?_eq_none_iff :
    b.secondsWord? n = none ↔ largest.total < n.toNat * b.total := by
  have hlargest := total_largest
  have hproduct := b.mul_total n.toNat
  have hfits : b.secondsWord? n = none ↔
      UInt64.size ≤ b.seconds * n.toNat + b.nanos * n.toNat / 1_000_000_000 := by
    rw [Option.eq_none_iff_forall_ne_some]
    constructor
    · intro h
      refine Nat.not_lt.mp fun hlt => ?_
      exact h _ (secondsWord?_eq_some_iff.mpr (UInt64.toNat_ofNat_of_lt' hlt))
    · intro h z hz
      have hlt := z.toNat_lt_size
      rw [secondsWord?_eq_some_iff.mp hz] at hlt
      omega
  rw [hfits]
  omega

/-- The words hold what the numbers are. -/
theorem timesInWords_eq (b : Duration) (n : UInt32) : b.timesInWords n = b.times n.toNat := by
  unfold timesInWords
  split
  · rename_i seconds h
    have hseconds := secondsWord?_eq_some_iff.mp h
    have hfits := seconds.toNat_lt_size
    rw [hseconds] at hfits
    rw [times, dif_pos hfits]
    simp only [hseconds, UInt64.toNat_mod, toNat_nanosWord]
    rfl
  · rename_i h
    rw [times, dif_neg]
    intro hfits
    rw [secondsWord?_eq_some_iff.mpr (UInt64.toNat_ofNat_of_lt' hfits)] at h
    cases h

/-- Seconds are compared first. -/
instance : LE Duration :=
  ⟨fun b c => b.seconds < c.seconds ∨ b.seconds = c.seconds ∧ b.nanos ≤ c.nanos⟩

theorem le_iff_total_le : b ≤ c ↔ b.total ≤ c.total := by
  have hb := b.nanos_lt
  have hc := c.nanos_lt
  change b.seconds < c.seconds ∨ b.seconds = c.seconds ∧ b.nanos ≤ c.nanos ↔ _
  unfold total
  omega

/-- More attempts and a longer delay make no wait shorter. -/
theorem linearBackoff_le (hn : n ≤ m) (hb : b ≤ c) : linearBackoff n b ≤ linearBackoff m c := by
  rw [le_iff_total_le] at hb ⊢
  rw [linearBackoff, linearBackoff, total_times, total_times]
  exact min_le_min_right _ (Nat.mul_le_mul (UInt32.le_iff_toNat_le.mp hn) hb)

end Duration

namespace RetryPolicy

variable {ε α : Type} {p : RetryPolicy} {transient : ε → Bool} {steps : List (Step ε α)}
  {outcomes : Nat → Except ε α} {result : Except (GaveUp ε) α} {first last : Nat}

theorem schedule_waits_sorted :
    ((p.schedule outcomes first last).filterMap Step.wait?).Pairwise (· ≤ ·) := by
  rw [schedule_waits, List.pairwise_map]
  refine (List.pairwise_lt_range' 1).imp ?_
  intro i j hij
  exact min_le_min_right _ (Nat.mul_le_mul_right p.delay.total (Nat.le_of_lt hij))

/-- Whoever goes on waits no shorter than before. -/
theorem Row.waits_sorted (h : p.Row transient 1 steps result) :
    (steps.filterMap Step.wait?).Pairwise (· ≤ ·) := by
  obtain ⟨outcomes, ho⟩ := h.exists_outcomes
  obtain ⟨last, hmeets⟩ := h.meets p.one_le_limit ho
  rw [hmeets.made]
  exact schedule_waits_sorted

theorem run_waits_sorted (p : RetryPolicy) (transient : ε → Bool) (outcome : UInt32 → Except ε α) :
    (p.run transient outcome).waits.Pairwise (· ≤ ·) := by
  obtain ⟨steps, hrow, -, hwaits, -⟩ := p.exists_row transient outcome 1
  have hsorted := hrow.waits_sorted
  rw [← hwaits, List.pairwise_map] at hsorted
  exact hsorted.imp Duration.le_iff_total_le.mpr

/-- A wait has as many nanoseconds as the attempts times the delay, or as the largest length,
whichever is less. It comes out the same in words of 64 bits, of which that of the nanoseconds never
overflows, and that of the seconds exactly if the whole product is too long. More attempts and a
longer delay make no wait shorter, and whoever tries again waits no shorter than before. -/
theorem backoff_exact :
    (∀ (n : UInt32) (b : Duration),
      (linearBackoff n b).seconds < UInt64.size ∧ (linearBackoff n b).nanos < 1_000_000_000 ∧
      (linearBackoff n b).total = min (n.toNat * b.total) Duration.largest.total ∧
      linearBackoff n b = b.timesInWords n ∧ (b.nanosWord n).toNat = b.nanos * n.toNat ∧
      (b.secondsWord? n = none ↔ Duration.largest.total < n.toNat * b.total)) ∧
    (∀ (n m : UInt32) (b c : Duration), n ≤ m → b ≤ c →
      linearBackoff n b ≤ linearBackoff m c) ∧
    ∀ (ε α : Type) (p : RetryPolicy) (transient : ε → Bool),
      (∀ outcome : UInt32 → Except ε α, (p.run transient outcome).waits.Pairwise (· ≤ ·)) ∧
      ∀ (steps : List (Step ε α)) (result : Except (GaveUp ε) α),
        p.Row transient 1 steps result → (steps.filterMap Step.wait?).Pairwise (· ≤ ·) := by
  refine ⟨fun n b => ?_, fun n m b c hn hb => Duration.linearBackoff_le hn hb, ?_⟩
  · exact ⟨(linearBackoff n b).seconds_lt, (linearBackoff n b).nanos_lt, b.total_times n.toNat,
      (b.timesInWords_eq n).symm, b.toNat_nanosWord n, Duration.secondsWord?_eq_none_iff⟩
  · intro ε α p transient
    exact ⟨p.run_waits_sorted transient, fun steps result h => h.waits_sorted⟩

/-- The longest delay of whole seconds. -/
def longDelay : Duration := .ofSeconds 18446744073709551615

/-- Three failures with that delay: the second wait is cut off and still longer than the first. -/
theorem backoff_exact_long_delay :
    (1 : UInt32) ≤ 2 ∧ longDelay ≤ longDelay ∧
    linearBackoff 1 longDelay ≤ linearBackoff 2 longDelay ∧
    linearBackoff 2 longDelay = Duration.largest ∧
    ∃ steps : List (Step Unit Unit),
      (⟨3, longDelay⟩ : RetryPolicy).Row (fun _ => true) 1 steps (.error ⟨(), 3⟩) ∧
      steps.filterMap Step.wait? =
        [18446744073709551615000000000, 18446744073709551615999999999] ∧
      (steps.filterMap Step.wait?).Pairwise (· ≤ ·) := by
  have hle : longDelay ≤ longDelay := .inr ⟨rfl, Nat.le_refl _⟩
  have hfirst : (⟨3, longDelay⟩ : RetryPolicy).judge (fun _ => true) 1
      (.error () : Except Unit Unit) = .again (linearBackoff 1 longDelay) 2 := rfl
  have hsecond : (⟨3, longDelay⟩ : RetryPolicy).judge (fun _ => true) 2
      (.error () : Except Unit Unit) = .again (linearBackoff 2 longDelay) 3 := rfl
  have hlast : (⟨3, longDelay⟩ : RetryPolicy).judge (fun _ => true) 3
      (.error () : Except Unit Unit) = .gaveUp ⟨(), 3⟩ := rfl
  have hrow : (⟨3, longDelay⟩ : RetryPolicy).Row (fun _ => true) 1 _ (.error ⟨(), 3⟩) :=
    .again hfirst (.again hsecond (.gaveUp hlast))
  exact ⟨by decide, hle, backoff_exact.2.1 1 2 _ _ (by decide) hle, rfl, _, hrow, rfl,
    (backoff_exact.2.2 Unit Unit _ _).2 _ _ hrow⟩

end RetryPolicy
end Tenancy
