import Mathlib.Tactic.Ring
import Tenancy.Duration

namespace Tenancy.Duration

theorem total_largest : largest.total + 1 = UInt64.size * 1_000_000_000 := rfl

theorem mul_total (d : Duration) (n : Nat) :
    n * d.total = d.seconds * n * 1_000_000_000 + d.nanos * n := by
  unfold total
  ring

/-- The carry is exact: a multiple is cut off only if it is longer than the largest length. -/
theorem total_times (d : Duration) (n : Nat) :
    (d.times n).total = min (n * d.total) largest.total := by
  have hlargest := total_largest
  have hproduct := d.mul_total n
  simp only [times]
  split
  · rename_i hfits
    change (d.seconds * n + d.nanos * n / 1_000_000_000) * 1_000_000_000 +
      d.nanos * n % 1_000_000_000 = min (n * d.total) largest.total
    omega
  · rename_i hlong
    omega

end Tenancy.Duration
