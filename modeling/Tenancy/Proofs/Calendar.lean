import Tenancy.Timestamp

namespace Tenancy.Timestamp

/-- Days of a cycle before its year `y`. -/
def daysBefore (y : Nat) : Nat := y * 365 + y / 4 - y / 100 + y / 400

/-- The number of a day in a cycle, less the leap days before it. -/
def leapless (d : Nat) : Nat := d - d / 1460 + d / 36524 - d / 146096

theorem leapless_le_succ {d : Nat} (h : d < 146096) : leapless d ≤ leapless (d + 1) := by
  unfold leapless
  omega

theorem leapless_le {d e : Nat} (h : d ≤ e) (he : e < 146097) : leapless d ≤ leapless e := by
  induction h with
  | refl => exact Nat.le_refl _
  | step _ ih => exact Nat.le_trans (ih (by omega)) (leapless_le_succ (by omega))

theorem daysBefore_le {y z : Nat} (h : y ≤ z) : daysBefore y ≤ daysBefore z := by
  have hstep (y : Nat) : daysBefore y ≤ daysBefore (y + 1) := by
    unfold daysBefore
    omega
  induction h with
  | refl => exact Nat.le_refl _
  | step _ ih => exact Nat.le_trans ih (hstep _)

/-- Checked at the first and the last day of each year of a cycle. -/
theorem leapless_year : ∀ y < 400,
    y * 365 ≤ leapless (daysBefore y) ∧ leapless (daysBefore (y + 1) - 1) < (y + 1) * 365 := by
  decide +kernel

/-- A leap day is the last of its year. -/
theorem daysBefore_succ : ∀ y < 400,
    daysBefore (y + 1) = daysBefore y + if isLeapYear (y + 1 : Nat) then 366 else 365 := by
  decide +kernel

theorem exists_year {d n : Nat} (h : d < daysBefore n) :
    ∃ y < n, daysBefore y ≤ d ∧ d < daysBefore (y + 1) := by
  induction n with
  | zero => exact absurd h (Nat.not_lt_zero d)
  | succ n ih =>
    rcases Nat.lt_or_ge d (daysBefore n) with hlt | hge
    · obtain ⟨y, hy, hbetween⟩ := ih hlt
      exact ⟨y, Nat.lt_succ_of_lt hy, hbetween⟩
    · exact ⟨n, Nat.lt_succ_self n, hge, h⟩

/-- The year that a day of a cycle belongs to. -/
theorem leapless_div {d y : Nat} (hy : y < 400) (hfirst : daysBefore y ≤ d)
    (hlast : d < daysBefore (y + 1)) : leapless d / 365 = y := by
  obtain ⟨hleast, hmost⟩ := leapless_year y hy
  have hcycle : daysBefore (y + 1) ≤ 146097 := daysBefore_le hy
  have hlower := leapless_le hfirst (by omega)
  have hupper := leapless_le (Nat.le_sub_one_of_lt hlast) (by omega)
  omega

/-- The month of the day `d` of a year, where March is month zero. -/
def monthOfDay (d : Nat) : Nat := (5 * d + 2) / 153

/-- Days of a year before its month `m`. -/
def daysBeforeMonth (m : Nat) : Nat := (153 * m + 2) / 5

/-- The month of the calendar. -/
def monthOf (m : Nat) : Nat := if m < 10 then m + 3 else m - 9

theorem isLeapYear_cycle (cycle year : Int) : isLeapYear (cycle * 400 + year) = isLeapYear year := by
  have hfour : (cycle * 400 + year) % 4 = year % 4 := by omega
  have hcentury : (cycle * 400 + year) % 100 = year % 100 := by omega
  have hcycle : (cycle * 400 + year) % 400 = year % 400 := by omega
  rw [isLeapYear, isLeapYear, hfour, hcentury, hcycle]

/-- Only February is as long as its year tells. -/
theorem daysIn_congr {year : Int} {month : Nat} (year' : Int)
    (h : month = 2 → isLeapYear year = isLeapYear year') : daysIn year month = daysIn year' month := by
  unfold daysIn
  split
  · rw [h rfl]
  all_goals rfl

/-- Checked at each day of a leap year, and at each of another year. -/
theorem monthOfDay_spec : ∀ d < 366, monthOfDay d < 12 ∧ daysBeforeMonth (monthOfDay d) ≤ d ∧
    d - daysBeforeMonth (monthOfDay d) + 1 ≤ daysIn 2000 (monthOf (monthOfDay d)) ∧
    (d < 365 → d - daysBeforeMonth (monthOfDay d) + 1 ≤ daysIn 2001 (monthOf (monthOfDay d))) := by
  decide +kernel

/-- The day `d` of the year `y` of a cycle, in which years begin with March. -/
structure Falls (n cycle : Int) (y d : Nat) : Prop where
  counted : n + 719468 = cycle * 146097 + (daysBefore y + d : Nat)
  year : y < 400
  day : daysBefore y + d < daysBefore (y + 1)

variable {n cycle : Int} {y d : Nat}

theorem exists_falls (n : Int) : ∃ cycle y d, Falls n cycle y d := by
  have hlt : ((n + 719468) % 146097).toNat < daysBefore 400 := by
    change _ < 146097
    omega
  obtain ⟨y, hy, hfirst, hlast⟩ := exists_year hlt
  refine ⟨(n + 719468) / 146097, y, ((n + 719468) % 146097).toNat - daysBefore y, ?_, hy, ?_⟩
  · omega
  · omega

/-- The year that January and February belong to has begun within a year from March. -/
def yearOf (cycle : Int) (y m : Nat) : Int := cycle * 400 + y + if monthOf m ≤ 2 then 1 else 0

theorem Falls.dateOfDay (h : Falls n cycle y d) : dateOfDay n =
    (yearOf cycle y (monthOfDay d), monthOf (monthOfDay d),
      d - daysBeforeMonth (monthOfDay d) + 1) := by
  obtain ⟨hn, hy, hd⟩ := h
  have hcycle : daysBefore (y + 1) ≤ 146097 := daysBefore_le hy
  have hdiv : Int.fdiv (n + 719468) 146097 = cycle := by
    rw [Int.fdiv_eq_ediv_of_nonneg _ (by decide)]
    omega
  have hday : (n + 719468 - cycle * 146097).toNat = daysBefore y + d := by omega
  have hyear := leapless_div hy (Nat.le_add_right _ d) hd
  have hrest : daysBefore y + d - (365 * y + y / 4 - y / 100) = d := by
    unfold daysBefore
    omega
  unfold leapless at hyear
  simp only [Timestamp.dateOfDay, hdiv, hday, hyear, hrest]
  rfl

theorem dayOfDate_yearOf {m day : Nat} (hy : y < 400) (hm : m < 12) (hday : 1 ≤ day) :
    dayOfDate (yearOf cycle y m) (monthOf m) day =
      cycle * 146097 + (daysBefore y + (daysBeforeMonth m + (day - 1)) : Nat) - 719468 := by
  have hmarch : (if monthOf m ≤ 2 then yearOf cycle y m - 1 else yearOf cycle y m) =
      cycle * 400 + y := by
    unfold yearOf
    split <;> omega
  have hcycle : Int.fdiv (cycle * 400 + y) 400 = cycle := by
    rw [Int.fdiv_eq_ediv_of_nonneg _ (by decide)]
    omega
  have hyear : (cycle * 400 + y - cycle * 400).toNat = y := by omega
  have hmonth : (monthOf m + 9) % 12 = m := by
    unfold monthOf
    split <;> omega
  simp only [dayOfDate, hmarch, hcycle, hyear, hmonth, daysBefore, daysBeforeMonth]
  omega

theorem Falls.day_lt (h : Falls n cycle y d) :
    d < if isLeapYear (y + 1 : Nat) then 366 else 365 := by
  have hday := h.day
  rw [daysBefore_succ y h.year] at hday
  omega

theorem Falls.day_lt_366 (h : Falls n cycle y d) : d < 366 := by
  have hday := h.day_lt
  split at hday <;> omega

theorem Falls.dayOfDate (h : Falls n cycle y d) :
    dayOfDate (yearOf cycle y (monthOfDay d)) (monthOf (monthOfDay d))
      (d - daysBeforeMonth (monthOfDay d) + 1) = n := by
  obtain ⟨hmonth, hbegun, -⟩ := monthOfDay_spec d h.day_lt_366
  rw [dayOfDate_yearOf h.year hmonth (Nat.le_add_left 1 _)]
  have hcounted := h.counted
  omega

/-- The leap day stands in the year after the one that began in March. -/
theorem Falls.day_le (h : Falls n cycle y d) : d - daysBeforeMonth (monthOfDay d) + 1 ≤
    daysIn (yearOf cycle y (monthOfDay d)) (monthOf (monthOfDay d)) := by
  have hday := h.day_lt
  have hleap : monthOf (monthOfDay d) = 2 →
      isLeapYear (yearOf cycle y (monthOfDay d)) = isLeapYear (y + 1 : Nat) := by
    intro hfebruary
    rw [yearOf, hfebruary, ← isLeapYear_cycle cycle (y + 1 : Nat)]
    congr 1
    rw [if_pos (by decide), Int.natCast_add]
    exact Int.add_assoc _ _ _
  cases hyear : isLeapYear (y + 1 : Nat) with
  | false =>
    rw [hyear, if_neg Bool.false_ne_true] at hday
    obtain ⟨-, -, -, hmost⟩ := monthOfDay_spec d (by omega)
    rw [daysIn_congr 2001 fun hfebruary => (hleap hfebruary).trans hyear]
    exact hmost hday
  | true =>
    rw [hyear, if_pos rfl] at hday
    obtain ⟨-, -, hmost, -⟩ := monthOfDay_spec d hday
    rwa [daysIn_congr 2000 fun hfebruary => (hleap hfebruary).trans hyear]

/-- Days of the calendar fall into the years that can be read. -/
theorem Falls.year_mem (h : Falls n cycle y d) (hn : inRange n = true) :
    firstYear ≤ yearOf cycle y (monthOfDay d) ∧
      yearOf cycle y (monthOfDay d) ≤ lastYear := by
  have hfirst : Timestamp.dayOfDate firstYear 1 1 = -96465292 := by decide
  have hlast : Timestamp.dayOfDate lastYear 12 31 = 95026236 := by decide
  simp only [inRange, hfirst, hlast, Bool.and_eq_true, decide_eq_true_eq] at hn
  have hmonth : (if monthOf (monthOfDay d) ≤ 2 then (1 : Int) else 0) =
      if d < 306 then 0 else 1 := by
    have hday := h.day_lt_366
    unfold monthOf monthOfDay
    split <;> split <;> split <;> omega
  obtain ⟨hcounted, hy, hd⟩ := h
  have hcycle : daysBefore (y + 1) ≤ 146097 := daysBefore_le hy
  rw [yearOf, hmonth, firstYear, lastYear]
  constructor
  · -- The first year begins in the year 256 of its cycle.
    rcases Nat.lt_trichotomy y 256 with hlt | rfl | hgt
    · have hyears : daysBefore (y + 1) ≤ 93502 := daysBefore_le hlt
      split <;> omega
    · have hyears : daysBefore 256 = 93502 := rfl
      split <;> omega
    · split <;> omega
  · -- The last year ends in the year 142 of its cycle.
    rcases Nat.lt_trichotomy y 142 with hlt | rfl | hgt
    · split <;> omega
    · have hyears : daysBefore 142 = 51864 := rfl
      split <;> omega
    · have hyears : 52229 ≤ daysBefore y := daysBefore_le hgt
      split <;> omega

end Tenancy.Timestamp
