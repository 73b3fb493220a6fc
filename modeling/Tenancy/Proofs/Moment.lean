import Tenancy.Proofs.Calendar
import Tenancy.Proofs.Decimal
import Tenancy.Proofs.Timestamp

namespace Tenancy.Timestamp

open Text

variable {t : Timestamp} {cs rest : List Char} {n width nanos : Nat} {year : Int}

theorem readNumber_padded (hpos : 0 < width) (h : n < Nat.pow 10 width) :
    readNumber width ((padded width n).toList ++ rest) = some (n, rest) := by
  have htrim : trimStart ((padded width n).toList ++ rest) = (padded width n).toList ++ rest := by
    obtain ⟨c, cs, hcons, hdigit⟩ := exists_padded_eq_cons width n
    rw [hcons]
    exact trimStart_cons (isBlank_of_isDigit hdigit)
  have htake : (((padded width n).toList ++ rest).takeWhile isDigit).take width =
      (padded width n).toList := by
    rw [List.takeWhile_append_of_pos fun c => isDigit_of_mem_padded]
    exact List.take_left' (length_padded hpos h)
  simp only [readNumber, htrim, htake, isEmpty_padded, value_padded, List.drop_left]
  rfl

theorem readMark_cons {mark : Char} (h : isBlank mark = false) :
    readMark mark (mark :: rest) = some rest := by
  simp [readMark, trimStart_cons h]

/-- Four digits are read as they stand. -/
theorem readYear_padded (h : n < 10000) :
    readYear ((padded 4 n).toList ++ rest) = some ((n : Int), rest) := by
  have hnumber : readNumber 4 ((padded 4 n).toList ++ rest) = some (n, rest) :=
    readNumber_padded (by decide) h
  obtain ⟨c, cs, hcons, hdigit⟩ := exists_padded_eq_cons 4 n
  rw [hcons] at hnumber ⊢
  unfold readYear
  rw [List.cons_append, trimStart_cons (isBlank_of_isDigit hdigit)]
  split
  · rename_i hsign
    cases hsign
    cases hdigit
  · rename_i hsign
    cases hsign
    cases hdigit
  · rw [← List.cons_append, hnumber]
    rfl

/-- Where four digits are not enough, or the year is negative, any number of them is read. -/
theorem readYear_yearText (h : NoDigit rest) :
    readYear ((yearText year).toList ++ rest) = some (year, rest) := by
  unfold yearText
  split
  · rename_i hfour
    simp only [Bool.and_eq_true, decide_eq_true_eq] at hfour
    rw [readYear_padded (by omega), Int.toNat_of_nonneg hfour.1]
  · have hdigits : ∀ c ∈ (padded 4 year.natAbs).toList, isDigit c = true :=
      fun c => isDigit_of_mem_padded
    have htake := takeWhile_isDigit hdigits h
    have hdrop := dropWhile_isDigit hdigits h
    split
    · rename_i hnegative
      have hyear : -(year.natAbs : Int) = year := by omega
      rw [String.toList_append]
      change readYear ('-' :: ((padded 4 year.natAbs).toList ++ rest)) = _
      rw [readYear, trimStart_cons rfl]
      simp only [htake, hdrop, isEmpty_padded, value_padded, Bool.false_eq_true, if_false,
        Option.map_some, hyear]
    · rename_i hnegative
      have hyear : (year.natAbs : Int) = year := by omega
      rw [String.toList_append]
      change readYear ('+' :: ((padded 4 year.natAbs).toList ++ rest)) = _
      rw [readYear, trimStart_cons rfl]
      simp only [htake, hdrop, isEmpty_padded, value_padded, Bool.false_eq_true, if_false,
        Option.map_some, hyear]

/-- The digits behind a point, whose number says what they count. -/
theorem readFraction_padded (hpos : 0 < width) (hwidth : width ≤ 9) (h : n < Nat.pow 10 width) :
    readFraction ('.' :: ((padded width n).toList ++ 'Z' :: rest)) =
      some (n * Nat.pow 10 (9 - width), 'Z' :: rest) := by
  have hdigits : ∀ c ∈ (padded width n).toList, isDigit c = true := fun c => isDigit_of_mem_padded
  have hend : NoDigit ('Z' :: rest) := noDigit_cons rfl
  have hlength := length_padded hpos h
  have hnine : (padded width n).toList.take 9 = (padded width n).toList :=
    List.take_of_length_le (by omega)
  simp only [readFraction, takeWhile_isDigit hdigits hend, dropWhile_isDigit hdigits hend,
    isEmpty_padded, hnine, hlength, value_padded]
  rfl

theorem readFraction_fractionText (h : nanos < 1_000_000_000) :
    readFraction ((fractionText nanos).toList ++ 'Z' :: rest) = some (nanos, 'Z' :: rest) := by
  have hpoint (width n : Nat) : ("." ++ padded width n).toList ++ 'Z' :: rest =
      '.' :: ((padded width n).toList ++ 'Z' :: rest) := by
    rw [String.toList_append]
    rfl
  unfold fractionText
  split
  · rename_i hzero
    rw [hzero]
    rfl
  · split
    · rw [hpoint, readFraction_padded (by decide) (by decide) (by change _ < 1000; omega)]
      change some (nanos / 1_000_000 * 1_000_000, _) = _
      congr 2
      omega
    · split
      · rw [hpoint, readFraction_padded (by decide) (by decide) (by change _ < 1000000; omega)]
        change some (nanos / 1000 * 1000, _) = _
        congr 2
        omega
      · rw [hpoint, readFraction_padded (by decide) (by decide) h]
        change some (nanos * 1, _) = _
        rw [Nat.mul_one]

theorem exists_date (hday : inRange t.day = true) : ∃ year month day,
    dateOfDay t.day = (year, month, day) ∧ dayOfDate year month day = t.day ∧
    firstYear ≤ year ∧ year ≤ lastYear ∧ 1 ≤ month ∧ month ≤ 12 ∧ 1 ≤ day ∧
    day ≤ daysIn year month := by
  obtain ⟨cycle, y, d, h⟩ := exists_falls t.day
  obtain ⟨hfirst, hlast⟩ := h.year_mem hday
  obtain ⟨hmonth, -⟩ := monthOfDay_spec d h.day_lt_366
  refine ⟨_, _, _, h.dateOfDay, h.dayOfDate, hfirst, hlast, ?_, ?_, Nat.le_add_left 1 _, h.day_le⟩
  · unfold monthOf
    split <;> omega
  · unfold monthOf
    split <;> omega

theorem daysIn_le (year : Int) (month : Nat) : daysIn year month ≤ 31 := by
  unfold daysIn
  split
  · split <;> decide
  all_goals decide

/-- Moments that can be told: a leap second follows the last second of a minute. -/
structure Tellable (t : Timestamp) : Prop extends t.Bounded where
  leap : 1_000_000_000 ≤ t.nanos → t.second % 60 = 59

/-- The second of the minute that is written. -/
def shownSecond (t : Timestamp) : Nat := t.second % 60 + if 1_000_000_000 ≤ t.nanos then 1 else 0

/-- The nanoseconds that are written. -/
def shownNanos (t : Timestamp) : Nat :=
  if 1_000_000_000 ≤ t.nanos then t.nanos - 1_000_000_000 else t.nanos

theorem toList_write {month day : Nat} (h : dateOfDay t.day = (year, month, day)) :
    t.write.toList = (yearText year).toList ++ '-' :: ((padded 2 month).toList ++
      '-' :: ((padded 2 day).toList ++ 'T' :: ((padded 2 (t.second / 3600)).toList ++
      ':' :: ((padded 2 (t.second / 60 % 60)).toList ++ ':' :: ((padded 2 t.shownSecond).toList ++
      ((fractionText t.shownNanos).toList ++ ['Z'])))))) := by
  simp [write, dateText, timeText, h, shownSecond, shownNanos]

theorem Tellable.shownNanos_lt (h : t.Tellable) : t.shownNanos < 1_000_000_000 := by
  have hnanos := h.nanos
  unfold shownNanos
  split <;> omega

theorem shownSecond_le (t : Timestamp) : t.shownSecond ≤ 60 := by
  unfold shownSecond
  split <;> omega

/-- The sixtieth second is written for leap seconds only. -/
theorem Tellable.shownSecond_eq_iff (h : t.Tellable) :
    t.shownSecond = 60 ↔ 1_000_000_000 ≤ t.nanos := by
  have hleap := h.leap
  unfold shownSecond
  split <;> omega

theorem Tellable.min_shownSecond (h : t.Tellable) : min t.shownSecond 59 = t.second % 60 := by
  have hleap := h.leap
  unfold shownSecond
  split <;> omega

theorem Tellable.nanos_of_shown (h : t.Tellable) :
    (if t.shownSecond = 60 then t.shownNanos + 1_000_000_000 else t.shownNanos) = t.nanos := by
  rw [shownNanos]
  simp only [h.shownSecond_eq_iff]
  split <;> omega

theorem read?_write (h : t.Tellable) : read? t.write = some t := by
  obtain ⟨year, month, day, hdate, hback, hfirst, hlast, hmonth, htwelve, hday, hdays⟩ :=
    exists_date h.day
  have hlong := daysIn_le year month
  have hsecond := h.second
  have hminute := h.min_shownSecond
  have hsixty := t.shownSecond_le
  have hyear (rest : List Char) : readYear ((yearText year).toList ++ '-' :: rest) =
      some (year, '-' :: rest) := readYear_yearText (noDigit_cons rfl)
  have hnumber {n : Nat} (hn : n < 100) (rest : List Char) :
      readNumber 2 ((padded 2 n).toList ++ rest) = some (n, rest) :=
    readNumber_padded (by decide) hn
  have hfraction : readFraction ((fractionText t.shownNanos).toList ++ ['Z']) =
      some (t.shownNanos, ['Z']) :=
    readFraction_fractionText h.shownNanos_lt
  have hofDay : (t.second / 3600 : Nat) * 3600 + (t.second / 60 % 60 : Nat) * 60 +
      (min t.shownSecond 59 : Nat) - 0 = (t.second : Int) := by omega
  have hutc : Int.fdiv t.second 86400 = 0 := by
    rw [Int.fdiv_eq_ediv_of_nonneg _ (by decide)]
    omega
  have hmod : (Int.fmod t.second 86400).toNat = t.second := by
    rw [Int.fmod_eq_emod_of_nonneg _ (by decide)]
    omega
  -- one step for each part, in the order in which they stand in the text
  refine Option.bind_eq_some_iff.mpr
    ⟨(year, _), (congrArg readYear (toList_write hdate)).trans (hyear _), ?_⟩
  refine Option.bind_eq_some_iff.mpr ⟨_, readMark_cons rfl, ?_⟩
  refine Option.bind_eq_some_iff.mpr ⟨(month, _), hnumber (by omega) _, ?_⟩
  refine Option.bind_eq_some_iff.mpr ⟨_, readMark_cons rfl, ?_⟩
  refine Option.bind_eq_some_iff.mpr ⟨(day, _), hnumber (by omega) _, ?_⟩
  refine Option.bind_eq_some_iff.mpr ⟨_, rfl, ?_⟩
  refine Option.bind_eq_some_iff.mpr ⟨(t.second / 3600, _), hnumber (by omega) _, ?_⟩
  refine Option.bind_eq_some_iff.mpr ⟨_, readMark_cons rfl, ?_⟩
  refine Option.bind_eq_some_iff.mpr ⟨(t.second / 60 % 60, _), hnumber (by omega) _, ?_⟩
  refine Option.bind_eq_some_iff.mpr ⟨_, readMark_cons rfl, ?_⟩
  refine Option.bind_eq_some_iff.mpr ⟨(t.shownSecond, _), hnumber (by omega) _, ?_⟩
  refine Option.bind_eq_some_iff.mpr ⟨(t.shownNanos, _), hfraction, ?_⟩
  refine Option.bind_eq_some_iff.mpr ⟨(0, []), rfl, ?_⟩
  refine (if_neg (by decide)).trans ?_
  refine (if_neg (by simp [hmonth, htwelve, hday, hdays])).trans ?_
  refine (if_neg (by simp; omega)).trans ?_
  refine (if_neg (by simp [hfirst, hlast])).trans ?_
  simp only [hofDay, hutc, hmod, hback, h.nanos_of_shown, Int.add_zero, h.day, if_true]

theorem tellable_of_read? {s : String} (h : read? s = some t) : t.Tellable :=
  { read?_bounded h with leap := read?_leap h }

/-- Exactly these moments are read back from what is written. -/
theorem read?_write_iff : read? t.write = some t ↔ t.Tellable := ⟨tellable_of_read?, read?_write⟩

end Tenancy.Timestamp
