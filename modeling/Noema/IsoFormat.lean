import Mathlib.Data.Nat.Find
import Mathlib.Tactic.SplitIfs
import Noema.Lib.TextOrder
import Noema.Types

/-!
# Times as text

`datetime.isoformat` writes the wall clock and then the offset, and leaves out a
fraction of a second that is zero.  Compared as text two times compare by their wall
clocks and, on the same wall clock, a UTC time comes before one with another offset.
Instants are counted from the start of 1970, in microseconds.
-/
namespace Noema
namespace Datetime
open TextOrder

/-- The wall clock, as if it were a UTC time. -/
def wall (time : Datetime) : Int := time.instant + time.utcOffset

/-! ### The calendar -/

/-- The days before a year, counted from the year 1. -/
def daysBeforeYear (year : Nat) : Nat :=
  let y := year - 1
  y * 365 + y / 4 - y / 100 + y / 400

def isLeap (year : Nat) : Bool := year % 4 = 0 ∧ (year % 100 ≠ 0 ∨ year % 400 = 0)

/-- The days of a year before a month. -/
def daysBeforeMonth (year month : Nat) : Nat :=
  ([0, 31, 59, 90, 120, 151, 181, 212, 243, 273, 304, 334].getD (month - 1) 0) +
    if 2 < month ∧ isLeap year = true then 1 else 0

/-- The year of a day; the first day is the first of January of the year 1. -/
def yearOf (ordinal : Nat) : Nat :=
  Nat.findGreatest (fun year => daysBeforeYear year < ordinal) 9999

def dayOfYear (ordinal : Nat) : Nat := ordinal - daysBeforeYear (yearOf ordinal)

def monthOf (ordinal : Nat) : Nat :=
  Nat.findGreatest (fun month => daysBeforeMonth (yearOf ordinal) month < dayOfYear ordinal) 12

def dayOf (ordinal : Nat) : Nat :=
  dayOfYear ordinal - daysBeforeMonth (yearOf ordinal) (monthOf ordinal)

/-- The first of January 1970 is this day. -/
def epochOrdinal : Nat := 719163

/-- The last day of the year 9999. -/
def maxOrdinal : Nat := 3652059

/-! ### The parts of the text -/

def dateText (ordinal : Nat) : List Char :=
  digits 4 (yearOf ordinal) ++ ('-' :: digits 2 (monthOf ordinal) ++
    ('-' :: digits 2 (dayOf ordinal)))

def timeText (seconds : Nat) : List Char :=
  digits 2 (seconds / 3600) ++ (':' :: digits 2 (seconds / 60 % 60) ++
    (':' :: digits 2 (seconds % 60)))

def fractionText (microseconds : Nat) : List Char :=
  if microseconds = 0 then [] else '.' :: digits 6 microseconds

/-- The offset: hours and minutes, and seconds only where they are needed. -/
def offsetText (utcOffset : Int) : List Char :=
  let offset := utcOffset.natAbs
  let seconds := offset / 1000000
  (if utcOffset < 0 then '-' else '+') :: (digits 2 (seconds / 3600) ++
    (':' :: digits 2 (seconds / 60 % 60) ++
      if seconds % 60 = 0 ∧ offset % 1000000 = 0 then []
      else ':' :: digits 2 (seconds % 60) ++ fractionText (offset % 1000000)))

/-- Date and time up to the second, of a number of seconds since the start of the year 1. -/
def stampText (seconds : Nat) : List Char :=
  dateText (seconds / 86400 + 1) ++ ('T' :: timeText (seconds % 86400))

/-- The wall clock in microseconds since the start of the year 1. -/
def sinceYearOne (time : Datetime) : Int := time.wall + ((epochOrdinal : Int) - 1) * 86400000000

/-- `time.isoformat()`. -/
def isoformat (time : Datetime) : String :=
  let microseconds := time.sinceYearOne.toNat
  String.ofList (stampText (microseconds / 1000000) ++
    (fractionText (microseconds % 1000000) ++ offsetText time.utcOffset))

/-- The times `datetime` can hold: the years 1 to 9999 on the wall clock, and an offset
of less than a day. -/
structure Representable (time : Datetime) : Prop where
  first : 0 ≤ time.sinceYearOne
  last : time.sinceYearOne < maxOrdinal * 86400000000
  offset : time.utcOffset.natAbs < 86400000000

/-! ### Dates -/

theorem daysBeforeYear_succ {year : Nat} (h : 1 ≤ year) :
    daysBeforeYear (year + 1) ≤ daysBeforeYear year + 366 := by
  dsimp only [daysBeforeYear]
  omega

theorem daysBeforeYear_yearOf {ordinal : Nat} (h : 1 ≤ ordinal) :
    1 ≤ yearOf ordinal ∧ daysBeforeYear (yearOf ordinal) < ordinal := by
  have hone : daysBeforeYear 1 < ordinal := h
  exact ⟨Nat.le_findGreatest (by decide) hone,
    Nat.findGreatest_spec (P := fun year => daysBeforeYear year < ordinal) (by decide) hone⟩

/-- A year has at most 366 days. -/
theorem dayOfYear_le {ordinal : Nat} (h : 1 ≤ ordinal) (hmax : ordinal ≤ maxOrdinal) :
    dayOfYear ordinal ≤ 366 := by
  obtain ⟨hyear, -⟩ := daysBeforeYear_yearOf h
  have hsucc := daysBeforeYear_succ hyear
  unfold dayOfYear
  by_cases hlast : yearOf ordinal + 1 ≤ 9999
  · have hnext : ¬ daysBeforeYear (yearOf ordinal + 1) < ordinal :=
      Nat.findGreatest_is_greatest (P := fun year => daysBeforeYear year < ordinal)
        (Nat.lt_succ_self _) hlast
    omega
  · have hyear' : yearOf ordinal = 9999 := by
      have hle : yearOf ordinal ≤ 9999 := Nat.findGreatest_le 9999
      omega
    rw [hyear']
    have hdays : daysBeforeYear 9999 = 3651694 := by decide
    unfold maxOrdinal at hmax
    omega

theorem daysBeforeMonth_succ (year : Nat) :
    ∀ month < 12, daysBeforeMonth year (month + 1) ≤ daysBeforeMonth year month + 32 := by
  unfold daysBeforeMonth
  cases isLeap year <;> decide

theorem daysBeforeMonth_monthOf {ordinal : Nat} (h : 1 ≤ ordinal) :
    daysBeforeMonth (yearOf ordinal) (monthOf ordinal) < dayOfYear ordinal := by
  obtain ⟨-, hyear⟩ := daysBeforeYear_yearOf h
  have hone : daysBeforeMonth (yearOf ordinal) 1 < dayOfYear ordinal := by
    have hzero : daysBeforeMonth (yearOf ordinal) 1 = 0 := by simp [daysBeforeMonth]
    unfold dayOfYear
    omega
  exact Nat.findGreatest_spec
    (P := fun month => daysBeforeMonth (yearOf ordinal) month < dayOfYear ordinal)
    (by decide) hone

/-- The day of the month has two digits. -/
theorem dayOf_lt {ordinal : Nat} (h : 1 ≤ ordinal) (hmax : ordinal ≤ maxOrdinal) :
    dayOf ordinal < 100 := by
  have hdays := dayOfYear_le h hmax
  have hle : monthOf ordinal ≤ 12 := Nat.findGreatest_le 12
  unfold dayOf
  by_cases hlast : monthOf ordinal + 1 ≤ 12
  · have hnext : ¬ daysBeforeMonth (yearOf ordinal) (monthOf ordinal + 1) < dayOfYear ordinal :=
      Nat.findGreatest_is_greatest
        (P := fun month => daysBeforeMonth (yearOf ordinal) month < dayOfYear ordinal)
        (Nat.lt_succ_self _) hlast
    have hsucc := daysBeforeMonth_succ (yearOf ordinal) (monthOf ordinal) hlast
    omega
  · have hmonth : monthOf ordinal = 12 := by omega
    have hbefore : 334 ≤ daysBeforeMonth (yearOf ordinal) 12 := by simp [daysBeforeMonth]
    rw [hmonth]
    omega

theorem length_dateText (ordinal : Nat) : (dateText ordinal).length = 10 := by
  simp [dateText]

/-- **Dates compare as they read.** -/
theorem dateText_lt {ordinal ordinal' : Nat} (hpos : 1 ≤ ordinal) (hmax : ordinal' ≤ maxOrdinal)
    (h : ordinal < ordinal') : dateText ordinal < dateText ordinal' := by
  have hpos' : 1 ≤ ordinal' := by omega
  obtain ⟨-, hyear⟩ := daysBeforeYear_yearOf hpos
  obtain ⟨-, hyear'⟩ := daysBeforeYear_yearOf hpos'
  have hyears : yearOf ordinal ≤ yearOf ordinal' :=
    Nat.le_findGreatest (Nat.findGreatest_le 9999) (by omega)
  have hyearmax : yearOf ordinal' ≤ 9999 := Nat.findGreatest_le 9999
  unfold dateText
  rcases hyears.lt_or_eq with hlt | heq
  · exact append_lt_append (by simp) (digits_lt (by omega) hlt) _ _
  rw [heq]
  refine append_left_lt (List.cons_lt_cons_iff.mpr (Or.inr ⟨rfl, ?_⟩))
  -- within one year the day of the year decides, month first
  have hday : dayOfYear ordinal < dayOfYear ordinal' := by
    unfold dayOfYear
    rw [heq] at hyear ⊢
    omega
  have hmonth := daysBeforeMonth_monthOf hpos
  have hmonths : monthOf ordinal ≤ monthOf ordinal' := by
    rw [heq] at hmonth
    exact Nat.le_findGreatest (Nat.findGreatest_le 12) (by omega)
  have hmonthmax : monthOf ordinal' ≤ 12 := Nat.findGreatest_le 12
  rcases hmonths.lt_or_eq with hlt | heqm
  · exact append_lt_append (by simp) (digits_lt (by omega) hlt) _ _
  rw [heqm]
  refine append_left_lt (List.cons_lt_cons_iff.mpr (Or.inr ⟨rfl, ?_⟩))
  refine digits_lt (dayOf_lt hpos' hmax) ?_
  unfold dayOf
  rw [heq, heqm] at hmonth ⊢
  omega

/-! ### Times of the day and stamps -/

theorem length_timeText (seconds : Nat) : (timeText seconds).length = 8 := by
  simp [timeText]

theorem timeText_lt {seconds seconds' : Nat} (hmax : seconds' < 86400)
    (h : seconds < seconds') : timeText seconds < timeText seconds' := by
  unfold timeText
  rcases (Nat.div_le_div_right (c := 3600) h.le).lt_or_eq with hlt | heq
  · exact append_lt_append (by simp) (digits_lt (by omega) hlt) _ _
  rw [heq]
  refine append_left_lt (List.cons_lt_cons_iff.mpr (Or.inr ⟨rfl, ?_⟩))
  have hminutes : seconds / 60 % 60 ≤ seconds' / 60 % 60 := by omega
  rcases hminutes.lt_or_eq with hlt | heqm
  · exact append_lt_append (by simp) (digits_lt (by omega) hlt) _ _
  rw [heqm]
  refine append_left_lt (List.cons_lt_cons_iff.mpr (Or.inr ⟨rfl, ?_⟩))
  exact digits_lt (by omega) (by omega)

theorem length_stampText (seconds : Nat) : (stampText seconds).length = 19 := by
  simp [stampText, length_dateText, length_timeText]

theorem stampText_lt {seconds seconds' : Nat} (hmax : seconds' < maxOrdinal * 86400)
    (h : seconds < seconds') : stampText seconds < stampText seconds' := by
  unfold stampText
  rcases (Nat.div_le_div_right (c := 86400) h.le).lt_or_eq with hlt | heq
  · refine append_lt_append (by simp [length_dateText]) (dateText_lt ?_ ?_ ?_) _ _ <;>
      unfold maxOrdinal at * <;> omega
  rw [heq]
  refine append_left_lt (List.cons_lt_cons_iff.mpr (Or.inr ⟨rfl, ?_⟩))
  exact timeText_lt (by omega) (by omega)

/-! ### What follows the seconds -/

/-- **UTC comes before every other offset.** -/
theorem offsetText_utc_lt {utcOffset : Int} (hne : utcOffset ≠ 0)
    (hmax : utcOffset.natAbs < 86400000000) : offsetText 0 < offsetText utcOffset := by
  have hzero : offsetText 0 = '+' :: (digits 2 0 ++ (':' :: (digits 2 0 ++ []))) := by decide
  rw [hzero]
  dsimp only [offsetText]
  by_cases hneg : utcOffset < 0
  · rw [if_pos hneg]
    exact List.cons_lt_cons_iff.mpr (Or.inl (by decide))
  rw [if_neg hneg]
  refine List.cons_lt_cons_iff.mpr (Or.inr ⟨rfl, ?_⟩)
  by_cases hhours : utcOffset.natAbs / 1000000 / 3600 = 0
  · rw [hhours]
    refine append_left_lt (List.cons_lt_cons_iff.mpr (Or.inr ⟨rfl, ?_⟩))
    by_cases hminutes : utcOffset.natAbs / 1000000 / 60 % 60 = 0
    · rw [hminutes]
      -- the offset is below a minute, so its seconds are written
      refine append_left_lt ?_
      rw [if_neg (by omega)]
      exact List.nil_lt_cons _ _
    · exact append_lt_append (by simp) (digits_lt (by omega) (by omega)) _ _
  · exact append_lt_append (by simp) (digits_lt (by omega) (by omega)) _ _

/-- A fraction puts a time behind the full second, whatever the offset. -/
theorem offsetText_lt_fraction (utcOffset : Int) (microseconds : Nat) (x : List Char)
    (h : microseconds ≠ 0) : offsetText utcOffset < fractionText microseconds ++ x := by
  rw [fractionText, if_neg h, offsetText]
  refine List.cons_lt_cons_iff.mpr (Or.inl ?_)
  split_ifs <;> decide

/-- On one second the fraction decides, and then the offset. -/
theorem tail_lt_iff {utcOffset : Int} {microseconds now : Nat}
    (hmax : utcOffset.natAbs < 86400000000) (hmicro : microseconds < 1000000)
    (hnow : now < 1000000) :
    fractionText now ++ offsetText 0 < fractionText microseconds ++ offsetText utcOffset ↔
      now < microseconds ∨ now = microseconds ∧ utcOffset ≠ 0 := by
  have hoffset : offsetText 0 < offsetText utcOffset ↔ utcOffset ≠ 0 :=
    ⟨fun h heq => lt_irrefl _ (heq ▸ h), fun hne => offsetText_utc_lt hne hmax⟩
  rcases lt_trichotomy now microseconds with hlt | rfl | hgt
  · refine iff_of_true ?_ (Or.inl hlt)
    by_cases hzero : now = 0
    · rw [hzero]
      exact offsetText_lt_fraction 0 microseconds _ (by omega)
    · rw [fractionText, fractionText, if_neg hzero, if_neg (by omega)]
      refine List.cons_lt_cons_iff.mpr (Or.inr ⟨rfl, ?_⟩)
      exact append_lt_append (by simp) (digits_lt hmicro hlt) _ _
  · rw [append_left_lt_iff, hoffset]
    simp
  · refine iff_of_false (not_lt_of_gt ?_) (by omega)
    by_cases hzero : microseconds = 0
    · rw [hzero]
      exact offsetText_lt_fraction utcOffset now _ (by omega)
    · rw [fractionText, fractionText, if_neg hzero, if_neg (by omega)]
      refine List.cons_lt_cons_iff.mpr (Or.inr ⟨rfl, ?_⟩)
      exact append_lt_append (by simp) (digits_lt hnow hgt) _ _

/-- The texts of two wall clocks, the first of them in UTC. -/
theorem clock_lt_iff {utcOffset : Int} {now clock : Nat}
    (hoffset : utcOffset.natAbs < 86400000000) (hnow : now < maxOrdinal * 86400000000)
    (hclock : clock < maxOrdinal * 86400000000) :
    stampText (now / 1000000) ++ (fractionText (now % 1000000) ++ offsetText 0) <
        stampText (clock / 1000000) ++
          (fractionText (clock % 1000000) ++ offsetText utcOffset) ↔
      now < clock ∨ now = clock ∧ utcOffset ≠ 0 := by
  have hlen : ∀ seconds seconds' : Nat,
      (stampText seconds).length = (stampText seconds').length := fun _ _ => by
    rw [length_stampText, length_stampText]
  unfold maxOrdinal at hnow hclock
  rcases lt_trichotomy (now / 1000000) (clock / 1000000) with hlt | heq | hgt
  · refine iff_of_true (append_lt_append (hlen _ _) (stampText_lt ?_ hlt) _ _) (Or.inl ?_)
    · unfold maxOrdinal
      omega
    · omega
  · rw [heq, append_left_lt_iff, tail_lt_iff hoffset (Nat.mod_lt _ (by decide))
      (Nat.mod_lt _ (by decide))]
    omega
  · refine iff_of_false (not_lt_of_gt ?_) (by omega)
    refine append_lt_append (hlen _ _) (stampText_lt ?_ hgt) _ _
    unfold maxOrdinal
    omega

/-- **How a time compares as text with a UTC time**: by the wall clocks, and on the same
wall clock only a UTC time comes no later. -/
theorem isoformat_le_utc_iff {time : Datetime} {now : Int} (htime : time.Representable)
    (hnow : (utc now).Representable) :
    time.isoformat ≤ (utc now).isoformat ↔
      time.wall < now ∨ time.wall = now ∧ time.utcOffset = 0 := by
  have hutc : (utc now).sinceYearOne = now + ((epochOrdinal : Int) - 1) * 86400000000 := by
    simp [sinceYearOne, wall, utc]
  have hfirst := htime.first
  have hlast := htime.last
  have hfirst' := hnow.first
  have hlast' := hnow.last
  rw [← not_lt, String.lt_iff_toList_lt, isoformat, isoformat, String.toList_ofList,
    String.toList_ofList]
  have hoffset : (utc now).utcOffset = 0 := rfl
  rw [hoffset, clock_lt_iff htime.offset (by omega) (by omega), hutc]
  rw [hutc] at hfirst' hlast'
  unfold sinceYearOne at hfirst hlast ⊢
  omega

end Datetime
end Noema
