import Mathlib.Data.Nat.Basic
import Mathlib.Tactic.SplitIfs
import SimilarItems.Instant.Calendar

/-!
# The calendar tells every day once

The date of a day is a date of the calendar and the day's own. So what a clock shows tells the
instant, as long as it shows leap seconds only where it can: at the end of a minute.
-/

namespace SimilarItems

namespace Date

theorem daysInMonth_le (year : Int) (month : Nat) : daysInMonth year month ≤ 31 := by
  rw [daysInMonth]
  split_ifs <;> decide

/-! ## Years that begin with March -/

/-- The date a number of days after the first of March of a year. -/
def ofMarch (year : Int) (dayOfYear : Nat) : Date :=
  let month := (5 * dayOfYear + 2) / 153
  let day := dayOfYear - (153 * month + 2) / 5 + 1
  if month < 10 then ⟨year, month + 3, day⟩ else ⟨year + 1, month - 9, day⟩

theorem toDays_ofMarch (year : Int) {dayOfYear : Nat} (h : dayOfYear ≤ 365) :
    (ofMarch year dayOfYear).toDays =
      365 * year + year / 4 - year / 100 + year / 400 + dayOfYear - daysToEpoch := by
  have hlow := Nat.div_mul_le_self (5 * dayOfYear + 2) 153
  have hhigh := Nat.lt_div_mul_add (a := 5 * dayOfYear + 2) (by decide : 0 < 153)
  simp only [ofMarch]
  generalize (5 * dayOfYear + 2) / 153 = month at hlow hhigh ⊢
  split
  · have hmonth : (month + 3 + 9) % 12 = month := by omega
    simp only [toDays, hmonth]
    rw [if_neg (by omega)]
    omega
  · have hmonth : (month - 9 + 9) % 12 = month := by omega
    simp only [toDays, hmonth]
    rw [if_pos (by omega), Int.add_sub_cancel]
    omega

/-- Only a year before a leap year has a last day of February that is the 29th. -/
theorem isValid_ofMarch {year : Int} {dayOfYear : Nat} (h : dayOfYear ≤ 365)
    (hleap : dayOfYear = 365 → isLeap (year + 1)) : (ofMarch year dayOfYear).isValid := by
  simp only [ofMarch]
  split
  · simp only [isValid, daysInMonth, Bool.and_eq_true, decide_eq_true_iff]
    split_ifs <;> omega
  · simp only [isValid, daysInMonth, Bool.and_eq_true, decide_eq_true_iff]
    split_ifs with hmonth hyear
    · omega
    · have : dayOfYear ≠ 365 := fun heq => hyear (hleap heq)
      omega
    · omega
    · omega

/-- A day is a day of a year of a four-year cycle of a century. Only the last year of a cycle has a
day 365, and the last cycle only in the last century. -/
theorem exists_ofMarch (days : Int) :
    ∃ (era : Int) (century cycle year dayOfYear : Nat),
      ofDays days =
        ofMarch (400 * era + (100 * century + 4 * cycle + year : Nat)) dayOfYear ∧
      days + daysToEpoch =
        146097 * era + (36524 * century + 1461 * cycle + 365 * year + dayOfYear : Nat) ∧
      century ≤ 3 ∧ cycle ≤ 24 ∧ year ≤ 3 ∧ dayOfYear ≤ 365 ∧
      (dayOfYear = 365 → year = 3 ∧ (cycle = 24 → century = 3)) := by
  refine ⟨(days + daysToEpoch) / 146097, _, _, _, _, rfl, ?_⟩
  have hera := Int.mul_ediv_add_emod (days + daysToEpoch) 146097
  have hnonneg := Int.emod_nonneg (days + daysToEpoch) (by decide : (146097 : Int) ≠ 0)
  have hlt := Int.emod_lt_of_pos (days + daysToEpoch) (by decide : (0 : Int) < 146097)
  generalize (days + daysToEpoch) / 146097 = era at hera ⊢
  generalize (days + daysToEpoch) % 146097 = rest at hera hnonneg hlt ⊢
  obtain ⟨inEra, rfl⟩ := Int.eq_ofNat_of_zero_le hnonneg
  rw [Int.toNat_natCast]
  generalize hcentury : min (inEra / 36524) 3 = century
  generalize hinCentury : inEra - 36524 * century = inCentury
  have hsplit : inEra = 36524 * century + inCentury ∧ inCentury ≤ 36524 ∧
      (inCentury = 36524 → century = 3) ∧ century ≤ 3 := by omega
  clear hcentury hinCentury
  have hcycle := Nat.div_add_mod inCentury 1461
  have hcyclelt := Nat.mod_lt inCentury (by decide : 0 < 1461)
  generalize inCentury / 1461 = cycle at hcycle ⊢
  generalize inCentury % 1461 = inCycle at hcycle hcyclelt ⊢
  generalize hyear : min (inCycle / 365) 3 = year
  generalize hday : inCycle - 365 * year = dayOfYear
  have hsplit' : inCycle = 365 * year + dayOfYear ∧ dayOfYear ≤ 365 ∧
      (dayOfYear = 365 → year = 3) ∧ year ≤ 3 := by omega
  clear hyear hday
  omega

/-- The year of a cycle that a leap day ends is followed by a leap year. -/
theorem isLeap_of_parts {era : Int} {century cycle : Nat} (hcycle : cycle ≤ 24)
    (h : cycle = 24 → century = 3) :
    isLeap (400 * era + (100 * century + 4 * cycle + 3 : Nat) + 1) := by
  simp only [isLeap, Bool.and_eq_true, Bool.or_eq_true, beq_iff_eq, bne_iff_ne]
  omega

theorem isValid_ofDays (days : Int) : (ofDays days).isValid := by
  obtain ⟨era, century, cycle, year, dayOfYear, hofDays, -, -, hcycle, -, hday, hlast⟩ :=
    exists_ofMarch days
  rw [hofDays]
  refine isValid_ofMarch hday fun h => ?_
  obtain ⟨rfl, hcycle24⟩ := hlast h
  exact isLeap_of_parts hcycle hcycle24

/-- The date of a day is that day's. -/
theorem toDays_ofDays (days : Int) : (ofDays days).toDays = days := by
  obtain ⟨era, century, cycle, year, dayOfYear, hofDays, hdays, hcentury, hcycle, hyear, hday, -⟩ :=
    exists_ofMarch days
  rw [hofDays, toDays_ofMarch _ hday]
  omega

/-! ## Years -/

theorem toDays_newYear (y : Int) : (Date.mk y 1 1).toDays =
    365 * (y - 1) + (y - 1) / 4 - (y - 1) / 100 + (y - 1) / 400 + 306 - daysToEpoch := by
  simp only [toDays]
  rw [if_pos (by decide)]
  omega

theorem toDays_bounds {d : Date} (h : d.isValid) :
    (Date.mk d.year 1 1).toDays ≤ d.toDays ∧ d.toDays < (Date.mk (d.year + 1) 1 1).toDays := by
  obtain ⟨year, month, day⟩ := d
  simp only [isValid, Bool.and_eq_true, decide_eq_true_iff] at h
  obtain ⟨⟨⟨h1, h12⟩, hday⟩, hlast⟩ := h
  have hday31 := Nat.le_trans hlast (daysInMonth_le year month)
  rw [toDays_newYear, toDays_newYear]
  simp only [toDays]
  by_cases hmonth : month ≤ 2
  · have hmarch : (month + 9) % 12 = month + 9 := by omega
    rw [if_pos hmonth, hmarch]
    omega
  · have hmarch : (month + 9) % 12 = month - 3 := by omega
    rw [if_neg hmonth, hmarch]
    omega

theorem toDays_mono {y y' : Int} (h : y ≤ y') :
    (Date.mk y 1 1).toDays ≤ (Date.mk y' 1 1).toDays := by
  rw [toDays_newYear, toDays_newYear]
  omega

/-- A day that falls between the beginnings of two years has a year between them. -/
theorem year_ofDays {first last days : Int} (hfirst : (Date.mk first 1 1).toDays ≤ days)
    (hlast : days < (Date.mk last 1 1).toDays) :
    first ≤ (ofDays days).year ∧ (ofDays days).year < last := by
  have hbounds := toDays_bounds (isValid_ofDays days)
  rw [toDays_ofDays] at hbounds
  constructor
  · by_contra h
    have := toDays_mono (Int.add_one_le_of_lt (Int.not_le.1 h))
    omega
  · by_contra h
    have := toDays_mono (Int.not_lt.1 h)
    omega

end Date

namespace Instant

variable {t : Instant}

theorem year_wallClock (h : t.inRange) :
    firstYear ≤ t.wallClock.date.year ∧ t.wallClock.date.year ≤ lastYear := by
  simp only [inRange, Bool.and_eq_true, decide_eq_true_iff] at h
  have hday : (0 : Int) < secondsPerDay := by decide
  have hyear := Date.year_ofDays (Int.le_ediv_of_mul_le hday h.1) (Int.ediv_lt_of_lt_mul hday h.2)
  exact ⟨hyear.1, Int.le_of_lt_add_one hyear.2⟩

/-- What a clock shows of an instant in range is something that a clock can show. -/
theorem isValid_wallClock (h : t.inRange) : t.wallClock.isValid := by
  have hyear := year_wallClock h
  have hnonneg := Int.emod_nonneg t.seconds (by decide : secondsPerDay ≠ 0)
  have hlt := Int.emod_lt_of_pos t.seconds (by decide : 0 < secondsPerDay)
  rw [secondsPerDay] at hnonneg hlt
  simp only [WallClock.isValid, Bool.and_eq_true, decide_eq_true_iff]
  refine ⟨⟨⟨⟨⟨Date.isValid_ofDays _, hyear.1⟩, hyear.2⟩, ?_⟩, ?_⟩, ?_⟩
  · simp only [wallClock, secondsPerDay]
    omega
  · simp only [wallClock, secondsPerDay]
    omega
  · simp only [wallClock, secondsPerDay]
    split <;> omega

/-- The seconds that the day, the hour and the minute of a clock count, with the second of the
minute. -/
theorem seconds_wallClock (t : Instant) :
    t.wallClock.date.toDays * secondsPerDay + (3600 * t.wallClock.hour + 60 * t.wallClock.minute) =
      t.seconds - t.seconds % 60 := by
  have hdays : t.wallClock.date.toDays = t.seconds / secondsPerDay := Date.toDays_ofDays _
  have hnonneg := Int.emod_nonneg t.seconds (by decide : secondsPerDay ≠ 0)
  rw [hdays]
  simp only [wallClock, secondsPerDay] at hnonneg ⊢
  omega

theorem second_wallClock (t : Instant) :
    (t.wallClock.second : Int) = t.seconds % 60 + (if nanosPerSecond ≤ t.nanos then 1 else 0) := by
  have hnonneg := Int.emod_nonneg t.seconds (by decide : secondsPerDay ≠ 0)
  simp only [wallClock, secondsPerDay] at hnonneg ⊢
  split <;> omega

/-- The instant that a clock shows, put together from what it shows of it. -/
theorem toInstant?_wallClock (h : t.inRange) {u : Instant}
    (hseconds : u.seconds = t.seconds - t.seconds % 60 +
      if t.wallClock.second = 60 then 59 else (t.wallClock.second : Int))
    (hnanos : u.nanos = if t.wallClock.second = 60 then nanosPerSecond + t.wallClock.nanos
      else t.wallClock.nanos) :
    t.wallClock.toInstant? 0 = if u.inRange then some u else none := by
  have hvalid := isValid_wallClock h
  have hinDay := seconds_wallClock t
  obtain ⟨seconds, nanos⟩ := u
  have hu : Instant.mk (t.wallClock.date.toDays * secondsPerDay +
      (3600 * t.wallClock.hour + 60 * t.wallClock.minute +
        ((if t.wallClock.second = 60 then 59 else t.wallClock.second : Nat) : Int)) - 60 * 0)
      (if t.wallClock.second = 60 then nanosPerSecond + t.wallClock.nanos
        else t.wallClock.nanos) = ⟨seconds, nanos⟩ := by
    rw [Instant.mk.injEq]
    refine ⟨?_, hnanos.symm⟩
    by_cases h60 : t.wallClock.second = 60
    · rw [if_pos h60] at hseconds ⊢
      dsimp only at hseconds
      omega
    · rw [if_neg h60] at hseconds ⊢
      dsimp only at hseconds
      omega
  simp only [WallClock.toInstant?, hvalid, Bool.true_and, hu]

/-- What a clock shows tells the instant, unless it is inside a leap second that is not the last
second of a minute. -/
theorem toInstant?_wallClock_iff (h : t.inRange) :
    t.wallClock.toInstant? 0 = some t ↔ t.nanos < nanosPerSecond ∨ t.seconds % 60 = 59 := by
  have hsecond := second_wallClock t
  have hnanos : t.wallClock.nanos =
    if nanosPerSecond ≤ t.nanos then t.nanos - nanosPerSecond else t.nanos := rfl
  by_cases hleap : nanosPerSecond ≤ t.nanos
  · rw [if_pos hleap] at hsecond hnanos
    by_cases hlast : t.seconds % 60 = 59
    · have h60 : t.wallClock.second = 60 := by omega
      rw [toInstant?_wallClock h (u := t), if_pos h]
      · exact iff_of_true rfl (.inr hlast)
      · rw [if_pos h60]
        omega
      · rw [if_pos h60]
        omega
    · have h60 : t.wallClock.second ≠ 60 := by omega
      rw [toInstant?_wallClock h (u := ⟨t.seconds + 1, t.nanos - nanosPerSecond⟩)]
      · refine iff_of_false (fun heq => ?_) (by omega)
        split at heq
        · have := congrArg Instant.nanos (Option.some.inj heq)
          simp only [nanosPerSecond] at this hleap
          omega
        · cases heq
      · rw [if_neg h60, hsecond, ← Int.add_assoc, Int.sub_add_cancel]
      · rw [if_neg h60, hnanos]
  · rw [if_neg hleap] at hsecond hnanos
    have h60 : t.wallClock.second ≠ 60 := by omega
    rw [toInstant?_wallClock h (u := t), if_pos h]
    · exact iff_of_true rfl (.inl (Nat.lt_of_not_le hleap))
    · rw [if_neg h60]
      omega
    · rw [if_neg h60]
      omega

theorem nanos_wallClock_lt (h : t.nanos < 2 * nanosPerSecond) :
    t.wallClock.nanos < nanosPerSecond := by
  simp only [wallClock]
  split <;> omega

/-- An instant that can be told, and that is inside a leap second only at the end of a minute. -/
def OnClock (t : Instant) : Prop :=
  t.inRange ∧ (t.nanos < nanosPerSecond ∨ t.seconds % 60 = 59 ∧ t.nanos < 2 * nanosPerSecond)

instance (t : Instant) : Decidable t.OnClock :=
  inferInstanceAs (Decidable (t.inRange = true ∧
    (t.nanos < nanosPerSecond ∨ t.seconds % 60 = 59 ∧ t.nanos < 2 * nanosPerSecond)))

theorem OnClock.nanos_lt (h : t.OnClock) : t.nanos < 2 * nanosPerSecond := by
  obtain ⟨-, hnanos⟩ := h
  omega

theorem OnClock.toInstant?_wallClock (h : t.OnClock) : t.wallClock.toInstant? 0 = some t := by
  obtain ⟨hrange, hnanos⟩ := h
  rw [toInstant?_wallClock_iff hrange]
  omega

/-- These are just the instants that some clock shows, wherever it is. -/
theorem onClock_iff : t.OnClock ↔
    ∃ (w : WallClock) (offset : Int), w.nanos < nanosPerSecond ∧ w.toInstant? offset = some t := by
  constructor
  · intro h
    exact ⟨t.wallClock, 0, nanos_wallClock_lt h.nanos_lt, h.toInstant?_wallClock⟩
  · rintro ⟨w, offset, hnanos, h⟩
    by_cases hleap : w.second = 60
    · simp only [WallClock.toInstant?, if_pos hleap] at h
      split at h
      · rename_i hvalid
        rw [Bool.and_eq_true] at hvalid
        cases h
        refine ⟨hvalid.2, .inr ?_⟩
        simp only [secondsPerDay]
        omega
      · cases h
    · simp only [WallClock.toInstant?, if_neg hleap] at h
      split at h
      · rename_i hvalid
        rw [Bool.and_eq_true] at hvalid
        cases h
        exact ⟨hvalid.2, .inl hnanos⟩
      · cases h

end Instant

end SimilarItems
