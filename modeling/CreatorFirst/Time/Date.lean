import Mathlib.Data.Nat.Notation

/-!
# Dates

The times a JavaScript `Date` can hold from 1970 on, and the start of the month in UTC. A date stands
for the text that `toISOString` makes of it. These texts compare as their dates do up to the year 9999;
from the year 10000 on, where a text begins with a sign, dates are still compared by their times here.
-/

namespace CreatorFirst

/-- The last millisecond in the range of `Date`. -/
def maxTime : ℕ := 8640000000000000

structure Date where
  ms : ℕ
  valid : ms ≤ maxTime
  deriving DecidableEq

namespace Date

/-- `new Date(ms).toISOString()`, which throws when the time is out of range. -/
def toISOString? (ms : ℕ) : Option Date :=
  if h : ms ≤ maxTime then some ⟨ms, h⟩ else none

/-- The clock some milliseconds later; it stops at the end of the range. -/
def advance (d : Date) (ms : ℕ) : Date := ⟨min (d.ms + ms) maxTime, Nat.min_le_right _ _⟩

theorem ms_le_advance (d : Date) (ms : ℕ) : d.ms ≤ (d.advance ms).ms :=
  Nat.le_min.mpr ⟨Nat.le_add_right _ _, d.valid⟩

theorem toISOString?_eq_none {ms : ℕ} : toISOString? ms = none ↔ maxTime < ms := by
  unfold toISOString?
  split <;> simp <;> omega

theorem ms_of_toISOString? {ms : ℕ} {d : Date} (h : toISOString? ms = some d) : d.ms = ms := by
  unfold toISOString? at h
  split at h
  · cases h
    rfl
  · cases h

def msPerDay : ℕ := 86400000

/-- The day of the month, from 1 on, of the day that is `days` after 1 January 1970. -/
def dayOfMonth (days : ℕ) : ℕ :=
  -- eras of 400 years from 1 March 0000 on, and years that start in March
  let dayOfEra := (days + 719468) % 146097
  let yearOfEra := (dayOfEra - dayOfEra / 1460 + dayOfEra / 36524 - dayOfEra / 146096) / 365
  let dayOfYear := dayOfEra - (365 * yearOfEra + yearOfEra / 4 - yearOfEra / 100)
  let month := (5 * dayOfYear + 2) / 153
  dayOfYear - (153 * month + 2) / 5 + 1

/-- `Date.UTC(now.getUTCFullYear(), now.getUTCMonth(), 1)` -/
def monthStart (now : Date) : Date where
  ms := (now.ms / msPerDay - (dayOfMonth (now.ms / msPerDay) - 1)) * msPerDay
  valid := by
    calc (now.ms / msPerDay - (dayOfMonth (now.ms / msPerDay) - 1)) * msPerDay
        ≤ now.ms / msPerDay * msPerDay := Nat.mul_le_mul_right _ (Nat.sub_le _ _)
      _ ≤ now.ms := Nat.div_mul_le_self _ _
      _ ≤ maxTime := now.valid

/-- Year, month and day of the day that is `days` after 1 January 1970. -/
def civil (days : ℕ) : ℕ × ℕ × ℕ :=
  let era := (days + 719468) / 146097
  let dayOfEra := (days + 719468) % 146097
  let yearOfEra := (dayOfEra - dayOfEra / 1460 + dayOfEra / 36524 - dayOfEra / 146096) / 365
  let dayOfYear := dayOfEra - (365 * yearOfEra + yearOfEra / 4 - yearOfEra / 100)
  let month := if (5 * dayOfYear + 2) / 153 < 10 then (5 * dayOfYear + 2) / 153 + 3
    else (5 * dayOfYear + 2) / 153 - 9
  (400 * era + yearOfEra + if month ≤ 2 then 1 else 0, month, dayOfMonth days)

/-- The decimal digits of `n`, with zeros in front up to the width. -/
def padded (width n : ℕ) : String :=
  let digits := Nat.toDigits 10 n
  String.ofList (List.replicate (width - digits.length) '0' ++ digits)

/-- The text of `toISOString`. -/
def toText (d : Date) : String :=
  let (year, month, day) := civil (d.ms / msPerDay)
  let date := (if year < 10000 then padded 4 year else "+" ++ padded 6 year) ++ "-" ++ padded 2 month ++
    "-" ++ padded 2 day
  let ms := d.ms % msPerDay
  date ++ "T" ++ padded 2 (ms / 3600000) ++ ":" ++ padded 2 (ms / 60000 % 60) ++ ":" ++
    padded 2 (ms / 1000 % 60) ++ "." ++ padded 3 (ms % 1000) ++ "Z"

example : (⟨1709208000001, by decide⟩ : Date).toText = "2024-02-29T12:00:00.001Z" := by decide +kernel

def weekdays : List String := ["Thu", "Fri", "Sat", "Sun", "Mon", "Tue", "Wed"]

def months : List String := ["Jan", "Feb", "Mar", "Apr", "May", "Jun", "Jul", "Aug", "Sep", "Oct", "Nov", "Dec"]

/-- The text of `toUTCString`; 1 January 1970 was a Thursday. -/
def toUTCString (d : Date) : String :=
  let days := d.ms / msPerDay
  let (year, month, day) := civil days
  let seconds := d.ms % msPerDay / 1000
  weekdays.getD (days % 7) "" ++ ", " ++ padded 2 day ++ " " ++ months.getD (month - 1) "" ++ " " ++
    padded 4 year ++ " " ++ padded 2 (seconds / 3600) ++ ":" ++ padded 2 (seconds / 60 % 60) ++ ":" ++
    padded 2 (seconds % 60) ++ " GMT"

example : (⟨1709208000001, by decide⟩ : Date).toUTCString = "Thu, 29 Feb 2024 12:00:00 GMT" := by decide +kernel

theorem isDigit_of_mem_padded {width n : ℕ} {c : Char} (h : c ∈ (padded width n).toList) : c.isDigit := by
  rw [padded, String.toList_ofList, List.mem_append] at h
  obtain h | h := h
  · rw [List.eq_of_mem_replicate h]
    rfl
  · exact Nat.isDigit_of_mem_toDigits (by decide) (by decide) h

/-- 29 February 2024 at noon. -/
example : (monthStart ⟨1709208000000, by decide⟩).ms = 1706745600000 := by decide

end Date

end CreatorFirst
