import Mathlib.Data.List.Count
import Mathlib.Order.Basic

/-!
# Counting windows

Events are counted in windows of a fixed length: an event opens a window when none is open, and falls in
the open one otherwise. With at most `cap` events in each window, any stretch of time that is as long as
a window has at most `2 * cap - 1` of them: the last ones of a window that has begun before it, and those
of the next window.
-/

namespace CreatorFirst.Window

variable (length cap : ℕ)

/-- The window that an event at `t` falls in: its start, and how many events are in it before this one. -/
def enter (t : ℕ) : Option (ℕ × ℕ) → ℕ × ℕ
  | some (start, count) => if start + length ≤ t then (t, 0) else (start, count)
  | none => (t, 0)

/-- The window of the latest event, newest first, with the number of events in it. -/
def latest : List ℕ → Option (ℕ × ℕ)
  | [] => none
  | t :: earlier => some ((enter length t (latest earlier)).1, (enter length t (latest earlier)).2 + 1)

/-- Every event finds fewer than `cap` others in its window. -/
def WithinCap : List ℕ → Prop
  | [] => True
  | t :: earlier => (enter length t (latest length earlier)).2 < cap ∧ WithinCap earlier

/-- The events from `x` on, for as long as a window is. -/
def countFrom (x : ℕ) (events : List ℕ) : ℕ := events.countP fun t ↦ x ≤ t ∧ t < x + length

variable {length cap} {events : List ℕ}

theorem countFrom_cons (length : ℕ) (events : List ℕ) (x t : ℕ) : countFrom length x (t :: events) =
    countFrom length x events + if x ≤ t ∧ t < x + length then 1 else 0 := by
  rw [countFrom, List.countP_cons, countFrom]
  congr 1
  by_cases h : x ≤ t ∧ t < x + length <;> simp [h]

theorem countFrom_eq_zero {x : ℕ} (h : ∀ t ∈ events, t < x) : countFrom length x events = 0 := by
  rw [countFrom, List.countP_eq_zero]
  intro t ht
  simp [Nat.not_le.mpr (h t ht)]

/-- What a stretch of time that begins at `x` can have of the events up to a window. -/
structure Stretch (length cap x start count : ℕ) (events : List ℕ) : Prop where
  started_before : start < x → countFrom length x events + 1 ≤ count
  started_in : start < x + length → countFrom length x events + 1 ≤ cap + count
  total : countFrom length x events ≤ 2 * cap - 1

theorem stretch (hsorted : events.Pairwise fun newer older ↦ older ≤ newer)
    (h : WithinCap length cap events) (x : ℕ) {start count : ℕ}
    (hwindow : latest length events = some (start, count)) :
    start ≤ events.headD 0 ∧ count ≤ cap ∧ Stretch length cap x start count events := by
  induction events generalizing start count with
  | nil => cases hwindow
  | cons t earlier ih =>
    obtain ⟨henterted, hearlier⟩ := h
    obtain ⟨hlast, hsorted⟩ := List.pairwise_cons.mp hsorted
    simp only [latest, Option.some.injEq, Prod.mk.injEq] at hwindow
    obtain ⟨hstart, hcount⟩ := hwindow
    have hcons := countFrom_cons length earlier x t
    cases hprevious : latest length earlier with
    | none =>
      obtain rfl : earlier = [] := by
        cases earlier with
        | nil => rfl
        | cons => cases hprevious
      rw [hprevious, enter] at hstart hcount henterted
      have hempty : countFrom length x [] = 0 := rfl
      simp only [List.headD_cons]
      refine ⟨by omega, by omega, ?_, ?_, ?_⟩ <;> split at hcons <;> omega
    | some previous =>
      obtain ⟨start', count'⟩ := previous
      obtain ⟨hstart', hcount', hbefore, hin, htotal⟩ := ih hsorted hearlier hprevious
      have hhead : earlier.headD 0 ≤ t := by
        cases earlier with
        | nil => exact Nat.zero_le t
        | cons s rest => exact hlast s List.mem_cons_self
      have hnone : t < x → countFrom length x earlier = 0 := fun hlt ↦
        countFrom_eq_zero fun s hs ↦ Nat.lt_of_le_of_lt (hlast s hs) hlt
      rw [hprevious, enter] at hstart hcount henterted
      simp only [List.headD_cons]
      split at hstart
      · -- The event opens a window, and the one before it began a window's length earlier.
        next hnew =>
        rw [if_pos hnew] at hcount henterted
        refine ⟨by omega, by omega, ?_, ?_, ?_⟩ <;> split at hcons <;> omega
      · next hopen =>
        rw [if_neg hopen] at hcount henterted
        refine ⟨by omega, by omega, ?_, ?_, ?_⟩ <;> split at hcons <;> omega

/-- With at most `cap` events in each counting window there are at most `2 * cap - 1` in any stretch of
time that is as long. -/
theorem countFrom_le (hsorted : events.Pairwise fun newer older ↦ older ≤ newer)
    (h : WithinCap length cap events) (x : ℕ) : countFrom length x events ≤ 2 * cap - 1 := by
  cases hwindow : latest length events with
  | none =>
    cases events with
    | nil => exact Nat.zero_le _
    | cons => cases hwindow
  | some window => exact (stretch hsorted h x hwindow).2.2.total

end CreatorFirst.Window
