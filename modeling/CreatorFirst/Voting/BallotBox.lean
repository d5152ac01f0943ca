import CreatorFirst.Chain.Mapping
import Mathlib.Algebra.BigOperators.Group.Finset.Basic
import Mathlib.Algebra.BigOperators.Ring.Finset
import Mathlib.Algebra.Order.BigOperators.Group.Finset

/-!
# Replaceable ballots

The purpose of a vote with replaceable ballots in its own terms. Of a history of casts only the last
one of each voter stands. The score of an electorate is the sum of the values of its standing
ballots, its turnout the number of its voters with a ballot. Counting again after each cast gives
the same numbers as adding the difference to a running total: the lemmas here say by how much one
cast moves each of them, and that voters without a ballot do not matter.
-/

namespace CreatorFirst.Voting

open Chain

variable {V B : Type}

/-- The ballots that stand: the last one of every voter who cast any. -/
abbrev Ballots (V B : Type) := V → Option B

/-- The ballots that stand after a history of casts, newest first. -/
def standing [DecidableEq V] : List (V × B) → Ballots V B
  | [] => fun _ ↦ none
  | (v, b) :: earlier => Function.update (standing earlier) v (some b)

/-- A ballot that stands was cast. -/
theorem exists_cast_of_standing [DecidableEq V] {casts : List (V × B)} {v : V}
    (h : (standing casts v).isSome) : ∃ b, (v, b) ∈ casts := by
  induction casts with
  | nil => cases h
  | cons c rest ih =>
    obtain ⟨v', b⟩ := c
    by_cases hv : v = v'
    · subst hv
      exact ⟨b, List.mem_cons_self⟩
    · rw [standing, Function.update_of_ne hv] at h
      obtain ⟨b', hb'⟩ := ih h
      exact ⟨b', List.mem_cons_of_mem _ hb'⟩

section Electorate

variable (electorate : Finset V) (value : B → ℤ)

/-- Sum of the values of the standing ballots. -/
def score (b : Ballots V B) : ℤ := ∑ v ∈ electorate, (b v).elim 0 value

/-- The voters of the electorate whose ballot stands. -/
def participants (b : Ballots V B) : Finset V := electorate.filter fun v ↦ (b v).isSome

def turnout (b : Ballots V B) : ℕ := (participants electorate b).card

variable {electorate value}

theorem turnout_le (b : Ballots V B) : turnout electorate b ≤ electorate.card :=
  Finset.card_filter_le _ _

theorem score_eq_sum_participants (b : Ballots V B) :
    score electorate value b = ∑ v ∈ participants electorate b, (b v).elim 0 value := by
  refine (Finset.sum_filter_of_ne fun v _ hv ↦ ?_).symm
  cases hb : b v with
  | none => simp [hb] at hv
  | some _ => rfl

/-- Electorates that differ only in voters without a ballot have the same participants. -/
theorem participants_congr {electorate' : Finset V} {b : Ballots V B}
    (h : ∀ v, (b v).isSome → (v ∈ electorate ↔ v ∈ electorate')) :
    participants electorate b = participants electorate' b := by
  ext v
  simp only [participants, Finset.mem_filter]
  exact ⟨fun hv ↦ ⟨(h v hv.2).mp hv.1, hv.2⟩, fun hv ↦ ⟨(h v hv.2).mpr hv.1, hv.2⟩⟩

theorem score_congr {electorate' : Finset V} {b : Ballots V B}
    (h : ∀ v, (b v).isSome → (v ∈ electorate ↔ v ∈ electorate')) :
    score electorate value b = score electorate' value b := by
  rw [score_eq_sum_participants, score_eq_sum_participants, participants_congr h]

theorem turnout_congr {electorate' : Finset V} {b : Ballots V B}
    (h : ∀ v, (b v).isSome → (v ∈ electorate ↔ v ∈ electorate')) :
    turnout electorate b = turnout electorate' b :=
  congrArg Finset.card (participants_congr h)

theorem score_none : score electorate value (fun _ ↦ none) = 0 := by
  simp [score]

theorem turnout_none : turnout electorate (fun _ ↦ none : Ballots V B) = 0 := by
  simp [turnout, participants]

variable [DecidableEq V]

/-- Replacing a ballot removes the old value and adds the new one. -/
theorem score_update {b : Ballots V B} {v : V} (hv : v ∈ electorate) (new : B) :
    score electorate value (Function.update b v (some new)) =
      score electorate value b - (b v).elim 0 value + value new := by
  have hsum := sum_add_eq_of_eq_off (f := fun u ↦ (b u).elim 0 value)
    (g := fun u ↦ (Function.update b v (some new) u).elim 0 value) hv
    (fun u _ hu ↦ by rw [Function.update_of_ne hu])
  simp only [Function.update_self, Option.elim_some] at hsum
  unfold score
  omega

theorem score_update_of_notMem {b : Ballots V B} {v : V} (hv : v ∉ electorate) (new : B) :
    score electorate value (Function.update b v (some new)) = score electorate value b := by
  unfold score
  refine Finset.sum_congr rfl fun u hu ↦ ?_
  rw [Function.update_of_ne (ne_of_mem_of_not_mem hu hv)]

/-- Only a voter's first ballot raises the turnout. -/
theorem turnout_update {b : Ballots V B} {v : V} (hv : v ∈ electorate) (new : B) :
    turnout electorate (Function.update b v (some new)) =
      turnout electorate b + if (b v).isSome then 0 else 1 := by
  have hinsert : participants electorate (Function.update b v (some new)) =
      insert v (participants electorate b) := by
    ext u
    by_cases hu : u = v
    · subst hu
      simp [participants, hv]
    · simp [participants, hu]
  unfold turnout
  rw [hinsert]
  by_cases hb : (b v).isSome
  · have hmem : v ∈ participants electorate b := by simp [participants, hv, hb]
    simp [Finset.insert_eq_of_mem hmem, hb]
  · have hmem : v ∉ participants electorate b := by simp [participants, hb]
    simp [Finset.card_insert_of_notMem hmem, hb]

theorem turnout_update_of_notMem {b : Ballots V B} {v : V} (hv : v ∉ electorate) (new : B) :
    turnout electorate (Function.update b v (some new)) = turnout electorate b := by
  unfold turnout participants
  refine congrArg Finset.card (Finset.filter_congr fun u hu ↦ ?_)
  rw [Function.update_of_ne (ne_of_mem_of_not_mem hu hv)]

end Electorate

end CreatorFirst.Voting
