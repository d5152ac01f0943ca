import Mathlib.Data.List.Nodup
import Mathlib.Data.Nat.Basic
import Mathlib.Logic.Function.Basic

/-!
# Partial Fisher-Yates shuffles, dense and sparse

The dense shuffle keeps the whole array of positions and swaps two entries in each step. The sparse
one keeps only the entries that differ from their position and forgets those it has dealt: after
any number of steps it still knows everything the dense array holds beyond the dealt entries, so
both deal the same entries.
-/

namespace CreatorFirst.Shuffle

/-- The position that step `k` exchanges with position `k`. -/
def target (n : ℕ) (draw : ℕ → ℕ) (k : ℕ) : ℕ := k + draw k % (n - k)

/-- The array of the first `n` numbers after `k` steps. -/
def dense (n : ℕ) (draw : ℕ → ℕ) : ℕ → Vector ℕ n
  | 0 => Vector.range n
  | k + 1 => (dense n draw k).swapIfInBounds k (target n draw k)

variable {n : ℕ} {draw : ℕ → ℕ} {k : ℕ}

theorem le_target : k ≤ target n draw k := Nat.le_add_right _ _

theorem target_lt (hk : k < n) : target n draw k < n := by
  have hmod : draw k % (n - k) < n - k := Nat.mod_lt _ (Nat.sub_pos_of_lt hk)
  unfold target
  omega

/-! ## The dense array -/

theorem dense_succ (hk : k < n) :
    dense n draw (k + 1) = (dense n draw k).swap k (target n draw k) hk (target_lt hk) := by
  apply Vector.toArray_inj.mp
  simp [dense, Array.swapIfInBounds_def, hk, target_lt hk]

/-- What a step deals. -/
theorem dense_succ_self (hk : k < n) (ht : target n draw k < n) :
    (dense n draw (k + 1))[k] = (dense n draw k)[target n draw k] := by
  rw [getElem_congr_coll (dense_succ hk), Vector.getElem_swap_left]

/-- What a step leaves beyond the dealt entries. -/
theorem dense_succ_of_lt (hk : k < n) {i : ℕ} (hki : k < i) (hi : i < n) :
    (dense n draw (k + 1))[i] =
      if i = target n draw k then (dense n draw k)[k] else (dense n draw k)[i] := by
  rw [getElem_congr_coll (dense_succ hk), Vector.getElem_swap, if_neg (by omega)]

/-- Dealt entries stay. -/
theorem dense_succ_of_gt {i : ℕ} (hik : i < k) (hi : i < n) :
    (dense n draw (k + 1))[i] = (dense n draw k)[i] := by
  by_cases hk : k < n
  · have htarget : k ≤ target n draw k := le_target
    rw [getElem_congr_coll (dense_succ hk), Vector.getElem_swap, if_neg (by omega),
      if_neg (by omega)]
  · have hsame : dense n draw (k + 1) = dense n draw k := by
      apply Vector.toArray_inj.mp
      simp [dense, Array.swapIfInBounds_def, hk]
    rw [getElem_congr_coll hsame]

theorem dense_prefix {i m : ℕ} (hik : i < k) (hkm : k ≤ m) (hi : i < n) :
    (dense n draw m)[i] = (dense n draw k)[i] := by
  induction m, hkm using Nat.le_induction with
  | base => rfl
  | succ m hkm ih => rw [dense_succ_of_gt (Nat.lt_of_lt_of_le hik hkm) hi, ih]

/-- The steps only rearrange the array. -/
theorem dense_perm (n : ℕ) (draw : ℕ → ℕ) (k : ℕ) :
    (dense n draw k).toList.Perm (List.range n) := by
  induction k with
  | zero => rw [dense, Vector.toList_range]
  | succ k ih =>
    by_cases hk : k < n
    · rw [dense_succ hk]
      exact (Array.perm_iff_toList_perm.mp (Array.swap_perm _ _)).trans ih
    · have hsame : dense n draw (k + 1) = dense n draw k := by
        apply Vector.toArray_inj.mp
        simp [dense, Array.swapIfInBounds_def, hk]
      rwa [hsame]

theorem dense_lt {i : ℕ} (hi : i < n) : (dense n draw k)[i] < n := by
  have hmem : (dense n draw k)[i] ∈ (dense n draw k).toList := by simp
  exact List.mem_range.mp ((dense_perm n draw k).mem_iff.mp hmem)

/-- Different positions hold different entries. -/
theorem dense_inj {i j : ℕ} (hi : i < n) (hj : j < n)
    (h : (dense n draw k)[i] = (dense n draw k)[j]) : i = j := by
  have hnodup : (dense n draw k).toList.Nodup :=
    (dense_perm n draw k).nodup_iff.mpr List.nodup_range
  have hi' : i < (dense n draw k).toList.length := by simpa using hi
  have hj' : j < (dense n draw k).toList.length := by simpa using hj
  have heq : (dense n draw k).toList[i] = (dense n draw k).toList[j] := by simpa using h
  exact hnodup.getElem_inj_iff.mp heq

/-! ## The sparse array

An entry is stored as its successor; zero stands for an entry that equals its position. -/

def read (m : ℕ → ℕ) (i : ℕ) : ℕ := if m i = 0 then i else m i - 1

def write (m : ℕ → ℕ) (i v : ℕ) : ℕ → ℕ := Function.update m i (v + 1)

theorem read_write (m : ℕ → ℕ) (i v x : ℕ) :
    read (write m i v) x = if x = i then v else read m x := by
  by_cases hx : x = i
  · subst hx
    simp [read, write]
  · simp [read, write, hx]

/-- The sparse array knows the entries of `xs` from position `k` on. -/
def Represents (m : ℕ → ℕ) (xs : Vector ℕ n) (k : ℕ) : Prop :=
  ∀ i (hi : i < n), k ≤ i → read m i = xs[i]

theorem represents_zero : Represents (fun _ ↦ 0) (dense n draw 0) 0 := by
  intro i hi _
  simp [read, dense]

/-- The sparse step writes one of the two swapped positions and forgets the other. -/
theorem Represents.succ {m : ℕ → ℕ} (h : Represents m (dense n draw k) k) (hk : k < n) :
    Represents (write m (target n draw k) (read m k)) (dense n draw (k + 1)) (k + 1) := by
  intro i hi hki
  rw [read_write, dense_succ_of_lt hk hki hi, h k hk le_rfl]
  split
  · rfl
  · exact h i hi (Nat.le_of_succ_le hki)

/-- Both shuffles deal the same entry. -/
theorem Represents.dealt {m : ℕ → ℕ} (h : Represents m (dense n draw k) k) (hk : k < n) :
    read m (target n draw k) = (dense n draw (k + 1))[k] := by
  rw [dense_succ_self hk (target_lt hk)]
  exact h _ (target_lt hk) le_target

/-- Only the positions of the array matter. -/
theorem Represents.congr {m m' : ℕ → ℕ} {xs : Vector ℕ n} (h : Represents m xs k)
    (heq : ∀ i < n, m' i = m i) : Represents m' xs k := by
  intro i hi hki
  rw [read, heq i hi]
  exact h i hi hki

example : (dense 5 (fun k ↦ 7 * k + 3) 3).toList = [3, 0, 4, 1, 2] := by decide

end CreatorFirst.Shuffle
