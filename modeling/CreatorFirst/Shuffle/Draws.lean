import CreatorFirst.Shuffle.FisherYates
import Mathlib.Algebra.BigOperators.Fin
import Mathlib.Algebra.Order.BigOperators.Ring.Finset
import Mathlib.Data.Fintype.BigOperators
import Mathlib.Data.Fintype.CardEmbedding
import Mathlib.Data.Int.CardIntervalMod
import Mathlib.Data.Nat.Factorial.BigOperators

/-!
# How often a shuffle deals each selection

A partial shuffle of `n` entries in `k` steps is decided by one draw a step, each below the number of
entries left, and different draws deal different selections. Reducing words of a larger range to such
draws favours the smaller residues, by one word each; so no selection is dealt by many more words than
another.
-/

namespace CreatorFirst.Shuffle

variable {n k : ℕ}

/-! ## Only the residues matter -/

theorem target_congr {draw draw' : ℕ → ℕ} {i : ℕ} (h : draw i % (n - i) = draw' i % (n - i)) :
    target n draw i = target n draw' i := by
  rw [target, h, target]

theorem dense_congr {draw draw' : ℕ → ℕ}
    (h : ∀ i < k, draw i % (n - i) = draw' i % (n - i)) : dense n draw k = dense n draw' k := by
  induction k with
  | zero => rfl
  | succ k ih =>
    rw [dense, dense, ih fun i hi ↦ h i (Nat.lt_succ_of_lt hi), target_congr (h k (Nat.lt_succ_self k))]

/-- The dealt entries determine the residues. -/
theorem residue_eq_of_dense_eq {draw draw' : ℕ → ℕ} (hk : k ≤ n)
    (h : ∀ i (hi : i < k), (dense n draw k)[i] = (dense n draw' k)[i]) (i : ℕ) (hi : i < k) :
    draw i % (n - i) = draw' i % (n - i) := by
  induction i using Nat.strong_induction_on with
  | _ i ih =>
    have hin : i < n := Nat.lt_of_lt_of_le hi hk
    -- Both shuffles have the same array before step `i`, and take the same entry of it.
    have hsame : dense n draw i = dense n draw' i :=
      dense_congr fun j hj ↦ ih j hj (Nat.lt_trans hj hi)
    have ht : target n draw i < n := target_lt hin
    have ht' : target n draw' i < n := target_lt hin
    have hdealt : (dense n draw i)[target n draw i] = (dense n draw i)[target n draw' i] := by
      calc (dense n draw i)[target n draw i]
          = (dense n draw (i + 1))[i] := (dense_succ_self hin ht).symm
        _ = (dense n draw k)[i] := ( dense_prefix (Nat.lt_succ_self i) hi hin).symm
        _ = (dense n draw' k)[i] := h i hi
        _ = (dense n draw' (i + 1))[i] := dense_prefix (Nat.lt_succ_self i) hi hin
        _ = (dense n draw' i)[target n draw' i] := dense_succ_self hin ht'
        _ = (dense n draw i)[target n draw' i] := getElem_congr_coll hsame.symm
    have htarget : target n draw i = target n draw' i := dense_inj ht ht' hdealt
    exact Nat.add_left_cancel htarget

/-! ## The selection that words deal -/

/-- Words for the first `k` steps, zero after them. -/
def extend (words : Fin k → ℕ) (i : ℕ) : ℕ := if h : i < k then words ⟨i, h⟩ else 0

theorem extend_val (words : Fin k → ℕ) (i : Fin k) : extend words i = words i := by
  simp [extend]

/-- The entries dealt in the first `k` steps, in their order. -/
def deal (h : k ≤ n) (words : Fin k → ℕ) : Fin k ↪ Fin n where
  toFun i := ⟨(dense n (extend words) k)[(i : ℕ)], dense_lt _⟩
  inj' i j hij := by
    have hval := congrArg Fin.val hij
    exact Fin.ext (dense_inj (i.isLt.trans_le h) (j.isLt.trans_le h) hval)

theorem deal_val (h : k ≤ n) (words : Fin k → ℕ) (i : Fin k) :
    (deal h words i : ℕ) = (dense n (extend words) k)[(i : ℕ)] := rfl

/-- Words deal the same selection exactly if they have the same residues. -/
theorem deal_eq_iff (h : k ≤ n) {words words' : Fin k → ℕ} :
    deal h words = deal h words' ↔ ∀ i : Fin k, words i % (n - i) = words' i % (n - i) := by
  constructor
  · intro heq i
    have hdense (j : ℕ) (hj : j < k) :
        (dense n (extend words) k)[j] = (dense n (extend words') k)[j] := by
      rw [← deal_val h words ⟨j, hj⟩, heq, deal_val]
    have hres := residue_eq_of_dense_eq h hdense i i.isLt
    rwa [extend_val, extend_val] at hres
  · intro hres
    ext i
    rw [deal_val, deal_val]
    refine getElem_congr_coll (dense_congr fun j hj ↦ ?_)
    have hj' := hres ⟨j, hj⟩
    simpa [extend, hj] using hj'

/-! ## Every selection is dealt by one choice of residues -/

/-- In-range draws, as numbers. -/
theorem deal_draws_injective (h : k ≤ n) :
    Function.Injective fun draws : (i : Fin k) → Fin (n - i) ↦ deal h fun i ↦ draws i := by
  intro draws draws' heq
  funext i
  have hres := (deal_eq_iff h).mp heq i
  rw [Nat.mod_eq_of_lt (draws i).isLt, Nat.mod_eq_of_lt (draws' i).isLt] at hres
  exact Fin.ext hres

theorem deal_draws_bijective (h : k ≤ n) :
    Function.Bijective fun draws : (i : Fin k) → Fin (n - i) ↦ deal h fun i ↦ draws i := by
  rw [Fintype.bijective_iff_injective_and_card]
  refine ⟨deal_draws_injective h, ?_⟩
  calc Fintype.card ((i : Fin k) → Fin (n - i))
      = ∏ i : Fin k, (n - i) := by simp [Fintype.card_pi]
    _ = ∏ i ∈ Finset.range k, (n - i) := Fin.prod_univ_eq_prod_range (fun i ↦ n - i) k
    _ = n.descFactorial k := (Nat.descFactorial_eq_prod_range n k).symm
    _ = Fintype.card (Fin k ↪ Fin n) := by simp [Fintype.card_embedding_eq]

/-! ## Counting words -/

/-- The words of a range with a given residue. -/
theorem card_residue (N : ℕ) {m r : ℕ} (hr : r < m) :
    N / m ≤ Finset.card {x : Fin N | (x : ℕ) % m = r} ∧
      Finset.card {x : Fin N | (x : ℕ) % m = r} ≤ N / m + 1 := by
  have hcount : Finset.card {x : Fin N | (x : ℕ) % m = r} = N.count (· ≡ r [MOD m]) := by
    rw [Nat.count_eq_card_filter_range, ← Finset.card_map Fin.valEmbedding]
    congr 1
    ext x
    simp [Nat.ModEq, Nat.mod_eq_of_lt hr, Fin.exists_iff, and_comm]
  rw [hcount, Nat.count_modEq_card _ (Nat.zero_lt_of_lt hr)]
  split <;> omega

/-- The words of a range that deal a given selection. -/
def wordsFor (N : ℕ) (h : k ≤ n) (selection : Fin k ↪ Fin n) : Finset (Fin k → Fin N) :=
  {words | deal h (fun i ↦ words i) = selection}

theorem card_wordsFor (N : ℕ) (h : k ≤ n) (selection : Fin k ↪ Fin n) :
    ∏ i : Fin k, N / (n - i) ≤ (wordsFor N h selection).card ∧
      (wordsFor N h selection).card ≤ ∏ i : Fin k, (N / (n - i) + 1) := by
  obtain ⟨draws, rfl⟩ := (deal_draws_bijective h).surjective selection
  have hpi : wordsFor N h (deal h fun i ↦ draws i) =
      Fintype.piFinset fun i : Fin k ↦ {x : Fin N | (x : ℕ) % (n - i) = draws i} := by
    ext words
    simp [wordsFor, deal_eq_iff, Nat.mod_eq_of_lt (draws _).isLt]
  rw [hpi, Fintype.card_piFinset]
  exact ⟨Finset.prod_le_prod' fun i _ ↦ (card_residue N (draws i).isLt).1,
    Finset.prod_le_prod' fun i _ ↦ (card_residue N (draws i).isLt).2⟩

/-- With at least `q` words for each residue, no selection is dealt by more than `((q + 1) / q) ^ k`
times as many words as another. -/
theorem card_wordsFor_le {N q : ℕ} (h : k ≤ n) (hq : ∀ i : Fin k, q ≤ N / (n - i))
    (selection selection' : Fin k ↪ Fin n) :
    (wordsFor N h selection).card * q ^ k ≤ (wordsFor N h selection').card * (q + 1) ^ k := by
  have hconst (c : ℕ) : c ^ k = ∏ _i : Fin k, c := by simp
  calc (wordsFor N h selection).card * q ^ k
      ≤ (∏ i : Fin k, (N / (n - i) + 1)) * q ^ k :=
        Nat.mul_le_mul_right _ (card_wordsFor N h selection).2
    _ = ∏ i : Fin k, (N / (n - i) + 1) * q := by rw [hconst, Finset.prod_mul_distrib]
    _ ≤ ∏ i : Fin k, N / (n - i) * (q + 1) := by
        refine Finset.prod_le_prod' fun i _ ↦ ?_
        have hi := hq i
        linarith
    _ = (∏ i : Fin k, N / (n - i)) * (q + 1) ^ k := by rw [hconst, Finset.prod_mul_distrib]
    _ ≤ (wordsFor N h selection').card * (q + 1) ^ k :=
        Nat.mul_le_mul_right _ (card_wordsFor N h selection').1

/-- Renaming the entries turns the selections of one kind into those of another. -/
theorem card_deal_le {N q : ℕ} (h : k ≤ n) (hq : ∀ i : Fin k, q ≤ N / (n - i))
    (p p' : (Fin k ↪ Fin n) → Prop) [DecidablePred p] [DecidablePred p']
    (rename : (Fin k ↪ Fin n) ≃ (Fin k ↪ Fin n))
    (hp : ∀ selection, p' (rename selection) ↔ p selection) :
    Finset.card {words : Fin k → Fin N | p (deal h fun i ↦ words i)} * q ^ k ≤
      Finset.card {words : Fin k → Fin N | p' (deal h fun i ↦ words i)} * (q + 1) ^ k := by
  have hfibres (r : (Fin k ↪ Fin n) → Prop) [DecidablePred r] :
      Finset.card {words : Fin k → Fin N | r (deal h fun i ↦ words i)} =
        ∑ selection with r selection, (wordsFor N h selection).card := by
    rw [Finset.card_eq_sum_card_fiberwise (f := fun words ↦ deal h fun i ↦ words i)
      (t := {selection | r selection}) (fun words hwords ↦ by simpa using hwords)]
    refine Finset.sum_congr rfl fun selection hselection ↦ congrArg Finset.card ?_
    ext words
    simp only [wordsFor, Finset.mem_filter, Finset.mem_univ, true_and] at hselection ⊢
    exact ⟨fun hw ↦ hw.2, fun hw ↦ ⟨hw ▸ hselection, hw⟩⟩
  rw [hfibres p, hfibres p', Finset.sum_mul, Finset.sum_mul]
  calc ∑ selection with p selection, (wordsFor N h selection).card * q ^ k
      ≤ ∑ selection with p selection, (wordsFor N h (rename selection)).card * (q + 1) ^ k :=
        Finset.sum_le_sum fun selection _ ↦ card_wordsFor_le h hq selection (rename selection)
    _ = ∑ selection with p' selection, (wordsFor N h selection).card * (q + 1) ^ k := by
        refine Finset.sum_equiv rename (fun selection ↦ ?_) fun _ _ ↦ rfl
        simp [hp]

end CreatorFirst.Shuffle
