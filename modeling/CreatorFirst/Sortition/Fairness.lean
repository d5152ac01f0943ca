import CreatorFirst.Shuffle.Draws
import CreatorFirst.Sortition.Selection

/-!
# The draw favours nobody

The indices recorded for a House are the selection that the hashes of its ranks deal. Over all values
that the hashes of the ranks can take, every selection is dealt, and none by more than
`(1 + 2 ^ -224) ^ k` times as many as another, where `k` ranks are recorded; the same holds of any two
candidates and any set of ranks.
-/

namespace CreatorFirst.Sortition

open Chain

variable {P : Primitives} {d : Deployment} {sessionId : Uint 256} {house : Uint 8} {D : Draw}

theorem Drawn.count_le_population (hD : Drawn P sessionId house D) :
    (D.count : ℕ) ≤ D.population :=
  hD.count_le.trans hD.seats_le

/-- The hashes that decide the recorded ranks of a House. -/
def Draw.words (P : Primitives) (sessionId : Uint 256) (house : Uint 8) (D : Draw) :
    Fin D.count → Bytes32 :=
  fun rank ↦ drawHash P D.randomWord sessionId house rank

/-- The recorded indices are what these hashes deal. -/
theorem Drawn.index_eq_deal (hD : Drawn P sessionId house D) {rank : Uint 32} (h : rank < D.count) :
    (D.index rank : ℕ) =
      (Shuffle.deal hD.count_le_population (fun i ↦ D.words P sessionId house i) ⟨rank, h⟩ : ℕ) + 1 := by
  have hsteps : Shuffle.dense D.population (fun i ↦ drawHash P D.randomWord sessionId house i) D.count =
      Shuffle.dense D.population
        (Shuffle.extend fun i ↦ (D.words P sessionId house i : ℕ)) D.count := by
    refine Shuffle.dense_congr fun i hi ↦ ?_
    simp [Shuffle.extend, hi, Draw.words]
  rw [hD.index_eq rank (hD.rank_lt h) h, Shuffle.deal_val]
  exact congrArg (· + 1) (getElem_congr_coll hsteps)

/-- Each residue of a draw is that of at least `2 ^ 224` hashes. -/
theorem Drawn.le_words (hD : Drawn P sessionId house D) (i : Fin D.count) :
    2 ^ 224 ≤ 2 ^ 256 / ((D.population : ℕ) - i) := by
  have hpos : 0 < (D.population : ℕ) - i :=
    Nat.sub_pos_of_lt (i.isLt.trans_le hD.count_le_population)
  rw [Nat.le_div_iff_mul_le hpos]
  calc 2 ^ 224 * ((D.population : ℕ) - i) ≤ 2 ^ 224 * 2 ^ 32 :=
        Nat.mul_le_mul_left _ ((Nat.sub_le _ _).trans D.population.isLt.le)
    _ = 2 ^ 256 := by norm_num

/-- What it means that the draw of a House favours no selection and no candidate. -/
structure Unbiased (P : Primitives) (sessionId : Uint 256) (house : Uint 8) (D : Draw) : Prop where
  count_le : (D.count : ℕ) ≤ D.population
  recorded : ∀ (rank : Uint 32) (h : rank < D.count), (D.index rank : ℕ) =
    (Shuffle.deal count_le (fun i ↦ D.words P sessionId house i) ⟨rank, h⟩ : ℕ) + 1
  possible : ∀ selection : Fin D.count ↪ Fin D.population,
    0 < Finset.card {words : Fin D.count → Bytes32 |
      Shuffle.deal count_le (fun i ↦ words i) = selection}
  balanced : ∀ selection selection' : Fin D.count ↪ Fin D.population,
    Finset.card {words : Fin D.count → Bytes32 |
        Shuffle.deal count_le (fun i ↦ words i) = selection} * (2 ^ 224) ^ (D.count : ℕ) ≤
      Finset.card {words : Fin D.count → Bytes32 |
        Shuffle.deal count_le (fun i ↦ words i) = selection'} * (2 ^ 224 + 1) ^ (D.count : ℕ)
  candidates_balanced : ∀ (ranks : Finset (Fin D.count)) (candidate candidate' : Fin D.population),
    Finset.card {words : Fin D.count → Bytes32 |
        ∃ rank ∈ ranks, Shuffle.deal count_le (fun i ↦ words i) rank = candidate} *
          (2 ^ 224) ^ (D.count : ℕ) ≤
      Finset.card {words : Fin D.count → Bytes32 |
        ∃ rank ∈ ranks, Shuffle.deal count_le (fun i ↦ words i) rank = candidate'} *
          (2 ^ 224 + 1) ^ (D.count : ℕ)

theorem Drawn.unbiased (hD : Drawn P sessionId house D) : Unbiased P sessionId house D where
  count_le := hD.count_le_population
  recorded _ h := hD.index_eq_deal h
  possible selection := by
    refine Nat.lt_of_lt_of_le ?_ (Shuffle.card_wordsFor (2 ^ 256) hD.count_le_population selection).1
    exact Finset.prod_pos fun i _ ↦ Nat.lt_of_lt_of_le (by norm_num) (hD.le_words i)
  balanced := Shuffle.card_wordsFor_le hD.count_le_population hD.le_words
  candidates_balanced ranks candidate candidate' := by
    -- Exchanging the two candidates turns the selections of one into those of the other.
    refine Shuffle.card_deal_le hD.count_le_population hD.le_words
      (fun selection ↦ ∃ rank ∈ ranks, selection rank = candidate)
      (fun selection ↦ ∃ rank ∈ ranks, selection rank = candidate')
      (Equiv.embeddingCongr (Equiv.refl _) (Equiv.swap candidate candidate')) fun selection ↦ ?_
    refine exists_congr fun rank ↦ and_congr_right fun _ ↦ ?_
    change Equiv.swap candidate candidate' (selection rank) = candidate' ↔ _
    rw [← Equiv.eq_symm_apply, Equiv.symm_swap, Equiv.swap_apply_right]

/-- In every run the ranks recorded for a House are the selection that the hashes of these ranks deal.
Every ordered selection of candidates is dealt by some hashes, and by almost as many as any other; the
same holds of any two candidates and any set of ranks. -/
theorem draw_unbiased {w : SystemWorld} (hw : Reachable P d w) (sessionId : Uint 256)
    {house : Uint 8} (hhouse : IsHouse house) :
    Unbiased P sessionId house (w.state.sortition.drawOf sessionId house) :=
  (hw.observable.drawn sessionId hhouse).unbiased

theorem draw_unbiased_sample :
    Unbiased Sample.primitives 1 CREATOR_HOUSE
      ((Sample.after Sample.selection).state.sortition.drawOf 1 CREATOR_HOUSE) :=
  draw_unbiased (d := Sample.deployment) (Sample.reachable_after (by decide)) 1 (by decide)

end CreatorFirst.Sortition
