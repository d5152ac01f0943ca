import Mathlib.Logic.Function.Basic
import Mathlib.Algebra.BigOperators.Group.Finset.Basic

/-!
# Storage mappings

A mapping is a total function with a default value. Writing one key of a nested mapping leaves all
other pairs of keys as they were, and a sum over the keys moves by the change at the written key.
-/

namespace CreatorFirst.Chain

variable {α β γ δ : Type} [DecidableEq α] [DecidableEq β] [DecidableEq γ]

/-- Write one entry of a mapping of mappings. -/
def update₂ (m : α → β → δ) (a : α) (b : β) (v : δ) : α → β → δ :=
  Function.update m a (Function.update (m a) b v)

/-- Write one entry of a mapping nested three deep. -/
def update₃ (m : α → β → γ → δ) (a : α) (b : β) (c : γ) (v : δ) : α → β → γ → δ :=
  Function.update m a (update₂ (m a) b c v)

theorem update₂_apply (m : α → β → δ) (a : α) (b : β) (v : δ) (x : α) (y : β) :
    update₂ m a b v x y = if x = a ∧ y = b then v else m x y := by
  unfold update₂
  by_cases hx : x = a
  · subst hx
    by_cases hy : y = b <;> simp [hy]
  · simp [hx]

@[simp]
theorem update₂_self (m : α → β → δ) (a : α) (b : β) (v : δ) : update₂ m a b v a b = v := by
  simp [update₂_apply]

theorem update₂_of_ne_left {m : α → β → δ} {a x : α} {b : β} {v : δ} (h : x ≠ a) :
    update₂ m a b v x = m x := by
  simp [update₂, h]

theorem update₂_of_ne_right {m : α → β → δ} {a x : α} {b y : β} {v : δ} (h : y ≠ b) :
    update₂ m a b v x y = m x y := by
  simp [update₂_apply, h]

theorem update₃_apply (m : α → β → γ → δ) (a : α) (b : β) (c : γ) (v : δ) (x : α) (y : β) (z : γ) :
    update₃ m a b c v x y z = if x = a ∧ y = b ∧ z = c then v else m x y z := by
  unfold update₃
  by_cases hx : x = a
  · subst hx
    simp [update₂_apply]
  · simp [hx]

/-- The flags are set for exactly the keys of a list in which none occurs twice. -/
structure Marks (flag : α → Bool) (keys : List α) : Prop where
  iff : ∀ x, flag x = true ↔ x ∈ keys
  nodup : keys.Nodup

omit [DecidableEq α] in
theorem marks_nil : Marks (fun _ : α ↦ false) [] where
  iff x := by simp
  nodup := List.nodup_nil

/-- Setting a flag that was not set adds its key. -/
theorem Marks.cons {flag : α → Bool} {keys : List α} (h : Marks flag keys) {x : α}
    (hx : flag x = false) : Marks (Function.update flag x true) (x :: keys) where
  iff y := by
    by_cases hy : y = x
    · simp [hy]
    · simp [hy, h.iff y]
  nodup := by
    refine List.nodup_cons.mpr ⟨fun hmem ↦ ?_, h.nodup⟩
    rw [(h.iff x).mpr hmem] at hx
    cases hx

/-! ## Indexes of keyed records -/

section Indexes

variable {κ ι : Type} [DecidableEq κ] [DecidableEq ι] [Zero ι] {index : κ → ι} {R : ι → Prop}
  {key : ι → κ}

/-- The index names exactly the recorded ids by their keys, and gives zero for all other keys. -/
def Indexes (index : κ → ι) (R : ι → Prop) (key : ι → κ) : Prop :=
  ∀ k i, i ≠ 0 → (index k = i ↔ R i ∧ key i = k)

namespace Indexes

omit [DecidableEq κ] [DecidableEq ι] in
/-- No two recorded ids have the same key. -/
theorem inj (h : Indexes index R key) {i j : ι} (hi : i ≠ 0) (hj : j ≠ 0) (hRi : R i) (hRj : R j)
    (hkey : key i = key j) : i = j := by
  calc i = index (key j) := ((h (key j) i hi).mpr ⟨hRi, hkey⟩).symm
    _ = j := (h (key j) j hj).mpr ⟨hRj, rfl⟩

omit [DecidableEq κ] [DecidableEq ι] in
theorem congr (h : Indexes index R key) {R' : ι → Prop} {key' : ι → κ}
    (hR : ∀ i, R' i ↔ R i) (hkey : ∀ i, R i → key' i = key i) : Indexes index R' key' := by
  intro k i hi
  rw [h k i hi, hR i]
  apply and_congr_right
  intro hRi
  rw [hkey i hRi]

/-- A new id is recorded under a key that was free. -/
theorem insert (h : Indexes index R key) {k₀ : κ} {i₀ : ι} (hfree : index k₀ = 0) (hnew : ¬ R i₀) :
    Indexes (Function.update index k₀ i₀) (fun i ↦ R i ∨ i = i₀)
      (Function.update key i₀ k₀) := by
  intro k i hi
  by_cases hii : i = i₀
  · subst hii
    have hunknown : ∀ k, index k ≠ i := fun k hk ↦ hnew ((h k i hi).mp hk).1
    by_cases hk : k = k₀
    · simp [hk]
    · simp [hk, Ne.symm hk, hunknown]
  · dsimp only
    rw [Function.update_of_ne hii, or_iff_left hii, ← h k i hi]
    by_cases hk : k = k₀
    · subst hk
      rw [Function.update_self, hfree]
      exact iff_of_false (Ne.symm hii) hi.symm
    · rw [Function.update_of_ne hk]

/-- A recorded id moves to another key, or to the one it has. -/
theorem rekey (h : Indexes index R key) {k₀ : κ} {i₀ : ι} (hne : i₀ ≠ 0) (hR : R i₀)
    (hfree : index k₀ = 0 ∨ index k₀ = i₀) :
    Indexes (Function.update (Function.update index (key i₀) 0) k₀ i₀) R
      (Function.update key i₀ k₀) := by
  have hold : index (key i₀) = i₀ := (h _ _ hne).mpr ⟨hR, rfl⟩
  intro k i hi
  by_cases hii : i = i₀
  · subst hii
    rw [Function.update_self]
    by_cases hk : k = k₀
    · simp [hk, hR]
    · rw [Function.update_of_ne hk]
      by_cases hkold : k = key i
      · rw [hkold, Function.update_self]
        exact iff_of_false hi.symm fun hkey ↦ hk (hkold.trans hkey.2.symm)
      · rw [Function.update_of_ne hkold]
        have hunknown : index k ≠ i := fun hid ↦ hkold ((h k i hi).mp hid).2.symm
        simp [hunknown, Ne.symm hk]
  · rw [Function.update_of_ne hii, ← h k i hi]
    by_cases hk : k = k₀
    · subst hk
      rw [Function.update_self]
      refine iff_of_false (Ne.symm hii) fun hid ↦ ?_
      obtain hzero | hself := hfree
      · exact hi (hid.symm.trans hzero)
      · exact hii (hid.symm.trans hself)
    · rw [Function.update_of_ne hk]
      by_cases hkold : k = key i₀
      · subst hkold
        rw [Function.update_self, hold]
        exact iff_of_false hi.symm (Ne.symm hii)
      · rw [Function.update_of_ne hkold]

end Indexes

end Indexes

/-- Writing a value under a key that did not have the value `v` adds the key to those with `v`, if
`v` is what is written. -/
theorem card_filter_update [Fintype α] {m : α → β} {a : α} {v : β} (w : β) (h : m a ≠ v) :
    (Finset.univ.filter fun x ↦ Function.update m a w x = v).card =
      (Finset.univ.filter fun x ↦ m x = v).card + if v = w then 1 else 0 := by
  by_cases hv : v = w
  · have hunwritten : a ∉ Finset.univ.filter fun x ↦ m x = v := by
      simp [h]
    rw [if_pos hv, ← Finset.card_insert_of_notMem hunwritten]
    congr 1
    ext x
    by_cases hx : x = a
    · simp [hx, hv]
    · simp [hx]
  · rw [if_neg hv, add_zero]
    congr 1
    ext x
    by_cases hx : x = a
    · subst hx
      simp [Ne.symm hv, h]
    · simp [hx]

/-- Two families that agree off `a` have sums that differ by their values at `a`. -/
theorem sum_add_eq_of_eq_off {M : Type} [AddCommMonoid M] {S : Finset α} {f g : α → M} {a : α}
    (ha : a ∈ S) (h : ∀ x ∈ S, x ≠ a → g x = f x) :
    ∑ x ∈ S, g x + f a = ∑ x ∈ S, f x + g a := by
  have hrest : ∑ x ∈ S.erase a, g x = ∑ x ∈ S.erase a, f x :=
    Finset.sum_congr rfl fun x hx ↦ h x (Finset.mem_of_mem_erase hx) (Finset.ne_of_mem_erase hx)
  rw [← Finset.add_sum_erase S g ha, ← Finset.add_sum_erase S f ha, hrest]
  ac_rfl

end CreatorFirst.Chain
