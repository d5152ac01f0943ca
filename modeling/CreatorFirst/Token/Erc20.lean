import Mathlib.Algebra.Order.Group.Nat
import Mathlib.Tactic.Linarith

/-!
# Exact-transfer tokens

A token with balances and allowances whose transfers move exactly the amount they name. Whatever
else it offers, nobody loses tokens without a call of their own or an allowance they gave, and
nobody else gives allowances for them. A token has no hooks: a call of it calls nobody.
-/

namespace CreatorFirst

variable {A : Type} [DecidableEq A]

/-- The amount goes from the sender to the recipient, and no other balance changes. -/
structure Moves (amount : ℕ) (sender recipient : A) (before after : A → ℕ) : Prop where
  covered : amount ≤ before sender
  exact : ∀ a, after a + (if a = sender then amount else 0) =
    before a + if a = recipient then amount else 0

/-- A token that accounts `A` hold. `Op` are its external functions; `none` is a call that fails. -/
structure Erc20 (A : Type) [DecidableEq A] where
  State : Type
  Op : Type
  balanceOf : State → A → ℕ
  allowance : State → A → A → ℕ
  transfer : A → ℕ → Op
  transferFrom : A → A → ℕ → Op
  exec : A → Op → State → Option State
  transfer_moves : ∀ {caller recipient amount t t'},
    exec caller (transfer recipient amount) t = some t' →
      Moves amount caller recipient (balanceOf t) (balanceOf t')
  transfer_allowance : ∀ {caller recipient amount t t'},
    exec caller (transfer recipient amount) t = some t' → allowance t' = allowance t
  transferFrom_moves : ∀ {caller owner recipient amount t t'},
    exec caller (transferFrom owner recipient amount) t = some t' →
      Moves amount owner recipient (balanceOf t) (balanceOf t')
  others_keep : ∀ {caller owner op t t'}, exec caller op t = some t' → caller ≠ owner →
    (∀ spender, allowance t owner spender = 0) →
      balanceOf t owner ≤ balanceOf t' owner ∧ ∀ spender, allowance t' owner spender = 0

namespace Moves

variable {amount : ℕ} {sender recipient : A} {before after : A → ℕ}

theorem recipient_eq (h : Moves amount sender recipient before after) (hne : sender ≠ recipient) :
    after recipient = before recipient + amount := by
  simpa [hne.symm] using h.exact recipient

theorem sender_eq (h : Moves amount sender recipient before after) (hne : sender ≠ recipient) :
    after sender + amount = before sender := by
  simpa [hne] using h.exact sender

theorem self_eq (h : Moves amount sender sender before after) (a : A) : after a = before a := by
  have hexact := h.exact a
  omega

/-- Two writes, first at the sender and then at the recipient, move the amount. -/
theorem of_update (hle : amount ≤ before sender) :
    Moves amount sender recipient before
      (Function.update (Function.update before sender (before sender - amount)) recipient
        (Function.update before sender (before sender - amount) recipient + amount)) where
  covered := hle
  exact a := by
    by_cases hrecipient : a = recipient
    · subst hrecipient
      by_cases hsender : a = sender
      · subst hsender
        simp
        omega
      · simp [hsender]
    · by_cases hsender : a = sender
      · subst hsender
        simp [hrecipient]
        omega
      · simp [hrecipient, hsender]

end Moves

end CreatorFirst
