import CreatorFirst.Chain.AccessControl
import CreatorFirst.Token.Erc20

/-!
# The test token

The token the contracts settle in on the test network: balances, allowances and a supply that only
grows, by a faucet for holders of its role and by one fixed claim for every account.
-/

namespace CreatorFirst.Settlement

open Chain

namespace MockJPYC

structure State where
  roles : Roles
  totalSupply : ℕ
  balances : Address → ℕ
  allowances : Address → Address → ℕ
  hasClaimed : Address → Bool

inductive Op where
  | access (op : RoleOp)
  | transfer (recipient : Address) (amount : ℕ)
  | approve (spender : Address) (amount : ℕ)
  | transferFrom (owner recipient : Address) (amount : ℕ)
  | faucet (recipient : Address) (amount : ℕ)
  | claim

def FAUCET_ROLE (P : Primitives) : Bytes32 := P.keccak256 (utf8 "FAUCET_ROLE")

def CLAIM_AMOUNT : ℕ := 2000 * 10 ^ 18

/-- Amounts are words. -/
def maxAmount : ℕ := 2 ^ 256 - 1

/-- New tokens, as long as the supply stays a word. -/
def mint (recipient : Address) (amount : ℕ) (t : State) : Option State :=
  if recipient = 0 ∨ maxAmount < t.totalSupply + amount then none
  else some
    { t with
      totalSupply := t.totalSupply + amount
      balances := Function.update t.balances recipient (t.balances recipient + amount) }

def move (owner recipient : Address) (amount : ℕ) (t : State) : Option State :=
  if owner = 0 ∨ recipient = 0 ∨ t.balances owner < amount then none
  else
    let lowered := Function.update t.balances owner (t.balances owner - amount)
    some { t with balances := Function.update lowered recipient (lowered recipient + amount) }

def approve (owner spender : Address) (amount : ℕ) (t : State) : Option State :=
  if owner = 0 ∨ spender = 0 then none
  else some { t with allowances := update₂ t.allowances owner spender amount }

/-- The allowance goes down by the amount, except for an unlimited one. -/
def spendAllowance (owner spender : Address) (amount : ℕ) (t : State) : Option State :=
  if t.allowances owner spender = maxAmount then some t
  else if t.allowances owner spender < amount then none
  else approve owner spender (t.allowances owner spender - amount) t

def exec (P : Primitives) (caller : Address) : Op → State → Option State
  | .access op, t => (t.roles.apply caller op).toOption.map fun roles ↦ { t with roles }
  | .transfer recipient amount, t => move caller recipient amount t
  | .approve spender amount, t => approve caller spender amount t
  | .transferFrom owner recipient amount, t => do
    let t ← spendAllowance owner caller amount t
    move owner recipient amount t
  | .faucet recipient amount, t =>
    if t.roles (FAUCET_ROLE P) caller then mint recipient amount t else none
  | .claim, t =>
    if t.hasClaimed caller then none
    else mint caller CLAIM_AMOUNT { t with hasClaimed := Function.update t.hasClaimed caller true }

/-! ## Its calls, one by one -/

variable {P : Primitives} {t t' : State} {amount : ℕ}

theorem move_eq_some {owner recipient : Address} (h : move owner recipient amount t = some t') :
    Moves amount owner recipient t.balances t'.balances ∧ t'.allowances = t.allowances := by
  unfold move at h
  split at h
  · cases h
  · next hguard =>
    obtain rfl := Option.some.inj h
    exact ⟨.of_update (by omega), rfl⟩

theorem mint_eq_some {recipient : Address} (h : mint recipient amount t = some t') :
    (∀ a, t.balances a ≤ t'.balances a) ∧ t'.allowances = t.allowances := by
  unfold mint at h
  split at h
  · cases h
  · obtain rfl := Option.some.inj h
    refine ⟨fun a ↦ ?_, rfl⟩
    by_cases ha : a = recipient <;> simp [ha]

theorem approve_eq_some {owner spender : Address} (h : approve owner spender amount t = some t') :
    t'.balances = t.balances ∧ t'.allowances = update₂ t.allowances owner spender amount := by
  unfold approve at h
  split at h
  · cases h
  · obtain rfl := Option.some.inj h
    exact ⟨rfl, rfl⟩

/-- Only the allowance of the spender is touched, and nothing is spent beyond it. -/
theorem spendAllowance_eq_some {owner spender : Address}
    (h : spendAllowance owner spender amount t = some t') :
    t'.balances = t.balances ∧ (∀ a, a ≠ owner → t'.allowances a = t.allowances a) ∧
      (∀ a, t'.allowances owner a ≤ t.allowances owner a) ∧
      (t.allowances owner spender = 0 → amount = 0) := by
  have hmax : maxAmount ≠ 0 := by decide
  unfold spendAllowance at h
  split at h
  · next hunlimited =>
    obtain rfl := Option.some.inj h
    exact ⟨rfl, fun _ _ ↦ rfl, fun _ ↦ le_rfl, fun hzero ↦ absurd (hunlimited ▸ hzero) hmax⟩
  · split at h
    · cases h
    · next hcovered =>
      obtain ⟨hbalances, hallowances⟩ := approve_eq_some h
      refine ⟨hbalances, fun a ha ↦ ?_, fun a ↦ ?_, fun hzero ↦ by omega⟩
      · rw [hallowances, update₂_of_ne_left ha]
      · rw [hallowances, update₂_apply]
        split
        · next heq =>
          rw [heq.2]
          exact Nat.sub_le _ _
        · exact le_rfl

theorem transferFrom_eq_some {caller owner recipient : Address}
    (h : exec P caller (.transferFrom owner recipient amount) t = some t') :
    ∃ t₁, spendAllowance owner caller amount t = some t₁ ∧
      move owner recipient amount t₁ = some t' :=
  Option.bind_eq_some_iff.mp h

theorem others_keep {caller owner : Address} {op : Op} (h : exec P caller op t = some t')
    (hne : caller ≠ owner) (hnone : ∀ spender, t.allowances owner spender = 0) :
    t.balances owner ≤ t'.balances owner ∧ ∀ spender, t'.allowances owner spender = 0 := by
  cases op with
  | access op =>
    obtain ⟨roles, -, rfl⟩ := Option.map_eq_some_iff.mp h
    exact ⟨le_rfl, hnone⟩
  | transfer recipient amount =>
    obtain ⟨hmoves, hallowances⟩ := move_eq_some h
    refine ⟨?_, hallowances ▸ hnone⟩
    have hexact := hmoves.exact owner
    rw [if_neg hne.symm] at hexact
    omega
  | approve spender amount =>
    obtain ⟨hbalances, hallowances⟩ := approve_eq_some h
    refine ⟨hbalances ▸ le_rfl, fun a ↦ ?_⟩
    rw [hallowances, update₂_of_ne_left hne.symm]
    exact hnone a
  | transferFrom from_ recipient amount =>
    obtain ⟨t₁, hspend, hmove⟩ := transferFrom_eq_some h
    obtain ⟨hbalances, hothers, hspender, hzero⟩ := spendAllowance_eq_some hspend
    obtain ⟨hmoves, hallowances⟩ := move_eq_some hmove
    have hexact := hmoves.exact owner
    rw [hbalances] at hexact
    by_cases hfrom : owner = from_
    · subst hfrom
      -- Nothing can be moved away from an account that has approved nobody.
      have hamount := hzero (hnone caller)
      refine ⟨by simp [hamount] at hexact; omega, fun a ↦ ?_⟩
      rw [hallowances]
      have hle := hspender a
      have hold := hnone a
      omega
    · rw [if_neg hfrom] at hexact
      refine ⟨by omega, fun a ↦ ?_⟩
      rw [hallowances, hothers owner hfrom]
      exact hnone a
  | faucet recipient amount =>
    simp only [exec] at h
    split at h
    · obtain ⟨hle, hallowances⟩ := mint_eq_some h
      exact ⟨hle owner, hallowances ▸ hnone⟩
    · cases h
  | claim =>
    simp only [exec] at h
    split at h
    · cases h
    · obtain ⟨hle, hallowances⟩ := mint_eq_some h
      exact ⟨hle owner, hallowances ▸ hnone⟩

/-- The token moves exactly what its transfers name. -/
def token (P : Primitives) : Erc20 Address where
  State := State
  Op := Op
  balanceOf := State.balances
  allowance := State.allowances
  transfer := .transfer
  transferFrom := .transferFrom
  exec := exec P
  transfer_moves h := (move_eq_some h).1
  transfer_allowance h := (move_eq_some h).2
  transferFrom_moves h := by
    obtain ⟨t₁, hspend, hmove⟩ := transferFrom_eq_some h
    exact (spendAllowance_eq_some hspend).1 ▸ (move_eq_some hmove).1
  others_keep := others_keep

/-- The state of the token right after construction. -/
def initialState (P : Primitives) (admin : Address) (initialSupply : ℕ) : State where
  roles := (Roles.empty.grant Roles.DEFAULT_ADMIN_ROLE admin).grant (FAUCET_ROLE P) admin
  totalSupply := initialSupply
  balances := Function.update (fun _ ↦ 0) admin initialSupply
  allowances := fun _ _ ↦ 0
  hasClaimed := fun _ ↦ false

end MockJPYC

end CreatorFirst.Settlement
