import Mathlib.Logic.Function.Basic

/-!
# Registers of unique tokens

A register notes one owner for each token, zero standing for nobody, and who may move tokens on an
owner's behalf. Every change of ownership goes through `update`, which mints, moves or burns one
token; a caller that `update` is told about has to be entitled to the token. The `Ledger` is such a
register: owners, an approval for each token, and operators for each owner.
-/

namespace CreatorFirst

variable {A I : Type} [DecidableEq A] [Zero A] [DecidableEq I]

/-- A register of tokens `I` that accounts `A` own. `none` is a call that fails. -/
structure Erc721 (A I : Type) [Zero A] [DecidableEq I] where
  State : Type
  initial : State
  ownerOf : State → I → A
  update : A → I → A → State → Option State
  approve : A → A → I → State → Option State
  setApprovalForAll : A → A → Bool → State → Option State
  initial_owner : ∀ id, ownerOf initial id = 0
  update_owner : ∀ {recipient id auth t t'}, update recipient id auth t = some t' →
    ownerOf t' = Function.update (ownerOf t) id recipient
  update_unowned : ∀ {recipient id auth t}, auth ≠ 0 → ownerOf t id = 0 →
    update recipient id auth t = none
  approve_owner : ∀ {caller recipient id t t'}, approve caller recipient id t = some t' →
    ownerOf t' = ownerOf t
  setApprovalForAll_owner : ∀ {caller operator approved t t'},
    setApprovalForAll caller operator approved t = some t' → ownerOf t' = ownerOf t

/-- Owners and approvals. Nobody is approved for a token without an owner. -/
structure Ledger (A I : Type) [Zero A] where
  owners : I → A
  tokenApprovals : I → A
  operatorApprovals : A → A → Bool
  approval_blank : ∀ id, owners id = 0 → tokenApprovals id = 0
  operator_blank : ∀ operator, operatorApprovals 0 operator = false

namespace Ledger

def empty : Ledger A I where
  owners _ := 0
  tokenApprovals _ := 0
  operatorApprovals _ _ := false
  approval_blank _ _ := rfl
  operator_blank _ := rfl

def isAuthorized (t : Ledger A I) (spender : A) (id : I) : Bool :=
  spender ≠ 0 ∧ (t.owners id = spender ∨ t.operatorApprovals (t.owners id) spender = true ∨
    t.tokenApprovals id = spender)

/-- The new owner, with the approval of the old one withdrawn. -/
def transfer (recipient : A) (id : I) (t : Ledger A I) : Ledger A I :=
  { t with
    owners := Function.update t.owners id recipient
    tokenApprovals := Function.update t.tokenApprovals id 0
    approval_blank := fun x hx ↦ by
      by_cases h : x = id
      · simp [h]
      · rw [Function.update_of_ne h] at hx ⊢
        exact t.approval_blank x hx }

def update (recipient : A) (id : I) (auth : A) (t : Ledger A I) : Option (Ledger A I) :=
  if auth ≠ 0 ∧ t.isAuthorized auth id = false then none else some (t.transfer recipient id)

def approve (caller recipient : A) (id : I) (t : Ledger A I) : Option (Ledger A I) :=
  if h : t.owners id = 0 ∨ t.owners id ≠ caller ∧ t.operatorApprovals (t.owners id) caller = false
  then none
  else some
    { t with
      tokenApprovals := Function.update t.tokenApprovals id recipient
      approval_blank := fun x hx ↦ by
        by_cases hid : x = id
        · exact absurd (.inl (hid ▸ hx)) h
        · rw [Function.update_of_ne hid]
          exact t.approval_blank x hx }

def setApprovalForAll (caller operator : A) (approved : Bool) (t : Ledger A I) :
    Option (Ledger A I) :=
  if h : caller = 0 ∨ operator = 0 then none
  else some
    { t with
      operatorApprovals := Function.update t.operatorApprovals caller
        (Function.update (t.operatorApprovals caller) operator approved)
      operator_blank := fun x ↦ by
        rw [Function.update_of_ne fun h0 ↦ h (.inl h0.symm)]
        exact t.operator_blank x }

omit [DecidableEq I] in
theorem isAuthorized_of_unowned {t : Ledger A I} {spender : A} {id : I} (hspender : spender ≠ 0)
    (hid : t.owners id = 0) : t.isAuthorized spender id = false := by
  simp [isAuthorized, hid, t.approval_blank id hid, t.operator_blank, hspender.symm]

/-- The ledger as a register. -/
def register (A I : Type) [DecidableEq A] [Zero A] [DecidableEq I] : Erc721 A I where
  State := Ledger A I
  initial := empty
  ownerOf := owners
  update := update
  approve := approve
  setApprovalForAll := setApprovalForAll
  initial_owner _ := rfl
  update_owner h := by
    unfold update at h
    split at h
    · cases h
    · obtain rfl := Option.some.inj h
      rfl
  update_unowned hauth hid := if_pos ⟨hauth, isAuthorized_of_unowned hauth hid⟩
  approve_owner h := by
    unfold approve at h
    split at h
    · cases h
    · obtain rfl := Option.some.inj h
      rfl
  setApprovalForAll_owner h := by
    unfold setApprovalForAll at h
    split at h
    · cases h
    · obtain rfl := Option.some.inj h
      rfl

end Ledger

end CreatorFirst
