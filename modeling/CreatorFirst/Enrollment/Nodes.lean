import CreatorFirst.Funding.Records

/-!
# The chain as the gateway sees it

Blocks that have the awaited confirmations stay. Those above them may be followed by others or replaced, so
that a transaction in one of them may be lost. A node answers from a block that was the latest one at some
time, and does not say which.
-/

namespace CreatorFirst.Enrollment

open Chain Funding

/-- The state after the confirmed blocks, the transactions of the blocks above them, and the states of all
blocks that have been the latest one. -/
structure Nodes where
  confirmed : FundingWorld
  unconfirmed : List FundingTx
  heads : List FundingWorld

namespace Nodes

section Operations

variable (P : Primitives) (d : Deployment) (n : Nodes)

def start (w : FundingWorld) : Nodes where
  confirmed := w
  unconfirmed := []
  heads := [w]

def head : FundingWorld := (contract P d).run n.unconfirmed n.confirmed

/-- The blocks above the confirmed ones grow or are replaced. -/
def publish (txs : List FundingTx) : Nodes :=
  if Contract.Chronological n.confirmed.block.timestamp txs then
    { n with unconfirmed := txs, heads := n.heads ++ [(contract P d).run txs n.confirmed] }
  else n

/-- The next transaction has the awaited confirmations. -/
def confirm : Nodes :=
  match n.unconfirmed with
  | [] => n
  | tx :: rest => { n with confirmed := (contract P d).transact tx n.confirmed, unconfirmed := rest }

end Operations

variable {P : Primitives} {d : Deployment} {n n' : Nodes}

/-- All blocks extend the deployment of the contracts. -/
structure Sound (P : Primitives) (d : Deployment) (n : Nodes) : Prop where
  confirmed : Reachable P d n.confirmed
  unconfirmed : Contract.Chronological n.confirmed.block.timestamp n.unconfirmed
  heads : ∀ w ∈ n.heads, Reachable P d w

theorem sound_start {w : FundingWorld} (h : Reachable P d w) : (start w).Sound P d where
  confirmed := h
  unconfirmed := trivial
  heads v hv := by
    obtain rfl := List.mem_singleton.mp hv
    exact h

theorem Sound.reaches_head (h : n.Sound P d) : (contract P d).Reaches n.confirmed (n.head P d) :=
  Contract.reaches_run h.unconfirmed

theorem Sound.head (h : n.Sound P d) : Reachable P d (n.head P d) := h.confirmed.reaches h.reaches_head

theorem Sound.publish (h : n.Sound P d) (txs : List FundingTx) : (n.publish P d txs).Sound P d := by
  unfold Nodes.publish
  split
  · next htxs =>
    refine ⟨h.confirmed, htxs, fun w hw ↦ ?_⟩
    obtain hbefore | hnew := List.mem_append.mp hw
    · exact h.heads w hbefore
    · obtain rfl := List.mem_singleton.mp hnew
      exact h.confirmed.reaches (Contract.reaches_run htxs)
  · exact h

theorem Sound.confirm_step (h : n.Sound P d) :
    (contract P d).Reaches n.confirmed (n.confirm P d).confirmed := by
  unfold Nodes.confirm
  have hchronological := h.unconfirmed
  split
  · exact .refl
  · next tx rest hnext =>
    rw [hnext] at hchronological
    exact .single ⟨tx, hchronological.1, rfl⟩

theorem Sound.confirm (h : n.Sound P d) : (n.confirm P d).Sound P d := by
  have hstep := h.confirm_step
  have hchronological := h.unconfirmed
  unfold Nodes.confirm at hstep ⊢
  split at hstep
  · exact h
  · next tx rest hnext =>
    refine ⟨h.confirmed.reaches hstep, ?_, h.heads⟩
    rw [hnext] at hchronological
    dsimp only
    rw [Contract.transact_block]
    exact hchronological.2

/-- The confirmed blocks are only added to. -/
def Grows (P : Primitives) (d : Deployment) (n n' : Nodes) : Prop :=
  (contract P d).Reaches n.confirmed n'.confirmed

theorem grows_publish (n : Nodes) (txs : List FundingTx) : Grows P d n (n.publish P d txs) := by
  unfold Grows publish
  split <;> exact .refl

theorem heads_publish (n : Nodes) (txs : List FundingTx) : n.heads ⊆ (n.publish P d txs).heads := by
  unfold publish
  split
  · exact List.subset_append_left _ _
  · exact List.Subset.refl _

theorem heads_confirm (n : Nodes) : n.heads ⊆ (n.confirm P d).heads := by
  unfold confirm
  split <;> exact List.Subset.refl _

end Nodes

end CreatorFirst.Enrollment
