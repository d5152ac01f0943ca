import CreatorFirst.Settlement.Accounting

/-!
# Active periods

A payment grants its subscriber a half-open period from the time of the payment or the end of the period
before, whichever is later. The contract keeps the end of the last period only, and counts that instant
as active.
-/

namespace CreatorFirst.Settlement

open Chain Relation

variable {P : Primitives} {T : Erc20 Address} {d : Deployment}

/-- The time at which an entry has been paid by the subscriber, and the duration of its plan. -/
def paid (subscriber : Address) (e : SettlementEntry T) : Option (ℕ × ℕ) :=
  match e.op with
  | .subscription (.subscribe _ _) =>
    if e.msg.sender = subscriber then
      some (e.block.timestamp, (e.before.subscription.plan.duration : ℕ))
    else none
  | _ => none

def paidBy (journal : List (SettlementEntry T)) (subscriber : Address) : List (ℕ × ℕ) :=
  journal.filterMap (paid subscriber)

/-- The periods that the payments of a subscriber have granted. -/
def granted (journal : List (SettlementEntry T)) (subscriber : Address) : List Period :=
  Period.renewals (paidBy journal subscriber)

/-- The payments of a subscriber lie in the past; if all of them were made at times of 64 bits, the paid
time ends with the last period. -/
structure Granted (w : SettlementWorld T) (subscriber : Address) : Prop where
  past : ∀ p ∈ paidBy w.journal subscriber, p.1 ≤ w.block.timestamp
  until_eq : (∀ p ∈ paidBy w.journal subscriber, p.1 < 2 ^ 64) →
    (w.state.subscription.subscriptionActiveUntil subscriber : ℕ) =
      Period.lastEnd (granted w.journal subscriber)

theorem Granted.of_same {w w' : SettlementWorld T} {subscriber : Address} (hw : Granted w subscriber)
    (htime : w.block.timestamp ≤ w'.block.timestamp)
    (hpaid : paidBy w'.journal subscriber = paidBy w.journal subscriber)
    (hactive : w'.state.subscription.subscriptionActiveUntil subscriber =
      w.state.subscription.subscriptionActiveUntil subscriber) : Granted w' subscriber := by
  constructor
  · rw [hpaid]
    exact fun p hp ↦ (hw.past p hp).trans htime
  · rw [granted, hpaid, hactive]
    exact hw.until_eq

theorem Small.granted {w w' : SettlementWorld T} (h : Small P T d w w') {subscriber : Address}
    (hw : Granted w subscriber) : Granted w' subscriber := by
  cases h with
  | tick b htime => exact hw.of_same htime rfl rfl
  | call msg op s _ _ heff =>
    cases heff with
    | token | access | disburse => exact hw.of_same le_rfl rfl rfl
    | administer op subscription hop hadmin =>
      refine hw.of_same le_rfl ?_ (congrFun hadmin.active_eq subscriber)
      cases op with
      | subscribe ref version => exact absurd rfl (hop ref version)
      | _ => rfl
    | subscribe ref version token activeUntil hsubscribes =>
      by_cases hsender : msg.sender = subscriber
      · subst hsender
        have hpaid : paidBy (⟨w.block, msg, .subscription (.subscribe ref version), w.state, none⟩ ::
            w.journal) msg.sender =
            (w.block.timestamp, (w.state.subscription.plan.duration : ℕ)) ::
              paidBy w.journal msg.sender := List.filterMap_cons_some (if_pos rfl)
        constructor
        · rw [hpaid, List.forall_mem_cons]
          exact ⟨le_rfl, hw.past⟩
        · rw [Settlement.granted, hpaid, List.forall_mem_cons, Period.lastEnd_renewals_cons]
          rintro ⟨htime, hbefore⟩
          have hactive := Function.update_self msg.sender activeUntil
            w.state.subscription.subscriptionActiveUntil
          calc
            _ = (activeUntil : ℕ) := congrArg Fin.val hactive
            _ = (boughtPeriod w.block.timestamp msg.sender w.state.subscription).startsAt +
                w.state.subscription.plan.duration := hsubscribes.until_eq
            _ = _ := by
              rw [boughtPeriod_startsAt htime, hw.until_eq hbefore]
              rfl
      · refine hw.of_same le_rfl (List.filterMap_cons_none (if_neg hsender)) ?_
        exact Function.update_of_ne (Ne.symm hsender) _ _

theorem ReachableFrom.granted {t₀ : T.State} {w : SettlementWorld T} (h : ReachableFrom P T d t₀ w)
    (subscriber : Address) : Granted w subscriber :=
  h.invariant (I := fun w ↦ Granted w subscriber)
    (fun _ _ ↦ ⟨fun _ hp ↦ (by cases hp), fun _ ↦ rfl⟩) fun _ _ hw hs ↦ hs.granted hw

theorem isActive_iff {b : Block} {subscriber : Address} {s : Subscription} :
    isActive b subscriber s = true ↔ b.timestamp ≤ s.subscriptionActiveUntil subscriber := by
  simp [isActive]

/-- At any time from the last transaction of a run on, a subscriber is active exactly in the periods that
its payments have granted, if and only if the time is not the end of the paid time, and no period that
was paid for at a time of more than 64 bits is still running. -/
theorem active_iff_granted {t₀ : T.State} {w : SettlementWorld T} (h : ReachableFrom P T d t₀ w)
    {b : Block} (hb : w.block.timestamp ≤ b.timestamp) (subscriber : Address) :
    (isActive b subscriber w.state.subscription = true ↔
        b.timestamp ∈ Period.covered (granted w.journal subscriber)) ↔
      b.timestamp ≠ w.state.subscription.subscriptionActiveUntil subscriber ∧
        ((∀ p ∈ paidBy w.journal subscriber, p.1 < 2 ^ 64) ∨
          Period.lastEnd (granted w.journal subscriber) ≤ b.timestamp) := by
  have hgranted := h.granted subscriber
  have hpast : ∀ p ∈ paidBy w.journal subscriber, p.1 ≤ b.timestamp :=
    fun p hp ↦ (hgranted.past p hp).trans hb
  rw [isActive_iff, Settlement.granted, Period.mem_covered_renewals hpast, ← Settlement.granted]
  by_cases hsmall : ∀ p ∈ paidBy w.journal subscriber, p.1 < 2 ^ 64
  · have huntil := hgranted.until_eq hsmall
    rw [and_iff_left (.inl hsmall)]
    omega
  · rw [or_iff_right hsmall]
    push Not at hsmall
    obtain ⟨p, hp, hlarge⟩ := hsmall
    have hlate : 2 ^ 64 ≤ b.timestamp := hlarge.trans (hpast p hp)
    have huntil := (w.state.subscription.subscriptionActiveUntil subscriber).isLt
    omega

/-- In the second period, and after it. -/
theorem active_iff_granted_sample :
    (isActive ⟨1099, 80002⟩ Sample.subscriber Sample.settled.state.subscription = true ↔
        1099 ∈ Period.covered (granted Sample.settled.journal Sample.subscriber)) ∧
      (isActive ⟨1101, 80002⟩ Sample.subscriber Sample.settled.state.subscription = true ↔
        1101 ∈ Period.covered (granted Sample.settled.journal Sample.subscriber)) := by
  constructor
  · exact (active_iff_granted Sample.reachable_settled (b := ⟨1099, 80002⟩) (by decide +kernel)
      Sample.subscriber).mpr (by decide +kernel)
  · exact (active_iff_granted Sample.reachable_settled (b := ⟨1101, 80002⟩) (by decide +kernel)
      Sample.subscriber).mpr (by decide +kernel)

/-- At the end of the last period the subscriber is still active. -/
theorem active_at_end :
    ReachableFrom Sample.primitives Sample.token Sample.deployment Sample.supply Sample.settled ∧
      Sample.settled.block.timestamp ≤ 1100 ∧
      granted Sample.settled.journal Sample.subscriber = [⟨1050, 1100⟩, ⟨1000, 1050⟩] ∧
      isActive ⟨1100, 80002⟩ Sample.subscriber Sample.settled.state.subscription = true ∧
      1100 ∉ Period.covered (granted Sample.settled.journal Sample.subscriber) :=
  ⟨Sample.reachable_settled, by decide +kernel, by decide +kernel, by decide +kernel,
    by decide +kernel⟩

end CreatorFirst.Settlement
