import CreatorFirst.Settlement.Effects
import CreatorFirst.Settlement.MockJPYC

/-!
# Accounts of the settlement

Every payment uses up its reference, moves the price of the plan version it names into the treasury
and buys one period that starts when the paid time of the subscriber ends, or at once. The treasury
holds what it has received, less what it has paid to others.
-/

namespace CreatorFirst.Settlement

open Chain Relation

variable {P : Primitives} {T : Erc20 Address} {d : Deployment}

/-! ## What the journal records -/

def paymentReference (e : SettlementEntry T) : Option Bytes32 :=
  match e.op with
  | .subscription (.subscribe paymentReference _) => some paymentReference
  | _ => none

def disbursementReference (e : SettlementEntry T) : Option Bytes32 :=
  match e.op with
  | .treasury (.disburse disbursementRef _ _ _) => some disbursementRef
  | _ => none

/-- The price that an entry has charged. -/
def charged (e : SettlementEntry T) : ℕ :=
  match e.op with
  | .subscription (.subscribe _ _) => e.before.subscription.plan.price
  | _ => 0

/-- The amount that an entry has paid from the treasury to someone else. -/
def disbursed (d : Deployment) (e : SettlementEntry T) : ℕ :=
  match e.op with
  | .treasury (.disburse _ _ recipient amount) => if recipient = d.treasury then 0 else amount
  | _ => 0

/-- The amount that a call of the token has brought the treasury. -/
def received (d : Deployment) (e : SettlementEntry T) : ℕ :=
  match e.op with
  | .token op => ((T.exec e.msg.sender op e.before.token).elim 0 fun token ↦
      T.balanceOf token d.treasury) - T.balanceOf e.before.token d.treasury
  | _ => 0

/-- The period that an entry has bought for the subscriber. -/
def bought (subscriber : Address) (e : SettlementEntry T) : Option Period :=
  match e.op with
  | .subscription (.subscribe _ _) =>
    if e.msg.sender = subscriber then
      some (boughtPeriod e.block.timestamp subscriber e.before.subscription)
    else none
  | _ => none

/-- The duration that an entry has charged the subscriber for. -/
def chargedDuration (subscriber : Address) (e : SettlementEntry T) : Option ℕ :=
  match e.op with
  | .subscription (.subscribe _ _) =>
    if e.msg.sender = subscriber then some e.before.subscription.plan.duration else none
  | _ => none

def periods (journal : List (SettlementEntry T)) (subscriber : Address) : List Period :=
  journal.filterMap (bought subscriber)

/-- Each period is as long as the duration of the plan that was charged. -/
theorem length_periods (journal : List (SettlementEntry T)) (subscriber : Address) :
    (periods journal subscriber).map Period.length =
      journal.filterMap (chargedDuration subscriber) := by
  rw [periods, List.map_filterMap]
  congr 1
  funext e
  unfold bought chargedDuration
  split
  · split
    · simp [boughtPeriod, Period.length]
    · rfl
  · rfl

/-! ## References -/

theorem Small.payments_marked {w w' : SettlementWorld T} (h : Small P T d w w')
    (hw : Marks w.state.subscription.usedPaymentReference (w.journal.filterMap paymentReference)) :
    Marks w'.state.subscription.usedPaymentReference
      (w'.journal.filterMap paymentReference) := by
  cases h with
  | tick => exact hw
  | call msg op s _ _ heff =>
    cases heff with
    | subscribe ref version token activeUntil hsubscribes =>
      exact hw.cons hsubscribes.reference_fresh
    | administer op subscription hop hadmin =>
      rw [List.filterMap_cons_none]
      · rw [hadmin.used_eq]
        exact hw
      · cases op with
        | subscribe ref version => exact absurd rfl (hop ref version)
        | _ => rfl
    | token | access | disburse => exact hw

theorem Small.disbursements_marked {w w' : SettlementWorld T} (h : Small P T d w w')
    (hw : Marks w.state.treasury.usedDisbursementReference
      (w.journal.filterMap disbursementReference)) :
    Marks w'.state.treasury.usedDisbursementReference
      (w'.journal.filterMap disbursementReference) := by
  cases h with
  | tick => exact hw
  | call msg op s _ _ heff =>
    cases heff with
    | disburse ref category recipient amount token hdisburses =>
      exact hw.cons hdisburses.reference_fresh
    | token | administer | subscribe | access => exact hw

/-! ## Balances -/

/-- The treasury's balance accounts for all that came in and went out since the state `t₀`. -/
structure Accounted (T : Erc20 Address) (d : Deployment) (t₀ : T.State) (w : SettlementWorld T) :
    Prop where
  unspent : Unspent T d w.state.token
  balance_eq : T.balanceOf w.state.token d.treasury + (w.journal.map (disbursed d)).sum =
    T.balanceOf t₀ d.treasury + (w.journal.map (received d)).sum + (w.journal.map charged).sum

theorem Small.accounted {t₀ : T.State} {w w' : SettlementWorld T} (h : Small P T d w w')
    (hw : Accounted T d t₀ w) : Accounted T d t₀ w' := by
  have hbalance := hw.balance_eq
  cases h with
  | tick => exact ⟨hw.unspent, hw.balance_eq⟩
  | call msg op s _ htreasury heff =>
    cases heff with
    | token op token htoken =>
      obtain ⟨hle, hunspent⟩ := T.others_keep htoken htreasury hw.unspent
      refine ⟨hunspent, ?_⟩
      simp only [List.map_cons, List.sum_cons, disbursed, received, charged, htoken,
        Option.elim_some]
      omega
    | administer op subscription hop =>
      refine ⟨hw.unspent, ?_⟩
      have hcharged : charged (⟨w.block, msg, .subscription op, w.state, none⟩ :
          SettlementEntry T) = 0 := by
        cases op with
        | subscribe ref version => exact absurd rfl (hop ref version)
        | _ => rfl
      simp only [List.map_cons, List.sum_cons, disbursed, received, hcharged]
      omega
    | subscribe ref version token activeUntil hsubscribes =>
      refine ⟨(T.others_keep hsubscribes.paid d.distinct hw.unspent).2, ?_⟩
      have hmoved := (T.transferFrom_moves hsubscribes.paid).recipient_eq htreasury
      simp only [List.map_cons, List.sum_cons, disbursed, received, charged,
        System.withPayment]
      omega
    | access op roles =>
      refine ⟨hw.unspent, ?_⟩
      simp only [List.map_cons, List.sum_cons, disbursed, received, charged]
      omega
    | disburse ref category recipient amount token hdisburses =>
      have hmoves := T.transfer_moves hdisburses.sent
      refine ⟨fun spender ↦ ?_, ?_⟩
      · change T.allowance token d.treasury spender = 0
        rw [T.transfer_allowance hdisburses.sent]
        exact hw.unspent spender
      · simp only [List.map_cons, List.sum_cons, disbursed, received, charged,
          System.withDisbursement]
        split
        · next hself =>
          subst hself
          have hsame := hmoves.self_eq d.treasury
          omega
        · next hother =>
          have hsent := hmoves.sender_eq (Ne.symm hother)
          omega

/-! ## Periods -/

/-- The paid time of a subscriber: its periods follow each other, and it ends with the last one. -/
structure PaidUp (w : SettlementWorld T) (subscriber : Address) : Prop where
  in_sequence : Period.InSequence (periods w.journal subscriber)
  forward : ∀ p ∈ periods w.journal subscriber, p.startsAt < p.endsAt
  until_eq : (w.state.subscription.subscriptionActiveUntil subscriber : ℕ) =
    ((periods w.journal subscriber).head?.map (·.endsAt)).getD 0

/-- A period is bought from now on or from the end of the paid time on, whichever is later. -/
theorem boughtPeriod_startsAt {t : ℕ} (ht : t < 2 ^ 64) (sender : Address) (s : Subscription) :
    (boughtPeriod t sender s).startsAt = max t (s.subscriptionActiveUntil sender) := by
  simp only [boughtPeriod, Nat.mod_eq_of_lt ht]
  split <;> omega

theorem boughtPeriod_endsAt (t : ℕ) (sender : Address) (s : Subscription) :
    (boughtPeriod t sender s).endsAt = (boughtPeriod t sender s).startsAt + s.plan.duration := rfl

theorem PaidUp.of_same {w w' : SettlementWorld T} {subscriber : Address} (hw : PaidUp w subscriber)
    (hperiods : periods w'.journal subscriber = periods w.journal subscriber)
    (hactive : w'.state.subscription.subscriptionActiveUntil subscriber =
      w.state.subscription.subscriptionActiveUntil subscriber) : PaidUp w' subscriber := by
  constructor
  · rw [hperiods]
    exact hw.in_sequence
  · rw [hperiods]
    exact hw.forward
  · rw [hperiods, hactive]
    exact hw.until_eq

/-- A period that begins no earlier than the paid time ends. -/
theorem PaidUp.extended {w w' : SettlementWorld T} {subscriber : Address} (hw : PaidUp w subscriber)
    {p : Period} (hperiods : periods w'.journal subscriber = p :: periods w.journal subscriber)
    (hstart : (w.state.subscription.subscriptionActiveUntil subscriber : ℕ) ≤ p.startsAt)
    (hforward : p.startsAt < p.endsAt)
    (hactive : (w'.state.subscription.subscriptionActiveUntil subscriber : ℕ) = p.endsAt) :
    PaidUp w' subscriber := by
  constructor
  · rw [hperiods]
    refine hw.in_sequence.cons (fun q hq ↦ (hw.forward q hq).le) fun q hq ↦ ?_
    have hlast := hw.until_eq
    rw [hq, Option.map_some, Option.getD_some] at hlast
    exact hlast ▸ hstart
  · rw [hperiods, List.forall_mem_cons]
    exact ⟨hforward, hw.forward⟩
  · rw [hperiods, hactive, List.head?_cons, Option.map_some, Option.getD_some]

theorem Small.paidUp {w w' : SettlementWorld T} (h : Small P T d w w')
    (htime : w.block.timestamp < 2 ^ 64) {subscriber : Address} (hw : PaidUp w subscriber) :
    PaidUp w' subscriber := by
  cases h with
  | tick => exact hw.of_same rfl rfl
  | call msg op s _ _ heff =>
    cases heff with
    | token | access | disburse => exact hw.of_same rfl rfl
    | administer op subscription hop hadmin =>
      refine hw.of_same ?_ (congrFun hadmin.active_eq subscriber)
      cases op with
      | subscribe ref version => exact absurd rfl (hop ref version)
      | _ => rfl
    | subscribe ref version token activeUntil hsubscribes =>
      by_cases hsender : msg.sender = subscriber
      · subst hsender
        have hstart := boughtPeriod_startsAt htime msg.sender w.state.subscription
        have hend := boughtPeriod_endsAt w.block.timestamp msg.sender w.state.subscription
        have hduration := Uint.pos_of_ne_zero hsubscribes.duration_ne
        refine hw.extended (p := boughtPeriod w.block.timestamp msg.sender w.state.subscription)
          (List.filterMap_cons_some (if_pos rfl)) (by omega) (by omega) ?_
        have hactive := Function.update_self msg.sender activeUntil
          w.state.subscription.subscriptionActiveUntil
        exact (congrArg Fin.val hactive).trans hsubscribes.until_eq
      · refine hw.of_same (List.filterMap_cons_none (if_neg hsender)) ?_
        exact Function.update_of_ne (Ne.symm hsender) _ _

/-! ## Plan versions -/

/-- The plan of the moment and the plans that the entries found, newest first. -/
def plans (w : SettlementWorld T) : List Plan :=
  w.state.subscription.plan :: w.journal.map fun e ↦ e.before.subscription.plan

/-- Newest first, a plan is the older one or has a later version. -/
def Succeeds (newer older : Plan) : Prop := older = newer ∨ older.version < newer.version

theorem Small.plan_change {w w' : SettlementWorld T} (h : Small P T d w w') :
    plans w' = plans w ∨ ∃ plan, plans w' = plan :: plans w ∧
      Succeeds plan w.state.subscription.plan := by
  cases h with
  | tick => exact .inl rfl
  | call msg op s _ _ heff =>
    cases heff with
    | token | subscribe | access | disburse => exact .inr ⟨_, rfl, .inl rfl⟩
    | administer op subscription hop hadmin =>
      refine .inr ⟨_, rfl, ?_⟩
      obtain hsame | hnext := hadmin.plan
      · exact .inl hsame.symm
      · exact .inr (Fin.lt_def.mpr ((Nat.lt_succ_self _).trans_eq hnext.symm))

theorem Small.plans_succeed {w w' : SettlementWorld T} (h : Small P T d w w')
    (hw : (plans w).Pairwise Succeeds) : (plans w').Pairwise Succeeds := by
  obtain hsame | ⟨plan, hcons, hplan⟩ := h.plan_change
  · rwa [hsame]
  · rw [hcons]
    refine List.pairwise_cons.mpr ⟨fun older holder ↦ ?_, hw⟩
    obtain rfl | hmem := List.mem_cons.mp holder
    · exact hplan
    · have hcurrent := (List.pairwise_cons.mp hw).1 older hmem
      obtain rfl | hlt := hplan
      · exact hcurrent
      · obtain rfl | hlt' := hcurrent
        · exact .inr hlt
        · exact .inr (hlt'.trans hlt)

/-- A version stands for one plan. -/
theorem plan_eq_of_version {l : List Plan} (h : l.Pairwise Succeeds) {x y : Plan} (hx : x ∈ l)
    (hy : y ∈ l) (hversion : x.version = y.version) : x = y := by
  have hsymm : Std.Symm fun x y : Plan ↦ x.version = y.version → x = y :=
    { symm a b hab heq := (hab heq.symm).symm }
  have hpairwise : l.Pairwise fun x y ↦ x.version = y.version → x = y := by
    refine h.imp ?_
    intro newer older hsucceeds heq
    obtain rfl | hlt := hsucceeds
    · rfl
    · exact absurd heq hlt.ne'
  exact hpairwise.forall_of_forall (fun _ _ _ ↦ rfl) hx hy hversion

/-! ## Every run -/

/-- What holds of the settlement at any time, in a run over the token's first state `t₀`. -/
structure SettlementSafe (T : Erc20 Address) (d : Deployment) (t₀ : T.State)
    (w : SettlementWorld T) : Prop where
  payments : Marks w.state.subscription.usedPaymentReference (w.journal.filterMap paymentReference)
  disbursements : Marks w.state.treasury.usedDisbursementReference
    (w.journal.filterMap disbursementReference)
  balance_eq : assetBalance d w.state + (w.journal.map (disbursed d)).sum =
    T.balanceOf t₀ d.treasury + (w.journal.map (received d)).sum + (w.journal.map charged).sum
  one_plan : ∀ x ∈ plans w, ∀ y ∈ plans w, x.version = y.version → x = y
  paid_up : ∀ subscriber, PaidUp w subscriber
  paid_time : ∀ subscriber, (Period.covered (periods w.journal subscriber)).card =
    (w.journal.filterMap (chargedDuration subscriber)).sum
  active : ∀ subscriber, ∀ p ∈ periods w.journal subscriber, w.block.timestamp < p.endsAt →
    isActive w.block subscriber w.state.subscription = true

theorem ReachableFrom.accounted {t₀ : T.State} {w : SettlementWorld T}
    (h : ReachableFrom P T d t₀ w) : Accounted T d t₀ w :=
  h.invariant (I := Accounted T d t₀) (fun hunspent _ ↦ ⟨hunspent, rfl⟩) fun _ _ hw hs ↦
    hs.accounted hw

theorem ReachableFrom.paidUp {t₀ : T.State} {w : SettlementWorld T} (h : ReachableFrom P T d t₀ w)
    (htime : w.block.timestamp < 2 ^ 64) (subscriber : Address) : PaidUp w subscriber :=
  h.invariant (I := fun w ↦ w.block.timestamp < 2 ^ 64 → PaidUp w subscriber)
    (fun _ _ _ ↦ ⟨List.Pairwise.nil, fun _ hp ↦ (by cases hp), rfl⟩)
    (fun _ _ hw hs htime ↦ by
      have hearlier := hs.timestamp_le.trans_lt htime
      exact hs.paidUp hearlier (hw hearlier)) htime

theorem ReachableFrom.plans_succeed {t₀ : T.State} {w : SettlementWorld T}
    (h : ReachableFrom P T d t₀ w) : (plans w).Pairwise Succeeds :=
  h.invariant (I := fun w ↦ (plans w).Pairwise Succeeds)
    (fun _ _ ↦ List.pairwise_singleton _ _) fun _ _ hw hs ↦ hs.plans_succeed hw

/-- No period of a subscriber ends after its paid time. -/
theorem PaidUp.endsAt_le {w : SettlementWorld T} {subscriber : Address} (h : PaidUp w subscriber)
    {p : Period} (hp : p ∈ periods w.journal subscriber) :
    p.endsAt ≤ w.state.subscription.subscriptionActiveUntil subscriber := by
  have hlast := h.until_eq
  have hsequence := h.in_sequence
  have hforward := h.forward
  cases hperiods : periods w.journal subscriber with
  | nil =>
    rw [hperiods] at hp
    cases hp
  | cons q rest =>
    rw [hperiods] at hp hlast hsequence hforward
    simp only [List.head?_cons, Option.map_some, Option.getD_some] at hlast
    obtain rfl | hrest := List.mem_cons.mp hp
    · exact hlast.ge
    · have hbefore := (List.pairwise_cons.mp hsequence).1 p hrest
      have hq := hforward q List.mem_cons_self
      omega

theorem ReachableFrom.settlementSafe {t₀ : T.State} {w : SettlementWorld T}
    (h : ReachableFrom P T d t₀ w) (htime : w.block.timestamp < 2 ^ 64) :
    SettlementSafe T d t₀ w where
  payments := h.invariant (I := fun w ↦ Marks w.state.subscription.usedPaymentReference
    (w.journal.filterMap paymentReference)) (fun _ _ ↦ marks_nil) fun _ _ hw hs ↦
      hs.payments_marked hw
  disbursements := h.invariant (I := fun w ↦ Marks w.state.treasury.usedDisbursementReference
    (w.journal.filterMap disbursementReference)) (fun _ _ ↦ marks_nil) fun _ _ hw hs ↦
      hs.disbursements_marked hw
  balance_eq := h.accounted.balance_eq
  one_plan _ hx _ hy := plan_eq_of_version h.plans_succeed hx hy
  paid_up := h.paidUp htime
  paid_time subscriber := by
    rw [Period.card_covered (h.paidUp htime subscriber).in_sequence, length_periods]
  active subscriber p hp hlt := by
    have hle := (h.paidUp htime subscriber).endsAt_le hp
    exact decide_eq_true (hlt.le.trans hle)

/-- What a successful payment changes. -/
structure Grants (T : Erc20 Address) (d : Deployment) (b : Block) (sender : Address)
    (paymentReference : Bytes32) (expectedPlanVersion : Uint 64) (s s' : System T) : Prop where
  reference_fresh : s.subscription.usedPaymentReference paymentReference = false
  version_eq : s.subscription.plan.version = expectedPlanVersion
  moves : Moves s.subscription.plan.price sender d.treasury (T.balanceOf s.token)
    (T.balanceOf s'.token)
  startsAt_eq : (boughtPeriod b.timestamp sender s.subscription).startsAt =
    max b.timestamp (s.subscription.subscriptionActiveUntil sender)
  endsAt_eq : (boughtPeriod b.timestamp sender s.subscription).endsAt =
    (boughtPeriod b.timestamp sender s.subscription).startsAt + s.subscription.plan.duration
  until_eq : (s'.subscription.subscriptionActiveUntil sender : ℕ) =
    (boughtPeriod b.timestamp sender s.subscription).endsAt
  increases : s.subscription.subscriptionActiveUntil sender <
    s'.subscription.subscriptionActiveUntil sender
  others_eq : ∀ a, a ≠ sender →
    s'.subscription.subscriptionActiveUntil a = s.subscription.subscriptionActiveUntil a

theorem Small.grants {w w' : SettlementWorld T} (h : Small P T d w w')
    (htime : w.block.timestamp < 2 ^ 64) {msg : Msg} {paymentReference : Bytes32}
    {version : Uint 64}
    (hjournal : w'.journal = ⟨w.block, msg, .subscription (.subscribe paymentReference version),
      w.state, none⟩ :: w.journal) :
    Grants T d w.block msg.sender paymentReference version w.state w'.state := by
  cases h with
  | tick => exact absurd (congrArg List.length hjournal) (by simp)
  | call msg' op s _ _ heff =>
    have hentry := (List.cons.inj hjournal).1
    simp only [Entry.mk.injEq, true_and, and_true] at hentry
    obtain ⟨rfl, rfl⟩ := hentry
    cases heff with
    | administer op subscription hop => exact absurd rfl (hop _ _)
    | subscribe _ _ token activeUntil hsubscribes =>
      have hstart := boughtPeriod_startsAt htime msg'.sender w.state.subscription
      have hend := boughtPeriod_endsAt w.block.timestamp msg'.sender w.state.subscription
      have huntil := hsubscribes.until_eq
      have hduration := Uint.pos_of_ne_zero hsubscribes.duration_ne
      refine ⟨hsubscribes.reference_fresh, hsubscribes.version_eq,
        T.transferFrom_moves hsubscribes.paid, hstart, hend, ?_, ?_, fun a ha ↦ ?_⟩
      · simpa [System.withPayment] using huntil
      · simp only [System.withPayment, Function.update_self]
        exact Fin.lt_def.mpr (by omega)
      · simp only [System.withPayment, Function.update_of_ne ha]

/-- What a payment is refused for. -/
def Refused (T : Erc20 Address) (d : Deployment) (sender : Address) (paymentReference : Bytes32)
    (expectedPlanVersion : Uint 64) (s : System T) : Prop :=
  s.subscription.paused = true ∨ s.subscription.plan.enabled = false ∨
    s.subscription.plan.version ≠ expectedPlanVersion ∨ paymentReference = 0 ∨
    s.subscription.usedPaymentReference paymentReference = true ∨
    T.exec d.subscription (T.transferFrom sender d.treasury s.subscription.plan.price) s.token = none

theorem Refused.not_ok {b : Block} {msg : Msg} {paymentReference : Bytes32} {version : Uint 64}
    {s : System T} (h : Refused T d msg.sender paymentReference version s)
    (o : Outcome (System T) Empty) :
    (contract P T d).call b msg (.subscription (.subscribe paymentReference version)) s ≠ .ok o := by
  intro ho
  obtain ⟨s', -, -, heff, -⟩ := call_eq_ok ho
  cases heff with
  | administer _ _ hop => exact hop _ _ rfl
  | subscribe _ _ token activeUntil hsubscribes =>
    obtain h | h | h | h | h | h := h
    · exact absurd (hsubscribes.not_paused.symm.trans h) (by decide)
    · exact absurd (hsubscribes.enabled.symm.trans h) (by decide)
    · exact h hsubscribes.version_eq
    · exact hsubscribes.reference_ne h
    · exact absurd (hsubscribes.reference_fresh.symm.trans h) (by decide)
    · exact absurd (hsubscribes.paid.symm.trans h) (by simp)

/-- In every run references are used once, money and paid time add up, a payment moves the price of
the plan that the caller expected and buys one period, and whatever reverts changes nothing. -/
theorem settlement_safe (t₀ : T.State) :
    (∀ w, ReachableFrom P T d t₀ w → w.block.timestamp < 2 ^ 64 → SettlementSafe T d t₀ w) ∧
    (∀ w w', ReachableFrom P T d t₀ w → (contract P T d).Micro w w' →
      w.block.timestamp < 2 ^ 64 → ∀ msg paymentReference version,
      w'.journal = ⟨w.block, msg, .subscription (.subscribe paymentReference version), w.state,
        none⟩ :: w.journal →
      Grants T d w.block msg.sender paymentReference version w.state w'.state) ∧
    (∀ b msg paymentReference version s, Refused T d msg.sender paymentReference version s →
      ∀ o, (contract P T d).call b msg (.subscription (.subscribe paymentReference version)) s ≠
        .ok o) ∧
    ∀ (w : SettlementWorld T) (tx : SettlementTx T),
      (∀ o, (contract P T d).call tx.block tx.msg tx.op w.state ≠ .ok o) →
      (contract P T d).transact tx w = { w with block := tx.block } := by
  refine ⟨fun w hw htime ↦ hw.settlementSafe htime,
    fun w w' _ hm htime msg ref version hjournal ↦ (micro_small hm).grants htime hjournal,
    fun b msg ref version s hrefused ↦ hrefused.not_ok, fun w tx hfails ↦ ?_⟩
  obtain ⟨e, he⟩ : ∃ e, (contract P T d).attempt tx.msg tx.op tx.inner tx.success
      { w with block := tx.block } = .error e := Contract.attempt_error_of_call hfails
  exact Contract.transact_of_error he

/-! ## A small run

A subscriber pays for two periods, someone sends the treasury a gift, and a creator is paid. -/

namespace Sample

def admin : Address := 1
def subscriber : Address := 2
def creator : Address := 3

def hashes : List (Bytes × Bytes32) :=
  [(utf8 "PLAN_MANAGER_ROLE", 0x04ab83a1b94c60762723c1f251ce5904e062d5f4468adda724622756e2361b65),
   (utf8 "PAUSER_ROLE", 0x65d7a28e3265b37a6474929f336521b332c1681b933f6cb9f3376673440d862a),
   (utf8 "DISBURSER_ROLE", 0x83b1a44decfa848e00bb3100d7cc1596f7f72453e6ae10ceea99dc7cd75046f0),
   (utf8 "FAUCET_ROLE", 0xaecf5761d3ba769b4631978eb26cb84eae66bcaca9c3f0f4ecde3feb2f4cf144)]

def primitives : Primitives where
  keccak256 x := (hashes.lookup x).getD 0
  recover _ _ := none
  verifyProof _ _ _ := false

def token : Erc20 Address := MockJPYC.token primitives

theorem asset_ne : (0x1000 : Address) ≠ 0 := by decide

def deployment : Deployment where
  asset := 0x1000
  subscription := 0x2000
  treasury := 0x3000
  admin := admin
  planManager := admin
  treasuryAdmin := admin
  disburser := admin
  initialPrice := 100
  initialDuration := 50
  asset_ne := asset_ne
  treasury_ne := by decide
  admin_ne := by decide
  planManager_ne := by decide
  treasuryAdmin_ne := by decide
  disburser_ne := by decide
  price_ne := by decide
  duration_ne := by decide
  distinct := by decide

def tx (timestamp : ℕ) (sender : Address) (op : Op token) : SettlementTx token :=
  { block := ⟨timestamp, 80002⟩, msg := ⟨sender, 0⟩, op }

def tokenTx (timestamp : ℕ) (sender : Address) (op : MockJPYC.Op) : SettlementTx token :=
  tx timestamp sender (.token op)

def payment (timestamp : ℕ) (paymentReference : Bytes32) : SettlementTx token :=
  tx timestamp subscriber (.subscription (.subscribe paymentReference 1))

def history : List (SettlementTx token) :=
  [tokenTx 1000 admin (.transfer subscriber 500),
   tokenTx 1000 subscriber (.approve 0x2000 500),
   payment 1000 71,
   payment 1020 72,
   tokenTx 1030 admin (.transfer 0x3000 30),
   tx 1040 admin (.treasury (.disburse 81 .creator creator 150))]

def supply : token.State := MockJPYC.initialState primitives admin 1000

/-- The world after the history. -/
def settled : SettlementWorld token :=
  (contract primitives token deployment).run history
    (genesis primitives token deployment ⟨900, 80002⟩ supply)

theorem reachable_settled : ReachableFrom primitives token deployment supply settled :=
  ⟨fun _ ↦ rfl, ⟨900, 80002⟩, Contract.reaches_run (by decide)⟩

end Sample

/-- The two periods follow each other, the treasury keeps the rest, and a reference is not taken
twice. -/
theorem settlement_safe_sample :
    SettlementSafe Sample.token Sample.deployment Sample.supply Sample.settled ∧
    assetBalance Sample.deployment Sample.settled.state = 80 ∧
    periods Sample.settled.journal Sample.subscriber = [⟨1050, 1100⟩, ⟨1000, 1050⟩] ∧
    (contract Sample.primitives Sample.token Sample.deployment).transact (Sample.payment 1050 71)
        Sample.settled = { Sample.settled with block := ⟨1050, 80002⟩ } := by
  obtain ⟨hsafe, -, hrefused, hreverts⟩ :=
    settlement_safe (P := Sample.primitives) (d := Sample.deployment) Sample.supply
  refine ⟨hsafe _ Sample.reachable_settled (by decide +kernel), by decide +kernel,
    by decide +kernel, hreverts _ (Sample.payment 1050 71) (hrefused _ _ _ _ _ ?_)⟩
  have hused : Sample.settled.state.subscription.usedPaymentReference 71 = true := by
    decide +kernel
  exact .inr (.inr (.inr (.inr (.inl hused))))

end CreatorFirst.Settlement
