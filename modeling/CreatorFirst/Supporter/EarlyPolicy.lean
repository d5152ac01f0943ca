import CreatorFirst.Supporter.Steps

/-!
# Early slots

A creator's counter of early slots is the number of credentials that were ever issued as early ones,
whatever became of them and of the policy since. A registration takes a slot exactly when the policy
of the moment offers one, and what its credential records was in force then and stays.
-/

namespace CreatorFirst.Supporter

open Chain Relation

variable {P : Primitives} {T : Erc721 Address (Uint 256)} {d : Deployment} {b : Block}
  {sender : Address} {s s' : State T}

/-! ## What the counters count -/

def Credential.EarlyFor (c : Credential) (creatorId : Bytes32) : Prop :=
  c.creatorId = creatorId ∧ c.tier = .earlySupporter

instance (c : Credential) (creatorId : Bytes32) : Decidable (c.EarlyFor creatorId) :=
  inferInstanceAs (Decidable (_ ∧ _))

/-- How many of the credentials ever issued are early ones of the creator. -/
def earlyCredentials (w : SupporterWorld T) (creatorId : Bytes32) : ℕ :=
  (issuedIds w.journal).countP fun t ↦ (w.state.credentials t).EarlyFor creatorId

/-- The creator whose policy the operation sets. -/
def Op.policyOf : Op → Option Bytes32
  | .setEarlyPolicy creatorId .. => some creatorId
  | _ => none

/-- How often the creator's policy was set. -/
def policySettings (journal : List (SupporterEntry T)) (creatorId : Bytes32) : ℕ :=
  journal.countP fun e ↦ e.op.policyOf = some creatorId

theorem Op.policyOf_of_intent {op : Op} {v : SupportIntent × Bytes}
    (h : op.intent sender = some v) : op.policyOf = none := by
  cases op with
  | registerSupporterWithSignature | registerSelf => rfl
  | _ => cases h

theorem Op.policyOf_of_administrative {op : Op} (h : op.administrative = true) :
    op.policyOf = none := by
  cases op with
  | access | approve | setApprovalForAll | setMetadataUris => rfl
  | _ => cases h

theorem policySettings_cons_of_none {e : SupporterEntry T} (h : e.op.policyOf = none)
    (journal : List (SupporterEntry T)) (creatorId : Bytes32) :
    policySettings (e :: journal) creatorId = policySettings journal creatorId :=
  List.countP_cons_of_neg (by simp [h])

theorem policySettings_cons_of_some {e : SupporterEntry T} {x : Bytes32}
    (h : e.op.policyOf = some x) (journal : List (SupporterEntry T)) (creatorId : Bytes32) :
    policySettings (e :: journal) creatorId =
      policySettings journal creatorId + if creatorId = x then 1 else 0 := by
  unfold policySettings
  rw [List.countP_cons, h]
  simp [eq_comm]

/-! ## One step -/

/-- A record keeps its creator and tier as long as the id was given out before. -/
theorem Advances.earlyFor_iff (h : Advances s s') {t : Uint 256} (ht : s.Issued t)
    (creatorId : Bytes32) :
    (s'.credentials t).EarlyFor creatorId ↔ (s.credentials t).EarlyFor creatorId := by
  have hrecorded := h.recorded t ht
  have hcreator := congrArg Credential.creatorId hrecorded
  have htier := congrArg Credential.tier hrecorded
  simp only at hcreator htier
  rw [Credential.EarlyFor, Credential.EarlyFor, hcreator, htier]

theorem isEarly_iff {policy : EarlyPolicy} : isEarly b policy = true ↔
    policy.active = true ∧ b.timestamp ≤ (policy.earlyUntil : ℕ) ∧
      (policy.earlyIssued : ℕ) < policy.maxEarlySupporters := by
  simp [isEarly, and_assoc]

theorem earlyFor_issue {x creatorId : Bytes32} :
    (s.issue b x).EarlyFor creatorId ↔
      creatorId = x ∧ isEarly b (s.earlyPolicies x) = true := by
  unfold Credential.EarlyFor State.issue State.tierNow
  split
  · next hearly => simp [hearly, eq_comm]
  · next hearly => simp [hearly]

/-- The counters of a world: slots taken and policies set. -/
structure Counted (w : SupporterWorld T) : Prop where
  issued_eq : ∀ creatorId,
    ((w.state.earlyPolicies creatorId).earlyIssued : ℕ) = earlyCredentials w creatorId
  version_eq : ∀ creatorId,
    ((w.state.earlyPolicies creatorId).version : ℕ) = policySettings w.journal creatorId

/-- Without a new id the number of early credentials stays. -/
theorem earlyCredentials_of_same {w w' : SupporterWorld T} (hw : InOrder w)
    (h : Advances w.state w'.state) (hids : issuedIds w'.journal = issuedIds w.journal)
    (creatorId : Bytes32) : earlyCredentials w' creatorId = earlyCredentials w creatorId := by
  unfold earlyCredentials
  rw [hids]
  refine List.countP_congr fun t ht ↦ ?_
  simpa using h.earlyFor_iff ((hw.mem_iff t).mp ht) creatorId

/-- A new id adds one when its record is an early one of the creator. -/
theorem earlyCredentials_of_new {w w' : SupporterWorld T} (hw : InOrder w)
    (h : Advances w.state w'.state) {t : Uint 256}
    (hids : issuedIds w'.journal = t :: issuedIds w.journal) (creatorId : Bytes32) :
    earlyCredentials w' creatorId = earlyCredentials w creatorId +
      if (w'.state.credentials t).EarlyFor creatorId then 1 else 0 := by
  unfold earlyCredentials
  rw [hids, List.countP_cons]
  have hrest : (issuedIds w.journal).countP
      (fun t ↦ (w'.state.credentials t).EarlyFor creatorId) =
        (issuedIds w.journal).countP fun t ↦ (w.state.credentials t).EarlyFor creatorId := by
    refine List.countP_congr fun t ht ↦ ?_
    simpa using h.earlyFor_iff ((hw.mem_iff t).mp ht) creatorId
  rw [hrest]
  simp

/-- A call that issues nothing and sets no policy moves no counter. -/
theorem Counted.of_same {w w' : SupporterWorld T} (hw : Counted w) (hids : InOrder w)
    (h : Advances w.state w'.state) (hpolicies : w'.state.earlyPolicies = w.state.earlyPolicies)
    {e : SupporterEntry T} (hjournal : w'.journal = e :: w.journal) (hid : issuedId e = none)
    (hop : e.op.policyOf = none) : Counted w' where
  issued_eq creatorId := by
    have hsame : issuedIds w'.journal = issuedIds w.journal := by
      rw [hjournal]
      exact List.filterMap_cons_none hid
    calc ((w'.state.earlyPolicies creatorId).earlyIssued : ℕ)
        = (w.state.earlyPolicies creatorId).earlyIssued := by rw [hpolicies]
      _ = earlyCredentials w creatorId := hw.issued_eq creatorId
      _ = earlyCredentials w' creatorId := (earlyCredentials_of_same hids h hsame creatorId).symm
  version_eq creatorId := by
    calc ((w'.state.earlyPolicies creatorId).version : ℕ)
        = (w.state.earlyPolicies creatorId).version := by rw [hpolicies]
      _ = policySettings w.journal creatorId := hw.version_eq creatorId
      _ = policySettings w'.journal creatorId := by
        rw [hjournal, policySettings_cons_of_none hop]

theorem Small.counted {w w' : SupporterWorld T} (hw : Counted w) (hids : InOrder w)
    (h : Small P T d w w') : Counted w' := by
  have hadvances := h.advances
  cases h with
  | tick | resume => exact ⟨hw.issued_eq, hw.version_eq⟩
  | call msg op s callout heff =>
    cases heff with
    | administer op s' hop hadmin =>
      exact hw.of_same hids hadvances hadmin.earlyPolicies rfl
        (by simp [issuedId, Op.intent_of_administrative hop]) (Op.policyOf_of_administrative hop)
    | revoke t => exact hw.of_same hids hadvances (State.deactivate_earlyPolicies ..) rfl rfl rfl
    | burn t => exact hw.of_same hids hadvances (State.deactivate_earlyPolicies ..) rfl rfl rfl
    | setEarlyPolicy x earlyUntil cap active version hversion =>
      constructor
      · intro creatorId
        rw [earlyCredentials_of_same hids hadvances (List.filterMap_cons_none rfl),
          ← hw.issued_eq creatorId]
        by_cases hx : creatorId = x
        · subst hx
          simp
        · simp [hx]
      · intro creatorId
        rw [policySettings_cons_of_some rfl, ← hw.version_eq creatorId]
        by_cases hx : creatorId = x
        · subst hx
          simpa using hversion
        · simp [hx]
    | register op v signature nonce earlyIssued nextTokenId tokens hop _ hregisters =>
      constructor
      · intro creatorId
        have hrecord : (w.state.withCredential w.block v nonce earlyIssued nextTokenId
            tokens).credentials w.state.nextTokenId = w.state.issue w.block v.creatorId :=
          Function.update_self ..
        rw [earlyCredentials_of_new hids hadvances (t := w.state.nextTokenId)
          (List.filterMap_cons_some (by simp [issuedId, hop])), ← hw.issued_eq creatorId]
        simp only [hrecord, earlyFor_issue]
        by_cases hx : creatorId = v.creatorId
        · subst hx
          simpa [State.withCredential] using hregisters.earlyIssued_eq
        · simp [State.withCredential, hx]
      · intro creatorId
        rw [policySettings_cons_of_none (Op.policyOf_of_intent hop), ← hw.version_eq creatorId]
        by_cases hx : creatorId = v.creatorId
        · subst hx
          simp [State.withCredential]
        · simp [State.withCredential, hx]

theorem Observable.counted {w : SupporterWorld T} (h : Observable P T d w) : Counted w :=
  h.invariant (I := Counted) (fun _ ↦ ⟨fun _ ↦ rfl, fun _ ↦ rfl⟩) fun _ _ hv hw hs ↦
    hs.counted hw hv.inOrder

/-! ## What was in force at the issue -/

/-- The record that the registration `e` of the intent `v` leaves, by the policy it found. -/
structure IssuedBy (e : SupporterEntry T) (v : SupportIntent) (c : Credential) : Prop where
  creator : c.creatorId = v.creatorId
  early_iff : c.tier = .earlySupporter ↔ (e.before.earlyPolicies v.creatorId).active = true ∧
    e.block.timestamp ≤ ((e.before.earlyPolicies v.creatorId).earlyUntil : ℕ) ∧
    (e.before.earlyPolicies v.creatorId).earlyIssued <
      (e.before.earlyPolicies v.creatorId).maxEarlySupporters
  tier : c.tier = .supporter ∨ c.tier = .earlySupporter
  version : c.policyVersion = (e.before.earlyPolicies v.creatorId).version

theorem issuedBy_issue {e : SupporterEntry T} {v : SupportIntent} :
    IssuedBy e v (e.before.issue e.block v.creatorId) where
  creator := rfl
  early_iff := by
    have hearly : (e.before.issue e.block v.creatorId).EarlyFor v.creatorId ↔
        v.creatorId = v.creatorId ∧ isEarly e.block (e.before.earlyPolicies v.creatorId) = true :=
      earlyFor_issue
    rw [isEarly_iff] at hearly
    exact ⟨fun htier ↦ (hearly.mp ⟨rfl, htier⟩).2, fun hopen ↦ (hearly.mpr ⟨rfl, hopen⟩).2⟩
  tier := by
    change State.tierNow _ _ _ = _ ∨ State.tierNow _ _ _ = _
    unfold State.tierNow
    split
    · exact .inr rfl
    · exact .inl rfl
  version := rfl

/-- Only the activity of a record may differ. -/
theorem IssuedBy.of_recorded {e : SupporterEntry T} {v : SupportIntent} {c c' : Credential}
    (h : IssuedBy e v c) (hrecorded : { c' with active := c.active } = c) : IssuedBy e v c' := by
  rw [← hrecorded] at h
  exact ⟨h.creator, h.early_iff, h.tier, h.version⟩

/-- The records are those that the registrations of the journal left. -/
def Recorded (w : SupporterWorld T) : Prop :=
  ∀ e ∈ w.journal, ∀ v signature, e.op.intent e.msg.sender = some (v, signature) →
    IssuedBy e v (w.state.credentials e.before.nextTokenId)

theorem mem_issuedIds {journal : List (SupporterEntry T)} {e : SupporterEntry T}
    (he : e ∈ journal) {v : SupportIntent × Bytes} (hop : e.op.intent e.msg.sender = some v) :
    e.before.nextTokenId ∈ issuedIds journal :=
  List.mem_filterMap.mpr ⟨e, he, by simp [issuedId, hop]⟩

theorem Small.recorded {w w' : SupporterWorld T} (hw : Recorded w) (hids : InOrder w)
    (h : Small P T d w w') : Recorded w' := by
  have hadvances := h.advances
  have hold : ∀ e ∈ w.journal, ∀ v signature, e.op.intent e.msg.sender = some (v, signature) →
      IssuedBy e v (w'.state.credentials e.before.nextTokenId) := by
    intro e he v signature hop
    have hissued := (hids.mem_iff _).mp (mem_issuedIds he hop)
    exact (hw e he v signature hop).of_recorded (hadvances.recorded _ hissued)
  cases h with
  | tick | resume => exact hold
  | call msg op s callout heff =>
    intro e he v signature hop
    obtain rfl | he := List.mem_cons.mp he
    · cases heff with
      | administer op s' hadministrative =>
        rw [Op.intent_of_administrative hadministrative] at hop
        cases hop
      | setEarlyPolicy | revoke | burn => cases hop
      | register op v₀ signature₀ nonce earlyIssued nextTokenId tokens hop₀ =>
        obtain ⟨rfl, -⟩ := Prod.mk.inj (Option.some.inj (hop₀.symm.trans hop))
        have hrecord : (w.state.withCredential w.block v₀ nonce earlyIssued nextTokenId
            tokens).credentials w.state.nextTokenId = w.state.issue w.block v₀.creatorId :=
          Function.update_self ..
        rw [hrecord]
        exact issuedBy_issue
    · exact hold e he v signature hop

theorem Observable.recorded {w : SupporterWorld T} (h : Observable P T d w) : Recorded w :=
  h.invariant (I := Recorded) (fun _ _ he ↦ (by cases he)) fun _ _ hv hw hs ↦
    hs.recorded hw hv.inOrder

/-! ## Every run -/

/-- What one call does to the slots and the versions. -/
structure SlotRules (e : SupporterEntry T) (s' : State T) : Prop where
  within_cap : ∀ v signature, e.op.intent e.msg.sender = some (v, signature) →
    (s'.credentials e.before.nextTokenId).tier = .earlySupporter →
    (s'.earlyPolicies v.creatorId).earlyIssued ≤ (s'.earlyPolicies v.creatorId).maxEarlySupporters
  version_lt : ∀ creatorId earlyUntil cap active,
    e.op = .setEarlyPolicy creatorId earlyUntil cap active →
    (e.before.earlyPolicies creatorId).version < (s'.earlyPolicies creatorId).version

theorem Small.slotRules {w w' : SupporterWorld T} (h : Small P T d w w') {e : SupporterEntry T}
    (hjournal : w'.journal = e :: w.journal) : SlotRules e w'.state := by
  cases h with
  | tick | resume => exact absurd (congrArg List.length hjournal) (by simp)
  | call msg op s callout heff =>
    obtain rfl := (List.cons.inj hjournal).1
    cases heff with
    | administer op s' hop =>
      refine ⟨fun v signature hintent ↦ ?_, fun creatorId _ _ _ hset ↦ ?_⟩
      · rw [Op.intent_of_administrative hop] at hintent
        cases hintent
      · cases hset
        cases hop
    | revoke | burn => exact ⟨fun _ _ hintent ↦ (by cases hintent), fun _ _ _ _ h ↦ (by cases h)⟩
    | setEarlyPolicy x earlyUntil cap active version hversion =>
      refine ⟨fun _ _ hintent ↦ (by cases hintent), fun creatorId _ _ _ hset ↦ ?_⟩
      cases hset
      simp only [Function.update_self]
      exact Fin.lt_def.mpr ((Nat.lt_succ_self _).trans_eq hversion.symm)
    | register op v signature nonce earlyIssued nextTokenId tokens hop _ hregisters =>
      refine ⟨fun v₀ signature₀ hintent htier ↦ ?_, fun creatorId _ _ _ hset ↦ ?_⟩
      · obtain ⟨rfl, -⟩ := Prod.mk.inj (Option.some.inj (hop.symm.trans hintent))
        have hrecord : (w.state.withCredential w.block v nonce earlyIssued nextTokenId
            tokens).credentials w.state.nextTokenId = w.state.issue w.block v.creatorId :=
          Function.update_self ..
        rw [hrecord] at htier
        obtain ⟨-, hearly⟩ := earlyFor_issue.mp
          (⟨rfl, htier⟩ : (w.state.issue w.block v.creatorId).EarlyFor v.creatorId)
        have hissued := hregisters.earlyIssued_eq
        rw [if_pos hearly] at hissued
        simp only [State.withCredential, Function.update_self]
        exact Fin.le_def.mpr (hissued.trans_le (isEarly_iff.mp hearly).2.2)
      · cases hset
        cases hop

/-- The counters of slots and versions agree with history, a slot goes exactly to whom the policy of
the moment has one for, and records keep what was in force when they were made. -/
theorem early_slots_accounted :
    (∀ w, Observable P T d w → Counted w ∧ Recorded w) ∧
    ∀ w w', Observable P T d w → (contract P T d).Micro w w' → ∀ e,
      w'.journal = e :: w.journal → SlotRules e w'.state :=
  ⟨fun _ hw ↦ ⟨hw.counted, hw.recorded⟩,
    fun _ _ _ hm _ hjournal ↦ (micro_small hm).slotRules hjournal⟩

/-- The fan's first credential took the only slot, which its burning did not give back. -/
theorem early_slots_accounted_sample :
    Counted (Sample.after Sample.history) ∧ Recorded (Sample.after Sample.history) ∧
    ((Sample.after Sample.history).state.credentials 1).tier = .earlySupporter ∧
    ((Sample.after Sample.history).state.credentials 2).tier = .supporter ∧
    ((Sample.after Sample.history).state.earlyPolicies 7).earlyIssued = 1 := by
  have hreach : Reachable Sample.primitives Sample.tokens Sample.deployment
      (Sample.after Sample.history) := Sample.reachable_after (by decide)
  obtain ⟨hcounted, hrecorded⟩ := early_slots_accounted.1 _ hreach.observable
  exact ⟨hcounted, hrecorded, by decide +kernel⟩

end CreatorFirst.Supporter
