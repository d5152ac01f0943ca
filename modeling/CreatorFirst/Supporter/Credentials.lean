import CreatorFirst.Supporter.Steps

/-!
# One active credential per creator and holder

The index of active tokens, the credential records and the register of owners agree in every state
that code can observe, also from inside a receiver's callback. So a holder has at most one active
credential of a creator, and what was revoked, burned or given away by nobody never comes back.
-/

namespace CreatorFirst.Supporter

open Chain Relation

variable {P : Primitives} {T : Erc721 Address (Uint 256)} {d : Deployment} {b : Block}
  {sender : Address} {s s' : State T}

/-- The token is an active credential of the creator in the hands of the holder. -/
structure State.Holds (s : State T) (creatorId : Bytes32) (holder : Address) (t : Uint 256) :
    Prop where
  active : (s.credentials t).active = true
  creator : (s.credentials t).creatorId = creatorId
  holder : s.owner t = holder

/-- The index names exactly the active tokens. -/
def State.Indexed (s : State T) : Prop :=
  ∀ creatorId holder t, t ≠ 0 →
    (s.activeTokenOf creatorId holder = t ↔ s.Holds creatorId holder t)

/-- The three representations agree, and ids that were not given out stand for nothing. -/
structure WellKept (s : State T) : Prop where
  indexed : s.Indexed
  owned : ∀ t, (s.credentials t).active = true → s.owner t ≠ 0
  blank : ∀ t, ¬ s.Issued t → s.credentials t = .blank ∧ s.owner t = 0

/-! ## Each operation keeps the representations in step -/

theorem WellKept.issued_of_active (h : WellKept s) {t : Uint 256}
    (ht : (s.credentials t).active = true) : s.Issued t := by
  by_contra hissued
  rw [(h.blank t hissued).1] at ht
  cases ht

theorem WellKept.holds_active (h : WellKept s) {t : Uint 256}
    (ht : (s.credentials t).active = true) :
    s.activeTokenOf (s.credentials t).creatorId (s.owner t) = t :=
  (h.indexed _ _ t (h.issued_of_active ht).1).mpr ⟨ht, rfl, rfl⟩

theorem WellKept.of_same (h : WellKept s) (howner : s'.owner = s.owner)
    (hid : s'.nextTokenId = s.nextTokenId) (hcredentials : s'.credentials = s.credentials)
    (hindex : s'.activeTokenOf = s.activeTokenOf) : WellKept s' where
  indexed creatorId holder t ht := by
    rw [hindex, h.indexed creatorId holder t ht]
    constructor
    · rintro ⟨hactive, hcreator, hholder⟩
      exact ⟨by rwa [hcredentials], by rwa [hcredentials], by rwa [howner]⟩
    · rintro ⟨hactive, hcreator, hholder⟩
      exact ⟨by rwa [← hcredentials], by rwa [← hcredentials], by rwa [← howner]⟩
  owned t ht := by
    rw [howner]
    exact h.owned t (hcredentials ▸ ht)
  blank t ht := by
    rw [hcredentials, howner]
    exact h.blank t fun hissued ↦ ht ⟨hissued.1, hid ▸ hissued.2⟩

section Register

variable {v : SupportIntent} {signature : Bytes} {relayer : Address} {nonce : Uint 256}
  {earlyIssued : Uint 32} {nextTokenId : Uint 256} {tokens : T.State}

theorem holds_withCredential_self
    (h : Registers P T d b relayer v signature s nonce earlyIssued nextTokenId tokens)
    {creatorId : Bytes32} {holder : Address} :
    (s.withCredential b v nonce earlyIssued nextTokenId tokens).Holds creatorId holder
      s.nextTokenId ↔ creatorId = v.creatorId ∧ holder = v.holder := by
  constructor
  · rintro ⟨-, hcreator, hholder⟩
    rw [h.owner_eq, Function.update_self] at hholder
    simp only [State.withCredential, Function.update_self, State.issue] at hcreator
    exact ⟨hcreator.symm, hholder.symm⟩
  · rintro ⟨rfl, rfl⟩
    refine ⟨?_, ?_, by rw [h.owner_eq, Function.update_self]⟩ <;>
      simp [State.withCredential, State.issue]

theorem holds_withCredential_of_ne
    (h : Registers P T d b relayer v signature s nonce earlyIssued nextTokenId tokens)
    {creatorId : Bytes32} {holder : Address} {t : Uint 256} (ht : t ≠ s.nextTokenId) :
    (s.withCredential b v nonce earlyIssued nextTokenId tokens).Holds creatorId holder t ↔
      s.Holds creatorId holder t := by
  have hcredential : (s.withCredential b v nonce earlyIssued nextTokenId tokens).credentials t =
      s.credentials t := Function.update_of_ne ht _ _
  have howner : (s.withCredential b v nonce earlyIssued nextTokenId tokens).owner t =
      s.owner t := by rw [h.owner_eq, Function.update_of_ne ht]
  constructor
  · rintro ⟨hactive, hcreator, hholder⟩
    exact ⟨hcredential ▸ hactive, hcredential ▸ hcreator, howner ▸ hholder⟩
  · rintro ⟨hactive, hcreator, hholder⟩
    exact ⟨hcredential ▸ hactive, hcredential ▸ hcreator, howner ▸ hholder⟩

/-- The new token fills the free place of its creator and holder. -/
theorem Registers.indexed (hs : WellKept s)
    (h : Registers P T d b relayer v signature s nonce earlyIssued nextTokenId tokens) :
    (s.withCredential b v nonce earlyIssued nextTokenId tokens).Indexed := by
  intro creatorId holder t ht
  have hindex : (s.withCredential b v nonce earlyIssued nextTokenId tokens).activeTokenOf
      creatorId holder = if creatorId = v.creatorId ∧ holder = v.holder then s.nextTokenId
        else s.activeTokenOf creatorId holder := update₂_apply ..
  rw [hindex]
  by_cases hid : t = s.nextTokenId
  · subst hid
    rw [holds_withCredential_self h]
    have hfree : ¬ s.Holds creatorId holder s.nextTokenId := fun hholds ↦
      lt_irrefl _ (hs.issued_of_active hholds.active).2
    rw [← hs.indexed creatorId holder _ ht] at hfree
    split
    · next hplace => simp [hplace]
    · next hplace => simp [hplace, hfree]
  · rw [holds_withCredential_of_ne h hid, ← hs.indexed creatorId holder t ht]
    split
    · next hplace =>
      obtain ⟨rfl, rfl⟩ := hplace
      rw [h.inactive]
      exact iff_of_false (Ne.symm hid) ht.symm
    · exact Iff.rfl

theorem Registers.wellKept (hs : WellKept s) (hnext : s.nextTokenId ≠ 0)
    (h : Registers P T d b relayer v signature s nonce earlyIssued nextTokenId tokens) :
    WellKept (s.withCredential b v nonce earlyIssued nextTokenId tokens) where
  indexed := h.indexed hs
  owned t ht := by
    rw [h.owner_eq]
    by_cases hid : t = s.nextTokenId
    · rw [hid, Function.update_self]
      exact h.holder_ne
    · rw [Function.update_of_ne hid]
      have hcredential : (s.withCredential b v nonce earlyIssued nextTokenId tokens).credentials
          t = s.credentials t := Function.update_of_ne hid _ _
      exact hs.owned t (hcredential ▸ ht)
  blank t ht := by
    have hid : t ≠ s.nextTokenId := by
      rintro rfl
      have hlater : (s.nextTokenId : ℕ) < nextTokenId :=
        (Nat.lt_succ_self _).trans_eq h.nextTokenId_eq.symm
      exact ht ⟨hnext, hlater⟩
    have hissued : ¬ s.Issued t := fun hissued ↦ ht (h.advances.issued t hissued)
    rw [h.owner_eq, Function.update_of_ne hid]
    exact ⟨(Function.update_of_ne hid _ _).trans (hs.blank t hissued).1, (hs.blank t hissued).2⟩

end Register

section Deactivate

variable {t : Uint 256}

theorem holds_deactivate {creatorId : Bytes32} {holder holder' : Address} {x : Uint 256} :
    (s.deactivate t holder').Holds creatorId holder x ↔ x ≠ t ∧ s.Holds creatorId holder x := by
  by_cases hx : x = t
  · subst hx
    refine iff_of_false (fun hholds ↦ ?_) (fun hholds ↦ hholds.1 rfl)
    have hactive := hholds.active
    rw [State.deactivate_credentials, Function.update_self] at hactive
    cases hactive
  · have hcredential : (s.deactivate t holder').credentials x = s.credentials x := by
      rw [State.deactivate_credentials, Function.update_of_ne hx]
    constructor
    · rintro ⟨hactive, hcreator, hholder⟩
      exact ⟨hx, hcredential ▸ hactive, hcredential ▸ hcreator, by simpa using hholder⟩
    · rintro ⟨-, hactive, hcreator, hholder⟩
      exact ⟨hcredential ▸ hactive, hcredential ▸ hcreator, by simpa using hholder⟩

/-- The place of the token is free again. -/
theorem WellKept.indexed_deactivate (h : WellKept s) (hactive : (s.credentials t).active = true) :
    (s.deactivate t (s.owner t)).Indexed := by
  intro creatorId holder x hx
  have hindex : (s.deactivate t (s.owner t)).activeTokenOf creatorId holder =
      if creatorId = (s.credentials t).creatorId ∧ holder = s.owner t then 0
        else s.activeTokenOf creatorId holder := by
    rw [State.deactivate, if_pos hactive]
    exact update₂_apply ..
  rw [hindex, holds_deactivate, ← h.indexed creatorId holder x hx]
  split
  · next hplace =>
    obtain ⟨rfl, rfl⟩ := hplace
    rw [h.holds_active hactive]
    exact iff_of_false hx.symm fun hboth ↦ hboth.1 hboth.2.symm
  · next hplace =>
    refine ⟨fun hentry ↦ ⟨?_, hentry⟩, fun hboth ↦ hboth.2⟩
    rintro rfl
    obtain ⟨-, hcreator, hholder⟩ := (h.indexed creatorId holder x hx).mp hentry
    exact hplace ⟨hcreator.symm, hholder.symm⟩

theorem WellKept.deactivate (h : WellKept s) (t : Uint 256) :
    WellKept (s.deactivate t (s.owner t)) := by
  cases hactive : (s.credentials t).active with
  | false =>
    rw [State.deactivate, hactive]
    exact h
  | true =>
    refine ⟨h.indexed_deactivate hactive, fun x hx ↦ ?_, fun x hx ↦ ?_⟩
    · rw [State.deactivate_owner]
      obtain ⟨-, hholds⟩ := holds_deactivate.mp ⟨hx, rfl, rfl⟩
      exact h.owned x hholds.active
    · have hissued : ¬ s.Issued x :=
        fun hissued ↦ hx ((Advances.deactivate t _).issued x hissued)
      have hxt : x ≠ t := by
        rintro rfl
        exact hissued (h.issued_of_active hactive)
      rw [State.deactivate_credentials, Function.update_of_ne hxt, State.deactivate_owner]
      exact h.blank x hissued

/-- Once its credential is inactive the token may go. -/
theorem WellKept.burned (h : WellKept s) (hinactive : (s.credentials t).active = false)
    {tokens : T.State} (hburned : T.update 0 t 0 s.tokens = some tokens) :
    WellKept { s with tokens } := by
  have howner : State.owner { s with tokens } = Function.update s.owner t 0 := T.update_owner hburned
  have hkept : ∀ x, (s.credentials x).active = true →
      State.owner { s with tokens } x = s.owner x := by
    intro x hx
    rw [howner, Function.update_of_ne]
    rintro rfl
    exact absurd (hx.symm.trans hinactive) (by decide)
  refine ⟨fun creatorId holder x hx ↦ (h.indexed creatorId holder x hx).trans ?_, fun x hx ↦ ?_,
    fun x hx ↦ ?_⟩
  · constructor
    · rintro ⟨hactive, hcreator, hholder⟩
      exact ⟨hactive, hcreator, (hkept x hactive).trans hholder⟩
    · rintro ⟨hactive, hcreator, hholder⟩
      exact ⟨hactive, hcreator, (hkept x hactive).symm.trans hholder⟩
  · rw [hkept x hx]
    exact h.owned x hx
  · obtain ⟨hcredential, hunowned⟩ := h.blank x hx
    refine ⟨hcredential, ?_⟩
    rw [howner]
    by_cases hxt : x = t
    · rw [hxt, Function.update_self]
    · rw [Function.update_of_ne hxt, hunowned]

end Deactivate

theorem Effect.wellKept {op : Op} {callout : Option ReceiverCall} (hs : WellKept s)
    (hnext : s.nextTokenId ≠ 0) (h : Effect P T d b sender s op s' callout) : WellKept s' := by
  cases h with
  | administer op s' _ hadmin =>
    exact hs.of_same hadmin.owner hadmin.nextTokenId hadmin.credentials hadmin.activeTokenOf
  | setEarlyPolicy => exact hs.of_same rfl rfl rfl rfl
  | register op v signature nonce earlyIssued nextTokenId tokens _ _ hregisters =>
    exact hregisters.wellKept hs hnext
  | revoke t => exact hs.deactivate t
  | burn t tokens _ _ hburned =>
    refine (hs.deactivate t).burned ?_ (by simpa using hburned)
    rw [State.deactivate_credentials, Function.update_self]

theorem Observable.wellKept {w : SupporterWorld T} (h : Observable P T d w) :
    WellKept w.state := by
  refine h.invariant (I := fun w ↦ WellKept w.state) (fun b ↦ ?_) fun w w' hv hw hs ↦ ?_
  · refine ⟨fun creatorId holder t ht ↦ ?_, fun t ht ↦ (by cases ht), fun t _ ↦
      ⟨rfl, T.initial_owner t⟩⟩
    refine iff_of_false ht.symm fun hholds ↦ ?_
    have hactive := hholds.active
    cases hactive
  · cases hs with
    | tick | resume => exact hw
    | call msg op s callout heff => exact heff.wellKept hw hv.inOrder.next_ne

/-! ## What is revoked or burned stays so -/

/-- The token's credential is inactive although the token was given out. -/
def State.Ended (s : State T) (t : Uint 256) : Prop :=
  s.Issued t ∧ (s.credentials t).active = false

/-- Revoked and burned tokens have ended, and burned ones have no owner. -/
structure EndsNoted (w : SupporterWorld T) : Prop where
  revoked : ∀ e ∈ w.journal, ∀ t, e.op = .revoke t → w.state.Ended t
  burned : ∀ e ∈ w.journal, ∀ t, e.op = .burn t → w.state.Ended t ∧ w.state.owner t = 0

theorem Advances.ended (h : Advances s s') {t : Uint 256} (ht : s.Ended t) : s'.Ended t :=
  ⟨h.issued t ht.1, h.inactive t ht.1 ht.2⟩

theorem Advances.unowned (h : Advances s s') {t : Uint 256} (ht : s.Issued t)
    (howner : s.owner t = 0) : s'.owner t = 0 := by
  obtain hkept | hgone := h.owner t ht
  · rw [hkept, howner]
  · exact hgone

theorem WellKept.issued_of_owner (h : WellKept s) {t : Uint 256} (ht : s.owner t ≠ 0) :
    s.Issued t := by
  by_contra hissued
  exact ht (h.blank t hissued).2

theorem WellKept.ended_deactivate (h : WellKept s) {t : Uint 256} (ht : s.owner t ≠ 0) :
    (s.deactivate t (s.owner t)).Ended t := by
  refine ⟨(Advances.deactivate t _).issued t (h.issued_of_owner ht), ?_⟩
  rw [State.deactivate_credentials, Function.update_self]

theorem Effect.ended (hs : WellKept s) {op : Op} {callout : Option ReceiverCall}
    (h : Effect P T d b sender s op s' callout) (t : Uint 256) :
    (op = .revoke t → s'.Ended t) ∧ (op = .burn t → s'.Ended t ∧ s'.owner t = 0) := by
  cases h with
  | administer op s' hop => exact ⟨fun h ↦ (by cases h; cases hop), fun h ↦ (by cases h; cases hop)⟩
  | setEarlyPolicy => exact ⟨fun h ↦ (by cases h), fun h ↦ (by cases h)⟩
  | register op v signature nonce earlyIssued nextTokenId tokens hop =>
    exact ⟨fun h ↦ (by cases h; cases hop), fun h ↦ (by cases h; cases hop)⟩
  | revoke x _ _ howner =>
    refine ⟨fun h ↦ ?_, fun h ↦ (by cases h)⟩
    cases h
    exact hs.ended_deactivate howner
  | burn x tokens _ howner hburned =>
    refine ⟨fun h ↦ (by cases h), fun h ↦ ?_⟩
    cases h
    refine ⟨hs.ended_deactivate howner, ?_⟩
    rw [State.owner_burned hburned, Function.update_self]

theorem Small.endsNoted {w w' : SupporterWorld T} (hw : EndsNoted w) (hs : WellKept w.state)
    (h : Small P T d w w') : EndsNoted w' := by
  have hadvances := h.advances
  have hburned : ∀ e ∈ w.journal, ∀ t, e.op = .burn t → w'.state.Ended t ∧ w'.state.owner t = 0 := by
    intro e he t hop
    obtain ⟨hended, hunowned⟩ := hw.burned e he t hop
    exact ⟨hadvances.ended hended, hadvances.unowned hended.1 hunowned⟩
  have hrevoked : ∀ e ∈ w.journal, ∀ t, e.op = .revoke t → w'.state.Ended t :=
    fun e he t hop ↦ hadvances.ended (hw.revoked e he t hop)
  cases h with
  | tick | resume => exact ⟨hrevoked, hburned⟩
  | call msg op s callout heff =>
    constructor
    · intro e he t hop
      obtain rfl | he := List.mem_cons.mp he
      · exact (heff.ended hs t).1 hop
      · exact hrevoked e he t hop
    · intro e he t hop
      obtain rfl | he := List.mem_cons.mp he
      · exact (heff.ended hs t).2 hop
      · exact hburned e he t hop

theorem Observable.endsNoted {w : SupporterWorld T} (h : Observable P T d w) : EndsNoted w :=
  h.invariant (I := EndsNoted) (fun _ ↦ ⟨fun _ he ↦ (by cases he), fun _ he ↦ (by cases he)⟩)
    fun _ _ hv hw hs ↦ hs.endsNoted hw hv.wellKept

/-! ## Every run -/

/-- What holds of the credentials at any time. -/
structure CredentialsSafe (w : SupporterWorld T) : Prop where
  indexed : ∀ creatorId holder t, t ≠ 0 → (w.state.activeTokenOf creatorId holder = t ↔
    (w.state.credentials t).active = true ∧ (w.state.credentials t).creatorId = creatorId ∧
      w.state.owner t = holder)
  one_active : ∀ t t', (w.state.credentials t).active = true →
    (w.state.credentials t').active = true →
    (w.state.credentials t).creatorId = (w.state.credentials t').creatorId →
    w.state.owner t = w.state.owner t' → t = t'
  revoked : ∀ e ∈ w.journal, ∀ t, e.op = .revoke t → (w.state.credentials t).active = false
  burned : ∀ e ∈ w.journal, ∀ t, e.op = .burn t →
    (w.state.credentials t).active = false ∧ w.state.owner t = 0
  ids_nodup : (issuedIds w.journal).Nodup

theorem Observable.credentialsSafe {w : SupporterWorld T} (h : Observable P T d w) :
    CredentialsSafe w where
  indexed creatorId holder t ht := by
    rw [h.wellKept.indexed creatorId holder t ht]
    exact ⟨fun hholds ↦ ⟨hholds.active, hholds.creator, hholds.holder⟩,
      fun hholds ↦ ⟨hholds.1, hholds.2.1, hholds.2.2⟩⟩
  one_active t t' ht ht' hcreator howner := by
    rw [← h.wellKept.holds_active ht, ← h.wellKept.holds_active ht', hcreator, howner]
  revoked e he t hop := (h.endsNoted.revoked e he t hop).2
  burned e he t hop :=
    ⟨(h.endsNoted.burned e he t hop).1.2, (h.endsNoted.burned e he t hop).2⟩
  ids_nodup := h.inOrder.nodup

/-- In every state that code observes the index names exactly the active credentials, so there is at
most one for each creator and holder; what is over stays over, ids are given out once, and whoever
owns a token later is who owned it before. -/
theorem credentials_safe :
    (∀ w, Observable P T d w → CredentialsSafe w) ∧
    ∀ u w, Observable P T d u → ReflTransGen (contract P T d).Micro u w → ∀ t,
      (t ∈ issuedIds u.journal → (u.state.credentials t).active = false →
        (w.state.credentials t).active = false) ∧
      (t ∈ issuedIds u.journal → t ∈ issuedIds w.journal) ∧
      (u.state.owner t ≠ 0 → w.state.owner t = u.state.owner t ∨ w.state.owner t = 0) ∧
      (t ∈ issuedIds u.journal → u.state.owner t = 0 → w.state.owner t = 0) := by
  refine ⟨fun w hw ↦ hw.credentialsSafe, fun u w hu hrun t ↦ ?_⟩
  have hadvances := run_advances hrun
  have hissued : t ∈ issuedIds u.journal ↔ u.state.Issued t := hu.inOrder.mem_iff t
  refine ⟨fun ht ↦ hadvances.inactive t (hissued.mp ht), fun ht ↦ ?_, fun howner ↦ ?_,
    fun ht ↦ hadvances.unowned (hissued.mp ht)⟩
  · exact (Contract.micro_journal_suffix hrun).sublist.filterMap issuedId |>.mem ht
  · exact hadvances.owner t (hu.wellKept.issued_of_owner howner)

/-- The fan's burned token and the friend's revoked one are over, and the fan holds one credential. -/
theorem credentials_safe_sample :
    CredentialsSafe (Sample.after Sample.history) ∧
    (Sample.after Sample.history).state.activeTokenOf 7 Sample.fan = 2 ∧
    (Sample.after Sample.history).state.owner 1 = 0 ∧
    ((Sample.after Sample.history).state.credentials 3).active = false := by
  have hreach : Reachable Sample.primitives Sample.tokens Sample.deployment
      (Sample.after Sample.history) := Sample.reachable_after (by decide)
  exact ⟨credentials_safe.1 _ hreach.observable, by decide +kernel⟩

end CreatorFirst.Supporter
