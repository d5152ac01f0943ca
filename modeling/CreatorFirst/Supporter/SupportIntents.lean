import CreatorFirst.Supporter.Credentials

/-!
# Support intents

Every credential was asked for by its holder: its registration, by a relayer or through the adapter,
carried an intent under the holder's nonce of the moment and used that nonce up. So no intent and no
signature makes two credentials, whatever became of the first one.
-/

namespace CreatorFirst.Supporter

open Chain Relation

variable {P : Primitives} {T : Erc721 Address (Uint 256)} {d : Deployment} {b : Block}
  {sender : Address} {s s' : State T}

/-- The intents that made credentials, newest first, with their signatures. -/
def intents (journal : List (SupporterEntry T)) : List (SupportIntent × Bytes) :=
  journal.filterMap fun e ↦ e.op.intent e.msg.sender

theorem intents_cons_of_none {e : SupporterEntry T} (h : e.op.intent e.msg.sender = none)
    (journal : List (SupporterEntry T)) : intents (e :: journal) = intents journal :=
  List.filterMap_cons_none h

theorem intents_cons_of_some {e : SupporterEntry T} {x : SupportIntent × Bytes}
    (h : e.op.intent e.msg.sender = some x) (journal : List (SupporterEntry T)) :
    intents (e :: journal) = x :: intents journal :=
  List.filterMap_cons_some h

/-! ## One registration -/

/-- What the registration `e` of an intent leaves: the token is with the intent's holder, who is the
caller for those who register themselves, and only the holder's nonce moves on. -/
structure Issues (e : SupporterEntry T) (v : SupportIntent) (s' : State T) : Prop where
  holder : s'.owner e.before.nextTokenId = v.holder
  self : ∀ creatorId nonce deadline consentVersion signature,
    e.op = .registerSelf creatorId nonce deadline consentVersion signature → v.holder = e.msg.sender
  nonce_eq : v.nonce = e.before.nonces v.holder
  next : (s'.nonces v.holder : ℕ) = e.before.nonces v.holder + 1
  others : ∀ a, a ≠ v.holder → s'.nonces a = e.before.nonces a

theorem holder_of_registerSelf {creatorId : Bytes32} {nonce deadline : Uint 256}
    {consentVersion : Bytes32} {signature signature' : Bytes} {v : SupportIntent}
    (h : (Op.registerSelf creatorId nonce deadline consentVersion signature).intent sender =
      some (v, signature')) : v.holder = sender := by
  obtain ⟨rfl, -⟩ := Prod.mk.inj (Option.some.inj h)
  rfl

theorem Registers.issues {msg : Msg} {op : Op} {callout : Option ReceiverCall} {v : SupportIntent}
    {signature : Bytes} {nonce : Uint 256} {earlyIssued : Uint 32} {nextTokenId : Uint 256}
    {tokens : T.State} (hop : op.intent msg.sender = some (v, signature))
    (h : Registers P T d b (op.relayer d msg.sender) v signature s nonce earlyIssued nextTokenId
      tokens) :
    Issues ⟨b, msg, op, s, callout⟩ v
      (s.withCredential b v nonce earlyIssued nextTokenId tokens) where
  holder := by rw [h.owner_eq, Function.update_self]
  self _ _ _ _ _ hself := by
    obtain rfl : op = _ := hself
    exact holder_of_registerSelf hop
  nonce_eq := h.nonce_eq
  next := by
    simp only [State.withCredential, Function.update_self]
    exact h.nextNonce_eq
  others a ha := Function.update_of_ne ha _ _

/-- What one step does to the nonces: a registration moves one, and nothing else does. -/
theorem Small.nonce_change {w w' : SupporterWorld T} (h : Small P T d w w') :
    (w'.state.nonces = w.state.nonces ∧ intents w'.journal = intents w.journal) ∨
    ∃ e v signature, w'.journal = e :: w.journal ∧
      e.op.intent e.msg.sender = some (v, signature) ∧ e.before = w.state ∧
      Issues e v w'.state := by
  cases h with
  | tick | resume => exact .inl ⟨rfl, rfl⟩
  | call msg op s callout heff =>
    cases heff with
    | administer op s' hop hadmin =>
      exact .inl ⟨hadmin.nonces, intents_cons_of_none (Op.intent_of_administrative hop) _⟩
    | setEarlyPolicy => exact .inl ⟨rfl, intents_cons_of_none rfl _⟩
    | revoke t => exact .inl ⟨State.deactivate_nonces .., intents_cons_of_none rfl _⟩
    | burn t => exact .inl ⟨State.deactivate_nonces .., intents_cons_of_none rfl _⟩
    | register op v signature nonce earlyIssued nextTokenId tokens hop _ hregisters =>
      exact .inr ⟨_, v, signature, rfl, hop, rfl, hregisters.issues hop⟩

/-! ## Nonces -/

/-- A holder's nonce is the number of its registrations, which used up the nonces below it. -/
structure NoncesUsed (w : SupporterWorld T) : Prop where
  count : ∀ holder,
    (w.state.nonces holder : ℕ) = (intents w.journal).countP fun x ↦ x.1.holder = holder
  below : ∀ x ∈ intents w.journal, (x.1.nonce : ℕ) < w.state.nonces x.1.holder
  nodup : ((intents w.journal).map fun x ↦ (x.1.holder, x.1.nonce)).Nodup

theorem Small.noncesUsed {w w' : SupporterWorld T} (hw : NoncesUsed w) (h : Small P T d w w') :
    NoncesUsed w' := by
  obtain ⟨hnonces, hsame⟩ | ⟨e, v, signature, hjournal, hop, hbefore, hissues⟩ := h.nonce_change
  · exact ⟨by rw [hnonces, hsame]; exact hw.count, by rw [hnonces, hsame]; exact hw.below,
      by rw [hsame]; exact hw.nodup⟩
  · have hcons : intents w'.journal = (v, signature) :: intents w.journal := by
      rw [hjournal, intents_cons_of_some hop]
    have hnonce := hissues.nonce_eq
    have hnext := hissues.next
    have hothers := hissues.others
    rw [hbefore] at hnonce hnext hothers
    have hgrows : ∀ holder, (w.state.nonces holder : ℕ) ≤ w'.state.nonces holder := by
      intro holder
      by_cases hholder : holder = v.holder
      · subst hholder
        exact (Nat.le_succ _).trans_eq hnext.symm
      · rw [hothers holder hholder]
    refine ⟨fun holder ↦ ?_, fun x hx ↦ ?_, ?_⟩
    · rw [hcons, List.countP_cons, ← hw.count holder]
      by_cases hholder : holder = v.holder
      · subst hholder
        simp [hnext]
      · simp [hothers holder hholder, Ne.symm hholder]
    · rw [hcons] at hx
      obtain rfl | hx := List.mem_cons.mp hx
      · rw [hnext, hnonce]
        exact Nat.lt_succ_self _
      · exact (hw.below x hx).trans_le (hgrows _)
    · rw [hcons, List.map_cons, List.nodup_cons]
      refine ⟨fun hmem ↦ ?_, hw.nodup⟩
      -- An earlier intent with this nonce would have used it up.
      obtain ⟨x, hx, heq⟩ := List.mem_map.mp hmem
      obtain ⟨hholder, hused⟩ := Prod.mk.inj heq
      have hbelow := hw.below x hx
      rw [hholder, hused, hnonce] at hbelow
      exact lt_irrefl _ hbelow

theorem Observable.noncesUsed {w : SupporterWorld T} (h : Observable P T d w) : NoncesUsed w :=
  h.invariant (I := NoncesUsed)
    (fun _ ↦ ⟨fun _ ↦ rfl, fun _ hx ↦ (by cases hx), List.nodup_nil⟩) fun _ _ _ hw hs ↦
      hs.noncesUsed hw

/-! ## What a credential goes back to -/

/-- The registration `e` found the intent in order, and its token is still for the intent's creator
and with the intent's holder, if with anybody. -/
structure Honours (P : Primitives) (d : Deployment) (e : SupporterEntry T) (v : SupportIntent)
    (signature : Bytes) (s : State T) : Prop where
  creator : (s.credentials e.before.nextTokenId).creatorId = v.creatorId
  holder : s.owner e.before.nextTokenId = v.holder ∨ s.owner e.before.nextTokenId = 0
  nonce : v.nonce = e.before.nonces v.holder
  in_time : e.block.timestamp ≤ (v.deadline : ℕ)
  issuedAt : ((s.credentials e.before.nextTokenId).issuedAt : ℕ) ≤ v.deadline
  recovers : P.recover (v.digest P d e.block) signature = some v.holder

theorem Registers.honours {msg : Msg} {op : Op} {callout : Option ReceiverCall}
    {relayer : Address} {v : SupportIntent} {signature : Bytes} {nonce : Uint 256}
    {earlyIssued : Uint 32} {nextTokenId : Uint 256} {tokens : T.State}
    (h : Registers P T d b relayer v signature s nonce earlyIssued nextTokenId tokens) :
    Honours P d ⟨b, msg, op, s, callout⟩ v signature
      (s.withCredential b v nonce earlyIssued nextTokenId tokens) where
  creator := by simp [State.withCredential, State.issue]
  holder := .inl (by rw [h.owner_eq, Function.update_self])
  nonce := h.nonce_eq
  in_time := h.in_time
  issuedAt := by
    simp only [State.withCredential, Function.update_self, State.issue]
    exact (Nat.mod_le _ _).trans h.in_time
  recovers := h.signed

theorem Honours.advance {e : SupporterEntry T} {v : SupportIntent} {signature : Bytes}
    (h : Honours P d e v signature s) (hadvances : Advances s s')
    (hissued : s.Issued e.before.nextTokenId) : Honours P d e v signature s' := by
  have hrecorded := hadvances.recorded _ hissued
  have hcreator := congrArg Credential.creatorId hrecorded
  have hissuedAt := congrArg Credential.issuedAt hrecorded
  refine ⟨hcreator.trans h.creator, ?_, h.nonce, h.in_time, ?_, h.recovers⟩
  · obtain hkept | hgone := hadvances.owner _ hissued
    · rw [hkept]
      exact h.holder
    · exact .inr hgone
  · exact (congrArg Fin.val hissuedAt).trans_le h.issuedAt

/-- Every credential goes back to an intent that was in order. -/
def AllHonoured (P : Primitives) (d : Deployment) (w : SupporterWorld T) : Prop :=
  ∀ e ∈ w.journal, ∀ v signature, e.op.intent e.msg.sender = some (v, signature) →
    Honours P d e v signature w.state

theorem Small.allHonoured {w w' : SupporterWorld T} (hw : AllHonoured P d w) (hids : InOrder w)
    (h : Small P T d w w') : AllHonoured P d w' := by
  have hadvances := h.advances
  have hold : ∀ e ∈ w.journal, ∀ v signature, e.op.intent e.msg.sender = some (v, signature) →
      Honours P d e v signature w'.state := by
    intro e he v signature hop
    have hmem : e.before.nextTokenId ∈ issuedIds w.journal :=
      List.mem_filterMap.mpr ⟨e, he, by simp [issuedId, hop]⟩
    exact (hw e he v signature hop).advance hadvances ((hids.mem_iff _).mp hmem)
  cases h with
  | tick | resume => exact hold
  | call msg op s callout heff =>
    intro e he v signature hop
    obtain rfl | he := List.mem_cons.mp he
    · cases heff with
      | administer op s' hadministrative =>
        rw [Op.intent_of_administrative hadministrative] at hop
        cases hop
      | setEarlyPolicy | revoke | burn => cases hop
      | register op v₀ signature₀ nonce earlyIssued nextTokenId tokens hop₀ _ hregisters =>
        obtain ⟨rfl, rfl⟩ := Prod.mk.inj (Option.some.inj (hop₀.symm.trans hop))
        exact hregisters.honours
    · exact hold e he v signature hop

theorem Observable.allHonoured {w : SupporterWorld T} (h : Observable P T d w) :
    AllHonoured P d w :=
  h.invariant (I := AllHonoured P d) (fun _ _ he ↦ (by cases he)) fun _ _ hv hw hs ↦
    hs.allHonoured hw hv.inOrder

/-! ## Signatures -/

/-- What typed data and ECDSA promise about a run: the intents that recover to their holder have been
signed, and each signature was made for one intent. -/
structure Unforgeable (P : Primitives) (d : Deployment) (signed : SupportIntent → Bytes → Prop)
    (w : SupporterWorld T) : Prop where
  genuine : ∀ e ∈ w.journal, ∀ v signature, e.op.intent e.msg.sender = some (v, signature) →
    P.recover (v.digest P d e.block) signature = some v.holder → signed v signature
  one_intent : ∀ v v' signature, signed v signature → signed v' signature → v = v'

theorem Observable.signed {w : SupporterWorld T} (h : Observable P T d w)
    {signed : SupportIntent → Bytes → Prop} (hsigned : Unforgeable P d signed w)
    {e : SupporterEntry T} (he : e ∈ w.journal) {v : SupportIntent} {signature : Bytes}
    (hop : e.op.intent e.msg.sender = some (v, signature)) : signed v signature :=
  hsigned.genuine e he v signature hop (h.allHonoured e he v signature hop).recovers

theorem Observable.signatures_nodup {w : SupporterWorld T} (h : Observable P T d w)
    {signed : SupportIntent → Bytes → Prop} (hsigned : Unforgeable P d signed w) :
    ((intents w.journal).map Prod.snd).Nodup := by
  have hall : ∀ x ∈ intents w.journal, signed x.1 x.2 := by
    intro x hx
    obtain ⟨e, he, hop⟩ := List.mem_filterMap.mp hx
    exact h.signed hsigned he hop
  have hnodup := List.Nodup.of_map _ h.noncesUsed.nodup
  refine hnodup.map_on fun x hx y hy heq ↦ ?_
  have hintent : x.1 = y.1 := hsigned.one_intent x.1 y.1 x.2 (hall x hx) (heq ▸ hall y hy)
  exact Prod.ext hintent heq

/-- Every id that was given out belongs to an intent that its holder signed. -/
theorem Observable.exists_intent {w : SupporterWorld T} (h : Observable P T d w)
    {signed : SupportIntent → Bytes → Prop} (hsigned : Unforgeable P d signed w) {t : Uint 256}
    (ht : t ∈ issuedIds w.journal) :
    ∃ e ∈ w.journal, ∃ v signature, e.op.intent e.msg.sender = some (v, signature) ∧
      e.before.nextTokenId = t ∧ signed v signature ∧ Honours P d e v signature w.state := by
  obtain ⟨e, he, hid⟩ := List.mem_filterMap.mp ht
  obtain ⟨⟨v, signature⟩, hop, hid⟩ := Option.map_eq_some_iff.mp hid
  exact ⟨e, he, v, signature, hop, hid, h.signed hsigned he hop, h.allHonoured e he v signature hop⟩

/-! ## Every run -/

namespace Sample

/-- Everything that the two supporters have signed, the latest first. -/
def signedIntents : List (SupportIntent × Bytes) :=
  [(intent friend 0, friendSignature), (intent fan 1, secondSignature),
   (intent fan 0, firstSignature)]

end Sample

/-- Nonces count registrations, no nonce of a holder and no signature makes two credentials, every
credential goes back to an intent of its holder that was signed and in time, and those who register
themselves hold what they registered. -/
theorem support_intents_single_use :
    (∀ w, Observable P T d w →
      (∀ holder, (w.state.nonces holder : ℕ) =
        (intents w.journal).countP fun x ↦ x.1.holder = holder) ∧
      ((intents w.journal).map fun x ↦ (x.1.holder, x.1.nonce)).Nodup ∧
      (∀ e ∈ w.journal, ∀ creatorId nonce deadline consentVersion signature,
        e.op = .registerSelf creatorId nonce deadline consentVersion signature →
        w.state.owner e.before.nextTokenId = e.msg.sender ∨
          w.state.owner e.before.nextTokenId = 0) ∧
      ∀ signed, Unforgeable P d signed w →
        ((intents w.journal).map Prod.snd).Nodup ∧
        ∀ t ∈ issuedIds w.journal, ∃ e ∈ w.journal, ∃ v signature,
          e.op.intent e.msg.sender = some (v, signature) ∧ e.before.nextTokenId = t ∧
          signed v signature ∧ Honours P d e v signature w.state) ∧
    (∀ w w', Observable P T d w → (contract P T d).Micro w w' →
      (w'.state.nonces = w.state.nonces ∧ intents w'.journal = intents w.journal) ∨
      ∃ e v signature, w'.journal = e :: w.journal ∧
        e.op.intent e.msg.sender = some (v, signature) ∧ e.before = w.state ∧
        Issues e v w'.state) := by
  refine ⟨fun w hw ↦ ⟨hw.noncesUsed.count, hw.noncesUsed.nodup,
    fun e he creatorId nonce deadline consentVersion signature hself ↦ ?_, fun signed hsigned ↦ ?_⟩,
    fun w w' _ hm ↦ (micro_small hm).nonce_change⟩
  · have hop : e.op.intent e.msg.sender =
        some (⟨creatorId, e.msg.sender, nonce, deadline, consentVersion⟩, signature) := by
      rw [hself]
      rfl
    exact (hw.allHonoured e he _ _ hop).holder
  · exact ⟨hw.signatures_nodup hsigned, fun t ht ↦ hw.exists_intent hsigned ht⟩

/-- The fan signed two intents and the friend one, each under its own nonce. -/
theorem support_intents_single_use_sample :
    ((intents (Sample.after Sample.history).journal).map Prod.snd).Nodup ∧
    ∀ t ∈ issuedIds (Sample.after Sample.history).journal,
      ∃ e ∈ (Sample.after Sample.history).journal, ∃ v signature,
        e.op.intent e.msg.sender = some (v, signature) ∧ e.before.nextTokenId = t ∧
        (v, signature) ∈ Sample.signedIntents ∧
        Honours Sample.primitives Sample.deployment e v signature
          (Sample.after Sample.history).state := by
  have hreach : Reachable Sample.primitives Sample.tokens Sample.deployment
      (Sample.after Sample.history) := Sample.reachable_after (by decide)
  have hintents : intents (Sample.after Sample.history).journal = Sample.signedIntents := by
    decide +kernel
  refine (support_intents_single_use.1 _ hreach.observable).2.2.2
    (fun v signature ↦ (v, signature) ∈ Sample.signedIntents) ⟨fun e he v signature hop _ ↦ ?_, ?_⟩
  · rw [← hintents]
    exact List.mem_filterMap.mpr ⟨e, he, hop⟩
  · intro v v' signature hv hv'
    have hnodup : (Sample.signedIntents.map Prod.snd).Nodup := by decide +kernel
    exact (Prod.mk.inj (List.inj_on_of_nodup_map hnodup hv hv' rfl)).1

end CreatorFirst.Supporter
