import CreatorFirst.Governor.Stages
import CreatorFirst.Governor.Tally

/-!
# Relayed ballots

A ballot that a relayer submits with the member's signature has the effect of the member's own vote,
and uses up the member's nonce, so each signature counts once. A member's own vote uses up nothing:
an older signature outlives it, unless its nonce was used or its deadline has passed.
-/

namespace CreatorFirst.Governor

open Chain Relation

variable {P : Primitives} {d : Deployment}

/-! ## One relayed ballot -/

/-- The vote reads and writes no nonce. -/
theorem castVoteCore_withNonce (b : Block) (id : Uint 256) (i : Sint 8) (member m : Address)
    (n : Uint 256) (s : State) :
    castVoteCore b id i member (s.withNonce m n) =
      (fun s' ↦ s'.withNonce m n) <$> castVoteCore b id i member s := by
  simp only [castVoteCore, map_bind, map_pure]
  rfl

/-- A relayer submits a ballot in time and as the member signed it: for the proposal's session, in
the member's House and under the member's current nonce. -/
structure Presents (P : Primitives) (d : Deployment) (b : Block) (relayer : Address) (v : CfpBallot)
    (signature : Bytes) (s : State) : Prop where
  relayer : s.roles (RELAYER_ROLE P) relayer = true
  in_time : b.timestamp ≤ (v.deadline : ℕ)
  nonce_eq : v.nonce = s.votingNonces v.member
  session_eq : (s.proposals v.proposalId).sessionId = v.sessionId
  house_eq : s.memberHouse v.sessionId v.member = v.house
  signed : P.recover (v.digest P d b) signature = some v.member

instance (b : Block) (relayer : Address) (v : CfpBallot) (signature : Bytes) (s : State) :
    Decidable (Presents P d b relayer v signature s) :=
  decidable_of_iff
    (s.roles (RELAYER_ROLE P) relayer = true ∧ b.timestamp ≤ (v.deadline : ℕ) ∧
      v.nonce = s.votingNonces v.member ∧ (s.proposals v.proposalId).sessionId = v.sessionId ∧
      s.memberHouse v.sessionId v.member = v.house ∧
      P.recover (v.digest P d b) signature = some v.member)
    ⟨fun ⟨h₁, h₂, h₃, h₄, h₅, h₆⟩ ↦ ⟨h₁, h₂, h₃, h₄, h₅, h₆⟩,
      fun ⟨h₁, h₂, h₃, h₄, h₅, h₆⟩ ↦ ⟨h₁, h₂, h₃, h₄, h₅, h₆⟩⟩

theorem Relays.presents {b : Block} {relayer : Address} {v : CfpBallot} {signature : Bytes}
    {s : State} {n : Uint 256} (h : Relays P d b relayer v signature s n) :
    Presents P d b relayer v signature s :=
  ⟨h.relayer, h.in_time, h.nonce_eq, h.session_eq, h.house_eq, h.signed⟩

theorem presents_of_ok {b : Block} {relayer : Address} {v : CfpBallot} {signature : Bytes}
    {s s' : State} (h : castCfpApprovalVoteBySig P d b relayer v signature s = .ok s') :
    Presents P d b relayer v signature s := by
  obtain ⟨n, hrelay, -⟩ := relay_eq_ok.mp h
  exact hrelay.presents

/-- With everything in order the relayed ballot is the member's own vote, and the nonce moves on. -/
theorem relay_iff_direct {b : Block} {relayer : Address} {v : CfpBallot} {signature : Bytes}
    {s s' : State} (hpresents : Presents P d b relayer v signature s) :
    castCfpApprovalVoteBySig P d b relayer v signature s = .ok s' ↔
      ∃ (s₀ : State) (n : Uint 256),
        castCfpApprovalVote b v.member v.proposalId v.intensity s = .ok s₀ ∧
        (n : ℕ) = s.votingNonces v.member + 1 ∧ s' = s₀.withNonce v.member n := by
  have hmap : ∀ n, castVoteCore b v.proposalId v.intensity v.member (s.withNonce v.member n) =
      .ok s' ↔ ∃ s₀, castVoteCore b v.proposalId v.intensity v.member s = .ok s₀ ∧
        s' = s₀.withNonce v.member n := by
    intro n
    rw [castVoteCore_withNonce]
    cases castVoteCore b v.proposalId v.intensity v.member s <;> simp [eq_comm]
  simp only [relay_eq_ok, hmap, castCfpApprovalVote, revertIf_bind_eq_ok]
  constructor
  · rintro ⟨n, hrelay, s₀, hs₀, rfl⟩
    exact ⟨s₀, n, ⟨hrelay.bound, hs₀⟩, hrelay.next_eq, rfl⟩
  · rintro ⟨s₀, n, ⟨hbound, hs₀⟩, hn, rfl⟩
    obtain ⟨hrelayer, htime, hnonce, hsession, hhouse, hsigned⟩ := hpresents
    exact ⟨n, ⟨hrelayer, htime, hnonce, hsession, hhouse, hsigned, hn, hbound⟩, s₀, hs₀, rfl⟩

/-! ## Each nonce counts once -/

/-- The ballot and signature of a relayed vote. -/
def Op.relayed : Op → Option (CfpBallot × Bytes)
  | .plain (.castCfpApprovalVoteBySig v signature) => some (v, signature)
  | _ => none

/-- The relayed ballots of a journal, newest first. -/
def relayedBallots (journal : List GovernorEntry) : List (CfpBallot × Bytes) :=
  journal.filterMap fun e ↦ e.op.relayed

/-- What one step does to the nonces: only a relayed ballot moves one, from the nonce that was
signed to the next. -/
theorem Small.nonce_change {w w' : GovernorWorld} (h : Small P d w w') :
    (w'.state.votingNonces = w.state.votingNonces ∧
      relayedBallots w'.journal = relayedBallots w.journal) ∨
    ∃ v signature n, Relays P d w.block (w'.journal.head?.elim 0 fun e ↦ e.msg.sender) v signature
        w.state n ∧
      w'.state.votingNonces = Function.update w.state.votingNonces v.member n ∧
      relayedBallots w'.journal = (v, signature) :: relayedBallots w.journal := by
  cases h with
  | tick | resume => exact .inl ⟨rfl, rfl⟩
  | execute => exact .inl ⟨rfl, rfl⟩
  | plain msg op s heff =>
    cases heff with
    | castCfpApprovalVoteBySig v signature n cost spent q hrelay =>
      exact .inr ⟨v, signature, n, hrelay, rfl, rfl⟩
    | _ => exact .inl ⟨rfl, rfl⟩

theorem Small.votingNonces_le {w w' : GovernorWorld} (h : Small P d w w') (m : Address) :
    (w.state.votingNonces m : ℕ) ≤ w'.state.votingNonces m := by
  obtain ⟨hsame, -⟩ | ⟨v, signature, n, hrelay, hupdate, -⟩ := h.nonce_change
  · rw [hsame]
  · rw [hupdate]
    by_cases hm : m = v.member
    · subst hm
      rw [Function.update_self, hrelay.next_eq]
      exact Nat.le_succ _
    · rw [Function.update_of_ne hm]

/-- Every relayed ballot has used up its nonce, and no nonce of a member was used twice. -/
structure NoncesUsed (w : GovernorWorld) : Prop where
  below : ∀ x ∈ relayedBallots w.journal, (x.1.nonce : ℕ) < w.state.votingNonces x.1.member
  nodup : ((relayedBallots w.journal).map fun x ↦ (x.1.member, x.1.nonce)).Nodup

theorem Small.noncesUsed {w w' : GovernorWorld} (hw : NoncesUsed w) (h : Small P d w w') :
    NoncesUsed w' := by
  have hkeep : ∀ x ∈ relayedBallots w.journal,
      (x.1.nonce : ℕ) < w'.state.votingNonces x.1.member :=
    fun x hx ↦ (hw.below x hx).trans_le (h.votingNonces_le _)
  obtain ⟨-, hsame⟩ | ⟨v, signature, n, hrelay, hupdate, hcons⟩ := h.nonce_change
  · exact ⟨by rwa [hsame], by rw [hsame]; exact hw.nodup⟩
  · constructor
    · intro x hx
      rw [hcons] at hx
      obtain rfl | hx := List.mem_cons.mp hx
      · rw [hupdate, Function.update_self, hrelay.next_eq, hrelay.nonce_eq]
        exact Nat.lt_succ_self _
      · exact hkeep x hx
    · rw [hcons, List.map_cons, List.nodup_cons]
      refine ⟨fun hmem ↦ ?_, hw.nodup⟩
      -- An earlier ballot with this nonce would have used it up.
      obtain ⟨x, hx, heq⟩ := List.mem_map.mp hmem
      obtain ⟨hmember, hnonce⟩ := Prod.mk.inj heq
      have hbelow := hw.below x hx
      rw [hmember, hnonce, hrelay.nonce_eq] at hbelow
      exact lt_irrefl _ hbelow

theorem Observable.noncesUsed {w : GovernorWorld} (h : Observable P d w) : NoncesUsed w :=
  h.invariant (I := NoncesUsed) (fun _ ↦ ⟨by simp [relayedBallots, genesis],
    by simp [relayedBallots, genesis]⟩) (fun _ _ _ hw hs ↦ hs.noncesUsed hw)

/-- What typed data and ECDSA promise about a run: the ballots that recover to their member have been
signed, and each signature was made for one ballot. -/
structure Unforgeable (P : Primitives) (d : Deployment) (signed : CfpBallot → Bytes → Prop)
    (w : GovernorWorld) : Prop where
  genuine : ∀ e ∈ w.journal, ∀ v signature, e.op.relayed = some (v, signature) →
    P.recover (v.digest P d e.block) signature = some v.member → signed v signature
  one_ballot : ∀ v v' signature, signed v signature → signed v' signature → v = v'

/-- A relayed ballot in the journal passed every check. -/
theorem Called.relays {e : GovernorEntry} {s : State} (h : Called P d e s) {v : CfpBallot}
    {signature : Bytes} (hop : e.op.relayed = some (v, signature)) :
    ∃ n, Relays P d e.block e.msg.sender v signature e.before n ∧
      s.votingNonces v.member = n := by
  obtain ⟨b, msg, op, before, callout⟩ := e
  cases op with
  | executeProposal => cases hop
  | plain op =>
    cases h with
    | castCfpApprovalVoteBySig v₀ signature₀ n cost spent q hrelay =>
      obtain ⟨rfl, rfl⟩ := Prod.mk.inj (Option.some.inj hop)
      exact ⟨n, hrelay, Function.update_self ..⟩
    | _ => cases hop

/-- A relayed ballot puts the signed intensity on record. -/
theorem Called.relayed_intensity {e : GovernorEntry} {s : State} (h : Called P d e s)
    {v : CfpBallot} {signature : Bytes} (hop : e.op.relayed = some (v, signature)) :
    (s.ballots v.proposalId v.member).intensity = v.intensity := by
  obtain ⟨b, msg, op, before, callout⟩ := e
  cases op with
  | executeProposal => cases hop
  | plain op =>
    cases h with
    | castCfpApprovalVoteBySig v₀ signature₀ n cost spent q =>
      obtain ⟨rfl, rfl⟩ := Prod.mk.inj (Option.some.inj hop)
      simp
    | _ => cases hop

theorem Observable.signatures_nodup {w : GovernorWorld} (h : Observable P d w)
    {signed : CfpBallot → Bytes → Prop} (hsigned : Unforgeable P d signed w) :
    ((relayedBallots w.journal).map Prod.snd).Nodup := by
  have hall : ∀ x ∈ relayedBallots w.journal, signed x.1 x.2 := by
    intro x hx
    obtain ⟨e, he, hop⟩ := List.mem_filterMap.mp hx
    obtain ⟨later, earlier, hsplit⟩ := List.append_of_mem he
    obtain ⟨s, hocc⟩ := h.exists_occurs (hsplit ▸ List.suffix_append later (e :: earlier))
    obtain ⟨n, hrelay, -⟩ := hocc.called.relays hop
    exact hsigned.genuine e he x.1 x.2 hop hrelay.signed
  have hnodup := List.Nodup.of_map _ h.noncesUsed.nodup
  refine hnodup.map_on fun x hx y hy heq ↦ ?_
  have hballot : x.1 = y.1 :=
    hsigned.one_ballot x.1 y.1 x.2 (hall x hx) (heq ▸ hall y hy)
  exact Prod.ext hballot heq

/-! ## A relayed ballot refines the member's own vote -/

theorem attempt_rejected (inner : Calls Msg Op) (success : Bool) {w : GovernorWorld} {msg : Msg}
    {v : CfpBallot} {signature : Bytes}
    (h : ∀ s', castCfpApprovalVoteBySig P d w.block msg.sender v signature w.state ≠ .ok s') :
    ∃ error, (contract P d).attempt msg (.plain (.castCfpApprovalVoteBySig v signature)) inner
      success w = .error error := by
  apply Contract.attempt_error_of_call
  intro o ho
  obtain ⟨-, ho⟩ := revertIf_bind_eq_ok.mp ho
  obtain ⟨s', hs', -⟩ := bind_eq_ok.mp ho
  exact h s' hs'

/-- Below the last nonce a signed ballot succeeds exactly when the member's own vote would, with the
same effect up to the nonce; it succeeds in no other context; in a run no nonce of a member and no
signature is accepted twice; and a rejected ballot changes nothing. -/
theorem relayed_refines_direct :
    (∀ (b : Block) (relayer : Address) (v : CfpBallot) (signature : Bytes) (s : State),
      Presents P d b relayer v signature s →
      (s.votingNonces v.member : ℕ) + 1 < 2 ^ 256 →
      ((∃ s', castCfpApprovalVoteBySig P d b relayer v signature s = .ok s') ↔
        ∃ s₀, castCfpApprovalVote b v.member v.proposalId v.intensity s = .ok s₀) ∧
      ∀ s' s₀, castCfpApprovalVoteBySig P d b relayer v signature s = .ok s' →
        castCfpApprovalVote b v.member v.proposalId v.intensity s = .ok s₀ →
        ∃ n : Uint 256, (n : ℕ) = s.votingNonces v.member + 1 ∧
          s' = s₀.withNonce v.member n) ∧
    (∀ (b : Block) (relayer : Address) (v : CfpBallot) (signature : Bytes) (s s' : State),
      castCfpApprovalVoteBySig P d b relayer v signature s = .ok s' →
      Presents P d b relayer v signature s) ∧
    (∀ w, Reachable P d w →
      ((relayedBallots w.journal).map fun x ↦ (x.1.member, x.1.nonce)).Nodup ∧
      ∀ signed, Unforgeable P d signed w → ((relayedBallots w.journal).map Prod.snd).Nodup) ∧
    (∀ (w : GovernorWorld) (tx : GovernorTx) v signature,
      tx.op = .plain (.castCfpApprovalVoteBySig v signature) →
      (∀ s', castCfpApprovalVoteBySig P d tx.block tx.msg.sender v signature w.state ≠ .ok s') →
      (contract P d).transact tx w = { w with block := tx.block }) ∧
    ∀ (w : GovernorWorld) msg v signature inner success rest,
      (∀ s', castCfpApprovalVoteBySig P d w.block msg.sender v signature w.state ≠ .ok s') →
      (contract P d).runCalls
          (.cons msg (.plain (.castCfpApprovalVoteBySig v signature)) inner success rest) w =
        (contract P d).runCalls rest w := by
  refine ⟨fun b relayer v signature s hpresents hnonce ↦ ⟨⟨?_, ?_⟩, ?_⟩,
    fun b relayer v signature s s' h ↦ presents_of_ok h,
    fun w hw ↦ ⟨hw.observable.noncesUsed.nodup, fun signed ↦ hw.observable.signatures_nodup⟩,
    fun w tx v signature hop h ↦ ?_, fun w msg v signature inner success rest h ↦ ?_⟩
  · rintro ⟨s', hs'⟩
    obtain ⟨s₀, -, hs₀, -⟩ := (relay_iff_direct hpresents).mp hs'
    exact ⟨s₀, hs₀⟩
  · rintro ⟨s₀, hs₀⟩
    exact ⟨_, (relay_iff_direct hpresents).mpr
      ⟨s₀, ⟨s.votingNonces v.member + 1, hnonce⟩, hs₀, rfl, rfl⟩⟩
  · intro s' s₀ hs' hs₀
    obtain ⟨s₁, n, hs₁, hn, rfl⟩ := (relay_iff_direct hpresents).mp hs'
    cases hs₀.symm.trans hs₁
    exact ⟨n, hn, rfl⟩
  · obtain ⟨error, herror⟩ := attempt_rejected tx.inner tx.success (w := { w with block := tx.block }) h
    exact Contract.transact_of_error (hop ▸ herror)
  · obtain ⟨error, herror⟩ := attempt_rejected inner success h
    exact Contract.runCalls_cons_of_error herror

namespace Sample

def relayer : Address := 3

def appointment : GovernorTx :=
  tx 1020 admin (.access (.grantRole (RELAYER_ROLE primitives) relayer))

/-- The creator votes against the proposal. -/
def directVote (timestamp : ℕ) : GovernorTx :=
  tx timestamp creator (.castCfpApprovalVote 1 ⟨-1, by decide⟩)

/-- The ballot that the creator has signed for the proposal. -/
def relayedVote : GovernorTx :=
  tx 1040 relayer (.castCfpApprovalVoteBySig (signedBallot 0) firstSignature)

end Sample

/-- The creator's signed ballot is as good as a vote of its own, and counts once. -/
theorem relayed_refines_direct_sample :
    ((∃ s', castCfpApprovalVoteBySig Sample.primitives Sample.deployment ⟨1040, 80002⟩
        Sample.relayer (Sample.signedBallot 0) Sample.firstSignature
        (Sample.after (Sample.preparation ++ [Sample.appointment])).state = .ok s') ↔
      ∃ s₀, castCfpApprovalVote ⟨1040, 80002⟩ Sample.creator 1 ⟨2, by decide⟩
        (Sample.after (Sample.preparation ++ [Sample.appointment])).state = .ok s₀) ∧
    ((relayedBallots (Sample.after (Sample.preparation ++
      [Sample.appointment, Sample.relayedVote])).journal).map Prod.snd).Nodup := by
  refine ⟨(relayed_refines_direct.1 _ _ _ _ _ ?_ ?_).1,
    (relayed_refines_direct.2.2.1 _ (Sample.reachable_after (by decide))).2
      (fun v signature ↦ v = Sample.signedBallot 0 ∧ signature = Sample.firstSignature)
      ⟨?_, ?_⟩⟩
  · decide +kernel
  · decide +kernel
  · intro e he v signature hop _
    have hballots : relayedBallots (Sample.after (Sample.preparation ++
        [Sample.appointment, Sample.relayedVote])).journal =
          [(Sample.signedBallot 0, Sample.firstSignature)] := by decide +kernel
    have hmem : (v, signature) ∈ [(Sample.signedBallot 0, Sample.firstSignature)] :=
      hballots ▸ List.mem_filterMap.mpr ⟨e, he, hop⟩
    exact Prod.mk.inj (List.mem_singleton.mp hmem)
  · rintro v v' signature ⟨rfl, -⟩ ⟨rfl, -⟩
    rfl

/-- Under the last nonce there is no next one: the relayed ballot fails where the vote does not. -/
theorem lastNonce_not_relayed :
    Presents Sample.primitives Sample.deployment ⟨1050, 80002⟩ Sample.relayer
      (Sample.signedBallot (Fin.last _)) Sample.lastSignature
      ((Sample.after (Sample.preparation ++ [Sample.appointment])).state.withNonce Sample.creator
        (Fin.last _)) ∧
    (∃ s₀, castCfpApprovalVote ⟨1050, 80002⟩ Sample.creator 1 ⟨2, by decide⟩
      ((Sample.after (Sample.preparation ++ [Sample.appointment])).state.withNonce Sample.creator
        (Fin.last _)) = .ok s₀) ∧
    ∀ s', castCfpApprovalVoteBySig Sample.primitives Sample.deployment ⟨1050, 80002⟩
      Sample.relayer (Sample.signedBallot (Fin.last _)) Sample.lastSignature
      ((Sample.after (Sample.preparation ++ [Sample.appointment])).state.withNonce Sample.creator
        (Fin.last _)) ≠ .ok s' := by
  have hpresents : Presents Sample.primitives Sample.deployment ⟨1050, 80002⟩ Sample.relayer
      (Sample.signedBallot (Fin.last _)) Sample.lastSignature
      ((Sample.after (Sample.preparation ++ [Sample.appointment])).state.withNonce Sample.creator
        (Fin.last _)) := by decide +kernel
  refine ⟨hpresents, exists_ok_of_isOk (by decide +kernel), fun s' hs' ↦ ?_⟩
  obtain ⟨s₀, n, -, hn, -⟩ := (relay_iff_direct hpresents).mp hs'
  have hlast : ((Fin.last _ : Uint 256) : ℕ) + 1 < 2 ^ 256 := hn ▸ n.isLt
  exact absurd hlast (by decide)

/-! ## Older signatures -/

/-- A member signs a ballot at some moment, away from the chain. -/
structure Signing where
  ballot : CfpBallot
  signature : Bytes
  moment : ℕ

/-- The moments at which ballots were signed, and at which the calls of the journal took effect. -/
structure Timeline where
  signings : List Signing
  effect : ℕ → ℕ
  effect_mono : StrictMono effect

/-- A signature that can be in order: on one of the blocks it is the member's, and the ballot is for the
session of the proposal and in the House of the member. -/
structure Signing.InOrder (P : Primitives) (d : Deployment) (blocks : List Block) (s : State)
    (x : Signing) : Prop where
  signed : ∃ b ∈ blocks, P.recover (x.ballot.digest P d b) x.signature = some x.ballot.member
  session_eq : (s.proposals x.ballot.proposalId).sessionId = x.ballot.sessionId
  house_eq : s.memberHouse x.ballot.sessionId x.ballot.member = x.ballot.house

instance (blocks : List Block) (s : State) (x : Signing) : Decidable (x.InOrder P d blocks s) :=
  decidable_of_iff
    ((∃ b ∈ blocks, P.recover (x.ballot.digest P d b) x.signature = some x.ballot.member) ∧
      (s.proposals x.ballot.proposalId).sessionId = x.ballot.sessionId ∧
      s.memberHouse x.ballot.sessionId x.ballot.member = x.ballot.house)
    ⟨fun ⟨h₁, h₂, h₃⟩ ↦ ⟨h₁, h₂, h₃⟩, fun ⟨h₁, h₂, h₃⟩ ↦ ⟨h₁, h₂, h₃⟩⟩

/-- The call casts a ballot of `member` on the proposal `id`. -/
def Casts (e : GovernorEntry) (id : Uint 256) (member : Address) : Prop :=
  (e.op.castBallot e.msg.sender).map (fun c ↦ (c.proposalId, c.member)) = some (id, member)

instance (e : GovernorEntry) (id : Uint 256) (member : Address) : Decidable (Casts e id member) :=
  inferInstanceAs (Decidable (_ = _))

namespace Timeline

variable (T : Timeline) (id : Uint 256) (member : Address)

/-- The member decided on the ballot of `e` after the moment `k`: it signed the ballot later, or sent
it later itself. The journal before `e` is `earlier`. -/
def DecidedAfter (k : ℕ) (e : GovernorEntry) (earlier : List GovernorEntry) : Prop :=
  (∃ x ∈ T.signings, e.op.relayed = some (x.ballot, x.signature) ∧ k < x.moment) ∨
    e.op.relayed = none ∧ k < T.effect earlier.length

instance (k : ℕ) (e : GovernorEntry) (earlier : List GovernorEntry) :
    Decidable (T.DecidedAfter k e earlier) :=
  inferInstanceAs (Decidable ((∃ x ∈ T.signings, _) ∨ _))

variable (P : Primitives) (d : Deployment) (blocks : List Block)

/-- When `e` casts a ballot, every older signature that is in order for that ballot is void from then
on: its nonce is used up, at the latest by `e`, or its deadline has passed. -/
def SettledAt (e : GovernorEntry) (earlier : List GovernorEntry) : Prop :=
  Casts e id member → ∀ x ∈ T.signings, x.ballot.proposalId = id → x.ballot.member = member →
    x.InOrder P d blocks e.before → T.DecidedAfter x.moment e earlier →
    (x.ballot.nonce : ℕ) <
        e.before.votingNonces member + (if e.op.relayed.isSome then 1 else 0) ∨
      (x.ballot.deadline : ℕ) < e.block.timestamp

instance (e : GovernorEntry) (earlier : List GovernorEntry) :
    Decidable (T.SettledAt id member P d blocks e earlier) :=
  inferInstanceAs (Decidable (_ → ∀ x ∈ T.signings, _))

def Settled : List GovernorEntry → Prop
  | [] => True
  | e :: earlier => T.SettledAt id member P d blocks e earlier ∧ Settled earlier

instance decidableSettled :
    (journal : List GovernorEntry) → Decidable (T.Settled id member P d blocks journal)
  | [] => .isTrue trivial
  | e :: earlier =>
    have := decidableSettled earlier
    inferInstanceAs (Decidable (T.SettledAt id member P d blocks e earlier ∧ _))

variable {T id member P d blocks}

theorem Settled.at {journal : List GovernorEntry} (h : T.Settled id member P d blocks journal)
    {e : GovernorEntry} {earlier : List GovernorEntry} (he : e :: earlier <:+ journal) :
    T.SettledAt id member P d blocks e earlier := by
  induction journal with
  | nil => cases List.suffix_nil.mp he
  | cons e' rest ih =>
    obtain heq | he := List.suffix_cons_iff.mp he
    · obtain ⟨rfl, rfl⟩ := List.cons.inj heq
      exact h.1
    · exact ih h.2 he

end Timeline

/-- No signature of the member's is accepted to any effect once another ballot of the member, decided
on after the signing, has been accepted for the proposal. -/
def NotUndone (P : Primitives) (d : Deployment) (T : Timeline) (id : Uint 256) (member : Address)
    (w : GovernorWorld) : Prop :=
  ∀ e s earlier, e :: earlier <:+ w.journal → Called P d e s → ∀ x ∈ T.signings,
    x.ballot.proposalId = id → x.ballot.member = member →
    e.op.relayed = some (x.ballot, x.signature) →
    (∃ e' earlier', e' :: earlier' <:+ earlier ∧ Casts e' id member ∧
      T.DecidedAfter x.moment e' earlier') →
    s.ballots id member = e.before.ballots id member ∧
      (∀ sessionId, s.spentVoiceCredits sessionId member =
        e.before.spentVoiceCredits sessionId member) ∧
      s.proposals id = e.before.proposals id

theorem Op.castBallot_of_relayed {op : Op} {sender : Address} {v : CfpBallot} {signature : Bytes}
    (h : op.relayed = some (v, signature)) :
    op.castBallot sender = some ⟨v.proposalId, v.member, v.intensity⟩ := by
  unfold Op.relayed at h
  split at h
  · obtain ⟨rfl, rfl⟩ := Prod.mk.inj (Option.some.inj h)
    rfl
  · cases h

namespace Occurs

variable {w : GovernorWorld} {e : GovernorEntry} {s : State} {earlier : List GovernorEntry}

theorem votingNonces_le (h : Occurs P d w e s earlier) (m : Address) :
    (s.votingNonces m : ℕ) ≤ w.state.votingNonces m :=
  run_invariant (I := fun v ↦ (s.votingNonces m : ℕ) ≤ v.state.votingNonces m)
    (fun _ _ _ hv hs ↦ hv.trans (hs.votingNonces_le m)) h.continued le_rfl

/-- A relayed ballot uses up the nonce it found. -/
theorem nonce_used (h : Occurs P d w e s earlier) {id : Uint 256} {member : Address}
    (hcasts : Casts e id member) :
    (e.before.votingNonces member : ℕ) + (if e.op.relayed.isSome then 1 else 0) ≤
      w.state.votingNonces member := by
  apply le_trans _ (h.votingNonces_le member)
  cases hrelayed : e.op.relayed with
  | none => exact h.step.votingNonces_le member
  | some relayed =>
    obtain ⟨v, signature⟩ := relayed
    obtain ⟨n, hrelay, hn⟩ := h.called.relays hrelayed
    have hmember : v.member = member := by
      rw [Casts, Op.castBallot_of_relayed hrelayed] at hcasts
      exact (Prod.mk.inj (Option.some.inj hcasts)).2
    subst hmember
    rw [hn, hrelay.next_eq]
    exact le_rfl

end Occurs

/-- An accepted signature was in order at every ballot of its member before. -/
theorem Relays.inOrder {e e' : GovernorEntry} {x : Signing} {n : Uint 256}
    {journal earlier : List GovernorEntry}
    (h : Relays P d e.block e.msg.sender x.ballot x.signature e.before n) (he : e ∈ journal)
    (hfound : Observable P d ⟨e.block, e.before, earlier⟩) (he' : e' ∈ earlier)
    (hcasts : Casts e' x.ballot.proposalId x.ballot.member) :
    x.InOrder P d (journal.map (·.block)) e'.before := by
  obtain ⟨c, hc, hballot⟩ := Option.map_eq_some_iff.mp hcasts
  obtain ⟨hid, -⟩ := Prod.mk.inj hballot
  obtain ⟨-, hsession, -, hhouse⟩ := hfound.membersFixed e' he' c hc
  dsimp only at hsession hhouse
  rw [hid, h.session_eq] at hsession hhouse
  exact ⟨⟨e.block, List.mem_map_of_mem he, h.signed⟩, hsession, by rw [hhouse, h.house_eq]⟩

/-- In a run whose ballots leave no older signature valid, no older signature undoes a later vote. -/
theorem later_vote_stands {w : GovernorWorld} (hw : Reachable P d w) (T : Timeline)
    (id : Uint 256) (member : Address)
    (hsettled : T.Settled id member P d (w.journal.map (·.block)) w.journal) :
    NotUndone P d T id member w := by
  rintro e s earlier hentry - x hx rfl rfl hop ⟨e', earlier', hsuffix, hcasts, hafter⟩
  obtain ⟨s₁, hocc⟩ := hw.observable.exists_occurs hentry
  obtain ⟨s', hocc'⟩ := hocc.found.exists_occurs hsuffix
  obtain ⟨n, hrelay, -⟩ := hocc.called.relays hop
  have hjournal : e' :: earlier' <:+ w.journal :=
    hsuffix.trans ((List.suffix_cons e earlier).trans hentry)
  exfalso
  have horder := hrelay.inOrder (hentry.subset List.mem_cons_self) hocc.found
    (hsuffix.subset List.mem_cons_self) hcasts
  obtain hnonce | hdeadline := hsettled.at hjournal hcasts x hx rfl rfl horder hafter
  · apply absurd hnonce
    rw [not_lt]
    calc (e'.before.votingNonces x.ballot.member : ℕ) + (if e'.op.relayed.isSome then 1 else 0)
        ≤ e.before.votingNonces x.ballot.member := hocc'.nonce_used hcasts
      _ = x.ballot.nonce := (congrArg Fin.val hrelay.nonce_eq).symm
  · exact absurd (hocc'.timestamp_le.trans hrelay.in_time) (not_le.mpr hdeadline)

namespace Sample

/-- The creator votes itself before its signed ballot is relayed. -/
def overtaken : List GovernorTx := [appointment, directVote 1030, relayedVote]

/-- The creator signs its ballot before anything else happens. -/
def timeline : Timeline where
  signings := [⟨signedBallot 0, firstSignature, 0⟩]
  effect k := k + 1
  effect_mono := strictMono_nat_of_lt_succ fun k ↦ Nat.lt_succ_self (k + 1)

end Sample

/-- The signed ballot is relayed first, and the creator's own vote after it stands. -/
theorem later_vote_stands_sample :
    NotUndone Sample.primitives Sample.deployment Sample.timeline 1 Sample.creator
      (Sample.after (Sample.preparation ++
        [Sample.appointment, Sample.relayedVote, Sample.directVote 1050])) :=
  later_vote_stands (Sample.reachable_after (by decide)) Sample.timeline 1 Sample.creator
    (by decide +kernel)

/-- What is computed of the two newest entries of a list. -/
theorem exists_newest {α : Type} {p : α → α → List α → Prop} [∀ e e' l, Decidable (p e e' l)]
    {l : List α}
    (h : (match l with
      | e :: e' :: earlier => decide (p e e' earlier)
      | _ => false) = true) :
    ∃ e e' earlier, l = e :: e' :: earlier ∧ p e e' earlier := by
  match l, h with
  | e :: e' :: earlier, h => exact ⟨e, e', earlier, rfl, of_decide_eq_true h⟩

/-- The creator votes against the proposal, and its older signed ballot then turns the vote. -/
theorem older_signature_undoes_vote :
    Reachable Sample.primitives Sample.deployment
      (Sample.after (Sample.preparation ++ Sample.overtaken)) ∧
    ¬ NotUndone Sample.primitives Sample.deployment Sample.timeline 1 Sample.creator
      (Sample.after (Sample.preparation ++ Sample.overtaken)) := by
  have hreach : Reachable Sample.primitives Sample.deployment
      (Sample.after (Sample.preparation ++ Sample.overtaken)) :=
    Sample.reachable_after (by decide)
  refine ⟨hreach, fun hundone ↦ ?_⟩
  -- The two newest calls are the relayed ballot and, before it, the creator's own vote.
  obtain ⟨e, e', earlier, hjournal, hrelayed, hbefore, hcasts, hlater⟩ :
      ∃ e e' earlier,
        (Sample.after (Sample.preparation ++ Sample.overtaken)).journal = e :: e' :: earlier ∧
        e.op.relayed = some (Sample.signedBallot 0, Sample.firstSignature) ∧
        (e.before.ballots 1 Sample.creator).intensity = ⟨-1, by decide⟩ ∧
        Casts e' 1 Sample.creator ∧ Sample.timeline.DecidedAfter 0 e' earlier :=
    exists_newest (by decide +kernel)
  have hentry : e :: e' :: earlier <:+
      (Sample.after (Sample.preparation ++ Sample.overtaken)).journal := by
    rw [hjournal]
  obtain ⟨s, hocc⟩ := hreach.observable.exists_occurs hentry
  obtain ⟨hkept, -⟩ := hundone e s (e' :: earlier) hentry hocc.called
    ⟨Sample.signedBallot 0, Sample.firstSignature, 0⟩ List.mem_cons_self rfl rfl hrelayed
    ⟨e', earlier, List.suffix_rfl, hcasts, hlater⟩
  have hcounted : (s.ballots 1 Sample.creator).intensity = ⟨2, by decide⟩ :=
    hocc.called.relayed_intensity hrelayed
  rw [hkept, hbefore] at hcounted
  exact absurd hcounted (by decide)

end CreatorFirst.Governor
