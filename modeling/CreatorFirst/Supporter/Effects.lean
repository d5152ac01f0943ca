import CreatorFirst.Supporter.Machine

/-!
# What each operation of the credentials can do

For every external function, the facts that its success implies and the storage it leaves. A transfer
never succeeds: the token moves for nobody but the contract's own mint and burn.
-/

namespace CreatorFirst.Supporter

open Chain Relation

variable {P : Primitives} {T : Erc721 Address (Uint 256)} {d : Deployment} {b : Block}
  {sender : Address} {s s' : State T}

/-- Who owns a token, zero if nobody does. -/
def State.owner (s : State T) (tokenId : Uint 256) : Address := T.ownerOf s.tokens tokenId

theorem onlyRole_bind_eq_ok {α : Type} {role : Bytes32} {f : Unit → Except Error α} {y : α} :
    (onlyRole sender role s >>= f) = .ok y ↔ s.roles role sender = true ∧ f () = .ok y :=
  Roles.required_bind_eq_ok

theorem ownerOf_bind_eq_ok {α : Type} {tokenId : Uint 256} {f : Address → Except Error α} {y : α} :
    (ownerOf tokenId s >>= f) = .ok y ↔ s.owner tokenId ≠ 0 ∧ f (s.owner tokenId) = .ok y := by
  unfold ownerOf
  rw [bind_assoc, revertIf_bind_eq_ok]
  rfl

theorem inherited_eq_ok {r : Option T.State} :
    inherited r s = .ok s' ↔ ∃ tokens, r = some tokens ∧ { s with tokens } = s' := by
  unfold inherited
  cases r <;> simp

/-! ## Ownership -/

/-- What the contract's own `_update` does: it never moves a token between two owners. -/
theorem update_eq_ok {recipient auth previousOwner : Address} {tokenId : Uint 256}
    (h : update recipient tokenId auth s = .ok (previousOwner, s')) :
    previousOwner = s.owner tokenId ∧ (s.owner tokenId = 0 ∨ recipient = 0) ∧
      ∃ tokens, T.update recipient tokenId auth s.tokens = some tokens ∧
        { s with tokens } = s' := by
  obtain ⟨hlocked, h⟩ := revertIf_bind_eq_ok.mp h
  obtain ⟨s₁, htokens, h⟩ := bind_eq_ok.mp h
  obtain ⟨rfl, rfl⟩ := Prod.mk.inj (pure_eq_ok.mp h)
  refine ⟨rfl, ?_, inherited_eq_ok.mp htokens⟩
  by_contra hboth
  exact hlocked (not_or.mp hboth)

theorem mint_eq_ok {recipient : Address} {tokenId : Uint 256}
    (h : mint recipient tokenId s = .ok s') :
    s.owner tokenId = 0 ∧ ∃ tokens, T.update recipient tokenId 0 s.tokens = some tokens ∧
      { s with tokens } = s' := by
  simp only [mint, revertIf_bind_eq_ok] at h
  obtain ⟨-, h⟩ := h
  obtain ⟨⟨previousOwner, s₁⟩, hupdate, h⟩ := bind_eq_ok.mp h
  obtain ⟨rfl, -, htokens⟩ := update_eq_ok hupdate
  obtain ⟨hnew, h⟩ := revertIf_bind_eq_ok.mp h
  obtain rfl := pure_eq_ok.mp h
  exact ⟨not_not.mp hnew, htokens⟩

theorem burnToken_eq_ok {tokenId : Uint 256} (h : burnToken tokenId s = .ok s') :
    ∃ tokens, T.update 0 tokenId 0 s.tokens = some tokens ∧ { s with tokens } = s' := by
  obtain ⟨⟨previousOwner, s₁⟩, hupdate, h⟩ := bind_eq_ok.mp h
  obtain ⟨-, -, htokens⟩ := update_eq_ok hupdate
  obtain ⟨-, h⟩ := revertIf_bind_eq_ok.mp h
  obtain rfl := pure_eq_ok.mp h
  exact htokens

/-- No transfer goes through: an owned token is locked, and nobody may move one without an owner. -/
theorem transferFrom_ne_ok {owner recipient : Address} {tokenId : Uint 256} (hsender : sender ≠ 0) :
    transferFrom sender owner recipient tokenId s ≠ .ok s' := by
  intro h
  simp only [transferFrom, revertIf_bind_eq_ok] at h
  obtain ⟨hrecipient, h⟩ := h
  obtain ⟨⟨previousOwner, s₁⟩, hupdate, -⟩ := bind_eq_ok.mp h
  obtain ⟨-, hlocked, tokens, htokens, -⟩ := update_eq_ok hupdate
  have hunowned : s.owner tokenId = 0 := hlocked.resolve_right hrecipient
  rw [T.update_unowned hsender hunowned] at htokens
  cases htokens

theorem safeTransferFrom_ne_ok {owner recipient : Address} {tokenId : Uint 256}
    {o : Outcome (State T) ReceiverCall} (hsender : sender ≠ 0) :
    safeTransferFrom sender owner recipient tokenId s ≠ .ok o := by
  intro h
  obtain ⟨s₁, hs₁, -⟩ := bind_eq_ok.mp h
  exact transferFrom_ne_ok hsender hs₁

/-! ## Registration -/

/-- The intent that an operation hands in, with its signature. -/
def Op.intent (sender : Address) : Op → Option (SupportIntent × Bytes)
  | .registerSupporterWithSignature intent signature => some (intent, signature)
  | .registerSelf creatorId nonce deadline consentVersion signature =>
    some ({ creatorId, holder := sender, nonce, deadline, consentVersion }, signature)
  | _ => none

/-- Who calls the token in the end: the adapter, for those who register themselves. -/
def Op.relayer (d : Deployment) (sender : Address) : Op → Address
  | .registerSelf .. => d.adapter
  | _ => sender

/-- The adapter forwards only authorisations that end soon. -/
def Op.Timely (b : Block) : Op → Prop
  | .registerSelf _ _ deadline _ _ => (deadline : ℕ) ≤ b.timestamp + 900
  | _ => True

/-- The tier that a registration gets now. -/
def State.tierNow (s : State T) (b : Block) (creatorId : Bytes32) : Tier :=
  if isEarly b (s.earlyPolicies creatorId) then .earlySupporter else .supporter

/-- The credential that a registration issues now. -/
def State.issue (s : State T) (b : Block) (creatorId : Bytes32) : Credential where
  creatorId := creatorId
  tier := s.tierNow b creatorId
  policyVersion := (s.earlyPolicies creatorId).version
  issuedAt := Uint.truncate 64 b.timestamp
  active := true

/-- The checks of a registration, with the counters and the register it leaves. -/
structure Registers (P : Primitives) (T : Erc721 Address (Uint 256)) (d : Deployment) (b : Block)
    (relayer : Address) (v : SupportIntent) (signature : Bytes) (s : State T)
    (nonce : Uint 256) (earlyIssued : Uint 32) (nextTokenId : Uint 256) (tokens : T.State) :
    Prop where
  relayer : s.roles (RELAYER_ROLE P) relayer = true
  creator_ne : v.creatorId ≠ 0
  holder_ne : v.holder ≠ 0
  in_time : b.timestamp ≤ (v.deadline : ℕ)
  nonce_eq : v.nonce = s.nonces v.holder
  inactive : s.activeTokenOf v.creatorId v.holder = 0
  signed : P.recover (v.digest P d b) signature = some v.holder
  nextNonce_eq : (nonce : ℕ) = s.nonces v.holder + 1
  earlyIssued_eq : (earlyIssued : ℕ) = (s.earlyPolicies v.creatorId).earlyIssued +
    if isEarly b (s.earlyPolicies v.creatorId) then 1 else 0
  nextTokenId_eq : (nextTokenId : ℕ) = s.nextTokenId + 1
  unowned : s.owner s.nextTokenId = 0
  minted : T.update v.holder s.nextTokenId 0 s.tokens = some tokens

def State.withCredential (s : State T) (b : Block) (v : SupportIntent) (nonce : Uint 256)
    (earlyIssued : Uint 32) (nextTokenId : Uint 256) (tokens : T.State) : State T :=
  { s with
    tokens
    nonces := Function.update s.nonces v.holder nonce
    earlyPolicies := Function.update s.earlyPolicies v.creatorId
      { s.earlyPolicies v.creatorId with earlyIssued }
    nextTokenId
    credentials := Function.update s.credentials s.nextTokenId (s.issue b v.creatorId)
    activeTokenOf := update₂ s.activeTokenOf v.creatorId v.holder s.nextTokenId }

theorem countIssued_eq_ok {policy : EarlyPolicy} {next : Uint 32} :
    countIssued b policy = .ok next ↔
      (next : ℕ) = policy.earlyIssued + if isEarly b policy then 1 else 0 := by
  unfold countIssued
  split
  · exact Uint.increment_eq_ok
  · simp [Fin.ext_iff, eq_comm]

theorem register_ok {v : SupportIntent} {signature : Bytes} {o : Outcome (State T) ReceiverCall}
    (h : registerSupporterWithSignature P d b sender v signature s = .ok o) :
    ∃ nonce earlyIssued nextTokenId tokens,
      Registers P T d b sender v signature s nonce earlyIssued nextTokenId tokens ∧
      o = .callout (s.withCredential b v nonce earlyIssued nextTokenId tokens)
        ⟨v.holder, s.nextTokenId⟩ := by
  simp only [registerSupporterWithSignature, onlyRole_bind_eq_ok, revertIf_bind_eq_ok] at h
  obtain ⟨hrelayer, hcreator, hholder, htime, hnonce, hinactive, h⟩ := h
  obtain ⟨recovered, hrecovered, h⟩ := bind_eq_ok.mp h
  have hsigned : P.recover (v.digest P d b) signature = some recovered := by
    cases hrec : P.recover (v.digest P d b) signature with
    | none => simp [hrec] at hrecovered
    | some a => simpa [hrec] using hrecovered
  simp only [revertIf_bind_eq_ok, Uint.increment_bind_eq_ok] at h
  obtain ⟨hholder', nonce, hnext, h⟩ := h
  obtain ⟨earlyIssued, hearly, h⟩ := bind_eq_ok.mp h
  obtain ⟨nextTokenId, hid, h⟩ := Uint.increment_bind_eq_ok.mp h
  obtain ⟨s₁, hmint, h⟩ := bind_eq_ok.mp h
  obtain rfl := pure_eq_ok.mp h
  obtain ⟨hunowned, tokens, htokens, rfl⟩ := mint_eq_ok hmint
  obtain rfl : recovered = v.holder := not_not.mp hholder'
  exact ⟨nonce, earlyIssued, nextTokenId, tokens,
    ⟨hrelayer, hcreator, hholder, not_lt.mp htime, not_not.mp hnonce, not_not.mp hinactive, hsigned,
      hnext, countIssued_eq_ok.mp hearly, hid, hunowned, htokens⟩, rfl⟩

theorem registerSelf_ok {creatorId : Bytes32} {nonce deadline : Uint 256} {consentVersion : Bytes32}
    {signature : Bytes} {o : Outcome (State T) ReceiverCall}
    (h : registerSelf P d b sender creatorId nonce deadline consentVersion signature s = .ok o) :
    (deadline : ℕ) ≤ b.timestamp + 900 ∧
      registerSupporterWithSignature P d b d.adapter
        { creatorId, holder := sender, nonce, deadline, consentVersion } signature s = .ok o := by
  obtain ⟨latest, hlatest, h⟩ := bind_eq_ok.mp h
  obtain ⟨htime, h⟩ := revertIf_bind_eq_ok.mp h
  exact ⟨(Fin.le_def.mp (not_lt.mp htime)).trans_eq (Uint.fit_eq_ok.mp hlatest), h⟩

/-! ## Revocation and burning -/

/-- The storage once a token's credential is no longer active. -/
def State.deactivate (s : State T) (tokenId : Uint 256) (holder : Address) : State T :=
  if (s.credentials tokenId).active then
    { s with
      credentials := Function.update s.credentials tokenId
        { s.credentials tokenId with active := false }
      activeTokenOf := update₂ s.activeTokenOf (s.credentials tokenId).creatorId holder 0 }
  else s

theorem revoke_ok {tokenId : Uint 256} (h : revoke P sender tokenId s = .ok s') :
    s.roles (REVOKER_ROLE P) sender = true ∧ (s.credentials tokenId).active = true ∧
      s.owner tokenId ≠ 0 ∧ s' = s.deactivate tokenId (s.owner tokenId) := by
  simp only [revoke, onlyRole_bind_eq_ok, revertIf_bind_eq_ok, ownerOf_bind_eq_ok, pure_eq_ok,
    Bool.not_eq_false] at h
  obtain ⟨hrole, hactive, howner, rfl⟩ := h
  exact ⟨hrole, hactive, howner, (if_pos hactive).symm⟩

theorem burn_ok {tokenId : Uint 256} (h : burn P sender tokenId s = .ok s') :
    (sender = s.owner tokenId ∨ s.roles (REVOKER_ROLE P) sender = true) ∧ s.owner tokenId ≠ 0 ∧
      ∃ tokens, T.update 0 tokenId 0 s.tokens = some tokens ∧
        s' = { s.deactivate tokenId (s.owner tokenId) with tokens } := by
  simp only [burn, ownerOf_bind_eq_ok, revertIf_bind_eq_ok] at h
  obtain ⟨howner, hentitled, h⟩ := h
  obtain ⟨tokens, htokens, rfl⟩ := burnToken_eq_ok h
  refine ⟨?_, howner, tokens, ?_, rfl⟩
  · by_contra hneither
    obtain ⟨hholder, hrevoker⟩ := not_or.mp hneither
    exact hentitled ⟨hholder, Bool.not_eq_true _ ▸ hrevoker⟩
  · split at htokens <;> exact htokens

theorem setEarlyPolicy_ok {creatorId : Bytes32} {earlyUntil : Uint 64} {cap : Uint 32}
    {active : Bool} (h : setEarlyPolicy P b sender creatorId earlyUntil cap active s = .ok s') :
    s.roles (POLICY_ROLE P) sender = true ∧ creatorId ≠ 0 ∧
      (active = true → b.timestamp < (earlyUntil : ℕ) ∧ cap ≠ 0) ∧
      ∃ version : Uint 64, (version : ℕ) = (s.earlyPolicies creatorId).version + 1 ∧
        s' = { s with
          earlyPolicies := Function.update s.earlyPolicies creatorId
            ⟨earlyUntil, cap, (s.earlyPolicies creatorId).earlyIssued, version, active⟩ } := by
  simp only [setEarlyPolicy, onlyRole_bind_eq_ok, revertIf_bind_eq_ok, Uint.increment_bind_eq_ok,
    pure_eq_ok] at h
  obtain ⟨hrole, hcreator, hpolicy, version, hversion, rfl⟩ := h
  refine ⟨hrole, hcreator, fun hactive ↦ ?_, version, hversion, rfl⟩
  obtain ⟨htime, hcap⟩ := not_or.mp fun hbad ↦ hpolicy ⟨hactive, hbad⟩
  exact ⟨not_le.mp htime, hcap⟩

/-! ## All operations -/

/-- Roles, approvals and texts change; nothing about any credential does. -/
structure Administers (s s' : State T) : Prop where
  owner : s'.owner = s.owner
  nextTokenId : s'.nextTokenId = s.nextTokenId
  earlyPolicies : s'.earlyPolicies = s.earlyPolicies
  credentials : s'.credentials = s.credentials
  activeTokenOf : s'.activeTokenOf = s.activeTokenOf
  nonces : s'.nonces = s.nonces

def Op.administrative : Op → Bool
  | .access _ | .approve .. | .setApprovalForAll .. | .setMetadataUris .. => true
  | _ => false

theorem Op.intent_of_administrative {op : Op} (h : op.administrative = true) :
    op.intent sender = none := by
  cases op with
  | registerSupporterWithSignature | registerSelf => cases h
  | _ => rfl

/-- What each operation leaves, and whom it asks. -/
inductive Effect (P : Primitives) (T : Erc721 Address (Uint 256)) (d : Deployment) (b : Block)
    (sender : Address) (s : State T) : Op → State T → Option ReceiverCall → Prop
  | administer (op : Op) (s' : State T) (hop : op.administrative = true) (h : Administers s s') :
    Effect P T d b sender s op s' none
  | setEarlyPolicy (creatorId : Bytes32) (earlyUntil : Uint 64) (cap : Uint 32) (active : Bool)
      (version : Uint 64) (hversion : (version : ℕ) = (s.earlyPolicies creatorId).version + 1)
      (hactive : active = true → b.timestamp < (earlyUntil : ℕ) ∧ cap ≠ 0) :
      Effect P T d b sender s (.setEarlyPolicy creatorId earlyUntil cap active)
        { s with
          earlyPolicies := Function.update s.earlyPolicies creatorId
            ⟨earlyUntil, cap, (s.earlyPolicies creatorId).earlyIssued, version, active⟩ } none
  | register (op : Op) (v : SupportIntent) (signature : Bytes) (nonce : Uint 256)
      (earlyIssued : Uint 32) (nextTokenId : Uint 256) (tokens : T.State)
      (hop : op.intent sender = some (v, signature)) (htimely : op.Timely b)
      (h : Registers P T d b (op.relayer d sender) v signature s nonce earlyIssued nextTokenId
        tokens) :
      Effect P T d b sender s op (s.withCredential b v nonce earlyIssued nextTokenId tokens)
        (some ⟨v.holder, s.nextTokenId⟩)
  | revoke (tokenId : Uint 256) (hrevoker : s.roles (REVOKER_ROLE P) sender = true)
      (hactive : (s.credentials tokenId).active = true) (howner : s.owner tokenId ≠ 0) :
      Effect P T d b sender s (.revoke tokenId) (s.deactivate tokenId (s.owner tokenId)) none
  | burn (tokenId : Uint 256) (tokens : T.State)
      (hentitled : sender = s.owner tokenId ∨ s.roles (REVOKER_ROLE P) sender = true)
      (howner : s.owner tokenId ≠ 0) (hburned : T.update 0 tokenId 0 s.tokens = some tokens) :
      Effect P T d b sender s (.burn tokenId)
        { s.deactivate tokenId (s.owner tokenId) with tokens } none

theorem finish_eq_ok {r : Except Error (State T)} {o : Outcome (State T) ReceiverCall} :
    finish r = .ok o ↔ ∃ s', r = .ok s' ∧ o = .done s' := by
  unfold finish
  cases r with
  | error e => simp [bind, Except.bind]
  | ok s' => simp [bind, Except.bind, pure, Except.pure, eq_comm]

/-- Every successful operation is one of the effects. -/
theorem Op.effect {op : Op} {o : Outcome (State T) ReceiverCall} (hsender : sender ≠ 0)
    (h : op.apply P T d b sender s = .ok o) : Effect P T d b sender s op o.state o.frame? := by
  cases op with
  | access op =>
    obtain ⟨s', hs', rfl⟩ := finish_eq_ok.mp h
    obtain ⟨roles, -, hs'⟩ := bind_eq_ok.mp hs'
    obtain rfl := pure_eq_ok.mp hs'
    exact .administer _ _ rfl ⟨rfl, rfl, rfl, rfl, rfl, rfl⟩
  | setEarlyPolicy creatorId earlyUntil cap active =>
    obtain ⟨s', hs', rfl⟩ := finish_eq_ok.mp h
    obtain ⟨-, -, hactive, version, hversion, rfl⟩ := setEarlyPolicy_ok hs'
    exact .setEarlyPolicy creatorId earlyUntil cap active version hversion hactive
  | registerSupporterWithSignature v signature =>
    obtain ⟨nonce, earlyIssued, nextTokenId, tokens, hregisters, rfl⟩ := register_ok h
    exact .register _ v signature nonce earlyIssued nextTokenId tokens rfl trivial hregisters
  | registerSelf creatorId nonce deadline consentVersion signature =>
    obtain ⟨htimely, h⟩ := registerSelf_ok h
    obtain ⟨nonce, earlyIssued, nextTokenId, tokens, hregisters, rfl⟩ := register_ok h
    exact .register _ _ signature nonce earlyIssued nextTokenId tokens rfl htimely hregisters
  | revoke tokenId =>
    obtain ⟨s', hs', rfl⟩ := finish_eq_ok.mp h
    obtain ⟨hrevoker, hactive, howner, rfl⟩ := revoke_ok hs'
    exact .revoke tokenId hrevoker hactive howner
  | burn tokenId =>
    obtain ⟨s', hs', rfl⟩ := finish_eq_ok.mp h
    obtain ⟨hentitled, howner, tokens, hburned, rfl⟩ := burn_ok hs'
    exact .burn tokenId tokens hentitled howner hburned
  | approve recipient tokenId =>
    obtain ⟨s', hs', rfl⟩ := finish_eq_ok.mp h
    obtain ⟨tokens, htokens, rfl⟩ := inherited_eq_ok.mp hs'
    exact .administer _ _ rfl ⟨T.approve_owner htokens, rfl, rfl, rfl, rfl, rfl⟩
  | setApprovalForAll operator approved =>
    obtain ⟨s', hs', rfl⟩ := finish_eq_ok.mp h
    obtain ⟨tokens, htokens, rfl⟩ := inherited_eq_ok.mp hs'
    exact .administer _ _ rfl ⟨T.setApprovalForAll_owner htokens, rfl, rfl, rfl, rfl, rfl⟩
  | transferFrom owner recipient tokenId =>
    obtain ⟨s', hs', -⟩ := finish_eq_ok.mp h
    exact absurd hs' (transferFrom_ne_ok hsender)
  | safeTransferFrom owner recipient tokenId => exact absurd h (safeTransferFrom_ne_ok hsender)
  | setMetadataUris supporterMetadataUri earlyMetadataUri =>
    obtain ⟨s', hs', rfl⟩ := finish_eq_ok.mp h
    simp only [Supporter.setMetadataUris, onlyRole_bind_eq_ok, pure_eq_ok] at hs'
    obtain ⟨-, rfl⟩ := hs'
    exact .administer _ _ rfl ⟨rfl, rfl, rfl, rfl, rfl, rfl⟩

/-! ## Small steps -/

/-- The small steps: time passes, one call takes effect, or a receiver accepts its token. -/
inductive Small (P : Primitives) (T : Erc721 Address (Uint 256)) (d : Deployment)
    (w : SupporterWorld T) : SupporterWorld T → Prop
  | tick (b : Block) (h : w.block.timestamp ≤ b.timestamp) : Small P T d w { w with block := b }
  | call (msg : Msg) (op : Op) (s : State T) (callout : Option ReceiverCall)
      (h : Effect P T d w.block msg.sender w.state op s callout) :
      Small P T d w ⟨w.block, s, ⟨w.block, msg, op, w.state, callout⟩ :: w.journal⟩
  | resume : Small P T d w w

theorem call_eq_ok {msg : Msg} {op : Op} {o : Outcome (State T) ReceiverCall}
    (h : call P T d b msg op s = .ok o) :
    Effect P T d b msg.sender s op o.state o.frame? := by
  simp only [call, revertIf_bind_eq_ok, not_or] at h
  exact Op.effect h.1.1 h.2.2

theorem micro_small {w w' : SupporterWorld T} (h : (contract P T d).Micro w w') :
    Small P T d w w' := by
  cases h with
  | tick b hb => exact .tick b hb
  | call msg op o ho =>
    rw [World.log_eq]
    exact .call msg op o.state o.frame? (call_eq_ok ho)
  | resume frame accepted s hs =>
    obtain ⟨-, hs⟩ := revertIf_bind_eq_ok.mp hs
    obtain rfl := pure_eq_ok.mp hs
    exact .resume

/-- A property of the fresh proxy that every small step preserves holds throughout all runs. -/
theorem Observable.invariant {I : SupporterWorld T → Prop} (hgenesis : ∀ b, I (genesis P T d b))
    (hstep : ∀ w w', Observable P T d w → I w → Small P T d w w' → I w') {w : SupporterWorld T}
    (h : Observable P T d w) : I w := by
  obtain ⟨b, hb⟩ := h
  apply run_invariant _ hb (hgenesis b)
  intro v v' hrun hv hm
  exact hstep v v' ⟨b, hrun⟩ hv (micro_small hm)

end CreatorFirst.Supporter
