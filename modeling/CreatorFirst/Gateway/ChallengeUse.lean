import CreatorFirst.Gateway.TierConfinement

/-!
# Single use of sign-in challenges

A challenge is checked before the signer of the message is recovered and is marked as used afterwards.
A verification that resumes finds the challenge as it is then, so a challenge authenticates at most one
request, and none once it has expired, in exactly those runs in which every verification that succeeds
still finds it unused and unexpired.
-/

namespace CreatorFirst.Gateway.Server

open Database Process

variable (lib : Library) (config : ServerConfig)

/-- The challenge that a `verifyChallenge` which waits holds, and the signature. -/
def State.heldChallenge (s : State) (accountId : AccountId) (i : ℕ) : Option (Challenge × String) :=
  match s.request? accountId i with
  | some (.verifyChallenge challengeId signature) =>
    (s.challenges.find? challengeId).map fun challenge ↦ (challenge, signature)
  | _ => none

/-- The challenge that the request authenticates with, if it goes on with a valid signature. -/
def authentication? (s : State) : Action → Option Challenge
  | .messageRecovered accountId i =>
    ((s.heldChallenge accountId i).filter fun held ↦ (challengeSigned lib held.1 held.2).isOk).map (·.1)
  | _ => none

def Authenticates (challengeId : String) (s : State) (a : Action) : Prop :=
  (authentication? lib s a).map (·.challengeId) = some challengeId

instance (challengeId : String) (s : State) (a : Action) :
    Decidable (Authenticates lib challengeId s a) :=
  inferInstanceAs (Decidable (_ = _))

/-- Every authentication comes before the challenge expires. -/
def BeforeExpiry (s : State) (a : Action) : Prop :=
  ∀ challenge ∈ authentication? lib s a, s.clock.ms < challenge.expiresAt

instance (s : State) (a : Action) : Decidable (BeforeExpiry lib s a) :=
  inferInstanceAs (Decidable (∀ challenge ∈ authentication? lib s a, _))

/-- Every authentication still finds its challenge unused and unexpired. -/
def UsesLiveChallenge (s : State) (a : Action) : Prop :=
  ∀ challenge ∈ authentication? lib s a, challenge.used = false ∧ s.clock.ms < challenge.expiresAt

instance (s : State) (a : Action) : Decidable (UsesLiveChallenge lib s a) :=
  inferInstanceAs (Decidable (∀ challenge ∈ authentication? lib s a, _))

/-- The challenge is marked as used. -/
def State.spent (s : State) (challengeId : String) : Bool :=
  (s.challenges.find? challengeId).any (·.used)

variable {lib config} {s : State} {a : Action}

theorem serve_messageRecovered (accountId : AccountId) (i : ℕ) :
    serve lib config s (.messageRecovered accountId i) =
      match s.heldChallenge accountId i with
      | some (challenge, signature) => messageRecovered lib s accountId i challenge signature
      | none => (s, none) := by
  rw [serve, State.heldChallenge]
  cases s.request? accountId i with
  | none => rfl
  | some request =>
    cases request with
    | verifyChallenge challengeId signature =>
      dsimp only
      cases s.challenges.find? challengeId <;> rfl
    | _ => rfl

/-- What is held is among the challenges. -/
theorem find?_of_heldChallenge {accountId : AccountId} {i : ℕ} {challenge : Challenge}
    {signature : String} (h : s.heldChallenge accountId i = some (challenge, signature)) :
    s.challenges.find? challenge.challengeId = some challenge := by
  unfold State.heldChallenge at h
  split at h
  · obtain ⟨found, hfound, hsame⟩ := Option.map_eq_some_iff.mp h
    obtain rfl := (Prod.mk.inj hsame).1
    exact Table.find?_key (Table.find?_eq_some.mp hfound).1
  · cases h

theorem find?_of_authentication {challenge : Challenge} (h : authentication? lib s a = some challenge) :
    s.challenges.find? challenge.challengeId = some challenge := by
  cases a with
  | messageRecovered accountId i =>
    obtain ⟨⟨challenge', signature⟩, hheld, rfl⟩ := Option.map_eq_some_iff.mp h
    exact find?_of_heldChallenge (Option.filter_eq_some_iff.mp hheld).1
  | _ => cases h

theorem spent_of_authentication {challenge : Challenge}
    (h : authentication? lib s a = some challenge) :
    s.spent challenge.challengeId = challenge.used := by
  rw [State.spent, find?_of_authentication h]
  rfl

/-- The request is answered with an authentication exactly if it has one. -/
theorem reply_messageRecovered (accountId : AccountId) (i : ℕ) :
    (∃ label, (serve lib config s (.messageRecovered accountId i)).2 =
        some (.ok (.authenticated label))) ↔
      (authentication? lib s (.messageRecovered accountId i)).isSome := by
  rw [serve_messageRecovered, authentication?]
  cases s.heldChallenge accountId i with
  | none => simp
  | some held =>
    cases hsigned : challengeSigned lib held.1 held.2 <;>
      simp [messageRecovered, hsigned, Except.isOk, Except.toBool]

/-- What a verification that goes on does to the challenges. -/
theorem challenges_messageRecovered (accountId : AccountId) (i : ℕ) :
    (step lib config s (.messageRecovered accountId i)).challenges =
      match authentication? lib s (.messageRecovered accountId i) with
      | some challenge => s.challenges.update challenge.challengeId (fun _ ↦ True) Challenge.use
      | none => s.challenges := by
  rw [step, serve_messageRecovered, authentication?]
  cases s.heldChallenge accountId i with
  | none => rfl
  | some held =>
    cases hsigned : challengeSigned lib held.1 held.2 <;>
      simp [messageRecovered, hsigned, Option.filter, Except.isOk, Except.toBool, State.setRequest,
        State.setAccount]

theorem createChallenge_unused {now : Date} {p : Participation.State} {accountId : AccountId}
    {draws : ChallengeDraws} {body : Except Failure ChallengeBody} {challenge : Challenge}
    (h : Gateway.createChallenge lib config now p accountId draws body = .ok challenge) :
    challenge.used = false := by
  simp only [Gateway.createChallenge, bind_eq_ok, pure_eq_ok] at h
  obtain ⟨_, -, _, -, _, -, _, -, _, -, rfl⟩ := h
  rfl

/-- A challenge that is issued under an unknown identifier is not used. -/
theorem spent_createChallenge {accountId : AccountId} {draws : ChallengeDraws}
    {body : Except Failure ChallengeBody} (hfresh : Fresh s (.createChallenge accountId draws body))
    (challengeId : String) :
    (step lib config s (.createChallenge accountId draws body)).spent challengeId =
      s.spent challengeId := by
  have hfree : s.challenges.find? draws.challengeId = none := hfresh
  rw [step, serve, createChallenge]
  split
  · rfl
  · next challenge hissued =>
    have hid := createChallenge_challengeId hissued
    have hused := createChallenge_unused hissued
    unfold State.spent
    dsimp only
    rw [Table.find?_set]
    split
    · next hsame =>
      have hnone : s.challenges.find? challengeId = none := by
        rw [← hsame, hid]
        exact hfree
      simp [hnone, hused]
    · rfl

theorem challenges_step_of_ne (hcreate : ∀ accountId draws body, a ≠ .createChallenge accountId draws body)
    (hrecovered : ∀ accountId i, a ≠ .messageRecovered accountId i) :
    (step lib config s a).challenges = s.challenges := by
  have heffect := serve_effect lib config s a
  rw [step]
  generalize serve lib config s a = out at heffect ⊢
  cases heffect with
  | challenged accountId draws body => exact absurd rfl (hcreate accountId draws body)
  | signedIn accountId i => exact absurd rfl (hrecovered accountId i)
  | _ => rfl

/-- Authentications mark their challenge as used, and nothing else does. -/
theorem marks_spent (hfresh : Fresh s a) (challengeId : String) :
    Marks (step lib config) (Authenticates lib challengeId) (·.spent challengeId) s a := by
  unfold Marks
  by_cases hrecovered : ∃ accountId i, a = .messageRecovered accountId i
  · obtain ⟨accountId, i, rfl⟩ := hrecovered
    unfold State.spent Authenticates
    dsimp only
    rw [challenges_messageRecovered]
    cases hauth : authentication? lib s (.messageRecovered accountId i) with
    | none => simp
    | some challenge =>
      have hfound := find?_of_authentication hauth
      simp only [Option.map_some, Option.some.injEq]
      by_cases hsame : challenge.challengeId = challengeId
      · subst hsame
        rw [Table.find?_update_self, hfound]
        simp [Challenge.use]
      · rw [Table.find?_update_of_ne (Ne.symm hsame)]
        simp [hsame]
  · have hnone : ¬Authenticates lib challengeId s a := by
      intro h
      cases a with
      | messageRecovered accountId i => exact hrecovered ⟨accountId, i, rfl⟩
      | _ => cases h
    rw [or_iff_left hnone]
    by_cases hcreate : ∃ accountId draws body, a = .createChallenge accountId draws body
    · obtain ⟨accountId, draws, body, rfl⟩ := hcreate
      dsimp only
      rw [spent_createChallenge hfresh]
    · have hsame : (step lib config s a).challenges = s.challenges := by
        apply challenges_step_of_ne
        · intro accountId draws body h
          exact hcreate ⟨accountId, draws, body, h⟩
        · intro accountId i h
          exact hrecovered ⟨accountId, i, h⟩
      unfold State.spent
      dsimp only
      rw [hsame]

variable (lib config)

/-- In every run, each challenge authenticates at most one request and none after it has expired, if and
only if every authentication finds its challenge unused and unexpired. -/
theorem challenges_single_use_iff (clock : Date) (actions : List Action)
    (hfresh : EachStep (step lib config) Fresh (start clock) actions) :
    ((∀ challengeId, countSteps (step lib config) (Authenticates lib challengeId) (start clock)
          actions ≤ 1) ∧
        EachStep (step lib config) (BeforeExpiry lib) (start clock) actions) ↔
      EachStep (step lib config) (UsesLiveChallenge lib) (start clock) actions := by
  have hcount : ∀ challengeId, countSteps (step lib config) (Authenticates lib challengeId)
        (start clock) actions ≤ 1 ↔
      EachStep (step lib config) (fun s a ↦ Authenticates lib challengeId s a →
        s.spent challengeId = false) (start clock) actions := by
    intro challengeId
    apply countSteps_le_one_iff
    · exact hfresh.mono fun s a h ↦ marks_spent h challengeId
    · rfl
  simp only [hcount]
  rw [EachStep.forall]
  constructor
  · rintro ⟨hunspent, hbefore⟩
    apply (hunspent.and hbefore).mono
    rintro s a ⟨hunspent, hbefore⟩ challenge hauth
    refine ⟨?_, hbefore challenge hauth⟩
    rw [← spent_of_authentication hauth]
    have hauthenticates : Authenticates lib challenge.challengeId s a := by
      rw [Authenticates, Option.mem_def.mp hauth]
      rfl
    exact hunspent challenge.challengeId hauthenticates
  · intro hlive
    constructor
    · apply hlive.mono
      intro s a hlive challengeId hauth
      obtain ⟨challenge, hchallenge, rfl⟩ := Option.map_eq_some_iff.mp hauth
      rw [spent_of_authentication hchallenge]
      exact (hlive challenge hchallenge).1
    · exact hlive.mono fun s a hlive challenge hauth ↦ (hlive challenge hauth).2

namespace Sample

/-- The listener sends the signed message a second time before the first signer is recovered. -/
def signInTwice : List Action := [
  .createChallenge listener signInDraws (.ok { address := some firstWallet, chainId := some 80002 }),
  .verifyChallenge listener (.ok (some
    ⟨some signInDraws.challengeId, some signInMessage, some siweSignature⟩)),
  .verifyChallenge listener (.ok (some
    ⟨some signInDraws.challengeId, some signInMessage, some siweSignature⟩)),
  .messageRecovered listener 0,
  .messageRecovered listener 1]

/-- The signer is recovered when the challenge has expired. -/
def signInLate : List Action := [
  .createChallenge listener signInDraws (.ok { address := some firstWallet, chainId := some 80002 }),
  .verifyChallenge listener (.ok (some
    ⟨some signInDraws.challengeId, some signInMessage, some siweSignature⟩)),
  .wait challengeTtlMs,
  .messageRecovered listener 0]

end Sample

theorem challenges_single_use_signIn :
    (∀ challengeId, countSteps (step Sample.library Sample.config)
        (Authenticates Sample.library challengeId) (start Sample.clock) Sample.signIn ≤ 1) ∧
      EachStep (step Sample.library Sample.config) (BeforeExpiry Sample.library) (start Sample.clock)
        Sample.signIn :=
  (challenges_single_use_iff Sample.library Sample.config Sample.clock _ (by decide +kernel)).mpr
    (by decide +kernel)

/-- A challenge authenticates two requests, and one when it has expired. -/
theorem challenge_used_twice_and_late :
    EachStep (step Sample.library Sample.config) Fresh (start Sample.clock) Sample.signInTwice ∧
      countSteps (step Sample.library Sample.config)
        (Authenticates Sample.library Sample.signInDraws.challengeId) (start Sample.clock)
        Sample.signInTwice = 2 ∧
      EachStep (step Sample.library Sample.config) Fresh (start Sample.clock) Sample.signInLate ∧
      ¬EachStep (step Sample.library Sample.config) (BeforeExpiry Sample.library) (start Sample.clock)
        Sample.signInLate := by
  refine ⟨?_, ?_, ?_, ?_⟩ <;> decide +kernel

end CreatorFirst.Gateway.Server
