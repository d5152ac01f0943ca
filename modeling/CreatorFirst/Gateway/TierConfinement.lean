import CreatorFirst.Gateway.OwnRequests
import CreatorFirst.Gateway.ProfileChanges
import CreatorFirst.Gateway.TrustAuditLog

/-!
# Confinement of the tiers

A session for a track that requires a tier goes back to a support intent for its artist: the account was
given the tier when the intent became active, the intent was signed by its address, and the account had
proved that it controls this address before it asked for the intent.
-/

namespace CreatorFirst.Gateway

open Database Process

section Signed

variable {lib : Library}

/-- The signer that is recovered has this address. -/
def Recovers (lib : Library) (recovered : Option String) (address : String) : Prop :=
  ∃ signer, recovered = some signer ∧ lib.getAddress signer = some address

theorem recovers_of_challengeSigned {challenge : Challenge} {signature : String}
    (h : challengeSigned lib challenge signature = .ok ()) :
    Recovers lib (lib.recoverMessageAddress challenge.message signature) challenge.address := by
  simp only [challengeSigned, bind_eq_ok, requireSome_eq_ok] at h
  obtain ⟨signer, hsigner, h⟩ := h
  split at h
  · cases h
  · next address haddress =>
    rw [requireValue_eq_ok] at h
    exact ⟨signer, hsigner, h ▸ haddress⟩

theorem recovers_of_walletSigned {intent : AccountTrust.WalletIntent} {signature : Option String}
    (h : AccountTrust.walletSigned lib intent signature = .ok ()) :
    Recovers lib (signature.bind (lib.recoverTypedDataAddress intent.typedData)) intent.walletAddress := by
  simp only [AccountTrust.walletSigned, bind_eq_ok, requireSome_eq_ok] at h
  obtain ⟨signer, hsigner, h⟩ := h
  split at h
  · cases h
  · next address haddress =>
    rw [requireValue_eq_ok] at h
    exact ⟨signer, hsigner, h ▸ haddress⟩

theorem recovers_of_supportSigned {intent : SupportIntent} {body : Except Failure (Option String)}
    (h : supportSigned lib intent body = .ok ()) :
    ∃ signature, body = .ok (some signature) ∧
      Recovers lib (lib.recoverTypedDataAddress intent.typedData signature) intent.address := by
  simp only [supportSigned, bind_eq_ok, requireSome_eq_ok] at h
  obtain ⟨signature, rfl, signer, hsigner, h⟩ := h
  obtain ⟨signature, rfl, hsigner⟩ := Option.bind_eq_some_iff.mp hsigner
  refine ⟨signature, rfl, signer, hsigner, ?_⟩
  split at h
  · cases h
  · next address haddress =>
    rw [requireValue_eq_ok] at h
    exact h ▸ haddress

end Signed

namespace Server

section History

variable (lib : Library)

/-- In this step the account proves that it controls the address: the address has signed a challenge or
a binding intent that was issued to the account. -/
inductive ProvesWallet (accountId : AccountId) (address : String) (s : State) : Action → Prop
  | challenge (i : ℕ) (challenge : Challenge) (signature : String)
      (hrequest : s.request? accountId i = some (.verifyChallenge challenge.challengeId signature))
      (hfound : s.challenges.find? challenge.challengeId = some challenge)
      (howner : challenge.ownerId = accountId) (haddress : challenge.address = address)
      (hsigned : Recovers lib (lib.recoverMessageAddress challenge.message signature) address) :
      ProvesWallet accountId address s (.messageRecovered accountId i)
  | binding (i : ℕ) (held : AccountTrust.HeldWallet)
      (hheld : s.trust.heldWallet accountId i = some held)
      (howner : held.transaction.ownerId = accountId)
      (haddress : held.intent.walletAddress = address)
      (hsigned : Recovers lib
        (held.signature.bind (lib.recoverTypedDataAddress held.intent.typedData)) address) :
      ProvesWallet accountId address s (.trust (.walletRecovered accountId i))

/-- In this step the owner of the intent submits a signature of the intent by its address. -/
def SignsIntent (intent : SupportIntent) (s : State) (a : Action) : Prop :=
  ∃ i signature, a = .supportSignature intent.ownerId i (.ok (some signature)) ∧
    s.request? intent.ownerId i = some (.submitSupport intent.requestId) ∧
    Recovers lib (lib.recoverTypedDataAddress intent.typedData signature) intent.address

/-- In this step the owner of the intent asks for it, and is given it. -/
def RequestsIntent (config : ServerConfig) (intent : SupportIntent) (s : State) (a : Action) : Prop :=
  a.accountId? = some intent.ownerId ∧ s.supportIntents.find? intent.requestId = none ∧
    (step lib config s a).supportIntents.Holds intent.requestId
      fun created ↦ created.ownerId = intent.ownerId ∧ created.address = intent.address

variable (config : ServerConfig) (clock : Date)

/-- The owner of the intent has asked for it, and before that has proved that it controls the address. -/
def Requested (actions : List Action) (intent : SupportIntent) : Prop :=
  ∃ past a, past ++ [a] <+: actions ∧
    RequestsIntent lib config intent (run (step lib config) (start clock) past) a ∧
    Once (step lib config) (ProvesWallet lib intent.ownerId intent.address) (start clock) past

/-- An intent of the account for the artist was requested, signed and active. -/
def Supported (actions : List Action) (accountId : AccountId) (artistId : String) : Prop :=
  ∃ past intent, past <+: actions ∧
    (run (step lib config) (start clock) past).supportIntents.find? intent.requestId = some intent ∧
    intent.status = .sbtActive ∧ intent.ownerId = accountId ∧ intent.artistId = artistId ∧
    Requested lib config clock past intent ∧
    Once (step lib config) (SignsIntent lib intent) (start clock) past

end History

section Step

variable {lib : Library} {config : ServerConfig} {s : State} {a : Action}

/-- A wallet that an account has after a step was there before, or is proved in the step. -/
theorem walletAddress_step (howned : s.Owned) {accountId : AccountId} {address : String}
    (h : ((step lib config s a).accounts accountId).walletAddress = some address) :
    (s.accounts accountId).walletAddress = some address ∨ ProvesWallet lib accountId address s a := by
  have hchange := profile_change lib config s a accountId
  generalize (step lib config s a).accounts accountId = profile at hchange h
  cases hchange with
  | same | registered | activated | passkey | claimed => exact .inl h
  | signedIn i challenge signature ha hrequest hfound hsigned =>
    subst ha
    obtain rfl : challenge.address = address := Option.some.inj h
    obtain ⟨other, hother, howner⟩ := howned.own hrequest
    obtain rfl : challenge = other := Option.some.inj (hfound.symm.trans hother)
    exact .inr (.challenge i challenge signature hrequest hfound howner rfl
      (recovers_of_challengeSigned hsigned))
  | bound i held ha hheld hsigned =>
    subst ha
    obtain rfl : held.intent.walletAddress = address := Option.some.inj h
    obtain ⟨hfound, -, hrequest⟩ := AccountTrust.heldWallet_found hheld
    obtain ⟨other, hother, howner⟩ :=
      howned.wallets accountId _ _ _ (List.mem_of_getElem? hrequest)
    obtain rfl : held.transaction = other := Option.some.inj (hfound.symm.trans hother)
    exact .inr (.binding i held hheld howner rfl (recovers_of_walletSigned hsigned))

/-- A support intent before and after a step. -/
inductive IntentChange (lib : Library) (config : ServerConfig) (s : State) (a : Action)
    (intent : SupportIntent) : Prop
  | same (h : s.supportIntents.find? intent.requestId = some intent)
  | created (hrequests : RequestsIntent lib config intent s a)
      (hwallet : (s.accounts intent.ownerId).walletAddress = some intent.address)
      (hstatus : intent.status = .signatureRequired)
  | confirmed (before : SupportIntent)
      (hbefore : s.supportIntents.find? before.requestId = some before) (activateAt : ℕ)
      (h : intent = (SupportIntent.confirm activateAt).apply before) (hsigns : SignsIntent lib intent s a)
  | activated (before : SupportIntent)
      (hbefore : s.supportIntents.find? before.requestId = some before)
      (hstatus : before.status = .confirming) (h : intent = SupportIntent.activate.apply before)

theorem walletAddress_of_supportRequest {profile : Profile} {accountId : AccountId} {artistId : String}
    {body : Except Failure SupportBody} {request : SupportRequest}
    (h : supportRequest lib profile accountId artistId body = .ok request) :
    profile.walletAddress = some request.address := by
  simp only [supportRequest, bind_eq_ok, requireValue_eq_ok, pure_eq_ok] at h
  obtain ⟨_, -, address, -, _, hwallet, _, -, _, -, rfl⟩ := h
  exact hwallet

/-- What a step can do to a support intent. -/
theorem intent_change (howned : s.Owned) (hfresh : Fresh s a) {intent : SupportIntent}
    (h : (step lib config s a).supportIntents.find? intent.requestId = some intent) :
    IntentChange lib config s a intent := by
  have heffect := serve_effect lib config s a
  have hstep : step lib config s a = (serve lib config s a).1 := rfl
  generalize serve lib config s a = out at heffect hstep
  cases heffect with
  | intended accountId i artistId draws body request reply hrequest hfree =>
    have hnone : s.supportIntents.find? draws.requestId = none := hfresh
    have hset := Table.insert_set
      (r := newSupportIntent config s.clock accountId artistId draws request) hnone
    have hafter : (step lib config s (.supportBody accountId i draws body)).supportIntents =
        s.supportIntents.set (newSupportIntent config s.clock accountId artistId draws request) := by
      rw [hstep]
    rw [hafter, Table.find?_insert hset] at h
    split at h
    · obtain rfl := Option.some.inj h
      refine .created ⟨rfl, hnone, ?_⟩ (walletAddress_of_supportRequest hrequest) rfl
      rw [hafter]
      exact ⟨_, Table.find?_key ((Table.mem_insert hset).mpr (.inr rfl)), rfl, rfl⟩
    · exact .same h
  | confirmed accountId i before body reply hrequest hfound hsigned =>
    rw [hstep] at h
    obtain hbefore | ⟨-, row, hrow, -, hrewritten⟩ := Table.find?_of_update h
    · exact .same hbefore
    · obtain rfl : before = row := Option.some.inj (hfound.symm.trans hrow)
      obtain ⟨signature, rfl, hrecovers⟩ := recovers_of_supportSigned hsigned
      obtain ⟨other, hother, howner⟩ := howned.own hrequest
      obtain rfl : before = other := Option.some.inj (hfound.symm.trans hother)
      subst howner hrewritten
      exact .confirmed before hfound _ rfl ⟨i, signature, rfl, hrequest, hrecovers⟩
  | activated accountId before reply hfound howner hstatus =>
    rw [hstep] at h
    obtain hbefore | ⟨-, row, hrow, -, hrewritten⟩ := Table.find?_of_update h
    · exact .same hbefore
    · obtain rfl : before = row := Option.some.inj (hfound.symm.trans hrow)
      exact .activated before hfound hstatus hrewritten
  | _ =>
    rw [hstep] at h
    exact .same h

/-- A tier that an account has after a step was there before, or its intent is active now. -/
theorem tier_step {accountId : AccountId} {artistId : String}
    (h : ((step lib config s a).accounts accountId).tiers.lookup artistId ≠ none) :
    (s.accounts accountId).tiers.lookup artistId ≠ none ∨
      ∃ intent, (step lib config s a).supportIntents.find? intent.requestId = some intent ∧
        intent.status = .sbtActive ∧ intent.ownerId = accountId ∧ intent.artistId = artistId := by
  have hchange := profile_change lib config s a accountId
  generalize (step lib config s a).accounts accountId = profile at hchange h
  cases hchange with
  | same | registered | signedIn | passkey | bound | claimed => exact .inl h
  | activated intent ha hfound howner hstatus hafter =>
    rw [Profile.setTier, List.lookup_cons] at h
    split at h
    · next hartist =>
      refine .inr ⟨SupportIntent.activate.apply intent, ?_, rfl, howner, (eq_of_beq hartist).symm⟩
      rw [hafter]
      have hmem := (Table.find?_eq_some.mp hfound).1
      exact Table.find?_key (Table.mem_update_of_pos hmem trivial)
    · exact .inl h

variable (lib config) in
/-- In this step the session is created. -/
def Creates (s : State) (a : Action) (r : Session) : Prop :=
  s.store.session r.sessionId = none ∧ (step lib config s a).store.session r.sessionId = some r

/-- A session is created by an authorized playback request. -/
theorem authorizes_of_creates {r : Session} (h : Creates lib config s a r) :
    ∃ accountId draws body request track, a = .createPlayback accountId draws body ∧
      Authorizes config.toConfig s.clock (s.account accountId) body s.store request track ∧
      r.ownerId = accountId.text ∧ r.trackId = track.trackId := by
  obtain ⟨hnone, hsome⟩ := h
  have heffect := serve_effect lib config s a
  rw [step] at hsome
  generalize serve lib config s a = out at heffect hsome
  rw [Store.session] at hnone hsome
  cases heffect with
  | playback accountId draws body reply =>
    generalize hout : ((Gateway.createPlayback config.toConfig (playbackHash lib) s.clock
      (s.account accountId) draws body).execute s.store).2 = store at hsome
    obtain hsame | ⟨request, track, adapterRef, hauthorizes, hinsert⟩ := createPlayback_inserts hout
    · rw [hsame, hnone] at hsome
      cases hsome
    · rw [Table.find?_insert hinsert, hnone] at hsome
      split at hsome
      · obtain rfl := Option.some.inj hsome
        exact ⟨accountId, draws, body, request, track, rfl, hauthorizes, rfl, rfl⟩
      · cases hsome
  | expired | opened | recorded | closed =>
    obtain hbefore | ⟨hkey, row, hrow, -⟩ := Table.find?_of_update hsome
    · exact absurd hbefore (by simp [hnone])
    · rw [hkey, hrow] at hnone
      cases hnone
  | _ => exact absurd hsome (by simp [State.suspend, State.setRequest, State.setAccount, hnone])

/-- A track that requires a tier is authorized only for an account with a tier of its artist. -/
theorem tier_of_authorizes {now : Date} {account : Account} {body : Except Failure Body} {store : Store}
    {request : PlaybackRequest} {track : Track}
    (h : Authorizes config.toConfig now account body store request track)
    (hrequired : track.requiredCapability ≠ .basePlan) :
    account.tiers.lookup track.artistId ≠ none := by
  have hallows := (denial?_eq_none.mp h.denial_eq).2.2.1
  intro hnone
  rw [hnone, Option.getD_none] at hallows
  cases hcapability : track.requiredCapability with
  | basePlan => exact hrequired hcapability
  | supporter => simp [hcapability, capabilityAllows] at hallows
  | earlySupporter => simp [hcapability, capabilityAllows] at hallows

end Step

section Confinement

variable {lib : Library} {config : ServerConfig} {clock : Date} {past actions : List Action}

theorem Requested.of_isPrefix {intent : SupportIntent} (h : Requested lib config clock past intent)
    (hpast : past <+: actions) : Requested lib config clock actions intent := by
  obtain ⟨earlier, a, hearlier, hrequests, hproves⟩ := h
  exact ⟨earlier, a, hearlier.trans hpast, hrequests, hproves⟩

theorem Supported.of_isPrefix {accountId : AccountId} {artistId : String}
    (h : Supported lib config clock past accountId artistId) (hpast : past <+: actions) :
    Supported lib config clock actions accountId artistId := by
  obtain ⟨earlier, intent, hearlier, hrest⟩ := h
  exact ⟨earlier, intent, hearlier.trans hpast, hrest⟩

/-- Every wallet, intent and tier in the state goes back to the steps that account for it. -/
structure Traced (lib : Library) (config : ServerConfig) (clock : Date) (actions : List Action) (s : State) :
    Prop where
  wallets : ∀ accountId address, (s.accounts accountId).walletAddress = some address →
    Once (step lib config) (ProvesWallet lib accountId address) (start clock) actions
  requested : ∀ intent, s.supportIntents.find? intent.requestId = some intent →
    Requested lib config clock actions intent
  signed : ∀ intent, s.supportIntents.find? intent.requestId = some intent →
    intent.status ≠ .signatureRequired →
      Once (step lib config) (SignsIntent lib intent) (start clock) actions
  tiers : ∀ accountId artistId, (s.accounts accountId).tiers.lookup artistId ≠ none →
    Supported lib config clock actions accountId artistId

theorem traced_start : Traced lib config clock [] (start clock) where
  wallets _ _ h := absurd h (by simp [start])
  requested _ h := absurd h (by simp [start, Table.find?, Table.empty])
  signed _ h := absurd h (by simp [start, Table.find?, Table.empty])
  tiers _ _ h := absurd rfl h

theorem Traced.concat {a : Action}
    (h : Traced lib config clock past (run (step lib config) (start clock) past))
    (howned : (run (step lib config) (start clock) past).Owned)
    (hfresh : Fresh (run (step lib config) (start clock) past) a) :
    Traced lib config clock (past ++ [a]) (run (step lib config) (start clock) (past ++ [a])) := by
  have hrun : run (step lib config) (start clock) (past ++ [a]) =
      step lib config (run (step lib config) (start clock) past) a := run_append _ _ _ _
  have hpast : past <+: past ++ [a] := List.prefix_append past [a]
  have hrequested : ∀ intent,
      (run (step lib config) (start clock) (past ++ [a])).supportIntents.find? intent.requestId =
        some intent → Requested lib config clock (past ++ [a]) intent := by
    intro intent hfound
    rw [hrun] at hfound
    cases intent_change howned hfresh hfound with
    | same hbefore => exact (h.requested intent hbefore).of_isPrefix hpast
    | created hrequests hwallet =>
      exact ⟨past, a, List.prefix_rfl, hrequests, h.wallets _ _ hwallet⟩
    | confirmed before hbefore activateAt hintent =>
      subst hintent
      exact Requested.of_isPrefix (h.requested before hbefore) hpast
    | activated before hbefore hstatus hintent =>
      subst hintent
      exact Requested.of_isPrefix (h.requested before hbefore) hpast
  have hsigned : ∀ intent,
      (run (step lib config) (start clock) (past ++ [a])).supportIntents.find? intent.requestId =
        some intent → intent.status ≠ .signatureRequired →
          Once (step lib config) (SignsIntent lib intent) (start clock) (past ++ [a]) := by
    intro intent hfound hstatus
    rw [hrun] at hfound
    cases intent_change howned hfresh hfound with
    | same hbefore => exact (h.signed intent hbefore hstatus).of_isPrefix hpast
    | created _ _ hcreated => exact absurd hcreated hstatus
    | confirmed before hbefore activateAt hintent hsigns => exact once_concat.mpr (.inr hsigns)
    | activated before hbefore hconfirming hintent =>
      have honce := h.signed before hbefore (by simp [hconfirming])
      subst hintent
      exact honce.of_isPrefix hpast
  refine ⟨?_, hrequested, hsigned, ?_⟩
  · intro accountId address haddress
    rw [hrun] at haddress
    rw [once_concat]
    exact (walletAddress_step howned haddress).imp_left (h.wallets accountId address)
  · intro accountId artistId htier
    rw [hrun] at htier
    obtain hbefore | ⟨intent, hfound, hactive, howner, hartist⟩ := tier_step htier
    · exact (h.tiers accountId artistId hbefore).of_isPrefix hpast
    · rw [← hrun] at hfound
      exact ⟨past ++ [a], intent, List.prefix_rfl, hfound, hactive, howner, hartist,
        hrequested intent hfound, hsigned intent hfound (by simp [hactive])⟩

/-- In every run whose identifiers are new, the state is accounted for. -/
theorem traced_run (hfresh : EachStep (step lib config) Fresh (start clock) actions) :
    Traced lib config clock actions (run (step lib config) (start clock) actions) := by
  induction actions using List.reverseRecOn with
  | nil => exact traced_start
  | append_singleton past a ih =>
    obtain ⟨hbefore, hlast⟩ := EachStep.concat.mp hfresh
    exact (ih hbefore).concat (owned_run lib config hbefore).last hlast

/-- In every run whose identifiers are new, a session for a track that requires a tier is created only
for an account with an intent for the artist of the track that is active. The account has asked for the
intent after proving its wallet, and has signed it with this wallet. -/
theorem tier_confinement (lib : Library) (config : ServerConfig) (clock : Date) (actions : List Action)
    (hfresh : EachStep (step lib config) Fresh (start clock) actions) (past : List Action) (a : Action)
    (hpast : past ++ [a] <+: actions) (r : Session) (track : Track)
    (hcreates : Creates lib config (run (step lib config) (start clock) past) a r)
    (hmem : track ∈ catalog) (htrack : track.trackId = r.trackId)
    (hrequired : track.requiredCapability ≠ .basePlan) :
    ∃ accountId, a.accountId? = some accountId ∧ r.ownerId = accountId.text ∧
      Supported lib config clock past accountId track.artistId := by
  obtain ⟨accountId, draws, body, request, found, rfl, hauthorizes, howner, hfound⟩ :=
    authorizes_of_creates hcreates
  have hsame : found = track :=
    eq_of_trackId (List.mem_of_find?_eq_some hauthorizes.track_eq) hmem (hfound.symm.trans htrack.symm)
  subst hsame
  have hearlier : past <+: actions := (List.prefix_append past _).trans hpast
  exact ⟨accountId, rfl, howner, (traced_run (hfresh.of_isPrefix hearlier)).tiers accountId found.artistId
    (tier_of_authorizes hauthorizes hrequired)⟩

end Confinement

namespace Sample

def signInDraws : ChallengeDraws where
  challengeId := "0f6c8a52-93d7-4e1b-8a40-5d2f7c9b1e63"
  nonce := "65746d38394735237728d200"

def signInMessage : String :=
  siweMessage config firstWallet signInDraws.nonce clock (clock.advance challengeTtlMs) none

/-- The listener signs in with the first wallet. -/
def signIn : List Action := [
  .createChallenge listener signInDraws (.ok { address := some firstWallet, chainId := some 80002 }),
  .verifyChallenge listener (.ok (some
    ⟨some signInDraws.challengeId, some signInMessage, some siweSignature⟩)),
  .messageRecovered listener 0]

def supportDraws : SupportDraws where
  requestId := "c7d1b3e9-5a24-4f86-b0c8-2e9f4a6d7b15"
  nonce := "5bbe219b224f6f8959fa8bc078a104685ddff3a3425cf40f81dd3a03430dc15f"

/-- It supports an artist, waits for the registration and polls it. -/
def support : List Action := [
  .createSupportIntent listener "artist-ao",
  .supportBody listener 1 supportDraws (.ok ⟨some firstWallet, some "support-key-1", some "1"⟩),
  .submitSupport listener supportDraws.requestId,
  .supportSignature listener 2 (.ok (some supportSignature)),
  .wait supportDelayMs,
  .supportRegistration listener supportDraws.requestId]

/-- A request for the track of the artist that requires a tier. -/
def playSupporterTrack : Action :=
  .createPlayback listener Gateway.Sample.firstDraws
    (.ok (.fields (some "track-mock-002") (some "play-key-1")))

def supporterSession : Session where
  sessionId := Gateway.Sample.firstDraws.playbackSessionId
  decisionId := Gateway.Sample.firstDraws.decisionId
  ownerId := listener.text
  trackId := "track-mock-002"
  adapterRef := "local-test-tone.wav"
  issuedAt := clock.ms + supportDelayMs
  expiresAt := clock.ms + supportDelayMs + config.playbackTtlMs

def supporterTrack : Track where
  trackId := "track-mock-002"
  artistId := "artist-ao"
  requiredCapability := .supporter
  rightsVersion := "mock-rights-v1"
  fileRef := "local-test-tone.wav"
  navidromeIdEnv := "NAVIDROME_MEDIA_ID_TRACK_MOCK_002"

end Sample

/-- The session of a supporter goes back to the support of the artist. -/
theorem tier_confinement_supporter :
    ∃ accountId, Sample.playSupporterTrack.accountId? = some accountId ∧
      Sample.supporterSession.ownerId = accountId.text ∧
      Supported Sample.library Sample.config Sample.clock (Sample.signIn ++ Sample.support) accountId
        "artist-ao" := by
  have hrun : EachStep (step Sample.library Sample.config) Fresh (start Sample.clock)
      (Sample.signIn ++ Sample.support ++ [Sample.playSupporterTrack]) := by
    decide +kernel
  have hcreates : (fun s ↦ s.store.session Sample.supporterSession.sessionId = none ∧
      (step Sample.library Sample.config s Sample.playSupporterTrack).store.session
        Sample.supporterSession.sessionId = some Sample.supporterSession)
      (run (step Sample.library Sample.config) (start Sample.clock) (Sample.signIn ++ Sample.support)) := by
    decide +kernel
  exact tier_confinement Sample.library Sample.config Sample.clock _ hrun
    (Sample.signIn ++ Sample.support) Sample.playSupporterTrack List.prefix_rfl Sample.supporterSession
    Sample.supporterTrack hcreates (by simp [catalog, Sample.supporterTrack]) rfl (by decide)

end Server

end CreatorFirst.Gateway
