import CreatorFirst.Gateway.ChallengeUse

/-!
# The progress of a support intent

An intent waits for a signature, is confirmed and becomes active. Its status and its deadline are
checked before the body is read and the signer recovered, and it is confirmed afterwards. In exactly
those runs in which every submission that is accepted finds its intent still waiting and in time, no
intent goes back, none is accepted twice and none after its deadline.
-/

namespace CreatorFirst.Gateway

open Database Process

/-- The next status, or the same. -/
inductive SupportStatus.Follows : SupportStatus → SupportStatus → Prop
  | same (status : SupportStatus) : Follows status status
  | confirmed : Follows .signatureRequired .confirming
  | activated : Follows .confirming .sbtActive

namespace Server

variable (lib : Library) (config : ServerConfig)

/-- The intent that a `submitSupport` which waits holds. -/
def State.heldIntent (s : State) (accountId : AccountId) (i : ℕ) : Option SupportIntent :=
  match s.request? accountId i with
  | some (.submitSupport requestId) => s.supportIntents.find? requestId
  | _ => none

/-- The intent whose submission is accepted. -/
def acceptance? (s : State) : Action → Option SupportIntent
  | .supportSignature accountId i body =>
    (s.heldIntent accountId i).filter fun intent ↦ (supportSigned lib intent body).isOk
  | _ => none

def Accepts (requestId : String) (s : State) (a : Action) : Prop :=
  (acceptance? lib s a).map (·.requestId) = some requestId

instance (requestId : String) (s : State) (a : Action) : Decidable (Accepts lib requestId s a) :=
  inferInstanceAs (Decidable (_ = _))

/-- Every submission is accepted before the deadline of the intent, which is in seconds. -/
def BeforeDeadline (s : State) (a : Action) : Prop :=
  ∀ intent ∈ acceptance? lib s a, s.clock.ms < 1000 * intent.deadline

instance (s : State) (a : Action) : Decidable (BeforeDeadline lib s a) :=
  inferInstanceAs (Decidable (∀ intent ∈ acceptance? lib s a, _))

/-- Every submission that is accepted finds its intent waiting for it and in time. -/
def AcceptsWaiting (s : State) (a : Action) : Prop :=
  ∀ intent ∈ acceptance? lib s a,
    intent.status = .signatureRequired ∧ s.clock.ms < 1000 * intent.deadline

instance (s : State) (a : Action) : Decidable (AcceptsWaiting lib s a) :=
  inferInstanceAs (Decidable (∀ intent ∈ acceptance? lib s a, _))

/-- Intents appear in the first status and move on to the next one only. -/
structure Progresses (s s' : State) : Prop where
  appears : ∀ requestId intent, s.supportIntents.find? requestId = none →
    s'.supportIntents.find? requestId = some intent → intent.status = .signatureRequired
  moves : ∀ requestId intent, s.supportIntents.find? requestId = some intent →
    ∃ intent', s'.supportIntents.find? requestId = some intent' ∧
      intent.status.Follows intent'.status

/-- The intent has been submitted. -/
def State.submitted (s : State) (requestId : String) : Bool :=
  (s.supportIntents.find? requestId).any fun intent ↦ intent.status ≠ .signatureRequired

variable {lib config} {s : State} {a : Action}

theorem serve_supportSignature (accountId : AccountId) (i : ℕ) (body : Except Failure (Option String)) :
    serve lib config s (.supportSignature accountId i body) =
      match s.heldIntent accountId i with
      | some intent => supportSignature lib (s.setRequest accountId i .ended) intent body
      | none => (s, none) := by
  rw [serve, State.heldIntent]
  cases s.request? accountId i with
  | none => rfl
  | some request =>
    cases request with
    | submitSupport requestId => rfl
    | _ => rfl

theorem find?_of_heldIntent {accountId : AccountId} {i : ℕ} {intent : SupportIntent}
    (h : s.heldIntent accountId i = some intent) :
    s.supportIntents.find? intent.requestId = some intent := by
  unfold State.heldIntent at h
  split at h
  · exact Table.find?_key (Table.find?_eq_some.mp h).1
  · cases h

theorem find?_of_acceptance {intent : SupportIntent} (h : acceptance? lib s a = some intent) :
    s.supportIntents.find? intent.requestId = some intent := by
  cases a with
  | supportSignature accountId i body => exact find?_of_heldIntent (Option.filter_eq_some_iff.mp h).1
  | _ => cases h

theorem submitted_of_acceptance {intent : SupportIntent} (h : acceptance? lib s a = some intent) :
    s.submitted intent.requestId = decide (intent.status ≠ .signatureRequired) := by
  rw [State.submitted, find?_of_acceptance h]
  rfl

/-- The request is answered as accepted exactly if it is. -/
theorem reply_supportSignature (accountId : AccountId) (i : ℕ)
    (body : Except Failure (Option String)) :
    (∃ requestId tier, (serve lib config s (.supportSignature accountId i body)).2 =
        some (.ok (.support 202 requestId .confirming tier))) ↔
      (acceptance? lib s (.supportSignature accountId i body)).isSome := by
  rw [serve_supportSignature, acceptance?]
  cases s.heldIntent accountId i with
  | none => simp
  | some intent =>
    cases hsigned : supportSigned lib intent body <;>
      simp [supportSignature, hsigned, Except.isOk, Except.toBool]

variable (lib config s) in
/-- What a submission does to the intents. -/
theorem supportIntents_supportSignature (accountId : AccountId) (i : ℕ)
    (body : Except Failure (Option String)) :
    (step lib config s (.supportSignature accountId i body)).supportIntents =
      match acceptance? lib s (.supportSignature accountId i body) with
      | some intent => s.supportIntents.update intent.requestId (fun _ ↦ True)
          (SupportIntent.confirm (s.clock.ms + supportDelayMs))
      | none => s.supportIntents := by
  rw [step, serve_supportSignature, acceptance?]
  cases s.heldIntent accountId i with
  | none => rfl
  | some intent =>
    cases hsigned : supportSigned lib intent body <;>
      simp [supportSignature, hsigned, Option.filter, Except.isOk, Except.toBool, State.setRequest]

/-- What the other requests do to the intents: nothing, a new one, or the activation of one. -/
inductive IntentWrite (s s' : State) : Prop
  | same (h : s'.supportIntents = s.supportIntents)
  | issued (intent : SupportIntent) (hfree : s.supportIntents.find? intent.requestId = none)
      (hstatus : intent.status = .signatureRequired)
      (h : s'.supportIntents = s.supportIntents.set intent)
  | activated (intent : SupportIntent)
      (hfound : s.supportIntents.find? intent.requestId = some intent)
      (hstatus : intent.status = .confirming)
      (h : s'.supportIntents =
        s.supportIntents.update intent.requestId (fun _ ↦ True) SupportIntent.activate)

theorem intent_write (hfresh : Fresh s a)
    (hother : ∀ accountId i body, a ≠ .supportSignature accountId i body) :
    IntentWrite s (step lib config s a) := by
  have heffect := serve_effect lib config s a
  rw [step]
  generalize serve lib config s a = out at heffect ⊢
  cases heffect with
  | confirmed accountId i intent body => exact absurd rfl (hother accountId i body)
  | intended accountId i artistId draws body request =>
    exact .issued (newSupportIntent config s.clock accountId artistId draws request) hfresh rfl rfl
  | activated accountId intent reply hfound howner hstatus => exact .activated intent hfound hstatus rfl
  | _ => exact .same rfl

section Update

variable {s' : State} {intent : SupportIntent} {f : Table.Rewrite SupportIntent.requestId}

theorem progresses_of_update (hfound : s.supportIntents.find? intent.requestId = some intent)
    (h : s'.supportIntents = s.supportIntents.update intent.requestId (fun _ ↦ True) f)
    (hfollows : intent.status.Follows (f.apply intent).status) : Progresses s s' where
  appears requestId before hnone hsome := by
    rw [h, Table.find?_update, hnone] at hsome
    cases hsome
  moves requestId before hbefore := by
    rw [h, Table.find?_update, hbefore]
    refine ⟨_, rfl, ?_⟩
    split
    · next hsame =>
      obtain rfl : intent = before := by
        rw [← hsame.1, hbefore] at hfound
        exact (Option.some.inj hfound).symm
      exact hfollows
    · exact .same _

theorem submitted_of_update (hfound : s.supportIntents.find? intent.requestId = some intent)
    (h : s'.supportIntents = s.supportIntents.update intent.requestId (fun _ ↦ True) f)
    (hstatus : (f.apply intent).status ≠ .signatureRequired) (requestId : String) :
    s'.submitted requestId = true ↔ s.submitted requestId = true ∨ intent.requestId = requestId := by
  unfold State.submitted
  rw [h]
  by_cases hsame : intent.requestId = requestId
  · subst hsame
    rw [Table.find?_update_self, hfound]
    simp [hstatus]
  · rw [Table.find?_update_of_ne (Ne.symm hsame)]
    simp [hsame]

end Update

theorem IntentWrite.progresses {s' : State} (h : IntentWrite s s') : Progresses s s' := by
  cases h with
  | same hsame =>
    constructor
    · intro requestId intent hnone hsome
      rw [hsame, hnone] at hsome
      cases hsome
    · intro requestId intent hfound
      rw [hsame]
      exact ⟨intent, hfound, .same _⟩
  | issued intent hfree hstatus hset =>
    constructor
    · intro requestId later hnone hsome
      rw [hset, Table.find?_set] at hsome
      split at hsome
      · obtain rfl := Option.some.inj hsome
        exact hstatus
      · rw [hnone] at hsome
        cases hsome
    · intro requestId before hfound
      have hne : intent.requestId ≠ requestId := by
        intro hsame
        rw [hsame, hfound] at hfree
        cases hfree
      rw [hset, Table.find?_set, if_neg hne]
      exact ⟨before, hfound, .same _⟩
  | activated intent hfound hstatus hupdate =>
    apply progresses_of_update hfound hupdate
    rw [hstatus]
    exact .activated

theorem IntentWrite.submitted_eq {s' : State} (h : IntentWrite s s') (requestId : String) :
    s'.submitted requestId = true ↔ s.submitted requestId = true := by
  cases h with
  | same hsame => rw [State.submitted, hsame, State.submitted]
  | issued intent hfree hstatus hset =>
    unfold State.submitted
    rw [hset, Table.find?_set]
    split
    · next hsame =>
      rw [← hsame, hfree]
      simp [hstatus]
    · rfl
  | activated intent hfound hstatus hupdate =>
    have hsubmitted : s.submitted intent.requestId = true := by
      rw [State.submitted, hfound]
      simp [hstatus]
    have hactive : (SupportIntent.activate.apply intent).status ≠ .signatureRequired :=
      SupportStatus.noConfusion
    rw [submitted_of_update hfound hupdate hactive, or_iff_left_of_imp]
    rintro rfl
    exact hsubmitted

/-- An accepted submission is the only step that submits an intent. -/
theorem marks_submitted (hfresh : Fresh s a) (requestId : String) :
    Marks (step lib config) (Accepts lib requestId) (·.submitted requestId) s a := by
  unfold Marks
  dsimp only
  by_cases hsubmits : ∃ accountId i body, a = .supportSignature accountId i body
  · obtain ⟨accountId, i, body, rfl⟩ := hsubmits
    have hintents := supportIntents_supportSignature lib config s accountId i body
    unfold Accepts
    cases haccepts : acceptance? lib s (.supportSignature accountId i body) with
    | none =>
      rw [haccepts] at hintents
      rw [State.submitted, hintents, State.submitted]
      simp
    | some intent =>
      rw [haccepts] at hintents
      have hconfirmed : ((SupportIntent.confirm (s.clock.ms + supportDelayMs)).apply intent).status ≠
          .signatureRequired := SupportStatus.noConfusion
      rw [submitted_of_update (find?_of_acceptance haccepts) hintents hconfirmed]
      simp
  · have hwrite : IntentWrite s (step lib config s a) := by
      apply intent_write hfresh
      intro accountId i body h
      exact hsubmits ⟨accountId, i, body, h⟩
    have hnone : ¬Accepts lib requestId s a := by
      intro h
      cases a with
      | supportSignature accountId i body => exact hsubmits ⟨accountId, i, body, rfl⟩
      | _ => cases h
    rw [hwrite.submitted_eq, or_iff_left hnone]

theorem progresses_step (hfresh : Fresh s a) (haccepts : AcceptsWaiting lib s a) :
    Progresses s (step lib config s a) := by
  by_cases hsubmits : ∃ accountId i body, a = .supportSignature accountId i body
  · obtain ⟨accountId, i, body, rfl⟩ := hsubmits
    have hintents := supportIntents_supportSignature lib config s accountId i body
    cases hacceptance : acceptance? lib s (.supportSignature accountId i body) with
    | none =>
      rw [hacceptance] at hintents
      exact IntentWrite.progresses (.same hintents)
    | some intent =>
      rw [hacceptance] at hintents
      apply progresses_of_update (find?_of_acceptance hacceptance) hintents
      rw [(haccepts intent hacceptance).1]
      exact .confirmed
  · apply IntentWrite.progresses
    apply intent_write hfresh
    intro accountId i body h
    exact hsubmits ⟨accountId, i, body, h⟩

variable (lib config)

/-- In every run, the intents only progress, each accepts one submission at most and none after its
deadline, if and only if every submission that is accepted finds its intent waiting and in time. -/
theorem support_progress_iff (clock : Date) (actions : List Action)
    (hfresh : EachStep (step lib config) Fresh (start clock) actions) :
    (EachStep (step lib config) (fun s a ↦ Progresses s (step lib config s a)) (start clock) actions ∧
        (∀ requestId, countSteps (step lib config) (Accepts lib requestId) (start clock) actions ≤ 1) ∧
        EachStep (step lib config) (BeforeDeadline lib) (start clock) actions) ↔
      EachStep (step lib config) (AcceptsWaiting lib) (start clock) actions := by
  have hcount : ∀ requestId, countSteps (step lib config) (Accepts lib requestId) (start clock)
        actions ≤ 1 ↔
      EachStep (step lib config) (fun s a ↦ Accepts lib requestId s a →
        s.submitted requestId = false) (start clock) actions := by
    intro requestId
    apply countSteps_le_one_iff
    · exact hfresh.mono fun s a h ↦ marks_submitted h requestId
    · rfl
  simp only [hcount]
  rw [EachStep.forall]
  constructor
  · rintro ⟨-, hwaiting, hbefore⟩
    apply (hwaiting.and hbefore).mono
    rintro s a ⟨hwaiting, hbefore⟩ intent hacceptance
    refine ⟨?_, hbefore intent hacceptance⟩
    have haccepts : Accepts lib intent.requestId s a := by
      rw [Accepts, Option.mem_def.mp hacceptance]
      rfl
    have hsubmitted := hwaiting intent.requestId haccepts
    rw [submitted_of_acceptance hacceptance] at hsubmitted
    simpa using hsubmitted
  · intro haccepts
    refine ⟨?_, ?_, ?_⟩
    · exact (hfresh.and haccepts).mono fun s a h ↦ progresses_step h.1 h.2
    · apply haccepts.mono
      intro s a haccepts requestId haccepted
      obtain ⟨intent, hacceptance, rfl⟩ := Option.map_eq_some_iff.mp haccepted
      rw [submitted_of_acceptance hacceptance, (haccepts intent hacceptance).1]
      rfl
    · exact haccepts.mono fun s a h intent hacceptance ↦ (h intent hacceptance).2

namespace Sample

/-- The listener submits the signature twice before the first body is read. -/
def submittedTwice : List Action := signIn ++ [
  .createSupportIntent listener "artist-ao",
  .supportBody listener 1 supportDraws (.ok ⟨some firstWallet, some "support-key-1", some "1"⟩),
  .submitSupport listener supportDraws.requestId,
  .submitSupport listener supportDraws.requestId,
  .supportSignature listener 2 (.ok (some supportSignature)),
  .wait supportDelayMs,
  .supportRegistration listener supportDraws.requestId,
  .wait 300000]

/-- The second body is read when the registration is active and the deadline has passed. -/
def submittedLate : Action := .supportSignature listener 3 (.ok (some supportSignature))

end Sample

theorem support_progress_sample :
    EachStep (step Sample.library Sample.config)
        (fun s a ↦ Progresses s (step Sample.library Sample.config s a)) (start Sample.clock)
        (Sample.signIn ++ Sample.support) ∧
      (∀ requestId, countSteps (step Sample.library Sample.config) (Accepts Sample.library requestId)
        (start Sample.clock) (Sample.signIn ++ Sample.support) ≤ 1) ∧
      EachStep (step Sample.library Sample.config) (BeforeDeadline Sample.library) (start Sample.clock)
        (Sample.signIn ++ Sample.support) :=
  (support_progress_iff Sample.library Sample.config Sample.clock _ (by decide +kernel)).mpr
    (by decide +kernel)

/-- The intent is accepted again after its deadline, and goes back from active to confirming. -/
theorem support_goes_back :
    EachStep (step Sample.library Sample.config) Fresh (start Sample.clock)
        (Sample.submittedTwice ++ [Sample.submittedLate]) ∧
      countSteps (step Sample.library Sample.config)
        (Accepts Sample.library Sample.supportDraws.requestId) (start Sample.clock)
        (Sample.submittedTwice ++ [Sample.submittedLate]) = 2 ∧
      ((run (step Sample.library Sample.config) (start Sample.clock)
        Sample.submittedTwice).supportIntents.find? Sample.supportDraws.requestId).map (·.status) =
          some .sbtActive ∧
      ((run (step Sample.library Sample.config) (start Sample.clock)
        (Sample.submittedTwice ++ [Sample.submittedLate])).supportIntents.find?
          Sample.supportDraws.requestId).map (·.status) = some .confirming ∧
      ¬BeforeDeadline Sample.library (run (step Sample.library Sample.config) (start Sample.clock)
        Sample.submittedTwice) Sample.submittedLate := by
  refine ⟨?_, ?_, ?_, ?_, ?_⟩ <;> decide +kernel

end Server

end CreatorFirst.Gateway
