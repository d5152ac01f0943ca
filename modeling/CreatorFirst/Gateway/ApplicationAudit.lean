import CreatorFirst.Gateway.ApplicationEffects
import CreatorFirst.Gateway.ServerEffects

/-!
# The audit trail of an application

The state of an application and its audit trail are written at different times: a rejection waits for
its mail in between, and an approval records its event whether or not it has changed the application.
They agree as long as every approval that returns finds an application to approve, and every rejection
mail is sent.
-/

namespace CreatorFirst.Gateway

open Database Process

namespace Participation

/-- The application was approved. -/
def ApplicationState.Approved (state : ApplicationState) : Prop :=
  state = .approvedInvitationSent ∨ state = .invitationClaimed

instance (state : ApplicationState) : Decidable state.Approved :=
  inferInstanceAs (Decidable (_ ∨ _))

section Trail

variable (p : State)

/-- How often the trail of the application has this event. -/
def State.countEvents (applicationId : String) (eventType : ApplicationEventType) : ℕ :=
  p.applicationEvents.countP fun e ↦ e.applicationId = applicationId ∧ e.eventType = eventType

/-- No approval and no rejection waits. -/
def State.Settled : Prop :=
  (∀ approval ∈ p.approvals, approval.phase = .ended) ∧
    ∀ rejection ∈ p.rejections, rejection.ended = true

/-- The trail has one approval exactly if the application was approved, and one rejection exactly if it
was rejected. -/
structure State.AuditAgrees (r : Application) : Prop where
  approvals : p.countEvents r.applicationId .applicationApproved = if r.state.Approved then 1 else 0
  rejections : p.countEvents r.applicationId .applicationRejected = if r.state = .rejected then 1 else 0

/-- The rejections of the application that wait for their mail. -/
def State.waitingRejections (applicationId : String) : ℕ :=
  p.rejections.countP fun r ↦ r.applicationId = applicationId ∧ r.ended = false

def stateOf (applications : Table Application.applicationId) (applicationId : String) :
    Option ApplicationState :=
  (applications.find? applicationId).map (·.state)

/-- At any time, the trail and the rejections that wait account for the state. -/
structure State.Accounted (applicationId : String) : Prop where
  approvals : p.countEvents applicationId .applicationApproved =
    if ∃ state ∈ stateOf p.applications applicationId, state.Approved then 1 else 0
  rejections : p.countEvents applicationId .applicationRejected + p.waitingRejections applicationId =
    if stateOf p.applications applicationId = some .rejected then 1 else 0

variable {p}

theorem State.Accounted.agrees {r : Application} (hr : r ∈ p.applications)
    (h : p.Accounted r.applicationId) (hsettled : p.Settled) : p.AuditAgrees r := by
  have hstate : stateOf p.applications r.applicationId = some r.state := by
    rw [stateOf, Table.find?_key hr, Option.map_some]
  have hwaiting : p.waitingRejections r.applicationId = 0 := by
    rw [State.waitingRejections, List.countP_eq_zero]
    intro rejection hmem
    simp [hsettled.2 rejection hmem]
  constructor
  · simpa [hstate] using h.approvals
  · simpa [hstate, hwaiting] using h.rejections

end Trail

section Writes

variable {applications : Table Application.applicationId} {k : String} {q : Application → Prop}
  [DecidablePred q] {f : Table.Rewrite Application.applicationId} {r : Application}

theorem stateOf_update_self (hfound : applications.find? k = some r) (hq : q r) :
    stateOf (applications.update k q f) k = some (f.apply r).state := by
  rw [stateOf, Table.find?_update_self, hfound, Option.map_some, if_pos hq, Option.map_some]

theorem stateOf_update_of_ne {applicationId : String} (hne : applicationId ≠ k) :
    stateOf (applications.update k q f) applicationId = stateOf applications applicationId := by
  rw [stateOf, Table.find?_update_of_ne hne, stateOf]

theorem countP_modify {ρ : Type} {l : List ρ} {i : ℕ} {x : ρ} (h : l[i]? = some x) (f : ρ → ρ)
    (q : ρ → Bool) :
    (l.modify i f).countP q + (if q x then 1 else 0) = l.countP q + if q (f x) then 1 else 0 := by
  induction l generalizing i with
  | nil => cases h
  | cons y l ih =>
    cases i with
    | zero =>
      obtain rfl : y = x := Option.some.inj h
      rw [List.modify_zero_cons, List.countP_cons, List.countP_cons]
      omega
    | succ i =>
      have htail := ih (i := i) h
      rw [List.modify_succ_cons, List.countP_cons, List.countP_cons]
      omega

variable {p p' : State}

theorem countEvents_append {event : ApplicationEvent}
    (hevents : p'.applicationEvents = p.applicationEvents ++ [event]) (applicationId : String)
    (eventType : ApplicationEventType) :
    p'.countEvents applicationId eventType = p.countEvents applicationId eventType +
      if event.applicationId = applicationId ∧ event.eventType = eventType then 1 else 0 := by
  rw [State.countEvents, hevents, List.countP_append, List.countP_singleton]
  simp [State.countEvents]

theorem countEvents_of_same (hevents : p'.applicationEvents = p.applicationEvents)
    (applicationId : String) (eventType : ApplicationEventType) :
    p'.countEvents applicationId eventType = p.countEvents applicationId eventType := by
  rw [State.countEvents, hevents, State.countEvents]

theorem waitingRejections_of_same (hrejections : p'.rejections = p.rejections) (applicationId : String) :
    p'.waitingRejections applicationId = p.waitingRejections applicationId := by
  rw [State.waitingRejections, hrejections, State.waitingRejections]

/-- A step that leaves the account of the trail balanced. -/
theorem State.Accounted.of_balanced {applicationId : String} (h : p.Accounted applicationId)
    (happroved : (∃ state ∈ stateOf p'.applications applicationId, state.Approved) ↔
      ∃ state ∈ stateOf p.applications applicationId, state.Approved)
    (hrejected : stateOf p'.applications applicationId = some .rejected ↔
      stateOf p.applications applicationId = some .rejected)
    (hevents : p'.countEvents applicationId .applicationApproved =
      p.countEvents applicationId .applicationApproved)
    (hwaiting : p'.countEvents applicationId .applicationRejected + p'.waitingRejections applicationId =
      p.countEvents applicationId .applicationRejected + p.waitingRejections applicationId) :
    p'.Accounted applicationId := by
  constructor
  · simp only [hevents, happroved, h.approvals]
  · simp only [hwaiting, hrejected, h.rejections]

theorem State.Accounted.of_same {applicationId : String} (h : p.Accounted applicationId)
    (happlications : p'.applications = p.applications)
    (hevents : p'.applicationEvents = p.applicationEvents)
    (hrejections : p'.rejections = p.rejections) : p'.Accounted applicationId := by
  apply h.of_balanced
  · rw [happlications]
  · rw [happlications]
  · exact countEvents_of_same hevents _ _
  · rw [countEvents_of_same hevents, waitingRejections_of_same hrejections]

end Writes

section Decision

variable {p p' : State} {applicationId : String}

theorem Application.Approvable.not_approved {r : Application} (h : r.Approvable) : ¬r.state.Approved := by
  obtain h | h := h <;> rw [h] <;> decide

theorem Application.Approvable.not_rejected {r : Application} (h : r.Approvable) : r.state ≠ .rejected := by
  obtain h | h := h <;> rw [h] <;> decide

/-- An application that can still be approved has neither event, and no rejection of it waits. -/
theorem State.Accounted.of_approvable {r : Application} (h : p.Accounted applicationId)
    (hr : p.applications.find? applicationId = some r) (happrovable : r.Approvable) :
    p.countEvents applicationId .applicationApproved = 0 ∧
      p.countEvents applicationId .applicationRejected + p.waitingRejections applicationId = 0 := by
  have hstate : stateOf p.applications applicationId = some r.state := by
    rw [stateOf, hr, Option.map_some]
  constructor
  · rw [h.approvals, hstate]
    simp [happrovable.not_approved]
  · rw [h.rejections, hstate]
    simp [happrovable.not_rejected]

/-- A new application is neither approved nor rejected. -/
theorem State.Accounted.applied {r : Application} {event : ApplicationEvent}
    (h : p.Accounted applicationId) (hstate : r.state = .underReview)
    (hinsert : p.applications.insert r = some p'.applications)
    (hevents : p'.applicationEvents = p.applicationEvents ++ [event])
    (htype : event.eventType = .applicationCreated) (hrejections : p'.rejections = p.rejections) :
    p'.Accounted applicationId := by
  have hstates : stateOf p'.applications applicationId =
      if r.applicationId = applicationId then some .underReview
      else stateOf p.applications applicationId := by
    rw [stateOf, Table.find?_insert hinsert]
    split
    · rw [Option.map_some, hstate]
    · rfl
  have hnone : r.applicationId = applicationId → stateOf p.applications applicationId = none := by
    rintro rfl
    rw [stateOf, (Table.insert_eq_some.mp hinsert).1, Option.map_none]
  apply h.of_balanced
  · rw [hstates]
    split
    · next hid => simp [hnone hid, ApplicationState.Approved]
    · rfl
  · rw [hstates]
    split
    · next hid => simp [hnone hid]
    · rfl
  · rw [countEvents_append hevents, if_neg (by simp [htype]), Nat.add_zero]
  · rw [countEvents_append hevents, if_neg (by simp [htype]), Nat.add_zero,
      waitingRejections_of_same hrejections]

/-- An approval that finds an application to approve adds one event and approves it. -/
theorem State.Accounted.approved {approval : Approval} {event : ApplicationEvent}
    (h : p.Accounted applicationId)
    (hfound : ∃ r ∈ p.applications.find? approval.applicationId, r.Approvable)
    (happlications : p'.applications = p.applications.update approval.applicationId
      Application.Approvable (Application.approve approval.invitationId approval.reviewedAt))
    (hevents : p'.applicationEvents = p.applicationEvents ++ [event])
    (hevent : event.applicationId = approval.applicationId ∧ event.eventType = .applicationApproved)
    (hrejections : p'.rejections = p.rejections) : p'.Accounted applicationId := by
  have hwaiting := waitingRejections_of_same hrejections applicationId
  by_cases hid : applicationId = approval.applicationId
  · subst hid
    obtain ⟨r, hr, happrovable⟩ := hfound
    obtain ⟨happrovals, hnone⟩ := h.of_approvable hr happrovable
    have hafter : stateOf p'.applications approval.applicationId = some .approvedInvitationSent := by
      rw [happlications]
      exact stateOf_update_self hr happrovable
    constructor
    · rw [countEvents_append hevents, if_pos hevent, happrovals, hafter]
      simp [ApplicationState.Approved]
    · rw [countEvents_append hevents, if_neg (by simp [hevent.2]), hwaiting, Nat.add_zero, hnone, hafter]
      simp
  · have hsame : stateOf p'.applications applicationId = stateOf p.applications applicationId := by
      rw [happlications, stateOf_update_of_ne hid]
    apply h.of_balanced
    · rw [hsame]
    · rw [hsame]
    · rw [countEvents_append hevents, if_neg fun he ↦ hid (he.1.symm.trans hevent.1), Nat.add_zero]
    · rw [countEvents_append hevents, if_neg (by simp [hevent.2]), Nat.add_zero, hwaiting]

/-- A failed approval leaves the application neither approved nor rejected. -/
theorem State.Accounted.abandoned {approval : Approval} {event : ApplicationEvent}
    (h : p.Accounted applicationId)
    (happlications : p'.applications = p.applications.update approval.applicationId
      Application.Approvable (Application.failApproval approval.invitationId approval.reviewedAt))
    (hevents : p'.applicationEvents = p.applicationEvents ++ [event])
    (hevent : event.eventType = .approvalEmailFailed) (hrejections : p'.rejections = p.rejections) :
    p'.Accounted applicationId := by
  have hkinds : ((∃ state ∈ stateOf p'.applications applicationId, state.Approved) ↔
        ∃ state ∈ stateOf p.applications applicationId, state.Approved) ∧
      (stateOf p'.applications applicationId = some .rejected ↔
        stateOf p.applications applicationId = some .rejected) := by
    rw [happlications, stateOf, Table.find?_update, stateOf]
    cases p.applications.find? applicationId with
    | none => simp
    | some r =>
      simp only [Option.map_some]
      split
      · next hcase =>
        simpa [hcase.2.not_rejected, Application.failApproval, ApplicationState.Approved]
          using hcase.2.not_approved
      · exact ⟨Iff.rfl, Iff.rfl⟩
  apply h.of_balanced hkinds.1 hkinds.2
  · rw [countEvents_append hevents, if_neg (by simp [hevent]), Nat.add_zero]
  · rw [countEvents_append hevents, if_neg (by simp [hevent]), Nat.add_zero,
      waitingRejections_of_same hrejections]

/-- A rejection that waits for its mail stands for its event. -/
theorem State.Accounted.rejecting {r : Application} {rejection : Rejection} {now : Date}
    (h : p.Accounted applicationId) (hr : p.applications.find? rejection.applicationId = some r)
    (hstate : r.state = .underReview)
    (happlications : p'.applications = p.applications.update rejection.applicationId
      (fun r ↦ r.state = .underReview) (Application.reject rejection.rejectionCode now))
    (hevents : p'.applicationEvents = p.applicationEvents)
    (hrejections : p'.rejections = p.rejections ++ [rejection]) (hwaits : rejection.ended = false) :
    p'.Accounted applicationId := by
  have hwaiting : p'.waitingRejections applicationId = p.waitingRejections applicationId +
      if rejection.applicationId = applicationId then 1 else 0 := by
    rw [State.waitingRejections, hrejections, List.countP_append, List.countP_singleton]
    simp [State.waitingRejections, hwaits]
  by_cases hid : applicationId = rejection.applicationId
  · subst hid
    obtain ⟨happrovals, hnone⟩ := h.of_approvable hr (.inl hstate)
    have hafter : stateOf p'.applications rejection.applicationId = some .rejected := by
      rw [happlications]
      exact stateOf_update_self hr hstate
    constructor
    · rw [countEvents_of_same hevents, happrovals, hafter]
      simp [ApplicationState.Approved]
    · rw [countEvents_of_same hevents, hwaiting, if_pos rfl, ← Nat.add_assoc, hnone, hafter]
      simp
  · have hsame : stateOf p'.applications applicationId = stateOf p.applications applicationId := by
      rw [happlications, stateOf_update_of_ne hid]
    apply h.of_balanced
    · rw [hsame]
    · rw [hsame]
    · exact countEvents_of_same hevents _ _
    · rw [countEvents_of_same hevents, hwaiting, if_neg fun he ↦ hid he.symm, Nat.add_zero]

/-- The event of a rejection takes the place of the rejection that has waited. -/
theorem State.Accounted.rejected {i : ℕ} {rejection : Rejection} {event : ApplicationEvent}
    (h : p.Accounted applicationId) (hheld : p.rejections[i]? = some rejection)
    (hwaits : rejection.ended = false) (happlications : p'.applications = p.applications)
    (hevents : p'.applicationEvents = p.applicationEvents ++ [event])
    (hevent : event.applicationId = rejection.applicationId ∧ event.eventType = .applicationRejected)
    (hrejections : p'.rejections = p.rejections.modify i ({ · with ended := true })) :
    p'.Accounted applicationId := by
  have hwaiting : p'.waitingRejections applicationId +
      (if rejection.applicationId = applicationId then 1 else 0) = p.waitingRejections applicationId := by
    have hmodify := countP_modify hheld ({ · with ended := true })
      fun r ↦ r.applicationId = applicationId ∧ r.ended = false
    rw [State.waitingRejections, hrejections, State.waitingRejections]
    simpa [hwaits] using hmodify
  apply h.of_balanced
  · rw [happlications]
  · rw [happlications]
  · rw [countEvents_append hevents, if_neg (by simp [hevent.2]), Nat.add_zero]
  · rw [countEvents_append hevents, hevent.1, hevent.2, ← hwaiting]
    simp only [and_true]
    omega

/-- A claim takes approved applications to another approved state. -/
theorem State.Accounted.claimed {invitationId : String} {now : Date} (h : p.Accounted applicationId)
    (happlications : p'.applications = p.applications.updateAll
      (fun r ↦ r.invitationId = some invitationId ∧ r.state = .approvedInvitationSent)
      (Application.claim now))
    (hevents : p'.applicationEvents = p.applicationEvents) (hrejections : p'.rejections = p.rejections) :
    p'.Accounted applicationId := by
  have hkinds : ((∃ state ∈ stateOf p'.applications applicationId, state.Approved) ↔
        ∃ state ∈ stateOf p.applications applicationId, state.Approved) ∧
      (stateOf p'.applications applicationId = some .rejected ↔
        stateOf p.applications applicationId = some .rejected) := by
    rw [happlications, stateOf, Table.find?_updateAll, stateOf]
    cases p.applications.find? applicationId with
    | none => simp
    | some r =>
      simp only [Option.map_some]
      split
      · next hcase => simp [hcase.2, Application.claim, ApplicationState.Approved]
      · exact ⟨Iff.rfl, Iff.rfl⟩
  apply h.of_balanced hkinds.1 hkinds.2
  · exact countEvents_of_same hevents _ _
  · rw [countEvents_of_same hevents, waitingRejections_of_same hrejections]

end Decision

section Step

/-- An approval that returns finds an application to approve, and a rejection mail is sent. -/
def Recorded (p : State) : Action → Prop
  | .approvalReturned i =>
    ∀ approval ∈ p.approvals[i]?, approval.phase = .sent →
      ∃ r ∈ p.applications.find? approval.applicationId, r.Approvable
  | .rejectionMail i false => ∀ rejection ∈ p.rejections[i]?, rejection.ended = true
  | _ => True

instance (p : State) (a : Action) : Decidable (Recorded p a) :=
  match a with
  | .approvalReturned _ | .rejectionMail _ false => by
    unfold Recorded
    infer_instance
  | .createApplication .. | .approve .. | .approvalMail .. | .reject .. | .rejectionMail _ true
  | .createInvitation .. | .send .. | .sendingMail .. | .resend .. | .resendingMail .. | .deliver _ | .claim .. =>
    .isTrue trivial

variable {lib : Library} {now : Date} {accounts accounts' : AccountId → Profile} {p p' : State} {a : Action}

theorem accounted_step (heffect : Effect lib now accounts p a accounts' p') (hrecorded : Recorded p a)
    (h : ∀ applicationId, p.Accounted applicationId) (applicationId : String) :
    p'.Accounted applicationId := by
  have hbefore := h applicationId
  cases heffect with
  | same | approving | unsent | mailed | unmailed | invited | sending | sent | sendFailed | resending
  | resent | delivered => exact hbefore.of_same rfl rfl rfl
  | applied accountId id body r applications hstate hinvitation hid hinsert =>
    exact hbefore.applied hstate hinsert rfl rfl rfl
  | approved i approval hheld hphase =>
    exact hbefore.approved (hrecorded approval hheld hphase) rfl rfl ⟨rfl, rfl⟩ rfl
  | abandoned i approval hheld hphase => exact hbefore.abandoned rfl rfl rfl rfl
  | rejecting id rejectionCode r hfound hstate =>
    exact hbefore.rejecting hfound hstate rfl rfl rfl rfl
  | rejected i rejection hheld hwaits =>
    exact hbefore.rejected hheld hwaits rfl rfl ⟨rfl, rfl⟩ rfl
  | unrecorded i rejection hheld hwaits =>
    have hended := hrecorded rejection hheld
    rw [hwaits] at hended
    cases hended
  | claimed accountId token body row wallet hmay => exact hbefore.claimed rfl rfl rfl

end Step

end Participation

namespace Server

variable (lib : Library) (config : ServerConfig)

/-- The request to participation keeps state and trail together. -/
def Recorded (s : State) : Action → Prop
  | .participation action => Participation.Recorded s.participation action
  | _ => True

instance (s : State) (a : Action) : Decidable (Recorded s a) :=
  match a with
  | .participation action => inferInstanceAs (Decidable (Participation.Recorded s.participation action))
  | .wait _ | .registerDemoUser .. | .createChallenge .. | .verifyChallenge .. | .messageRecovered ..
  | .createSupportIntent .. | .supportBody .. | .submitSupport .. | .supportSignature ..
  | .supportRegistration .. | .createPlayback .. | .deliverStream .. | .opened .. | .data .. | .record ..
  | .closeSession .. | .trust _ => .isTrue trivial

/-- In every run in which each approval that returns finds an application to approve, and each rejection
mail is sent, the trail of every application agrees with its state whenever no decision is under way. -/
theorem application_audit (clock : Date) (actions : List Action)
    (hrecorded : EachStep (step lib config) Recorded (start clock) actions) :
    AtEachMoment (step lib config)
      (fun s ↦ s.participation.Settled →
        ∀ r ∈ s.participation.applications, s.participation.AuditAgrees r)
      (start clock) actions := by
  have haccounted : AtEachMoment (step lib config)
      (fun s ↦ ∀ applicationId, s.participation.Accounted applicationId) (start clock) actions := by
    refine keeps_participation (P := fun _ p ↦ ∀ applicationId, p.Accounted applicationId)
      (fun s action hstep h ↦ ?_) (fun _ _ _ _ h ↦ h) hrecorded fun applicationId ↦ ⟨rfl, rfl⟩
    exact Participation.accounted_step
      (Participation.serve_effect lib s.clock s.accounts s.participation action) hstep h
  exact fun past hpast hsettled r hr ↦ (haccounted past hpast r.applicationId).agrees hr hsettled

namespace Sample

def applicationId : String := "8a1f0c52-6f0e-4b2d-9f57-2f4f7f0d3c11"

def applicationBody : Participation.ApplicationBody where
  email := some "listener@example.com"
  displayName := some "Listener"
  roles := some 1
  acceptedParticipation := true

def firstInvitation : Participation.InvitationDraws where
  invitationId := "5b0a2d9e-64d1-4f0c-8f3e-0c1f7a9f2b11"
  token := firstToken

def secondInvitation : Participation.InvitationDraws where
  invitationId := "c4f1b7de-2a55-4a0e-8f1d-6f0a9e7d5c22"
  token := secondToken

/-- An application, and its approval while its mail is with the transport. -/
def approving : List Action := [
  .participation (.createApplication listener applicationId applicationBody),
  .participation (.approve applicationId firstInvitation)]

def approval : List Action := approving ++ [.participation (.approvalMail 0 true)]

/-- The application is approved twice before the first mail has returned. -/
def approvedTwice : List Action := approving ++ [
  .participation (.approve applicationId secondInvitation),
  .participation (.approvalMail 0 true),
  .participation (.approvalReturned 0),
  .participation (.approvalMail 1 true),
  .participation (.approvalReturned 1)]

/-- The mail of the rejection fails. -/
def rejectedSilently : List Action := [
  .participation (.createApplication listener applicationId applicationBody),
  .participation (.reject applicationId (some .notInCurrentCohort)),
  .participation (.rejectionMail 0 false)]

end Sample

/-- An approval without another decision beside it. -/
theorem application_audit_approved :
    AtEachMoment (step Sample.library Sample.config)
      (fun s ↦ s.participation.Settled →
        ∀ r ∈ s.participation.applications, s.participation.AuditAgrees r)
      (start Sample.clock) (Sample.approval ++ [.participation (.approvalReturned 0)]) :=
  application_audit Sample.library Sample.config Sample.clock _ (by decide +kernel)

/-- The first trail has two approvals, the second no rejection. -/
theorem application_audit_disagrees :
    ¬AtEachMoment (step Sample.library Sample.config)
        (fun s ↦ s.participation.Settled →
          ∀ r ∈ s.participation.applications, s.participation.AuditAgrees r)
        (start Sample.clock) Sample.approvedTwice ∧
      ¬AtEachMoment (step Sample.library Sample.config)
        (fun s ↦ s.participation.Settled →
          ∀ r ∈ s.participation.applications, s.participation.AuditAgrees r)
        (start Sample.clock) Sample.rejectedSilently := by
  constructor
  · intro h
    have htwice : ∃ r ∈ (run (step Sample.library Sample.config) (start Sample.clock)
        Sample.approvedTwice).participation.applications.rows, (run (step Sample.library Sample.config)
          (start Sample.clock) Sample.approvedTwice).participation.countEvents r.applicationId
            .applicationApproved = 2 := by decide +kernel
    obtain ⟨r, hr, htwice⟩ := htwice
    have hagrees := (h.last ⟨by decide +kernel, by decide +kernel⟩ r hr).approvals
    rw [htwice] at hagrees
    split at hagrees <;> cases hagrees
  · intro h
    have hsilent : ∃ r ∈ (run (step Sample.library Sample.config) (start Sample.clock)
        Sample.rejectedSilently).participation.applications.rows, r.state = .rejected ∧
          (run (step Sample.library Sample.config) (start Sample.clock)
            Sample.rejectedSilently).participation.countEvents r.applicationId
              .applicationRejected = 0 := by decide +kernel
    obtain ⟨r, hr, hstate, hsilent⟩ := hsilent
    have hagrees := (h.last ⟨by decide +kernel, by decide +kernel⟩ r hr).rejections
    rw [hsilent, if_pos hstate] at hagrees
    cases hagrees

end Server

end CreatorFirst.Gateway
