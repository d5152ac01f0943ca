import CreatorFirst.Gateway.ApplicationAudit
import CreatorFirst.Gateway.ServerEffects
import CreatorFirst.Gateway.ParticipationChanges
import CreatorFirst.Time.Window

/-!
# Limits of sending an invitation again

An attempt replaces the token and hands a mail to the transport; whether the mail goes through does not
matter for the limits. Attempts are counted in windows of 24 hours, each of which begins with an attempt,
so around the end of a window there may be more than three of them in a short time.
-/

namespace CreatorFirst.Gateway

open Database Process

namespace Participation

section Attempts

variable (lib : Library) (now : Date) (accounts : AccountId → Profile) (p : State)

/-- The invitation that the request sends again. -/
def Action.attempt? : Action → Option String
  | .resend accountId idempotencyKey token =>
    match p.resendOwn lib now accountId idempotencyKey token with
    | .ok (.waiting _) => p.ownInvitation accountId
    | _ => none
  | _ => none

/-- When an invitation was last sent again, and its window with the number of attempts in it. -/
def Invitation.counted (row : Invitation) : Option ℕ × Option (ℕ × ℕ) :=
  (row.lastResendAt.map (·.ms), row.resendWindowStartedAt.map fun start ↦ (start.ms, row.resendCount))

def State.counted (invitationId : String) : Option ℕ × Option (ℕ × ℕ) :=
  ((p.invitation invitationId).map Invitation.counted).getD (none, none)

variable {lib now accounts p} {a : Action} {invitationId : String}

variable (accounts) in
theorem attempt?_eq_some (h : a.attempt? lib now p = some invitationId) :
    ∃ accountId key token row window, a = .resend accountId (some key) token ∧
      Resends lib now p invitationId key token row window ∧
        (serve lib now accounts p a).2 = (p.rotated lib now row window token
          { invitationId, idempotencyKey := key, attemptedAt := now }).mail invitationId token := by
  cases a with
  | resend accountId idempotencyKey token =>
    rw [Action.attempt?] at h
    split at h
    · next p' hresend =>
      obtain ⟨id, key, row, window, rfl, hown, hresends, -, rfl⟩ := resendOwn_eq_ok hresend
      obtain rfl : id = invitationId := Option.some.inj (hown.symm.trans h)
      refine ⟨accountId, key, token, row, window, rfl, hresends, ?_⟩
      rw [serve, hresend, hresends.id_eq]
      rfl
    · cases h
  | _ => cases h

/-- A request to send again that attempts nothing leaves the service as it was. -/
theorem serve_resend_of_none {accountId : AccountId} {idempotencyKey : Option String} {token : String}
    (h : (Action.resend accountId idempotencyKey token).attempt? lib now p = none) :
    (serve lib now accounts p (.resend accountId idempotencyKey token)).2 = p := by
  rw [serve]
  rw [Action.attempt?] at h
  cases hresend : p.resendOwn lib now accountId idempotencyKey token with
  | error e => rfl
  | ok result =>
    cases result with
    | replay response => rfl
    | waiting p' =>
      rw [hresend] at h
      obtain ⟨id, key, row, window, -, hown, -⟩ := resendOwn_eq_ok hresend
      rw [hown] at h
      cases h

/-! ## Windows -/

/-- The window of an attempt is the one that the count of the row admits it to. -/
theorem resendWindow_eq (row : Invitation) :
    ((resendWindow now row).1.ms, (resendWindow now row).2) =
      Window.enter resendWindowMs now.ms row.counted.2 := by
  unfold resendWindow Invitation.counted Window.enter
  cases row.resendWindowStartedAt with
  | none => rfl
  | some start =>
    dsimp only [Option.map_some]
    split <;> rfl

/-- What makes an invitation available. -/
structure Available (now : Date) (row : Invitation) (window : Date × ℕ) : Prop where
  sent : row.state = .sent
  unexpired : now.ms < row.expiresAt.ms
  window_eq : window = resendWindow now row
  below_cap : window.2 < maxResendsPerWindow
  waited : ((row.lastResendAt <|> row.sentAt).getD row.createdAt).ms +
    (if row.lastResendAt.isSome then resendCooldownMs else firstResendDelayMs) ≤ now.ms

theorem available_of_resendAvailability {row : Invitation} {window : Date × ℕ}
    (h : resendAvailability now row = .ok (some window)) : Available now row window := by
  unfold resendAvailability at h
  split at h
  · rw [pure_eq_ok] at h
    cases h
  · next hopen =>
    rw [not_or, not_not, Nat.not_le] at hopen
    dsimp only at h
    split at h
    · simp only [bind_eq_ok, pure_eq_ok] at h
      obtain ⟨-, -, h⟩ := h
      cases h
    · next hcap =>
      simp only [bind_eq_ok, pure_eq_ok] at h
      obtain ⟨-, -, h⟩ := h
      obtain ⟨hwaited, hwindow⟩ := Option.ite_none_right_eq_some.mp h
      obtain rfl := Option.some.inj hwindow
      exact ⟨hopen.1, hopen.2, rfl, Nat.lt_of_not_le hcap, hwaited⟩

theorem Resends.isAvailable {key token : String} {row : Invitation} {window : Date × ℕ}
    (h : Resends lib now p invitationId key token row window) : Available now row window :=
  available_of_resendAvailability h.available

theorem Resends.counted {key token : String} {row : Invitation} {window : Date × ℕ}
    (h : Resends lib now p invitationId key token row window) : p.counted invitationId = row.counted := by
  rw [State.counted, h.found]
  rfl

/-- After an attempt the row counts it. -/
theorem counted_rotated {key token : String} {row : Invitation} {window : Date × ℕ}
    (h : Resends lib now p invitationId key token row window) (resending : Resending) :
    ((p.rotated lib now row window token resending).mail invitationId token).counted invitationId =
      (some now.ms, some (window.1.ms, window.2 + 1)) := by
  obtain rfl := h.id_eq
  have hfound : p.invitations.find? row.invitationId = some row := h.found
  have hsent := h.isAvailable.sent
  change (((p.rotatedInvitations lib now row window token).find? row.invitationId).map
    Invitation.counted).getD (none, none) = _
  rw [State.rotatedInvitations, Table.find?_update, Table.find?_update, hfound, Option.map_some,
    Option.map_some, if_pos (And.intro rfl hsent)]
  simp [Invitation.rotate, hsent, Invitation.counted, Invitation.markResent]

theorem counted_rotated_of_ne {key token other : String} {row : Invitation} {window : Date × ℕ}
    (h : Resends lib now p invitationId key token row window) (hne : other ≠ invitationId)
    (resending : Resending) :
    ((p.rotated lib now row window token resending).mail invitationId token).counted other =
      p.counted other := by
  obtain rfl := h.id_eq
  change (((p.rotatedInvitations lib now row window token).find? other).map
    Invitation.counted).getD (none, none) = _
  rw [State.rotatedInvitations, Table.find?_update_of_ne hne, Table.find?_update_of_ne hne]
  rfl

/-- Only an attempt is counted. -/
theorem counted_serve_of_ne (h : a.attempt? lib now p ≠ some invitationId) :
    (serve lib now accounts p a).2.counted invitationId = p.counted invitationId := by
  cases hattempt : a.attempt? lib now p with
  | some other =>
    obtain ⟨accountId, key, token, row, window, rfl, hresends, hserve⟩ :=
      attempt?_eq_some accounts hattempt
    have hne : invitationId ≠ other := by
      rintro rfl
      exact h hattempt
    rw [hserve, counted_rotated_of_ne hresends hne]
  | none =>
    by_cases hresend : ∃ accountId key token, a = .resend accountId key token
    · obtain ⟨accountId, key, token, rfl⟩ := hresend
      rw [serve_resend_of_none hattempt]
    · have hchange := invitation_change (serve_effect lib now accounts p a) invitationId
      rw [State.counted, State.counted, State.invitation, State.invitation]
      generalize (serve lib now accounts p a).2.invitations.find? invitationId = row? at hchange ⊢
      generalize p.invitations.find? invitationId = row₀? at hchange ⊢
      cases hchange with
      | rotated accountId key token row window ha => exact absurd ⟨_, _, _, ha⟩ hresend
      | same | created | sent | claimed => rfl

/-! ## The first mail -/

/-- When the invitation was sent, according to the log. -/
def State.sentLog (p : State) (invitationId : String) : List ℕ :=
  (p.invitationEvents.filter fun e ↦ e.invitationId = invitationId ∧ e.eventType = .emailSent).map
    (·.occurredAt.ms)

/-- Until it is sent again, an invitation that was sent has the time of its latest mail. -/
structure State.SentLogged (now : Date) (p : State) (invitationId : String) : Prop where
  past : ∀ t ∈ p.sentLog invitationId, t ≤ now.ms
  latest : ∀ row, p.invitation invitationId = some row → row.state = .sent → row.lastResendAt = none →
    ∃ sentAt, row.sentAt = some sentAt ∧ ∀ t ∈ p.sentLog invitationId, t ≤ sentAt.ms

theorem sentLog_concat {events : List InvitationEvent} {e : InvitationEvent} {p' : State}
    (hp : p'.invitationEvents = events ++ [e]) (hevents : events = p.invitationEvents)
    (he : e.eventType ≠ .emailSent) : p'.sentLog invitationId = p.sentLog invitationId := by
  rw [State.sentLog, hp, hevents, List.filter_append]
  simp [State.sentLog, he]

theorem sentLog_resendingMail (i : ℕ) (delivery : Option String) :
    (p.resendingMail i delivery).sentLog invitationId = p.sentLog invitationId := by
  rw [State.resendingMail]
  split
  · next sentId key attemptedAt _ =>
    unfold State.resent
    dsimp only
    cases delivery with
    | none => exact sentLog_concat (e := ⟨sentId, .emailResendFailed, attemptedAt⟩) rfl rfl (by simp)
    | some delivery =>
      have hresent : State.sentLog { p with
          invitationEvents := p.invitationEvents ++ [⟨sentId, .emailResent, attemptedAt⟩] }
            invitationId = p.sentLog invitationId :=
        sentLog_concat (e := ⟨sentId, .emailResent, attemptedAt⟩) rfl rfl (by simp)
      dsimp only
      split
      · exact hresent
      · apply Eq.trans _ hresent
        exact sentLog_concat (e := ⟨sentId, .emailResendFailed, attemptedAt⟩) rfl rfl (by simp)
  · rfl

theorem State.SentLogged.of_change {p' : State} (h : p.SentLogged now invitationId)
    (hlog : p'.sentLog invitationId = p.sentLog invitationId)
    (hchange : InvitationChange lib now accounts p a invitationId (p.invitation invitationId)
      (p'.invitation invitationId)) : p'.SentLogged now invitationId := by
  constructor
  · rw [hlog]
    exact h.past
  · intro row hrow hstate hlast
    have hbefore := h.latest
    rw [hlog]
    rw [hrow] at hchange
    generalize p.invitation invitationId = row? at hchange hbefore
    cases hchange with
    | same => exact hbefore row rfl hstate hlast
    | created => cases hstate
    | sent => exact ⟨now, rfl, h.past⟩
    | rotated => cases hlast
    | claimed => cases hstate

/-- The mail of an invitation went through. -/
theorem State.SentLogged.of_sent {p' : State} (h : p.SentLogged now invitationId) {sentId : String}
    (hrows : p'.invitations = p.markInvitationSent sentId now)
    (hlog : p'.invitationEvents = p.recordInvitationEvent sentId .emailSent now) :
    p'.SentLogged now invitationId := by
  have hpast : ∀ t ∈ p'.sentLog invitationId, t ≤ now.ms := by
    intro t ht
    rw [State.sentLog, hlog, State.recordInvitationEvent, List.filter_append, List.map_append,
      List.mem_append] at ht
    obtain hbefore | hnew := ht
    · exact h.past t hbefore
    · obtain ⟨e, he, rfl⟩ := List.mem_map.mp hnew
      obtain rfl := List.mem_singleton.mp (List.mem_of_mem_filter he)
      exact Nat.le_refl _
  refine ⟨hpast, ?_⟩
  intro row hrow hstate hlast
  rw [State.invitation, hrows, State.markInvitationSent, Table.find?_update] at hrow
  obtain ⟨before, hbefore, hrow⟩ := Option.map_eq_some_iff.mp hrow
  split at hrow
  · obtain rfl := hrow
    exact ⟨now, rfl, hpast⟩
  · next hother =>
    subst hrow
    -- A row that is sent and is not marked belongs to another invitation.
    have hne : invitationId ≠ sentId := fun hsame ↦ hother ⟨hsame, .inr hstate⟩
    have hsame : p'.sentLog invitationId = p.sentLog invitationId := by
      rw [State.sentLog, hlog, State.recordInvitationEvent, List.filter_append]
      simp [State.sentLog, Ne.symm hne]
    rw [hsame]
    exact h.latest before hbefore hstate hlast

theorem State.SentLogged.serve (h : p.SentLogged now invitationId) :
    (serve lib now accounts p a).2.SentLogged now invitationId := by
  have heffect := serve_effect lib now accounts p a
  have hchange := invitation_change heffect invitationId
  by_cases hresending : ∃ i delivery, a = .resendingMail i delivery
  · obtain ⟨i, delivery, rfl⟩ := hresending
    exact h.of_change (sentLog_resendingMail i delivery) hchange
  · generalize Participation.serve lib now accounts p a = out at heffect hchange ⊢
    obtain ⟨accounts', p'⟩ := out
    dsimp only at heffect hchange ⊢
    cases heffect with
    | resent i delivery => exact absurd ⟨i, delivery, rfl⟩ hresending
    | mailed i approval => exact h.of_sent rfl rfl
    | sent i sentId => exact h.of_sent rfl rfl
    | approving | unsent | invited | claimed =>
      exact h.of_change (sentLog_concat rfl rfl nofun) hchange
    | same | applied | unmailed | approved | abandoned | rejecting | rejected | unrecorded | sending
    | sendFailed | resending | delivered => exact h.of_change rfl hchange

/-- The first attempt leaves five minutes to the latest mail, a later one ten minutes to the attempt
before. -/
theorem Resends.waits {key token : String} {row : Invitation} {window : Date × ℕ}
    (h : Resends lib now p invitationId key token row window) (hlogged : p.SentLogged now invitationId) :
    (∀ last ∈ (p.counted invitationId).1, last + resendCooldownMs ≤ now.ms) ∧
      ((p.counted invitationId).1 = none → ∃ sentAt, row.sentAt = some sentAt ∧
        sentAt.ms + firstResendDelayMs ≤ now.ms ∧ ∀ t ∈ p.sentLog invitationId, t ≤ sentAt.ms) := by
  have hwaited := h.isAvailable.waited
  rw [h.counted, Invitation.counted]
  cases hlast : row.lastResendAt with
  | some last =>
    rw [hlast] at hwaited
    simpa using hwaited
  | none =>
    obtain ⟨sentAt, hsentAt, hlatest⟩ := hlogged.latest row h.found h.isAvailable.sent hlast
    rw [hlast, hsentAt] at hwaited
    exact ⟨nofun, fun _ ↦ ⟨sentAt, hsentAt, hwaited, hlatest⟩⟩

/-! ## Repeated keys -/

/-- The keys that were accepted are valid. -/
structure State.ValidKeys (p : State) : Prop where
  resendings : ∀ r ∈ p.resendings, validKey r.idempotencyKey
  recorded : ∀ r ∈ p.resendRequests, validKey r.idempotencyKey

variable (lib now accounts p) in
theorem resendTables_serve (hresend : ∀ accountId key token, a ≠ .resend accountId key token)
    (hresending : ∀ i delivery, a ≠ .resendingMail i delivery) :
    (serve lib now accounts p a).2.resendings = p.resendings ∧
      (serve lib now accounts p a).2.resendRequests = p.resendRequests := by
  have heffect := serve_effect lib now accounts p a
  generalize serve lib now accounts p a = out at heffect ⊢
  obtain ⟨accounts', p'⟩ := out
  dsimp only at heffect ⊢
  cases heffect with
  | resending accountId key token => exact absurd rfl (hresend _ _ _)
  | resent i delivery => exact absurd rfl (hresending _ _)
  | _ => exact ⟨rfl, rfl⟩

/-- The mail of a request that waits goes through, or not; otherwise nothing happens. -/
theorem resendingMail_cases (i : ℕ) (delivery : Option String) :
    (∃ sentId key attemptedAt, p.resendings[i]? = some ⟨sentId, key, attemptedAt, false⟩ ∧
      (p.resendingMail i delivery).resendings = p.resendings.modify i ({ · with ended := true }) ∧
        (p.resendingMail i delivery).resendRequests = delivery.elim p.resendRequests fun delivery ↦
          p.resendRequests.insertOrIgnore
            ⟨sentId, key, attemptedAt, ⟨sentId, .sent, attemptedAt, delivery⟩⟩) ∨
      (∀ r, p.resendings[i]? = some r → r.ended = true) ∧ p.resendingMail i delivery = p := by
  rw [State.resendingMail]
  split
  · next sentId key attemptedAt hheld =>
    refine .inl ⟨sentId, key, attemptedAt, hheld, ?_⟩
    unfold State.resent
    dsimp only
    cases delivery with
    | none => exact ⟨rfl, rfl⟩
    | some delivery =>
      dsimp only
      rw [Option.elim_some, Table.insertOrIgnore]
      split <;> next hinsert => rw [hinsert]; exact ⟨rfl, rfl⟩
  · next hidle =>
    refine .inr ⟨?_, rfl⟩
    rintro ⟨sentId, key, attemptedAt, ended⟩ hr
    cases ended with
    | true => rfl
    | false => exact absurd hr (hidle sentId key attemptedAt)

theorem State.ValidKeys.serve (h : p.ValidKeys) : (serve lib now accounts p a).2.ValidKeys := by
  cases hattempt : a.attempt? lib now p with
  | some invitationId =>
    obtain ⟨accountId, key, token, row, window, rfl, hresends, hserve⟩ :=
      attempt?_eq_some accounts hattempt
    rw [hserve]
    refine ⟨fun r hr ↦ ?_, h.recorded⟩
    obtain hbefore | hnew := List.mem_append.mp hr
    · exact h.resendings r hbefore
    · obtain rfl := List.mem_singleton.mp hnew
      exact hresends.valid
  | none =>
    by_cases hresend : ∃ accountId key token, a = .resend accountId key token
    · obtain ⟨accountId, key, token, rfl⟩ := hresend
      rwa [serve_resend_of_none hattempt]
    by_cases hresending : ∃ i delivery, a = .resendingMail i delivery
    · obtain ⟨i, delivery, rfl⟩ := hresending
      have hserve : (Participation.serve lib now accounts p (.resendingMail i delivery)).2 =
          p.resendingMail i delivery := rfl
      rw [hserve]
      obtain ⟨sentId, key, attemptedAt, hheld, hresendings, hrecorded⟩ | ⟨hidle, hsame⟩ :=
        resendingMail_cases (p := p) i delivery
      · constructor
        · rw [hresendings]
          intro r hr
          obtain ⟨j, hj⟩ := List.mem_iff_getElem?.mp hr
          rw [List.getElem?_modify] at hj
          obtain ⟨r', hr', rfl⟩ := Option.map_eq_some_iff.mp hj
          have hvalid := h.resendings r' (List.mem_of_getElem? hr')
          split <;> exact hvalid
        · rw [hrecorded]
          cases delivery with
          | none => exact h.recorded
          | some delivery =>
            intro r hr
            rw [Option.elim_some, Table.insertOrIgnore] at hr
            cases hinsert : p.resendRequests.insert
                ⟨sentId, key, attemptedAt, ⟨sentId, .sent, attemptedAt, delivery⟩⟩ with
            | none =>
              rw [hinsert] at hr
              exact h.recorded r hr
            | some table =>
              rw [hinsert] at hr
              obtain hbefore | rfl := (Table.mem_insert hinsert).mp hr
              · exact h.recorded r hbefore
              · exact h.resendings _ (List.mem_of_getElem? hheld)
      · rwa [hsame]
    · obtain ⟨hresendings, hrecorded⟩ := resendTables_serve lib now accounts p
        (fun accountId key token ha ↦ hresend ⟨_, _, _, ha⟩)
        (fun i delivery ha ↦ hresending ⟨_, _, ha⟩)
      exact ⟨by rw [hresendings]; exact h.resendings, by rw [hrecorded]; exact h.recorded⟩

/-- What was recorded under a key stays. -/
theorem recorded_serve {key : String × String} {r : ResendRequest}
    (h : p.resendRequests.find? key = some r) :
    (serve lib now accounts p a).2.resendRequests.find? key = some r := by
  by_cases hresending : ∃ i delivery, a = .resendingMail i delivery
  · obtain ⟨i, delivery, rfl⟩ := hresending
    change (p.resendingMail i delivery).resendRequests.find? key = some r
    obtain ⟨sentId, k, attemptedAt, -, -, hrecorded⟩ | ⟨hidle, hsame⟩ :=
      resendingMail_cases (p := p) i delivery
    · rw [hrecorded]
      cases delivery with
      | none => exact h
      | some delivery =>
        rw [Option.elim_some, Table.insertOrIgnore]
        cases hinsert : p.resendRequests.insert
            ⟨sentId, k, attemptedAt, ⟨sentId, .sent, attemptedAt, delivery⟩⟩ with
        | none => exact h
        | some table =>
          rw [Option.getD_some, Table.find?_insert hinsert]
          have hfree := (Table.insert_eq_some.mp hinsert).1
          rw [if_neg, h]
          rintro rfl
          rw [h] at hfree
          cases hfree
    · rwa [hsame]
  · have heffect := serve_effect lib now accounts p a
    generalize serve lib now accounts p a = out at heffect ⊢
    obtain ⟨accounts', p'⟩ := out
    dsimp only at heffect ⊢
    cases heffect with
    | resent i delivery => exact absurd ⟨i, delivery, rfl⟩ hresending
    | _ => exact h

/-- A request that waits for its mail, which goes through. -/
def Action.Completes (p : State) (invitationId key : String) : Action → Prop
  | .resendingMail i (some _) =>
    ∃ r, p.resendings[i]? = some r ∧ r.ended = false ∧ r.invitationId = invitationId ∧
      r.idempotencyKey = key
  | _ => False

variable (lib now accounts) in
/-- A completed request is recorded, by itself or by another one with its key. -/
theorem recorded_of_completes {key : String} (h : a.Completes p invitationId key) :
    ∃ r, (serve lib now accounts p a).2.resendRequests.find? (invitationId, key) = some r := by
  cases a with
  | resendingMail i delivery =>
    cases delivery with
    | none => cases h
    | some delivery =>
      obtain ⟨⟨sentId, k, attemptedAt, ended⟩, hheld, rfl, rfl, rfl⟩ := h
      change ∃ r, (p.resendingMail i (some delivery)).resendRequests.find? (sentId, k) = some r
      obtain ⟨sentId', k', attemptedAt', hheld', -, hrecorded⟩ | ⟨hidle, hsame⟩ :=
        resendingMail_cases (p := p) i (some delivery)
      · obtain ⟨rfl, rfl, rfl, -⟩ := Resending.mk.inj (Option.some.inj (hheld'.symm.trans hheld))
        rw [hrecorded, Option.elim_some, Table.insertOrIgnore]
        cases hinsert : p.resendRequests.insert
            ⟨sentId', k', attemptedAt', ⟨sentId', .sent, attemptedAt', delivery⟩⟩ with
        | none => exact Option.ne_none_iff_exists'.mp (Table.insert_eq_none.mp hinsert)
        | some table =>
          refine ⟨⟨sentId', k', attemptedAt', ⟨sentId', .sent, attemptedAt', delivery⟩⟩, ?_⟩
          rw [Option.getD_some, Table.find?_insert hinsert]
          exact if_pos rfl
      · cases hidle _ hheld
  | _ => cases h

/-- The answer of a request with a recorded key is the recorded one. -/
theorem resend_of_recorded {key : String} {r : ResendRequest} (hvalid : p.ValidKeys)
    (h : p.resendRequests.find? (invitationId, key) = some r) (token : String) :
    p.resend lib now invitationId (some key) token = .ok (.replay r.response) := by
  obtain ⟨hr, hkey⟩ := Table.find?_eq_some.mp h
  have hvalid := hvalid.recorded r hr
  obtain rfl : r.idempotencyKey = key := congrArg Prod.snd hkey
  simp only [State.resend, bind_eq_ok, requireSome_eq_ok, Option.filter_eq_some_iff]
  refine ⟨r.idempotencyKey, ⟨rfl, by simpa using hvalid⟩, ?_⟩
  rw [h]
  rfl

end Attempts

end Participation

namespace Server

open Participation (resendCooldownMs resendWindowMs firstResendDelayMs maxResendsPerWindow Resends)

section Limits

variable (lib : Library) (config : ServerConfig) (clock : Date)

/-- The invitation that a step sends again. -/
def attempt? (s : State) : Action → Option String
  | .participation action => action.attempt? lib s.clock s.participation
  | _ => none

/-- The time, if the step sends the invitation again. -/
def attemptTime? (invitationId : String) (s : State) (a : Action) : Option ℕ :=
  if attempt? lib s a = some invitationId then some s.clock.ms else none

/-- The times at which an invitation was sent again, newest first. -/
def attempts (actions : List Action) (invitationId : String) : List ℕ :=
  history (step lib config) (attemptTime? lib invitationId) (start clock) actions

/-- A step completes a request with the key to send the invitation again. -/
def Completes (invitationId key : String) (s : State) : Action → Prop
  | .participation action => action.Completes s.participation invitationId key
  | _ => False

/-- The attempts on an invitation so far, and what its row tells of them. -/
structure Limited (past : List Action) (invitationId : String) : Prop where
  past_le : ∀ t ∈ attempts lib config clock past invitationId,
    t ≤ (run (step lib config) (start clock) past).clock.ms
  counted : (run (step lib config) (start clock) past).participation.counted invitationId =
    ((attempts lib config clock past invitationId).head?,
      Window.latest resendWindowMs (attempts lib config clock past invitationId))
  spaced : (attempts lib config clock past invitationId).Pairwise fun newer older ↦
    older + resendCooldownMs ≤ newer
  within : Window.WithinCap resendWindowMs maxResendsPerWindow
    (attempts lib config clock past invitationId)

variable {lib config clock} {past : List Action} {a : Action} {invitationId : String}

theorem attempts_concat : attempts lib config clock (past ++ [a]) invitationId =
    (attemptTime? lib invitationId (run (step lib config) (start clock) past) a).toList ++
      attempts lib config clock past invitationId := history_concat

variable (lib config a) in
theorem clock_le_step (s : State) : s.clock.ms ≤ (step lib config s a).clock.ms := by
  by_cases hwait : ∃ ms, a = .wait ms
  · obtain ⟨ms, rfl⟩ := hwait
    exact Date.ms_le_advance s.clock ms
  · rw [step_clock_of_ne fun ms h ↦ hwait ⟨ms, h⟩]

theorem counted_step_of_ne {s : State} (h : attempt? lib s a ≠ some invitationId) :
    (step lib config s a).participation.counted invitationId =
      s.participation.counted invitationId := by
  by_cases hparticipation : ∃ action, a = .participation action
  · obtain ⟨action, rfl⟩ := hparticipation
    exact Participation.counted_serve_of_ne h
  · rw [step_participation_of_ne fun action ha ↦ hparticipation ⟨action, ha⟩]

theorem participation_of_attempt {s : State} (h : attempt? lib s a = some invitationId) :
    ∃ action, a = .participation action ∧
      action.attempt? lib s.clock s.participation = some invitationId := by
  cases a with
  | participation action => exact ⟨action, rfl, h⟩
  | _ => cases h

variable (lib config clock) in
/-- Participation keeps what each of its requests keeps. -/
theorem sentLogged_run (actions : List Action) : AtEachMoment (step lib config)
    (fun s ↦ ∀ invitationId, s.participation.SentLogged s.clock invitationId) (start clock) actions := by
  apply keeps_participation (P := fun now p ↦ ∀ invitationId, p.SentLogged now invitationId)
    (R := fun _ _ ↦ True)
  · intro s action _ h id
    exact (h id).serve
  · intro now later p hle h id
    exact ⟨fun t ht ↦ ((h id).past t ht).trans hle, (h id).latest⟩
  · exact eachStep_iff.mpr fun _ _ _ ↦ trivial
  · intro id
    exact ⟨nofun, fun row hrow ↦ (by cases hrow)⟩

variable (lib config clock) in
theorem validKeys_run (actions : List Action) : AtEachMoment (step lib config)
    (fun s ↦ s.participation.ValidKeys) (start clock) actions := by
  apply keeps_participation (P := fun _ p ↦ p.ValidKeys) (R := fun _ _ ↦ True)
  · intro s action _ h
    exact h.serve
  · intro now later p _ h
    exact h
  · exact eachStep_iff.mpr fun _ _ _ ↦ trivial
  · exact ⟨fun r hr ↦ (by cases hr), fun r hr ↦ (by cases hr)⟩

theorem limited_nil : Limited lib config clock [] invitationId where
  past_le _ h := by cases h
  counted := rfl
  spaced := List.Pairwise.nil
  within := trivial

/-- An attempt comes ten minutes after the one before at the earliest and finds room in its window. -/
theorem Limited.attempted (h : Limited lib config clock past invitationId)
    (hattempt : attempt? lib (run (step lib config) (start clock) past) a = some invitationId) :
    Limited lib config clock (past ++ [a]) invitationId := by
  have hlogged := (sentLogged_run lib config clock past).last invitationId
  have hrun : run (step lib config) (start clock) (past ++ [a]) =
      step lib config (run (step lib config) (start clock) past) a := run_append _ _ _ _
  have hattempts : attempts lib config clock (past ++ [a]) invitationId =
      (run (step lib config) (start clock) past).clock.ms ::
        attempts lib config clock past invitationId := by
    rw [attempts_concat, attemptTime?, if_pos hattempt]
    rfl
  have hclock := clock_le_step lib config a
    (run (step lib config) (start clock) past)
  obtain ⟨hpast, hcounted, hspaced, hwithin⟩ := h
  generalize run (step lib config) (start clock) past = s at *
  generalize attempts lib config clock past invitationId = earlier at *
  obtain ⟨action, rfl, haction⟩ := participation_of_attempt hattempt
  obtain ⟨accountId, key, token, row, window, rfl, hresends, hserve⟩ :=
    Participation.attempt?_eq_some s.accounts haction
  have hwaited := (hresends.waits hlogged).1
  have henter : (window.1.ms, window.2) =
      Window.enter resendWindowMs s.clock.ms (Window.latest resendWindowMs earlier) := by
    have hrow := hresends.counted
    rw [hcounted] at hrow
    rw [hresends.isAvailable.window_eq, Participation.resendWindow_eq, ← hrow]
  have hafter : (step lib config s (.participation (.resend accountId (some key) token))).participation =
      (s.participation.rotated lib s.clock row window token
        { invitationId, idempotencyKey := key, attemptedAt := s.clock }).mail invitationId token := hserve
  constructor
  · rw [hattempts, hrun, List.forall_mem_cons]
    exact ⟨hclock, fun t ht ↦ (hpast t ht).trans hclock⟩
  · rw [hattempts, hrun, hafter, Participation.counted_rotated hresends, Window.latest, ← henter]
    rfl
  · rw [hattempts, List.pairwise_cons]
    refine ⟨fun t ht ↦ ?_, hspaced⟩
    rw [hcounted] at hwaited
    cases earlier with
    | nil => cases ht
    | cons last rest =>
      have hlast := hwaited last rfl
      obtain rfl | ht := List.mem_cons.mp ht
      · exact hlast
      · have hrest := (List.pairwise_cons.mp hspaced).1 t ht
        omega
  · rw [hattempts, Window.WithinCap, ← henter]
    exact ⟨hresends.isAvailable.below_cap, hwithin⟩

variable (lib config clock) in
theorem limited_run (past : List Action) (invitationId : String) :
    Limited lib config clock past invitationId := by
  induction past using List.reverseRecOn with
  | nil => exact limited_nil
  | append_singleton past a ih =>
    by_cases hattempt : attempt? lib (run (step lib config) (start clock) past) a = some invitationId
    · exact ih.attempted hattempt
    · have hattempts : attempts lib config clock (past ++ [a]) invitationId =
          attempts lib config clock past invitationId := by
        rw [attempts_concat, attemptTime?, if_neg hattempt]
        rfl
      have hrun : run (step lib config) (start clock) (past ++ [a]) =
          step lib config (run (step lib config) (start clock) past) a := run_append _ _ _ _
      constructor
      · rw [hattempts, hrun]
        exact fun t ht ↦ (ih.past_le t ht).trans (clock_le_step lib config a _)
      · rw [hattempts, hrun, counted_step_of_ne hattempt]
        exact ih.counted
      · rw [hattempts]
        exact ih.spaced
      · rw [hattempts]
        exact ih.within

/-- What an attempt finds: the invitation is sent, neither claimed nor revoked, and has not expired; before
the first attempt five minutes have passed since its latest mail. -/
structure MayAttempt (lib : Library) (config : ServerConfig) (clock : Date) (past : List Action)
    (invitationId : String) (row : Participation.Invitation) : Prop where
  found : (run (step lib config) (start clock) past).participation.invitation invitationId = some row
  sent : row.state = .sent
  unexpired : (run (step lib config) (start clock) past).clock.ms < row.expiresAt.ms
  first : attempts lib config clock past invitationId = [] → ∃ sentAt, row.sentAt = some sentAt ∧
    sentAt.ms + firstResendDelayMs ≤ (run (step lib config) (start clock) past).clock.ms ∧
      ∀ t ∈ (run (step lib config) (start clock) past).participation.sentLog invitationId, t ≤ sentAt.ms

theorem mayAttempt (hattempt :
      attempt? lib (run (step lib config) (start clock) past) a = some invitationId) :
    ∃ row, MayAttempt lib config clock past invitationId row := by
  have hlogged := (sentLogged_run lib config clock past).last invitationId
  have hcounted := (limited_run lib config clock past invitationId).counted
  obtain ⟨action, rfl, haction⟩ := participation_of_attempt hattempt
  obtain ⟨accountId, key, token, row, window, -, hresends, -⟩ := Participation.attempt?_eq_some
    (run (step lib config) (start clock) past).accounts haction
  have hwaited := (hresends.waits hlogged).2
  rw [hcounted] at hwaited
  exact ⟨row, hresends.found, hresends.isAvailable.sent, hresends.isAvailable.unexpired,
    fun hnone ↦ hwaited (by rw [hnone]; rfl)⟩

theorem recorded_step {s : State} {key : String × String} {r : Participation.ResendRequest}
    (h : s.participation.resendRequests.find? key = some r) :
    (step lib config s a).participation.resendRequests.find? key = some r := by
  by_cases hparticipation : ∃ action, a = .participation action
  · obtain ⟨action, rfl⟩ := hparticipation
    exact Participation.recorded_serve h
  · rwa [step_participation_of_ne fun action ha ↦ hparticipation ⟨action, ha⟩]

theorem recorded_run {s : State} {key : String × String} {r : Participation.ResendRequest}
    (h : s.participation.resendRequests.find? key = some r) (later : List Action) :
    (run (step lib config) s later).participation.resendRequests.find? key = some r :=
  (atEachMoment_of_kept
    (P := fun s : State ↦ s.participation.resendRequests.find? key = some r)
    (fun _ _ hfound ↦ recorded_step hfound) h).last

/-- The record of a completed request stays, whatever comes after it. -/
theorem recorded_of_once {key : String}
    (h : Once (step lib config) (Completes invitationId key) (start clock) past) :
    ∃ r, ∀ later, (run (step lib config) (start clock) (past ++ later)).participation.resendRequests.find?
      (invitationId, key) = some r := by
  obtain ⟨before, b, ⟨between, rfl⟩, hcompletes⟩ := h
  cases b with
  | participation action =>
    obtain ⟨r, hr⟩ := Participation.recorded_of_completes lib
      (run (step lib config) (start clock) before).clock
      (run (step lib config) (start clock) before).accounts hcompletes
    refine ⟨r, fun later ↦ ?_⟩
    rw [List.append_assoc, List.append_assoc, run_append]
    exact recorded_run (s := step lib config _ (.participation action)) hr _
  | _ => cases hcompletes

/-- The limits of sending invitations again, over a run. -/
structure ResendsLimited (lib : Library) (config : ServerConfig) (clock : Date) (actions : List Action) :
    Prop where
  spaced : ∀ invitationId, (attempts lib config clock actions invitationId).Pairwise fun newer older ↦
    older + resendCooldownMs ≤ newer
  within : ∀ invitationId, Window.WithinCap resendWindowMs maxResendsPerWindow
    (attempts lib config clock actions invitationId)
  inDay : ∀ invitationId x,
    Window.countFrom resendWindowMs x (attempts lib config clock actions invitationId) ≤ 5
  attempted : EachPast (fun past a ↦ ∀ invitationId,
    attempt? lib (run (step lib config) (start clock) past) a = some invitationId →
      ∃ row, MayAttempt lib config clock past invitationId row) actions
  repeated : ∀ invitationId key, Once (step lib config) (Completes invitationId key) (start clock) actions →
    ∃ r, ∀ later, (run (step lib config) (start clock) (actions ++ later)).participation.resendRequests.find?
        (invitationId, key) = some r ∧
      ∀ now token, (run (step lib config) (start clock) (actions ++ later)).participation.resend lib now
        invitationId (some key) token = .ok (.replay r.response)

/-- In every run an invitation is sent again only while it is open, five minutes after its first mail at
the earliest, ten minutes after the attempt before, and at most three times in each counting window, so at
most five times in any 24 hours. A completed request is answered from its record. -/
theorem resend_limits (lib : Library) (config : ServerConfig) (clock : Date) (actions : List Action) :
    ResendsLimited lib config clock actions where
  spaced invitationId := (limited_run lib config clock actions invitationId).spaced
  within invitationId := (limited_run lib config clock actions invitationId).within
  inDay invitationId x := by
    have hlimited := limited_run lib config clock actions invitationId
    have hsorted : (attempts lib config clock actions invitationId).Pairwise fun newer older ↦
        older ≤ newer :=
      hlimited.spaced.imp fun h ↦ (Nat.le_add_right _ _).trans h
    exact Window.countFrom_le hsorted hlimited.within x
  attempted := fun past a _ invitationId hattempt ↦ mayAttempt hattempt
  repeated invitationId key honce := by
    obtain ⟨r, hr⟩ := recorded_of_once honce
    refine ⟨r, fun later ↦ ⟨hr later, fun now token ↦ ?_⟩⟩
    have hvalid := (validKeys_run lib config clock (actions ++ later)).last
    exact Participation.resend_of_recorded hvalid (hr later) token

end Limits

namespace Sample

def resendKey : String := "3f6c1f0a-6a0b-4a6e-9a53-2a7d0b4f8e10"

/-- The listener asks for the mail again five minutes after the first one, and four times around the end of
the window that this opens. -/
def resentAroundWindow : List Action := approval ++ [
  .participation (.approvalReturned 0),
  .wait firstResendDelayMs,
  .participation (.resend listener (some (resendKey ++ "-1")) secondToken),
  .wait (resendWindowMs - 2 * resendCooldownMs),
  .participation (.resend listener (some (resendKey ++ "-2")) firstToken),
  .wait resendCooldownMs,
  .participation (.resend listener (some (resendKey ++ "-3")) secondToken),
  .wait resendCooldownMs,
  .participation (.resend listener (some (resendKey ++ "-4")) firstToken),
  .wait resendCooldownMs,
  .participation (.resend listener (some (resendKey ++ "-5")) secondToken)]

end Sample

/-- Four attempts in half an hour: two in the window that ends and two in the next one. -/
theorem four_attempts_in_day :
    ¬∀ x, Window.countFrom resendWindowMs x
      (attempts Sample.library Sample.config Sample.clock Sample.resentAroundWindow
        Sample.firstInvitation.invitationId) ≤ 3 := by
  intro h
  have hfour : (fun times : List ℕ ↦
      4 ≤ Window.countFrom resendWindowMs (times.headD 0 - 3 * resendCooldownMs) times)
      (attempts Sample.library Sample.config Sample.clock Sample.resentAroundWindow
        Sample.firstInvitation.invitationId) := by
    decide +kernel
  exact absurd (h _) (Nat.not_le.mpr hfour)

end Server

end CreatorFirst.Gateway
