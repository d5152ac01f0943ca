import CreatorFirst.Enrollment.Process

/-!
# What a step of the enrollment operator does

A step marks an enrollment as funded, or leaves every funded enrollment as it is.
-/

namespace CreatorFirst.Enrollment.Processing

open Chain Database Funding Gateway Participation

/-! ## Marks -/

/-- An enrollment that a step marks as funded: the row as the run has read it, the block from which the run
has read its status, and the balances of the wallet around the run's own funding, if it has sent one. -/
structure Mark where
  row : Row
  seen : FundingWorld
  balances : Option (ℕ × ℕ)

/-- The amount that is recorded. -/
def Mark.amount (m : Mark) : ℕ :=
  match m.balances with
  | some (balanceBefore, balanceAfter) => balanceAfter - balanceBefore
  | none => 0

section Marks

variable (s : State)

/-- A status by which the first read of a run finds the funding completed. -/
def foundFunded (p : Attempt) (status : ChainStatus) : Prop :=
  (status.registeredParticipantId ≠ 0 → status.registeredParticipantId = p.row.participantId) ∧
    status.wallet ≠ 0 ∧ verdict p.row p.wallet status = .funded

instance (p : Attempt) (status : ChainStatus) : Decidable (foundFunded p status) :=
  inferInstanceAs (Decidable (_ ∧ _))

def markOf (p : Attempt) : Phase → Action → Option Mark
  | .status, .status _ (.ok (i, j)) =>
    match s.nodes.heads[i]?, s.nodes.heads[j]? with
    | some seen, some registered =>
      if foundFunded p (chainStatus seen registered p.row.participantId p.wallet) then
        some ⟨p.row, seen, none⟩
      else none
    | _, _ => none
  | .statusAgain, .status _ (.ok (i, j)) =>
    match s.nodes.heads[i]?, s.nodes.heads[j]? with
    | some seen, some registered =>
      if verdict p.row p.wallet (chainStatus seen registered p.row.participantId p.wallet) = .funded then
        some ⟨p.row, seen, none⟩
      else none
    | _, _ => none
  | .balanceAgain seen balanceBefore _, .balance _ (.ok i) =>
    (s.nodes.heads[i]?).map fun head ↦
      ⟨p.row, seen, some (balanceBefore, head.state.distributor.balances p.wallet)⟩
  | _, _ => none

/-- What a step marks as funded. -/
def mark? (a : Action) : Option Mark := s.process.bind fun p ↦ markOf s p p.phase a

end Marks

/-! ## Runs in progress -/

/-- A run relies on a status that matches its enrollment. -/
structure Relies (nodes : Nodes) (row : Row) (seen : FundingWorld) : Prop where
  head : seen ∈ nodes.heads
  wallet : (seen.state.registry.participants row.participantId).wallet = row.walletAddress
  approvedRoles : ((seen.state.registry.participants row.participantId).approvedRoles : ℕ) = row.roleBits
  active : (seen.state.registry.participants row.participantId).active = true

def PhaseSound (setup : Setup) (nodes : Nodes) (row : Row) : Phase → Prop
  | .status | .approval | .statusAgain => True
  | .balance seen | .funding seen _ => Relies nodes row seen
  | .balanceAgain seen _ _ => Relies nodes row seen ∧ mined setup nodes (fundingOp? row) = true

/-- The run has read the current row of its enrollment, which is not funded. -/
structure Current (rows : Rows) (p : Attempt) : Prop where
  found : rows.find? p.row.invitationId = some p.row
  unfunded : p.row.state ≠ .funded
  wallet : p.row.walletAddress = p.wallet

structure Progress (setup : Setup) (nodes : Nodes) (rows : Rows) (p : Attempt) : Prop extends
    Current rows p where
  phase : PhaseSound setup nodes p.row p.phase

structure Sound (setup : Setup) (s : State) : Prop where
  nodes : s.nodes.Sound setup.primitives setup.deployment
  progress : ∀ p, s.process = some p → Progress setup s.nodes s.rows p

/-- The table and the audit trail go on, and no enrollment is marked as funded. -/
structure Becomes (s t : State) : Prop where
  nodes : t.nodes = s.nodes
  rows : s.rows.Quiet t.rows
  events : ∃ new, t.events = s.events ++ new ∧ ∀ e ∈ new, Event.confirms e = false

/-- So does a step that ends in an await or with an outcome. -/
structure Quiet (setup : Setup) (s t : State) : Prop extends Becomes s t where
  progress : ∀ p, t.process = some p → Progress setup t.nodes t.rows p

variable {setup : Setup} {s t : State} {p : Attempt} {now : Date}

theorem Becomes.refl (s : State) : Becomes s s :=
  ⟨rfl, .refl _, [], (List.append_nil _).symm, nofun⟩

theorem Becomes.ended (h : Becomes s t) (outcome : Except Failure (Option Row)) :
    Quiet setup s (t.ended outcome).1 :=
  ⟨⟨h.nodes, h.rows, h.events⟩, fun _ hp ↦ (by cases hp)⟩

theorem Becomes.await (h : Becomes s t) (hp : Progress setup t.nodes t.rows p) :
    Quiet setup s (t.await p).1 := by
  refine ⟨⟨h.nodes, h.rows, h.events⟩, ?_⟩
  rintro p' ⟨⟩
  exact hp

/-- A write to the table with its event. -/
theorem becomes_write {rows : Rows} (hrows : s.rows.Quiet rows) {e : Event} (he : Event.confirms e = false) :
    Becomes s { s with rows, events := s.events ++ [e] } :=
  ⟨rfl, hrows, [e], rfl, fun _ hmem ↦ List.mem_singleton.mp hmem ▸ he⟩

theorem becomes_rows {rows : Rows} (hrows : s.rows.Quiet rows) : Becomes s { s with rows } :=
  ⟨rfl, hrows, [], (List.append_nil _).symm, nofun⟩

/-! ## The segments of a run -/

theorem quiet_failed (s : State) (now : Date) (p : Attempt) (message : String) :
    Quiet setup s (s.failed now p message).1 := by
  unfold State.failed
  split
  · exact (Becomes.refl s).ended _
  · split <;> exact (becomes_write (Rows.quiet_fail _ _ _ _ _) rfl).ended _

theorem quiet_checkRow (hst : Becomes s t) {invitation : Invitation} {wallet : Address} {row : Row}
    (hfound : t.rows.find? row.invitationId = some row) :
    Quiet setup s (t.checkRow invitation wallet row).1 := by
  unfold State.checkRow
  split
  · exact hst.ended _
  · next hsame =>
    split
    · exact hst.ended _
    · next hstate => exact hst.await ⟨⟨hfound, hstate, not_not.mp (not_or.mp hsame).1⟩, trivial⟩

theorem quiet_created (s : State) (now : Date) (invitation : Invitation) (wallet : Address) {row : Row}
    (hrow : row.state ≠ .funded) : Quiet setup s (s.created now invitation wallet row).1 := by
  have hst : Becomes s
      { s with
        rows := s.rows.createParticipantEnrollment row
        events := s.record now row.invitationId (.enrollmentPrepared row.roleBits) } :=
    becomes_write (Rows.quiet_create hrow) rfl
  unfold State.created
  dsimp only
  split
  · next found hfound =>
    have hid := (Table.find?_eq_some.mp hfound).2
    apply quiet_checkRow hst
    rw [hid]
    exact hfound
  · exact hst.ended _

theorem quiet_begin (s : State) (now : Date) (invitationId : String) (invitation : Option Invitation)
    (participantId operationId : Bytes32) :
    Quiet setup s (s.begin setup now invitationId invitation participantId operationId).1 := by
  unfold State.begin
  generalize Date.toISOString? (now.ms + approvalTtlMs) = expires?
  cases claimedBy setup invitation with
  | error e => exact (Becomes.refl s).ended _
  | ok claimed =>
    obtain ⟨invitation, wallet⟩ := claimed
    dsimp only
    cases hfound : s.rows.find? invitationId with
    | some row =>
      obtain rfl := (Table.find?_eq_some.mp hfound).2
      exact quiet_checkRow (Becomes.refl s) hfound
    | none =>
      cases expires? with
      | none => exact (Becomes.refl s).ended _
      | some approvalExpiresAt =>
        refine quiet_created s now _ _ ?_
        dsimp only
        nofun

/-- The row that is read again is the enrollment of the run, not funded either. -/
theorem reread_cases (hp : Current s.rows p) (hst : Becomes s t) (next : Attempt → Served) :
    ∃ row, Current t.rows { p with row } ∧ p.row.SameIdentity row ∧ row.invitationId = p.row.invitationId ∧
      t.reread p next = next { p with row } := by
  obtain ⟨row, hfound, hsame⟩ := hst.rows.kept _ _ hp.found
  have hid := (Table.find?_eq_some.mp hfound).2
  refine ⟨row, ⟨?_, fun hstate ↦ ?_, hsame.walletAddress.trans hp.wallet⟩, hsame, hid, ?_⟩
  · dsimp only
    rw [hid]
    exact hfound
  · have hbefore := (hst.rows.funded _ row hstate).mp hfound
    rw [hp.found] at hbefore
    obtain rfl := Option.some.inj hbefore
    exact hp.unfunded hstate
  · rw [State.reread, hfound]

theorem quiet_approved (hp : Current s.rows p) (receipt : Receipt) :
    Quiet setup s (s.approved now p receipt).1 := by
  have hst : Becomes s
      { s with
        rows := (s.rows.markParticipantEnrollmentApprovalSubmitted p.row.invitationId
          receipt.transactionHash now).markParticipantEnrollmentApproved p.row.invitationId
            (some receipt.transactionHash) now
        events := s.record now p.row.invitationId
          (.onchainApprovalConfirmed receipt.transactionHash receipt.blockNumber) } :=
    becomes_write ((Rows.quiet_approvalSubmitted _ _ _).trans (Rows.quiet_approved _ _ _)) rfl
  obtain ⟨row, hcurrent, -, -, hreread⟩ := reread_cases hp hst
    fun p ↦ State.await _ { p with phase := .statusAgain }
  unfold State.approved
  dsimp only
  rw [hreread]
  exact hst.await ⟨⟨hcurrent.found, hcurrent.unfunded, hcurrent.wallet⟩, trivial⟩

theorem verdict_ne_mismatch {row : Row} {wallet : Address} {status : ChainStatus}
    (h : verdict row wallet status ≠ .mismatch) :
    status.wallet = wallet ∧ status.approvedRoles = row.roleBits ∧ status.active = true := by
  unfold verdict at h
  split at h
  · exact absurd rfl h
  · next hmatch =>
    rw [not_or, not_or, not_not, not_not, Bool.not_eq_false] at hmatch
    exact hmatch

theorem completed_of_verdict {row : Row} {wallet : Address} {status : ChainStatus}
    (h : verdict row wallet status = .funded) : status.initialFundingCompleted = true := by
  unfold verdict at h
  split at h
  · cases h
  · split at h
    · cases h
    · next hcompleted => exact Bool.eq_true_of_not_eq_false hcompleted

section Approval

variable {seen registered : FundingWorld}

theorem relies_of_verdict {nodes : Nodes} {row : Row} (registered : FundingWorld) (hseen : seen ∈ nodes.heads)
    (h : verdict row row.walletAddress (chainStatus seen registered row.participantId row.walletAddress) ≠
      .mismatch) : Relies nodes row seen := by
  obtain ⟨hwallet, hroles, hactive⟩ := verdict_ne_mismatch h
  exact ⟨hseen, hwallet, hroles, hactive⟩

/-- The verdict on a row is that on every row of the same enrollment. -/
theorem verdict_same {row row' : Row} (hsame : row.SameIdentity row') (wallet : Address)
    (status : ChainStatus) : verdict row' wallet status = verdict row wallet status := by
  unfold verdict
  rw [hsame.roleBits]

theorem quiet_checkApproval (hst : Becomes s t) (hp : Current t.rows p)
    (hseen : seen ∈ t.nodes.heads)
    (h : verdict p.row p.wallet (chainStatus seen registered p.row.participantId p.wallet) ≠ .funded) :
    Quiet setup s
      (t.checkApproval now p seen (chainStatus seen registered p.row.participantId p.wallet)).1 := by
  unfold State.checkApproval
  split
  · exact hst.ended _
  · next hverdict =>
    refine hst.await ⟨⟨hp.found, hp.unfunded, hp.wallet⟩, ?_⟩
    apply relies_of_verdict registered hseen
    rw [hp.wallet, hverdict]
    nofun
  · next hverdict => exact absurd hverdict h

theorem checkApproval_of_funded {status : ChainStatus} (h : verdict p.row p.wallet status = .funded) :
    (t.checkApproval now p seen status).1 =
      { t with
        rows := t.rows.markParticipantEnrollmentFunded p.row.invitationId p.row.fundingTxHash 0 now
        process := none } := by
  rw [State.checkApproval, h]
  rfl

end Approval

/-! ## One step -/

/-- What a mark relies on. -/
structure Mark.Sound (setup : Setup) (s : State) (m : Mark) : Prop where
  found : s.rows.find? m.row.invitationId = some m.row
  unfunded : m.row.state ≠ .funded
  relies : Relies s.nodes m.row m.seen
  completed : m.balances = none →
    (m.seen.state.registry.participants m.row.participantId).initialFundingCompleted = true
  mined : m.balances.isSome → Processing.mined setup s.nodes (fundingOp? m.row) = true

/-- How often the trail of an enrollment confirms its initial funding. -/
def confirmations (events : List Event) (invitationId : String) : ℕ :=
  events.countP fun e ↦ e.invitationId = invitationId ∧ e.confirms = true

/-- The enrollment of a mark becomes funded, and nothing else changes for the others. -/
structure Marks (s : State) (m : Mark) (s' : State) : Prop where
  nodes : s'.nodes = s.nodes
  rows : ∃ rows hash now, s.rows.Quiet rows ∧
    s'.rows = rows.markParticipantEnrollmentFunded m.row.invitationId hash m.amount now
  events : ∀ invitationId, confirmations s'.events invitationId = confirmations s.events invitationId +
    if m.balances.isSome ∧ m.row.invitationId = invitationId then 1 else 0
  process : s'.process = none

inductive Effect (setup : Setup) (s : State) (a : Action) (s' : State) : Prop
  | nodes (n : Nodes) (hmark : mark? s a = none)
      (hgrows : Nodes.Grows setup.primitives setup.deployment s.nodes n)
      (hsound : n.Sound setup.primitives setup.deployment) (hheads : s.nodes.heads ⊆ n.heads)
      (h : s' = { s with nodes := n })
  | quiet (hmark : mark? s a = none) (h : Quiet setup s s')
  | marked (m : Mark) (hmark : mark? s a = some m) (hsound : m.Sound setup s) (h : Marks s m s')

theorem quiet_self (h : Sound setup s) : Quiet setup s s := ⟨.refl s, h.progress⟩

/-- An answer that finds the funding completed marks the enrollment. -/
theorem marks_found (hst : Becomes s t) (hevents : t.events = s.events) {row : Row} {seen : FundingWorld}
    (hid : p.row.invitationId = row.invitationId) {status : ChainStatus}
    (h : verdict p.row p.wallet status = .funded) :
    Marks s ⟨row, seen, none⟩ (t.checkApproval now p seen status).1 := by
  rw [checkApproval_of_funded h]
  refine ⟨hst.nodes, ⟨t.rows, p.row.fundingTxHash, now, hst.rows, ?_⟩, fun invitationId ↦ ?_, rfl⟩
  · rw [← hid]
    rfl
  · dsimp only
    rw [hevents]
    simp

theorem sound_found {seen registered : FundingWorld} (hp : Current s.rows p)
    (hseen : seen ∈ s.nodes.heads)
    (h : verdict p.row p.wallet (chainStatus seen registered p.row.participantId p.wallet) = .funded) :
    Mark.Sound setup s ⟨p.row, seen, none⟩ where
  found := hp.found
  unfunded := hp.unfunded
  relies := by
    apply relies_of_verdict registered hseen
    rw [hp.wallet, h]
    nofun
  completed _ := completed_of_verdict h
  mined hnone := by cases hnone

theorem effect_statusRead {a : Action} {seen registered : FundingWorld} (hp : Current s.rows p)
    (hseen : seen ∈ s.nodes.heads)
    (hmark : mark? s a =
      if foundFunded p (chainStatus seen registered p.row.participantId p.wallet) then
        some ⟨p.row, seen, none⟩
      else none) :
    Effect setup s a
      (s.statusRead now p seen (chainStatus seen registered p.row.participantId p.wallet)).1 := by
  unfold State.statusRead
  split
  · next hother =>
    rw [if_neg fun h ↦ hother.2 (h.1 hother.1)] at hmark
    exact .quiet hmark ((Becomes.refl s).ended _)
  · next hown =>
    split
    · next hwallet =>
      rw [if_neg fun h ↦ h.2.1 hwallet] at hmark
      exact .quiet hmark ((Becomes.refl s).await ⟨⟨hp.found, hp.unfunded, hp.wallet⟩, trivial⟩)
    · next hwallet =>
      have hiff : foundFunded p (chainStatus seen registered p.row.participantId p.wallet) ↔
          verdict p.row p.wallet (chainStatus seen registered p.row.participantId p.wallet) = .funded := by
        rw [foundFunded, and_iff_right hwallet, and_iff_right]
        intro hne
        by_contra hother
        exact hown ⟨hne, hother⟩
      rw [if_congr hiff rfl rfl] at hmark
      by_cases hverdict : verdict p.row p.wallet
          (chainStatus seen registered p.row.participantId p.wallet) = .funded
      · rw [if_pos hverdict] at hmark
        refine .marked _ hmark (sound_found hp hseen hverdict) ?_
        split
        · exact marks_found (Becomes.refl s) rfl rfl hverdict
        · have hst := becomes_rows (s := s)
            (Rows.quiet_approved p.row.invitationId p.row.approvalTxHash now)
          obtain ⟨row, -, hsame, hid, hreread⟩ := reread_cases hp hst
            fun p ↦ State.checkApproval _ now p seen _
          dsimp only
          rw [hreread]
          apply marks_found hst rfl hid
          rw [verdict_same hsame]
          exact hverdict
      · rw [if_neg hverdict] at hmark
        refine .quiet hmark ?_
        split
        · exact quiet_checkApproval (Becomes.refl s) hp hseen hverdict
        · have hst := becomes_rows (s := s)
            (Rows.quiet_approved p.row.invitationId p.row.approvalTxHash now)
          obtain ⟨row, hcurrent, hsame, -, hreread⟩ := reread_cases hp hst
            fun p ↦ State.checkApproval _ now p seen _
          dsimp only
          rw [hreread]
          rw [← verdict_same hsame] at hverdict
          rw [← hsame.participantId] at hverdict ⊢
          exact quiet_checkApproval hst hcurrent hseen hverdict

/-- The step whose receipt is that of the run's own funding marks the enrollment. -/
theorem marks_funded (s : State) (now : Date) (p : Attempt) (seen : FundingWorld)
    (balanceBefore balanceAfter : ℕ) (receipt : Receipt) :
    Marks s ⟨p.row, seen, some (balanceBefore, balanceAfter)⟩
      (s.funded now p balanceBefore balanceAfter receipt).1 where
  nodes := rfl
  rows := ⟨_, _, now, Rows.quiet_fundingSubmitted p.row.invitationId receipt.transactionHash now, rfl⟩
  events invitationId := by
    dsimp only [State.funded, State.ended, State.record]
    rw [confirmations, List.countP_append]
    simp [confirmations, List.countP_cons, Event.confirms]
  process := rfl

/-! ## The answers that a run waits for -/

theorem mark?_of_phase {phase : Phase} (hp : s.process = some p) (hphase : p.phase = phase) (a : Action) :
    mark? s a = markOf s p phase a := by
  rw [mark?, hp, ← hphase]
  rfl

theorem effect_status (h : Sound setup s) (hp : s.process = some p) (hphase : p.phase = .status) (a : Action) :
    Effect setup s a (s.answered setup now p .status a).1 := by
  have hmark := mark?_of_phase hp hphase a
  have hself := quiet_self h
  cases a with
  | status now' answer =>
    cases answer with
    | error message => exact .quiet hmark (quiet_failed s now p message)
    | ok blocks =>
      obtain ⟨i, j⟩ := blocks
      simp only [State.answered, markOf] at hmark ⊢
      cases hseen : s.nodes.heads[i]? with
      | none =>
        rw [hseen] at hmark
        exact .quiet hmark hself
      | some seen =>
        rw [hseen] at hmark
        cases hregistered : s.nodes.heads[j]? with
        | none =>
          rw [hregistered] at hmark
          exact .quiet hmark hself
        | some registered =>
          rw [hregistered] at hmark
          exact effect_statusRead (h.progress p hp).toCurrent (List.mem_of_getElem? hseen) hmark
  | _ => exact .quiet hmark hself

theorem effect_approval (h : Sound setup s) (hp : s.process = some p) (hphase : p.phase = .approval)
    (a : Action) : Effect setup s a (s.answered setup now p .approval a).1 := by
  have hmark := mark?_of_phase hp hphase a
  have hself := quiet_self h
  cases a with
  | approval now' answer =>
    cases answer with
    | error message => exact .quiet hmark (quiet_failed s now p message)
    | ok receipt =>
      simp only [State.answered]
      split
      · exact .quiet hmark (quiet_approved (h.progress p hp).toCurrent receipt)
      · exact .quiet hmark hself
  | _ => exact .quiet hmark hself

theorem effect_statusAgain (h : Sound setup s) (hp : s.process = some p) (hphase : p.phase = .statusAgain)
    (a : Action) : Effect setup s a (s.answered setup now p .statusAgain a).1 := by
  have hmark := mark?_of_phase hp hphase a
  have hself := quiet_self h
  cases a with
  | status now' answer =>
    cases answer with
    | error message => exact .quiet hmark (quiet_failed s now p message)
    | ok blocks =>
      obtain ⟨i, j⟩ := blocks
      simp only [State.answered, markOf] at hmark ⊢
      cases hseen : s.nodes.heads[i]? with
      | none =>
        rw [hseen] at hmark
        exact .quiet hmark hself
      | some seen =>
        rw [hseen] at hmark
        cases hregistered : s.nodes.heads[j]? with
        | none =>
          rw [hregistered] at hmark
          exact .quiet hmark hself
        | some registered =>
          rw [hregistered] at hmark
          dsimp only at hmark ⊢
          have hcurrent := (h.progress p hp).toCurrent
          have hmem := List.mem_of_getElem? hseen
          split at hmark
          · next hverdict =>
            exact .marked _ hmark (sound_found hcurrent hmem hverdict)
              (marks_found (Becomes.refl s) rfl rfl hverdict)
          · next hverdict =>
            exact .quiet hmark (quiet_checkApproval (Becomes.refl s) hcurrent hmem hverdict)
  | _ => exact .quiet hmark hself

theorem effect_balance {seen : FundingWorld} (h : Sound setup s) (hp : s.process = some p)
    (hphase : p.phase = .balance seen) (a : Action) :
    Effect setup s a (s.answered setup now p (.balance seen) a).1 := by
  have hmark := mark?_of_phase hp hphase a
  have hself := quiet_self h
  have hcurrent := (h.progress p hp).toCurrent
  have hrelies : Relies s.nodes p.row seen := by
    have hsound := (h.progress p hp).phase
    rwa [hphase] at hsound
  cases a with
  | balance now' answer =>
    cases answer with
    | error message => exact .quiet hmark (quiet_failed s now p message)
    | ok i =>
      simp only [State.answered]
      split
      · next head hhead =>
        refine .quiet hmark ((Becomes.refl s).await ⟨?_, hrelies⟩)
        exact ⟨hcurrent.found, hcurrent.unfunded, hcurrent.wallet⟩
      · exact .quiet hmark hself
  | _ => exact .quiet hmark hself

theorem effect_funding {seen : FundingWorld} {balanceBefore : ℕ} (h : Sound setup s)
    (hp : s.process = some p) (hphase : p.phase = .funding seen balanceBefore) (a : Action) :
    Effect setup s a (s.answered setup now p (.funding seen balanceBefore) a).1 := by
  have hmark := mark?_of_phase hp hphase a
  have hself := quiet_self h
  have hcurrent := (h.progress p hp).toCurrent
  have hrelies : Relies s.nodes p.row seen := by
    have hsound := (h.progress p hp).phase
    rwa [hphase] at hsound
  cases a with
  | funding now' answer =>
    cases answer with
    | error message => exact .quiet hmark (quiet_failed s now p message)
    | ok receipt =>
      simp only [State.answered]
      split
      · next hmined =>
        refine .quiet hmark ((Becomes.refl s).await ⟨?_, hrelies, hmined⟩)
        exact ⟨hcurrent.found, hcurrent.unfunded, hcurrent.wallet⟩
      · exact .quiet hmark hself
  | _ => exact .quiet hmark hself

theorem effect_balanceAgain {seen : FundingWorld} {balanceBefore : ℕ} {receipt : Receipt}
    (h : Sound setup s) (hp : s.process = some p)
    (hphase : p.phase = .balanceAgain seen balanceBefore receipt) (a : Action) :
    Effect setup s a (s.answered setup now p (.balanceAgain seen balanceBefore receipt) a).1 := by
  have hmark := mark?_of_phase hp hphase a
  have hself := quiet_self h
  have hcurrent := (h.progress p hp).toCurrent
  have hrelies : Relies s.nodes p.row seen ∧ mined setup s.nodes (fundingOp? p.row) = true := by
    have hsound := (h.progress p hp).phase
    rwa [hphase] at hsound
  cases a with
  | balance now' answer =>
    cases answer with
    | error message => exact .quiet hmark (quiet_failed s now p message)
    | ok i =>
      simp only [State.answered, markOf] at hmark ⊢
      cases hhead : s.nodes.heads[i]? with
      | none =>
        rw [hhead] at hmark
        exact .quiet hmark hself
      | some head =>
        rw [hhead] at hmark
        refine .marked _ hmark ?_ (marks_funded s now p seen balanceBefore _ receipt)
        exact ⟨hcurrent.found, hcurrent.unfunded, hrelies.1, by simp, fun _ ↦ hrelies.2⟩
  | _ => exact .quiet hmark hself

theorem effect_answered (h : Sound setup s) (hp : s.process = some p) (a : Action) :
    Effect setup s a (s.answered setup now p p.phase a).1 := by
  cases hphase : p.phase with
  | status => exact effect_status h hp hphase a
  | approval => exact effect_approval h hp hphase a
  | statusAgain => exact effect_statusAgain h hp hphase a
  | balance seen => exact effect_balance h hp hphase a
  | funding seen balanceBefore => exact effect_funding h hp hphase a
  | balanceAgain seen balanceBefore receipt => exact effect_balanceAgain h hp hphase a

/-- Only an answer of a node marks an enrollment. -/
theorem markOf_eq_none {a : Action} (h : ∀ now answer, a ≠ .status now answer)
    (h' : ∀ now answer, a ≠ .balance now answer) (phase : Phase) : markOf s p phase a = none := by
  cases a with
  | status now answer => exact absurd rfl (h now answer)
  | balance now answer => exact absurd rfl (h' now answer)
  | _ => cases phase <;> rfl

theorem mark?_eq_none {a : Action} (h : ∀ now answer, a ≠ .status now answer)
    (h' : ∀ now answer, a ≠ .balance now answer) : mark? s a = none := by
  rw [mark?]
  cases s.process with
  | none => rfl
  | some p => exact markOf_eq_none h h' p.phase

theorem step_effect (h : Sound setup s) (a : Action) : Effect setup s a (step setup s a) := by
  have hanswer : ∀ now t, (∀ p, s.process = some p → t = (s.answered setup now p p.phase a).1) →
      (s.process = none → t = s) → Effect setup s a t := by
    intro now t hsome hnone
    cases hprocess : s.process with
    | some p =>
      rw [hsome p hprocess]
      exact effect_answered h hprocess a
    | none =>
      have hmark : mark? s a = none := by
        rw [mark?, hprocess]
        rfl
      rw [hnone hprocess]
      exact .quiet hmark (quiet_self h)
  cases a with
  | publish txs =>
    refine .nodes _ (mark?_eq_none (by simp) (by simp)) (Nodes.grows_publish s.nodes txs) (h.nodes.publish txs) ?_ rfl
    exact Nodes.heads_publish s.nodes txs
  | confirm =>
    refine .nodes _ (mark?_eq_none (by simp) (by simp)) h.nodes.confirm_step h.nodes.confirm ?_ rfl
    exact Nodes.heads_confirm s.nodes
  | process now invitationId invitation participantId operationId =>
    refine .quiet (mark?_eq_none (by simp) (by simp)) ?_
    rw [step, serve]
    split
    · exact quiet_self h
    · exact quiet_begin s now invitationId invitation participantId operationId
  | restart => exact .quiet (mark?_eq_none (by simp) (by simp)) ((Becomes.refl s).ended (.ok none))
  | status now answer | approval now answer | balance now answer | funding now answer =>
    apply hanswer now
    · intro p hprocess
      simp only [step, serve, hprocess]
    · intro hprocess
      simp only [step, serve, hprocess]

/-! ## Runs -/

theorem mined_mono {nodes nodes' : Nodes} {op? : Funding.Op → Bool}
    (hgrows : Nodes.Grows setup.primitives setup.deployment nodes nodes')
    (h : mined setup nodes op? = true) : mined setup nodes' op? = true := by
  rw [mined, List.any_eq_true] at h ⊢
  obtain ⟨e, he, hop⟩ := h
  exact ⟨e, (journal_suffix hgrows).mem he, hop⟩

theorem PhaseSound.grows {nodes nodes' : Nodes} {row : Row} {phase : Phase}
    (h : PhaseSound setup nodes row phase) (hheads : nodes.heads ⊆ nodes'.heads)
    (hgrows : Nodes.Grows setup.primitives setup.deployment nodes nodes') :
    PhaseSound setup nodes' row phase := by
  have hrelies : ∀ seen, Relies nodes row seen → Relies nodes' row seen :=
    fun _ h ↦ ⟨hheads h.head, h.wallet, h.approvedRoles, h.active⟩
  cases phase with
  | status | approval | statusAgain => trivial
  | balance seen | funding seen balanceBefore => exact hrelies seen h
  | balanceAgain seen balanceBefore receipt => exact ⟨hrelies seen h.1, mined_mono hgrows h.2⟩

theorem Sound.step (h : Sound setup s) (a : Action) : Sound setup (step setup s a) := by
  have heffect := step_effect h a
  generalize Processing.step setup s a = s' at heffect ⊢
  cases heffect with
  | nodes n hmark hgrows hsound hheads hn =>
    subst hn
    refine ⟨hsound, fun p hp ↦ ?_⟩
    obtain ⟨hcurrent, hphase⟩ := h.progress p hp
    exact ⟨hcurrent, hphase.grows hheads hgrows⟩
  | quiet hmark hquiet =>
    refine ⟨?_, hquiet.progress⟩
    rw [hquiet.nodes]
    exact h.nodes
  | marked m hmark hsound hmarks =>
    refine ⟨?_, fun p hp ↦ ?_⟩
    · rw [hmarks.nodes]
      exact h.nodes
    · rw [hmarks.process] at hp
      cases hp

theorem sound_run {w : FundingWorld} (h : Reachable setup.primitives setup.deployment w)
    (actions : List Action) :
    CreatorFirst.Process.AtEachMoment (step setup) (Sound setup) (State.start w) actions := by
  refine CreatorFirst.Process.atEachMoment_of_kept (fun _ a hs ↦ hs.step a) ⟨Nodes.sound_start h, ?_⟩
  intro p hp
  cases hp

theorem Effect.reaches {a : Action} (h : Effect setup s a t) :
    (contract setup.primitives setup.deployment).Reaches s.nodes.confirmed t.nodes.confirmed := by
  cases h with
  | nodes n hmark hgrows hsound hheads hn =>
    subst hn
    exact hgrows
  | quiet hmark hquiet =>
    rw [hquiet.nodes]
  | marked m hmark hsound hmarks =>
    rw [hmarks.nodes]

/-- A step that marks nothing confirms nothing in the trail. -/
theorem Becomes.confirmations (h : Becomes s t) (invitationId : String) :
    confirmations t.events invitationId = confirmations s.events invitationId := by
  obtain ⟨new, hevents, hnew⟩ := h.events
  rw [hevents, Processing.confirmations, Processing.confirmations, List.countP_append, Nat.add_eq_left,
    List.countP_eq_zero]
  intro e he
  simp [hnew e he]

end CreatorFirst.Enrollment.Processing
