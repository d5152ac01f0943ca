import CreatorFirst.Enrollment.Reflects

/-!
# Recorded amounts and the chain

The amount of an initial funding is taken from two balances of the wallet around it. It is the amount that the
distributor has sent as long as the other transfers between the two reads cancel out. A run that finds the
funding completed records neither an amount nor an event.
-/

namespace CreatorFirst.Enrollment.Processing

open Chain CreatorFirst.Process Database Funding Gateway Participation

/-- A funded enrollment names what the distributor has sent in the initial funding of its participant, and the
audit trail confirms the funding once. -/
structure AmountRecorded (w : FundingWorld) (events : List Event) (row : Row) : Prop where
  amount : ∃ amount, row.initialFundingAmountAtomic = some amount ∧
    initialFundings w.journal row.participantId row.walletAddress = [amount]
  confirmed : confirmations events row.invitationId = 1

def RecordsFundings (w : FundingWorld) (s : State) : Prop :=
  ∀ invitationId row, s.rows.find? invitationId = some row → row.state = .funded →
    AmountRecorded w s.events row

/-- A mark after a receipt, with a balance that has risen by what the distributor has sent to the wallet, or
not at all if it has sent nothing. -/
def Undisturbed (s : State) (m : Mark) : Prop :=
  match m.balances with
  | none => False
  | some (balanceBefore, balanceAfter) =>
    ∀ amount ∈ initialFundings s.nodes.confirmed.journal m.row.participantId m.row.walletAddress,
      balanceAfter = balanceBefore + amount ∨ amount = 0 ∧ balanceAfter ≤ balanceBefore

instance (s : State) (m : Mark) : Decidable (Undisturbed s m) :=
  match hbalances : m.balances with
  | none => .isFalse (by simp [Undisturbed, hbalances])
  | some (balanceBefore, balanceAfter) =>
    decidable_of_iff
      (∀ amount ∈ initialFundings s.nodes.confirmed.journal m.row.participantId m.row.walletAddress,
        balanceAfter = balanceBefore + amount ∨ amount = 0 ∧ balanceAfter ≤ balanceBefore)
      (by simp only [Undisturbed, hbalances])

section

variable {setup : Setup} {s s' : State} {a : Action} {m : Mark} {w w' : FundingWorld} {row : Row}

/-! ## Marks -/

theorem Mark.Sound.exists_funding (h : m.Sound setup s) (hreceipt : m.balances.isSome) :
    ∃ e ∈ s.nodes.confirmed.journal, e.op.funds = some m.row.participantId :=
  exists_funding_of_mined (h.mined hreceipt)

/-- The amount of a mark is what the distributor has sent. -/
theorem Mark.Sound.undisturbed_iff (h : m.Sound setup s) (hs : Processing.Sound setup s) :
    Undisturbed s m ↔ m.balances.isSome ∧
      initialFundings s.nodes.confirmed.journal m.row.participantId m.row.walletAddress = [m.amount] := by
  cases hbalances : m.balances with
  | none => simp [Undisturbed, hbalances]
  | some balances =>
    obtain ⟨balanceBefore, balanceAfter⟩ := balances
    obtain ⟨e, he, hop⟩ := h.exists_funding (by simp [hbalances])
    have hamount := hs.nodes.confirmed.initialFundings_eq he hop m.row.walletAddress
    simp only [Undisturbed, hbalances, hamount, Mark.amount, List.mem_singleton, forall_eq,
      Option.isSome_some, true_and, List.cons.injEq, and_true]
    omega

/-! ## The audit trail -/

/-- The trail confirms fundings of funded enrollments, which have the awaited confirmations. -/
structure Trail (setup : Setup) (s : State) : Prop where
  sound : Sound setup s
  confirmed : ∀ invitationId, confirmations s.events invitationId ≠ 0 →
    ∃ row, s.rows.find? invitationId = some row ∧ row.state = .funded ∧
      ∃ e ∈ s.nodes.confirmed.journal, e.op.funds = some row.participantId

/-- The trail of an enrollment that is not funded confirms nothing. -/
theorem Trail.confirmations_eq_zero (h : Trail setup s) {invitationId : String}
    (hfound : s.rows.find? invitationId = some row) (hstate : row.state ≠ .funded) :
    confirmations s.events invitationId = 0 := by
  by_contra hne
  obtain ⟨row', hfound', hstate', -⟩ := h.confirmed invitationId hne
  rw [hfound] at hfound'
  cases hfound'
  exact hstate hstate'

theorem Trail.step (h : Trail setup s) (a : Action) : Trail setup (step setup s a) := by
  have heffect := step_effect h.sound a
  refine ⟨h.sound.step a, fun invitationId hne ↦ ?_⟩
  generalize Processing.step setup s a = s' at heffect hne ⊢
  cases heffect with
  | nodes n hmark hgrows hsound hheads hn =>
    subst hn
    obtain ⟨row, hfound, hstate, e, he, hop⟩ := h.confirmed invitationId hne
    exact ⟨row, hfound, hstate, e, (journal_suffix hgrows).mem he, hop⟩
  | quiet hmark hquiet =>
    rw [hquiet.confirmations] at hne
    obtain ⟨row, hfound, hstate, hfunding⟩ := h.confirmed invitationId hne
    refine ⟨row, (hquiet.rows.funded _ _ hstate).mpr hfound, hstate, ?_⟩
    rw [hquiet.nodes]
    exact hfunding
  | marked m hmark hsound hmarks =>
    rw [hmarks.nodes]
    rw [hmarks.events] at hne
    by_cases hid : invitationId = m.row.invitationId
    · subst hid
      obtain ⟨row, hfound, hsame, hstate, -⟩ := hmarks.find?_marked hsound
      rw [h.confirmations_eq_zero hsound.found hsound.unfunded] at hne
      have hreceipt : m.balances.isSome := by
        by_contra hnone
        simp [hnone] at hne
      refine ⟨row, hfound, hstate, ?_⟩
      rw [hsame.participantId]
      exact hsound.exists_funding hreceipt
    · rw [if_neg fun h ↦ hid h.2.symm, Nat.add_zero] at hne
      obtain ⟨row, hfound, hstate, hfunding⟩ := h.confirmed invitationId hne
      exact ⟨row, (hmarks.find?_of_ne hid hstate).mpr hfound, hstate, hfunding⟩

/-- What is recorded of the latest block is recorded of the confirmed ones. -/
theorem Trail.recordsFundings_head (h : Trail setup s) :
    RecordsFundings (s.nodes.head setup.primitives setup.deployment) s ↔
      RecordsFundings s.nodes.confirmed s := by
  have hstable : ∀ invitationId row, s.rows.find? invitationId = some row →
      confirmations s.events row.invitationId = 1 →
      initialFundings (s.nodes.head setup.primitives setup.deployment).journal row.participantId
          row.walletAddress =
        initialFundings s.nodes.confirmed.journal row.participantId row.walletAddress := by
    intro invitationId row hfound hone
    obtain rfl := (Table.find?_eq_some.mp hfound).2
    obtain ⟨row', hfound', -, hfunding⟩ := h.confirmed row.invitationId (by omega)
    rw [hfound] at hfound'
    cases hfound'
    exact h.sound.nodes.confirmed.initialFundings_stable h.sound.nodes.reaches_head hfunding _
  constructor
  · intro hrecords invitationId row hfound hstate
    obtain ⟨⟨amount, hrow, hamount⟩, hone⟩ := hrecords invitationId row hfound hstate
    rw [hstable invitationId row hfound hone] at hamount
    exact ⟨⟨amount, hrow, hamount⟩, hone⟩
  · intro hrecords invitationId row hfound hstate
    obtain ⟨⟨amount, hrow, hamount⟩, hone⟩ := hrecords invitationId row hfound hstate
    rw [← hstable invitationId row hfound hone] at hamount
    exact ⟨⟨amount, hrow, hamount⟩, hone⟩

/-! ## Runs -/

theorem AmountRecorded.congr {events events' : List Event}
    (hamount : initialFundings w'.journal row.participantId row.walletAddress =
      initialFundings w.journal row.participantId row.walletAddress)
    (hevents : confirmations events' row.invitationId = confirmations events row.invitationId) :
    AmountRecorded w' events' row ↔ AmountRecorded w events row := by
  constructor
  · rintro ⟨hrow, hone⟩
    rw [hamount] at hrow
    rw [hevents] at hone
    exact ⟨hrow, hone⟩
  · rintro ⟨hrow, hone⟩
    rw [← hamount] at hrow
    rw [← hevents] at hone
    exact ⟨hrow, hone⟩

/-- A mark leaves the amounts right exactly if nothing else has changed the balance. -/
theorem Marks.recordsFundings (h : Marks s m s') (hsound : m.Sound setup s) (hs : Trail setup s)
    (hrecords : RecordsFundings s.nodes.confirmed s) :
    RecordsFundings s'.nodes.confirmed s' ↔ Undisturbed s m := by
  rw [hsound.undisturbed_iff hs.sound, h.nodes]
  obtain ⟨marked, hmarked, hsame, hstate, hamount⟩ := h.find?_marked hsound
  have hid := (Table.find?_eq_some.mp hmarked).2
  have hevents : confirmations s'.events marked.invitationId = if m.balances.isSome then 1 else 0 := by
    rw [h.events, hid, hs.confirmations_eq_zero hsound.found hsound.unfunded]
    simp
  constructor
  · intro hrecords'
    obtain ⟨⟨amount, hrow, hfundings⟩, hone⟩ := hrecords' _ marked hmarked hstate
    rw [hevents] at hone
    rw [hamount] at hrow
    obtain rfl := Option.some.inj hrow
    rw [hsame.participantId, hsame.walletAddress] at hfundings
    exact ⟨by_contra fun hnone ↦ by simp [hnone] at hone, hfundings⟩
  · rintro ⟨hreceipt, hfundings⟩ invitationId row hfound hrow
    by_cases hne : invitationId = m.row.invitationId
    · subst hne
      rw [hmarked] at hfound
      obtain rfl := Option.some.inj hfound
      rw [← hsame.participantId, ← hsame.walletAddress] at hfundings
      exact ⟨⟨m.amount, hamount, hfundings⟩, by rw [hevents, if_pos hreceipt]⟩
    · have hbefore := (h.find?_of_ne hne hrow).mp hfound
      refine (AmountRecorded.congr rfl ?_).mpr (hrecords invitationId row hbefore hrow)
      obtain rfl := (Table.find?_eq_some.mp hfound).2
      rw [h.events, if_neg fun h ↦ hne h.2.symm, Nat.add_zero]

theorem Trail.recordsFundings_step (h : Trail setup s) (hrecords : RecordsFundings s.nodes.confirmed s)
    (a : Action) :
    RecordsFundings (Processing.step setup s a).nodes.confirmed (Processing.step setup s a) ↔
      ∀ m ∈ mark? s a, Undisturbed s m := by
  have heffect := step_effect h.sound a
  generalize Processing.step setup s a = s' at heffect ⊢
  cases heffect with
  | nodes n hmark hgrows hsound hheads hn =>
    subst hn
    refine iff_of_true (fun invitationId row hfound hstate ↦ ?_) (by simp [hmark])
    have hbefore := hrecords invitationId row hfound hstate
    obtain rfl := (Table.find?_eq_some.mp hfound).2
    have hone := hbefore.confirmed
    obtain ⟨row', hfound', -, hfunding⟩ := h.confirmed row.invitationId (by omega)
    rw [hfound] at hfound'
    cases hfound'
    have hstable := h.sound.nodes.confirmed.initialFundings_stable hgrows hfunding
    exact (AmountRecorded.congr (hstable _) rfl).mpr hbefore
  | quiet hmark hquiet =>
    refine iff_of_true (fun invitationId row hfound hstate ↦ ?_) (by simp [hmark])
    rw [hquiet.nodes]
    have hbefore := hrecords invitationId row ((hquiet.rows.funded _ _ hstate).mp hfound) hstate
    exact (AmountRecorded.congr rfl (hquiet.confirmations _)).mpr hbefore
  | marked m hmark hsound hmarks =>
    rw [hmarks.recordsFundings hsound h hrecords]
    simp [hmark]

theorem trail_start (h : Reachable setup.primitives setup.deployment w) : Trail setup (State.start w) :=
  ⟨(sound_run h []).start, fun _ hne ↦ absurd rfl hne⟩

/-- The funded enrollments name the amounts that the distributor has sent, with one event each, at every moment
of a run exactly if each of them is marked after a receipt, with a balance that only the distributor has
changed. -/
theorem recorded_amounts (h : Reachable setup.primitives setup.deployment w) (actions : List Action) :
    AtEachMoment (step setup)
        (fun s ↦ RecordsFundings (s.nodes.head setup.primitives setup.deployment) s) (State.start w) actions ↔
      EachStep (step setup) (fun s a ↦ ∀ m ∈ mark? s a, Undisturbed s m) (State.start w) actions := by
  have htrail : AtEachMoment (step setup) (Trail setup) (State.start w) actions :=
    atEachMoment_of_kept (fun _ a hs ↦ hs.step a) (trail_start h)
  have hstart : Trail setup (State.start w) ∧ RecordsFundings w (State.start w) := by
    refine ⟨trail_start h, fun invitationId row hfound ↦ ?_⟩
    cases hfound
  calc
    AtEachMoment (step setup)
        (fun s ↦ RecordsFundings (s.nodes.head setup.primitives setup.deployment) s) (State.start w) actions ↔
      AtEachMoment (step setup) (fun s ↦ Trail setup s ∧ RecordsFundings s.nodes.confirmed s) (State.start w)
        actions := by
      refine forall₂_congr fun past hpast ↦ ?_
      dsimp only
      rw [(htrail past hpast).recordsFundings_head, and_iff_right (htrail past hpast)]
    _ ↔ EachStep (step setup) (fun s a ↦ ∀ m ∈ mark? s a, Undisturbed s m) (State.start w) actions := by
      refine atEachMoment_iff_eachStep (fun s a hs ↦ ?_) hstart
      rw [← hs.1.recordsFundings_step hs.2 a, and_iff_right (hs.1.step a)]

end

/-! ## Small runs -/

theorem recorded_amounts_awaited : AtEachMoment (step Sample.setup)
    (fun s ↦ RecordsFundings (s.nodes.head Sample.setup.primitives Sample.setup.deployment) s)
    (State.start Funding.Sample.start) (Sample.awaited ++ [.balance Sample.now (.ok 2)]) := by
  apply (recorded_amounts Sample.reachable_start _).mpr
  decide +kernel

/-- The run after a timeout records neither the amount nor an event. -/
theorem retried_amount_lost : ¬AtEachMoment (step Sample.setup)
    (fun s ↦ RecordsFundings (s.nodes.head Sample.setup.primitives Sample.setup.deployment) s)
    (State.start Funding.Sample.start) Sample.retried := by
  intro h
  have hfunded : ((run (step Sample.setup) (State.start Funding.Sample.start) Sample.retried).rows.find?
      "invitation-1").map (fun row ↦ (row.state, row.invitationId)) = some (.funded, "invitation-1") := by
    decide +kernel
  obtain ⟨row, hfound, hrow⟩ := Option.map_eq_some_iff.mp hfunded
  obtain ⟨hstate, hid⟩ := Prod.ext_iff.mp hrow
  have hone := (h.last _ row hfound hstate).confirmed
  rw [show row.invitationId = "invitation-1" from hid] at hone
  revert hone
  decide +kernel

end CreatorFirst.Enrollment.Processing
