import CreatorFirst.Sortition.Selection

/-!
# The phases of a round

A round is created before its eligibility closes, receives its random word once and in its window,
selects one rank after the other and then activates alternates one after the other. What a phase
has fixed, no later one changes.
-/

namespace CreatorFirst.Sortition

open Chain Relation

variable {P : Primitives} {d : Deployment}

/-! ## One House of a round -/

/-- The records of one House of a round. -/
structure Phase where
  round : Round
  config : HouseConfig
  index : Uint 32 → Uint 32
  claimed : Uint 32 → Bool

def State.phase (s : State) (sessionId : Uint 256) (house : Uint 8) : Phase where
  round := s.rounds sessionId
  config := s.houseConfigs sessionId house
  index := s.selectedIndexPlusOne sessionId house
  claimed := s.rankClaimed sessionId house

/-- What the creation of a round fixes for one House. -/
structure RoundTerms where
  eligibilitySnapshotHash : Bytes32
  randomnessRequestId : Bytes32
  eligibilityClosesAt : Uint 64
  claimDeadline : Uint 64
  eligibilityRoot : Bytes32
  populationSize : Uint 32
  primarySeats : Uint 32
  alternateSeats : Uint 32

def Phase.terms (x : Phase) : RoundTerms :=
  ⟨x.round.eligibilitySnapshotHash, x.round.randomnessRequestId, x.round.eligibilityClosesAt,
    x.round.claimDeadline, x.config.eligibilityRoot, x.config.populationSize, x.config.primarySeats,
    x.config.alternateSeats⟩

def RoundParams.terms (params : RoundParams) (house : Uint 8) : RoundTerms :=
  Phase.terms ⟨params.round, params.config house, fun _ ↦ 0, fun _ ↦ false⟩

/-- The ways in which an operation can change the records of one House. -/
inductive PhaseChange (P : Primitives) (d : Deployment) (b : Block) (sender : Address) (s : System)
    (op : SortitionOp) (sessionId : Uint 256) (house : Uint 8) : Phase → Prop
  | same : PhaseChange P d b sender s op sessionId house (s.sortition.phase sessionId house)
  | created (params : RoundParams) (hop : op = .createRound params)
      (hid : sessionId = params.sessionId) (h : Creates b params s) :
      PhaseChange P d b sender s op sessionId house
        { s.sortition.phase sessionId house with
          round := params.round
          config := params.config house }
  | fulfilled (requestId : Bytes32) (randomWord : Uint 256)
      (hop : op = .fulfillRandomness requestId randomWord)
      (hid : sessionId = s.sortition.requestSessionId requestId)
      (h : Fulfils b requestId randomWord s.sortition) :
      PhaseChange P d b sender s op sessionId house
        { s.sortition.phase sessionId house with
          round :=
            { s.sortition.rounds sessionId with randomWord, randomnessFulfilled := true } }
  | selected (position candidateIndex encodedValue encodedIndex selectedCount : Uint 32)
      (hop : op = .finalizeNextSelection sessionId house)
      (h : Selects P sessionId house s.sortition position candidateIndex encodedValue encodedIndex
        selectedCount) :
      PhaseChange P d b sender s op sessionId house
        { s.sortition.phase sessionId house with
          config := { s.sortition.houseConfigs sessionId house with selectedCount }
          index := Function.update (s.sortition.selectedIndexPlusOne sessionId house)
            (s.sortition.houseConfigs sessionId house).selectedCount encodedIndex }
  | claimed (c : SeatClaim) (candidateIndex : Uint 32) (governor : Governor.State)
      (hop : op = .claimSeat c) (hid : sessionId = c.sessionId) (hhouse : house = c.house)
      (h : Claims P d b sender c s candidateIndex governor) :
      PhaseChange P d b sender s op sessionId house
        { s.sortition.phase sessionId house with
          claimed := Function.update (s.sortition.rankClaimed sessionId house) c.rank true }
  | activated (vacancyEvidenceHash : Bytes32) (activeRankLimit : Uint 32)
      (hop : op = .activateNextAlternate sessionId house vacancyEvidenceHash)
      (h : Activates P b sender sessionId house vacancyEvidenceHash s.sortition activeRankLimit) :
      PhaseChange P d b sender s op sessionId house
        { s.sortition.phase sessionId house with
          config := { s.sortition.houseConfigs sessionId house with activeRankLimit } }

/-- A row of a nested mapping after one write. -/
theorem update₃_row {α β γ δ : Type} [DecidableEq α] [DecidableEq β] [DecidableEq γ]
    (m : α → β → γ → δ) (a : α) (b : β) (c : γ) (v : δ) (x : α) (y : β) :
    update₃ m a b c v x y = if x = a ∧ y = b then Function.update (m x y) c v else m x y := by
  funext z
  rw [update₃_apply]
  by_cases h : x = a ∧ y = b
  · obtain ⟨rfl, rfl⟩ := h
    by_cases hz : z = c <;> simp [hz]
  · rw [if_neg h, if_neg fun h' ↦ h ⟨h'.1, h'.2.1⟩]

theorem Effect.phase_change {b : Block} {sender : Address} {op : SortitionOp} {s s' : System}
    (h : Effect P d b sender s op s') (sessionId : Uint 256) {house : Uint 8}
    (hhouse : IsHouse house) :
    PhaseChange P d b sender s op sessionId house (s'.sortition.phase sessionId house) := by
  cases h with
  | access => exact .same
  | createRound params _ hcreates =>
    by_cases hid : sessionId = params.sessionId
    · have hphase : (s.sortition.withRound params).phase sessionId house =
          { s.sortition.phase sessionId house with
            round := params.round
            config := params.config house } := by
        simp [State.phase, State.withRound, hid, hhouse]
      rw [hphase]
      exact .created params rfl hid hcreates
    · have hphase : (s.sortition.withRound params).phase sessionId house =
          s.sortition.phase sessionId house := by
        simp [State.phase, State.withRound, hid]
      rw [hphase]
      exact .same
  | fulfillRandomness requestId randomWord hfulfils =>
    by_cases hid : sessionId = s.sortition.requestSessionId requestId
    · have hphase : (s.sortition.withWord (s.sortition.requestSessionId requestId)
          randomWord).phase sessionId house =
            { s.sortition.phase sessionId house with
              round :=
                { s.sortition.rounds sessionId with
                  randomWord, randomnessFulfilled := true } } := by
        simp [State.phase, State.withWord, hid]
      rw [hphase]
      exact .fulfilled requestId randomWord rfl hid hfulfils
    · have hphase : (s.sortition.withWord (s.sortition.requestSessionId requestId)
          randomWord).phase sessionId house = s.sortition.phase sessionId house := by
        simp [State.phase, State.withWord, hid]
      rw [hphase]
      exact .same
  | finalizeNextSelection sessionId₀ house₀ position candidateIndex value index count hselects =>
    by_cases hid : sessionId = sessionId₀ ∧ house = house₀
    · obtain ⟨rfl, rfl⟩ := hid
      have hphase : (s.sortition.withSelection sessionId house position value index count).phase
          sessionId house =
            { s.sortition.phase sessionId house with
              config := { s.sortition.houseConfigs sessionId house with selectedCount := count }
              index := Function.update (s.sortition.selectedIndexPlusOne sessionId house)
                (s.sortition.houseConfigs sessionId house).selectedCount index } := by
        simp [State.phase, State.withSelection, update₃_row]
      rw [hphase]
      exact .selected position candidateIndex value index count rfl hselects
    · have hphase : (s.sortition.withSelection sessionId₀ house₀ position value index count).phase
          sessionId house = s.sortition.phase sessionId house := by
        simp only [State.phase, State.withSelection, update₃_row, update₂_apply, if_neg hid]
      rw [hphase]
      exact .same
  | claimSeat c candidateIndex governor hclaims =>
    by_cases hid : sessionId = c.sessionId ∧ house = c.house
    · have hphase : (s.sortition.withClaim c).phase sessionId house =
          { s.sortition.phase sessionId house with
            claimed :=
              Function.update (s.sortition.rankClaimed sessionId house) c.rank true } := by
        simp [State.phase, State.withClaim, update₃_row, hid]
      rw [hphase]
      exact .claimed c candidateIndex governor rfl hid.1 hid.2 hclaims
    · have hphase : (s.sortition.withClaim c).phase sessionId house =
          s.sortition.phase sessionId house := by
        simp only [State.phase, State.withClaim, update₃_row, if_neg hid]
      rw [hphase]
      exact .same
  | activateNextAlternate sessionId₀ house₀ evidence limit hactivates =>
    by_cases hid : sessionId = sessionId₀ ∧ house = house₀
    · obtain ⟨rfl, rfl⟩ := hid
      have hphase : (s.sortition.withAlternate sessionId house limit).phase sessionId house =
          { s.sortition.phase sessionId house with
            config := { s.sortition.houseConfigs sessionId house with
              activeRankLimit := limit } } := by
        simp [State.phase, State.withAlternate]
      rw [hphase]
      exact .activated evidence limit rfl hactivates
    · have hphase : (s.sortition.withAlternate sessionId₀ house₀ limit).phase sessionId house =
          s.sortition.phase sessionId house := by
        simp only [State.phase, State.withAlternate, update₂_apply, if_neg hid]
      rw [hphase]
      exact .same

/-! ## What holds at any time -/

/-- The records of one House fit together at the time `t`. -/
structure InPhase (t : ℕ) (x : Phase) : Prop where
  word_iff : x.round.randomnessFulfilled = true ↔ x.round.randomWord ≠ 0
  primarySeats_le : x.config.primarySeats ≤ x.config.activeRankLimit
  limit_le : x.config.activeRankLimit ≤ max x.config.primarySeats x.config.selectedCount
  after_deadline : x.config.primarySeats < x.config.activeRankLimit →
    (x.round.claimDeadline : ℕ) < t

theorem inPhase_initial (t : ℕ) (sessionId : Uint 256) (house : Uint 8) :
    InPhase t ((initialState P d).phase sessionId house) where
  word_iff := by simp [State.phase, initialState]
  primarySeats_le := le_rfl
  limit_le := le_rfl
  after_deadline h := absurd h (lt_irrefl _)

@[simp]
theorem config_activeRankLimit (params : RoundParams) (house : Uint 8) :
    (params.config house).activeRankLimit = (params.config house).primarySeats := by
  unfold RoundParams.config
  split <;> rfl

@[simp]
theorem config_selectedCount (params : RoundParams) (house : Uint 8) :
    (params.config house).selectedCount = 0 := by
  unfold RoundParams.config
  split <;> rfl

theorem InPhase.later {t t' : ℕ} {x : Phase} (h : InPhase t x) (ht : t ≤ t') : InPhase t' x :=
  { h with after_deadline := fun hlimit ↦ (h.after_deadline hlimit).trans_le ht }

section

variable {b : Block} {sender : Address} {s : System} {op : SortitionOp} {sessionId : Uint 256}
  {house : Uint 8} {x' : Phase}

theorem PhaseChange.inPhase (h : PhaseChange P d b sender s op sessionId house x')
    (hs : InPhase b.timestamp (s.sortition.phase sessionId house)) : InPhase b.timestamp x' := by
  cases h with
  | same | claimed => exact ⟨hs.1, hs.2, hs.3, hs.4⟩
  | created params =>
    constructor
    · simp [RoundParams.round]
    · simp
    · simp
    · simp
  | fulfilled requestId randomWord _ _ hfulfils =>
    exact ⟨by simp [hfulfils.word_ne], hs.2, hs.3, hs.4⟩
  | selected position candidateIndex value index count _ hselects =>
    refine ⟨hs.1, hs.2, ?_, hs.4⟩
    have hcount : (s.sortition.houseConfigs sessionId house).selectedCount ≤ count := by
      rw [Fin.le_def, hselects.count_eq]
      exact Nat.le_succ _
    exact hs.limit_le.trans (max_le_max le_rfl hcount)
  | activated evidence limit _ hactivates =>
    have hlimit : (s.sortition.houseConfigs sessionId house).activeRankLimit ≤ limit := by
      rw [Fin.le_def, hactivates.limit_eq]
      exact Nat.le_succ _
    refine ⟨hs.1, hs.primarySeats_le.trans hlimit, ?_, fun _ ↦ hactivates.after_deadline⟩
    apply le_max_of_le_right
    rw [Fin.le_def, hactivates.limit_eq]
    exact hactivates.selected

end

theorem Observable.inPhase {w : SystemWorld} (h : Observable P d w) (sessionId : Uint 256)
    {house : Uint 8} (hhouse : IsHouse house) :
    InPhase w.block.timestamp (w.state.sortition.phase sessionId house) := by
  refine h.invariant
    (I := fun w ↦ InPhase w.block.timestamp (w.state.sortition.phase sessionId house))
    (fun _ ↦ inPhase_initial _ _ _) fun w w' _ hw hs ↦ ?_
  obtain hsame | ⟨msg, op, heff, hblock, -⟩ := hs.sortition_change
  · rw [hsame]
    exact hw.later hs.timestamp_le
  · rw [hblock]
    exact (heff.phase_change sessionId hhouse).inPhase hw

/-! ## Requests -/

/-- Each round is what its request is bound to. -/
def RequestsBound (s : State) : Prop :=
  ∀ sessionId, (s.rounds sessionId).doesExist = true →
    sessionId ≠ 0 ∧ s.requestSessionId (s.rounds sessionId).randomnessRequestId = sessionId

theorem Effect.requestsBound {b : Block} {sender : Address} {op : SortitionOp} {s s' : System}
    (hgovernor : Governor.WellFormed s.governor) (hs : RequestsBound s.sortition)
    (h : Effect P d b sender s op s') : RequestsBound s'.sortition := by
  cases h with
  | access | finalizeNextSelection | claimSeat | activateNextAlternate => exact hs
  | createRound params _ hcreates =>
    intro sessionId hexists
    by_cases hid : sessionId = params.sessionId
    · subst hid
      refine ⟨hgovernor.session_ne _ hcreates.session_exists, ?_⟩
      simp [State.withRound, RoundParams.round]
    · have hsame : (s.sortition.withRound params).rounds sessionId =
          s.sortition.rounds sessionId := by simp [State.withRound, hid]
      rw [hsame] at hexists ⊢
      obtain ⟨hne, hbound⟩ := hs sessionId hexists
      -- The new request was bound to no session, the old one is.
      have hrequest : (s.sortition.rounds sessionId).randomnessRequestId ≠
          params.randomnessRequestId := by
        intro heq
        rw [heq, hcreates.request_free] at hbound
        exact hne hbound.symm
      exact ⟨hne, by simpa [State.withRound, hrequest] using hbound⟩
  | fulfillRandomness requestId randomWord =>
    intro sessionId hexists
    by_cases hid : sessionId = s.sortition.requestSessionId requestId
    · subst hid
      simp only [State.withWord, Function.update_self] at hexists ⊢
      exact hs _ hexists
    · simp only [State.withWord, Function.update_of_ne hid] at hexists ⊢
      exact hs _ hexists

theorem Observable.requestsBound {w : SystemWorld} (h : Observable P d w) :
    RequestsBound w.state.sortition := by
  refine h.invariant (I := fun w ↦ RequestsBound w.state.sortition)
    (fun _ _ hexists ↦ by cases hexists) fun w w' hw hb hs ↦ ?_
  obtain hsame | ⟨msg, op, heff, -, -⟩ := hs.sortition_change
  · rwa [hsame]
  · exact heff.requestsBound hw.governor.wellFormed hb

/-! ## What one step can change -/

/-- Between the records `x` and `x'` of a House lies one step at the time `t`, in which the
operations for which `called` holds were called. -/
structure StepsInPhase (t : ℕ) (called : SortitionOp → Prop) (sessionId : Uint 256) (house : Uint 8)
    (x x' : Phase) : Prop where
  created : x.round.doesExist = false → x'.round.doesExist = true → ∃ params,
    called (.createRound params) ∧ params.sessionId = sessionId ∧
      t < (params.eligibilityClosesAt : ℕ) ∧ x'.terms = params.terms house
  word : x'.round.randomWord ≠ x.round.randomWord →
    called (.fulfillRandomness x.round.randomnessRequestId x'.round.randomWord) ∧
      x.round.doesExist = true ∧ x.round.randomWord = 0 ∧ x'.round.randomWord ≠ 0 ∧
      (x.round.eligibilityClosesAt : ℕ) ≤ t ∧ t < (x.round.claimDeadline : ℕ)
  index : ∀ rank, x'.index rank ≠ x.index rank →
    called (.finalizeNextSelection sessionId house) ∧ rank = x.config.selectedCount ∧
      x.index rank = 0 ∧ x.round.randomWord ≠ 0
  count : x.round.doesExist = true → x'.config.selectedCount ≠ x.config.selectedCount →
    called (.finalizeNextSelection sessionId house) ∧
      (x'.config.selectedCount : ℕ) = x.config.selectedCount + 1
  limit : x.round.doesExist = true → x'.config.activeRankLimit ≠ x.config.activeRankLimit →
    (∃ evidence, called (.activateNextAlternate sessionId house evidence)) ∧
      (x'.config.activeRankLimit : ℕ) = x.config.activeRankLimit + 1

theorem StepsInPhase.refl (t : ℕ) (called : SortitionOp → Prop) (sessionId : Uint 256)
    (house : Uint 8) (x : Phase) : StepsInPhase t called sessionId house x x where
  created h h' := by
    rw [h] at h'
    cases h'
  word h := absurd rfl h
  index _ h := absurd rfl h
  count _ h := absurd rfl h
  limit _ h := absurd rfl h

theorem StepsInPhase.mono {t : ℕ} {called called' : SortitionOp → Prop} {sessionId : Uint 256}
    {house : Uint 8} {x x' : Phase} (h : StepsInPhase t called sessionId house x x')
    (hcalled : ∀ op, called op → called' op) : StepsInPhase t called' sessionId house x x' where
  created hnew hexists := by
    obtain ⟨params, hop, hrest⟩ := h.created hnew hexists
    exact ⟨params, hcalled _ hop, hrest⟩
  word hne := (h.word hne).imp_left (hcalled _)
  index rank hne := (h.index rank hne).imp_left (hcalled _)
  count hexists hne := (h.count hexists hne).imp_left (hcalled _)
  limit hexists hne := (h.limit hexists hne).imp_left fun ⟨evidence, hop⟩ ↦ ⟨evidence, hcalled _ hop⟩

section

variable {b : Block} {sender : Address} {s : System} {op : SortitionOp} {sessionId : Uint 256}
  {house : Uint 8} {x' : Phase}

/-- A round that exists is not created again. -/
theorem Creates.absurd {params : RoundParams} (h : Creates b params s)
    (hid : sessionId = params.sessionId)
    (hexists : (s.sortition.phase sessionId house).round.doesExist = true) : False := by
  have hnew := h.not_exists
  rw [← hid] at hnew
  change (s.sortition.rounds sessionId).doesExist = true at hexists
  rw [hnew] at hexists
  cases hexists

theorem PhaseChange.stepsInPhase (h : PhaseChange P d b sender s op sessionId house x')
    (hs : InPhase b.timestamp (s.sortition.phase sessionId house))
    (hword : (s.sortition.rounds sessionId).doesExist = false →
      (s.sortition.rounds sessionId).randomWord = 0)
    (hdrawn : Drawn P sessionId house (s.sortition.drawOf sessionId house)) :
    StepsInPhase b.timestamp (fun op' ↦ op' = op) sessionId house
      (s.sortition.phase sessionId house) x' := by
  have hrefl := StepsInPhase.refl b.timestamp (fun op' ↦ op' = op) sessionId house
    (s.sortition.phase sessionId house)
  cases h with
  | same => exact hrefl
  | claimed => exact ⟨hrefl.1, hrefl.2, hrefl.3, hrefl.4, hrefl.5⟩
  | created params hop hid hcreates =>
    refine ⟨fun _ _ ↦ ⟨params, hop.symm, hid.symm, hcreates.closes_later, rfl⟩, fun hne ↦ ?_,
      hrefl.3, fun hexists ↦ (hcreates.absurd hid hexists).elim,
      fun hexists ↦ (hcreates.absurd hid hexists).elim⟩
    -- Neither the old nor the new round has a random word.
    have hold := hword (hid ▸ hcreates.not_exists)
    exact absurd hold.symm hne
  | fulfilled requestId randomWord hop hid hfulfils =>
    have hrequest : (s.sortition.rounds sessionId).randomnessRequestId = requestId :=
      hid ▸ hfulfils.request_eq
    have hzero : (s.sortition.rounds sessionId).randomWord = 0 := by
      by_contra hne
      have hful := hs.word_iff.mpr hne
      change (s.sortition.rounds sessionId).randomnessFulfilled = true at hful
      rw [hid, hfulfils.not_fulfilled] at hful
      cases hful
    refine ⟨hrefl.1, fun _ ↦ ⟨?_, hid ▸ hfulfils.round_exists, hzero, hfulfils.word_ne, hid ▸ hfulfils.closed,
      hid ▸ hfulfils.in_time⟩, hrefl.3, hrefl.4, hrefl.5⟩
    change SortitionOp.fulfillRandomness (s.sortition.rounds sessionId).randomnessRequestId
      randomWord = op
    rw [hrequest, hop]
  | selected position candidateIndex value index count hop hselects =>
    refine ⟨hrefl.1, hrefl.2, fun rank hne ↦ ?_, fun _ _ ↦ ⟨hop.symm, hselects.count_eq⟩, hrefl.5⟩
    have hrank : rank = (s.sortition.houseConfigs sessionId house).selectedCount := by
      by_contra hother
      exact hne (Function.update_of_ne hother _ _)
    have hblank := hdrawn.index_blank rank (le_of_eq hrank.symm)
    exact ⟨hop.symm, hrank, hblank, hs.word_iff.mp hselects.fulfilled⟩
  | activated evidence limit hop hactivates =>
    exact ⟨hrefl.1, hrefl.2, hrefl.3, hrefl.4,
      fun _ _ ↦ ⟨⟨evidence, hop.symm⟩, hactivates.limit_eq⟩⟩

end

/-- Without a round there is no random word. -/
theorem Observable.word_blank {w : SystemWorld} (h : Observable P d w) {sessionId : Uint 256}
    (hnew : (w.state.sortition.rounds sessionId).doesExist = false) :
    (w.state.sortition.rounds sessionId).randomWord = 0 := by
  by_contra hne
  have hful := (h.inPhase sessionId isHouse_creator).word_iff.mpr hne
  have hexists := (h.drawn sessionId isHouse_creator).fulfilled_exists hful
  change (w.state.sortition.rounds sessionId).doesExist = true at hexists
  rw [hnew] at hexists
  cases hexists

/-- The operation of the sortition that the step from `w` to `w'` notes. -/
def Notes (w w' : SystemWorld) (op : SortitionOp) : Prop :=
  ∃ msg, w'.journal = ⟨w.block, msg, .sortition op, w.state, none⟩ :: w.journal

theorem Small.stepsInPhase {w w' : SystemWorld} (hw : Observable P d w) (h : Small P d w w')
    (sessionId : Uint 256) {house : Uint 8} (hhouse : IsHouse house) :
    StepsInPhase w.block.timestamp (Notes w w') sessionId house
      (w.state.sortition.phase sessionId house) (w'.state.sortition.phase sessionId house) := by
  obtain hsame | ⟨msg, op, heff, -, hjournal⟩ := h.sortition_change
  · rw [hsame]
    exact .refl _ _ _ _ _
  · have hstep := (heff.phase_change sessionId hhouse).stepsInPhase (hw.inPhase sessionId hhouse)
      hw.word_blank (hw.drawn sessionId hhouse)
    exact hstep.mono fun op' hop ↦ ⟨msg, hop ▸ hjournal⟩

/-! ## What a run keeps -/

/-- What later records `x'` of a House have kept of earlier ones `x`. -/
structure Continues (x x' : Phase) : Prop where
  doesExist : x'.round.doesExist = true
  terms_eq : x'.terms = x.terms
  word_eq : x.round.randomWord ≠ 0 → x'.round.randomWord = x.round.randomWord
  index_eq : ∀ rank, x.index rank ≠ 0 → x'.index rank = x.index rank
  count_le : x.config.selectedCount ≤ x'.config.selectedCount
  limit_le : x.config.activeRankLimit ≤ x'.config.activeRankLimit
  primaries_eq : x.config.primarySeats < x.config.activeRankLimit →
    ∀ rank < x.config.primarySeats, x'.claimed rank = x.claimed rank

theorem Continues.refl {x : Phase} (h : x.round.doesExist = true) : Continues x x :=
  ⟨h, rfl, fun _ ↦ rfl, fun _ _ ↦ rfl, le_rfl, le_rfl, fun _ _ _ ↦ rfl⟩

theorem Continues.trans {x y z : Phase} (hxy : Continues x y) (hyz : Continues y z) :
    Continues x z := by
  have hprimary : y.config.primarySeats = x.config.primarySeats :=
    congrArg RoundTerms.primarySeats hxy.terms_eq
  refine ⟨hyz.doesExist, hyz.terms_eq.trans hxy.terms_eq, fun h ↦ ?_, fun rank h ↦ ?_,
    hxy.count_le.trans hyz.count_le, hxy.limit_le.trans hyz.limit_le, fun hlimit rank hrank ↦ ?_⟩
  · have hword := hxy.word_eq h
    exact (hyz.word_eq (hword ▸ h)).trans hword
  · have hindex := hxy.index_eq rank h
    exact (hyz.index_eq rank (hindex ▸ h)).trans hindex
  · have hactive : y.config.primarySeats < y.config.activeRankLimit :=
      hprimary ▸ hlimit.trans_le hxy.limit_le
    exact (hyz.primaries_eq hactive rank (hprimary ▸ hrank)).trans
      (hxy.primaries_eq hlimit rank hrank)

theorem PhaseChange.continues {b : Block} {sender : Address} {s : System} {op : SortitionOp}
    {sessionId : Uint 256} {house : Uint 8} {x' : Phase}
    (h : PhaseChange P d b sender s op sessionId house x')
    (hs : InPhase b.timestamp (s.sortition.phase sessionId house))
    (hdrawn : Drawn P sessionId house (s.sortition.drawOf sessionId house))
    (hexists : (s.sortition.phase sessionId house).round.doesExist = true) :
    Continues (s.sortition.phase sessionId house) x' := by
  have hrefl := Continues.refl hexists
  cases h with
  | same => exact hrefl
  | created params _ hid hcreates => exact (hcreates.absurd hid hexists).elim
  | fulfilled requestId randomWord _ hid hfulfils =>
    refine ⟨hexists, rfl, fun hword ↦ ?_, hrefl.4, hrefl.5, hrefl.6, hrefl.7⟩
    -- A round with a random word has been fulfilled.
    have hful := hs.word_iff.mpr hword
    change (s.sortition.rounds sessionId).randomnessFulfilled = true at hful
    rw [hid, hfulfils.not_fulfilled] at hful
    cases hful
  | selected position candidateIndex value index count _ hselects =>
    refine ⟨hexists, rfl, hrefl.3, fun rank hindex ↦ ?_, ?_, hrefl.6, hrefl.7⟩
    · apply Function.update_of_ne
      rintro rfl
      exact hindex (hdrawn.index_blank _ le_rfl)
    · change (_ : ℕ) ≤ (count : ℕ)
      rw [hselects.count_eq]
      exact Nat.le_succ _
  | claimed c candidateIndex governor _ hid hhouse hclaims =>
    refine ⟨hexists, rfl, hrefl.3, hrefl.4, hrefl.5, hrefl.6, fun hlimit rank hrank ↦ ?_⟩
    -- The claim of a primary rank would be too late.
    apply Function.update_of_ne
    rintro rfl
    subst hid hhouse
    exact absurd (hclaims.in_window hrank) (not_le.mpr (hs.after_deadline hlimit))
  | activated evidence limit _ hactivates =>
    refine ⟨hexists, rfl, hrefl.3, hrefl.4, hrefl.5, ?_, hrefl.7⟩
    change (_ : ℕ) ≤ (limit : ℕ)
    rw [hactivates.limit_eq]
    exact Nat.le_succ _

theorem Small.continues {w w' : SystemWorld} (hw : Observable P d w) (h : Small P d w w')
    (sessionId : Uint 256) {house : Uint 8} (hhouse : IsHouse house)
    (hexists : (w.state.sortition.phase sessionId house).round.doesExist = true) :
    Continues (w.state.sortition.phase sessionId house)
      (w'.state.sortition.phase sessionId house) := by
  obtain hsame | ⟨msg, op, heff, -, -⟩ := h.sortition_change
  · rw [hsame]
    exact .refl hexists
  · exact (heff.phase_change sessionId hhouse).continues (hw.inPhase sessionId hhouse)
      (hw.drawn sessionId hhouse) hexists

theorem Observable.continues {w w' : SystemWorld} (hw : Observable P d w)
    (h : (contract P d).Reaches w w') (sessionId : Uint 256) {house : Uint 8}
    (hhouse : IsHouse house)
    (hexists : (w.state.sortition.phase sessionId house).round.doesExist = true) :
    Continues (w.state.sortition.phase sessionId house)
      (w'.state.sortition.phase sessionId house) :=
  Contract.Reaches.relation (I := Observable P d)
    (Q := fun v v' ↦ (v.state.sortition.phase sessionId house).round.doesExist = true →
      Continues (v.state.sortition.phase sessionId house)
        (v'.state.sortition.phase sessionId house))
    (fun _ ↦ .refl) (fun _ _ _ huv hvx hu ↦ (huv hu).trans (hvx (huv hu).doesExist))
    (fun _ _ ⟨b, hb⟩ hm ↦ ⟨⟨b, hb.tail hm⟩, (micro_small hm).continues ⟨b, hb⟩ sessionId hhouse⟩)
    hw h hexists

/-! ## The calls behind a round -/

/-- The calls that a round in the journal goes back to. -/
structure Provenance (w : SystemWorld) (sessionId : Uint 256) (house : Uint 8) : Prop where
  created_by : (w.state.sortition.rounds sessionId).doesExist = true →
    ∃ e ∈ w.journal, ∃ params, e.op = .sortition (.createRound params) ∧
      params.sessionId = sessionId ∧ e.block.timestamp < (params.eligibilityClosesAt : ℕ) ∧
      (w.state.sortition.phase sessionId house).terms = params.terms house
  fulfilled_by : (w.state.sortition.rounds sessionId).randomWord ≠ 0 →
    ∃ e ∈ w.journal, e.op = .sortition (.fulfillRandomness
        (w.state.sortition.rounds sessionId).randomnessRequestId
        (w.state.sortition.rounds sessionId).randomWord) ∧
      ((w.state.sortition.rounds sessionId).eligibilityClosesAt : ℕ) ≤ e.block.timestamp ∧
      e.block.timestamp < ((w.state.sortition.rounds sessionId).claimDeadline : ℕ)

theorem Small.provenance {w w' : SystemWorld} (hw : Observable P d w) (h : Small P d w w')
    {sessionId : Uint 256} {house : Uint 8} (hhouse : IsHouse house)
    (hp : Provenance w sessionId house) : Provenance w' sessionId house := by
  have hstep := h.stepsInPhase hw sessionId hhouse
  have hentry : ∀ op, Notes w w' op → ∃ e ∈ w'.journal, e.op = .sortition op ∧ e.block = w.block := by
    rintro op ⟨msg, hjournal⟩
    exact ⟨_, hjournal ▸ List.mem_cons_self, rfl, rfl⟩
  constructor
  · intro hexists'
    by_cases hexists : (w.state.sortition.rounds sessionId).doesExist = true
    · obtain ⟨e, he, params, hop, hid, htime, hterms⟩ := hp.created_by hexists
      have hkept := (h.continues hw sessionId hhouse hexists).terms_eq
      exact ⟨e, h.journal_subset he, params, hop, hid, htime, hkept.trans hterms⟩
    · obtain ⟨params, hnotes, hid, htime, hterms⟩ :=
        hstep.created (Bool.eq_false_iff.mpr hexists) hexists'
      obtain ⟨e, he, hop, hblock⟩ := hentry _ hnotes
      exact ⟨e, he, params, hop, hid, hblock ▸ htime, hterms⟩
  · intro hword'
    have hround : (w.state.sortition.rounds sessionId).doesExist = true →
        (w'.state.sortition.rounds sessionId).randomnessRequestId =
          (w.state.sortition.rounds sessionId).randomnessRequestId ∧
        (w'.state.sortition.rounds sessionId).eligibilityClosesAt =
          (w.state.sortition.rounds sessionId).eligibilityClosesAt ∧
        (w'.state.sortition.rounds sessionId).claimDeadline =
          (w.state.sortition.rounds sessionId).claimDeadline := by
      intro hexists
      have hterms := (h.continues hw sessionId hhouse hexists).terms_eq
      exact ⟨congrArg RoundTerms.randomnessRequestId hterms,
        congrArg RoundTerms.eligibilityClosesAt hterms, congrArg RoundTerms.claimDeadline hterms⟩
    by_cases hsame : (w'.state.sortition.rounds sessionId).randomWord =
        (w.state.sortition.rounds sessionId).randomWord
    · have hword : (w.state.sortition.rounds sessionId).randomWord ≠ 0 := hsame ▸ hword'
      obtain ⟨hrequest, hcloses, hdeadline⟩ := hround
        (by simpa using mt hw.word_blank hword)
      obtain ⟨e, he, hop, htime⟩ := hp.fulfilled_by hword
      rw [hrequest, hcloses, hdeadline, hsame]
      exact ⟨e, h.journal_subset he, hop, htime⟩
    · obtain ⟨hnotes, hexists, -, -, hclosed, hopen⟩ := hstep.word hsame
      obtain ⟨hrequest, hcloses, hdeadline⟩ := hround hexists
      obtain ⟨e, he, hop, hblock⟩ := hentry _ hnotes
      rw [hrequest, hcloses, hdeadline]
      exact ⟨e, he, hop, hblock ▸ hclosed, hblock ▸ hopen⟩

theorem Observable.provenance {w : SystemWorld} (h : Observable P d w) (sessionId : Uint 256)
    {house : Uint 8} (hhouse : IsHouse house) : Provenance w sessionId house :=
  h.invariant (I := fun w ↦ Provenance w sessionId house)
    (fun _ ↦ ⟨fun hexists ↦ (by cases hexists), fun hword ↦ absurd rfl hword⟩)
    fun _ _ hw hp hs ↦ hs.provenance hw hhouse hp

/-- What holds of one House of a round at any time. -/
structure PhaseOrder (w : SystemWorld) (sessionId : Uint 256) (house : Uint 8) : Prop where
  provenance : Provenance w sessionId house
  word_first : ∀ rank, w.state.sortition.selectedIndexPlusOne sessionId house rank ≠ 0 →
    (w.state.sortition.rounds sessionId).randomWord ≠ 0
  primarySeats_le : (w.state.sortition.houseConfigs sessionId house).primarySeats ≤
    (w.state.sortition.houseConfigs sessionId house).activeRankLimit
  limit_le : (w.state.sortition.houseConfigs sessionId house).activeRankLimit ≤
    max (w.state.sortition.houseConfigs sessionId house).primarySeats
      (w.state.sortition.houseConfigs sessionId house).selectedCount
  count_le : ((w.state.sortition.houseConfigs sessionId house).selectedCount : ℕ) ≤
    (w.state.sortition.houseConfigs sessionId house).primarySeats +
      (w.state.sortition.houseConfigs sessionId house).alternateSeats

theorem Observable.phaseOrder {w : SystemWorld} (h : Observable P d w) (sessionId : Uint 256)
    {house : Uint 8} (hhouse : IsHouse house) : PhaseOrder w sessionId house where
  provenance := h.provenance sessionId hhouse
  word_first rank hindex := by
    -- Without a random word no rank has been selected.
    by_contra hword
    have hful : (w.state.sortition.rounds sessionId).randomnessFulfilled = false :=
      Bool.eq_false_iff.mpr (mt (h.inPhase sessionId hhouse).word_iff.mp (not_not.mpr hword))
    exact hindex (((h.drawn sessionId hhouse).unstarted hful).2.2 rank)
  primarySeats_le := (h.inPhase sessionId hhouse).primarySeats_le
  limit_le := (h.inPhase sessionId hhouse).limit_le
  count_le := (h.drawn sessionId hhouse).count_le

/-- In every run the phases of a round keep their order: at any time its records fit together, each
step advances one record by one call in its window, and what a phase has fixed stays. No request
serves two rounds. -/
theorem phases_ordered (sessionId : Uint 256) {house : Uint 8} (hhouse : IsHouse house) :
    (∀ w, Reachable P d w → PhaseOrder w sessionId house) ∧
    (∀ w w', Observable P d w → (contract P d).Micro w w' →
      StepsInPhase w.block.timestamp (Notes w w') sessionId house
        (w.state.sortition.phase sessionId house) (w'.state.sortition.phase sessionId house)) ∧
    (∀ w w', Reachable P d w → (contract P d).Reaches w w' →
      (w.state.sortition.rounds sessionId).doesExist = true →
      Continues (w.state.sortition.phase sessionId house)
        (w'.state.sortition.phase sessionId house)) ∧
    (∀ w, Reachable P d w → ∀ sessionId',
      (w.state.sortition.rounds sessionId).doesExist = true →
      (w.state.sortition.rounds sessionId').doesExist = true →
      (w.state.sortition.rounds sessionId).randomnessRequestId =
        (w.state.sortition.rounds sessionId').randomnessRequestId →
      sessionId = sessionId') := by
  refine ⟨fun w hw ↦ hw.observable.phaseOrder sessionId hhouse,
    fun w w' hw hm ↦ (micro_small hm).stepsInPhase hw sessionId hhouse,
    fun w w' hw hrun ↦ hw.observable.continues hrun sessionId hhouse,
    fun w hw sessionId' hexists hexists' hrequest ↦ ?_⟩
  calc sessionId
      = w.state.sortition.requestSessionId
          (w.state.sortition.rounds sessionId).randomnessRequestId :=
        (hw.observable.requestsBound sessionId hexists).2.symm
    _ = w.state.sortition.requestSessionId
          (w.state.sortition.rounds sessionId').randomnessRequestId := by rw [hrequest]
    _ = sessionId' := (hw.observable.requestsBound sessionId' hexists').2

/-- The Creator House from the selection to the end of all claims. -/
theorem phases_ordered_sample :
    PhaseOrder (Sample.after Sample.selection) 1 CREATOR_HOUSE ∧
    Continues ((Sample.after Sample.selection).state.sortition.phase 1 CREATOR_HOUSE)
      ((Sample.after (Sample.selection ++ [Sample.primaryClaim, Sample.activation,
        Sample.alternateClaim])).state.sortition.phase 1 CREATOR_HOUSE) := by
  have h := phases_ordered (P := Sample.primitives) (d := Sample.deployment) 1 isHouse_creator
  exact ⟨h.1 _ (Sample.reachable_after (by decide)),
    h.2.2.1 _ _ (Sample.reachable_after (by decide)) (Sample.reaches_after (by decide +kernel))
      (by decide +kernel)⟩

end CreatorFirst.Sortition
