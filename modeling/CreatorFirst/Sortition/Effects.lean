import CreatorFirst.Shuffle.FisherYates
import CreatorFirst.Sortition.Machine

/-!
# What each operation of the sortition can do

For every external function, the facts that its success implies and the storage it leaves. All
later results argue from `Effect`; none unfolds an operation again.
-/

namespace CreatorFirst.Sortition

open Chain

variable {P : Primitives} {d : Deployment} {b : Block} {sender : Address}

theorem onlyRole_bind_eq_ok {α : Type} {role : Bytes32} {s : State} {f : Unit → Except Error α}
    {y : α} :
    (onlyRole role sender s >>= f) = .ok y ↔ s.roles role sender = true ∧ f () = .ok y :=
  Roles.required_bind_eq_ok

/-- The numbers of the two Houses. -/
def IsHouse (house : Uint 8) : Prop := house = CREATOR_HOUSE ∨ house = USER_HOUSE

instance : DecidablePred IsHouse := fun house ↦
  inferInstanceAs (Decidable (house = CREATOR_HOUSE ∨ house = USER_HOUSE))

theorem isHouse_creator : IsHouse CREATOR_HOUSE := .inl rfl

theorem requireHouse_bind_eq_ok {α : Type} {house : Uint 8} {f : Unit → Except Error α} {y : α} :
    (requireHouse house >>= f) = .ok y ↔ IsHouse house ∧ f () = .ok y := by
  unfold requireHouse IsHouse
  rw [revertIf_bind_eq_ok, not_and_or, not_not, not_not]

theorem onSortition_eq_ok {s s' : System} {r : Except Error State} :
    onSortition s r = .ok s' ↔ ∃ sortition, r = .ok sortition ∧ { s with sortition } = s' := by
  simp only [onSortition, bind_eq_ok, pure_eq_ok]

/-! ## Rounds -/

/-- What `_validateHouseConfiguration` lets pass. -/
structure ValidHouse (population primarySeats alternateSeats : Uint 32) : Prop where
  population_ne : population ≠ 0
  primarySeats_ne : primarySeats ≠ 0
  seats_le : (primarySeats : ℕ) + alternateSeats ≤ population

theorem validate_bind_eq_ok {α : Type} {population primary alternate : Uint 32}
    {f : Unit → Except Error α} {y : α} :
    (validateHouseConfiguration population primary alternate >>= f) = .ok y ↔
      ValidHouse population primary alternate ∧ f () = .ok y := by
  unfold validateHouseConfiguration
  rw [revertIf_bind_eq_ok]
  constructor
  · rintro ⟨h, hf⟩
    simp only [not_or, not_lt] at h
    exact ⟨⟨h.1, h.2.1, h.2.2⟩, hf⟩
  · rintro ⟨h, hf⟩
    refine ⟨?_, hf⟩
    simp only [not_or, not_lt]
    exact ⟨h.population_ne, h.primarySeats_ne, h.seats_le⟩

/-- The round and the configurations that `createRound` writes. -/
def RoundParams.round (params : RoundParams) : Round where
  eligibilitySnapshotHash := params.eligibilitySnapshotHash
  randomnessRequestId := params.randomnessRequestId
  eligibilityClosesAt := params.eligibilityClosesAt
  claimDeadline := params.claimDeadline
  doesExist := true

def RoundParams.config (params : RoundParams) (house : Uint 8) : HouseConfig :=
  if house = CREATOR_HOUSE then
    { eligibilityRoot := params.creatorRoot
      populationSize := params.creatorPopulation
      primarySeats := params.creatorPrimarySeats
      alternateSeats := params.creatorAlternateSeats
      activeRankLimit := params.creatorPrimarySeats }
  else
    { eligibilityRoot := params.userRoot
      populationSize := params.userPopulation
      primarySeats := params.userPrimarySeats
      alternateSeats := params.userAlternateSeats
      activeRankLimit := params.userPrimarySeats }

/-- The checks of `createRound`. -/
structure Creates (b : Block) (params : RoundParams) (s : System) : Prop where
  not_exists : (s.sortition.rounds params.sessionId).doesExist = false
  request_ne : params.randomnessRequestId ≠ 0
  request_free : s.sortition.requestSessionId params.randomnessRequestId = 0
  session_exists : (s.governor.sessions params.sessionId).doesExist = true
  closes_later : b.timestamp < (params.eligibilityClosesAt : ℕ)
  closes_first : params.eligibilityClosesAt < params.claimDeadline
  claims_first : params.claimDeadline < (s.governor.sessions params.sessionId).startsAt
  creator_valid : ValidHouse params.creatorPopulation params.creatorPrimarySeats
    params.creatorAlternateSeats
  user_valid : ValidHouse params.userPopulation params.userPrimarySeats params.userAlternateSeats

theorem Creates.config_valid {params : RoundParams} {s : System} (h : Creates b params s)
    (house : Uint 8) : ValidHouse (params.config house).populationSize
      (params.config house).primarySeats (params.config house).alternateSeats := by
  unfold RoundParams.config
  split
  · exact h.creator_valid
  · exact h.user_valid

def State.withRound (s : State) (params : RoundParams) : State :=
  { s with
    rounds := Function.update s.rounds params.sessionId params.round
    houseConfigs := fun sessionId house ↦
      if sessionId = params.sessionId ∧ IsHouse house then params.config house
      else s.houseConfigs sessionId house
    requestSessionId :=
      Function.update s.requestSessionId params.randomnessRequestId params.sessionId }

theorem createRound_ok {params : RoundParams} {s : System} {s' : State}
    (h : createRound P b sender params s.governor s.sortition = .ok s') :
    s.sortition.roles (ROUND_MANAGER_ROLE P) sender = true ∧ Creates b params s ∧
      s' = s.sortition.withRound params := by
  simp only [createRound, onlyRole_bind_eq_ok, revertIf_bind_eq_ok, validate_bind_eq_ok,
    pure_eq_ok, not_or, not_not, not_le, ne_eq, Bool.not_eq_true, Bool.not_eq_false] at h
  obtain ⟨hrole, hnew, ⟨-, hreq, -, -⟩, hfree, hsession, ⟨hlater, hfirst, hclaims⟩, hcv, huv,
    rfl⟩ := h
  refine ⟨hrole, ⟨hnew, hreq, hfree, hsession, hlater, hfirst, hclaims, hcv, huv⟩, ?_⟩
  -- The two writes of a configuration, read at once.
  have hconfigs : ∀ creator user : HouseConfig,
      update₂ (update₂ s.sortition.houseConfigs params.sessionId CREATOR_HOUSE creator)
        params.sessionId USER_HOUSE user = fun sessionId house ↦
      if sessionId = params.sessionId ∧ IsHouse house then
        if house = CREATOR_HOUSE then creator else user
      else s.sortition.houseConfigs sessionId house := by
    intro creator user
    have hne : CREATOR_HOUSE ≠ USER_HOUSE := by decide
    funext sessionId house
    simp only [update₂_apply, IsHouse]
    by_cases hsession : sessionId = params.sessionId
    · by_cases huser : house = USER_HOUSE
      · simp [hsession, huser, hne.symm]
      · by_cases hcreator : house = CREATOR_HOUSE
        · simp [hsession, hcreator, hne]
        · simp [hsession, huser, hcreator]
    · simp [hsession]
  simp only [hconfigs]
  rfl

/-- The checks of `fulfillRandomness`. -/
structure Fulfils (b : Block) (requestId : Bytes32) (randomWord : Uint 256) (s : State) :
    Prop where
  round_exists : (s.rounds (s.requestSessionId requestId)).doesExist = true
  request_eq : (s.rounds (s.requestSessionId requestId)).randomnessRequestId = requestId
  closed : ((s.rounds (s.requestSessionId requestId)).eligibilityClosesAt : ℕ) ≤ b.timestamp
  in_time : b.timestamp < ((s.rounds (s.requestSessionId requestId)).claimDeadline : ℕ)
  not_fulfilled : (s.rounds (s.requestSessionId requestId)).randomnessFulfilled = false
  word_ne : randomWord ≠ 0

def State.withWord (s : State) (sessionId randomWord : Uint 256) : State :=
  { s with
    rounds := Function.update s.rounds sessionId
      { s.rounds sessionId with randomWord, randomnessFulfilled := true } }

theorem fulfillRandomness_ok {requestId : Bytes32} {randomWord : Uint 256} {s s' : State}
    (h : fulfillRandomness P b sender requestId randomWord s = .ok s') :
    Fulfils b requestId randomWord s ∧ s' = s.withWord (s.requestSessionId requestId) randomWord := by
  simp only [fulfillRandomness, onlyRole_bind_eq_ok, revertIf_bind_eq_ok, pure_eq_ok, not_or,
    not_not, not_le, not_lt, ne_eq, Bool.not_eq_true, Bool.not_eq_false] at h
  obtain ⟨-, ⟨hex, hreq⟩, hclosed, htime, hnew, hword, rfl⟩ := h
  exact ⟨⟨hex, hreq, hclosed, htime, hnew, hword⟩, rfl⟩

/-! ## Selection -/

/-- The sparse array of one House, by natural positions. -/
def State.sparse (s : State) (sessionId : Uint 256) (house : Uint 8) (i : ℕ) : ℕ :=
  s.shuffleValues sessionId house (Uint.truncate 32 i)

theorem sparse_val (s : State) (sessionId : Uint 256) (house : Uint 8) (i : Uint 32) :
    s.sparse sessionId house i = s.shuffleValues sessionId house i := by
  have htruncate : Uint.truncate 32 i = i := Fin.ext (Uint.truncate_of_lt i.isLt)
  rw [State.sparse, htruncate]

theorem shuffleValue_eq_ok {s : State} {sessionId : Uint 256} {house : Uint 8}
    {position v : Uint 32} :
    shuffleValue s sessionId house position = .ok v ↔
      (v : ℕ) = Shuffle.read (s.sparse sessionId house) position := by
  simp only [shuffleValue, Shuffle.read, sparse_val]
  by_cases h : s.shuffleValues sessionId house position = 0
  · simp [h, Fin.ext_iff, eq_comm]
  · have hpos := Uint.pos_of_ne_zero h
    have hne : (s.shuffleValues sessionId house position : ℕ) ≠ 0 := hpos.ne'
    have hone : ((1 : Uint 32) : ℕ) = 1 := rfl
    rw [if_neg h, if_neg hne, Uint.sub_eq_ok, hone]
    exact ⟨fun hv ↦ hv.2, fun hv ↦ ⟨hpos, hv⟩⟩

theorem shuffleValue_bind_eq_ok {α : Type} {s : State} {sessionId : Uint 256} {house : Uint 8}
    {position : Uint 32} {f : Uint 32 → Except Error α} {y : α} :
    (shuffleValue s sessionId house position >>= f) = .ok y ↔
      ∃ v : Uint 32, (v : ℕ) = Shuffle.read (s.sparse sessionId house) position ∧ f v = .ok y := by
  simp only [bind_eq_ok, shuffleValue_eq_ok]

/-- The draws of one House of a session. -/
def State.draw (P : Primitives) (s : State) (sessionId : Uint 256) (house : Uint 8) (rank : ℕ) : ℕ :=
  drawHash P (s.rounds sessionId).randomWord sessionId house rank

/-- The checks of `finalizeNextSelection`, with the values it computes. -/
structure Selects (P : Primitives) (sessionId : Uint 256) (house : Uint 8) (s : State)
    (position candidateIndex encodedValue encodedIndex selectedCount : Uint 32) : Prop where
  is_house : IsHouse house
  round_exists : (s.rounds sessionId).doesExist = true
  fulfilled : (s.rounds sessionId).randomnessFulfilled = true
  seats_lt : ((s.houseConfigs sessionId house).primarySeats : ℕ) +
    (s.houseConfigs sessionId house).alternateSeats < 2 ^ 32
  unfinished : ((s.houseConfigs sessionId house).selectedCount : ℕ) <
    (s.houseConfigs sessionId house).primarySeats + (s.houseConfigs sessionId house).alternateSeats
  rank_lt : ((s.houseConfigs sessionId house).selectedCount : ℕ) <
    (s.houseConfigs sessionId house).populationSize
  position_eq : (position : ℕ) = Shuffle.target (s.houseConfigs sessionId house).populationSize
    (s.draw P sessionId house) (s.houseConfigs sessionId house).selectedCount
  candidate_eq : (candidateIndex : ℕ) = Shuffle.read (s.sparse sessionId house) position
  value_eq : (encodedValue : ℕ) = Shuffle.read (s.sparse sessionId house)
    (s.houseConfigs sessionId house).selectedCount + 1
  index_eq : (encodedIndex : ℕ) = candidateIndex + 1
  count_eq : (selectedCount : ℕ) = (s.houseConfigs sessionId house).selectedCount + 1

def State.withSelection (s : State) (sessionId : Uint 256) (house : Uint 8)
    (position encodedValue encodedIndex selectedCount : Uint 32) : State :=
  { s with
    shuffleValues := update₃ s.shuffleValues sessionId house position encodedValue
    selectedIndexPlusOne := update₃ s.selectedIndexPlusOne sessionId house
      (s.houseConfigs sessionId house).selectedCount encodedIndex
    houseConfigs := update₂ s.houseConfigs sessionId house
      { s.houseConfigs sessionId house with selectedCount } }

/-- A remainder modulo a machine integer keeps its value when it is narrowed to that width. -/
theorem truncate_mod {w n m : ℕ} (hm : m ≠ 0) (hw : m < 2 ^ w) :
    (Uint.truncate w (n % m) : ℕ) = n % m :=
  Uint.truncate_of_lt ((Nat.mod_lt n (Nat.pos_of_ne_zero hm)).trans hw)

theorem finalizeNextSelection_eq_ok {sessionId : Uint 256} {house : Uint 8} {s s' : State}
    {rank candidateIndex : Uint 32} :
    finalizeNextSelection P sessionId house s = .ok (rank, candidateIndex, s') ↔
      ∃ position encodedValue encodedIndex selectedCount,
        Selects P sessionId house s position candidateIndex encodedValue encodedIndex
          selectedCount ∧
        rank = (s.houseConfigs sessionId house).selectedCount ∧
        s' = s.withSelection sessionId house position encodedValue encodedIndex selectedCount := by
  simp only [finalizeNextSelection, requireHouse_bind_eq_ok, revertIf_bind_eq_ok,
    Uint.add_bind_eq_ok, Uint.sub_bind_eq_ok, Uint.mod_bind_eq_ok, Uint.increment_bind_eq_ok,
    shuffleValue_bind_eq_ok, pure_eq_ok, Bool.not_eq_false, Prod.mk.injEq]
  constructor
  · rintro ⟨hhouse, hex, hful, total, htotal, hmore, hle, remaining, hrem, hne, draw, hdraw,
      position, hpos, candidate, hcand, rankValue, hvalue, value, hval, index, hindex, count,
      hcount, rfl, rfl, rfl⟩
    rw [hrem] at hne hdraw
    refine ⟨position, value, index, count, ⟨hhouse, hex, hful, ?_, ?_, ?_, ?_, hcand, ?_, hindex,
      hcount⟩, rfl, rfl⟩
    · exact htotal ▸ total.isLt
    · rw [← htotal]
      exact not_le.mp hmore
    · omega
    · rw [hpos, hdraw, truncate_mod hne (hrem ▸ remaining.isLt)]
      rfl
    · rw [hval, hvalue]
  · rintro ⟨position, value, index, count, hsel, rfl, rfl⟩
    obtain ⟨hhouse, hex, hful, hseats, hmore, hlt, hpos, hcand, hval, hindex, hcount⟩ := hsel
    have hrem : (s.houseConfigs sessionId house).populationSize -
        ((s.houseConfigs sessionId house).selectedCount : ℕ) < 2 ^ 32 :=
      (Nat.sub_le _ _).trans_lt (s.houseConfigs sessionId house).populationSize.isLt
    have hne : ((s.houseConfigs sessionId house).populationSize : ℕ) -
        (s.houseConfigs sessionId house).selectedCount ≠ 0 := (Nat.sub_pos_of_lt hlt).ne'
    have hdraw : s.draw P sessionId house (s.houseConfigs sessionId house).selectedCount %
        ((s.houseConfigs sessionId house).populationSize -
          (s.houseConfigs sessionId house).selectedCount) < 2 ^ 256 :=
      (Nat.mod_le _ _).trans_lt (drawHash P _ _ _ _).isLt
    have hvalue : Shuffle.read (s.sparse sessionId house)
        (s.houseConfigs sessionId house).selectedCount < 2 ^ 32 := by
      have := value.isLt
      omega
    refine ⟨hhouse, hex, hful, ⟨_, hseats⟩, rfl, not_le.mpr hmore, hlt.le, ⟨_, hrem⟩, rfl, hne,
      ⟨_, hdraw⟩, rfl, position, ?_, candidateIndex, hcand, ⟨_, hvalue⟩, rfl, value, hval, index,
      hindex, count, hcount, rfl, rfl, rfl⟩
    rw [hpos, truncate_mod hne hrem]
    rfl

/-! ## Seats -/

/-- The checks of `claimSeat`, with the candidate's index and the governor's storage after the
registration. -/
structure Claims (P : Primitives) (d : Deployment) (b : Block) (sender : Address) (c : SeatClaim)
    (s : System) (candidateIndex : Uint 32) (governor : Governor.State) : Prop where
  is_house : IsHouse c.house
  round_exists : (s.sortition.rounds c.sessionId).doesExist = true
  sender_eq : sender = c.votingWallet
  commitment_ne : c.governanceIdCommitment ≠ 0
  wallet_ne : c.votingWallet ≠ 0
  before_start : b.timestamp < ((s.governor.sessions c.sessionId).startsAt : ℕ)
  in_window : c.rank < (s.sortition.houseConfigs c.sessionId c.house).primarySeats →
    b.timestamp ≤ ((s.sortition.rounds c.sessionId).claimDeadline : ℕ)
  active : c.rank < (s.sortition.houseConfigs c.sessionId c.house).activeRankLimit
  selected : (s.sortition.selectedIndexPlusOne c.sessionId c.house c.rank : ℕ) =
    candidateIndex + 1
  not_claimed : s.sortition.rankClaimed c.sessionId c.house c.rank = false
  identity_free :
    s.sortition.governanceIdentityUsed c.sessionId c.governanceIdCommitment = false
  verified : P.verifyProof c.eligibilityProof
    (s.sortition.houseConfigs c.sessionId c.house).eligibilityRoot
    (eligibilityLeaf P candidateIndex c.governanceIdCommitment c.votingWallet) = true
  registered : Governor.registerMember P b d.self c.sessionId c.votingWallet (houseOf c.house)
    s.governor = .ok governor

def State.withClaim (s : State) (c : SeatClaim) : State :=
  { s with
    rankClaimed := update₃ s.rankClaimed c.sessionId c.house c.rank true
    governanceIdentityUsed :=
      update₂ s.governanceIdentityUsed c.sessionId c.governanceIdCommitment true }

theorem claimSeat_ok {c : SeatClaim} {s s' : System} (h : claimSeat P d b sender c s = .ok s') :
    ∃ candidateIndex, Claims P d b sender c s candidateIndex s'.governor ∧
      s'.sortition = s.sortition.withClaim c := by
  simp only [claimSeat, requireHouse_bind_eq_ok, revertIf_bind_eq_ok, Uint.sub_bind_eq_ok,
    decodeHouse, bind_assoc, pure_bind, not_or, not_not, not_and, not_le, not_lt, ne_eq,
    Bool.not_eq_true, Bool.not_eq_false] at h
  obtain ⟨hhouse, hex, hsender, ⟨hcommitment, hwallet⟩, ⟨-, hstart⟩, hwindow, hactive, hindex,
    hclaimed, hused, hone, index, hval, hverified, -, h⟩ := h
  obtain ⟨governor, hgovernor, h⟩ := bind_eq_ok.mp h
  obtain rfl := pure_eq_ok.mp h
  have hselected : (s.sortition.selectedIndexPlusOne c.sessionId c.house c.rank : ℕ) =
      index + 1 := by
    have hpos := Uint.pos_of_ne_zero hindex
    have hone' : ((1 : Uint 32) : ℕ) = 1 := rfl
    omega
  exact ⟨index, ⟨hhouse, hex, hsender, hcommitment, hwallet, hstart, hwindow, hactive, hselected,
    hclaimed, hused, hverified, mapError_eq_ok.mp hgovernor⟩, rfl⟩

/-- The checks of `activateNextAlternate`. -/
structure Activates (P : Primitives) (b : Block) (sender : Address) (sessionId : Uint 256)
    (house : Uint 8) (vacancyEvidenceHash : Bytes32) (s : State) (activeRankLimit : Uint 32) :
    Prop where
  manager : s.roles (ROUND_MANAGER_ROLE P) sender = true
  is_house : IsHouse house
  round_exists : (s.rounds sessionId).doesExist = true
  after_deadline : ((s.rounds sessionId).claimDeadline : ℕ) < b.timestamp
  evidence_ne : vacancyEvidenceHash ≠ 0
  within_seats : ((s.houseConfigs sessionId house).activeRankLimit : ℕ) <
    (s.houseConfigs sessionId house).primarySeats + (s.houseConfigs sessionId house).alternateSeats
  selected : (s.houseConfigs sessionId house).activeRankLimit <
    (s.houseConfigs sessionId house).selectedCount
  limit_eq : (activeRankLimit : ℕ) = (s.houseConfigs sessionId house).activeRankLimit + 1

def State.withAlternate (s : State) (sessionId : Uint 256) (house : Uint 8)
    (activeRankLimit : Uint 32) : State :=
  { s with
    houseConfigs := update₂ s.houseConfigs sessionId house
      { s.houseConfigs sessionId house with activeRankLimit } }

theorem activateNextAlternate_ok {sessionId : Uint 256} {house : Uint 8}
    {vacancyEvidenceHash : Bytes32} {s s' : State} {rank : Uint 32}
    (h : activateNextAlternate P b sender sessionId house vacancyEvidenceHash s = .ok (rank, s')) :
    ∃ limit, Activates P b sender sessionId house vacancyEvidenceHash s limit ∧
      s' = s.withAlternate sessionId house limit := by
  simp only [activateNextAlternate, onlyRole_bind_eq_ok, requireHouse_bind_eq_ok,
    revertIf_bind_eq_ok, Uint.add_bind_eq_ok, Uint.increment_bind_eq_ok, pure_eq_ok,
    Prod.mk.injEq, not_or, not_le, Bool.not_eq_false] at h
  obtain ⟨hrole, hhouse, hex, htime, hevidence, total, htotal, ⟨hmore, hselected⟩, limit, hlimit,
    -, rfl⟩ := h
  have hwithin : ((s.houseConfigs sessionId house).activeRankLimit : ℕ) <
      (s.houseConfigs sessionId house).primarySeats +
        (s.houseConfigs sessionId house).alternateSeats := htotal ▸ hmore
  exact ⟨limit, ⟨hrole, hhouse, hex, htime, hevidence, hwithin, hselected, hlimit⟩, rfl⟩

/-! ## All operations -/

/-- The success of an operation: what it checked and the storage it left. -/
inductive Effect (P : Primitives) (d : Deployment) (b : Block) (sender : Address) (s : System) :
    SortitionOp → System → Prop
  | access (op : RoleOp) (roles : Roles) (h : s.sortition.roles.apply sender op = .ok roles) :
      Effect P d b sender s (.access op) ⟨s.governor, { s.sortition with roles }⟩
  | createRound (params : RoundParams)
      (hrole : s.sortition.roles (ROUND_MANAGER_ROLE P) sender = true)
      (h : Creates b params s) :
      Effect P d b sender s (.createRound params) ⟨s.governor, s.sortition.withRound params⟩
  | fulfillRandomness (requestId : Bytes32) (randomWord : Uint 256)
      (h : Fulfils b requestId randomWord s.sortition) :
      Effect P d b sender s (.fulfillRandomness requestId randomWord)
        ⟨s.governor, s.sortition.withWord (s.sortition.requestSessionId requestId) randomWord⟩
  | finalizeNextSelection (sessionId : Uint 256) (house : Uint 8)
      (position candidateIndex encodedValue encodedIndex selectedCount : Uint 32)
      (h : Selects P sessionId house s.sortition position candidateIndex encodedValue
        encodedIndex selectedCount) :
      Effect P d b sender s (.finalizeNextSelection sessionId house)
        ⟨s.governor, s.sortition.withSelection sessionId house position encodedValue encodedIndex
          selectedCount⟩
  | claimSeat (c : SeatClaim) (candidateIndex : Uint 32) (governor : Governor.State)
      (h : Claims P d b sender c s candidateIndex governor) :
      Effect P d b sender s (.claimSeat c) ⟨governor, s.sortition.withClaim c⟩
  | activateNextAlternate (sessionId : Uint 256) (house : Uint 8) (vacancyEvidenceHash : Bytes32)
      (limit : Uint 32)
      (h : Activates P b sender sessionId house vacancyEvidenceHash s.sortition limit) :
      Effect P d b sender s (.activateNextAlternate sessionId house vacancyEvidenceHash)
        ⟨s.governor, s.sortition.withAlternate sessionId house limit⟩

/-- Every successful operation is one of the effects. -/
theorem SortitionOp.effect {op : SortitionOp} {s s' : System}
    (h : op.apply P d b sender s = .ok s') : Effect P d b sender s op s' := by
  cases op with
  | access op =>
    obtain ⟨sortition, hs, rfl⟩ := onSortition_eq_ok.mp h
    unfold accessOp at hs
    split at hs
    · cases hs
    · next roles hroles =>
      cases hs
      exact .access op roles hroles
  | createRound params =>
    obtain ⟨sortition, hs, rfl⟩ := onSortition_eq_ok.mp h
    obtain ⟨hrole, hcreates, rfl⟩ := createRound_ok hs
    exact .createRound params hrole hcreates
  | fulfillRandomness requestId randomWord =>
    obtain ⟨sortition, hs, rfl⟩ := onSortition_eq_ok.mp h
    obtain ⟨hfulfils, rfl⟩ := fulfillRandomness_ok hs
    exact .fulfillRandomness requestId randomWord hfulfils
  | finalizeNextSelection sessionId house =>
    obtain ⟨sortition, hs, rfl⟩ := onSortition_eq_ok.mp h
    obtain ⟨⟨rank, candidateIndex, s₁⟩, hs₁, rfl⟩ := map_eq_ok.mp hs
    obtain ⟨position, value, index, count, hselects, -, rfl⟩ :=
      finalizeNextSelection_eq_ok.mp hs₁
    exact .finalizeNextSelection sessionId house position candidateIndex value index count hselects
  | claimSeat c =>
    obtain ⟨candidateIndex, hclaims, hsortition⟩ := claimSeat_ok h
    have hs' : s' = ⟨s'.governor, s.sortition.withClaim c⟩ := by rw [← hsortition]
    rw [hs']
    exact .claimSeat c candidateIndex s'.governor hclaims
  | activateNextAlternate sessionId house vacancyEvidenceHash =>
    obtain ⟨sortition, hs, rfl⟩ := onSortition_eq_ok.mp h
    obtain ⟨⟨rank, s₁⟩, hs₁, rfl⟩ := map_eq_ok.mp hs
    obtain ⟨limit, hactivates, rfl⟩ := activateNextAlternate_ok hs₁
    exact .activateNextAlternate sessionId house vacancyEvidenceHash limit hactivates

end CreatorFirst.Sortition
