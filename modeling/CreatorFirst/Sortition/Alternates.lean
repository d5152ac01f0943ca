import CreatorFirst.Sortition.Seats
import Mathlib.Data.List.Infix

/-!
# Alternates and vacancies

A House never has more claimed seats than active ranks, and every active rank beyond the primary
seats was activated by the round manager after the claim deadline. Whether a primary seat was then
uncovered is a matter of the evidence the manager names: the contract does not compare it with the
claims. Where every activation did find an uncovered seat, the primary seats bound the claims.
-/

namespace CreatorFirst.Sortition

open Chain Relation

variable {P : Primitives} {d : Deployment}

/-- The claims in one House of a session. -/
def houseClaims (journal : List SystemEntry) (sessionId : Uint 256) (house : Uint 8) :
    List SeatClaim :=
  (claims journal).filter fun c ↦ c.sessionId = sessionId ∧ c.house = house

/-- The number of seats claimed in one House of a session. -/
def seatsClaimed (journal : List SystemEntry) (sessionId : Uint 256) (house : Uint 8) : ℕ :=
  (houseClaims journal sessionId house).length

/-- The number of claimed seats whose rank is below `seats`. -/
def claimedBelow (journal : List SystemEntry) (sessionId : Uint 256) (house : Uint 8)
    (seats : Uint 32) : ℕ :=
  (houseClaims journal sessionId house).countP fun c ↦ c.rank < seats

/-- The entry activates an alternate of the House. -/
def Activation (e : SystemEntry) (sessionId : Uint 256) (house : Uint 8) : Prop :=
  ∃ evidence, e.op = .sortition (.activateNextAlternate sessionId house evidence)

/-- When the entry was made, more primary seats were unclaimed than alternates active. -/
def FindsVacancy (e : SystemEntry) (earlier : List SystemEntry) (sessionId : Uint 256)
    (house : Uint 8) : Prop :=
  claimedBelow earlier sessionId house
      (e.before.sortition.houseConfigs sessionId house).primarySeats +
    ((e.before.sortition.houseConfigs sessionId house).activeRankLimit -
      (e.before.sortition.houseConfigs sessionId house).primarySeats : ℕ) <
    (e.before.sortition.houseConfigs sessionId house).primarySeats

/-- Every activation in the journal found a vacancy. -/
def FillsVacancies (journal : List SystemEntry) (sessionId : Uint 256) (house : Uint 8) : Prop :=
  ∀ e earlier, e :: earlier <:+ journal → Activation e sessionId house →
    FindsVacancy e earlier sessionId house

instance (e : SystemEntry) (sessionId : Uint 256) (house : Uint 8) :
    Decidable (Activation e sessionId house) :=
  match hop : e.op with
  | .sortition (.activateNextAlternate id house' evidence) =>
    decidable_of_iff (id = sessionId ∧ house' = house) (by simp [Activation, hop])
  | .governor _ | .sortition (.access _) | .sortition (.createRound _)
  | .sortition (.fulfillRandomness ..) | .sortition (.finalizeNextSelection ..)
  | .sortition (.claimSeat _) => .isFalse (by simp [Activation, hop])

instance (e : SystemEntry) (earlier : List SystemEntry) (sessionId : Uint 256) (house : Uint 8) :
    Decidable (FindsVacancy e earlier sessionId house) :=
  Nat.decLt _ _

/-- Checked entry by entry, each with what came before it. -/
instance (journal : List SystemEntry) (sessionId : Uint 256) (house : Uint 8) :
    Decidable (FillsVacancies journal sessionId house) :=
  decidable_of_iff (∀ past ∈ journal.tails, ∀ e ∈ past.head?, Activation e sessionId house →
      FindsVacancy e past.tail sessionId house) <| by
    constructor
    · intro h e earlier hsuffix
      exact h _ ((List.mem_tails _ _).mpr hsuffix) e rfl
    · intro h past hpast e he
      obtain ⟨earlier, rfl⟩ := List.head?_eq_some_iff.mp he
      exact h e earlier ((List.mem_tails _ _).mp hpast)

theorem mem_houseClaims {journal : List SystemEntry} {sessionId : Uint 256} {house : Uint 8}
    {c : SeatClaim} : c ∈ houseClaims journal sessionId house ↔
      c ∈ claims journal ∧ c.sessionId = sessionId ∧ c.house = house := by
  simp [houseClaims]

/-! ## Claimed ranks are active -/

/-- Every claim is one of an existing round, with an active rank. -/
def RanksActive (w : SystemWorld) : Prop :=
  ∀ c ∈ claims w.journal, (w.state.sortition.rounds c.sessionId).doesExist = true ∧
    IsHouse c.house ∧
    c.rank < (w.state.sortition.houseConfigs c.sessionId c.house).activeRankLimit

theorem Small.ranksActive {w w' : SystemWorld} (hw : Observable P d w) (h : Small P d w w')
    (hactive : RanksActive w) : RanksActive w' := by
  have hkept : ∀ c ∈ claims w.journal, (w'.state.sortition.rounds c.sessionId).doesExist = true ∧
      IsHouse c.house ∧
      c.rank < (w'.state.sortition.houseConfigs c.sessionId c.house).activeRankLimit := by
    intro c hc
    obtain ⟨hexists, hhouse, hrank⟩ := hactive c hc
    have hcontinues := h.continues hw c.sessionId hhouse hexists
    exact ⟨hcontinues.doesExist, hhouse, hrank.trans_le hcontinues.limit_le⟩
  obtain ⟨hclaims, -, -⟩ | ⟨msg, c, index, hclaim, hjournal, hsortition⟩ := h.claim_change
  · rwa [RanksActive, hclaims]
  · have hcons : claims w'.journal = c :: claims w.journal := by
      rw [hjournal]
      rfl
    rw [RanksActive, hcons, List.forall_mem_cons]
    refine ⟨⟨?_, hclaim.is_house, ?_⟩, hkept⟩
    · rw [hsortition]
      exact hclaim.round_exists
    · rw [hsortition]
      exact hclaim.active

theorem Observable.ranksActive {w : SystemWorld} (h : Observable P d w) : RanksActive w :=
  h.invariant (I := RanksActive) (fun _ c hc ↦ (by cases hc)) fun _ _ hw hactive hs ↦
    hs.ranksActive hw hactive

/-- The claims of a House have different ranks. -/
theorem Observable.rank_nodup {w : SystemWorld} (h : Observable P d w) (sessionId : Uint 256)
    (house : Uint 8) : ((houseClaims w.journal sessionId house).map fun c ↦ (c.rank : ℕ)).Nodup := by
  refine List.Nodup.map_on (fun c hc c' hc' heq ↦ ?_)
    ((List.Nodup.of_map _ h.seated.ranks_nodup).filter _)
  obtain ⟨hmem, hsession, hhouse⟩ := mem_houseClaims.mp hc
  obtain ⟨hmem', hsession', hhouse'⟩ := mem_houseClaims.mp hc'
  have hkey : (c.sessionId, c.house, c.rank) = (c'.sessionId, c'.house, c'.rank) := by
    rw [hsession, hsession', hhouse, hhouse', Fin.ext heq]
  exact List.inj_on_of_nodup_map h.seated.ranks_nodup hmem hmem' hkey

/-- As many claims from the rank `first` on as there are active ranks from there on, at most. -/
theorem Observable.claimedFrom_le {w : SystemWorld} (h : Observable P d w) (sessionId : Uint 256)
    (house : Uint 8) (first : ℕ) :
    ((houseClaims w.journal sessionId house).filter fun c ↦ first ≤ (c.rank : ℕ)).length ≤
      (w.state.sortition.houseConfigs sessionId house).activeRankLimit - first := by
  have hnodup := (h.rank_nodup sessionId house).sublist
    ((List.filter_sublist (p := fun c : SeatClaim ↦ first ≤ (c.rank : ℕ))).map
      fun c ↦ (c.rank : ℕ))
  have hsubset : ((houseClaims w.journal sessionId house).filter fun c ↦
      first ≤ (c.rank : ℕ)).map (fun c ↦ (c.rank : ℕ)) ⊆ List.range' first
        ((w.state.sortition.houseConfigs sessionId house).activeRankLimit - first) := by
    intro rank hrank
    obtain ⟨c, hc, rfl⟩ := List.mem_map.mp hrank
    obtain ⟨hc, hfirst⟩ := List.mem_filter.mp hc
    obtain ⟨hmem, rfl, rfl⟩ := mem_houseClaims.mp hc
    have hactive : (c.rank : ℕ) < _ := (h.ranksActive c hmem).2.2
    have hfirst : first ≤ (c.rank : ℕ) := of_decide_eq_true hfirst
    rw [List.mem_range'_1]
    omega
  simpa using (hnodup.subperm hsubset).length_le

theorem Observable.seatsClaimed_le {w : SystemWorld} (h : Observable P d w) (sessionId : Uint 256)
    (house : Uint 8) : seatsClaimed w.journal sessionId house ≤
      (w.state.sortition.houseConfigs sessionId house).activeRankLimit := by
  simpa [seatsClaimed] using h.claimedFrom_le sessionId house 0

/-! ## Every active alternate was activated -/

/-- The manager activated the alternate rank, after the claim deadline and on evidence. -/
def ActivatedBy (P : Primitives) (w : SystemWorld) (sessionId : Uint 256) (house : Uint 8)
    (rank : ℕ) : Prop :=
  ∃ e ∈ w.journal, ∃ evidence,
    e.op = .sortition (.activateNextAlternate sessionId house evidence) ∧ evidence ≠ 0 ∧
    e.before.sortition.roles (ROUND_MANAGER_ROLE P) e.msg.sender = true ∧
    ((w.state.sortition.rounds sessionId).claimDeadline : ℕ) < e.block.timestamp ∧
    ((e.before.sortition.houseConfigs sessionId house).activeRankLimit : ℕ) = rank

/-- Every rank between the primary seats and the limit was activated. -/
def LimitActivated (P : Primitives) (w : SystemWorld) (sessionId : Uint 256) (house : Uint 8) :
    Prop :=
  ∀ rank : ℕ, ((w.state.sortition.houseConfigs sessionId house).primarySeats : ℕ) ≤ rank →
    rank < (w.state.sortition.houseConfigs sessionId house).activeRankLimit →
    ActivatedBy P w sessionId house rank

theorem Small.limitActivated {w w' : SystemWorld} (h : Small P d w w')
    {sessionId : Uint 256} {house : Uint 8} (hhouse : IsHouse house)
    (hlimit : LimitActivated P w sessionId house) : LimitActivated P w' sessionId house := by
  have hkept : ∀ rank, (w.state.sortition.rounds sessionId).claimDeadline =
      (w'.state.sortition.rounds sessionId).claimDeadline →
      ActivatedBy P w sessionId house rank → ActivatedBy P w' sessionId house rank := by
    rintro rank hdeadline ⟨e, he, evidence, hop, hne, hrole, htime, hrank⟩
    exact ⟨e, h.journal_subset he, evidence, hop, hne, hrole, hdeadline ▸ htime, hrank⟩
  obtain hsame | ⟨msg, op, heff, -, hjournal⟩ := h.sortition_change
  · intro rank hle hlt
    rw [hsame] at hle hlt
    exact hkept rank (by rw [hsame]) (hlimit rank hle hlt)
  · have hchange := heff.phase_change sessionId hhouse
    intro rank hle hlt
    generalize hphase : w'.state.sortition.phase sessionId house = x at hchange
    have hround : w'.state.sortition.rounds sessionId = x.round := congrArg Phase.round hphase
    have hconfig : w'.state.sortition.houseConfigs sessionId house = x.config :=
      congrArg Phase.config hphase
    rw [hconfig] at hle hlt
    cases hchange with
    | same | selected | claimed => exact hkept rank (by rw [hround]; rfl) (hlimit rank hle hlt)
    | created params =>
      simp only [config_activeRankLimit] at hle hlt
      omega
    | fulfilled => exact hkept rank (by rw [hround]) (hlimit rank hle hlt)
    | activated evidence limit hop hactivates =>
      have hcount := hactivates.limit_eq
      obtain hlt' | heq : rank < (w.state.sortition.houseConfigs sessionId house).activeRankLimit ∨
          rank = (w.state.sortition.houseConfigs sessionId house).activeRankLimit := by
        simp only at hlt
        omega
      · exact hkept rank (by rw [hround]; rfl) (hlimit rank hle hlt')
      · refine ⟨_, hjournal ▸ List.mem_cons_self, evidence, by rw [hop], hactivates.evidence_ne,
          hactivates.manager, ?_, heq.symm⟩
        rw [hround]
        exact hactivates.after_deadline

theorem Observable.limitActivated {w : SystemWorld} (h : Observable P d w) (sessionId : Uint 256)
    {house : Uint 8} (hhouse : IsHouse house) : LimitActivated P w sessionId house :=
  h.invariant (I := fun w ↦ LimitActivated P w sessionId house)
    (fun _ _ _ hlt ↦ absurd hlt (Nat.not_lt_zero _)) fun _ _ _ hlimit hs ↦
      hs.limitActivated hhouse hlimit

/-! ## Activations that fill vacancies -/

/-- Once an alternate is active, claimed primary seats and active alternates together fit into the
primary seats. -/
def AlternatesFit (journal : List SystemEntry) (config : HouseConfig) (sessionId : Uint 256)
    (house : Uint 8) : Prop :=
  config.primarySeats < config.activeRankLimit →
    claimedBelow journal sessionId house config.primarySeats + config.activeRankLimit ≤
      2 * (config.primarySeats : ℕ)

theorem FillsVacancies.of_suffix {journal journal' : List SystemEntry} {sessionId : Uint 256}
    {house : Uint 8} (h : FillsVacancies journal' sessionId house) (hsuffix : journal <:+ journal') :
    FillsVacancies journal sessionId house :=
  fun e earlier he ↦ h e earlier (he.trans hsuffix)

theorem claimedBelow_congr {journal journal' : List SystemEntry}
    (h : claims journal' = claims journal) (sessionId : Uint 256) (house : Uint 8)
    (seats : Uint 32) :
    claimedBelow journal' sessionId house seats = claimedBelow journal sessionId house seats := by
  simp only [claimedBelow, houseClaims, h]

/-- A claim of another House or of a later rank is not counted. -/
theorem claimedBelow_cons {journal journal' : List SystemEntry} {c : SeatClaim}
    (h : claims journal' = c :: claims journal) {sessionId : Uint 256} {house : Uint 8}
    {seats : Uint 32} (hother : ¬ (c.sessionId = sessionId ∧ c.house = house ∧ c.rank < seats)) :
    claimedBelow journal' sessionId house seats = claimedBelow journal sessionId house seats := by
  simp only [claimedBelow, houseClaims, h, List.filter_cons]
  split
  · next hhouse =>
    have hrank : ¬ c.rank < seats := fun hlt ↦ hother (by simpa [hlt] using hhouse)
    simp [hrank]
  · rfl

theorem Small.alternatesFit {w w' : SystemWorld} (hw : Observable P d w) (h : Small P d w w')
    {sessionId : Uint 256} {house : Uint 8} (hhouse : IsHouse house)
    (hfills : FillsVacancies w'.journal sessionId house)
    (hfit : AlternatesFit w.journal (w.state.sortition.houseConfigs sessionId house) sessionId
      house) :
    AlternatesFit w'.journal (w'.state.sortition.houseConfigs sessionId house) sessionId house := by
  have hphase := hw.inPhase sessionId hhouse
  cases h with
  | tick | governor | resume => exact hfit
  | sortition msg op s _ heff =>
    have hchange := heff.phase_change sessionId hhouse
    generalize hx : s.sortition.phase sessionId house = x at hchange
    have hconfig : s.sortition.houseConfigs sessionId house = x.config := congrArg Phase.config hx
    change AlternatesFit _ (s.sortition.houseConfigs sessionId house) sessionId house
    rw [hconfig]
    intro hlimit
    -- No claim of a primary seat comes after the claim deadline.
    have hbelow : (w.state.sortition.houseConfigs sessionId house).primarySeats <
        (w.state.sortition.houseConfigs sessionId house).activeRankLimit →
        claimedBelow (⟨w.block, msg, .sortition op, w.state, none⟩ :: w.journal) sessionId house
            (w.state.sortition.houseConfigs sessionId house).primarySeats =
          claimedBelow w.journal sessionId house
            (w.state.sortition.houseConfigs sessionId house).primarySeats := by
      intro hactive
      cases heff with
      | claimSeat c candidateIndex governor hclaims =>
        refine claimedBelow_cons rfl ?_
        rintro ⟨rfl, rfl, hrank⟩
        exact absurd (hclaims.in_window hrank) (not_le.mpr (hphase.after_deadline hactive))
      | _ => exact claimedBelow_congr rfl _ _ _
    cases hchange with
    | same | fulfilled | selected | claimed => exact (hbelow hlimit).symm ▸ hfit hlimit
    | created params =>
      simp only [config_activeRankLimit] at hlimit
      exact absurd hlimit (lt_irrefl _)
    | activated evidence limit hop hactivates =>
      subst hop
      have hvacancy : FindsVacancy _ w.journal sessionId house :=
        hfills _ w.journal List.suffix_rfl ⟨evidence, rfl⟩
      have hcount := hactivates.limit_eq
      have hle : ((w.state.sortition.houseConfigs sessionId house).primarySeats : ℕ) ≤
        (w.state.sortition.houseConfigs sessionId house).activeRankLimit := hphase.primarySeats_le
      simp only [FindsVacancy] at hvacancy
      change claimedBelow w.journal _ _ _ + _ ≤ _
      simp only
      omega

theorem Observable.alternatesFit {w : SystemWorld} (h : Observable P d w) (sessionId : Uint 256)
    {house : Uint 8} (hhouse : IsHouse house) (hfills : FillsVacancies w.journal sessionId house) :
    AlternatesFit w.journal (w.state.sortition.houseConfigs sessionId house) sessionId house :=
  h.invariant (I := fun w ↦ FillsVacancies w.journal sessionId house →
      AlternatesFit w.journal (w.state.sortition.houseConfigs sessionId house) sessionId house)
    (fun _ _ hlt ↦ absurd hlt (lt_irrefl _))
    (fun _ _ hw hfit hs hfills ↦
      hs.alternatesFit hw hhouse hfills (hfit (hfills.of_suffix hs.journal_suffix))) hfills

/-- Where every activation found a vacancy, the primary seats bound the claims. -/
theorem Observable.seatsClaimed_le_primarySeats {w : SystemWorld} (h : Observable P d w)
    (sessionId : Uint 256) {house : Uint 8} (hhouse : IsHouse house)
    (hfills : FillsVacancies w.journal sessionId house) :
    seatsClaimed w.journal sessionId house ≤
      (w.state.sortition.houseConfigs sessionId house).primarySeats := by
  generalize hconfig : w.state.sortition.houseConfigs sessionId house = config
  have hlimit := h.seatsClaimed_le sessionId house
  have hbeyond := h.claimedFrom_le sessionId house config.primarySeats
  have hfit := h.alternatesFit sessionId hhouse hfills
  rw [hconfig] at hlimit hbeyond hfit
  -- Every claim is one of a primary seat or one of an alternate.
  have hsplit : seatsClaimed w.journal sessionId house =
      claimedBelow w.journal sessionId house config.primarySeats +
        ((houseClaims w.journal sessionId house).filter fun c ↦
          (config.primarySeats : ℕ) ≤ (c.rank : ℕ)).length := by
    rw [seatsClaimed, claimedBelow, ← List.countP_eq_length_filter,
      List.length_eq_countP_add_countP fun c : SeatClaim ↦ c.rank < config.primarySeats]
    congr 1
    refine List.countP_congr fun c _ ↦ ?_
    simp
  by_cases hactive : config.primarySeats < config.activeRankLimit
  · have hsum := hfit hactive
    have hactive' : (config.primarySeats : ℕ) < config.activeRankLimit := hactive
    omega
  · exact hlimit.trans (not_lt.mp hactive)

/-! ## Limits of the seats -/

/-- What bounds the seats claimed in a House at any time. -/
structure SeatLimits (P : Primitives) (w : SystemWorld) (sessionId : Uint 256) (house : Uint 8) :
    Prop where
  claimed_le : seatsClaimed w.journal sessionId house ≤
    (w.state.sortition.houseConfigs sessionId house).activeRankLimit
  limit_le : ((w.state.sortition.houseConfigs sessionId house).activeRankLimit : ℕ) ≤
    (w.state.sortition.houseConfigs sessionId house).primarySeats +
      (w.state.sortition.houseConfigs sessionId house).alternateSeats
  alternate_activated : ∀ c ∈ houseClaims w.journal sessionId house,
    (w.state.sortition.houseConfigs sessionId house).primarySeats ≤ c.rank →
    ActivatedBy P w sessionId house c.rank
  within_primaries : FillsVacancies w.journal sessionId house →
    seatsClaimed w.journal sessionId house ≤
      (w.state.sortition.houseConfigs sessionId house).primarySeats

/-- In every run the claimed seats of a House stay within its active ranks, every claimed alternate
was activated by the manager, and activations that find a vacancy never overfill the House. -/
theorem seats_limited {w : SystemWorld} (h : Observable P d w) (sessionId : Uint 256)
    {house : Uint 8} (hhouse : IsHouse house) : SeatLimits P w sessionId house where
  claimed_le := h.seatsClaimed_le sessionId house
  limit_le := by
    have horder := h.phaseOrder sessionId hhouse
    have hcount := horder.count_le
    obtain hle | hle := le_max_iff.mp horder.limit_le
    all_goals
      rw [Fin.le_def] at hle
      omega
  alternate_activated c hc hrank := by
    obtain ⟨hmem, rfl, rfl⟩ := mem_houseClaims.mp hc
    exact h.limitActivated c.sessionId hhouse c.rank hrank (h.ranksActive c hmem).2.2
  within_primaries := h.seatsClaimed_le_primarySeats sessionId hhouse

namespace Sample

def vacancyFilled : List SystemTx := selection ++ [activation, alternateClaim]

end Sample

/-- Nobody claims the one primary seat of the Creator House, the manager activates an alternate for it,
and the alternate claims the vacant seat. -/
theorem seats_limited_sample :
    SeatLimits Sample.primitives (Sample.after Sample.vacancyFilled) 1 CREATOR_HOUSE ∧
      FillsVacancies (Sample.after Sample.vacancyFilled).journal 1 CREATOR_HOUSE ∧
      seatsClaimed (Sample.after Sample.vacancyFilled).journal 1 CREATOR_HOUSE = 1 ∧
      claimedBelow (Sample.after Sample.vacancyFilled).journal 1 CREATOR_HOUSE 1 = 0 :=
  ⟨seats_limited (Sample.reachable_after (by decide)).observable 1 isHouse_creator, by decide +kernel⟩

/-- The manager activates an alternate although the only primary seat is claimed, and then two seats
are claimed. -/
theorem seat_overfilled : ¬ ∀ (P : Primitives) (d : Deployment) (w : SystemWorld), Reachable P d w →
    ∀ sessionId house, IsHouse house → seatsClaimed w.journal sessionId house ≤
      (w.state.sortition.houseConfigs sessionId house).primarySeats := by
  intro h
  have hle := h _ _ _ (Sample.reachable_after (by decide) : Reachable _ _ (Sample.after
    (Sample.selection ++ [Sample.primaryClaim, Sample.activation, Sample.alternateClaim])))
    1 CREATOR_HOUSE isHouse_creator
  revert hle
  decide +kernel

end CreatorFirst.Sortition
