import CreatorFirst.Governor.History
import CreatorFirst.Sortition.Phases

/-!
# Seats

Each claimed seat is one registration with the governor, checked against the draw and the
eligibility root of its House. A rank, an identity and a wallet claim at most one seat of a session.
How many seats a House fills is bounded by its active ranks: an alternate becomes active by an act
of the round manager that names evidence of a vacancy, which the contract does not compare with the
seats that are claimed.
-/

namespace CreatorFirst.Sortition

open Chain Relation

variable {P : Primitives} {d : Deployment}

/-! ## The claims of a run -/

/-- The claim of an operation. -/
def Op.claim : Op → Option SeatClaim
  | .sortition (.claimSeat c) => some c
  | _ => none

/-- The candidate that was selected for the rank of a claim. -/
def candidateOf (s : State) (c : SeatClaim) : Uint 32 :=
  Uint.truncate 32 ((s.selectedIndexPlusOne c.sessionId c.house c.rank : ℕ) - 1)

/-- The leaf that a claim proves. -/
def claimLeaf (P : Primitives) (s : State) (c : SeatClaim) : Bytes32 :=
  eligibilityLeaf P (candidateOf s c) c.governanceIdCommitment c.votingWallet

/-- The seats claimed in a journal, newest first. -/
def claims (journal : List SystemEntry) : List SeatClaim := journal.filterMap fun e ↦ e.op.claim

/-- A step leaves the claims and the markers of claimed seats, or claims one seat. -/
theorem Small.claim_change {w w' : SystemWorld} (h : Small P d w w') :
    (claims w'.journal = claims w.journal ∧
      w'.state.sortition.rankClaimed = w.state.sortition.rankClaimed ∧
      w'.state.sortition.governanceIdentityUsed = w.state.sortition.governanceIdentityUsed) ∨
    ∃ msg c candidateIndex, Claims P d w.block msg.sender c w.state candidateIndex w'.state.governor ∧
      w'.journal = ⟨w.block, msg, .sortition (.claimSeat c), w.state, none⟩ :: w.journal ∧
      w'.state.sortition = w.state.sortition.withClaim c := by
  cases h with
  | tick | governor | resume => exact .inl ⟨rfl, rfl, rfl⟩
  | sortition msg op s _ heff =>
    cases heff with
    | claimSeat c candidateIndex governor hclaims =>
      exact .inr ⟨msg, c, candidateIndex, hclaims, rfl, rfl⟩
    | _ => exact .inl ⟨rfl, rfl, rfl⟩

/-- A House that the governor has registered for a member stays. -/
theorem Small.memberHouse_stays {w w' : SystemWorld} (h : Small P d w w') {sessionId : Uint 256}
    {member : Address} (hmember : w.state.governor.memberHouse sessionId member ≠ .none) :
    w'.state.governor.memberHouse sessionId member =
      w.state.governor.memberHouse sessionId member :=
  Governor.memberHouse_stays h.governor_micro hmember

/-- A claim that took effect has put its wallet into its House. -/
theorem Claims.member {b : Block} {sender : Address} {c : SeatClaim} {s : System}
    {candidateIndex : Uint 32} {governor : Governor.State}
    (h : Claims P d b sender c s candidateIndex governor) :
    s.governor.memberHouse c.sessionId c.votingWallet = .none ∧
      governor.memberHouse c.sessionId c.votingWallet = houseOf c.house := by
  have heff : Governor.Effect P d.governor b d.self s.governor
      (.registerMember c.sessionId c.votingWallet (houseOf c.house)) governor :=
    Governor.PlainOp.effect h.registered
  cases heff with
  | registerMember _ _ _ _ _ _ _ hnew => exact ⟨hnew, update₂_self _ _ _ _⟩

theorem houseOf_ne_none {house : Uint 8} (h : IsHouse house) : houseOf house ≠ .none := by
  obtain rfl | rfl := h <;> decide

/-- A new key at the head of a list without repeated keys. -/
theorem nodup_map_cons {α β : Type} {l : List α} {a : α} {key : α → β}
    (hnodup : (l.map key).Nodup) (hnew : ∀ x ∈ l, key x ≠ key a) : ((a :: l).map key).Nodup := by
  rw [List.map_cons, List.nodup_cons]
  refine ⟨fun hmem ↦ ?_, hnodup⟩
  obtain ⟨x, hx, heq⟩ := List.mem_map.mp hmem
  exact hnew x hx heq

/-- The markers of seats and identities are those of the claims, every claim has made its wallet a
member of its House, and no two claims share a rank, an identity or a wallet. -/
structure Seated (w : SystemWorld) : Prop where
  ranks : ∀ sessionId house rank, w.state.sortition.rankClaimed sessionId house rank = true ↔
    ∃ c ∈ claims w.journal, c.sessionId = sessionId ∧ c.house = house ∧ c.rank = rank
  identities : ∀ sessionId commitment,
    w.state.sortition.governanceIdentityUsed sessionId commitment = true ↔
      ∃ c ∈ claims w.journal, c.sessionId = sessionId ∧ c.governanceIdCommitment = commitment
  members : ∀ c ∈ claims w.journal, IsHouse c.house ∧
    w.state.governor.memberHouse c.sessionId c.votingWallet = houseOf c.house
  ranks_nodup : ((claims w.journal).map fun c ↦ (c.sessionId, c.house, c.rank)).Nodup
  identities_nodup :
    ((claims w.journal).map fun c ↦ (c.sessionId, c.governanceIdCommitment)).Nodup
  wallets_nodup : ((claims w.journal).map fun c ↦ (c.sessionId, c.votingWallet)).Nodup

theorem Small.seated {w w' : SystemWorld} (hw : Seated w) (h : Small P d w w') : Seated w' := by
  have hmembers : ∀ c ∈ claims w.journal, IsHouse c.house ∧
      w'.state.governor.memberHouse c.sessionId c.votingWallet = houseOf c.house := by
    intro c hc
    obtain ⟨hhouse, hmember⟩ := hw.members c hc
    have hne := hmember.symm ▸ houseOf_ne_none hhouse
    exact ⟨hhouse, (h.memberHouse_stays hne).trans hmember⟩
  obtain ⟨hclaims, hranks, hidentities⟩ | ⟨msg, c, index, hclaim, hjournal, hsortition⟩ :=
    h.claim_change
  · rw [← hclaims] at hmembers
    exact ⟨by rw [hclaims, hranks]; exact hw.ranks,
      by rw [hclaims, hidentities]; exact hw.identities, hmembers,
      by rw [hclaims]; exact hw.ranks_nodup, by rw [hclaims]; exact hw.identities_nodup,
      by rw [hclaims]; exact hw.wallets_nodup⟩
  · have hcons : claims w'.journal = c :: claims w.journal := by
      rw [hjournal]
      rfl
    obtain ⟨hnone, hmember⟩ := hclaim.member
    constructor
    · intro sessionId house rank
      rw [hcons, List.exists_mem_cons_iff, ← hw.ranks sessionId house rank, hsortition]
      simp only [State.withClaim, update₃_apply]
      split
      · next h => simp [h]
      · next h => simp only [eq_comm, h, false_or]
    · intro sessionId commitment
      rw [hcons, List.exists_mem_cons_iff, ← hw.identities sessionId commitment, hsortition]
      simp only [State.withClaim, update₂_apply]
      split
      · next h => simp [h]
      · next h => simp only [eq_comm, h, false_or]
    · rw [hcons, List.forall_mem_cons]
      exact ⟨⟨hclaim.is_house, hmember⟩, hmembers⟩
    -- An older claim with the same key has set the marker that this claim found unset.
    · rw [hcons]
      refine nodup_map_cons hw.ranks_nodup fun x hx heq ↦ ?_
      obtain ⟨hsession, hrest⟩ := Prod.mk.inj heq
      obtain ⟨hhouse, hrank⟩ := Prod.mk.inj hrest
      have hset := (hw.ranks _ _ _).mpr ⟨x, hx, hsession, hhouse, hrank⟩
      rw [hclaim.not_claimed] at hset
      cases hset
    · rw [hcons]
      refine nodup_map_cons hw.identities_nodup fun x hx heq ↦ ?_
      obtain ⟨hsession, hidentity⟩ := Prod.mk.inj heq
      have hset := (hw.identities _ _).mpr ⟨x, hx, hsession, hidentity⟩
      rw [hclaim.identity_free] at hset
      cases hset
    · rw [hcons]
      refine nodup_map_cons hw.wallets_nodup fun x hx heq ↦ ?_
      obtain ⟨hsession, hwallet⟩ := Prod.mk.inj heq
      obtain ⟨hhouse, hset⟩ := hw.members x hx
      rw [hsession, hwallet, hnone] at hset
      exact houseOf_ne_none hhouse hset.symm

theorem Observable.seated {w : SystemWorld} (h : Observable P d w) : Seated w :=
  h.invariant (I := Seated)
    (fun _ ↦ ⟨by simp [claims, genesis, initialState], by simp [claims, genesis, initialState],
      by simp [claims, genesis], by simp [claims, genesis], by simp [claims, genesis],
      by simp [claims, genesis]⟩)
    fun _ _ _ hw hs ↦ hs.seated hw

/-- Claims of one identity in one session are the same claim. -/
theorem Seated.eq_of_identity {w : SystemWorld} (h : Seated w) {c c' : SeatClaim}
    (hc : c ∈ claims w.journal) (hc' : c' ∈ claims w.journal)
    (hsession : c.sessionId = c'.sessionId)
    (hidentity : c.governanceIdCommitment = c'.governanceIdCommitment) : c = c' :=
  List.inj_on_of_nodup_map h.identities_nodup hc hc' (Prod.ext hsession hidentity)

/-- A claim is made for the candidate that was selected for its rank. -/
theorem Claims.candidate_eq {b : Block} {sender : Address} {c : SeatClaim} {s : System}
    {candidateIndex : Uint 32} {governor : Governor.State}
    (h : Claims P d b sender c s candidateIndex governor) :
    candidateIndex = candidateOf s.sortition c := by
  apply Fin.ext
  rw [candidateOf, h.selected, Nat.add_sub_cancel, Uint.truncate_of_lt candidateIndex.isLt]

/-- Every claim in the journal passed the checks of its time. -/
theorem Observable.claims_checked {w : SystemWorld} (h : Observable P d w) :
    ∀ e ∈ w.journal, ∀ c, e.op.claim = some c → ∃ governor,
      Claims P d e.block e.msg.sender c e.before (candidateOf e.before.sortition c) governor := by
  refine h.invariant (I := fun w ↦ ∀ e ∈ w.journal, ∀ c, e.op.claim = some c → ∃ governor,
    Claims P d e.block e.msg.sender c e.before (candidateOf e.before.sortition c) governor)
    (fun b e he ↦ by cases he) fun w w' _ hw hs ↦ ?_
  cases hs with
  | tick | resume => exact hw
  | governor msg op o =>
    rw [List.forall_mem_cons]
    exact ⟨fun c hc ↦ (by cases hc), hw⟩
  | sortition msg op s _ heff =>
    rw [List.forall_mem_cons]
    refine ⟨fun c hc ↦ ?_, hw⟩
    cases heff with
    | claimSeat c₀ candidateIndex governor hclaims =>
      obtain rfl := Option.some.inj hc
      exact ⟨governor, hclaims.candidate_eq ▸ hclaims⟩
    | _ => cases hc

/-! ## Leaves -/

/-- The byte strings that are hashed for a leaf. -/
def leafPreimages (P : Primitives) (candidateIndex : Uint 32) (governanceIdCommitment : Bytes32)
    (votingWallet : Address) : List Bytes :=
  [abiEncode [candidateIndex, governanceIdCommitment, votingWallet],
    bigEndian 32 (P.keccak256 (abiEncode [candidateIndex, governanceIdCommitment, votingWallet]))]

/-- The byte strings that are hashed for the leaves of all claims in a journal. -/
def claimPreimages (P : Primitives) (journal : List SystemEntry) : List Bytes :=
  journal.flatMap fun e ↦
    match e.op.claim with
    | none => []
    | some c =>
      leafPreimages P (candidateOf e.before.sortition c) c.governanceIdCommitment c.votingWallet

theorem mem_claimPreimages {journal : List SystemEntry} {e : SystemEntry} {c : SeatClaim}
    {x : Bytes} (he : e ∈ journal) (hc : e.op.claim = some c)
    (hx : x ∈ leafPreimages P (candidateOf e.before.sortition c) c.governanceIdCommitment
      c.votingWallet) : x ∈ claimPreimages P journal := by
  refine List.mem_flatMap.mpr ⟨e, he, ?_⟩
  rw [hc]
  exact hx

/-- Where hashing has no collision, a leaf determines what it was made of. -/
theorem eligibilityLeaf_inj {S : Set Bytes} (hinj : Set.InjOn P.keccak256 S)
    {candidateIndex candidateIndex' : Uint 32} {commitment commitment' : Bytes32}
    {wallet wallet' : Address}
    (hmem : ∀ x ∈ leafPreimages P candidateIndex commitment wallet, x ∈ S)
    (hmem' : ∀ x ∈ leafPreimages P candidateIndex' commitment' wallet', x ∈ S)
    (h : eligibilityLeaf P candidateIndex commitment wallet =
      eligibilityLeaf P candidateIndex' commitment' wallet') :
    candidateIndex = candidateIndex' ∧ commitment = commitment' ∧ wallet = wallet' := by
  simp only [leafPreimages, List.forall_mem_cons] at hmem hmem'
  have hword : ∀ x : Bytes32, (x : ℕ) < 256 ^ 32 := fun x ↦ x.isLt.trans_eq (by norm_num)
  have houter := hinj hmem.2.1 hmem'.2.1 h
  have hnested : P.keccak256 (abiEncode [candidateIndex, commitment, wallet]) =
      P.keccak256 (abiEncode [candidateIndex', commitment', wallet']) := by
    apply Fin.ext
    apply bigEndian_inj (k := 32) _ _ houter
    all_goals exact hword _
  have hencoded := hinj hmem.1 hmem'.1 hnested
  have hwords : [(candidateIndex : ℕ), commitment, wallet] =
      [(candidateIndex' : ℕ), commitment', wallet'] := by
    refine abiEncode_inj (by simp) ?_ ?_ hencoded
    all_goals
      simp only [List.forall_mem_cons]
      exact ⟨(Fin.isLt _).trans (by norm_num), Fin.isLt _, (Fin.isLt _).trans (by norm_num), by simp⟩
  simp only [List.cons.injEq, and_true] at hwords
  exact ⟨Fin.ext hwords.1, Fin.ext hwords.2.1, Fin.ext hwords.2.2⟩

/-- Two claims of a session that prove the same leaf are the same claim. -/
theorem Observable.claim_eq_of_leaf {w : SystemWorld} (h : Observable P d w)
    (hinj : Set.InjOn P.keccak256 {x | x ∈ claimPreimages P w.journal}) {e e' : SystemEntry}
    (he : e ∈ w.journal) (he' : e' ∈ w.journal) {c c' : SeatClaim} (hc : e.op.claim = some c)
    (hc' : e'.op.claim = some c') (hsession : c.sessionId = c'.sessionId)
    (hleaf : claimLeaf P e.before.sortition c = claimLeaf P e'.before.sortition c') : c = c' := by
  obtain ⟨-, hidentity, -⟩ := eligibilityLeaf_inj hinj (fun x ↦ mem_claimPreimages he hc)
    (fun x ↦ mem_claimPreimages he' hc') hleaf
  have hmem : c ∈ claims w.journal := List.mem_filterMap.mpr ⟨e, he, hc⟩
  have hmem' : c' ∈ claims w.journal := List.mem_filterMap.mpr ⟨e', he', hc'⟩
  exact h.seated.eq_of_identity hmem hmem' hsession hidentity

/-! ## Registrations with the governor -/

/-- The session, wallet and House of each registration that the sortition made with the governor. -/
def registrations (d : Deployment) (journal : List Governor.GovernorEntry) :
    List (Uint 256 × Address × Governor.House) :=
  journal.filterMap fun e ↦
    match e.op with
    | .plain (.registerMember sessionId member house) =>
      if e.msg.sender = d.self then some (sessionId, member, house) else none
    | _ => none

/-- The sortition's registrations are the claims. -/
theorem Observable.registrations_eq {w : SystemWorld} (h : Observable P d w) :
    registrations d (governorWorld d w).journal =
      (claims w.journal).map fun c ↦ (c.sessionId, c.votingWallet, houseOf c.house) := by
  refine h.invariant (I := fun w ↦ registrations d (governorWorld d w).journal =
    (claims w.journal).map fun c ↦ (c.sessionId, c.votingWallet, houseOf c.house))
    (fun _ ↦ rfl) fun w w' _ hw hs ↦ ?_
  cases hs with
  | tick | resume => exact hw
  | governor msg op o hsender =>
    -- A call from outside is none of the sortition's registrations.
    have hskip : registrations d (⟨w.block, msg, op, w.state.governor, o.frame?⟩ ::
        (governorWorld d w).journal) = registrations d (governorWorld d w).journal := by
      rw [registrations, List.filterMap_cons_none, registrations]
      split
      · rw [if_neg hsender]
      · rfl
    exact hskip.trans hw
  | sortition msg op s _ heff =>
    cases heff with
    | claimSeat c candidateIndex governor hclaims =>
      have hcons : registrations d (⟨w.block, ⟨d.self, 0⟩, .plain (.registerMember c.sessionId
          c.votingWallet (houseOf c.house)), w.state.governor, none⟩ ::
            (governorWorld d w).journal) =
          (c.sessionId, c.votingWallet, houseOf c.house) ::
            registrations d (governorWorld d w).journal := by
        rw [registrations, List.filterMap_cons_some, registrations]
        exact if_pos rfl
      exact hcons.trans (congrArg _ hw)
    | _ => exact hw

/-- The sortition sends no transactions. -/
theorem Observable.sender_ne {w : SystemWorld} (h : Observable P d w) :
    ∀ e ∈ w.journal, e.msg.sender ≠ d.self :=
  h.invariant (I := fun w ↦ ∀ e ∈ w.journal, e.msg.sender ≠ d.self) (fun _ _ he ↦ by cases he)
    fun _ _ _ hw hs ↦ by
      cases hs with
      | tick | resume => exact hw
      | governor _ _ _ hsender | sortition _ _ _ hsender => exact List.forall_mem_cons.mpr ⟨hsender, hw⟩

/-- Whoever is in a House has claimed a seat of it, or somebody else than the sortition has
registered it with the governor. -/
theorem Observable.seat_of_member {w : SystemWorld} (h : Observable P d w) {sessionId : Uint 256}
    {member : Address} (hmember : w.state.governor.memberHouse sessionId member ≠ .none) :
    (∃ c ∈ claims w.journal, c.sessionId = sessionId ∧ c.votingWallet = member) ∨
      ∃ e ∈ w.journal, e.msg.sender ≠ d.self ∧ e.op = .governor (.plain (.registerMember sessionId member
        (w.state.governor.memberHouse sessionId member))) := by
  obtain ⟨entry, hentry, hop⟩ := h.governor.allRegistered sessionId member hmember
  obtain ⟨e, he, hnoted⟩ := List.mem_filterMap.mp hentry
  unfold governorEntry at hnoted
  split at hnoted
  · next op hgovernor =>
    obtain rfl := Option.some.inj hnoted
    obtain rfl : op = _ := hop
    exact .inr ⟨e, he, h.sender_ne e he, hgovernor⟩
  · next c hclaim =>
    obtain rfl := Option.some.inj hnoted
    simp only [Governor.Op.plain.injEq, Governor.PlainOp.registerMember.injEq] at hop
    exact .inl ⟨c, List.mem_filterMap.mpr ⟨e, he, by rw [hclaim]; rfl⟩, hop.1, hop.2.1⟩
  · cases hnoted

/-! ## Safety of the seats -/

/-- A claim that the governor does not register fails. -/
theorem call_of_registration_error {b : Block} {msg : Msg} {c : SeatClaim} {s : System}
    {e : Governor.Error} (h : Governor.registerMember P b d.self c.sessionId c.votingWallet
      (houseOf c.house) s.governor = .error e) (o : Outcome System Governor.TargetCall) :
    (contract P d).call b msg (.sortition (.claimSeat c)) s ≠ .ok o := by
  intro ho
  obtain ⟨-, ho⟩ := revertIf_bind_eq_ok.mp ho
  obtain ⟨-, ho⟩ := revertIf_bind_eq_ok.mp ho
  obtain ⟨s', hs', -⟩ := bind_eq_ok.mp ho
  obtain ⟨candidateIndex, hclaims, -⟩ := claimSeat_ok hs'
  have hregistered := hclaims.registered
  rw [h] at hregistered
  cases hregistered

/-- What holds of the claimed seats at any time. -/
structure SeatsSafe (P : Primitives) (d : Deployment) (w : SystemWorld) : Prop
    extends Seated w where
  registered : registrations d (governorWorld d w).journal =
    (claims w.journal).map fun c ↦ (c.sessionId, c.votingWallet, houseOf c.house)
  housed : ∀ sessionId member, w.state.governor.memberHouse sessionId member ≠ .none →
    (∃ c ∈ claims w.journal, c.sessionId = sessionId ∧ c.votingWallet = member) ∨
      ∃ e ∈ w.journal, e.msg.sender ≠ d.self ∧ e.op = .governor (.plain (.registerMember sessionId member
        (w.state.governor.memberHouse sessionId member)))
  checked : ∀ e ∈ w.journal, ∀ c, e.op.claim = some c → ∃ governor,
    Claims P d e.block e.msg.sender c e.before (candidateOf e.before.sortition c) governor
  leaves : Set.InjOn P.keccak256 {x | x ∈ claimPreimages P w.journal} →
    ∀ e ∈ w.journal, ∀ e' ∈ w.journal, ∀ c c', e.op.claim = some c → e'.op.claim = some c' →
      c.sessionId = c'.sessionId →
      claimLeaf P e.before.sortition c = claimLeaf P e'.before.sortition c' → c = c'

/-- In every run the seats are safe, and a claim that the governor rejects leaves no trace, whether
it comes in a transaction or from inside one. -/
theorem seats_safe :
    (∀ w, Observable P d w → SeatsSafe P d w) ∧
    (∀ w (tx : SystemTx) c e, tx.op = .sortition (.claimSeat c) →
      Governor.registerMember P tx.block d.self c.sessionId c.votingWallet (houseOf c.house)
        w.state.governor = .error e →
      (contract P d).transact tx w = { w with block := tx.block }) ∧
    (∀ w msg c inner success rest e,
      Governor.registerMember P w.block d.self c.sessionId c.votingWallet (houseOf c.house)
        w.state.governor = .error e →
      (contract P d).runCalls (.cons msg (.sortition (.claimSeat c)) inner success rest) w =
        (contract P d).runCalls rest w) := by
  refine ⟨fun w hw ↦ ?_, fun w tx c e hop herror ↦ ?_, fun w msg c inner success rest e herror ↦ ?_⟩
  · exact
      { hw.seated with
        registered := hw.registrations_eq
        housed := fun _ _ hmember ↦ hw.seat_of_member hmember
        checked := hw.claims_checked
        leaves := fun hinj e he e' he' c c' hc hc' ↦ hw.claim_eq_of_leaf hinj he he' hc hc' }
  · obtain ⟨e', he'⟩ : ∃ e', (contract P d).attempt tx.msg tx.op tx.inner tx.success
        { w with block := tx.block } = .error e' :=
      Contract.attempt_error_of_call (hop ▸ call_of_registration_error herror)
    exact Contract.transact_of_error he'
  · obtain ⟨e', he'⟩ : ∃ e', (contract P d).attempt msg (.sortition (.claimSeat c)) inner success w =
        .error e' :=
      Contract.attempt_error_of_call (call_of_registration_error herror)
    exact Contract.runCalls_cons_of_error he'

/-- Two seats claimed, one in each House, without a collision; and the claim of a sortition that the
governor does not let register members. -/
theorem seats_safe_sample :
    SeatsSafe Sample.primitives Sample.deployment
      (Sample.after (Sample.selection ++ [Sample.primaryClaim, Sample.userClaim])) ∧
    (claims (Sample.after (Sample.selection ++
      [Sample.primaryClaim, Sample.userClaim])).journal).map (·.house) =
        [USER_HOUSE, CREATOR_HOUSE] ∧
    Set.InjOn Sample.keccak256 {x | x ∈ claimPreimages Sample.primitives
      (Sample.after (Sample.selection ++ [Sample.primaryClaim, Sample.userClaim])).journal} ∧
    (contract Sample.primitives Sample.deployment).transact Sample.primaryClaim
        (Sample.after (Sample.selection.eraseIdx 1)) =
      { Sample.after (Sample.selection.eraseIdx 1) with block := Sample.primaryClaim.block } := by
  have hinj : ∀ x ∈ claimPreimages Sample.primitives
      (Sample.after (Sample.selection ++ [Sample.primaryClaim, Sample.userClaim])).journal,
      ∀ y ∈ claimPreimages Sample.primitives
        (Sample.after (Sample.selection ++ [Sample.primaryClaim, Sample.userClaim])).journal,
      Sample.keccak256 x = Sample.keccak256 y → x = y := by
    decide +kernel
  have hreach : Reachable Sample.primitives Sample.deployment
      (Sample.after (Sample.selection ++ [Sample.primaryClaim, Sample.userClaim])) :=
    Sample.reachable_after (by decide)
  obtain ⟨e, he⟩ := exists_error_of_isOk (x := Governor.registerMember Sample.primitives
    Sample.primaryClaim.block Sample.deployment.self 1 Sample.secondCreator
    (houseOf CREATOR_HOUSE) (Sample.after (Sample.selection.eraseIdx 1)).state.governor)
    (by decide +kernel)
  exact ⟨seats_safe.1 _ hreach.observable, by decide +kernel,
    fun x hx y hy heq ↦ hinj x hx y hy heq, seats_safe.2.1 _ _ _ e rfl he⟩

end CreatorFirst.Sortition
