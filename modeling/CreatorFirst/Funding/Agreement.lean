import CreatorFirst.Funding.Machine
import CreatorFirst.Participants.Registry
import CreatorFirst.Distributor.Accounts

/-!
# Registry and distributor agree

While the registry alone may register participants with the distributor, the participants whose
initial funding it has noted are the registered ones, with the same wallets, apart from fundings
whose payment is still under way. No participant and no wallet is funded twice, and a funding that
reverts leaves both contracts as they were.
-/

namespace CreatorFirst.Funding

open Chain Relation

variable {P : Primitives} {d : Deployment} {b : Block} {s s' : System}

/-! ## One step -/

/-- The steps of the two contracts. -/
inductive Small (P : Primitives) (d : Deployment) (m : FundingMoment) : FundingMoment → Prop
  | tick (b : Block) : Small P d m ⟨{ m.world with block := b }, m.opened⟩
  | distributor (msg : Msg) (op : Distributor.Op) (t : Distributor.State)
      (payout : Option Distributor.Payout) (hsender : msg.sender ≠ d.registry.self)
      (h : Distributor.Effect P d.distributor m.world.block msg.sender m.world.state.distributor op
        t payout) :
      Small P d m ⟨⟨m.world.block, { m.world.state with distributor := t },
        ⟨m.world.block, msg, .distributor op, m.world.state, payout.map .payout⟩ ::
          m.world.journal⟩, (payout.map .payout).toList ++ m.opened⟩
  | registry (msg : Msg) (op : Participants.Op) (r : Participants.State)
      (h : Participants.Effect P m.world.block msg.sender m.world.state.registry op r none) :
      Small P d m ⟨⟨m.world.block, { m.world.state with registry := r },
        ⟨m.world.block, msg, .registry op, m.world.state, none⟩ :: m.world.journal⟩, m.opened⟩
  | fund (msg : Msg) (f : Participants.Funding) (t : Distributor.State)
      (hfunds : Participants.Funds P m.world.block msg.sender f m.world.state.registry)
      (h : Distributor.Effect P d.distributor m.world.block d.registry.self
        m.world.state.distributor (registration f) t none) :
      Small P d m ⟨⟨m.world.block, ⟨m.world.state.registry.withFunding f.participantId, t⟩,
        ⟨m.world.block, msg, .registry (.fundInitial f.participantId f.operationId), m.world.state,
          none⟩ :: m.world.journal⟩, m.opened⟩
  | enter (msg : Msg) (f : Participants.Funding) (t : Distributor.State)
      (payout : Distributor.Payout)
      (hfunds : Participants.Funds P m.world.block msg.sender f m.world.state.registry)
      (h : Distributor.Effect P d.distributor m.world.block d.registry.self
        m.world.state.distributor (registration f) t (some payout)) :
      Small P d m ⟨⟨m.world.block, ⟨{ m.world.state.registry with entered := true }, t⟩,
        ⟨m.world.block, msg, .registry (.fundInitial f.participantId f.operationId), m.world.state,
          some (.funding f payout)⟩ :: m.world.journal⟩, .funding f payout :: m.opened⟩
  | paid (payout : Distributor.Payout) (opened : List Frame)
      (h : m.opened = .payout payout :: opened) :
      Small P d m ⟨{ m.world with
        state := { m.world.state with
          distributor := { m.world.state.distributor with entered := false } } }, opened⟩
  | funded (f : Participants.Funding) (payout : Distributor.Payout) (opened : List Frame)
      (h : m.opened = .funding f payout :: opened) :
      Small P d m ⟨{ m.world with
        state := ⟨m.world.state.registry.withFunding f.participantId,
          { m.world.state.distributor with entered := false }⟩ }, opened⟩

theorem distributorCall_ok {msg : Msg} {op : Distributor.Op} {t : Distributor.State}
    {o : Outcome Distributor.State Distributor.Payout}
    (h : Distributor.call P d.distributor b msg op t = .ok o) :
    Distributor.Effect P d.distributor b msg.sender t op o.state o.frame? := by
  obtain ⟨-, h⟩ := revertIf_bind_eq_ok.mp h
  obtain ⟨-, h⟩ := revertIf_bind_eq_ok.mp h
  exact Distributor.Op.effect h

theorem registryCall_ok {msg : Msg} {op : Participants.Op} {r : Participants.State}
    {o : Outcome Participants.State Participants.Funding}
    (h : Participants.call P d.registry b msg op r = .ok o) :
    Participants.Effect P b msg.sender r op o.state o.frame? := by
  obtain ⟨-, h⟩ := revertIf_bind_eq_ok.mp h
  obtain ⟨-, h⟩ := revertIf_bind_eq_ok.mp h
  exact Participants.Op.effect h

theorem callDistributor_ok {f : Participants.Funding} {o : Outcome System Frame}
    (h : callDistributor P d b f s = .ok o) :
    ∃ t payout, Distributor.Effect P d.distributor b d.registry.self s.distributor (registration f)
        t payout ∧
      o = match payout with
        | none => .done ⟨s.registry.withFunding f.participantId, t⟩
        | some payout => .callout { s with distributor := t } (.funding f payout) := by
  obtain ⟨o', ho', h⟩ := bind_eq_ok.mp h
  have heff := distributorCall_ok (mapError_eq_ok.mp ho')
  cases o' with
  | done t =>
    obtain ⟨r, hr, h⟩ := bind_eq_ok.mp h
    obtain rfl := pure_eq_ok.mp h
    obtain ⟨-, rfl⟩ := Participants.afterFunding_ok (mapError_eq_ok.mp hr)
    exact ⟨t, none, heff, rfl⟩
  | callout t payout =>
    obtain rfl := pure_eq_ok.mp h
    exact ⟨t, some payout, heff, rfl⟩

theorem call_next {m : FundingMoment} {msg : Msg} {op : Op} {o : Outcome System Frame}
    (h : call P d m.world.block msg op m.world.state = .ok o) :
    Small P d m ⟨m.world.log msg op o, o.frame?.toList ++ m.opened⟩ := by
  rw [World.log_eq]
  cases op with
  | distributor op =>
    obtain ⟨hsender, h⟩ := revertIf_bind_eq_ok.mp h
    obtain ⟨o', ho', h⟩ := bind_eq_ok.mp h
    have heff := distributorCall_ok (mapError_eq_ok.mp ho')
    cases o' with
    | done t =>
      obtain rfl := pure_eq_ok.mp h
      exact .distributor msg op t none hsender heff
    | callout t payout =>
      obtain rfl := pure_eq_ok.mp h
      exact .distributor msg op t (some payout) hsender heff
  | registry op =>
    obtain ⟨-, h⟩ := revertIf_bind_eq_ok.mp h
    obtain ⟨o', ho', h⟩ := bind_eq_ok.mp h
    have heff := registryCall_ok (mapError_eq_ok.mp ho')
    cases o' with
    | done r =>
      obtain rfl := pure_eq_ok.mp h
      exact .registry msg op r heff
    | callout r f =>
      obtain ⟨t, payout, hregisters, rfl⟩ := callDistributor_ok h
      cases heff with
      | fund _ hfunds =>
        cases payout with
        | none => exact .fund msg f t hfunds hregisters
        | some payout => exact .enter msg f t payout hfunds hregisters

theorem next_small {m m' : FundingMoment} (h : (contract P d).Next m m') : Small P d m m' := by
  cases h with
  | tick w b => exact .tick b
  | finish w opened msg op s hs =>
    have hsmall := call_next (m := ⟨w, opened⟩) hs
    exact hsmall
  | enter w opened msg op s frame hs =>
    have hsmall := call_next (m := ⟨w, opened⟩) hs
    exact hsmall
  | leave w opened frame success s hs =>
    cases frame with
    | payout payout =>
      obtain ⟨t, ht, hs⟩ := bind_eq_ok.mp hs
      obtain rfl := pure_eq_ok.mp hs
      obtain ⟨-, ht⟩ := revertIf_bind_eq_ok.mp (mapError_eq_ok.mp ht)
      obtain rfl := pure_eq_ok.mp ht
      exact .paid payout opened rfl
    | funding f payout =>
      obtain ⟨t, ht, hs⟩ := bind_eq_ok.mp hs
      obtain ⟨r, hr, hs⟩ := bind_eq_ok.mp hs
      obtain rfl := pure_eq_ok.mp hs
      obtain ⟨-, ht⟩ := revertIf_bind_eq_ok.mp (mapError_eq_ok.mp ht)
      obtain rfl := pure_eq_ok.mp ht
      obtain ⟨-, rfl⟩ := Participants.afterFunding_ok (mapError_eq_ok.mp hr)
      exact .funded f payout opened rfl

/-- A property of every start that every step preserves holds at every moment. -/
theorem Observable.invariant {I : FundingMoment → Prop} (hstart : ∀ w, Start P d w → I ⟨w, []⟩)
    (hstep : ∀ m m', I m → Small P d m m' → I m') {m : FundingMoment} (h : Observable P d m) :
    I m := by
  obtain ⟨w, hw, hrun⟩ := h
  exact run_invariant (fun v v' _ hv hm ↦ hstep v v' hv (next_small hm)) hrun (hstart w hw)

/-! ## The registry's side -/

/-- The funding that a frame belongs to. -/
def Frame.funding? : Frame → Option Participants.Funding
  | .payout _ => none
  | .funding f _ => some f

/-- The fundings under way. -/
def underWay (opened : List Frame) : List Participants.Funding := opened.filterMap Frame.funding?

theorem underWay_cons_payout (payout : Distributor.Payout) (opened : List Frame) :
    underWay (.payout payout :: opened) = underWay opened := rfl

theorem underWay_cons_funding (f : Participants.Funding) (payout : Distributor.Payout)
    (opened : List Frame) : underWay (.funding f payout :: opened) = f :: underWay opened := rfl

theorem underWay_payout (payout : Option Distributor.Payout) (opened : List Frame) :
    underWay ((payout.map Frame.payout).toList ++ opened) = underWay opened := by
  cases payout <;> rfl

/-- What the registry sees of a moment, its own history left aside. -/
def registrySide (m : FundingMoment) : Participants.RegistryMoment :=
  ⟨⟨m.world.block, m.world.state.registry, []⟩, underWay m.opened⟩

theorem Small.registrySide {m m' : FundingMoment}
    (hm : Participants.InOrder (registrySide m)) (h : Small P d m m') :
    Participants.InOrder (Funding.registrySide m') ∧
      Participants.Preserves m.world.state.registry m'.world.state.registry := by
  cases h with
  | tick => exact ⟨⟨hm.kept, hm.approved⟩, .refl _⟩
  | paid payout opened hopened =>
    refine ⟨⟨hm.kept, fun f hf ↦ hm.approved f ?_⟩, .refl _⟩
    simpa only [Funding.registrySide, hopened, underWay_cons_payout] using hf
  | distributor msg op t payout hsender heff =>
    refine ⟨⟨hm.kept, fun f hf ↦ hm.approved f ?_⟩, .refl _⟩
    simpa only [Funding.registrySide, underWay_payout] using hf
  | registry msg op r heff =>
    obtain ⟨horder, hpreserves⟩ := (Participants.Small.call msg op r none heff).inOrder hm
    exact ⟨⟨horder.kept, horder.approved⟩, hpreserves⟩
  | enter msg f t payout hfunds =>
    obtain ⟨horder, hpreserves⟩ :=
      (Participants.Small.call msg _ _ (some f) (.fund f hfunds)).inOrder hm
    exact ⟨⟨horder.kept, horder.approved⟩, hpreserves⟩
  | fund msg f t hfunds =>
    -- The funding opens and returns at once.
    obtain ⟨hopen, hpreserves⟩ :=
      (Participants.Small.call msg _ _ (some f) (.fund f hfunds)).inOrder hm
    obtain ⟨horder, hpreserves'⟩ := (Participants.Small.funded (P := P) f _ rfl).inOrder hopen
    exact ⟨⟨horder.kept, horder.approved⟩, hpreserves.trans hpreserves'⟩
  | funded f payout opened hopened =>
    have hside : (Funding.registrySide m).opened = f :: underWay opened :=
      congrArg underWay hopened
    obtain ⟨horder, hpreserves⟩ := (Participants.Small.funded (P := P) f _ hside).inOrder hm
    exact ⟨⟨horder.kept, horder.approved⟩, hpreserves⟩

theorem Start.registrySide {w : FundingWorld} (h : Start P d w) :
    Participants.InOrder (Funding.registrySide ⟨w, []⟩) where
  kept := by
    change Participants.WellKept w.state.registry
    rw [h.registry]
    exact Participants.wellKept_initial
  approved _ hf := absurd hf List.not_mem_nil

/-! ## Agreement -/

/-- Only the registry may register participants with the distributor. -/
def SoleRegistrar (P : Primitives) (d : Deployment) (s : System) : Prop :=
  ∀ a, s.distributor.roles (Distributor.REGISTRAR_ROLE P) a = true → a = d.registry.self

/-- The distributor has registered the funded participants, and those whose funding is under way,
with the wallets that the registry has for them. -/
structure AgreesUpTo (s : System) (fundings : List Participants.Funding) : Prop where
  registered_iff : ∀ p, (s.distributor.participants p).wallet ≠ 0 ↔
    (s.registry.participants p).initialFundingCompleted = true ∨
      ∃ f ∈ fundings, f.participantId = p
  wallet_eq : ∀ p, (s.distributor.participants p).wallet ≠ 0 →
    (s.distributor.participants p).wallet = (s.registry.participants p).wallet

theorem AgreesUpTo.of_same {fundings : List Participants.Funding} {t : Distributor.State}
    (h : AgreesUpTo s fundings)
    (hwallet : ∀ p, (t.participants p).wallet = (s.distributor.participants p).wallet) :
    AgreesUpTo { s with distributor := t } fundings where
  registered_iff p := by
    rw [hwallet]
    exact h.registered_iff p
  wallet_eq p hp := by
    rw [hwallet] at hp ⊢
    exact h.wallet_eq p hp

theorem AgreesUpTo.registry {fundings : List Participants.Funding} {sender : Address}
    {op : Participants.Op} {r : Participants.State} (h : AgreesUpTo s fundings)
    (hkept : Participants.WellKept s.registry)
    (heff : Participants.Effect P b sender s.registry op r none) :
    AgreesUpTo { s with registry := r } fundings where
  registered_iff p := by
    rw [heff.funded_eq hkept]
    exact h.registered_iff p
  wallet_eq p hp := by
    have hwallet := h.wallet_eq p hp
    rw [hwallet, (heff.preserves hkept).wallet p (hwallet ▸ hp)]

/-- The registry completes the funding of a participant that is registered. -/
theorem AgreesUpTo.complete {f : Participants.Funding} {fundings : List Participants.Funding}
    {t : Distributor.State} (h : AgreesUpTo { s with distributor := t } (f :: fundings)) :
    AgreesUpTo ⟨s.registry.withFunding f.participantId, t⟩ fundings where
  registered_iff p := by
    rw [h.registered_iff p]
    by_cases hp : p = f.participantId
    · simp [Participants.State.withFunding, hp]
    · simp [Participants.State.withFunding, hp, Ne.symm hp]
  wallet_eq p hp := by
    rw [h.wallet_eq p hp]
    by_cases hp : p = f.participantId <;> simp [Participants.State.withFunding, hp]

/-- The distributor registers a participant for a funding. -/
theorem AgreesUpTo.register {f : Participants.Funding} {fundings : List Participants.Funding}
    {sender : Address} {t : Distributor.State} {payout : Option Distributor.Payout}
    (h : AgreesUpTo s fundings)
    (hwallet : f.wallet = (s.registry.participants f.participantId).wallet)
    (heff : Distributor.Effect P d.distributor b sender s.distributor (registration f) t payout) :
    AgreesUpTo { s with distributor := t } (f :: fundings) := by
  cases heff.registrationChange with
  | same hop => exact absurd rfl (hop _ _ _)
  | registered p₀ wallet operationId hop hregisters hregistered =>
    obtain ⟨rfl, rfl, rfl⟩ := Distributor.Op.registerAndTopUp.inj hop
    constructor
    · intro p
      rw [hregistered]
      by_cases hp : p = f.participantId
      · simp [hp, hregisters.wallet_ne]
      · simpa [hp, Ne.symm hp] using h.registered_iff p
    · intro p hp
      rw [hregistered] at hp ⊢
      by_cases hpp : p = f.participantId
      · simp [hpp, hwallet]
      · rw [if_neg hpp] at hp ⊢
        exact h.wallet_eq p hp

theorem Small.agrees {m m' : FundingMoment} (hside : Participants.InOrder (Funding.registrySide m))
    (hsole : SoleRegistrar P d m.world.state ∨ m'.world.journal = m.world.journal)
    (hm : AgreesUpTo m.world.state (underWay m.opened)) (h : Small P d m m') :
    AgreesUpTo m'.world.state (underWay m'.opened) := by
  cases h with
  | tick => exact hm
  | distributor msg op t payout hsender heff =>
    rw [underWay_payout]
    cases heff.registrationChange with
    | same _ hwallet => exact hm.of_same hwallet
    | registered p wallet operationId _ hregisters =>
      obtain hsole | hjournal := hsole
      · exact absurd (hsole _ hregisters.registrar) hsender
      · exact absurd (congrArg List.length hjournal) (by simp)
  | registry msg op r heff => exact hm.registry hside.kept heff
  | fund msg f t hfunds heff => exact (hm.register hfunds.wallet_eq heff).complete
  | enter msg f t payout hfunds heff =>
    have hregistered := hm.register hfunds.wallet_eq heff
    exact ⟨hregistered.registered_iff, hregistered.wallet_eq⟩
  | paid payout opened hopened =>
    rw [hopened, underWay_cons_payout] at hm
    exact hm.of_same fun _ ↦ rfl
  | funded f payout opened hopened =>
    rw [hopened, underWay_cons_funding] at hm
    exact (hm.of_same (t := { m.world.state.distributor with entered := false }) fun _ ↦ rfl).complete

/-! ## No participant is funded twice -/

/-- The participant that a call funds. -/
def Op.funds : Op → Option Bytes32
  | .registry (.fundInitial participantId _) => some participantId
  | _ => none

/-- The number of fundings of a participant that took effect. -/
def fundings (journal : List FundingEntry) (p : Bytes32) : ℕ :=
  journal.countP fun e ↦ e.op.funds = some p

/-- The wallet of the participant that a call funds. -/
def fundedWallet (e : FundingEntry) : Option Address :=
  e.op.funds.map fun p ↦ (e.before.registry.participants p).wallet

/-- The number of fundings of a wallet that took effect. -/
def walletFundings (journal : List FundingEntry) (a : Address) : ℕ :=
  journal.countP fun e ↦ fundedWallet e = some a

/-- Registered participants and wallets have been funded at most once, others not at all. -/
structure FundedOnce (w : FundingWorld) : Prop where
  participants : ∀ p, fundings w.journal p ≤
    if (w.state.distributor.participants p).wallet = 0 then 0 else 1
  wallets : ∀ a, walletFundings w.journal a ≤
    if w.state.distributor.participantIdByWallet a = 0 then 0 else 1

theorem FundedOnce.of_same {w w' : FundingWorld} (h : FundedOnce w)
    (hjournal : w'.journal = w.journal)
    (hwallet : ∀ p, (w'.state.distributor.participants p).wallet =
      (w.state.distributor.participants p).wallet)
    (hid : w'.state.distributor.participantIdByWallet =
      w.state.distributor.participantIdByWallet) : FundedOnce w' where
  participants p := by
    rw [hjournal, hwallet]
    exact h.participants p
  wallets a := by
    rw [hjournal, hid]
    exact h.wallets a

/-- A call that funds nobody. -/
theorem FundedOnce.skip {w : FundingWorld} (h : FundedOnce w) {e : FundingEntry}
    (hop : e.op.funds = none) : FundedOnce { w with journal := e :: w.journal } where
  participants p := by
    apply le_of_eq_of_le _ (h.participants p)
    apply List.countP_cons_of_neg
    simp [hop]
  wallets a := by
    apply le_of_eq_of_le _ (h.wallets a)
    apply List.countP_cons_of_neg
    simp [fundedWallet, hop]

/-- The distributor forgets nobody. -/
theorem FundedOnce.change {w : FundingWorld} (h : FundedOnce w) {t : Distributor.State}
    {sender : Address} {op : Distributor.Op}
    (hchange : Distributor.RegistrationChange P sender w.state.distributor op t) :
    FundedOnce { w with state := { w.state with distributor := t } } := by
  cases hchange with
  | same _ hwallet hid => exact h.of_same rfl hwallet hid
  | registered p₀ wallet operationId _ hregisters hwallet hid =>
    constructor
    · intro p
      rw [hwallet]
      apply (h.participants p).trans
      by_cases hp : p = p₀
      · simp [hp, hregisters.unregistered]
      · simp [hp]
    · intro a
      rw [hid]
      apply (h.wallets a).trans
      by_cases ha : a = wallet
      · simp [ha, hregisters.wallet_free]
      · simp [ha]

/-- A call that funds a participant, which the distributor did not know before. -/
theorem FundedOnce.fund {w : FundingWorld} (h : FundedOnce w) {e : FundingEntry}
    {f : Participants.Funding} (hop : e.op.funds = some f.participantId)
    (hbefore : e.before = w.state)
    (hf : f.wallet = (w.state.registry.participants f.participantId).wallet)
    {t : Distributor.State} {r : Participants.State} {sender : Address}
    (hchange : Distributor.RegistrationChange P sender w.state.distributor (registration f) t) :
    FundedOnce ⟨w.block, ⟨r, t⟩, e :: w.journal⟩ := by
  cases hchange with
  | same hother => exact absurd rfl (hother _ _ _)
  | registered p₀ wallet operationId hregistration hregisters hwallet hid =>
    obtain ⟨rfl, rfl, rfl⟩ := Distributor.Op.registerAndTopUp.inj hregistration
    constructor
    · intro p
      have hp₀ := h.participants p
      rw [hwallet, fundings, List.countP_cons, ← fundings, hop]
      by_cases hp : p = f.participantId
      · subst hp
        simpa [hregisters.unregistered, hregisters.wallet_ne] using hp₀
      · simpa [hp, Ne.symm hp] using hp₀
    · intro a
      have ha₀ := h.wallets a
      have hentry : fundedWallet e = some f.wallet := by
        rw [fundedWallet, hop, hbefore, hf]
        rfl
      rw [hid, walletFundings, List.countP_cons, ← walletFundings, hentry]
      by_cases ha : a = f.wallet
      · subst ha
        simpa [hregisters.wallet_free, hregisters.participant_ne] using ha₀
      · simpa [ha, Ne.symm ha] using ha₀

theorem registryOp_funds {b : Block} {sender : Address} {s r : Participants.State} {op : Participants.Op}
    (h : Participants.Effect P b sender s op r none) : (Op.registry op).funds = none := by
  cases h with
  | administer op r hop =>
    cases op with
    | access | pause | unpause => rfl
    | _ => cases hop
  | approve | register | setActive => rfl

theorem Small.fundedOnce {m m' : FundingMoment} (hm : FundedOnce m.world) (h : Small P d m m') :
    FundedOnce m'.world := by
  cases h with
  | tick => exact hm.of_same rfl (fun _ ↦ rfl) rfl
  | distributor msg op t payout hsender heff =>
    have hskip := hm.skip (e := ⟨m.world.block, msg, .distributor op, m.world.state,
      payout.map .payout⟩) rfl
    exact hskip.change heff.registrationChange
  | registry msg op r heff =>
    have hop := registryOp_funds heff
    have hskip := hm.skip (e := ⟨m.world.block, msg, .registry op, m.world.state, none⟩) hop
    exact hskip.of_same rfl (fun _ ↦ rfl) rfl
  | fund msg f t hfunds heff =>
    exact hm.fund (f := f) rfl rfl hfunds.wallet_eq heff.registrationChange
  | enter msg f t payout hfunds heff =>
    exact hm.fund (f := f) rfl rfl hfunds.wallet_eq heff.registrationChange
  | paid => exact hm.of_same rfl (fun _ ↦ rfl) rfl
  | funded => exact hm.of_same rfl (fun _ ↦ rfl) rfl

/-! ## All runs -/

theorem Observable.registrySide {m : FundingMoment} (h : Observable P d m) :
    Participants.InOrder (Funding.registrySide m) :=
  h.invariant (I := fun m ↦ Participants.InOrder (Funding.registrySide m))
    (fun _ hstart ↦ hstart.registrySide) fun _ _ hm hs ↦ (hs.registrySide hm).1

theorem Observable.fundedOnce {m : FundingMoment} (h : Observable P d m) : FundedOnce m.world := by
  apply h.invariant (I := fun m ↦ FundedOnce m.world)
  · intro w hstart
    constructor <;> intro x <;>
      simp [fundings, walletFundings, hstart.journal]
  · intro m m' hm hs
    exact hs.fundedOnce hm

theorem Small.journal_cases {m m' : FundingMoment} (h : Small P d m m') :
    m'.world.journal = m.world.journal ∨
      ∃ e, m'.world.journal = e :: m.world.journal ∧ e.before = m.world.state := by
  cases h with
  | tick | paid | funded => exact .inl rfl
  | distributor | registry | fund | enter => exact .inr ⟨_, rfl, rfl⟩

/-- While the registry alone may register, the contracts agree up to the fundings under way. -/
theorem Observable.agrees {m : FundingMoment} (h : Observable P d m)
    (hsole : ∀ e ∈ m.world.journal, SoleRegistrar P d e.before) :
    AgreesUpTo m.world.state (underWay m.opened) := by
  suffices Participants.InOrder (Funding.registrySide m) ∧
      ((∀ e ∈ m.world.journal, SoleRegistrar P d e.before) →
        AgreesUpTo m.world.state (underWay m.opened)) from this.2 hsole
  apply h.invariant (I := fun m ↦ Participants.InOrder (Funding.registrySide m) ∧
    ((∀ e ∈ m.world.journal, SoleRegistrar P d e.before) →
      AgreesUpTo m.world.state (underWay m.opened)))
  · intro w hstart
    refine ⟨hstart.registrySide, fun _ ↦ ⟨fun p ↦ ?_, fun p hp ↦ ?_⟩⟩
    · refine iff_of_false (not_not.mpr (hstart.unregistered p)) ?_
      rw [hstart.registry]
      simp [Participants.initialState, Participants.Participant.blank, underWay]
    · exact absurd (hstart.unregistered p) hp
  · intro m m' hm hs
    refine ⟨(hs.registrySide hm.1).1, fun hsole' ↦ ?_⟩
    obtain hsame | ⟨e, hcons, hbefore⟩ := hs.journal_cases
    · exact hs.agrees hm.1 (.inr hsame) (hm.2 (hsame ▸ hsole'))
    · rw [hcons, List.forall_mem_cons, hbefore] at hsole'
      exact hs.agrees hm.1 (.inl hsole'.1) (hm.2 hsole'.2)

/-! ## Refusals -/

/-- Reasons for which no initial funding of a participant is possible. The distributor looks at its
budget and at the operation id when the wallet holds less than the initial target. -/
inductive Refusal (b : Block) (s : System) (participantId operationId : Bytes32) : Prop
  | registryPaused (h : s.registry.paused = true)
  | distributorPaused (h : s.distributor.paused = true)
  | operationUsed
      (hpoor : s.distributor.balances (s.registry.participants participantId).wallet <
        Distributor.INITIAL_TARGET_BALANCE)
      (h : s.distributor.usedOperationIds operationId = true)
  | budgetExhausted
      (hpoor : s.distributor.balances (s.registry.participants participantId).wallet <
        Distributor.INITIAL_TARGET_BALANCE)
      (h : Distributor.DAILY_GLOBAL_BUDGET <
        s.distributor.distributedByDay (Distributor.day b.timestamp) +
          (Distributor.INITIAL_TARGET_BALANCE -
            s.distributor.balances (s.registry.participants participantId).wallet))

theorem Refusal.call_ne_ok {participantId operationId : Bytes32}
    (h : Refusal b s participantId operationId) (msg : Msg) (o : Outcome System Frame) :
    call P d b msg (.registry (.fundInitial participantId operationId)) s ≠ .ok o := by
  intro hcall
  obtain ⟨-, hcall⟩ := revertIf_bind_eq_ok.mp hcall
  obtain ⟨o', ho', hcall⟩ := bind_eq_ok.mp hcall
  obtain ⟨-, ho'⟩ := revertIf_bind_eq_ok.mp (mapError_eq_ok.mp ho')
  obtain ⟨-, ho'⟩ := revertIf_bind_eq_ok.mp ho'
  obtain ⟨f, rfl, rfl, hfunds, rfl⟩ := Participants.fundInitial_ok ho'
  obtain ⟨o'', ho'', -⟩ := bind_eq_ok.mp hcall
  obtain ⟨-, ho''⟩ := revertIf_bind_eq_ok.mp (mapError_eq_ok.mp ho'')
  obtain ⟨-, ho''⟩ := revertIf_bind_eq_ok.mp ho''
  obtain ⟨hregisters, hbranch⟩ := Distributor.registerAndTopUp_ok ho''
  rw [hfunds.wallet_eq] at hregisters hbranch
  -- A wallet below the target is topped up, which looks at the id and the budget.
  have htops : s.distributor.balances (s.registry.participants f.participantId).wallet <
        Distributor.INITIAL_TARGET_BALANCE →
      ∃ amount cumulative distributed, Distributor.TopsUp d.distributor b f.participantId
        (s.registry.participants f.participantId).wallet Distributor.INITIAL_TARGET_BALANCE
        f.operationId false (s.distributor.withParticipant b f.participantId
          (s.registry.participants f.participantId).wallet) amount cumulative distributed := by
    intro hpoor
    obtain ⟨hrich, -⟩ | ⟨amount, cumulative, distributed, htops, -⟩ := hbranch
    · exact absurd hpoor (not_lt.mpr hrich)
    · exact ⟨amount, cumulative, distributed, htops⟩
  cases h with
  | registryPaused h => exact absurd (hfunds.not_paused.symm.trans h) Bool.false_ne_true
  | distributorPaused h => exact absurd (hregisters.not_paused.symm.trans h) Bool.false_ne_true
  | operationUsed hpoor h =>
    obtain ⟨amount, cumulative, distributed, htops⟩ := htops hpoor
    exact absurd (htops.operation_fresh.symm.trans h) Bool.false_ne_true
  | budgetExhausted hpoor h =>
    obtain ⟨amount, cumulative, distributed, htops⟩ := htops hpoor
    have hamount := htops.amount_eq
    have hwithin := htops.within_day
    simp only [Distributor.State.withParticipant, Function.update_self, Fin.val_zero,
      Distributor.INITIAL_TARGET_BALANCE, Distributor.MAX_PER_DISTRIBUTION,
      Distributor.LIFETIME_CAP_PER_PARTICIPANT] at hamount hwithin h hpoor
    omega

/-- A call whose payment is not accepted reverts. -/
theorem resume_ne_ok {frame : Frame} (s' : System) : resume false s frame ≠ .ok s' := by
  cases frame with
  | payout payout => simp [resume, Distributor.afterPayout, revertIf, bind, Except.bind,
      Except.mapError]
  | funding f payout => simp [resume, Distributor.afterPayout, revertIf, bind, Except.bind,
      Except.mapError]

/-- Between transactions of a run in which only the registry has been registrar, the funded
participants are the registered ones, with one wallet; in every run no participant and no wallet has
been funded twice; and an initial funding that is refused by either contract or by the wallet
reverts and leaves both contracts as they were. -/
theorem registry_and_distributor_agree {w : FundingWorld} (h : Reachable P d w) :
    ((∀ e ∈ w.journal, SoleRegistrar P d e.before) → ∀ p,
      ((w.state.registry.participants p).initialFundingCompleted = true ↔
        (w.state.distributor.participants p).wallet ≠ 0) ∧
      ((w.state.distributor.participants p).wallet ≠ 0 →
        (w.state.distributor.participants p).wallet = (w.state.registry.participants p).wallet)) ∧
    (∀ p, fundings w.journal p ≤ 1) ∧ (∀ a, walletFundings w.journal a ≤ 1) ∧
    (∀ (v : FundingWorld) msg participantId operationId inner success,
      (Refusal v.block v.state participantId operationId ∨ success = false ∧
        ∃ s frame, (contract P d).call v.block msg
          (.registry (.fundInitial participantId operationId)) v.state = .ok (.callout s frame)) →
      ∃ e, (contract P d).attempt msg (.registry (.fundInitial participantId operationId)) inner
        success v = .error e) ∧
    ∀ (v : FundingWorld) msg participantId operationId inner success e,
      (contract P d).attempt msg (.registry (.fundInitial participantId operationId)) inner success
        v = .error e →
      (∀ rest, (contract P d).runCalls (.cons msg
          (.registry (.fundInitial participantId operationId)) inner success rest) v =
        (contract P d).runCalls rest v) ∧
      (contract P d).transact ⟨v.block, msg, .registry (.fundInitial participantId operationId),
        inner, success⟩ v = v := by
  have honce := h.observable.fundedOnce
  refine ⟨fun hsole p ↦ ?_, fun p ↦ (honce.participants p).trans ?_,
    fun a ↦ (honce.wallets a).trans ?_, ?_, ?_⟩
  · have hagrees := h.observable.agrees hsole
    exact ⟨by simpa [underWay] using (hagrees.registered_iff p).symm, hagrees.wallet_eq p⟩
  · split <;> decide
  · split <;> decide
  · rintro v msg participantId operationId inner success (hrefusal | ⟨rfl, s, frame, hcall⟩)
    · exact Contract.attempt_error_of_call (hrefusal.call_ne_ok msg)
    · exact Contract.attempt_error_of_resume hcall fun _ _ _ ↦ resume_ne_ok _
  · intro v msg participantId operationId inner success e he
    exact ⟨fun rest ↦ Contract.runCalls_cons_of_error he, Contract.transact_of_error he⟩

/-! ## A small run

A participant is approved and funded; while the coins arrive its wallet registers a role and asks
for another funding. -/

namespace Sample

open Participants.Sample (primitives operator wallet)

def deployment : Deployment where
  registry := Participants.Sample.deployment
  distributor :=
    { self := 0x1000
      admin := 1
      registrar := 0x2000
      distributor := 1
      admin_ne := by decide
      registrar_ne := by decide
      distributor_ne := by decide }
  bound := rfl
  self_ne := by decide

/-- The distributor starts with two coins. -/
def supply (a : Address) : ℕ := if a = 0x1000 then 2 * 10 ^ 18 else 0

def start : FundingWorld where
  block := ⟨900, 80002⟩
  state := ⟨Participants.initialState primitives deployment.registry,
    Distributor.initialState primitives deployment.distributor supply⟩
  journal := []

def tx (timestamp : ℕ) (sender : Address) (op : Participants.Op) : FundingTx :=
  { block := ⟨timestamp, 80002⟩, msg := ⟨sender, 0⟩, op := .registry op }

def history : List FundingTx :=
  [tx 1000 operator (.approveClaimedInvitation 11 wallet Participants.ALL_ROLES 5000),
   { tx 1010 operator (.fundInitial 11 21) with
     inner := .cons ⟨wallet, 0⟩ (.registry (.registerSelf Participants.USER_ROLE 31)) .nil true
       (.cons ⟨operator, 0⟩ (.registry (.fundInitial 11 22)) .nil true .nil) }]

def funded : FundingWorld := (contract primitives deployment).run history start

theorem reachable_funded : Reachable primitives deployment funded :=
  ⟨start, ⟨rfl, fun _ ↦ rfl, rfl⟩, Contract.reaches_run (by decide)⟩

theorem sole_funded : ∀ e ∈ funded.journal, SoleRegistrar primitives deployment e.before := by
  have hroles : ∀ e ∈ funded.journal,
      e.before.distributor.roles = start.state.distributor.roles := by
    have hmap : funded.journal.map (fun e ↦ e.before.distributor.roles) =
        List.replicate 3 start.state.distributor.roles := rfl
    intro e he
    exact List.eq_of_mem_replicate (hmap ▸ List.mem_map_of_mem he)
  have hpauser : Distributor.REGISTRAR_ROLE primitives ≠ Distributor.PAUSER_ROLE primitives := by
    decide +kernel
  have hdistributor : Distributor.REGISTRAR_ROLE primitives ≠
      Distributor.DISTRIBUTOR_ROLE primitives := by
    decide +kernel
  have hadmin : Distributor.REGISTRAR_ROLE primitives ≠ Roles.DEFAULT_ADMIN_ROLE := by
    decide +kernel
  intro e he a ha
  rw [hroles e he] at ha
  simp only [start, Distributor.initialState, Roles.grant, update₂_apply, Roles.empty, hpauser,
    hdistributor, hadmin, false_and, true_and, if_false] at ha
  exact (ite_eq_iff.mp ha).elim (fun h ↦ h.1) fun h ↦ absurd h.2 Bool.false_ne_true

end Sample

/-- The sample's participant is funded once and registered with its wallet. -/
theorem registry_and_distributor_agree_sample :
    (Sample.funded.state.distributor.participants 11).wallet = Participants.Sample.wallet ∧
      (Sample.funded.state.registry.participants 11).initialFundingCompleted = true ∧
      fundings Sample.funded.journal 11 = 1 := by
  have hagree := (registry_and_distributor_agree Sample.reachable_funded).1 Sample.sole_funded 11
  have hregistered : (Sample.funded.state.distributor.participants 11).wallet ≠ 0 := by
    decide +kernel
  refine ⟨(hagree.2 hregistered).trans ?_, hagree.1.mpr hregistered, ?_⟩
  · decide +kernel
  · decide +kernel

end CreatorFirst.Funding
