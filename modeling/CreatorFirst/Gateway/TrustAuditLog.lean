import CreatorFirst.Gateway.AccountTrustEffects
import CreatorFirst.Gateway.ServerEffects

/-!
# The audit log of account trust

Each transition writes the transaction, the row and the log. A request that waits for a verifier does
not look at the state again when it goes on, so the three agree as long as every such request still finds
the state it has checked, the row of every transaction was written, and the index of the active bindings
refuses no transition.
-/

namespace CreatorFirst.Gateway

open Database Process

namespace AccountTrust

/-- The states of the procedure in their order. -/
def procedure : List BindingState :=
  [.created, .jpkiAsserted, .passkeyRegistered, .walletBound, .active]

/-- The events of a binding that has come to this state. -/
def BindingState.upTo (state : BindingState) : List BindingState := procedure.take (state.rank + 1)

theorem upTo_prefix (state : BindingState) : state.upTo <+: procedure := List.take_prefix _ _

theorem nodup_upTo (state : BindingState) : state.upTo.Nodup :=
  (List.take_sublist _ _).nodup (by decide)

theorem getLast?_upTo (state : BindingState) : state.upTo.getLast? = some state := by
  cases state <;> rfl

/-- The log of a binding runs through the procedure, and its last event is the state in memory and in the
table; without a transaction there is neither row nor event. -/
structure State.LogAgrees (t : State) (bindingId : String) : Prop where
  isPrefix : t.events bindingId <+: procedure
  nodup : (t.events bindingId).Nodup
  inMemory : (t.transactions.find? bindingId).map (·.state) = (t.events bindingId).getLast?
  stored : (t.bindings.find? bindingId).map (·.state) = (t.events bindingId).getLast?

/-- No transaction has gone or moved backwards. -/
def Forward (t t' : State) : Prop :=
  ∀ bindingId transaction, t.transactions.find? bindingId = some transaction →
    ∃ next, t'.transactions.find? bindingId = some next ∧ transaction.state.rank ≤ next.state.rank

section View

/-- The state of a binding in memory, in the table and in the log. -/
def State.view (t : State) (bindingId : String) :
    Option BindingState × Option BindingState × List BindingState :=
  ((t.transactions.find? bindingId).map (·.state), (t.bindings.find? bindingId).map (·.state),
    t.events bindingId)

/-- The three agree. -/
def Agree (view : Option BindingState × Option BindingState × List BindingState) : Prop :=
  view = (none, none, []) ∨ ∃ state : BindingState, view = (some state, some state, state.upTo)

theorem Agree.logAgrees {t : State} {bindingId : String} (h : Agree (t.view bindingId)) :
    t.LogAgrees bindingId := by
  obtain h | ⟨state, h⟩ := h
  · obtain ⟨hmemory, htable, hlog⟩ := Prod.mk.inj h |>.imp_right Prod.mk.inj
    exact ⟨by simp [hlog], by simp [hlog], by simp [hmemory, hlog], by simp [htable, hlog]⟩
  · obtain ⟨hmemory, htable, hlog⟩ := Prod.mk.inj h |>.imp_right Prod.mk.inj
    constructor
    · exact hlog ▸ upTo_prefix state
    · exact hlog ▸ nodup_upTo state
    · rw [hmemory, hlog, getLast?_upTo]
    · rw [htable, hlog, getLast?_upTo]

variable {t : State}

theorem view_updateTransaction {k : String} {f : Table.Rewrite Transaction.bindingId}
    (hf : ∀ transaction, (f.apply transaction).state = transaction.state) (bindingId : String) :
    (t.updateTransaction k f).view bindingId = t.view bindingId := by
  have hstate : ((t.updateTransaction k f).transactions.find? bindingId).map (·.state) =
      (t.transactions.find? bindingId).map (·.state) := by
    rw [State.updateTransaction, Table.find?_update, Option.map_map]
    refine congrArg (Option.map · _) (funext fun transaction ↦ ?_)
    simp only [Function.comp_apply]
    split
    · exact hf transaction
    · rfl
  simp only [State.view, hstate]
  rfl

theorem view_moved {now : Date} {transaction : Transaction} {state : BindingState} {detail : Detail}
    (bindingId : String) :
    (t.moved now transaction state detail).view bindingId =
      if bindingId = transaction.bindingId then
        ((t.view bindingId).1.map fun _ ↦ state, (t.view bindingId).2.1.map fun _ ↦ state,
          (t.view bindingId).2.2 ++ [state])
      else t.view bindingId := by
  split
  · next h =>
    subst h
    simp [State.view, State.moved, State.updateTransaction, Table.find?_update, State.events,
      Function.comp_def, Transaction.enter, Binding.enter]
  · next h =>
    simp [State.view, State.moved, State.updateTransaction, Table.find?_update, State.events, h,
      Ne.symm h]

theorem view_of_found {transaction : Transaction}
    (hfound : t.transactions.find? transaction.bindingId = some transaction)
    (h : Agree (t.view transaction.bindingId)) :
    t.view transaction.bindingId =
      (some transaction.state, some transaction.state, transaction.state.upTo) := by
  obtain h | ⟨state, h⟩ := h
  · simp [State.view, hfound] at h
  · have hstate : transaction.state = state := by
      have hmemory := congrArg Prod.fst h
      simpa [State.view, hfound] using hmemory
    rw [h, hstate]

end View

section Step

variable (lib : Library) (config : ServerConfig) (now : Date) (profile : Profile) (t : State)

/-- The part of a handler finds what the handler has checked: a new binding has an expiry that can be
stored, a verified passkey finds its transaction in `JPKI_ASSERTED`, and a verified wallet finds it in
`PASSKEY_REGISTERED`, while the owner has no other active binding. -/
def InOrder : Action → Prop
  | .begin accountId _ =>
    t.mayBegin now accountId profile = .ok () → now.ms + config.trustBindingTtlMs ≤ maxTime
  | .registrationVerified accountId i (.verified info) =>
    ∀ transaction ∈ t.heldRegistration accountId i, t.credentials.find? info.credentialId = none →
      transaction.state = .jpkiAsserted
  | .walletRecovered accountId i =>
    ∀ held ∈ t.heldWallet accountId i, walletSigned lib held.intent held.signature = .ok () →
      held.transaction.state = .passkeyRegistered ∧ ¬t.OtherActive held.transaction.bindingId
  | _ => True

instance (a : Action) : Decidable (InOrder lib config now profile t a) :=
  match a with
  | .begin .. | .registrationVerified _ _ (.verified _) | .walletRecovered .. => by
    unfold InOrder
    infer_instance
  | .registrationVerified _ _ .threw | .registrationVerified _ _ .rejected | .assertMockJpki ..
  | .registrationOptions .. | .registrationChallenge .. | .verifyRegistration .. | .authenticationOptions _
  | .authenticationChallenge .. | .verifyAuthentication .. | .authenticationVerified ..
  | .walletOptions .. | .verifyWallet .. =>
    .isTrue trivial

variable {lib config now profile t}

theorem heldRegistration_found {accountId : AccountId} {i : ℕ} {transaction : Transaction}
    (h : t.heldRegistration accountId i = some transaction) :
    t.transactions.find? transaction.bindingId = some transaction := by
  rw [State.heldRegistration] at h
  split at h
  · rwa [(Table.find?_eq_some.mp h).2]
  · cases h

theorem heldWallet_found {accountId : AccountId} {i : ℕ} {held : HeldWallet}
    (h : t.heldWallet accountId i = some held) :
    t.transactions.find? held.transaction.bindingId = some held.transaction ∧
      held.transaction.walletIntents[held.index]? = some held.intent ∧
      (t.requests accountId)[i]? =
        some (.verifyWallet held.transaction.bindingId held.index held.signature) := by
  rw [State.heldWallet] at h
  split at h
  · next bindingId index signature hrequest =>
    simp only [Option.bind_eq_bind, Option.bind_eq_some_iff, Option.pure_def, Option.some.injEq] at h
    obtain ⟨transaction, hfound, intent, hintent, rfl⟩ := h
    obtain rfl := (Table.find?_eq_some.mp hfound).2
    exact ⟨hfound, hintent, hrequest⟩
  · cases h

theorem mayAssertMockJpki_found {accountId : AccountId} {bindingId : String} {body : Option JpkiBody}
    {transaction : Transaction} (h : t.mayAssertMockJpki now accountId bindingId body = .ok transaction) :
    t.transactions.find? transaction.bindingId = some transaction ∧
      transaction.bindingId = bindingId ∧ transaction.state = .created := by
  simp only [State.mayAssertMockJpki, State.transaction, bind_eq_ok, requireSome_eq_ok,
    requireValue_eq_ok, pure_eq_ok, Option.filter_eq_some_iff] at h
  obtain ⟨_, ⟨_, ⟨hfound, -⟩, -, -, -, hstate, rfl⟩, -, -, -, -, -, -, -, -, rfl⟩ := h
  obtain rfl := (Table.find?_eq_some.mp hfound).2
  exact ⟨hfound, rfl, hstate⟩

/-- The next state of the procedure, logged after the one before. -/
theorem agree_next {transaction : Transaction} {state : BindingState} {detail : Detail} {s : State}
    (hview : s.view transaction.bindingId =
      (some transaction.state, some transaction.state, transaction.state.upTo))
    (hnext : transaction.state.upTo ++ [state] = state.upTo) :
    (s.moved now transaction state detail).view transaction.bindingId =
      (some state, some state, state.upTo) := by
  rw [view_moved, if_pos rfl, hview]
  simp [hnext]

/-- What a step makes of one binding. -/
structure Advances (view view' : Option BindingState × Option BindingState × List BindingState) :
    Prop where
  agree : Agree view'
  forward : ∀ state ∈ view.1, ∃ next ∈ view'.1, state.rank ≤ next.rank

theorem Agree.same {view : Option BindingState × Option BindingState × List BindingState}
    (h : Agree view) : Advances view view :=
  ⟨h, fun state hstate ↦ ⟨state, hstate, le_rfl⟩⟩

/-- A transition from the state before it in the procedure. -/
theorem advances_moved {s : State} {transaction : Transaction} {state : BindingState} {detail : Detail}
    (hsame : ∀ bindingId, s.view bindingId = t.view bindingId)
    (hfound : t.transactions.find? transaction.bindingId = some transaction)
    (hnext : transaction.state.upTo ++ [state] = state.upTo)
    (hrank : transaction.state.rank ≤ state.rank) (h : ∀ bindingId, Agree (t.view bindingId))
    (bindingId : String) :
    Advances (t.view bindingId) ((s.moved now transaction state detail).view bindingId) := by
  by_cases hid : bindingId = transaction.bindingId
  · subst hid
    have hview := view_of_found hfound (h transaction.bindingId)
    rw [agree_next ((hsame _).trans hview) hnext, hview]
    refine ⟨.inr ⟨state, rfl⟩, fun st hst ↦ ⟨state, rfl, ?_⟩⟩
    obtain rfl : transaction.state = st := by simpa using hst
    exact hrank
  · rw [view_moved, if_neg hid, hsame]
    exact (h bindingId).same

theorem advances_begun {accountId : AccountId} {draws : BeginDraws} {expiresAt : Date}
    {bindings : Table Binding.bindingId} (hfree : t.transactions.find? draws.bindingId = none)
    (hinsert : t.bindings.insert (newBinding now accountId draws expiresAt) = some bindings)
    (h : ∀ bindingId, Agree (t.view bindingId)) (bindingId : String) :
    Advances (t.view bindingId)
      (State.view { t with
        transactions := t.transactions.set (newTransaction config now accountId draws)
        bindings
        audit := t.audit ++
          [{ bindingId := draws.bindingId, ownerId := accountId, eventType := .created
             occurredAt := now }] } bindingId) := by
  have htransaction : (t.transactions.set (newTransaction config now accountId draws)).find? bindingId =
      if draws.bindingId = bindingId then some (newTransaction config now accountId draws)
      else t.transactions.find? bindingId := Table.find?_set bindingId
  have hrow : bindings.find? bindingId =
      if draws.bindingId = bindingId then some (newBinding now accountId draws expiresAt)
      else t.bindings.find? bindingId := Table.find?_insert hinsert bindingId
  by_cases hid : draws.bindingId = bindingId
  · subst hid
    have hnone : t.view draws.bindingId = (none, none, []) := by
      obtain hnone | ⟨state, hsome⟩ := h draws.bindingId
      · exact hnone
      · simp [State.view, hfree] at hsome
    have hevents : t.events draws.bindingId = [] := congrArg (·.2.2) hnone
    rw [hnone]
    refine ⟨.inr ⟨.created, ?_⟩, by simp⟩
    rw [if_pos rfl] at htransaction hrow
    simp only [State.events, List.map_eq_nil_iff] at hevents
    have hmemory : (newTransaction config now accountId draws).state = .created := rfl
    have hstored : (newBinding now accountId draws expiresAt).state = .created := rfl
    simp [State.view, htransaction, hrow, State.events, hevents, hmemory, hstored, BindingState.upTo,
      procedure, BindingState.rank]
  · rw [if_neg hid] at htransaction hrow
    have hsame : State.view { t with
        transactions := t.transactions.set (newTransaction config now accountId draws)
        bindings
        audit := t.audit ++
          [{ bindingId := draws.bindingId, ownerId := accountId, eventType := .created
             occurredAt := now }] } bindingId = t.view bindingId := by
      simp [State.view, htransaction, hrow, State.events, hid]
    rw [hsame]
    exact (h bindingId).same

/-- A step whose request still finds what it has checked advances every binding. -/
theorem advances_step {a : Action} {profile' : Profile} {t' : State}
    (heffect : Effect lib config now profile t a profile' t')
    (hfresh : ∀ accountId draws, a = .begin accountId draws →
      t.transactions.find? draws.bindingId = none ∧ t.bindings.find? draws.bindingId = none)
    (horder : InOrder lib config now profile t a) (h : ∀ bindingId, Agree (t.view bindingId))
    (bindingId : String) : Advances (t.view bindingId) (t'.view bindingId) := by
  cases heffect with
  | same | finished | waiting | verifying | authenticationChallenge | authenticating | authenticated =>
    exact (h bindingId).same
  | unwritten accountId draws hmay hfailed =>
    obtain hlate | htaken := hfailed
    · exact absurd (horder hmay) (not_le.mpr hlate)
    · exact absurd (hfresh accountId draws rfl).2 htaken
  | begun accountId draws expiresAt bindings hmay hexpires hinsert =>
    exact advances_begun (hfresh accountId draws rfl).1 hinsert h bindingId
  | asserted accountId k body transaction hmay =>
    obtain ⟨hfound, rfl, hstate⟩ := mayAssertMockJpki_found hmay
    exact advances_moved (view_updateTransaction fun _ ↦ rfl) hfound (by rw [hstate]; rfl)
      (by rw [hstate]; decide) h bindingId
  | challenged accountId i k challenge =>
    rw [view_updateTransaction fun _ ↦ rfl]
    exact (h bindingId).same
  | registered accountId i transaction info credentials hheld hinsert =>
    have hstate := horder transaction hheld (Table.insert_eq_some.mp hinsert).1
    exact advances_moved (view_updateTransaction fun _ ↦ rfl) (heldRegistration_found hheld)
      (by rw [hstate]; rfl) (by rw [hstate]; decide) h bindingId
  | intended accountId k body bindingNonce intent =>
    rw [view_updateTransaction fun _ ↦ rfl]
    exact (h bindingId).same
  | bound accountId i held hheld hsigned hother =>
    obtain ⟨hstate, -⟩ := horder held hheld hsigned
    have hused : ∀ bindingId, ((t.finish accountId i).updateTransaction held.transaction.bindingId
        (Transaction.useWalletIntent held.index)).view bindingId = t.view bindingId :=
      view_updateTransaction fun _ ↦ rfl
    by_cases hid : bindingId = held.transaction.bindingId
    · subst hid
      have hview := view_of_found (heldWallet_found hheld).1 (h held.transaction.bindingId)
      rw [view_moved, if_pos rfl, State.walletBound,
        agree_next ((hused _).trans hview) (by rw [hstate]; rfl), hview, hstate]
      exact ⟨.inr ⟨.active, rfl⟩, by simp [BindingState.rank]⟩
    · rw [view_moved, if_neg hid, State.walletBound, view_moved, if_neg hid, hused]
      exact (h bindingId).same
  | unbound accountId i held hheld hsigned hother =>
    exact absurd hother (horder held hheld hsigned).2

theorem forward_of_advances {t' : State}
    (h : ∀ bindingId, Advances (t.view bindingId) (t'.view bindingId)) : Forward t t' := by
  intro bindingId transaction hfound
  have hmem : transaction.state ∈ (t.view bindingId).1 := by simp [State.view, hfound]
  obtain ⟨state, hstate, hrank⟩ := (h bindingId).forward transaction.state hmem
  obtain ⟨next, hnext, rfl⟩ := Option.map_eq_some_iff.mp hstate
  exact ⟨next, hnext, hrank⟩

end Step

end AccountTrust

namespace Server

variable (lib : Library) (config : ServerConfig)

/-- The request to account trust finds what it has checked. -/
def InOrder (s : State) : Action → Prop
  | .trust action =>
    AccountTrust.InOrder lib config s.clock (s.accounts action.accountId) s.trust action
  | _ => True

theorem advances_server {s : State} {a : Action} (hfresh : Fresh s a) (horder : InOrder lib config s a)
    (h : ∀ bindingId, AccountTrust.Agree (s.trust.view bindingId)) (bindingId : String) :
    AccountTrust.Advances (s.trust.view bindingId) ((step lib config s a).trust.view bindingId) := by
  by_cases htrust : ∃ action, a = .trust action
  · obtain ⟨action, rfl⟩ := htrust
    refine AccountTrust.advances_step (AccountTrust.serve_effect lib config s.clock _ s.trust action) ?_
      horder h bindingId
    rintro accountId draws rfl
    exact hfresh
  · rw [step_trust_of_ne fun action h ↦ htrust ⟨action, h⟩]
    exact (h bindingId).same

/-- In every run whose requests find what they have checked, the log, the table and the memory agree on
every binding at every moment, and no step takes a binding backwards. -/
theorem trust_audit_log (clock : Date) (actions : List Action)
    (hfresh : EachStep (step lib config) Fresh (start clock) actions)
    (horder : EachStep (step lib config) (InOrder lib config) (start clock) actions) :
    AtEachMoment (step lib config) (fun s ↦ ∀ bindingId, s.trust.LogAgrees bindingId) (start clock)
        actions ∧
      EachStep (step lib config) (fun s a ↦ AccountTrust.Forward s.trust (step lib config s a).trust)
        (start clock) actions := by
  have hboth : EachStep (step lib config) (fun s a ↦ Fresh s a ∧ InOrder lib config s a) (start clock)
      actions := hfresh.and horder
  have hagree : AtEachMoment (step lib config)
      (fun s ↦ ∀ bindingId, AccountTrust.Agree (s.trust.view bindingId)) (start clock) actions :=
    hboth.keeps (fun s a hstep h bindingId ↦ (advances_server lib config hstep.1 hstep.2 h bindingId).agree)
      fun bindingId ↦ .inl rfl
  refine ⟨fun past hpast bindingId ↦ (hagree past hpast bindingId).logAgrees, ?_⟩
  refine eachStep_iff.mpr fun past a hpast ↦ AccountTrust.forward_of_advances fun bindingId ↦ ?_
  have hstep := eachStep_iff.mp hboth past a hpast
  exact advances_server lib config hstep.1 hstep.2 (hagree past ((List.prefix_append past [a]).trans hpast))
    bindingId

instance (s : State) (a : Action) : Decidable (InOrder lib config s a) :=
  match a with
  | .trust action =>
    inferInstanceAs (Decidable
      (AccountTrust.InOrder lib config s.clock (s.accounts action.accountId) s.trust action))
  | .wait _ | .registerDemoUser .. | .createChallenge .. | .verifyChallenge .. | .messageRecovered ..
  | .createSupportIntent .. | .supportBody .. | .submitSupport .. | .supportSignature ..
  | .supportRegistration .. | .createPlayback .. | .deliverStream .. | .opened .. | .data .. | .record ..
  | .closeSession .. | .participation _ => .isTrue trivial

namespace Sample

def beginDraws : AccountTrust.BeginDraws where
  bindingId := "3f1d2c84-9a44-4a0e-9b7e-6f0f3f1f5a01"
  csrfToken := "7kq1kq0sV8m4Vh2cQwB3r9XzL5pYt6Nd"
  jpkiChallenge := "pX2v9LqR4sT7uW1yZ3aB5cD8"
  accountSubjectCommitment := "0x6a19f0fb4be54511524bcd5b0c98b38da1ee049a39735c39311e10336024436f"

def jpkiBody : AccountTrust.JpkiBody where
  csrfToken := some beginDraws.csrfToken
  challenge := some beginDraws.jpkiChallenge
  acknowledgedTestOnly := true
  consentToBinding := true

def passkey (credentialId : String) : AccountTrust.RegistrationInfo where
  credentialId := credentialId
  publicKey := "pQECAyYgASFYIA"
  counter := 0
  transports := ["internal"]
  deviceType := "singleDevice"
  backedUp := false

def walletBody : AccountTrust.WalletBody where
  csrfToken := some beginDraws.csrfToken
  walletAddress := some firstWallet
  chainId := some 80002

def bindingNonce : String := "0xec3a2d746aee7e399b5a63366d6a6cee23375edcc0ddc18e6033d39945e4bec8"

/-- A binding up to the moment when its passkey is verified. -/
def registration : List Action := [
  .registerDemoUser listener ⟨"f0b2a2f1-4f51-4c42-9f0e-8d2b6a4e7c55", "Listener"⟩,
  .trust (.begin listener beginDraws),
  .trust (.assertMockJpki listener beginDraws.bindingId (some jpkiBody)),
  .trust (.registrationOptions listener beginDraws.bindingId (some (some beginDraws.csrfToken))),
  .trust (.registrationChallenge listener 0 (some "Zm9vYmFyLXJlZ2lzdHJhdGlvbg")),
  .trust (.verifyRegistration listener beginDraws.bindingId (some (some beginDraws.csrfToken)))]

/-- The rest of the procedure, until the signature of the wallet is recovered. -/
def bindWallet : List Action := [
  .trust (.registrationVerified listener 1 (.verified (passkey "AYbX0nE6p2q5"))),
  .trust (.walletOptions listener beginDraws.bindingId (some walletBody) bindingNonce),
  .trust (.verifyWallet listener beginDraws.bindingId
    (some ⟨some beginDraws.csrfToken, some firstBindingSignature⟩))]

/-- The passkey form is sent twice before the first answer of the verifier. -/
def registeredTwice : List Action := registration ++ [
  .trust (.verifyRegistration listener beginDraws.bindingId (some (some beginDraws.csrfToken))),
  .trust (.registrationVerified listener 1 (.verified (passkey "AYbX0nE6p2q5"))),
  .trust (.registrationVerified listener 2 (.verified (passkey "Bm7Qd1sK9w3t")))]

end Sample

/-- A binding that goes through the whole procedure. -/
theorem trust_audit_log_bound :
    AtEachMoment (step Sample.library Sample.config) (fun s ↦ ∀ bindingId, s.trust.LogAgrees bindingId)
        (start Sample.clock)
        (Sample.registration ++ Sample.bindWallet ++ [.trust (.walletRecovered Sample.listener 2)]) ∧
      EachStep (step Sample.library Sample.config)
        (fun s a ↦ AccountTrust.Forward s.trust (step Sample.library Sample.config s a).trust)
        (start Sample.clock)
        (Sample.registration ++ Sample.bindWallet ++ [.trust (.walletRecovered Sample.listener 2)]) :=
  trust_audit_log Sample.library Sample.config Sample.clock _ (by decide +kernel) (by decide +kernel)

/-- Both passkeys are recorded as registered, so the log repeats itself. -/
theorem trust_audit_log_repeats :
    ¬AtEachMoment (step Sample.library Sample.config) (fun s ↦ ∀ bindingId, s.trust.LogAgrees bindingId)
        (start Sample.clock) Sample.registeredTwice := by
  intro h
  have hevents : (run (step Sample.library Sample.config) (start Sample.clock)
      Sample.registeredTwice).trust.events Sample.beginDraws.bindingId =
        [.created, .jpkiAsserted, .passkeyRegistered, .passkeyRegistered] := by decide +kernel
  have hnodup := (h.last Sample.beginDraws.bindingId).nodup
  rw [hevents] at hnodup
  exact absurd hnodup (by decide)

end Server

end CreatorFirst.Gateway
