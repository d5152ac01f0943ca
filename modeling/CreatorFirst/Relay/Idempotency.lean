import CreatorFirst.Process.Run
import CreatorFirst.Relay.Governance
import CreatorFirst.Relay.Supporter

/-!
# What the idempotency keys of a relayer guarantee

While an entry is retained, calls under its key join its operation or are rejected. The handler of a
failed operation takes away what is under its key, which after an eviction can be the entry of another
operation. A run in which no handler finds such an entry, and no other, loses its entries only to
their own failures and to the limit.
-/

namespace CreatorFirst.Relay

open Database Process Script

variable {Call α Reply Result : Type} {lib : Library} {R : Relayer Call α Reply Result}
  {s s' : State α Result} {a : Event Call Reply} {events : List (Event Call Reply)} {c : Call}
  {r : Request α} {promise : ℕ}

/-! ## One step -/

theorem relay_of_error {e : Thrown} (hr : R.request c = .error e) :
    relay lib R c s = (.error e, s) := by
  simp only [relay, hr]

/-- A call under the key of an entry joins its operation, or is rejected. -/
theorem relay_of_found {prior : Entry} (hr : R.request c = .ok r)
    (hfound : s.operations.find? r.operationKey = some prior) :
    relay lib R c s = (if prior.hash = r.hash lib then .ok prior.promise else .error R.conflict, s) := by
  simp only [relay, hr, hfound]
  split <;> simp_all

theorem relay_of_free (hr : R.request c = .ok r)
    (hfree : s.operations.find? r.operationKey = none) :
    relay lib R c s = (.ok s.started.length, s.begin lib r (R.start r.value)) := by
  simp only [relay, hr, hfree]

variable (lib R s) in
/-- Whatever happens, the state stays, an operation gets an entry, one makes progress, or the entry
under the key of a failed one goes. -/
inductive Effect : Event Call Reply → State α Result → Prop
  | unchanged (a : Event Call Reply) : Effect a s
  | begin (c : Call) (r : Request α) (hr : R.request c = .ok r)
      (hfree : s.operations.find? r.operationKey = none) :
      Effect (.call c) (s.begin lib r (R.start r.value))
  | advance (promise : ℕ) (reply : Reply) (progress : Progress Result) :
      Effect (.reply promise reply) (s.advance promise progress)
  | discard (promise : ℕ) (op : Operation α Result) (hop : s.started[promise]? = some op)
      (hfailed : op.Failed) :
      Effect (.failure promise) (s.discard promise op.request.operationKey)

theorem step_effect (a : Event Call Reply) : Effect lib R s a (step lib R s a) := by
  cases a with
  | call c =>
    rw [step]
    cases hr : R.request c with
    | error e =>
      rw [relay_of_error hr]
      exact .unchanged _
    | ok r =>
      cases hfound : s.operations.find? r.operationKey with
      | none =>
        rw [relay_of_free hr hfound]
        exact .begin c r hr hfound
      | some prior =>
        rw [relay_of_found hr hfound]
        exact .unchanged _
  | reply promise reply =>
    simp only [step]
    split
    · split
      · exact .advance promise reply _
      · exact .unchanged _
    · exact .unchanged _
  | failure promise =>
    simp only [step]
    split
    · next r e hop => exact .discard promise _ hop ⟨⟨e, rfl⟩, rfl⟩
    · exact .unchanged _

/-- The handler of a failed operation runs. -/
theorem step_failure {op : Operation α Result} (hop : s.started[promise]? = some op)
    (hfailed : op.Failed) :
    step lib R s (.failure promise) = s.discard promise op.request.operationKey := by
  obtain ⟨r, progress, handled⟩ := op
  obtain ⟨⟨e, rfl⟩, rfl⟩ := hfailed
  simp only [step, hop]

theorem rows_begin (hfree : s.operations.find? r.operationKey = none) (progress : Progress Result) :
    (s.begin lib r progress).operations.rows = (s.operations.makeRoom OPERATION_LIMIT).rows ++
      [⟨r.operationKey, r.hash lib, s.started.length⟩] := by
  rw [State.begin, Table.rows_set_of_free (Table.find?_makeRoom_of_free hfree)]

/-! ## Entries and their operations -/

/-- What an operation was started for; it never changes. -/
def State.requestOf (s : State α Result) (promise : ℕ) : Option (Request α) :=
  s.started[promise]?.map (·.request)

theorem request_modify (started : List (Operation α Result)) (p : ℕ)
    {f : Operation α Result → Operation α Result} (hf : ∀ op, (f op).request = op.request) :
    (started.modify promise f)[p]?.map (·.request) = started[p]?.map (·.request) := by
  rw [List.getElem?_modify]
  cases started[p]? with
  | none => rfl
  | some op => by_cases hp : promise = p <;> simp [hp, hf]

@[simp]
theorem requestOf_advance (progress : Progress Result) (p : ℕ) :
    (s.advance promise progress).requestOf p = s.requestOf p :=
  request_modify s.started p fun _ ↦ rfl

@[simp]
theorem requestOf_discard (operationKey : String) (p : ℕ) :
    (s.discard promise operationKey).requestOf p = s.requestOf p :=
  request_modify s.started p fun _ ↦ rfl

theorem Effect.requestOf {p : ℕ} (heffect : Effect lib R s a s') (h : s.requestOf p = some r) :
    s'.requestOf p = some r := by
  cases heffect with
  | unchanged => exact h
  | begin c r' hr hfree =>
    obtain ⟨op, hop, hrequest⟩ := Option.map_eq_some_iff.mp h
    obtain ⟨hlt, -⟩ := List.getElem?_eq_some_iff.mp hop
    rw [State.requestOf, State.begin, List.getElem?_append_left hlt]
    exact h
  | advance promise reply progress => exact (requestOf_advance progress p).trans h
  | discard promise op hop hfailed => exact (requestOf_discard _ p).trans h

variable (lib) in
/-- Every entry is that of an operation, with its key and hash, and there are at most as many as the
limit allows. -/
structure Sound (s : State α Result) : Prop where
  owned : ∀ e ∈ s.operations, ∃ q, s.requestOf e.promise = some q ∧
    q.operationKey = e.operationKey ∧ q.hash lib = e.hash
  size : s.operations.rows.length ≤ OPERATION_LIMIT

theorem sound_initial : Sound lib (initialState : State α Result) :=
  ⟨fun _ he ↦ absurd he (Table.not_mem_empty _), Nat.zero_le _⟩

theorem Sound.step (h : Sound lib s) (a : Event Call Reply) : Sound lib (step lib R s a) := by
  have heffect : Effect lib R s a (Relay.step lib R s a) := step_effect a
  generalize Relay.step lib R s a = s' at heffect
  have howned : ∀ e ∈ s.operations, ∃ q, s'.requestOf e.promise = some q ∧
      q.operationKey = e.operationKey ∧ q.hash lib = e.hash := by
    intro e he
    obtain ⟨q, hq, hkey, hhash⟩ := h.owned e he
    exact ⟨q, heffect.requestOf hq, hkey, hhash⟩
  cases heffect with
  | unchanged => exact h
  | advance promise reply progress => exact ⟨howned, h.size⟩
  | begin c r hr hfree =>
    constructor
    · intro e he
      rw [Table.mem_iff, rows_begin hfree, List.mem_append, List.mem_singleton] at he
      obtain hold | rfl := he
      · exact howned e (Table.mem_of_mem_makeRoom hold)
      · exact ⟨r, by simp [State.requestOf, State.begin], rfl, rfl⟩
    · have hsize := h.size
      rw [rows_begin hfree, List.length_append, List.length_singleton, Table.rows_makeRoom]
      split
      · rw [List.length_tail]
        unfold OPERATION_LIMIT at *
        omega
      · omega
  | discard promise op hop hfailed =>
    constructor
    · exact fun e he ↦ howned e (Table.mem_remove.mp he).1
    · exact (Table.length_remove_le _ _).trans h.size

theorem Sound.run (h : Sound lib s) (events : List (Event Call Reply)) :
    Sound lib (run (Relay.step lib R) s events) :=
  AtEachMoment.last (atEachMoment_of_kept (fun _ a hs ↦ hs.step a) h)

/-! ## Joining an operation -/

/-- What a call joins was started for a call under its key with its hash. -/
theorem Sound.requestOf_relay (h : Sound lib s) (hr : R.request c = .ok r)
    (hjoin : (relay lib R c s).1 = .ok promise) :
    ∃ q, (relay lib R c s).2.requestOf promise = some q ∧
      q.operationKey = r.operationKey ∧ q.hash lib = r.hash lib := by
  cases hfound : s.operations.find? r.operationKey with
  | none =>
    rw [relay_of_free hr hfound] at hjoin ⊢
    obtain rfl := Except.ok.inj hjoin
    exact ⟨r, by simp [State.requestOf, State.begin], rfl, rfl⟩
  | some prior =>
    rw [relay_of_found hr hfound] at hjoin ⊢
    dsimp only at hjoin ⊢
    split at hjoin
    · next hhash =>
      obtain rfl := Except.ok.inj hjoin
      obtain ⟨hprior, hkey⟩ := Table.find?_eq_some.mp hfound
      obtain ⟨q, hq, hqkey, hqhash⟩ := h.owned prior hprior
      exact ⟨q, hq, hqkey.trans hkey, hqhash.trans hhash⟩
    · cases hjoin

/-- While the entry of an operation is retained, a call under its key joins it exactly when it has its
hash, and is rejected otherwise. -/
theorem Sound.relay_eq (h : Sound lib s) {q : Request α} {e : Entry} (he : e ∈ s.operations)
    (hq : s.requestOf e.promise = some q) (hr : R.request c = .ok r)
    (hkey : q.operationKey = r.operationKey) :
    relay lib R c s =
      (if q.hash lib = r.hash lib then .ok e.promise else .error R.conflict, s) := by
  obtain ⟨q', hq', hqkey, hqhash⟩ := h.owned e he
  obtain rfl := Option.some.inj (hq.symm.trans hq')
  have hfound : s.operations.find? r.operationKey = some e :=
    Table.find?_eq_some.mpr ⟨he, hqkey.symm.trans hkey⟩
  rw [relay_of_found hr hfound, hqhash]

/-! ## Runs -/

section

variable (lib R events)

/-- The texts of which the calls of the run take the digest. -/
def hashedTexts : Set String :=
  {text | ∃ c r, .call c ∈ events ∧ R.request c = .ok r ∧ text = Json.stringify r.payload}

/-- Let two calls of the run have one key, and let the first one join an operation of which the entry
is retained when the second one reaches the map. Then the second one joins it, if its payload is the
same, or is rejected. It leaves the state as it is, so that it starts no operation and has no chain
call made. -/
def SharesOperations : Prop :=
  ∀ past c between c' r r' promise,
    past ++ .call c :: between ++ [.call c'] <+: events →
    R.request c = .ok r → R.request c' = .ok r' → r.operationKey = r'.operationKey →
    (relay lib R c (run (step lib R) initialState past)).1 = .ok promise →
    let s := run (step lib R) initialState (past ++ .call c :: between)
    (∃ e ∈ s.operations, e.promise = promise) →
    relay lib R c' s = (if r.payload = r'.payload then .ok promise else .error R.conflict, s)

variable (s : State α Result) (a : Event Call Reply)

/-- An entry leaves the map only because the handler of its own operation runs after this has failed, or
because it is the oldest one of 512 when another is inserted. -/
def LosesForCause : Prop :=
  ∀ e ∈ s.operations, e ∉ (step lib R s a).operations →
    (a = .failure e.promise ∧ ∃ op, s.started[e.promise]? = some op ∧ op.Failed) ∨
    ∃ c r, a = .call c ∧ R.request c = .ok r ∧ s.operations.find? r.operationKey = none ∧
      s.operations.rows.length = OPERATION_LIMIT ∧ s.operations.rows.head? = some e

omit lib R in
/-- If the handler of a failed operation runs, then any entry under its key is its own. -/
def HandlesOwnEntry : Prop :=
  ∀ promise op e, a = .failure promise → s.started[promise]? = some op → op.Failed →
    s.operations.find? op.request.operationKey = some e → e.promise = promise

end

theorem sharesOperations (hsha : Set.InjOn lib.sha256 (hashedTexts R events)) :
    SharesOperations lib R events := by
  intro past c between c' r r' promise hprefix hr hr' hkey hjoin s hretained
  obtain ⟨e, he, rfl⟩ := hretained
  have hsound : Sound lib (run (step lib R) initialState past) := sound_initial.run past
  obtain ⟨q, hq, hqkey, hqhash⟩ := hsound.requestOf_relay hr hjoin
  have hlater : s.requestOf e.promise = some q := by
    have hs : s = run (step lib R) (relay lib R c (run (step lib R) initialState past)).2 between := by
      simp only [s, run_append, run_cons, step]
    have hkept : AtEachMoment (step lib R) (fun s ↦ s.requestOf e.promise = some q)
        (relay lib R c (run (step lib R) initialState past)).2 between :=
      atEachMoment_of_kept (fun _ a h ↦ (step_effect a).requestOf h) hq
    rw [hs]
    exact hkept.last
  have hmem : Event.call c ∈ events :=
    hprefix.subset (by simp)
  have hmem' : Event.call c' ∈ events :=
    hprefix.subset (by simp)
  have hpayload : q.hash lib = r'.hash lib ↔ r.payload = r'.payload := by
    rw [hqhash]
    constructor
    · intro hhash
      exact Json.stringify_injective
        (hsha ⟨c, r, hmem, hr, rfl⟩ ⟨c', r', hmem', hr', rfl⟩ hhash)
    · intro hsame
      rw [Request.hash, Request.hash, hsame]
  have hs : Sound lib s := sound_initial.run _
  rw [hs.relay_eq he hlater hr' (hqkey.trans hkey)]
  simp only [hpayload]

theorem losesForCause_iff (h : Sound lib s) : LosesForCause lib R s a ↔ HandlesOwnEntry s a := by
  constructor
  · rintro hcause promise op e rfl hop hfailed hfound
    obtain ⟨he, hkey⟩ := Table.find?_eq_some.mp hfound
    have hgone : e ∉ (step lib R s (.failure promise)).operations := by
      rw [step_failure hop hfailed]
      exact fun hmem ↦ (Table.mem_remove.mp hmem).2 hkey
    obtain ⟨hown, -⟩ | ⟨c, r, hcall, -⟩ := hcause e he hgone
    · exact (Event.failure.inj hown).symm
    · cases hcall
  · intro hown e he hgone
    have heffect : Effect lib R s a (step lib R s a) := step_effect a
    generalize step lib R s a = s' at heffect hgone
    cases heffect with
    | unchanged => exact absurd he hgone
    | advance => exact absurd he hgone
    | begin c r hr hfree =>
      refine .inr ⟨c, r, rfl, hr, hfree, ?_⟩
      rw [Table.mem_iff, rows_begin hfree, Table.rows_makeRoom, List.mem_append, not_or] at hgone
      obtain ⟨hgone, -⟩ := hgone
      split at hgone
      · next hfull =>
        refine ⟨le_antisymm h.size hfull, ?_⟩
        rw [Table.mem_iff] at he
        cases hrows : s.operations.rows with
        | nil => simp [hrows] at he
        | cons first rest =>
          rw [hrows] at he hgone
          obtain rfl | hrest := List.mem_cons.mp he
          · rfl
          · exact absurd hrest hgone
      · exact absurd he hgone
    | discard promise op hop hfailed =>
      have hkey : e.operationKey = op.request.operationKey := by
        by_contra hne
        exact hgone (Table.mem_remove.mpr ⟨he, hne⟩)
      obtain rfl := hown promise op e rfl hop hfailed (Table.find?_eq_some.mpr ⟨he, hkey⟩)
      exact .inl ⟨rfl, op, hop, hfailed⟩

/-- In a run whose calls have no two texts with one digest, calls share operations, and entries are lost
for cause exactly if no handler finds the entry of another operation. -/
theorem idempotent_iff (hsha : Set.InjOn lib.sha256 (hashedTexts R events)) :
    SharesOperations lib R events ∧ EachStep (step lib R) (LosesForCause lib R) initialState events ↔
      EachStep (step lib R) HandlesOwnEntry initialState events := by
  refine (and_iff_right (sharesOperations hsha)).trans ?_
  rw [eachStep_iff, eachStep_iff]
  have hsteps (past : List (Event Call Reply)) (a : Event Call Reply) :
      LosesForCause lib R (run (step lib R) initialState past) a ↔
        HandlesOwnEntry (run (step lib R) initialState past) a :=
    losesForCause_iff (sound_initial.run past)
  simp only [hsteps]

/-! ## Calls of one wallet -/

namespace Sample

/-- A number of so many hexadecimal digits. -/
def hexOf (length n : ℕ) : String :=
  String.ofList ('0' :: 'x' ::
    (List.range length).map fun i ↦ Nat.digitChar (n / 16 ^ (length - 1 - i) % 16))

theorem hexText_hexOf (length n : ℕ) : hexText length (.string (hexOf length n)) = some (hexOf length n) := by
  have hdigit : ∀ k < 16, (Number.digitOf 16 (Nat.digitChar k)).isSome = true := by decide
  have hall : ((List.range length).map fun i ↦ Nat.digitChar (n / 16 ^ (length - 1 - i) % 16)).all
      (fun c ↦ (Number.digitOf 16 c).isSome) = true := by
    rw [List.all_map, List.all_eq_true]
    exact fun i _ ↦ hdigit _ (Nat.mod_lt _ (by decide))
  simp only [hexText, hexOf, String.toList_ofList]
  rw [if_pos ⟨by simp, hall⟩]

def wallet : String := "0xf39Fd6e51aad88F6F4ce6aB8827279cffFb92266"

def supporterConfig : SupporterConfig where
  chainId := 80002
  supporterSbtAddress := "0x5FbDB2315678afecb367f032d93F642f64180aa3"
  allowedCreatorIds := [hexOf 64 7]

def governanceConfig : GovernanceConfig where
  chainId := 80002
  governorAddress := "0xe7f1725E7734CE288F8367e1Bb143E90bb3F0512"

def signature : ℕ → String
  | 0 => hexOf 130 0x26000169e01b44491fa55872aa25692d74b2280e8b490c9f44bf5191fb0cca06027dc342854e71a9dfd61f888c3fa209c3508ad3842554a3477952b285abc8ce1c
  | _ => hexOf 130 0x95698331547c80f6618029496ee430fcaf5f33d41bedc7b791c79491c8696aca6f42c1431edc207712062012d20db9ce8838be6af17463ada9cdb8cdefc3676b1b

theorem hexText_signature (nonce : ℕ) :
    hexText 130 (.string (signature nonce)) = some (signature nonce) := by
  unfold signature
  split <;> exact hexText_hexOf _ _

def intent (nonce : ℕ) : SupportIntent :=
  ⟨wallet, hexOf 64 7, nonce, 1790813400, hexOf 64 1, signature nonce⟩

def ballotSignature : String :=
  hexOf 130 0xbb14bf6be19711012a636d426cb0282797a7e80d205c901c56698d081821d03a682cd1177f215556e529ffc33a326898cb575db21cd390ada22d77879c13a2091c

def ballot : Ballot := ⟨1, 1, 2, wallet, 2, 0, 1790813400, ballotSignature⟩

def library : Library where
  getAddress value := if value.is wallet then some wallet else none
  recoverTypedDataAddress _ _ := some wallet
  sha256 text :=
    if text = Json.stringify (intent 0).payload then
      "c9b6c608d2ce5f545f6b5cb809bf88e067ec1a4fcef1831867be4e6be6ed4eab"
    else if text = Json.stringify (intent 1).payload then
      "2f196afbabfa7613cd6fb01d29ebee16ba27daafddd2f05ee3173b8077ed7070"
    else "4de648d83efb309bbadac80539bfbd160e945efe420d8cfd35ab6208ca48e7f2"

def supporterCall (key : String) (nonce : ℕ) : SupporterCall where
  input := .object [("holder", .string wallet), ("creatorId", .string (hexOf 64 7)),
    ("nonce", .string (toString nonce)), ("deadline", .string "1790813400"),
    ("consentVersion", .string (hexOf 64 1)), ("signature", .string (signature nonce)),
    ("idempotencyKey", .string key)]
  available := true
  registeredCreator := .ok none
  now := 1790812800

def supporterRequested (key : String) (nonce : ℕ) : Request SupportIntent :=
  ⟨wallet ++ ":" ++ key, (intent nonce).payload, intent nonce⟩

theorem unsignedInteger_of_bigInt {value : Value} {n : ℕ} (h : value.bigInt = some (n : ℤ)) (name : String) :
    unsignedInteger value name = .ok n := by
  simp [unsignedInteger, h, requireSome]

theorem unsignedInteger_deadline :
    unsignedInteger (.string "1790813400") "DEADLINE" = .ok 1790813400 :=
  unsignedInteger_of_bigInt (by decide +kernel) _

theorem bytes32_hexOf (n : ℕ) (name : String) :
    bytes32 (.string (hexOf 64 n)) name = .ok (hexOf 64 n) := by
  rw [bytes32, hexText_hexOf, requireSome]

theorem request_supporterCall {key : String} {nonce : ℕ} (hkey : Gateway.validKey key)
    (hnonce : (Value.string (toString nonce)).bigInt = some (nonce : ℤ)) :
    supporterRequest library supporterConfig (supporterCall key nonce) =
      .ok (supporterRequested key nonce) := by
  have hholder : (supporterCall key nonce).input.property "holder" = .string wallet := rfl
  have hcreator : (supporterCall key nonce).input.property "creatorId" = .string (hexOf 64 7) := rfl
  have hregistry : (supporterCall key nonce).input.property "registryCreatorId" = .undefined := rfl
  have hnumber : (supporterCall key nonce).input.property "nonce" = .string (toString nonce) := rfl
  have hdeadline : (supporterCall key nonce).input.property "deadline" = .string "1790813400" := rfl
  have hconsent : (supporterCall key nonce).input.property "consentVersion" = .string (hexOf 64 1) :=
    rfl
  have hsignature : (supporterCall key nonce).input.property "signature" =
    .string (signature nonce) := rfl
  have hidempotency : (supporterCall key nonce).input.property "idempotencyKey" = .string key := rfl
  simp only [supporterRequest, namesRegisteredCreator, idempotencyKey]
  rw [hholder, hcreator, hregistry, hnumber, hdeadline, hconsent, hsignature, hidempotency,
    unsignedInteger_of_bigInt hnonce, unsignedInteger_deadline, bytes32_hexOf, bytes32_hexOf]
  simp [supporterCall, requireValue, requireSome, hexText_signature, hkey, library,
    Value.is, supporterConfig, MAX_INTENT_LIFETIME_SECONDS, supporterRequested, intent, bind,
    Except.bind, pure, Except.pure]

def governanceCall (key : String) : GovernanceCall where
  input := .object [("proposalId", .string "1"), ("sessionId", .string "1"),
    ("house", .number (.finite 2)), ("member", .string wallet), ("intensity", .number (.finite 2)),
    ("nonce", .string "0"), ("deadline", .string "1790813400"),
    ("signature", .string ballotSignature), ("idempotencyKey", .string key)]
  available := true
  now := 1790812800

def governanceRequested (key : String) : Request Ballot :=
  ⟨wallet ++ ":" ++ key, ballot.payload, ballot⟩

theorem request_governanceCall {key : String} (hkey : Gateway.validKey key) :
    governanceRequest library governanceConfig (governanceCall key) =
      .ok (governanceRequested key) := by
  have hproposal : (governanceCall key).input.property "proposalId" = .string "1" := rfl
  have hsession : (governanceCall key).input.property "sessionId" = .string "1" := rfl
  have hhouse : (governanceCall key).input.property "house" = .number (.finite 2) := rfl
  have hmember : (governanceCall key).input.property "member" = .string wallet := rfl
  have hintensity : (governanceCall key).input.property "intensity" = .number (.finite 2) := rfl
  have hnumber : (governanceCall key).input.property "nonce" = .string "0" := rfl
  have hdeadline : (governanceCall key).input.property "deadline" = .string "1790813400" := rfl
  have hsignature : (governanceCall key).input.property "signature" = .string ballotSignature := rfl
  have hidempotency : (governanceCall key).input.property "idempotencyKey" = .string key := rfl
  have hone : (Value.string "1").bigInt = some ((1 : ℕ) : ℤ) := by decide +kernel
  have hzero : (Value.string "0").bigInt = some ((0 : ℕ) : ℤ) := by decide +kernel
  have htwo : ballotHouse (.number (.finite 2)) = some 2 := by decide +kernel
  have hweight : ballotIntensity (.number (.finite 2)) = some 2 := by decide +kernel
  have hhex : hexText 130 (.string ballotSignature) = some ballotSignature := hexText_hexOf _ _
  simp only [governanceRequest, idempotencyKey]
  rw [hproposal, hsession, hhouse, hmember, hintensity, hnumber, hdeadline, hsignature, hidempotency,
    unsignedInteger_of_bigInt hone, unsignedInteger_of_bigInt hone, unsignedInteger_of_bigInt hzero,
    unsignedInteger_deadline, htwo, hweight, hhex]
  simp [governanceCall, requireValue, requireSome, hkey, library, Value.is,
    MAX_INTENT_LIFETIME_SECONDS, ballotSigned, governanceRequested, ballot, bind, Except.bind, pure,
    Except.pure]

/-- The keys of the calls, of nine characters each. -/
def key (i : ℕ) : String := String.ofList (List.replicate 8 'k' ++ [Char.ofNat (0x4e00 + i)])

theorem validKey_key (i : ℕ) : Gateway.validKey (key i) := by
  simp only [Gateway.validKey, Gateway.utf16Length, key, String.toList_ofList, List.map_append,
    List.sum_append, List.map_replicate, List.sum_replicate, List.map_singleton, List.sum_singleton]
  have hplain : 'k'.toNat < 0x10000 := by decide
  rw [if_pos hplain]
  split <;> decide

theorem key_inj {i j : ℕ} (hi : i ≤ 512) (hj : j ≤ 512) (h : key i = key j) : i = j := by
  have htoNat (n : ℕ) (hn : n ≤ 512) : (Char.ofNat (0x4e00 + n)).toNat = 0x4e00 + n := by
    have hvalid : (0x4e00 + n).isValidChar := .inl (by omega)
    rw [Char.ofNat, dif_pos hvalid]
    rfl
  have hlast := List.append_cancel_left (String.ofList_injective h)
  have hcode := congrArg Char.toNat (List.cons.inj hlast).1
  rw [htoNat i hi, htoNat j hj] at hcode
  omega

abbrev relayer : Relayer SupporterCall SupportIntent SupporterReply SupporterResult :=
  supporterRelayer library supporterConfig

def nextCall (i : ℕ) : Event SupporterCall SupporterReply := .call (supporterCall (key i) 0)

theorem request_key (i : ℕ) :
    relayer.request (supporterCall (key i) 0) = .ok (supporterRequested (key i) 0) :=
  request_supporterCall (validKey_key i) (by decide +kernel)

def entry (i promise : ℕ) : Entry :=
  ⟨wallet ++ ":" ++ key i, (supporterRequested (key i) 0).hash library, promise⟩

theorem entry_key_inj {i j p q : ℕ} (hi : i ≤ 512) (hj : j ≤ 512)
    (h : (entry i p).operationKey = (entry j q).operationKey) : i = j :=
  key_inj hi hj ((String.append_right_inj _).mp h)

def pending (i : ℕ) : Operation SupportIntent SupporterResult :=
  ⟨supporterRequested (key i) 0, .awaits .recovering, false⟩

theorem step_nextCall {s : State SupportIntent SupporterResult} {i : ℕ}
    (hfree : s.operations.find? (entry i 0).operationKey = none) :
    (step library relayer s (nextCall i)).started = s.started ++ [pending i] ∧
      (step library relayer s (nextCall i)).operations.rows =
        (s.operations.makeRoom OPERATION_LIMIT).rows ++ [entry i s.started.length] := by
  have hstep : step library relayer s (nextCall i) =
      s.begin library (supporterRequested (key i) 0) (.awaits .recovering) := by
    rw [nextCall, step, relay_of_free (request_key i) hfree]
    rfl
  rw [hstep]
  exact ⟨rfl, rows_begin hfree _⟩

def filled (n : ℕ) : State SupportIntent SupporterResult :=
  run (step library relayer) initialState ((List.range n).map nextCall)

/-- Calls under keys of their own fill the map, and then drop its oldest entry each. -/
theorem filled_state {n : ℕ} (hn : n ≤ 513) :
    (filled n).started = (List.range n).map pending ∧
      (filled n).operations.rows = ((List.range n).map fun i ↦ entry i i).drop (n - 512) := by
  induction n with
  | zero => exact ⟨rfl, rfl⟩
  | succ n ih =>
    obtain ⟨hstarted, hrows⟩ := ih (by omega)
    have hfree : (filled n).operations.find? (entry n 0).operationKey = none := by
      refine Table.find?_eq_none.mpr fun e he hkey ↦ ?_
      rw [Table.mem_iff, hrows] at he
      obtain ⟨i, hi, rfl⟩ := List.mem_map.mp (List.mem_of_mem_drop he)
      have hlt := List.mem_range.mp hi
      have heq := entry_key_inj (by omega) (by omega) hkey
      omega
    have hnext : filled (n + 1) = step library relayer (filled n) (nextCall n) := by
      rw [filled, List.range_succ, List.map_append, run_append]
      rfl
    obtain ⟨hstarted', hrows'⟩ := step_nextCall hfree
    rw [hnext, hstarted', hrows', hstarted, Table.rows_makeRoom, hrows, List.length_map,
      List.length_range, List.range_succ, List.map_append, List.map_append]
    refine ⟨rfl, ?_⟩
    have hlength : (((List.range n).map fun i ↦ entry i i).drop (n - 512)).length = n - (n - 512) := by
      simp
    rw [hlength]
    unfold OPERATION_LIMIT
    split
    · next hfull =>
      have h512 : n = 512 := by omega
      subst h512
      rw [List.drop_append_of_le_length (by simp)]
      simp
    · next hroom =>
      have hlt : n + 1 ≤ 512 := by omega
      rw [Nat.sub_eq_zero_of_le hlt, Nat.sub_eq_zero_of_le (Nat.le_of_succ_le hlt), List.drop_zero,
        List.drop_zero, List.map_singleton]

theorem filled_full :
    (filled 513).started[0]? = some (pending 0) ∧ (filled 513).started.length = 513 ∧
      (filled 513).operations.find? (entry 0 0).operationKey = none := by
  obtain ⟨hstarted, hrows⟩ := filled_state (le_refl 513)
  rw [hstarted]
  refine ⟨by simp, by simp, Table.find?_eq_none.mpr fun e he hkey ↦ ?_⟩
  have hone : 513 - 512 = 1 := rfl
  rw [Table.mem_iff, hrows, hone, List.range_succ_eq_map, List.map_cons, List.map_map, List.drop_one,
    List.tail_cons] at he
  obtain ⟨i, hi, rfl⟩ := List.mem_map.mp he
  have hlt := List.mem_range.mp hi
  have heq := entry_key_inj (by omega) (by omega) hkey
  omega

def timeout : Cause := { message := some "The request took too long to respond." }

/-- The first operation recovers the signer and then fails to read its status. -/
theorem step_replies {s : State SupportIntent SupporterResult}
    (hfirst : s.started[0]? = some (pending 0)) :
    step library relayer (step library relayer s (.reply 0 .recovered))
      (.reply 0 (.status (.error [timeout]))) =
        (s.advance 0 (.awaits .reading)).advance 0 (.settled (.error (.other [timeout]))) := by
  have hresume : relayer.resume (intent 0) .recovering .recovered = some (.awaits .reading) := by
    simp [supporterRelayer, supporterResume, supporterRecovered, library, Value.is, intent]
  have hrecovered : step library relayer s (.reply 0 .recovered) = s.advance 0 (.awaits .reading) := by
    simp only [step, hfirst, pending, supporterRequested, hresume]
  have hreading : (s.advance 0 (.awaits .reading)).started[0]? =
      some { pending 0 with progress := .awaits .reading } := by
    simp [State.advance, hfirst]
  rw [hrecovered]
  simp only [step, hreading, pending]
  rfl

/-- The entry of the first key is dropped by the last of 512 other calls and made anew by another call
under that key, while the first operation is still pending. Then this one fails. -/
def beforeFailure : List (Event SupporterCall SupporterReply) :=
  (List.range 513).map nextCall ++
    [nextCall 0, .reply 0 .recovered, .reply 0 (.status (.error [timeout]))]

theorem run_beforeFailure :
    run (step library relayer) initialState beforeFailure =
      ((step library relayer (filled 513) (nextCall 0)).advance 0 (.awaits .reading)).advance 0
        (.settled (.error (.other [timeout]))) := by
  obtain ⟨hfirst, hlength, hfree⟩ := filled_full
  have hfirst' : (step library relayer (filled 513) (nextCall 0)).started[0]? = some (pending 0) := by
    rw [(step_nextCall hfree).1, List.getElem?_append_left (by omega)]
    exact hfirst
  have hfilled : run (step library relayer) initialState ((List.range 513).map nextCall) =
      filled 513 := by rw [filled]
  rw [beforeFailure, run_append, run_cons, run_cons, run_cons, run_nil, hfilled,
    step_replies hfirst']

/-- The failed operation is not the one that has the entry under its key. -/
theorem not_handlesOwnEntry_of {s : State SupportIntent SupporterResult}
    (hfirst : s.started[0]? = some (pending 0))
    (hentry : s.operations.find? (entry 0 0).operationKey = some (entry 0 513)) :
    ¬HandlesOwnEntry ((s.advance 0 (.awaits .reading)).advance 0 (.settled (.error (.other [timeout]))))
      (.failure 0 : Event SupporterCall SupporterReply) := by
  intro hown
  have hop : ((s.advance 0 (.awaits .reading)).advance 0
      (.settled (.error (.other [timeout])))).started[0]? =
        some { pending 0 with progress := .settled (.error (.other [timeout])) } := by
    simp [State.advance, hfirst]
  have hpromise : 513 = 0 := hown 0 _ (entry 0 513) rfl hop ⟨⟨_, rfl⟩, rfl⟩ hentry
  omega

theorem not_handlesOwnEntry :
    ¬HandlesOwnEntry (run (step library relayer) initialState beforeFailure)
      (.failure 0 : Event SupporterCall SupporterReply) := by
  obtain ⟨hfirst, hlength, hfree⟩ := filled_full
  obtain ⟨hstarted, hrows⟩ := step_nextCall hfree
  rw [run_beforeFailure]
  apply not_handlesOwnEntry_of
  · rw [hstarted, List.getElem?_append_left (by omega)]
    exact hfirst
  · refine Table.find?_eq_some.mpr ⟨?_, rfl⟩
    rw [Table.mem_iff, hrows, hlength]
    exact List.mem_append_right _ List.mem_cons_self

/-! Two payloads under one key, and a ballot that is sent twice. -/

def supporterRun : List (Event SupporterCall SupporterReply) :=
  [.call (supporterCall (key 0) 0), .call (supporterCall (key 0) 0), .call (supporterCall (key 0) 1),
    .reply 0 .recovered, .reply 0 (.status (.error [timeout])), .failure 0,
    .call (supporterCall (key 0) 1)]

def governanceRun : List (Event GovernanceCall GovernanceReply) :=
  [.call (governanceCall (key 0)), .call (governanceCall (key 0)), .reply 0 (.status (.ok ⟨0, 2⟩)),
    .reply 0 (.relayed (.error [timeout])), .failure 0]

theorem sha256_supporterRun : Set.InjOn library.sha256 (hashedTexts relayer supporterRun) := by
  have htext : ∀ text ∈ hashedTexts relayer supporterRun,
      text = Json.stringify (intent 0).payload ∨ text = Json.stringify (intent 1).payload := by
    rintro text ⟨c, r, hc, hr, rfl⟩
    have hcall : c = supporterCall (key 0) 0 ∨ c = supporterCall (key 0) 1 := by
      simpa [supporterRun] using hc
    obtain rfl | rfl := hcall
    · rw [request_key 0] at hr
      exact .inl (by rw [← Except.ok.inj hr]; rfl)
    · have hone : relayer.request (supporterCall (key 0) 1) = .ok (supporterRequested (key 0) 1) :=
        request_supporterCall (validKey_key 0) (by decide +kernel)
      rw [hone] at hr
      exact .inr (by rw [← Except.ok.inj hr]; rfl)
  have hne : Json.stringify (intent 1).payload ≠ Json.stringify (intent 0).payload := by
    intro h
    have hpayload := Json.stringify_injective h
    simp only [SupportIntent.payload, intent, List.cons.injEq, Prod.mk.injEq,
      Scalar.string.injEq] at hpayload
    exact absurd hpayload.2.2.1.2 (by decide)
  intro text ht text' ht' hsha
  obtain rfl | rfl := htext text ht <;> obtain rfl | rfl := htext text' ht'
  · rfl
  · simp [library, hne] at hsha
  · simp [library, hne] at hsha
  · rfl

theorem sha256_governanceRun :
    Set.InjOn library.sha256 (hashedTexts (governanceRelayer library governanceConfig) governanceRun) := by
  have htext : ∀ text ∈ hashedTexts (governanceRelayer library governanceConfig) governanceRun,
      text = Json.stringify ballot.payload := by
    rintro text ⟨c, r, hc, hr, rfl⟩
    obtain rfl : c = governanceCall (key 0) := by simpa [governanceRun] using hc
    have hrequest : (governanceRelayer library governanceConfig).request (governanceCall (key 0)) =
        .ok (governanceRequested (key 0)) := request_governanceCall (validKey_key 0)
    rw [hrequest] at hr
    rw [← Except.ok.inj hr]
    rfl
  intro text ht text' ht' _
  rw [htext text ht, htext text' ht']

theorem sha256_nextCalls (events : List (Event SupporterCall SupporterReply))
    (hcalls : ∀ c, .call c ∈ events → ∃ i, c = supporterCall (key i) 0) :
    Set.InjOn library.sha256 (hashedTexts relayer events) := by
  have htext : ∀ text ∈ hashedTexts relayer events, text = Json.stringify (intent 0).payload := by
    rintro text ⟨c, r, hc, hr, rfl⟩
    obtain ⟨i, rfl⟩ := hcalls c hc
    rw [request_key i] at hr
    rw [← Except.ok.inj hr]
    rfl
  intro text ht text' ht' _
  rw [htext text ht, htext text' ht']

end Sample

/-- Both relayers keep their promises on idempotency keys in exactly the runs in which no handler of a
failed operation finds, under its key, the entry of another operation. -/
theorem relayers_idempotent_iff (lib : Library) (supporter : SupporterConfig)
    (governance : GovernanceConfig) :
    (∀ events, Set.InjOn lib.sha256 (hashedTexts (supporterRelayer lib supporter) events) →
      (SharesOperations lib (supporterRelayer lib supporter) events ∧
        EachStep (step lib (supporterRelayer lib supporter))
          (LosesForCause lib (supporterRelayer lib supporter)) initialState events ↔
      EachStep (step lib (supporterRelayer lib supporter)) HandlesOwnEntry initialState events)) ∧
    ∀ events, Set.InjOn lib.sha256 (hashedTexts (governanceRelayer lib governance) events) →
      (SharesOperations lib (governanceRelayer lib governance) events ∧
        EachStep (step lib (governanceRelayer lib governance))
          (LosesForCause lib (governanceRelayer lib governance)) initialState events ↔
      EachStep (step lib (governanceRelayer lib governance)) HandlesOwnEntry initialState events) :=
  ⟨fun _ ↦ idempotent_iff, fun _ ↦ idempotent_iff⟩

theorem relayers_idempotent_sample :
    (SharesOperations Sample.library Sample.relayer Sample.supporterRun ∧
      EachStep (step Sample.library Sample.relayer) (LosesForCause Sample.library Sample.relayer)
        initialState Sample.supporterRun ↔
      EachStep (step Sample.library Sample.relayer) HandlesOwnEntry initialState
        Sample.supporterRun) ∧
    (SharesOperations Sample.library
        (governanceRelayer Sample.library Sample.governanceConfig) Sample.governanceRun ∧
      EachStep (step Sample.library (governanceRelayer Sample.library Sample.governanceConfig))
        (LosesForCause Sample.library (governanceRelayer Sample.library Sample.governanceConfig))
        initialState Sample.governanceRun ↔
      EachStep (step Sample.library (governanceRelayer Sample.library Sample.governanceConfig))
        HandlesOwnEntry initialState Sample.governanceRun) :=
  have hboth := relayers_idempotent_iff Sample.library Sample.supporterConfig Sample.governanceConfig
  ⟨hboth.1 Sample.supporterRun Sample.sha256_supporterRun,
    hboth.2 Sample.governanceRun Sample.sha256_governanceRun⟩

/-- An entry whose operation is pending leaves the map, because an operation that was started earlier
under its key fails. -/
theorem late_failure_discards :
    Set.InjOn Sample.library.sha256
        (hashedTexts Sample.relayer (Sample.beforeFailure ++ [.failure 0])) ∧
      ¬(SharesOperations Sample.library Sample.relayer (Sample.beforeFailure ++ [.failure 0]) ∧
        EachStep (step Sample.library Sample.relayer) (LosesForCause Sample.library Sample.relayer)
          initialState (Sample.beforeFailure ++ [.failure 0])) := by
  constructor
  · refine Sample.sha256_nextCalls _ fun c hc ↦ ?_
    simp only [Sample.beforeFailure, List.mem_append, List.mem_map, List.mem_cons, List.not_mem_nil,
      Sample.nextCall, Event.call.injEq, reduceCtorEq, or_false] at hc
    obtain ⟨i, -, rfl⟩ | rfl := hc
    · exact ⟨i, rfl⟩
    · exact ⟨0, rfl⟩
  · apply not_and_of_not_right
    rw [EachStep.concat, losesForCause_iff (sound_initial.run _)]
    exact not_and_of_not_right _ Sample.not_handlesOwnEntry

end CreatorFirst.Relay
