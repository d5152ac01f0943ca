import CreatorFirst.Chain.TypedData
import CreatorFirst.Governor.Machine
import CreatorFirst.Relay.Governance
import CreatorFirst.Relay.Supporter
import CreatorFirst.Supporter.Machine

/-!
# The signatures that the relayers and the contracts check

A relayer takes the digest of typed data that it has as texts, a contract takes it of its arguments.
Where the texts spell the arguments, both digests are the same, and a relayer finds the signer that the
contract finds.
-/

namespace CreatorFirst.Relay

open Chain

/-! ## Texts and words -/

/-- Two hexadecimal digits a byte. -/
def bytesOfDigits : List Char → Bytes
  | high :: low :: cs =>
    UInt8.ofNat ((Script.Number.digitOf 16 high).getD 0 * 16 +
      (Script.Number.digitOf 16 low).getD 0) :: bytesOfDigits cs
  | _ => []

/-- The bytes of a text behind its `0x`. -/
def hexBytes (text : String) : Bytes := bytesOfDigits (text.toList.drop 2)

section

variable (checksum : Address → String)

/-- An address is read when its letters are small, or as its checksum says. -/
def accountOf (text : String) : Option Address :=
  (hexNumber 40 text).bind fun n ↦
    if hn : n < 2 ^ 160 then
      if checksum ⟨n, hn⟩ = text ∨ text.toLower = text then some ⟨n, hn⟩ else none
    else none

variable (P : Primitives)

/-- The struct of the domain, with the members that it has. -/
def domainOf (td : Gateway.TypedData) : Option TypedStruct :=
  structOf P (accountOf checksum) "EIP712Domain"
    ([("name", "string"), ("version", "string"), ("chainId", "uint256")] ++
      td.verifyingContract.toList.map fun _ ↦ ("verifyingContract", "address"))
    ([("name", td.domainName), ("version", td.domainVersion), ("chainId", toString td.chainId)] ++
      td.verifyingContract.toList.map fun contract ↦ ("verifyingContract", contract))

/-- `hashTypedData`; it throws on a value that is out of range. -/
def hashTypedData (td : Gateway.TypedData) : Option Bytes32 := do
  let domain ← domainOf checksum P td
  let message ← structOf P (accountOf checksum) td.primaryType td.types td.message
  return typedDataHash P domain message

end

/-- What the relayers rely on in `viem`: addresses come with their checksums, and the signer of typed
data is recovered from its digest. It recovers what the contracts recover, also from signatures in
forms that they refuse. -/
structure Client (P : Primitives) (checksum : Address → String) (lib : Library) : Prop where
  hexNumber_checksum : ∀ account, hexNumber 40 (checksum account) = some (account : ℕ)
  getAddress_text : ∀ value text, lib.getAddress value = some text → ∃ account, text = checksum account
  getAddress_checksum : ∀ account, lib.getAddress (.string (checksum account)) = some (checksum account)
  recovers : ∀ td signature digest account, hashTypedData checksum P td = some digest →
    P.recover digest (hexBytes signature) = some account →
    lib.recoverTypedDataAddress td signature = some (checksum account)
  encodes : ∀ td signature, (∀ m ∈ td.types, (MemberType.ofName? m.2).isSome) →
    (lib.recoverTypedDataAddress td signature).isSome → (hashTypedData checksum P td).isSome

variable {P : Primitives} {checksum : Address → String} {lib : Library} {b : Block}

theorem Client.accountOf_checksum (hclient : Client P checksum lib) (account : Address) :
    accountOf checksum (checksum account) = some account := by
  simp [accountOf, hclient.hexNumber_checksum]

theorem hashTypedData_eq {td : Gateway.TypedData} {domain message : TypedStruct}
    (hdomain : domainOf checksum P td = some domain)
    (hmessage : structOf P (accountOf checksum) td.primaryType td.types td.message = some message) :
    hashTypedData checksum P td = some (typedDataHash P domain message) := by
  simp [hashTypedData, hdomain, hmessage]

theorem isSome_struct_of_hash {td : Gateway.TypedData} (h : (hashTypedData checksum P td).isSome) :
    (structOf P (accountOf checksum) td.primaryType td.types td.message).isSome := by
  cases hmessage : structOf P (accountOf checksum) td.primaryType td.types td.message with
  | none =>
    cases hdomain : domainOf checksum P td <;> simp [hashTypedData, hdomain, hmessage] at h
  | some message => rfl

theorem Client.checksum_inj (hclient : Client P checksum lib) {account account' : Address} :
    checksum account = checksum account' ↔ account = account' := by
  constructor
  · intro h
    have hnumber := hclient.hexNumber_checksum account
    rw [h, hclient.hexNumber_checksum account'] at hnumber
    exact Fin.ext (Option.some.inj hnumber).symm
  · intro h
    rw [h]

/-! ## Ballots -/

/-- The texts of a ballot spell the arguments of the contract. -/
structure Ballot.Spells (checksum : Address → String) (value : Ballot) (v : Governor.CfpBallot) :
    Prop where
  proposalId : value.proposalId = v.proposalId
  sessionId : value.sessionId = v.sessionId
  house : value.house = v.house.toUint8
  member : value.member = checksum v.member
  intensity : value.intensity = v.intensity
  nonce : value.nonce = v.nonce
  deadline : value.deadline = v.deadline

theorem toUint8_injective : Function.Injective Governor.House.toUint8 := by
  intro house house' h
  cases house <;> cases house' <;> first | rfl | cases h

theorem Ballot.Spells.unique (hclient : Client P checksum lib) {value : Ballot} {v v' : Governor.CfpBallot}
    (h : value.Spells checksum v) (h' : value.Spells checksum v') : v = v' := by
  have hproposal := Fin.ext (h.proposalId.symm.trans h'.proposalId)
  have hsession := Fin.ext (h.sessionId.symm.trans h'.sessionId)
  have hhouse := toUint8_injective (h.house.symm.trans h'.house)
  have hmember := hclient.checksum_inj.mp (h.member.symm.trans h'.member)
  have hintensity := Subtype.ext (h.intensity.symm.trans h'.intensity)
  have hnonce := Fin.ext (h.nonce.symm.trans h'.nonce)
  have hdeadline := Fin.ext (h.deadline.symm.trans h'.deadline)
  cases v
  cases v'
  congr

/-- The relayer serves the governor on the chain of the block. -/
structure GovernanceConfig.Serves (checksum : Address → String) (config : GovernanceConfig)
    (d : Governor.Deployment) (b : Block) : Prop where
  chainId : config.chainId = b.chainId
  governor : config.governorAddress = checksum d.self
  fits : config.chainId < 2 ^ 256

/-- The domain of a contract. -/
def contractDomain (P : Primitives) (name : String) (chainId : ℕ) (contract : Address) : TypedStruct where
  type := "EIP712Domain(string name,string version,uint256 chainId," ++ "address verifyingContract)"
  words := [P.keccak256 (utf8 name), P.keccak256 (utf8 "1"), chainId, contract]

@[simp]
theorem contractDomain_words (name : String) (chainId : ℕ) (contract : Address) :
    (contractDomain P name chainId contract).words =
      [(P.keccak256 (utf8 name) : ℕ), P.keccak256 (utf8 "1"), chainId, contract] :=
  rfl

theorem encodeType_domain : encodeType "EIP712Domain" [("name", "string"), ("version", "string"),
    ("chainId", "uint256"), ("verifyingContract", "address")] =
      "EIP712Domain(string name,string version,uint256 chainId," ++ "address verifyingContract)" := by
  decide +kernel

theorem domainOf_eq {td : Gateway.TypedData} {contract : Address} (hversion : td.domainVersion = "1")
    (hchain : td.chainId < 2 ^ 256)
    (hcontract : td.verifyingContract.map (accountOf checksum) = some (some contract)) :
    domainOf checksum P td = some (contractDomain P td.domainName td.chainId contract) := by
  obtain ⟨text, htext, haccount⟩ := Option.map_eq_some_iff.mp hcontract
  rw [domainOf, htext, hversion]
  apply structOf_eq encodeType_domain
  refine .cons ?_ (.cons ?_ (.cons ?_ (.cons ?_ .nil)))
  · exact memberWord_eq ofName?_string rfl rfl
  · exact memberWord_eq ofName?_string rfl rfl
  · exact memberWord_eq ofName?_uint256 rfl (word_uint_of_lt hchain)
  · exact memberWord_eq ofName?_address rfl (by rw [MemberType.word, haccount, Option.map_some])

/-- `CfpBallot` of the contract. -/
def ballotStruct (v : Governor.CfpBallot) : TypedStruct where
  type := "CfpBallot(uint256 proposalId,uint256 sessionId,uint8 house," ++
    "address member,int8 intensity,uint256 nonce,uint256 deadline)"
  words := [v.proposalId, v.sessionId, v.house.toUint8, v.member, v.intensity.word, v.nonce, v.deadline]

@[simp]
theorem ballotStruct_words (v : Governor.CfpBallot) :
    (ballotStruct v).words = [(v.proposalId : ℕ), v.sessionId, v.house.toUint8, v.member,
      v.intensity.word, v.nonce, v.deadline] :=
  rfl

theorem ballot_digest (d : Governor.Deployment) (v : Governor.CfpBallot) :
    v.digest P d b = typedDataHash P
      (contractDomain P "Creator First Bicameral Governor" b.chainId d.self) (ballotStruct v) :=
  rfl

theorem encodeType_ballot : encodeType "CfpBallot" [("proposalId", "uint256"), ("sessionId", "uint256"),
    ("house", "uint8"), ("member", "address"), ("intensity", "int8"), ("nonce", "uint256"),
    ("deadline", "uint256")] =
      "CfpBallot(uint256 proposalId,uint256 sessionId,uint8 house," ++
        "address member,int8 intensity,uint256 nonce,uint256 deadline)" := by
  decide +kernel

/-- The relayer and the governor take the same digest. -/
theorem hashTypedData_ballot (hclient : Client P checksum lib) {config : GovernanceConfig}
    {d : Governor.Deployment} (hserves : config.Serves checksum d b) {value : Ballot}
    {v : Governor.CfpBallot} (hspells : value.Spells checksum v) :
    hashTypedData checksum P (governanceBallotTypedData config value) = some (v.digest P d b) := by
  have hdomain : domainOf checksum P (governanceBallotTypedData config value) = some
      (contractDomain P "Creator First Bicameral Governor" config.chainId d.self) := by
    apply domainOf_eq rfl hserves.fits
    simp [governanceBallotTypedData, hserves.governor, hclient.accountOf_checksum]
  have hhouse : v.house.toUint8 < 2 ^ 8 := by cases v.house <;> decide
  have hstruct : structOf P (accountOf checksum) "CfpBallot"
      (governanceBallotTypedData config value).types (governanceBallotTypedData config value).message =
        some (ballotStruct v) := by
    apply structOf_eq encodeType_ballot
    refine .cons ?_ (.cons ?_ (.cons ?_ (.cons ?_ (.cons ?_ (.cons ?_ (.cons ?_ .nil))))))
    · exact memberWord_eq ofName?_uint256 rfl (by rw [hspells.proposalId, word_uint_of_lt v.proposalId.isLt])
    · exact memberWord_eq ofName?_uint256 rfl (by rw [hspells.sessionId, word_uint_of_lt v.sessionId.isLt])
    · exact memberWord_eq ofName?_uint8 rfl (by rw [hspells.house, word_uint_of_lt hhouse])
    · exact memberWord_eq ofName?_address rfl
        (by rw [hspells.member, MemberType.word, hclient.accountOf_checksum, Option.map_some])
    · exact memberWord_eq ofName?_int8 rfl
        (by rw [hspells.intensity, word_int, if_pos v.intensity.property, Sint.word])
    · exact memberWord_eq ofName?_uint256 rfl (by rw [hspells.nonce, word_uint_of_lt v.nonce.isLt])
    · exact memberWord_eq ofName?_uint256 rfl (by rw [hspells.deadline, word_uint_of_lt v.deadline.isLt])
  rw [ballot_digest, ← hserves.chainId]
  exact hashTypedData_eq hdomain hstruct

/-- The signer of a ballot that the relayer accepts is its member, and the ballot has arguments for the
contract. -/
theorem exists_spells (hclient : Client P checksum lib) {config : GovernanceConfig} {value : Ballot}
    (hhouse : value.house = 1 ∨ value.house = 2) (hintensity : -9 ≤ value.intensity ∧ value.intensity ≤ 9)
    {member : Address} (hmember : value.member = checksum member)
    (hsigned : ballotSigned lib config value = .ok ()) :
    ∃ v : Governor.CfpBallot, value.Spells checksum v := by
  have hrecovered : (lib.recoverTypedDataAddress (governanceBallotTypedData config value)
      value.signature).isSome := by
    cases hnone : lib.recoverTypedDataAddress (governanceBallotTypedData config value)
        value.signature with
    | none =>
      rw [ballotSigned, hnone] at hsigned
      cases hsigned
    | some recovered => rfl
  have hencoded := isSome_struct_of_hash (hclient.encodes _ _ (by
    simp [governanceBallotTypedData]) hrecovered)
  have hrange (name : String) {n : ℕ} (hm : (name, "uint256") ∈ (governanceBallotTypedData config value).types)
      (htext : (governanceBallotTypedData config value).message.lookup name = some (toString n)) :
      n < 2 ^ 256 :=
    uint_lt_of_isSome ofName?_uint256 htext (isSome_memberWord hencoded hm)
  have hproposal : value.proposalId < 2 ^ 256 :=
    hrange "proposalId" (by simp [governanceBallotTypedData]) rfl
  have hsession : value.sessionId < 2 ^ 256 :=
    hrange "sessionId" (by simp [governanceBallotTypedData]) rfl
  have hnonce : value.nonce < 2 ^ 256 := hrange "nonce" (by simp [governanceBallotTypedData]) rfl
  have hdeadline : value.deadline < 2 ^ 256 :=
    hrange "deadline" (by simp [governanceBallotTypedData]) rfl
  have hhouses : ∃ house : Governor.House, value.house = house.toUint8 := by
    obtain h | h := hhouse
    · exact ⟨.creator, h⟩
    · exact ⟨.user, h⟩
  obtain ⟨house, hhouse⟩ := hhouses
  exact ⟨⟨⟨_, hproposal⟩, ⟨_, hsession⟩, house, member, ⟨value.intensity, by omega⟩, ⟨_, hnonce⟩,
    ⟨_, hdeadline⟩⟩, rfl, rfl, hhouse, hmember, rfl, rfl, rfl⟩

/-- Where the governor recovers a signer at all, the relayer accepts the ballot exactly if the governor
recovers the member. -/
theorem ballotSigned_iff (hclient : Client P checksum lib) {config : GovernanceConfig}
    {d : Governor.Deployment} (hserves : config.Serves checksum d b) {value : Ballot}
    {v : Governor.CfpBallot} (hspells : value.Spells checksum v) {signer : Address}
    (hsigner : P.recover (v.digest P d b) (hexBytes value.signature) = some signer) :
    ballotSigned lib config value = .ok () ↔ signer = v.member := by
  have hrecovered : lib.recoverTypedDataAddress (governanceBallotTypedData config value)
      value.signature = some (checksum signer) :=
    hclient.recovers _ _ _ _ (hashTypedData_ballot hclient hserves hspells) hsigner
  have hcheck : ballotSigned lib config value = requireValue (checksum signer = checksum v.member)
      401 "BALLOT_SIGNER_MISMATCH" "Ballot signer does not match the member" := by
    simp only [ballotSigned, hrecovered, requireSome, ok_bind, hclient.getAddress_checksum, hspells.member]
  rw [hcheck, requireValue_eq_ok, decide_eq_true_iff, hclient.checksum_inj]

/-! ## Support intents -/

structure SupportIntent.Spells (checksum : Address → String) (value : SupportIntent)
    (v : Supporter.SupportIntent) : Prop where
  creatorId : hexNumber 64 value.creatorId = some (v.creatorId : ℕ)
  holder : value.holder = checksum v.holder
  nonce : value.nonce = v.nonce
  deadline : value.deadline = v.deadline
  consentVersion : hexNumber 64 value.consentVersion = some (v.consentVersion : ℕ)

theorem SupportIntent.Spells.unique (hclient : Client P checksum lib) {value : SupportIntent}
    {v v' : Supporter.SupportIntent} (h : value.Spells checksum v) (h' : value.Spells checksum v') :
    v = v' := by
  have hcreator := Fin.ext (Option.some.inj (h.creatorId.symm.trans h'.creatorId))
  have hholder := hclient.checksum_inj.mp (h.holder.symm.trans h'.holder)
  have hnonce := Fin.ext (h.nonce.symm.trans h'.nonce)
  have hdeadline := Fin.ext (h.deadline.symm.trans h'.deadline)
  have hconsent := Fin.ext (Option.some.inj (h.consentVersion.symm.trans h'.consentVersion))
  cases v
  cases v'
  congr

/-- The relayer serves the token on the chain of the block. -/
structure SupporterConfig.Serves (checksum : Address → String) (config : SupporterConfig)
    (d : Supporter.Deployment) (b : Block) : Prop where
  chainId : config.chainId = b.chainId
  supporterSbt : config.supporterSbtAddress = checksum d.self
  fits : config.chainId < 2 ^ 256

/-- `SupportIntent` of the contract. -/
def intentStruct (v : Supporter.SupportIntent) : TypedStruct where
  type := "SupportIntent(bytes32 creatorId,address holder,uint256 nonce," ++
    "uint256 deadline,bytes32 consentVersion)"
  words := [v.creatorId, v.holder, v.nonce, v.deadline, v.consentVersion]

@[simp]
theorem intentStruct_words (v : Supporter.SupportIntent) :
    (intentStruct v).words = [(v.creatorId : ℕ), v.holder, v.nonce, v.deadline, v.consentVersion] :=
  rfl

theorem intent_digest (d : Supporter.Deployment) (v : Supporter.SupportIntent) :
    v.digest P d b = typedDataHash P
      (contractDomain P "Creator First Supporter SBT" b.chainId d.self) (intentStruct v) :=
  rfl

theorem encodeType_intent : encodeType "SupportIntent" [("creatorId", "bytes32"), ("holder", "address"),
    ("nonce", "uint256"), ("deadline", "uint256"), ("consentVersion", "bytes32")] =
      "SupportIntent(bytes32 creatorId,address holder,uint256 nonce," ++
        "uint256 deadline,bytes32 consentVersion)" := by
  decide +kernel

/-- The relayer and the token take the same digest. -/
theorem hashTypedData_intent (hclient : Client P checksum lib) {config : SupporterConfig}
    {d : Supporter.Deployment} (hserves : config.Serves checksum d b) {value : SupportIntent}
    {v : Supporter.SupportIntent} (hspells : value.Spells checksum v) :
    hashTypedData checksum P (supportTypedData config value) = some (v.digest P d b) := by
  have hdomain : domainOf checksum P (supportTypedData config value) = some
      (contractDomain P "Creator First Supporter SBT" config.chainId d.self) := by
    apply domainOf_eq rfl hserves.fits
    simp [supportTypedData, hserves.supporterSbt, hclient.accountOf_checksum]
  have hstruct : structOf P (accountOf checksum) "SupportIntent"
      (supportTypedData config value).types (supportTypedData config value).message =
        some (intentStruct v) := by
    apply structOf_eq encodeType_intent
    refine .cons ?_ (.cons ?_ (.cons ?_ (.cons ?_ (.cons ?_ .nil))))
    · exact memberWord_eq ofName?_bytes32 rfl hspells.creatorId
    · exact memberWord_eq ofName?_address rfl
        (by rw [hspells.holder, MemberType.word, hclient.accountOf_checksum, Option.map_some])
    · exact memberWord_eq ofName?_uint256 rfl (by rw [hspells.nonce, word_uint_of_lt v.nonce.isLt])
    · exact memberWord_eq ofName?_uint256 rfl (by rw [hspells.deadline, word_uint_of_lt v.deadline.isLt])
    · exact memberWord_eq ofName?_bytes32 rfl hspells.consentVersion
  rw [intent_digest, ← hserves.chainId]
  exact hashTypedData_eq hdomain hstruct

/-- An intent whose signer the relayer has found has arguments for the token. -/
theorem exists_intent_spells (hclient : Client P checksum lib) {config : SupporterConfig}
    {value : SupportIntent} {holder : Address} (hholder : value.holder = checksum holder)
    (hsigned : supporterRecovered lib config value = .awaits .reading) :
    ∃ v : Supporter.SupportIntent, value.Spells checksum v := by
  have hrecovered : (lib.recoverTypedDataAddress (supportTypedData config value)
      value.signature).isSome := by
    cases hnone : lib.recoverTypedDataAddress (supportTypedData config value) value.signature with
    | none => simp [supporterRecovered, hnone] at hsigned
    | some recovered => rfl
  have hencoded := isSome_struct_of_hash (hclient.encodes _ _ (by simp [supportTypedData]) hrecovered)
  have hnumber (name : String) {n : ℕ} (hm : (name, "uint256") ∈ (supportTypedData config value).types)
      (htext : (supportTypedData config value).message.lookup name = some (toString n)) : n < 2 ^ 256 :=
    uint_lt_of_isSome ofName?_uint256 htext (isSome_memberWord hencoded hm)
  have hbytes (name : String) {text : String}
      (hm : (name, "bytes32") ∈ (supportTypedData config value).types)
      (htext : (supportTypedData config value).message.lookup name = some text) :
      ∃ word : Bytes32, hexNumber 64 text = some (word : ℕ) := by
    have hword := isSome_memberWord hencoded hm
    simp only [memberWord, ofName?_bytes32, htext, Option.bind_eq_bind, Option.bind_some] at hword
    obtain ⟨n, hn⟩ := Option.isSome_iff_exists.mp hword
    exact ⟨⟨n, (hexNumber_lt hn).trans_eq (by norm_num)⟩, hn⟩
  obtain ⟨creatorId, hcreatorId⟩ := hbytes "creatorId" (by simp [supportTypedData]) rfl
  obtain ⟨consentVersion, hconsent⟩ := hbytes "consentVersion" (by simp [supportTypedData]) rfl
  have hnonce : value.nonce < 2 ^ 256 := hnumber "nonce" (by simp [supportTypedData]) rfl
  have hdeadline : value.deadline < 2 ^ 256 := hnumber "deadline" (by simp [supportTypedData]) rfl
  exact ⟨⟨creatorId, holder, ⟨_, hnonce⟩, ⟨_, hdeadline⟩, consentVersion⟩, hcreatorId, hholder, rfl, rfl,
    hconsent⟩

/-- Where the token recovers a signer at all, the relayer goes on exactly if the token recovers the
holder. -/
theorem supporterRecovered_iff (hclient : Client P checksum lib) {config : SupporterConfig}
    {d : Supporter.Deployment} (hserves : config.Serves checksum d b) {value : SupportIntent}
    {v : Supporter.SupportIntent} (hspells : value.Spells checksum v) {signer : Address}
    (hsigner : P.recover (v.digest P d b) (hexBytes value.signature) = some signer) :
    supporterRecovered lib config value = .awaits .reading ↔ signer = v.holder := by
  have hrecovered : lib.recoverTypedDataAddress (supportTypedData config value)
      value.signature = some (checksum signer) :=
    hclient.recovers _ _ _ _ (hashTypedData_intent hclient hserves hspells) hsigner
  simp only [supporterRecovered, hrecovered, hclient.getAddress_checksum, hspells.holder, ne_eq,
    hclient.checksum_inj]
  split <;> simp_all

/-- The relayers and the contracts take one digest, and find one signer in it. -/
theorem signatures_agree {P : Primitives} {checksum : Address → String} {lib : Library}
    (hclient : Client P checksum lib) :
    (∀ (config : GovernanceConfig) (d : Governor.Deployment) (b : Block) (value : Ballot)
      (v : Governor.CfpBallot), config.Serves checksum d b → value.Spells checksum v →
      hashTypedData checksum P (governanceBallotTypedData config value) = some (v.digest P d b) ∧
      ∀ signer, P.recover (v.digest P d b) (hexBytes value.signature) = some signer →
        (ballotSigned lib config value = .ok () ↔ signer = v.member)) ∧
    ∀ (config : SupporterConfig) (d : Supporter.Deployment) (b : Block) (value : SupportIntent)
      (v : Supporter.SupportIntent), config.Serves checksum d b → value.Spells checksum v →
      hashTypedData checksum P (supportTypedData config value) = some (v.digest P d b) ∧
      ∀ signer, P.recover (v.digest P d b) (hexBytes value.signature) = some signer →
        (supporterRecovered lib config value = .awaits .reading ↔ signer = v.holder) :=
  ⟨fun _ _ _ _ _ hserves hspells ↦ ⟨hashTypedData_ballot hclient hserves hspells,
      fun _ hsigner ↦ ballotSigned_iff hclient hserves hspells hsigner⟩,
    fun _ _ _ _ _ hserves hspells ↦ ⟨hashTypedData_intent hclient hserves hspells,
      fun _ hsigner ↦ supporterRecovered_iff hclient hserves hspells hsigner⟩⟩

/-! ## A client -/

/-- `viem` for the relayers, over any hash and any recovery. -/
def clientOf (P : Primitives) (sha256 : String → String) : Library where
  getAddress
    | .string text => (hexNumber 40 text).bind fun n ↦
        if hn : n < 2 ^ 160 then some (checksumAddress P ⟨n, hn⟩) else none
    | _ => none
  recoverTypedDataAddress td signature := (hashTypedData (checksumAddress P) P td).bind fun digest ↦
    (P.recover digest (hexBytes signature)).map (checksumAddress P)
  sha256 := sha256

theorem client_clientOf (P : Primitives) (sha256 : String → String) :
    Client P (checksumAddress P) (clientOf P sha256) where
  hexNumber_checksum := hexNumber_checksumAddress P
  getAddress_text := by
    intro value text h
    cases value with
    | string value =>
      obtain ⟨n, -, hn⟩ := Option.bind_eq_some_iff.mp h
      split at hn
      · exact ⟨_, (Option.some.inj hn).symm⟩
      · cases hn
    | _ => cases h
  getAddress_checksum := by
    intro account
    simp [clientOf, hexNumber_checksumAddress]
  recovers := by
    intro td signature digest account hdigest hrecover
    simp [clientOf, hdigest, hrecover]
  encodes := by
    intro td signature _ h
    cases hdigest : hashTypedData (checksumAddress P) P td with
    | none => simp [clientOf, hdigest] at h
    | some digest => rfl

namespace Sample

/-- The hashes and the signatures of the contracts, and the hashes of two small texts. -/
def primitives : Primitives where
  keccak256 x := (([(utf8 "7e5f4552091a69125d5dfcb7b8c2659029395bdf",
      (0xa8aaec6aceafa450816b295770adcd144ce18d630d6ce74288aa4f1569eda4ca : Bytes32)),
    (utf8 "0000000000000000000000000000000000001000",
      0xf21d60975672f269db6feda4cd8de23ffe5fbaaebc647ca0932fb0811581f7fc)] ++
    Governor.Sample.hashes ++ Supporter.Sample.hashes).lookup x).getD 0
  recover digest signature := (Governor.Sample.primitives.recover digest signature).or
    (Supporter.Sample.primitives.recover digest signature)
  verifyProof _ _ _ := false

def signer : String := "0x7E5F4552091A69125d5DfCb7b8C2659029395Bdf"

def contractText : String := "0x0000000000000000000000000000000000001000"

def signedBallot : Ballot where
  proposalId := 1
  sessionId := 1
  house := 1
  member := signer
  intensity := 2
  nonce := 0
  deadline := 1100
  signature := "0xf01d6b9018ab421dd410404cb869072065522bf85734008f105cf385a023a80f" ++
    "03cd1c907c7c4573b91e0d37242e930b9d3797d4d3cc87f470112e6dc1c62a561c"

def signedIntent : SupportIntent where
  holder := signer
  creatorId := "0x0000000000000000000000000000000000000000000000000000000000000007"
  nonce := 0
  deadline := 2000
  consentVersion := "0x0000000000000000000000000000000000000000000000000000000000000009"
  signature := "0xf01d6b9018ab421dd410404cb869072065522bf85734008f105cf385a023a80f" ++
    "3e186a8b1a965ad8b4f5cd8948651515cd1508e61a162f5fc6a71668174283a31c"

/-- The client takes the two payloads to their digests. -/
def client : Library :=
  clientOf primitives fun text ↦
    if text = Script.Json.stringify signedBallot.payload then
      "41bef933ccd28d8af797c56571336fb6dc58f01149144d0eda9f8c96220968df"
    else "6b94cbd5d7da9748c66b37cfd8a5e865fd9ee49b5227f24c15055fd213a36da0"

def ballotConfig : GovernanceConfig where
  chainId := 80002
  governorAddress := contractText

def intentConfig : SupporterConfig where
  chainId := 80002
  supporterSbtAddress := contractText
  allowedCreatorIds := ["0x0000000000000000000000000000000000000000000000000000000000000007"]

theorem client_sound : Client primitives (checksumAddress primitives) client := client_clientOf _ _

/-- What the texts of the two payloads spell, by one evaluation. -/
theorem texts_eq : signer = checksumAddress primitives Governor.Sample.creator ∧
    contractText = checksumAddress primitives 0x1000 ∧
    hexNumber 64 signedIntent.creatorId = some 7 ∧ hexNumber 64 signedIntent.consentVersion = some 9 := by
  decide +kernel

theorem signer_eq : signer = checksumAddress primitives Governor.Sample.creator := texts_eq.1

theorem contractText_eq : contractText = checksumAddress primitives 0x1000 := texts_eq.2.1

theorem ballotConfig_serves (timestamp : ℕ) : ballotConfig.Serves (checksumAddress primitives)
    Governor.Sample.deployment ⟨timestamp, 80002⟩ :=
  ⟨rfl, contractText_eq, by decide⟩

theorem intentConfig_serves (timestamp : ℕ) : intentConfig.Serves (checksumAddress primitives)
    Supporter.Sample.deployment ⟨timestamp, 80002⟩ :=
  ⟨rfl, contractText_eq, by decide⟩

theorem signedBallot_spells : signedBallot.Spells (checksumAddress primitives)
    (Governor.Sample.signedBallot 0) :=
  ⟨rfl, rfl, rfl, signer_eq, rfl, rfl, rfl⟩

theorem signedIntent_spells : signedIntent.Spells (checksumAddress primitives)
    (Supporter.Sample.intent Supporter.Sample.fan 0) :=
  ⟨texts_eq.2.2.1, signer_eq, rfl, rfl, texts_eq.2.2.2⟩

end Sample

/-- One wallet has signed a ballot and an intent for contracts at one address. -/
theorem signatures_agree_sample :
    ballotSigned Sample.client Sample.ballotConfig Sample.signedBallot = .ok () ∧
    supporterRecovered Sample.client Sample.intentConfig Sample.signedIntent = .awaits .reading := by
  have hagree := signatures_agree Sample.client_sound
  have hballot := (hagree.1 _ _ _ _ _ (Sample.ballotConfig_serves 1040) Sample.signedBallot_spells).2
    Governor.Sample.creator (by decide +kernel)
  have hintent := (hagree.2 _ _ _ _ _ (Sample.intentConfig_serves 1100) Sample.signedIntent_spells).2
    Supporter.Sample.fan (by decide +kernel)
  exact ⟨hballot.mpr rfl, hintent.mpr rfl⟩

end CreatorFirst.Relay
