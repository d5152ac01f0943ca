import CreatorFirst.Gateway.AccountTrust
import CreatorFirst.Gateway.Support
import CreatorFirst.Relay.Signatures

/-!
# What wallets sign

A wallet of the platform signs ballots, support intents, bindings to an account, support intents of the
demonstration, and the messages that it signs in with. Each has a digest of its own, so that a signature
for one counts for no other: not for another purpose, not on another chain, not at another contract and
not with another content.
-/

namespace CreatorFirst.Relay

open Chain

/-- `WalletBindingIntent`, without what is constant. -/
structure WalletBinding where
  accountSubjectCommitment : Bytes32
  walletAddress : Address
  bindingNonce : Bytes32
  issuedAt : Uint 64
  deadline : Uint 64
  deriving DecidableEq

/-- `SupportIntent` of the demonstration, without what is constant. -/
structure DemoSupport where
  supporter : Address
  artistId : String
  nonce : Bytes32
  deadline : Uint 256
  deriving DecidableEq

/-- Typed data that wallets sign, with the chain and the contract they are for. -/
inductive TypedPurpose where
  | ballot (chainId : Uint 256) (governor : Address) (v : Governor.CfpBallot)
  | supporter (chainId : Uint 256) (token : Address) (v : Supporter.SupportIntent)
  | binding (chainId : Uint 256) (v : WalletBinding)
  | demoSupport (chainId : Uint 256) (v : DemoSupport)
  deriving DecidableEq

inductive Purpose where
  | typed (x : TypedPurpose)
  | signIn (message : String)
  deriving DecidableEq

def TypedPurpose.domainName : TypedPurpose → String
  | .ballot _ _ _ => "Creator First Bicameral Governor"
  | .supporter _ _ _ => "Creator First Supporter SBT"
  | .binding _ _ => "Creator First Account Trust Demo"
  | .demoSupport _ _ => "Creator First Supporter Demo"

/-- The contract of the demonstration, which is nowhere deployed. -/
def demoContract : Address := 0x5192

section

variable (P : Primitives)

/-- The domain of data that are for no contract. -/
def chainDomain (name : String) (chainId : ℕ) : TypedStruct where
  type := "EIP712Domain(string name,string version,uint256 chainId)"
  words := [P.keccak256 (utf8 name), P.keccak256 (utf8 "1"), chainId]

def TypedPurpose.domain : TypedPurpose → TypedStruct
  | .ballot chainId governor _ => contractDomain P "Creator First Bicameral Governor" chainId governor
  | .supporter chainId token _ => contractDomain P "Creator First Supporter SBT" chainId token
  | .binding chainId _ => chainDomain P "Creator First Account Trust Demo" chainId
  | .demoSupport chainId _ => contractDomain P "Creator First Supporter Demo" chainId demoContract

/-- `WalletBindingIntent` of the gateway. -/
def bindingStruct (chainId : Uint 256) (v : WalletBinding) : TypedStruct where
  type := "WalletBindingIntent(bytes32 accountSubjectCommitment,address walletAddress," ++
    "uint256 chainId,bytes32 bindingNonce,uint64 issuedAt,uint64 deadline,string purpose," ++
    "uint32 policyVersion)"
  words := [v.accountSubjectCommitment, v.walletAddress, chainId, v.bindingNonce, v.issuedAt,
    v.deadline, P.keccak256 (utf8 Gateway.AccountTrust.purpose), Gateway.AccountTrust.policyVersion]

/-- `SupportIntent` of the gateway. -/
def demoStruct (v : DemoSupport) : TypedStruct where
  type := "SupportIntent(address supporter,string artistId,bytes32 nonce,uint256 deadline," ++
    "uint32 consentVersion)"
  words := [v.supporter, P.keccak256 (utf8 v.artistId), v.nonce, v.deadline, 1]

def TypedPurpose.message : TypedPurpose → TypedStruct
  | .ballot _ _ v => ballotStruct v
  | .supporter _ _ v => intentStruct v
  | .binding chainId v => bindingStruct P chainId v
  | .demoSupport _ v => demoStruct P v

/-- The digest that is signed. -/
def Purpose.digest : Purpose → Bytes32
  | .typed x => typedDataHash P (x.domain P) (x.message P)
  | .signIn message => personalHash P (utf8 message)

/-- The texts of which the words have the hash. -/
def TypedPurpose.texts : TypedPurpose → Set Bytes
  | .demoSupport _ v => {utf8 "Creator First Supporter Demo", utf8 v.artistId}
  | x => {utf8 x.domainName}

/-- What is hashed on the way to the digest. -/
def Purpose.hashed : Purpose → Set Bytes
  | .typed x => typedDataPreimages P (x.domain P) (x.message P) ∪ x.texts
  | .signIn message => {personalPreimage (utf8 message)}

end

variable {P : Primitives}

@[simp]
theorem chainDomain_words (name : String) (chainId : ℕ) :
    (chainDomain P name chainId).words = [(P.keccak256 (utf8 name) : ℕ), P.keccak256 (utf8 "1"), chainId] :=
  rfl

@[simp]
theorem bindingStruct_words (chainId : Uint 256) (v : WalletBinding) :
    (bindingStruct P chainId v).words = [(v.accountSubjectCommitment : ℕ), v.walletAddress, chainId,
      v.bindingNonce, v.issuedAt, v.deadline, P.keccak256 (utf8 Gateway.AccountTrust.purpose), 1] :=
  rfl

@[simp]
theorem demoStruct_words (v : DemoSupport) :
    (demoStruct P v).words = [(v.supporter : ℕ), P.keccak256 (utf8 v.artistId), v.nonce, v.deadline, 1] :=
  rfl

theorem TypedPurpose.domainName_mem (x : TypedPurpose) : utf8 x.domainName ∈ x.texts := by
  cases x <;> simp [texts, domainName]

theorem address_lt (account : Address) : (account : ℕ) < 2 ^ 256 :=
  account.isLt.trans_le (Nat.pow_le_pow_right (by decide) (by decide))

theorem toNat_emod_lt (n : ℤ) {m : ℕ} (hm : 0 < m) : (n % m).toNat < m := by
  have hpos : (0 : ℤ) < m := Nat.cast_pos.mpr hm
  rw [Int.toNat_lt (Int.emod_nonneg n hpos.ne')]
  exact Int.emod_lt_of_pos n hpos

theorem sint_word_lt {w : ℕ} (a : Sint w) : a.word < 2 ^ 256 := by
  have hlt := toNat_emod_lt (a : ℤ) (Nat.two_pow_pos 256)
  rwa [Nat.cast_pow, Nat.cast_ofNat] at hlt

theorem eq_of_toNat_emod {m : ℕ} {i j : ℤ} (hm : 0 < m) (hi : |i - j| < m)
    (h : (i % m).toNat = (j % m).toNat) : i = j := by
  have hpos : (0 : ℤ) < m := Nat.cast_pos.mpr hm
  have hmod : i % m = j % m := by
    have hcast := congrArg (Nat.cast (R := ℤ)) h
    rwa [Int.toNat_of_nonneg (Int.emod_nonneg i hpos.ne'),
      Int.toNat_of_nonneg (Int.emod_nonneg j hpos.ne')] at hcast
  have hdvd : (m : ℤ) ∣ i - j :=
    Int.dvd_of_emod_eq_zero (Int.emod_eq_emod_iff_emod_sub_eq_zero.mp hmod)
  exact sub_eq_zero.mp (Int.eq_zero_of_abs_lt_dvd hdvd hi)

theorem sint8_word_inj {a b : Sint 8} (h : a.word = b.word) : a = b := by
  obtain ⟨a, ha, ha'⟩ := a
  obtain ⟨b, hb, hb'⟩ := b
  have hclose : |a - b| < ((2 ^ 256 : ℕ) : ℤ) := by
    rw [Nat.cast_pow, Nat.cast_ofNat, abs_lt]
    constructor <;> omega
  apply Subtype.ext
  apply eq_of_toNat_emod (Nat.two_pow_pos 256) hclose
  rw [Nat.cast_pow, Nat.cast_ofNat]
  exact h

theorem contractDomain_fits (name : String) (chainId : Uint 256) (contract : Address) :
    (contractDomain P name chainId contract).Fits := by
  simp only [TypedStruct.Fits, contractDomain_words, List.forall_mem_cons]
  exact ⟨Fin.isLt _, Fin.isLt _, chainId.isLt, address_lt contract, List.forall_mem_nil _⟩

theorem TypedPurpose.domain_fits (x : TypedPurpose) : (x.domain P).Fits := by
  cases x with
  | ballot chainId governor v => exact contractDomain_fits _ _ _
  | supporter chainId token v => exact contractDomain_fits _ _ _
  | demoSupport chainId v => exact contractDomain_fits _ _ _
  | binding chainId v =>
    simp only [TypedStruct.Fits, domain, chainDomain_words, List.forall_mem_cons]
    exact ⟨Fin.isLt _, Fin.isLt _, chainId.isLt, List.forall_mem_nil _⟩

theorem TypedPurpose.message_fits (x : TypedPurpose) : (x.message P).Fits := by
  cases x with
  | ballot chainId governor v =>
    have hhouse : v.house.toUint8 < 2 ^ 256 :=
      (show v.house.toUint8 < 3 by cases v.house <;> decide).trans (by decide)
    simp only [TypedStruct.Fits, message, ballotStruct_words, List.forall_mem_cons]
    exact ⟨v.proposalId.isLt, v.sessionId.isLt, hhouse, address_lt _, sint_word_lt _, v.nonce.isLt,
      v.deadline.isLt, List.forall_mem_nil _⟩
  | supporter chainId token v =>
    simp only [TypedStruct.Fits, message, intentStruct_words, List.forall_mem_cons]
    exact ⟨v.creatorId.isLt, address_lt _, v.nonce.isLt, v.deadline.isLt, v.consentVersion.isLt,
      List.forall_mem_nil _⟩
  | binding chainId v =>
    have hsmall (n : Uint 64) : (n : ℕ) < 2 ^ 256 :=
      n.isLt.trans_le (Nat.pow_le_pow_right (by decide) (by decide))
    simp only [TypedStruct.Fits, message, bindingStruct_words, List.forall_mem_cons]
    exact ⟨v.accountSubjectCommitment.isLt, address_lt _, chainId.isLt, v.bindingNonce.isLt, hsmall _,
      hsmall _, Fin.isLt _, by decide, List.forall_mem_nil _⟩
  | demoSupport chainId v =>
    simp only [TypedStruct.Fits, message, demoStruct_words, List.forall_mem_cons]
    exact ⟨address_lt _, Fin.isLt _, v.nonce.isLt, v.deadline.isLt, by decide, List.forall_mem_nil _⟩

/-- The first word of a domain is the hash of its name. -/
theorem TypedPurpose.head_domain (x : TypedPurpose) :
    (x.domain P).words.head? = some (P.keccak256 (utf8 x.domainName) : ℕ) := by
  cases x <;> rfl

theorem TypedPurpose.head_mem (x : TypedPurpose) : utf8 x.domainName ∈ (Purpose.typed x).hashed P :=
  .inr x.domainName_mem

/-- Data of one digest have one domain and one message, and the domain has one name. -/
theorem TypedPurpose.same {x y : TypedPurpose}
    (hinj : Set.InjOn P.keccak256 ((Purpose.typed x).hashed P ∪ (Purpose.typed y).hashed P))
    (h : (Purpose.typed x).digest P = (Purpose.typed y).digest P) :
    x.domainName = y.domainName ∧ x.domain P = y.domain P ∧ x.message P = y.message P := by
  have hsubset : typedDataPreimages P (x.domain P) (x.message P) ∪
      typedDataPreimages P (y.domain P) (y.message P) ⊆
        (Purpose.typed x).hashed P ∪ (Purpose.typed y).hashed P :=
    Set.union_subset_union Set.subset_union_left Set.subset_union_left
  obtain ⟨hdomain, hmessage⟩ := typedDataHash_inj (hinj.mono hsubset) x.domain_fits x.message_fits
    y.domain_fits y.message_fits h
  have hhead : (P.keccak256 (utf8 x.domainName) : ℕ) = P.keccak256 (utf8 y.domainName) := by
    have hwords := x.head_domain (P := P)
    rw [hdomain, y.head_domain] at hwords
    exact (Option.some.inj hwords).symm
  exact ⟨utf8_injective (hinj (.inl x.head_mem) (.inr y.head_mem) (Fin.ext hhead)), hdomain, hmessage⟩

theorem contractDomain_inj {name : String} {chainId chainId' : Uint 256} {contract contract' : Address}
    (h : contractDomain P name chainId contract = contractDomain P name chainId' contract') :
    chainId = chainId' ∧ contract = contract' := by
  have hwords := congrArg TypedStruct.words h
  simp only [contractDomain_words, List.cons.injEq, Fin.val_inj, true_and, and_true] at hwords
  exact hwords

theorem ballotStruct_injective : Function.Injective ballotStruct := by
  intro v v' h
  have hwords := congrArg TypedStruct.words h
  simp only [ballotStruct_words, List.cons.injEq, Fin.val_inj, toUint8_injective.eq_iff, and_true] at hwords
  obtain ⟨hproposal, hsession, hhouse, hmember, hintensity, hnonce, hdeadline⟩ := hwords
  have hintensity := sint8_word_inj hintensity
  cases v
  cases v'
  congr

theorem intentStruct_injective : Function.Injective intentStruct := by
  intro v v' h
  have hwords := congrArg TypedStruct.words h
  simp only [intentStruct_words, List.cons.injEq, Fin.val_inj, and_true] at hwords
  obtain ⟨hcreator, hsupporter, hnonce, hdeadline, hconsent⟩ := hwords
  cases v
  cases v'
  congr

theorem bindingStruct_inj {chainId chainId' : Uint 256} {v v' : WalletBinding}
    (h : bindingStruct P chainId v = bindingStruct P chainId' v') : chainId = chainId' ∧ v = v' := by
  have hwords := congrArg TypedStruct.words h
  simp only [bindingStruct_words, List.cons.injEq, Fin.val_inj, and_true] at hwords
  obtain ⟨haccount, hwallet, hchain, hnonce, hissued, hdeadline⟩ := hwords
  cases v
  cases v'
  exact ⟨hchain, by congr⟩

/-- The artist is a text, of which the message has the hash. -/
theorem demoStruct_inj {v v' : DemoSupport}
    (hinj : Set.InjOn P.keccak256 {utf8 v.artistId, utf8 v'.artistId})
    (h : demoStruct P v = demoStruct P v') : v = v' := by
  have hwords := congrArg TypedStruct.words h
  simp only [demoStruct_words, List.cons.injEq, Fin.val_inj, and_true] at hwords
  obtain ⟨hsupporter, hhash, hnonce, hdeadline⟩ := hwords
  have hartist := utf8_injective (hinj (Set.mem_insert _ _) (Set.mem_insert_of_mem _ rfl) hhash)
  cases v
  cases v'
  congr

/-- The members of the message and the chain and the contract of the domain say what it is for. -/
theorem TypedPurpose.digest_inj {x y : TypedPurpose}
    (hinj : Set.InjOn P.keccak256 ((Purpose.typed x).hashed P ∪ (Purpose.typed y).hashed P))
    (h : (Purpose.typed x).digest P = (Purpose.typed y).digest P) : x = y := by
  obtain ⟨hname, hdomain, hmessage⟩ := same hinj h
  cases x with
  | ballot chainId governor v =>
    cases y with
    | ballot chainId' governor' v' =>
      obtain ⟨rfl, rfl⟩ := contractDomain_inj hdomain
      rw [ballotStruct_injective hmessage]
    | _ => simp [domainName] at hname
  | supporter chainId token v =>
    cases y with
    | supporter chainId' token' v' =>
      obtain ⟨rfl, rfl⟩ := contractDomain_inj hdomain
      rw [intentStruct_injective hmessage]
    | _ => simp [domainName] at hname
  | binding chainId v =>
    cases y with
    | binding chainId' v' =>
      obtain ⟨rfl, rfl⟩ := bindingStruct_inj hmessage
      rfl
    | _ => simp [domainName] at hname
  | demoSupport chainId v =>
    cases y with
    | demoSupport chainId' v' =>
      have htexts : {utf8 v.artistId, utf8 v'.artistId} ⊆
          (Purpose.typed (.demoSupport chainId v)).hashed P ∪
            (Purpose.typed (.demoSupport chainId' v')).hashed P := by
        intro text htext
        obtain rfl | rfl := htext
        · exact .inl (.inr (.inr rfl))
        · exact .inr (.inr (.inr rfl))
      obtain ⟨rfl, -⟩ := contractDomain_inj hdomain
      rw [demoStruct_inj (hinj.mono htexts) hmessage]
    | _ => simp [domainName] at hname

/-- A digest is of one purpose, where the hash of what is hashed for it is. -/
theorem Purpose.digest_inj {x y : Purpose} (hinj : Set.InjOn P.keccak256 (x.hashed P ∪ y.hashed P))
    (h : x.digest P = y.digest P) : x = y := by
  cases x with
  | typed x =>
    cases y with
    | typed y => exact congrArg _ (TypedPurpose.digest_inj hinj h)
    | signIn message =>
      have hpreimage := hinj (.inl (.inl (by simp [typedDataPreimages]))) (.inr rfl) h
      exact absurd hpreimage.symm (personalPreimage_ne _ _ _)
  | signIn message =>
    cases y with
    | typed y =>
      have hpreimage := hinj (.inl rfl) (.inr (.inl (by simp [typedDataPreimages]))) h
      exact absurd hpreimage (personalPreimage_ne _ _ _)
    | signIn message' =>
      have hpreimage := hinj (.inl rfl) (.inr rfl) h
      exact congrArg _ (utf8_injective (personalPreimage_injective hpreimage))

/-! ## What the gateway has signed -/

/-- The texts of a binding spell its members. -/
structure WalletBinding.SpelledBy (checksum : Address → String)
    (accountSubjectCommitment walletAddress bindingNonce : String) (issuedAt deadline : ℕ)
    (v : WalletBinding) : Prop where
  accountSubjectCommitment : hexNumber 64 accountSubjectCommitment = some (v.accountSubjectCommitment : ℕ)
  walletAddress : walletAddress = checksum v.walletAddress
  bindingNonce : hexNumber 64 bindingNonce = some (v.bindingNonce : ℕ)
  issuedAt : issuedAt = v.issuedAt
  deadline : deadline = v.deadline

structure DemoSupport.SpelledBy (checksum : Address → String) (address artistId nonce : String)
    (deadline : ℕ) (v : DemoSupport) : Prop where
  supporter : address = checksum v.supporter
  artistId : artistId = v.artistId
  nonce : hexNumber 64 ("0x" ++ nonce) = some (v.nonce : ℕ)
  deadline : deadline = v.deadline

/-- The encoded types of the two structs and their domain, by one evaluation. -/
theorem encodeType_purposes :
    encodeType "WalletBindingIntent" [("accountSubjectCommitment", "bytes32"), ("walletAddress", "address"),
        ("chainId", "uint256"), ("bindingNonce", "bytes32"), ("issuedAt", "uint64"), ("deadline", "uint64"),
        ("purpose", "string"), ("policyVersion", "uint32")] =
      "WalletBindingIntent(bytes32 accountSubjectCommitment,address walletAddress," ++
        "uint256 chainId,bytes32 bindingNonce,uint64 issuedAt,uint64 deadline,string purpose," ++
        "uint32 policyVersion)" ∧
    encodeType "EIP712Domain" [("name", "string"), ("version", "string"), ("chainId", "uint256")] =
      "EIP712Domain(string name,string version,uint256 chainId)" ∧
    encodeType "SupportIntent" [("supporter", "address"), ("artistId", "string"), ("nonce", "bytes32"),
        ("deadline", "uint256"), ("consentVersion", "uint32")] =
      "SupportIntent(address supporter,string artistId,bytes32 nonce,uint256 deadline," ++
        "uint32 consentVersion)" := by
  decide +kernel

variable {checksum : Address → String} {lib : Library}

/-- A text without letters is its own checksum. -/
theorem accountOf_demoContract :
    accountOf checksum Gateway.verifyingContract = some demoContract := by
  have hsmall : Gateway.verifyingContract.toLower = Gateway.verifyingContract := by
    apply String.toList_inj.mp
    calc Gateway.verifyingContract.toLower.toList
        = Gateway.verifyingContract.toList.map Char.toLower := String.toList_map
      _ = Gateway.verifyingContract.toList := by decide
  have hnumber : hexNumber 40 Gateway.verifyingContract = some 0x5192 := by decide +kernel
  rw [accountOf, hnumber, Option.bind_some, dif_pos (by decide), if_pos (.inr hsmall)]
  rfl

theorem hashTypedData_binding (hclient : Client P checksum lib) {config : Gateway.ServerConfig}
    {transaction : Gateway.AccountTrust.Transaction} {walletAddress bindingNonce : String}
    {issuedAt deadline : ℕ} {v : WalletBinding} (hchain : config.chainId < 2 ^ 256)
    (hspells : v.SpelledBy checksum transaction.accountSubjectCommitment walletAddress bindingNonce
      issuedAt deadline) :
    hashTypedData checksum P (Gateway.AccountTrust.walletTypedData config transaction walletAddress
      bindingNonce issuedAt deadline) =
        some ((Purpose.typed (.binding ⟨config.chainId, hchain⟩ v)).digest P) := by
  apply hashTypedData_eq
  · apply structOf_eq encodeType_purposes.2.1
    refine .cons ?_ (.cons ?_ (.cons ?_ .nil))
    · exact memberWord_eq ofName?_string rfl rfl
    · exact memberWord_eq ofName?_string rfl rfl
    · exact memberWord_eq ofName?_uint256 rfl (word_uint_of_lt hchain)
  · apply structOf_eq encodeType_purposes.1
    refine .cons ?_ (.cons ?_ (.cons ?_ (.cons ?_ (.cons ?_ (.cons ?_ (.cons ?_ (.cons ?_ .nil)))))))
    · exact memberWord_eq ofName?_bytes32 rfl hspells.accountSubjectCommitment
    · exact memberWord_eq ofName?_address rfl
        (by rw [hspells.walletAddress, MemberType.word, hclient.accountOf_checksum, Option.map_some])
    · exact memberWord_eq ofName?_uint256 rfl (word_uint_of_lt hchain)
    · exact memberWord_eq ofName?_bytes32 rfl hspells.bindingNonce
    · exact memberWord_eq ofName?_uint64 rfl (by rw [hspells.issuedAt, word_uint_of_lt v.issuedAt.isLt])
    · exact memberWord_eq ofName?_uint64 rfl (by rw [hspells.deadline, word_uint_of_lt v.deadline.isLt])
    · exact memberWord_eq ofName?_string rfl rfl
    · exact memberWord_eq ofName?_uint32 rfl (word_uint_of_lt (by decide))

theorem hashTypedData_demo (hclient : Client P checksum lib) {config : Gateway.ServerConfig}
    {address artistId nonce : String} {deadline : ℕ} {v : DemoSupport} (hchain : config.chainId < 2 ^ 256)
    (hspells : v.SpelledBy checksum address artistId nonce deadline) :
    hashTypedData checksum P (Gateway.supportTypedData config address artistId nonce deadline) =
      some ((Purpose.typed (.demoSupport ⟨config.chainId, hchain⟩ v)).digest P) := by
  apply hashTypedData_eq
  · apply domainOf_eq rfl hchain
    exact congrArg some accountOf_demoContract
  · apply structOf_eq encodeType_purposes.2.2
    refine .cons ?_ (.cons ?_ (.cons ?_ (.cons ?_ (.cons ?_ .nil))))
    · exact memberWord_eq ofName?_address rfl
        (by rw [hspells.supporter, MemberType.word, hclient.accountOf_checksum, Option.map_some])
    · exact memberWord_eq ofName?_string rfl (by rw [hspells.artistId]; rfl)
    · exact memberWord_eq ofName?_bytes32 rfl hspells.nonce
    · exact memberWord_eq ofName?_uint256 rfl (by rw [hspells.deadline, word_uint_of_lt v.deadline.isLt])
    · have hone : "1" = toString 1 := by decide
      exact memberWord_eq ofName?_uint32 rfl (by rw [hone, word_uint_of_lt (by decide)])

/-- What the contracts and the gateway have signed are digests of purposes, and a digest is of one
purpose with one content, where the hash of what is hashed for it is. -/
theorem signatures_separate {P : Primitives} {checksum : Address → String} {lib : Library}
    (hclient : Client P checksum lib) :
    (∀ x y : Purpose, Set.InjOn P.keccak256 (x.hashed P ∪ y.hashed P) → x.digest P = y.digest P → x = y) ∧
    (∀ (d : Governor.Deployment) (b : Block) (v : Governor.CfpBallot) (hchain : b.chainId < 2 ^ 256),
      v.digest P d b = (Purpose.typed (.ballot ⟨b.chainId, hchain⟩ d.self v)).digest P) ∧
    (∀ (d : Supporter.Deployment) (b : Block) (v : Supporter.SupportIntent)
      (hchain : b.chainId < 2 ^ 256),
      v.digest P d b = (Purpose.typed (.supporter ⟨b.chainId, hchain⟩ d.self v)).digest P) ∧
    (∀ (config : Gateway.ServerConfig) (transaction : Gateway.AccountTrust.Transaction)
      (walletAddress bindingNonce : String) (issuedAt deadline : ℕ) (v : WalletBinding)
      (hchain : config.chainId < 2 ^ 256),
      v.SpelledBy checksum transaction.accountSubjectCommitment walletAddress bindingNonce issuedAt
        deadline →
      hashTypedData checksum P (Gateway.AccountTrust.walletTypedData config transaction walletAddress
        bindingNonce issuedAt deadline) =
          some ((Purpose.typed (.binding ⟨config.chainId, hchain⟩ v)).digest P)) ∧
    ∀ (config : Gateway.ServerConfig) (address artistId nonce : String) (deadline : ℕ) (v : DemoSupport)
      (hchain : config.chainId < 2 ^ 256),
      v.SpelledBy checksum address artistId nonce deadline →
      hashTypedData checksum P (Gateway.supportTypedData config address artistId nonce deadline) =
        some ((Purpose.typed (.demoSupport ⟨config.chainId, hchain⟩ v)).digest P) :=
  ⟨fun _ _ ↦ Purpose.digest_inj, fun _ _ _ _ ↦ rfl, fun _ _ _ _ ↦ rfl,
    fun _ _ _ _ _ _ _ _ hspells ↦ hashTypedData_binding hclient _ hspells,
    fun _ _ _ _ _ _ _ hspells ↦ hashTypedData_demo hclient _ hspells⟩

namespace Sample

def ballotPurpose : TypedPurpose :=
  .ballot 80002 Governor.Sample.deployment.self (Governor.Sample.signedBallot 0)

def intentPurpose : TypedPurpose :=
  .supporter 80002 Supporter.Sample.deployment.self (Supporter.Sample.intent Supporter.Sample.fan 0)

def typedTexts (x : TypedPurpose) : List Bytes :=
  [(x.domain primitives).encoded primitives, utf8 (x.message primitives).type,
    (x.message primitives).encoded primitives,
    typedDataPreimage primitives (x.domain primitives) (x.message primitives), utf8 x.domainName]

/-- What is hashed for the ballot and for the intent, whose domains have one type. -/
def hashedTexts : List Bytes :=
  utf8 (ballotPurpose.domain primitives).type :: (typedTexts ballotPurpose ++ typedTexts intentPurpose)

theorem hashed_subset : (Purpose.typed ballotPurpose).hashed primitives ∪
    (Purpose.typed intentPurpose).hashed primitives ⊆ {text | text ∈ hashedTexts} := by
  intro text htext
  have htype : (intentPurpose.domain primitives).type = (ballotPurpose.domain primitives).type := rfl
  have hballot : ballotPurpose.texts = {utf8 ballotPurpose.domainName} := rfl
  have hintent : intentPurpose.texts = {utf8 intentPurpose.domainName} := rfl
  simp only [Purpose.hashed, typedDataPreimages, htype, hballot, hintent, Set.mem_union, Set.mem_insert_iff,
    Set.mem_singleton_iff] at htext
  simp only [hashedTexts, typedTexts, Set.mem_ofPred_eq, List.mem_cons, List.cons_append, List.nil_append,
    List.not_mem_nil, or_false]
  tauto

theorem nodup_hashes : (hashedTexts.map primitives.keccak256).Nodup := by decide +kernel

end Sample

/-- What is signed for the ballot does not register a supporter. -/
theorem signatures_separate_sample :
    (Governor.Sample.signedBallot 0).digest Sample.primitives Governor.Sample.deployment ⟨1040, 80002⟩ ≠
      (Supporter.Sample.intent Supporter.Sample.fan 0).digest Sample.primitives
        Supporter.Sample.deployment ⟨1040, 80002⟩ := by
  intro h
  have hall := signatures_separate Sample.client_sound
  have hinj : Set.InjOn Sample.primitives.keccak256 {text | text ∈ Sample.hashedTexts} :=
    fun _ htext _ htext' hsame ↦ List.inj_on_of_nodup_map Sample.nodup_hashes htext htext' hsame
  have hsame := hall.1 _ _ (hinj.mono Sample.hashed_subset) h
  cases hsame

end CreatorFirst.Relay
