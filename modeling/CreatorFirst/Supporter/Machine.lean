import CreatorFirst.Supporter.Operations

/-!
# Runs of the supporter credentials

Anyone may call the token and the adapter, in any order, and a receiver may call either from inside
the transfer that asks it. The token calls receivers only and the adapter only the token, so no
other call comes from one of their addresses; the zero address calls nobody.
-/

namespace CreatorFirst.Supporter

open Chain

inductive Op where
  | access (op : RoleOp)
  | setEarlyPolicy (creatorId : Bytes32) (earlyUntil : Uint 64) (maxEarlySupporters : Uint 32)
      (active : Bool)
  | registerSupporterWithSignature (intent : SupportIntent) (signature : Bytes)
  | registerSelf (creatorId : Bytes32) (nonce deadline : Uint 256) (consentVersion : Bytes32)
      (signature : Bytes)
  | revoke (tokenId : Uint 256)
  | burn (tokenId : Uint 256)
  | approve (recipient : Address) (tokenId : Uint 256)
  | setApprovalForAll (operator : Address) (approved : Bool)
  | transferFrom (owner recipient : Address) (tokenId : Uint 256)
  | safeTransferFrom (owner recipient : Address) (tokenId : Uint 256)
  | setMetadataUris (supporterMetadataUri earlyMetadataUri : Bytes)

section

variable (P : Primitives) (T : Erc721 Address (Uint 256)) (d : Deployment)

def accessOp {T : Erc721 Address (Uint 256)} (sender : Address) (op : RoleOp) (s : State T) :
    Except Error (State T) := do
  let roles ← (s.roles.apply sender op).mapError .access
  return { s with roles }

/-- An operation that calls nobody. -/
def finish {T : Erc721 Address (Uint 256)} (r : Except Error (State T)) :
    Except Error (Outcome (State T) ReceiverCall) := do
  let s ← r
  return .done s

def Op.apply (b : Block) (sender : Address) (s : State T) :
    Op → Except Error (Outcome (State T) ReceiverCall)
  | .access op => finish (accessOp sender op s)
  | .setEarlyPolicy creatorId earlyUntil maxEarlySupporters active =>
    finish (Supporter.setEarlyPolicy P b sender creatorId earlyUntil maxEarlySupporters active s)
  | .registerSupporterWithSignature intent signature =>
    Supporter.registerSupporterWithSignature P d b sender intent signature s
  | .registerSelf creatorId nonce deadline consentVersion signature =>
    Supporter.registerSelf P d b sender creatorId nonce deadline consentVersion signature s
  | .revoke tokenId => finish (Supporter.revoke P sender tokenId s)
  | .burn tokenId => finish (Supporter.burn P sender tokenId s)
  | .approve recipient tokenId => finish (Supporter.approve sender recipient tokenId s)
  | .setApprovalForAll operator approved =>
    finish (Supporter.setApprovalForAll sender operator approved s)
  | .transferFrom owner recipient tokenId =>
    finish (Supporter.transferFrom sender owner recipient tokenId s)
  | .safeTransferFrom owner recipient tokenId =>
    Supporter.safeTransferFrom sender owner recipient tokenId s
  | .setMetadataUris supporterMetadataUri earlyMetadataUri =>
    finish (Supporter.setMetadataUris P sender supporterMetadataUri earlyMetadataUri s)

def call (b : Block) (msg : Msg) (op : Op) (s : State T) :
    Except Error (Outcome (State T) ReceiverCall) := do
  revertIf (msg.sender = 0 ∨ msg.sender = d.self ∨ msg.sender = d.adapter) .foreignSender
  revertIf (msg.value ≠ 0) .nonPayable
  op.apply P T d b msg.sender s

def contract : Contract Msg Op (State T) ReceiverCall Error where
  call := call P T d
  resume := fun _ frame accepted s ↦ checkOnERC721Received frame accepted s

abbrev SupporterWorld (T : Erc721 Address (Uint 256)) := World Msg Op (State T) ReceiverCall
abbrev SupporterEntry (T : Erc721 Address (Uint 256)) := Entry Msg Op (State T) ReceiverCall
abbrev SupporterTx := Transaction Msg Op

/-- The world in which the proxy has just been initialised. -/
def genesis (b : Block) : SupporterWorld T := ⟨b, initialState P T d, []⟩

/-- Some run from the deployment leads here. -/
def Reachable (w : SupporterWorld T) : Prop := ∃ b, (contract P T d).Reaches (genesis P T d b) w

/-- A world that code can observe during a run, also from inside a receiver's callback. -/
def Observable (w : SupporterWorld T) : Prop :=
  ∃ b, Relation.ReflTransGen (contract P T d).Micro (genesis P T d b) w

variable {P T d}

theorem Reachable.observable {w : SupporterWorld T} (h : Reachable P T d w) :
    Observable P T d w := by
  obtain ⟨b, hb⟩ := h
  exact ⟨b, hb.micro⟩

theorem Reachable.run {b : Block} {txs : List SupporterTx}
    (h : Contract.Chronological b.timestamp txs) :
    Reachable P T d ((contract P T d).run txs (genesis P T d b)) :=
  ⟨b, Contract.reaches_run h⟩

end

/-! ## A small run

One creator, two supporters and one early slot. The first supporter burns its token while it is asked
to accept it and registers again. The hash table holds the hashes that the run takes. -/

namespace Sample

def admin : Address := 1
def fan : Address := 0x7e5f4552091a69125d5dfcb7b8c2659029395bdf
def friend : Address := 0x2b5ad5c4795c026514f8317c7a215e218dccd6cf

def domain : Bytes32 := 0xc144f8d926ff2d2ea96cf1fee2a06767e7303ed43e39048f9b91cfd59b097a53
def intentTypeHash : Bytes32 := 0xfad3ed9f33aa63ae8eeb4aaa5ed0b37230f43ca5bf549256662cef45666359e4

def intentWords (holder : Address) (nonce : Uint 256) : List ℕ :=
  [intentTypeHash, 7, holder, nonce, 2000, 9]

def intentPreimage (structHash : Bytes32) : Bytes :=
  [0x19, 0x01] ++ bigEndian 32 domain ++ bigEndian 32 structHash

def firstHash : Bytes32 := 0xad4c4b2ac9b7d9cfc9b241d2792354b1043a9e1488ead5f51365d853ad9bc2e8
def secondHash : Bytes32 := 0xf8fc64a0b4d34506d8ab2472fe6bd54ae7bfd6d32729bcfc120c611c2d498018
def friendHash : Bytes32 := 0x500cbe53a1a8ed63e01ab94cf495472b0576996a4b46fc6e7ea53b2df9b706b0

def firstDigest : Bytes32 := 0x774c626503d79a108d3440d75a0cd0099fa34f2050852675d48721b5bc094e4b
def secondDigest : Bytes32 := 0x79bf97e74fb15fbaed37ac8a47eabf599c7891f3cacb4886be8fd1ac98376b85
def friendDigest : Bytes32 := 0xee0d6b4a0c000e2e52934075a2e4946a61eb256d580cf9492db8b4e80e15844c

def hashes : List (Bytes × Bytes32) :=
  [(utf8 "POLICY_ROLE", 0xfb5864e8ff833c3cb2d2d08505e82ff02a43554c74a35d4f5a64e85261278311),
   (utf8 "RELAYER_ROLE", 0xe2b7fb3b832174769106daebcfd6d1970523240dda11281102db9363b83b0dc4),
   (utf8 "REVOKER_ROLE", 0xce3f34913921da558f105cefb578d87278debbbd073a8d552b5de0d168deee30),
   (utf8 "UPGRADER_ROLE", 0x189ab7a9244df0848122154315af71fe140f3db0fe014031783b0946b8c9d2e3),
   (utf8 "METADATA_ROLE", 0x6bd6b5318a46e5fff572d5e4258a20774aab40cc35ac7680654b9081fcc82f80),
   (utf8 ("EIP712Domain(string name,string version,uint256 chainId," ++
      "address verifyingContract)"),
    0x8b73c3c69bb8fe3d512ecc4cf759cc79239f7b179b0ffacaa9a75d522b39400f),
   (utf8 "Creator First Supporter SBT",
    0x97c2b0b5f1334e18ee7466f339c2145a1a3ed769f6e014341fef21af076bb20a),
   (utf8 "1", 0xc89efdaa54c0f20c7adf612882df0950f5a951637e0307cdcb4c672f298b8bc6),
   (abiEncode
      [0x8b73c3c69bb8fe3d512ecc4cf759cc79239f7b179b0ffacaa9a75d522b39400f,
       0x97c2b0b5f1334e18ee7466f339c2145a1a3ed769f6e014341fef21af076bb20a,
       0xc89efdaa54c0f20c7adf612882df0950f5a951637e0307cdcb4c672f298b8bc6, 80002, 0x1000], domain),
   (utf8 ("SupportIntent(bytes32 creatorId,address holder,uint256 nonce," ++
      "uint256 deadline,bytes32 consentVersion)"), intentTypeHash),
   (abiEncode (intentWords fan 0), firstHash),
   (intentPreimage firstHash, firstDigest),
   (abiEncode (intentWords fan 1), secondHash),
   (intentPreimage secondHash, secondDigest),
   (abiEncode (intentWords friend 0), friendHash),
   (intentPreimage friendHash, friendDigest)]

def signature (s : Bytes32) (v : UInt8) : Bytes :=
  bigEndian 32 0xf01d6b9018ab421dd410404cb869072065522bf85734008f105cf385a023a80f ++
    bigEndian 32 s ++ [v]

def firstSignature : Bytes :=
  signature 0x3e186a8b1a965ad8b4f5cd8948651515cd1508e61a162f5fc6a71668174283a3 28

def secondSignature : Bytes :=
  signature 0x1356d4492bf44bf7bff2b3a06d03defda235371f9e4611fc53dca2800ae55822 27

def friendSignature : Bytes :=
  signature 0x290397e7a9c7aa0922077adcca2062ae00a6b7e411823412fb611ee0ebdb45e9 28

def signers : List ((Bytes32 × Bytes) × Address) :=
  [((firstDigest, firstSignature), fan), ((secondDigest, secondSignature), fan),
   ((friendDigest, friendSignature), friend)]

def primitives : Primitives where
  keccak256 x := (hashes.lookup x).getD 0
  recover digest signature := signers.lookup (digest, signature)
  verifyProof _ _ _ := false

def tokens : Erc721 Address (Uint 256) := Ledger.register Address (Uint 256)

theorem registry_ne_zero : (0x1000 : Address) ≠ 0 := by decide

def deployment : Deployment where
  self := 0x1000
  adapter := 0x2000
  admin := admin
  policyManager := admin
  relayer := admin
  revoker := admin
  upgrader := admin
  supporterMetadataUri := utf8 "ipfs://supporter"
  earlyMetadataUri := utf8 "ipfs://early"
  self_ne := registry_ne_zero
  admin_ne := by decide
  policyManager_ne := by decide
  relayer_ne := by decide
  revoker_ne := by decide
  upgrader_ne := by decide

def tx (timestamp : ℕ) (sender : Address) (op : Op) : SupporterTx :=
  { block := ⟨timestamp, 80002⟩, msg := ⟨sender, 0⟩, op }

def intent (holder : Address) (nonce : Uint 256) : SupportIntent where
  creatorId := 7
  holder := holder
  nonce := nonce
  deadline := 2000
  consentVersion := 9

/-- The fan burns its new token and registers again before the first registration has returned. -/
def registration : SupporterTx where
  block := ⟨1100, 80002⟩
  msg := ⟨fan, 0⟩
  op := .registerSelf 7 0 2000 9 firstSignature
  inner := .cons ⟨fan, 0⟩ (.burn 1) .nil true
    (.cons ⟨fan, 0⟩ (.registerSelf 7 1 2000 9 secondSignature) .nil true .nil)

def preparation : List SupporterTx :=
  [tx 1000 admin (.access (.grantRole (RELAYER_ROLE primitives) 0x2000)),
   tx 1000 admin (.setEarlyPolicy 7 1500 1 true)]

def history : List SupporterTx :=
  preparation ++
    [registration,
     tx 1200 admin (.registerSupporterWithSignature (intent friend 0) friendSignature),
     tx 1300 admin (.revoke 3)]

/-- The world a list of transactions leads to from the deployment. -/
def after (txs : List SupporterTx) : SupporterWorld tokens :=
  (contract primitives tokens deployment).run txs
    (genesis primitives tokens deployment ⟨900, 80002⟩)

theorem reachable_after {txs : List SupporterTx} (h : Contract.Chronological 900 txs) :
    Reachable primitives tokens deployment (after txs) :=
  Reachable.run h

end Sample

end CreatorFirst.Supporter
