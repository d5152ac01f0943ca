import CreatorFirst.Governor.Operations

/-!
# The governor as a contract

The external functions with their arguments, their dispatch, and the worlds that runs of a deployed
governor reach. Apart from `executeProposal` no function is payable and none leaves the contract.
-/

namespace CreatorFirst.Governor

open Chain

/-- External functions that finish without an external call. -/
inductive PlainOp where
  | access (op : RoleOp)
  | createSession (ruleHash : Bytes32) (startsAt endsAt : Uint 64)
      (voiceCreditBudget creatorQuorum userQuorum : Uint 32)
  | registerMember (sessionId : Uint 256) (member : Address) (house : House)
  | registerProposal (params : ProposalParams)
  | registerCfpProposal (cfpIdHash : Bytes32) (revision : Uint 32) (params : ProposalParams)
  | castVote (proposalId : Uint 256) (intensity : Sint 8)
  | castCfpApprovalVote (proposalId : Uint 256) (intensity : Sint 8)
  | castCfpApprovalVoteBySig (ballot : CfpBallot) (signature : Bytes)
  | recordPreVoteReview (proposalId : Uint 256)
      (charterEvidenceHash legalEvidenceHash assessmentHash : Bytes32) (passed : Bool)
  | recordHouseDeliberation (proposalId : Uint 256) (house : House) (evidenceHash : Bytes32)
  | finalizeProposal (proposalId : Uint 256)
  | recordReview (proposalId : Uint 256) (evidenceHash : Bytes32)
  | recordContractTestEvidence (proposalId : Uint 256)
      (sourceHash artifactHash testSuiteHash testReportHash testedCallDataHash : Bytes32)
      (passed : Bool)
  | recordConstitutionalEvidence (proposalId : Uint 256) (evidenceHash : Bytes32)
  | queueProposal (proposalId : Uint 256)
  | cancelQueuedProposal (proposalId : Uint 256) (incidentHash : Bytes32)

inductive Op where
  | plain (op : PlainOp)
  | executeProposal (proposalId : Uint 256) (callData : Bytes)

section

variable (P : Primitives) (d : Deployment)

def accessOp (sender : Address) (op : RoleOp) (s : State) : Except Error State :=
  match s.roles.apply sender op with
  | .error e => .error (.access e)
  | .ok roles => .ok { s with roles }

/-- Drop the returned identifier of a registration. -/
def ignoreResult (r : Except Error (Uint 256 × State)) : Except Error State := do
  let (_, s) ← r
  return s

def PlainOp.apply (b : Block) (sender : Address) (s : State) : PlainOp → Except Error State
  | .access op => accessOp sender op s
  | .createSession ruleHash startsAt endsAt voiceCreditBudget creatorQuorum userQuorum =>
    ignoreResult (Governor.createSession P b sender ruleHash startsAt endsAt voiceCreditBudget
      creatorQuorum userQuorum s)
  | .registerMember sessionId member house =>
    Governor.registerMember P b sender sessionId member house s
  | .registerProposal params => ignoreResult (Governor.registerProposal P b sender params s)
  | .registerCfpProposal cfpIdHash revision params =>
    ignoreResult (Governor.registerCfpProposal P b sender cfpIdHash revision params s)
  | .castVote proposalId intensity => Governor.castVote b sender proposalId intensity s
  | .castCfpApprovalVote proposalId intensity =>
    Governor.castCfpApprovalVote b sender proposalId intensity s
  | .castCfpApprovalVoteBySig ballot signature =>
    Governor.castCfpApprovalVoteBySig P d b sender ballot signature s
  | .recordPreVoteReview proposalId charterEvidenceHash legalEvidenceHash assessmentHash passed =>
    Governor.recordPreVoteReview P b sender proposalId charterEvidenceHash legalEvidenceHash
      assessmentHash passed s
  | .recordHouseDeliberation proposalId house evidenceHash =>
    Governor.recordHouseDeliberation P b sender proposalId house evidenceHash s
  | .finalizeProposal proposalId => Governor.finalizeProposal b proposalId s
  | .recordReview proposalId evidenceHash =>
    Governor.recordReview P sender proposalId evidenceHash s
  | .recordContractTestEvidence proposalId sourceHash artifactHash testSuiteHash testReportHash
      testedCallDataHash passed =>
    Governor.recordContractTestEvidence P sender proposalId sourceHash artifactHash testSuiteHash
      testReportHash testedCallDataHash passed s
  | .recordConstitutionalEvidence proposalId evidenceHash =>
    Governor.recordConstitutionalEvidence P sender proposalId evidenceHash s
  | .queueProposal proposalId => Governor.queueProposal d b proposalId s
  | .cancelQueuedProposal proposalId incidentHash =>
    Governor.cancelQueuedProposal P sender proposalId incidentHash s

def call (b : Block) (msg : Msg) : Op → State → Except Error (Outcome State TargetCall)
  | .plain op, s => do
    revertIf (msg.value ≠ 0) .nonPayable
    let s' ← op.apply P d b msg.sender s
    return .done s'
  | .executeProposal proposalId callData, s =>
    Governor.executeProposal P d b msg.value proposalId callData s

def contract : Contract Msg Op State TargetCall Error where
  call := call P d
  resume := fun _ _ success s ↦ afterTargetCall success s

abbrev GovernorWorld := World Msg Op State TargetCall
abbrev GovernorEntry := Entry Msg Op State TargetCall
abbrev GovernorTx := Transaction Msg Op

/-- The world in which the governor has just been deployed. -/
def genesis (b : Block) : GovernorWorld := ⟨b, initialState P d, []⟩

/-- Some run from the deployment leads here. -/
def Reachable (w : GovernorWorld) : Prop := ∃ b, (contract P d).Reaches (genesis P d b) w

/-- A world that code can observe during a run, also from inside a transaction. -/
def Observable (w : GovernorWorld) : Prop :=
  ∃ b, Relation.ReflTransGen (contract P d).Micro (genesis P d b) w

variable {P d}

theorem Reachable.observable {w : GovernorWorld} (h : Reachable P d w) : Observable P d w := by
  obtain ⟨b, hb⟩ := h
  exact ⟨b, hb.micro⟩

theorem Reachable.trans {w w' : GovernorWorld} (h : Reachable P d w)
    (hr : (contract P d).Reaches w w') : Reachable P d w' := by
  obtain ⟨b, hb⟩ := h
  exact ⟨b, hb.trans hr⟩

theorem Reachable.run {b : Block} {txs : List GovernorTx}
    (h : Contract.Chronological b.timestamp txs) :
    Reachable P d ((contract P d).run txs (genesis P d b)) :=
  ⟨b, Contract.reaches_run h⟩

end

/-! ## A small deployment

A session with one member in each House and one constitutional proposal. The hash table holds the
hashes that its runs take, and one of the members has signed two ballots. -/

namespace Sample

def admin : Address := 1
def creator : Address := 0x7e5f4552091a69125d5dfcb7b8c2659029395bdf
def user : Address := 0x2b5ad5c4795c026514f8317c7a215e218dccd6cf
def callDataHash : Bytes32 := 0xa6885b3731702da62e8e4a8f584ac46a7f6822f4e2ba50fba902f67b1588d23b

def ballotTypeHash : Bytes32 := 0x5d96137a6b7da336334de9fd09e0fb6eb35b533e13ce21f8fb87a5dc5d346aeb

def ballotWords (nonce : Uint 256) : List ℕ := [ballotTypeHash, 1, 1, 1, creator, 2, nonce, 1100]

def ballotPreimage (structHash : Bytes32) : Bytes :=
  [0x19, 0x01] ++
    bigEndian 32 0xe63a7b8d1b8a198f6aab6ad343f0710744cd40620b4d9c3f136f3e5969c4447d ++
    bigEndian 32 structHash

def firstDigest : Bytes32 := 0x5de907f2ec05e75c061b07c31187e4d750357e208d322f66bc9bbf23a65980e1
def lastDigest : Bytes32 := 0xcbe3269d5684eb65dfa955e088e6fcfb384bb7eb5d229b498b1d0c51aeb7a6

def hashes : List (Bytes × Bytes32) :=
  [(utf8 "REGISTRAR_ROLE", 0xedcc084d3dcd65a1f7f23c65c46722faca6953d28e43150a467cf43e5c309238),
   (utf8 "REVIEWER_ROLE", 0xc10c77be35aff266144ed64c26a1fa104bae2f284ae99ac4a34203454704a185),
   (utf8 "GUARDIAN_ROLE", 0x55435dd261a4b9b3364963f7738a7a662ad9c84396d64be3365284bb7f0a5041),
   (utf8 "RELAYER_ROLE", 0xe2b7fb3b832174769106daebcfd6d1970523240dda11281102db9363b83b0dc4),
   ([1, 2, 3, 4], callDataHash),
   (abiEncode [5, 1], 0xe2689cd4a84e23ad2f564004f1c9013e9589d260bde6380aba3ca7e09e4df40c),
   (utf8 ("EIP712Domain(string name,string version,uint256 chainId," ++
      "address verifyingContract)"),
    0x8b73c3c69bb8fe3d512ecc4cf759cc79239f7b179b0ffacaa9a75d522b39400f),
   (utf8 "Creator First Bicameral Governor",
    0x40df6f3cbe7fd0adfdea2a6b8c5e3330392317530c346a8ef9e8411b301161b5),
   (utf8 "1", 0xc89efdaa54c0f20c7adf612882df0950f5a951637e0307cdcb4c672f298b8bc6),
   (abiEncode
      [0x8b73c3c69bb8fe3d512ecc4cf759cc79239f7b179b0ffacaa9a75d522b39400f,
       0x40df6f3cbe7fd0adfdea2a6b8c5e3330392317530c346a8ef9e8411b301161b5,
       0xc89efdaa54c0f20c7adf612882df0950f5a951637e0307cdcb4c672f298b8bc6, 80002, 0x1000],
    0xe63a7b8d1b8a198f6aab6ad343f0710744cd40620b4d9c3f136f3e5969c4447d),
   (utf8 ("CfpBallot(uint256 proposalId,uint256 sessionId,uint8 house," ++
      "address member,int8 intensity,uint256 nonce,uint256 deadline)"), ballotTypeHash),
   (abiEncode (ballotWords 0),
    0x808e677c85918b9dcac4398f636c42c8cb537bfbba015898f9a8475ee9f0ea0f),
   (ballotPreimage 0x808e677c85918b9dcac4398f636c42c8cb537bfbba015898f9a8475ee9f0ea0f,
    firstDigest),
   (abiEncode (ballotWords (Fin.last _)),
    0x877c1c548183ae91520e9ead2f4118e872c1a9b895c2e7994b2d220a51889f9f),
   (ballotPreimage 0x877c1c548183ae91520e9ead2f4118e872c1a9b895c2e7994b2d220a51889f9f,
    lastDigest)]

def firstSignature : Bytes :=
  bigEndian 32 0xf01d6b9018ab421dd410404cb869072065522bf85734008f105cf385a023a80f ++
    bigEndian 32 0x3cd1c907c7c4573b91e0d37242e930b9d3797d4d3cc87f470112e6dc1c62a56 ++ [28]

def lastSignature : Bytes :=
  bigEndian 32 0xf01d6b9018ab421dd410404cb869072065522bf85734008f105cf385a023a80f ++
    bigEndian 32 0x6bff7031be12153aef8a165a52cb88acc9933267245786d149e81b3b62800f2c ++ [28]

def primitives : Primitives where
  keccak256 x := (hashes.lookup x).getD 0
  recover digest signature :=
    if (digest, signature) = (firstDigest, firstSignature) ∨
      (digest, signature) = (lastDigest, lastSignature) then some creator else none
  verifyProof _ _ _ := false

def deployment : Deployment where
  self := 0x1000
  admin := admin
  registrar := admin
  reviewer := admin
  guardian := admin
  allowedChainId := 80002
  p1Delay := 60
  p2Delay := 120
  p3Delay := 180
  executionWindow := 3600
  admin_ne := by decide
  registrar_ne := by decide
  reviewer_ne := by decide
  guardian_ne := by decide
  chain_ne := by decide
  p1Delay_ne := by decide
  p1_le_p2 := by decide
  p2_le_p3 := by decide
  window_ne := by decide

def tx (timestamp : ℕ) (sender : Address) (op : PlainOp) : GovernorTx :=
  { block := ⟨timestamp, 80002⟩, msg := ⟨sender, 0⟩, op := .plain op }

def params : ProposalParams where
  sessionId := 1
  contentHash := 11
  specificationHash := 12
  manifestHash := 13
  changeClass := .p3Constitutional
  target := 99
  value := 0
  callDataHash := callDataHash
  votingStartsAt := 1020
  votingEndsAt := 1120

/-- What the creator has signed under the nonce `nonce`. -/
def signedBallot (nonce : Uint 256) : CfpBallot where
  proposalId := 1
  sessionId := 1
  house := .creator
  member := creator
  intensity := ⟨2, by decide⟩
  nonce := nonce
  deadline := 1100

/-- Everything up to the opening of the vote. -/
def preparation : List GovernorTx :=
  [tx 1000 admin (.createSession 7 1020 2020 10 1 1),
   tx 1000 admin (.registerMember 1 creator .creator),
   tx 1000 admin (.registerMember 1 user .user),
   tx 1000 admin (.registerCfpProposal 5 1 params),
   tx 1000 admin (.recordPreVoteReview 1 21 22 23 true),
   tx 1000 admin (.recordHouseDeliberation 1 .creator 24),
   tx 1000 admin (.recordHouseDeliberation 1 .user 25)]

def approval : List GovernorTx :=
  [tx 1020 creator (.castCfpApprovalVote 1 ⟨2, by decide⟩),
   tx 1020 user (.castCfpApprovalVote 1 ⟨1, by decide⟩),
   tx 1120 user (.finalizeProposal 1),
   tx 1120 admin (.recordConstitutionalEvidence 1 31),
   tx 1120 admin (.recordContractTestEvidence 1 32 33 34 35 callDataHash true),
   tx 1120 admin (.recordReview 1 36),
   tx 1120 user (.queueProposal 1)]

def execution : GovernorTx where
  block := ⟨1300, 80002⟩
  msg := ⟨user, 0⟩
  op := .executeProposal 1 [1, 2, 3, 4]

/-- The world a list of transactions leads to from the deployment. -/
def after (txs : List GovernorTx) : GovernorWorld :=
  (contract primitives deployment).run txs (genesis primitives deployment ⟨900, 80002⟩)

theorem reachable_after {txs : List GovernorTx} (h : Contract.Chronological 900 txs) :
    Reachable primitives deployment (after txs) :=
  Reachable.run h

theorem reaches_after {txs more : List GovernorTx}
    (h : Contract.Chronological (after txs).block.timestamp more) :
    (contract primitives deployment).Reaches (after txs) (after (txs ++ more)) := by
  have happend : after (txs ++ more) = (contract primitives deployment).run more (after txs) := by
    simp only [after, Contract.run, List.foldl_append]
  rw [happend]
  exact Contract.reaches_run h

end Sample

end CreatorFirst.Governor
