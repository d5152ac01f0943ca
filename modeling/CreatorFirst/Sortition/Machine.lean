import CreatorFirst.Sortition.Operations

/-!
# The sortition contract and its governor

Both contracts run side by side: calls of either may come in any order, also from inside an
execution of the governor. The sortition contract reaches the governor on its own account only
through `claimSeat`, so no call comes from its address. Seen from the governor, every run of the
two is a run of the governor alone in which a claimed seat is a registration by the sortition.
-/

namespace CreatorFirst.Sortition

open Chain Relation

/-- External functions of the sortition contract. -/
inductive SortitionOp where
  | access (op : RoleOp)
  | createRound (params : RoundParams)
  | fulfillRandomness (requestId : Bytes32) (randomWord : Uint 256)
  | finalizeNextSelection (sessionId : Uint 256) (house : Uint 8)
  | claimSeat (c : SeatClaim)
  | activateNextAlternate (sessionId : Uint 256) (house : Uint 8) (vacancyEvidenceHash : Bytes32)

inductive Op where
  | governor (op : Governor.Op)
  | sortition (op : SortitionOp)

section

variable (P : Primitives) (d : Deployment)

def accessOp (sender : Address) (op : RoleOp) (s : State) : Except Error State :=
  match s.roles.apply sender op with
  | .error e => .error (.access e)
  | .ok roles => .ok { s with roles }

/-- A function that leaves the governor alone. -/
def onSortition (s : System) (r : Except Error State) : Except Error System := do
  let sortition ← r
  return { s with sortition }

def SortitionOp.apply (b : Block) (sender : Address) (s : System) :
    SortitionOp → Except Error System
  | .access op => onSortition s (accessOp sender op s.sortition)
  | .createRound params =>
    onSortition s (Sortition.createRound P b sender params s.governor s.sortition)
  | .fulfillRandomness requestId randomWord =>
    onSortition s (Sortition.fulfillRandomness P b sender requestId randomWord s.sortition)
  | .finalizeNextSelection sessionId house =>
    onSortition s ((·.2.2) <$> Sortition.finalizeNextSelection P sessionId house s.sortition)
  | .claimSeat c => Sortition.claimSeat P d b sender c s
  | .activateNextAlternate sessionId house vacancyEvidenceHash =>
    onSortition s ((·.2) <$> Sortition.activateNextAlternate P b sender sessionId house
      vacancyEvidenceHash s.sortition)

/-- What a call of the governor makes of the system. -/
def governorOutcome (s : System) :
    Outcome Governor.State Governor.TargetCall → Outcome System Governor.TargetCall
  | .done governor => .done { s with governor }
  | .callout governor frame => .callout { s with governor } frame

def call (b : Block) (msg : Msg) : Op → System → Except Error (Outcome System Governor.TargetCall)
  | .governor op, s => do
    revertIf (msg.sender = d.self) .foreignSender
    let o ← (Governor.call P d.governor b msg op s.governor).mapError .governor
    return governorOutcome s o
  | .sortition op, s => do
    revertIf (msg.sender = d.self) .foreignSender
    revertIf (msg.value ≠ 0) .nonPayable
    let s' ← op.apply P d b msg.sender s
    return .done s'

def resume (success : Bool) (s : System) : Except Error System := do
  let governor ← (Governor.afterTargetCall success s.governor).mapError .governor
  return { s with governor }

def contract : Contract Msg Op System Governor.TargetCall Error where
  call := call P d
  resume := fun _ _ success s ↦ resume success s

abbrev SystemWorld := World Msg Op System Governor.TargetCall
abbrev SystemEntry := Entry Msg Op System Governor.TargetCall
abbrev SystemTx := Transaction Msg Op

/-- The world in which both contracts have just been deployed. -/
def genesis (b : Block) : SystemWorld :=
  ⟨b, ⟨Governor.initialState P d.governor, initialState P d⟩, []⟩

/-- Some run from the deployment leads here. -/
def Reachable (w : SystemWorld) : Prop := ∃ b, (contract P d).Reaches (genesis P d b) w

/-- A world that code can observe during a run, also from inside a transaction. -/
def Observable (w : SystemWorld) : Prop :=
  ∃ b, ReflTransGen (contract P d).Micro (genesis P d b) w

variable {P d}

theorem Reachable.observable {w : SystemWorld} (h : Reachable P d w) : Observable P d w := by
  obtain ⟨b, hb⟩ := h
  exact ⟨b, hb.micro⟩

theorem Reachable.trans {w w' : SystemWorld} (h : Reachable P d w)
    (hr : (contract P d).Reaches w w') : Reachable P d w' := by
  obtain ⟨b, hb⟩ := h
  exact ⟨b, hb.trans hr⟩

theorem Reachable.run {b : Block} {txs : List SystemTx}
    (h : Contract.Chronological b.timestamp txs) :
    Reachable P d ((contract P d).run txs (genesis P d b)) :=
  ⟨b, Contract.reaches_run h⟩

end

/-! ## A small deployment

A session with one seat in each House and an alternate in the Creator House. The hash table holds
the hashes that its runs take; the Creator House has two candidates, the User House one. -/

namespace Sample

def admin : Address := Governor.Sample.admin
def creator : Address := Governor.Sample.creator
def secondCreator : Address := 0x6813eb9362372eef6200f3b1dbc3f819671cba69
def user : Address := Governor.Sample.user

def creatorLeaf : Bytes32 := 0x917d9e3cadae103020c2d64afa49ce0c4d184b3c3d5fe06ef02443ac322b2e42
def secondLeaf : Bytes32 := 0xba6c1eb269f87dc412008132c1ea2f4d0814bfdbbcc1777c260cb6656c262f7c
def userLeaf : Bytes32 := 0x87fafc940c208a70af6172a14ec03135c6eb300111cb6c6ab772b53ab856ea9b
def creatorRoot : Bytes32 := 0xa1590527f758d8f29741cb2a896082934d3be36abc2a75575b3914937a63bb41

def hashes : List (Bytes × Bytes32) :=
  Governor.Sample.hashes ++
  [(utf8 "ROUND_MANAGER_ROLE", 0xc1463c0eedbdad0bda6226522f9e895e36de931c40345ad4dcd21f004261012f),
   (utf8 "RANDOMNESS_PROVIDER_ROLE",
    0x8325592322ee4c9c63347caefa4ee329561f0222b18a294ae5951a51a4fc5a33),
   (abiEncode [124, 1, 1, 0], 0xefc630e61f87ee5b5764f873c07f18035e2855e21cb741cadaa16eb2daddf419),
   (abiEncode [124, 1, 1, 1], 0x26b4fe80dbc27645d796261531f34bafb9d0a9e7dd7965617da70f5479ceec0),
   (abiEncode [124, 1, 2, 0], 0xff5aa7173ea8bfaa760e93c805bb5d89a57162bed5b3d53ba3eade7f8afe0a9b),
   (abiEncode [0, 0x61, creator],
    0x7605a48789b053451105f9e2c343b0b879a4aa8aefbcbe8db034deaffaa43111),
   (bigEndian 32 0x7605a48789b053451105f9e2c343b0b879a4aa8aefbcbe8db034deaffaa43111, creatorLeaf),
   (abiEncode [1, 0x62, secondCreator],
    0x977829a8687a4dd62caa1dc6b74fcfed86d855dcd502280df0ba5480cb4ac74c),
   (bigEndian 32 0x977829a8687a4dd62caa1dc6b74fcfed86d855dcd502280df0ba5480cb4ac74c, secondLeaf),
   (abiEncode [0, 0x63, user], 0x66fda9bf4e0a9a7e265836dc2a6d82ebb12f0e1e2ce6059c8edfcfc1cd3dad9c),
   (bigEndian 32 0x66fda9bf4e0a9a7e265836dc2a6d82ebb12f0e1e2ce6059c8edfcfc1cd3dad9c, userLeaf),
   (bigEndian 32 creatorLeaf ++ bigEndian 32 secondLeaf, creatorRoot)]

def keccak256 (x : Bytes) : Bytes32 := (hashes.lookup x).getD 0

/-- The hash of two nodes, the smaller one first. -/
def hashPair (x y : Bytes32) : Bytes32 :=
  if x < y then keccak256 (bigEndian 32 x ++ bigEndian 32 y)
  else keccak256 (bigEndian 32 y ++ bigEndian 32 x)

def primitives : Primitives where
  keccak256 := keccak256
  recover := Governor.Sample.primitives.recover
  verifyProof proof root leaf := proof.foldl hashPair leaf = root

def deployment : Deployment where
  self := 0x2000
  admin := admin
  roundManager := admin
  randomnessProvider := admin
  governor := Governor.Sample.deployment
  admin_ne := by decide
  roundManager_ne := by decide
  randomnessProvider_ne := by decide
  governor_ne := by decide

def governorTx (timestamp : ℕ) (sender : Address) (op : Governor.PlainOp) : SystemTx :=
  { block := ⟨timestamp, 80002⟩, msg := ⟨sender, 0⟩, op := .governor (.plain op) }

def tx (timestamp : ℕ) (sender : Address) (op : SortitionOp) : SystemTx :=
  { block := ⟨timestamp, 80002⟩, msg := ⟨sender, 0⟩, op := .sortition op }

def params : RoundParams where
  sessionId := 1
  eligibilitySnapshotHash := 51
  randomnessRequestId := 52
  eligibilityClosesAt := 1100
  claimDeadline := 1300
  creatorRoot := creatorRoot
  creatorPopulation := 2
  creatorPrimarySeats := 1
  creatorAlternateSeats := 1
  userRoot := userLeaf
  userPopulation := 1
  userPrimarySeats := 1
  userAlternateSeats := 0

/-- Everything up to the selection of all ranks. -/
def selection : List SystemTx :=
  [governorTx 1000 admin (.createSession 7 1500 2500 10 1 1),
   governorTx 1000 admin (.access (.grantRole (Governor.REGISTRAR_ROLE primitives) 0x2000)),
   tx 1000 admin (.createRound params),
   tx 1100 admin (.fulfillRandomness 52 124),
   tx 1100 user (.finalizeNextSelection 1 CREATOR_HOUSE),
   tx 1100 user (.finalizeNextSelection 1 USER_HOUSE),
   tx 1100 user (.finalizeNextSelection 1 CREATOR_HOUSE)]

def primaryClaim : SystemTx :=
  tx 1200 secondCreator (.claimSeat ⟨1, CREATOR_HOUSE, 0, 0x62, secondCreator, [creatorLeaf]⟩)

def userClaim : SystemTx := tx 1200 user (.claimSeat ⟨1, USER_HOUSE, 0, 0x63, user, []⟩)

def activation : SystemTx := tx 1310 admin (.activateNextAlternate 1 CREATOR_HOUSE 9)

def alternateClaim : SystemTx :=
  tx 1320 creator (.claimSeat ⟨1, CREATOR_HOUSE, 1, 0x61, creator, [secondLeaf]⟩)

/-- The world a list of transactions leads to from the deployment. -/
def after (txs : List SystemTx) : SystemWorld :=
  (contract primitives deployment).run txs (genesis primitives deployment ⟨900, 80002⟩)

theorem reachable_after {txs : List SystemTx} (h : Contract.Chronological 900 txs) :
    Reachable primitives deployment (after txs) :=
  Reachable.run h

theorem reaches_after {txs more : List SystemTx}
    (h : Contract.Chronological (after txs).block.timestamp more) :
    (contract primitives deployment).Reaches (after txs) (after (txs ++ more)) := by
  have happend : after (txs ++ more) = (contract primitives deployment).run more (after txs) := by
    simp only [after, Contract.run, List.foldl_append]
  rw [happend]
  exact Contract.reaches_run h

end Sample

end CreatorFirst.Sortition
