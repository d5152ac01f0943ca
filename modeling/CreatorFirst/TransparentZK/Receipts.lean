import CreatorFirst.TransparentZK.Machine

/-!
# Receipts and profiles

A profile is registered once, keeps its verifier and its program, and is active until it is deprecated.
A receipt is written once, for a profile that is active, when the profile's verifier has accepted the
proof.
-/

namespace CreatorFirst.TransparentZK

open Chain Relation

variable {P : Primitives} {d : Deployment} {b : Block} {msg : Call} {s s' s'' : State}

theorem onlyRole_bind_eq_ok {α : Type} {role : Bytes32} {f : Unit → Except Error α} {y : α} :
    (onlyRole msg role s >>= f) = .ok y ↔ s.roles role msg.sender = true ∧ f () = .ok y :=
  Roles.required_bind_eq_ok

theorem answer_bind_eq_ok {α β : Type} {verifier : Address} {x : Option α} {f : α → Except Error β}
    {y : β} : (answer verifier x >>= f) = .ok y ↔ ∃ a, x = some a ∧ f a = .ok y := by
  rw [bind_eq_ok]
  cases x <;> simp [answer]

/-! ## What each operation can do -/

/-- The profile that a registration writes. -/
def newProfile (b : Block) (verifier : Address) (programHash verifierType : Bytes32) :
    VerifierProfile where
  verifier := verifier
  programHash := programHash
  verifierType := verifierType
  registeredAt := Uint.truncate 64 b.timestamp
  active := true
  testnetMock := true

/-- The receipt that a verification writes. -/
def newReceipt (P : Primitives) (b : Block) (msg : Call) (profileId publicInputsHash : Bytes32)
    (proof : Bytes) : VerificationReceipt where
  profileId := profileId
  publicInputsHash := publicInputsHash
  proofHash := P.keccak256 proof
  submitter := msg.sender
  verifiedAt := Uint.truncate 64 b.timestamp

/-- The verifier of a profile accepts a proof for the program of the profile and the public inputs. -/
def Accepts (msg : Call) (profile : VerifierProfile) (publicInputsHash : Bytes32) (proof : Bytes) :
    Prop :=
  (msg.verifiers profile.verifier).verifyProof profile.programHash publicInputsHash proof = some true

/-- What each operation checks and leaves. -/
inductive Effect (P : Primitives) (d : Deployment) (b : Block) (msg : Call) (s : State) :
    Op → State → Prop
  | administer (op : Op) (roles : Roles) (paused : Bool)
      (hregister : ∀ profileId verifier programHash, op ≠ .registerMockProfile profileId verifier programHash)
      (hverify : ∀ profileId statement inputs proof, op ≠ .verifyAndRecord profileId statement inputs proof) :
      Effect P d b msg s op { s with roles, paused }
  | register (profileId : Bytes32) (verifier : Address) (programHash verifierType : Bytes32)
      (hverifier : verifier ≠ 0) (hnew : (s.verifierProfiles profileId).verifier = 0) :
      Effect P d b msg s (.registerMockProfile profileId verifier programHash) { s with
        verifierProfiles := Function.update s.verifierProfiles profileId
          (newProfile b verifier programHash verifierType) }
  | deprecation (profileId : Bytes32) (hactive : (s.verifierProfiles profileId).active = true) :
      Effect P d b msg s (.deprecateProfile profileId) { s with
        verifierProfiles := Function.update s.verifierProfiles profileId
          { s.verifierProfiles profileId with active := false } }
  | verify (profileId statement inputs : Bytes32) (proof : Bytes)
      (hactive : (s.verifierProfiles profileId).active = true)
      (hnew : (s.receipts (receiptId P d b.chainId profileId statement inputs)).verifiedAt = 0)
      (haccepts : Accepts msg (s.verifierProfiles profileId) inputs proof) :
      Effect P d b msg s (.verifyAndRecord profileId statement inputs proof) { s with
        receipts := Function.update s.receipts (receiptId P d b.chainId profileId statement inputs)
          (newReceipt P b msg profileId inputs proof) }

theorem Op.effect {op : Op} (h : op.apply P d b msg s = .ok s') : Effect P d b msg s op s' := by
  cases op with
  | access op =>
    obtain ⟨roles, -, h⟩ := bind_eq_ok.mp h
    obtain rfl := pure_eq_ok.mp h
    exact .administer _ roles s.paused (by simp) (by simp)
  | registerMockProfile profileId verifier programHash =>
    simp only [Op.apply, TransparentZK.registerMockProfile, onlyRole_bind_eq_ok, revertIf_bind_eq_ok,
      answer_bind_eq_ok, pure_eq_ok] at h
    obtain ⟨-, -, hverifier, hnew, _, -, -, verifierType, -, rfl⟩ := h
    exact .register profileId verifier programHash verifierType hverifier (not_not.mp hnew)
  | deprecateProfile profileId =>
    simp only [Op.apply, TransparentZK.deprecateProfile, onlyRole_bind_eq_ok, revertIf_bind_eq_ok,
      pure_eq_ok, Bool.not_eq_false] at h
    obtain ⟨-, hactive, rfl⟩ := h
    exact .deprecation profileId hactive
  | verifyAndRecord profileId statement inputs proof =>
    obtain ⟨_, h⟩ := map_snd_eq_ok.mp h
    simp only [TransparentZK.verifyAndRecord, revertIf_bind_eq_ok, answer_bind_eq_ok, pure_eq_ok,
      Bool.not_eq_false, Prod.mk.injEq] at h
    obtain ⟨-, -, hactive, hnew, accepted, haccepted, htrue, -, rfl⟩ := h
    subst htrue
    exact .verify profileId statement inputs proof hactive (not_not.mp hnew) haccepted
  | pause =>
    simp only [Op.apply, TransparentZK.pause, onlyRole_bind_eq_ok, revertIf_bind_eq_ok, pure_eq_ok] at h
    obtain ⟨-, -, rfl⟩ := h
    exact .administer _ s.roles true (by simp) (by simp)
  | unpause =>
    simp only [Op.apply, TransparentZK.unpause, onlyRole_bind_eq_ok, revertIf_bind_eq_ok,
      pure_eq_ok] at h
    obtain ⟨-, -, rfl⟩ := h
    exact .administer _ s.roles false (by simp) (by simp)
  | receive => cases h

/-- The small steps: time passes, or one call takes effect. -/
inductive Small (P : Primitives) (d : Deployment) (w : ZKWorld) : ZKWorld → Prop
  | tick (b : Block) (h : w.block.timestamp ≤ b.timestamp) : Small P d w { w with block := b }
  | call (msg : Call) (op : Op) (s : State) (h : Effect P d w.block msg w.state op s) :
      Small P d w ⟨w.block, s, ⟨w.block, msg, op, w.state, none⟩ :: w.journal⟩

theorem micro_small {w w' : ZKWorld} (h : (contract P d).Micro w w') : Small P d w w' := by
  cases h with
  | tick b hb => exact .tick b hb
  | call msg op o ho =>
    obtain ⟨-, ho⟩ := revertIf_bind_eq_ok.mp ho
    obtain ⟨s, hs, ho⟩ := bind_eq_ok.mp ho
    obtain rfl := pure_eq_ok.mp ho
    exact .call msg op s (Op.effect hs)
  | resume frame => exact frame.elim

theorem Small.timestamp_le {w w' : ZKWorld} (h : Small P d w w') :
    w.block.timestamp ≤ w'.block.timestamp := by
  cases h with
  | tick b hb => exact hb
  | call => exact le_rfl

/-! ## What never changes -/

/-- The two profiles differ at most in whether they are active. -/
structure SameButActive (p p' : VerifierProfile) : Prop where
  verifier : p'.verifier = p.verifier
  programHash : p'.programHash = p.programHash
  verifierType : p'.verifierType = p.verifierType
  registeredAt : p'.registeredAt = p.registeredAt
  testnetMock : p'.testnetMock = p.testnetMock

theorem SameButActive.refl (p : VerifierProfile) : SameButActive p p := ⟨rfl, rfl, rfl, rfl, rfl⟩

theorem SameButActive.trans {p p' p'' : VerifierProfile} (h : SameButActive p p')
    (h' : SameButActive p' p'') : SameButActive p p'' where
  verifier := h'.verifier.trans h.verifier
  programHash := h'.programHash.trans h.programHash
  verifierType := h'.verifierType.trans h.verifierType
  registeredAt := h'.registeredAt.trans h.registeredAt
  testnetMock := h'.testnetMock.trans h.testnetMock

/-- Receipts stay as they are; profiles too, except that they may be deprecated. -/
structure Preserves (s s' : State) : Prop where
  receipt : ∀ id, (s.receipts id).verifiedAt ≠ 0 → s'.receipts id = s.receipts id
  profile : ∀ p, (s.verifierProfiles p).verifier ≠ 0 →
    SameButActive (s.verifierProfiles p) (s'.verifierProfiles p)
  deprecated : ∀ p, (s.verifierProfiles p).verifier ≠ 0 → (s.verifierProfiles p).active = false →
    (s'.verifierProfiles p).active = false

theorem Preserves.refl (s : State) : Preserves s s := ⟨fun _ _ ↦ rfl, fun _ _ ↦ .refl _, fun _ _ h ↦ h⟩

theorem Preserves.trans (h : Preserves s s') (h' : Preserves s' s'') : Preserves s s'' where
  receipt id hid := by
    have hfirst := h.receipt id hid
    rw [h'.receipt id (by rwa [hfirst]), hfirst]
  profile p hp := by
    have hfirst := h.profile p hp
    apply hfirst.trans (h'.profile p _)
    rwa [hfirst.verifier]
  deprecated p hp hactive := by
    apply h'.deprecated p
    · rwa [(h.profile p hp).verifier]
    · exact h.deprecated p hp hactive

theorem Effect.preserves {op : Op} (h : Effect P d b msg s op s') : Preserves s s' := by
  cases h with
  | administer => exact ⟨fun _ _ ↦ rfl, fun _ _ ↦ .refl _, fun _ _ h ↦ h⟩
  | register p verifier programHash verifierType hverifier hnew =>
    have hother : ∀ q, (s.verifierProfiles q).verifier ≠ 0 →
        Function.update s.verifierProfiles p (newProfile b verifier programHash verifierType) q =
          s.verifierProfiles q := by
      intro q hq
      apply Function.update_of_ne
      rintro rfl
      exact hq hnew
    refine ⟨fun _ _ ↦ rfl, fun q hq ↦ ?_, fun q hq hinactive ↦ ?_⟩
    · exact (hother q hq).symm ▸ .refl _
    · exact (congrArg VerifierProfile.active (hother q hq)).trans hinactive
  | deprecation p hactive =>
    refine ⟨fun _ _ ↦ rfl, fun q _ ↦ ?_, fun q _ hinactive ↦ ?_⟩
    · by_cases hq : q = p
      · subst hq
        simp only [Function.update_self]
        exact ⟨rfl, rfl, rfl, rfl, rfl⟩
      · simp only [Function.update_of_ne hq]
        exact .refl _
    · by_cases hq : q = p
      · simp [hq]
      · simpa [hq] using hinactive
  | verify p statement inputs proof hactive hnew =>
    refine ⟨fun id hid ↦ Function.update_of_ne ?_ _ _, fun _ _ ↦ .refl _, fun _ _ h ↦ h⟩
    rintro rfl
    exact hid hnew

theorem Small.preserves {w w' : ZKWorld} (h : Small P d w w') : Preserves w.state w'.state := by
  cases h with
  | tick => exact .refl _
  | call msg op s heff => exact heff.preserves

theorem preserves_of_micro {w w' : ZKWorld} (h : ReflTransGen (contract P d).Micro w w') :
    Preserves w.state w'.state :=
  run_invariant (I := fun v ↦ Preserves w.state v.state)
    (fun _ _ _ hv hm ↦ hv.trans (micro_small hm).preserves) h (.refl _)

/-! ## What the journal records -/

/-- The profile that an entry registers. -/
def registered (e : ZKEntry) : Option Bytes32 :=
  match e.op with
  | .registerMockProfile profileId _ _ => some profileId
  | _ => none

/-- The profile, the statement and the public inputs that an entry records. -/
def recorded (e : ZKEntry) : Option (Bytes32 × Bytes32 × Bytes32) :=
  match e.op with
  | .verifyAndRecord profileId statement inputs _ => some (profileId, statement, inputs)
  | _ => none

/-- The receipt of a triple on the chain. -/
def State.receiptOf (P : Primitives) (d : Deployment) (chainId : ℕ) (s : State)
    (triple : Bytes32 × Bytes32 × Bytes32) : VerificationReceipt :=
  s.receipts (receiptId P d chainId triple.1 triple.2.1 triple.2.2)

/-- An entry that registers the profile with its verifier and its program. -/
def RegistersAs (profileId : Bytes32) (profile : VerifierProfile) (e : ZKEntry) : Prop :=
  e.op = .registerMockProfile profileId profile.verifier profile.programHash

/-- An entry that writes the receipt of a triple, after the entries `earlier`: the profile is active, it
has been registered with its verifier and its program, and this verifier accepts the proof for this
program and the public inputs. -/
structure Records (P : Primitives) (e : ZKEntry) (earlier : List ZKEntry)
    (triple : Bytes32 × Bytes32 × Bytes32) (receipt : VerificationReceipt) (proof : Bytes) : Prop where
  op_eq : e.op = .verifyAndRecord triple.1 triple.2.1 triple.2.2 proof
  receipt_eq : receipt = newReceipt P e.block e.msg triple.1 triple.2.2 proof
  active : (e.before.verifierProfiles triple.1).active = true
  registered : ∃ r ∈ earlier, RegistersAs triple.1 (e.before.verifierProfiles triple.1) r
  accepts : Accepts e.msg (e.before.verifierProfiles triple.1) triple.2.2 proof

/-- The profiles are those that the journal registers, each once. -/
structure ProfilesTraced (w : ZKWorld) : Prop where
  marks : Marks (fun p ↦ decide ((w.state.verifierProfiles p).verifier ≠ 0))
    (w.journal.filterMap registered)
  traced : ∀ p, (w.state.verifierProfiles p).verifier ≠ 0 →
    ∃ r ∈ w.journal, RegistersAs p (w.state.verifierProfiles p) r
  blank : ∀ p, (w.state.verifierProfiles p).verifier = 0 → (w.state.verifierProfiles p).active = false

theorem profilesTraced_genesis : ProfilesTraced (genesis P d b) where
  marks := marks_nil
  traced _ h := absurd rfl h
  blank _ _ := rfl

theorem Small.profilesTraced {w w' : ZKWorld} (h : Small P d w w') (hw : ProfilesTraced w) :
    ProfilesTraced w' := by
  cases h with
  | tick => exact ⟨hw.marks, hw.traced, hw.blank⟩
  | call msg op s heff =>
    have hlater : ∀ e, ∀ p profile, (∃ r ∈ w.journal, RegistersAs p profile r) →
        ∃ r ∈ e :: w.journal, RegistersAs p profile r := by
      rintro e p profile ⟨r, hr, hregisters⟩
      exact ⟨r, List.mem_cons_of_mem e hr, hregisters⟩
    cases heff with
    | administer op roles paused hregister hverify =>
      refine ⟨?_, fun p hp ↦ hlater _ p _ (hw.traced p hp), hw.blank⟩
      rw [List.filterMap_cons_none]
      · exact hw.marks
      · cases op with
        | registerMockProfile p verifier programHash => exact absurd rfl (hregister _ _ _)
        | _ => rfl
    | verify => exact ⟨hw.marks, fun p hp ↦ hlater _ p _ (hw.traced p hp), hw.blank⟩
    | register p verifier programHash verifierType hverifier hnew =>
      constructor
      · have hflags : (fun q ↦ decide ((Function.update w.state.verifierProfiles p
            (newProfile w.block verifier programHash verifierType) q).verifier ≠ 0)) =
              Function.update (fun q ↦ decide ((w.state.verifierProfiles q).verifier ≠ 0)) p true := by
          funext q
          by_cases hq : q = p <;> simp [hq, newProfile, hverifier]
        have hmarks := hw.marks.cons (x := p) (by simpa using hnew)
        rwa [← hflags] at hmarks
      · intro q hq
        by_cases hqp : q = p
        · subst hqp
          refine ⟨_, List.mem_cons_self, ?_⟩
          simp [RegistersAs, newProfile]
        · simp only [Function.update_of_ne hqp] at hq ⊢
          exact hlater _ q _ (hw.traced q hq)
      · intro q hq
        by_cases hqp : q = p
        · subst hqp
          simp [newProfile, hverifier] at hq
        · simp only [Function.update_of_ne hqp] at hq ⊢
          exact hw.blank q hq
    | deprecation p hactive =>
      have hsame : ∀ q, (Function.update w.state.verifierProfiles p
          { w.state.verifierProfiles p with active := false } q).verifier =
            (w.state.verifierProfiles q).verifier := by
        intro q
        by_cases hq : q = p <;> simp [hq]
      have hprogram : ∀ q, (Function.update w.state.verifierProfiles p
          { w.state.verifierProfiles p with active := false } q).programHash =
            (w.state.verifierProfiles q).programHash := by
        intro q
        by_cases hq : q = p <;> simp [hq]
      constructor
      · simp only [hsame]
        exact hw.marks
      · intro q hq
        rw [hsame] at hq
        simp only [RegistersAs, hsame, hprogram]
        exact hlater _ q _ (hw.traced q hq)
      · intro q hq
        by_cases hqp : q = p
        · simp [hqp]
        · simp only [Function.update_of_ne hqp] at hq ⊢
          exact hw.blank q hq

theorem profilesTraced_of_micro {w : ZKWorld}
    (h : ReflTransGen (contract P d).Micro (genesis P d b) w) : ProfilesTraced w :=
  run_invariant (fun _ _ _ hv hm ↦ (micro_small hm).profilesTraced hv) h profilesTraced_genesis

/-- The identifier of the receipt that an entry writes. -/
def recordedId (P : Primitives) (d : Deployment) (e : ZKEntry) : Option Bytes32 :=
  (recorded e).map fun triple ↦ receiptId P d e.block.chainId triple.1 triple.2.1 triple.2.2

/-- The receipts are those that the journal records, each once. -/
structure ReceiptsTraced (P : Primitives) (d : Deployment) (w : ZKWorld) : Prop where
  marks : Marks (fun id ↦ decide ((w.state.receipts id).verifiedAt ≠ 0))
    (w.journal.filterMap (recordedId P d))
  traced : ∀ id, (w.state.receipts id).verifiedAt ≠ 0 → ∃ e earlier triple proof,
    e :: earlier <:+ w.journal ∧ recordedId P d e = some id ∧
      Records P e earlier triple (w.state.receipts id) proof

theorem receiptsTraced_genesis : ReceiptsTraced P d (genesis P d b) where
  marks := marks_nil
  traced _ h := absurd rfl h

/-- Only a verification writes a receipt. -/
theorem ReceiptsTraced.cons {w : ZKWorld} (hw : ReceiptsTraced P d w) {e : ZKEntry}
    (hnone : recorded e = none) {s : State} (hs : s.receipts = w.state.receipts) :
    ReceiptsTraced P d ⟨w.block, s, e :: w.journal⟩ := by
  constructor
  · rw [List.filterMap_cons_none (by simp [recordedId, hnone])]
    dsimp only
    rw [hs]
    exact hw.marks
  · dsimp only
    rw [hs]
    intro id hid
    obtain ⟨e', earlier, triple, proof, hsuffix, hrecords⟩ := hw.traced id hid
    exact ⟨e', earlier, triple, proof, hsuffix.trans (List.suffix_cons _ _), hrecords⟩

theorem Small.receiptsTraced {w w' : ZKWorld} (h : Small P d w w') (hprofiles : ProfilesTraced w)
    (hpos : 0 < w.block.timestamp) (htime : w.block.timestamp < 2 ^ 64) (hw : ReceiptsTraced P d w) :
    ReceiptsTraced P d w' := by
  cases h with
  | tick => exact ⟨hw.marks, hw.traced⟩
  | call msg op s heff =>
    cases heff with
    | administer op roles paused hregister hverify =>
      refine hw.cons ?_ rfl
      cases op with
      | verifyAndRecord p statement inputs proof => exact absurd rfl (hverify _ _ _ _)
      | _ => rfl
    | register | deprecation => exact hw.cons rfl rfl
    | verify p statement inputs proof hactive hnew haccepts =>
      have hverified : (newReceipt P w.block msg p inputs proof).verifiedAt ≠ 0 := by
        intro hzero
        have hval := congrArg Fin.val hzero
        rw [newReceipt, Uint.truncate_of_lt htime] at hval
        exact hpos.ne' hval
      have hverifier : (w.state.verifierProfiles p).verifier ≠ 0 := by
        intro hzero
        rw [hprofiles.blank p hzero] at hactive
        cases hactive
      generalize hid : receiptId P d w.block.chainId p statement inputs = id at hnew
      have hflags : (fun id' ↦ decide ((Function.update w.state.receipts id
          (newReceipt P w.block msg p inputs proof) id').verifiedAt ≠ 0)) =
            Function.update (fun id' ↦ decide ((w.state.receipts id').verifiedAt ≠ 0)) id true := by
        funext id'
        by_cases hsame : id' = id <;> simp [hsame, hverified]
      constructor
      · have hmarks := hw.marks.cons (x := id) (by simpa using hnew)
        rw [← hflags] at hmarks
        rwa [List.filterMap_cons_some (b := id) (by rw [recordedId, recorded, Option.map_some, hid])]
      · dsimp only
        intro id' hid'
        by_cases hsame : id' = id
        · subst hsame
          refine ⟨_, w.journal, (p, statement, inputs), proof, List.suffix_rfl, ?_, ?_⟩
          · rw [recordedId, recorded, Option.map_some, hid]
          · rw [Function.update_self]
            exact ⟨rfl, rfl, hactive, hprofiles.traced p hverifier, haccepts⟩
        · rw [Function.update_of_ne hsame] at hid' ⊢
          obtain ⟨e', earlier, triple, proof', hsuffix, hrecords⟩ := hw.traced id' hid'
          exact ⟨e', earlier, triple, proof', hsuffix.trans (List.suffix_cons _ _), hrecords⟩

/-! ## Every run -/

theorem receiptsTraced_of_micro {w : ZKWorld} (hb : 0 < b.timestamp)
    (h : ReflTransGen (contract P d).Micro (genesis P d b) w) (htime : w.block.timestamp < 2 ^ 64) :
    ReceiptsTraced P d w := by
  suffices ProfilesTraced w ∧ 0 < w.block.timestamp ∧
      (w.block.timestamp < 2 ^ 64 → ReceiptsTraced P d w) from this.2.2 htime
  apply run_invariant (I := fun v ↦ ProfilesTraced v ∧ 0 < v.block.timestamp ∧
    (v.block.timestamp < 2 ^ 64 → ReceiptsTraced P d v)) _ h
  · exact ⟨profilesTraced_genesis, hb, fun _ ↦ receiptsTraced_genesis⟩
  · rintro v v' - ⟨hprofiles, hpos, htraced⟩ hm
    have hsmall := micro_small hm
    have hle := hsmall.timestamp_le
    refine ⟨hsmall.profilesTraced hprofiles, hpos.trans_le hle, fun hlater ↦ ?_⟩
    have hearlier := hle.trans_lt hlater
    exact hsmall.receiptsTraced hprofiles hpos hearlier (htraced hearlier)

/-- What identifies the receipts of the journal, encoded. -/
def receiptPreimages (d : Deployment) (w : ZKWorld) : Set Bytes :=
  {x | ∃ e ∈ w.journal, ∃ triple, recorded e = some triple ∧
    x = receiptPreimage d e.block.chainId triple.1 triple.2.1 triple.2.2}

theorem receiptPreimage_inj {chainId : ℕ} {p p' s s' i i' : Bytes32}
    (h : receiptPreimage d chainId p s i = receiptPreimage d chainId p' s' i') :
    p = p' ∧ s = s' ∧ i = i' := by
  have htail : abiEncode [(d.self : ℕ), p, s, i] = abiEncode [(d.self : ℕ), p', s', i'] :=
    List.append_cancel_left h
  have hself : (d.self : ℕ) < 2 ^ 256 := (Fin.isLt d.self).trans (by norm_num)
  have hwords := abiEncode_inj (by simp) ?_ ?_ htail
  · simp only [List.cons.injEq, and_true, true_and] at hwords
    exact ⟨Fin.ext hwords.1, Fin.ext hwords.2.1, Fin.ext hwords.2.2⟩
  · simp only [List.forall_mem_cons]
    exact ⟨hself, p.isLt, s.isLt, i.isLt, fun _ hx ↦ absurd hx List.not_mem_nil⟩
  · simp only [List.forall_mem_cons]
    exact ⟨hself, p'.isLt, s'.isLt, i'.isLt, fun _ hx ↦ absurd hx List.not_mem_nil⟩

/-- What holds of the registry at any time of a run on one chain. -/
structure ReceiptsSafe (P : Primitives) (d : Deployment) (chainId : ℕ) (w : ZKWorld) : Prop where
  registered_once : (w.journal.filterMap registered).Nodup
  recorded_once : (w.journal.filterMap recorded).Nodup
  /-- Every receipt is the one that some entry has recorded. -/
  receipt : ∀ id, (w.state.receipts id).verifiedAt ≠ 0 → ∃ e earlier triple proof,
    e :: earlier <:+ w.journal ∧ id = receiptId P d chainId triple.1 triple.2.1 triple.2.2 ∧
      Records P e earlier triple (w.state.receipts id) proof
  /-- Where hashing has no collision, the receipt of a triple is one that was recorded for it. -/
  receipt_of : ∀ triple : Bytes32 × Bytes32 × Bytes32,
    Set.InjOn P.keccak256 (insert (receiptPreimage d chainId triple.1 triple.2.1 triple.2.2)
      (receiptPreimages d w)) →
    (w.state.receiptOf P d chainId triple).verifiedAt ≠ 0 → ∃ e earlier proof,
      e :: earlier <:+ w.journal ∧ Records P e earlier triple (w.state.receiptOf P d chainId triple) proof

theorem Records.recorded_eq {e : ZKEntry} {earlier : List ZKEntry} {triple : Bytes32 × Bytes32 × Bytes32}
    {receipt : VerificationReceipt} {proof : Bytes} (h : Records P e earlier triple receipt proof) :
    recorded e = some triple := by
  rw [recorded, h.op_eq]

/-- On one chain, equal triples have equal receipts. -/
theorem nodup_recorded {l : List ZKEntry} {chainId : ℕ} (hone : ∀ e ∈ l, e.block.chainId = chainId)
    (h : (l.filterMap (recordedId P d)).Nodup) : (l.filterMap recorded).Nodup := by
  have hids : l.filterMap (recordedId P d) = (l.filterMap recorded).map fun triple ↦
      receiptId P d chainId triple.1 triple.2.1 triple.2.2 := by
    rw [List.map_filterMap]
    apply List.filterMap_congr
    intro e he
    rw [recordedId, hone e he]
  rw [hids] at h
  exact h.of_map _

variable (P d)

/-- In every run, each profile is registered once and each triple has one receipt, which was written while
the profile was active, by the acceptance of the verifier and program the profile was registered with;
receipts and profiles stay from then on, and no deprecated profile becomes active again. -/
theorem transparent_receipts {b : Block} (hb : 0 < b.timestamp) {w : ZKWorld}
    (h : ReflTransGen (contract P d).Micro (genesis P d b) w) (htime : w.block.timestamp < 2 ^ 64)
    {chainId : ℕ} (hone : ∀ e ∈ w.journal, e.block.chainId = chainId) :
    ReceiptsSafe P d chainId w ∧
      ∀ w', ReflTransGen (contract P d).Micro w w' → Preserves w.state w'.state := by
  have hprofiles := profilesTraced_of_micro h
  have hreceipts := receiptsTraced_of_micro hb h htime
  have hreceipt : ∀ id, (w.state.receipts id).verifiedAt ≠ 0 → ∃ e earlier triple proof,
      e :: earlier <:+ w.journal ∧ id = receiptId P d chainId triple.1 triple.2.1 triple.2.2 ∧
        Records P e earlier triple (w.state.receipts id) proof := by
    intro id hid
    obtain ⟨e, earlier, triple, proof, hsuffix, hrecorded, hrecords⟩ := hreceipts.traced id hid
    have hmem : e ∈ w.journal := hsuffix.subset List.mem_cons_self
    rw [recordedId, hrecords.recorded_eq, hone e hmem] at hrecorded
    exact ⟨e, earlier, triple, proof, hsuffix, (Option.some.inj hrecorded).symm, hrecords⟩
  refine ⟨⟨hprofiles.marks.nodup, nodup_recorded hone hreceipts.marks.nodup, hreceipt, ?_⟩,
    fun w' hrun ↦ preserves_of_micro hrun⟩
  intro triple hinj hverified
  obtain ⟨e, earlier, found, proof, hsuffix, hid, hrecords⟩ := hreceipt _ hverified
  have hmem : e ∈ w.journal := hsuffix.subset List.mem_cons_self
  have hpreimage : receiptPreimage d chainId found.1 found.2.1 found.2.2 ∈ receiptPreimages d w :=
    ⟨e, hmem, found, hrecords.recorded_eq, by rw [hone e hmem]⟩
  have hsame := hinj (Set.mem_insert _ _) (Set.mem_insert_of_mem _ hpreimage) hid
  obtain ⟨hp, hs, hi⟩ := receiptPreimage_inj hsame
  obtain rfl : triple = found := Prod.ext hp (Prod.ext hs hi)
  exact ⟨e, earlier, proof, hsuffix, hrecords⟩

/-! ## A small run

A proof of the mock is recorded under a profile, which is then deprecated. -/

namespace Sample

def admin : Address := 1
def fan : Address := 0x51
def verifier : Address := 0x4000

def deployment : Deployment where
  self := 0x3000
  admin := admin
  policyManager := admin
  pauser := admin
  admin_ne := by decide
  policyManager_ne := by decide
  pauser_ne := by decide

def mockDomain : Bytes32 := 0x55f00010be6edbb79cc0f0636ade1120be1db1c07eaf9a2ae127e28d8d37dc7f

def digest : Bytes32 := 0x9a220e6aa23e4a030d2c8c701b75c52d4baeaf90bbcbf5cbb08a9374300384cb

def proof : Bytes := bigEndian 32 digest

def hashes : List (Bytes × Bytes32) :=
  [(utf8 "POLICY_ROLE", 0xfb5864e8ff833c3cb2d2d08505e82ff02a43554c74a35d4f5a64e85261278311),
   (utf8 "PAUSER_ROLE", 0x65d7a28e3265b37a6474929f336521b332c1681b933f6cb9f3376673440d862a),
   (utf8 "CFP_TRANSPARENT_ZK_TESTNET_MOCK_V1", mockDomain),
   (utf8 "TESTNET_MOCK_NOT_CRYPTOGRAPHIC_ZK",
    0x9f4c6d2d0c46288731768a02827e8dd729087a6359fd83ba7ef4f30821afe7e7),
   (abiEncode [mockDomain, 21, 41], digest),
   (receiptPreimage deployment 80002 11 31 41,
    0xd786d243e409267d046ba7162f0fe304e3a5c8b792565a2d0fb9f6f17d7ea8fb),
   (proof, 0xd11eb9b7bd3045b39f30288ecff1f476b03326c4215e28b38bdc5bc8da088347)]

def primitives : Primitives where
  keccak256 x := (hashes.lookup x).getD 0
  recover _ _ := none
  verifyProof _ _ _ := false

def verifiers (address : Address) : Verifier :=
  if address = verifier then mockVerifier primitives else .missing

def tx (timestamp : ℕ) (sender : Address) (op : Op) : ZKTx :=
  { block := ⟨timestamp, 80002⟩, msg := ⟨⟨sender, 0⟩, verifiers⟩, op }

def history : List ZKTx :=
  [tx 1000 admin (.registerMockProfile 11 verifier 21),
   tx 1010 fan (.verifyAndRecord 11 31 41 proof),
   tx 1020 admin (.deprecateProfile 11),
   tx 1030 fan (.verifyAndRecord 11 32 41 proof)]

def recordedWorld : ZKWorld :=
  (contract primitives deployment).run history (genesis primitives deployment ⟨900, 80002⟩)

end Sample

/-- The receipt is the one that was recorded while the profile was active. -/
theorem transparent_receipts_sample :
    ReceiptsSafe Sample.primitives Sample.deployment 80002 Sample.recordedWorld ∧
      (Sample.recordedWorld.state.receiptOf Sample.primitives Sample.deployment 80002
        (11, 31, 41)).submitter = Sample.fan ∧
      Sample.recordedWorld.journal.filterMap recorded = [(11, 31, 41)] ∧
      (Sample.recordedWorld.state.verifierProfiles 11).active = false := by
  have hreach : (contract Sample.primitives Sample.deployment).Reaches
      (genesis Sample.primitives Sample.deployment ⟨900, 80002⟩) Sample.recordedWorld :=
    Contract.reaches_run (by decide)
  have hone : ∀ e ∈ Sample.recordedWorld.journal, e.block.chainId = 80002 := by decide +kernel
  exact ⟨(transparent_receipts Sample.primitives Sample.deployment (by decide) hreach.micro
    (by decide +kernel) hone).1, by decide +kernel, by decide +kernel, by decide +kernel⟩

end CreatorFirst.TransparentZK
