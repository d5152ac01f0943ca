import CreatorFirst.Creators.Machine
import Mathlib.Data.Fintype.Card

/-!
# The records of the registry of creators

Accounts and current profile commitments name their creators and nobody else, a creator's counter is
the number of releases that name it, and what identifies a creator or a release never changes.
-/

namespace CreatorFirst.Creators

open Chain Relation

variable {P : Primitives} {d : Deployment} {b : Block} {sender : Address} {s s' s'' : State}

theorem onlyRole_bind_eq_ok {α : Type} {role : Bytes32} {f : Unit → Except Error α} {y : α} :
    (onlyRole sender role s >>= f) = .ok y ↔ s.roles role sender = true ∧ f () = .ok y :=
  Roles.required_bind_eq_ok

theorem registeredCreatorId_bind_eq_ok {α : Type} {f : Uint 256 → Except Error α} {y : α} :
    (registeredCreatorId sender s >>= f) = .ok y ↔
      s.creatorIdByAccount sender ≠ 0 ∧ f (s.creatorIdByAccount sender) = .ok y := by
  simp only [registeredCreatorId, bind_eq_ok, revertIf_eq_ok, pure_eq_ok]
  constructor
  · rintro ⟨_, ⟨_, hne, rfl⟩, hf⟩
    exact ⟨hne, hf⟩
  · rintro ⟨hne, hf⟩
    exact ⟨_, ⟨(), hne, rfl⟩, hf⟩

/-! ## What each operation can do -/

/-- No record changes. -/
structure Administers (s s' : State) : Prop where
  creatorCount : s'.creatorCount = s.creatorCount
  nextReleaseId : s'.nextReleaseId = s.nextReleaseId
  creators : s'.creators = s.creators
  creatorIdByAccount : s'.creatorIdByAccount = s.creatorIdByAccount
  creatorIdByProfileCommitment : s'.creatorIdByProfileCommitment = s.creatorIdByProfileCommitment
  releases : s'.releases = s.releases

/-- The two creators differ at most in their payout address and in whether they are active. -/
structure SameButContact (c c' : Creator) : Prop where
  account : c'.account = c.account
  profileCommitment : c'.profileCommitment = c.profileCommitment
  registeredAt : c'.registeredAt = c.registeredAt
  releaseCount : c'.releaseCount = c.releaseCount

/-- What each operation leaves. -/
inductive Effect (b : Block) (sender : Address) (s : State) : State → Prop
  | administer (s' : State) (h : Administers s s') : Effect b sender s s'
  | register (profileCommitment : Bytes32) (payoutAddress : Address) (id : Uint 256)
      (hcommitment : profileCommitment ≠ 0) (haccount : s.creatorIdByAccount sender = 0)
      (hfree : s.creatorIdByProfileCommitment profileCommitment = 0)
      (hid : (id : ℕ) = s.creatorCount + 1) :
      Effect b sender s { s with
        creatorCount := id
        creators := Function.update s.creators id
          { account := sender, payoutAddress, profileCommitment,
            registeredAt := Uint.truncate 64 b.timestamp, releaseCount := 0, active := true }
        creatorIdByAccount := Function.update s.creatorIdByAccount sender id
        creatorIdByProfileCommitment :=
          Function.update s.creatorIdByProfileCommitment profileCommitment id }
  | updateCommitment (newCommitment : Bytes32) (id : Uint 256) (hne : id ≠ 0)
      (hid : s.creatorIdByAccount sender = id) (hcommitment : newCommitment ≠ 0)
      (hfree : s.creatorIdByProfileCommitment newCommitment = 0 ∨
        s.creatorIdByProfileCommitment newCommitment = id) :
      Effect b sender s { s with
        creators := Function.update s.creators id
          { s.creators id with profileCommitment := newCommitment }
        creatorIdByProfileCommitment := Function.update
          (Function.update s.creatorIdByProfileCommitment (s.creators id).profileCommitment 0)
          newCommitment id }
  | contact (id : Uint 256) (c : Creator) (hne : id ≠ 0)
      (hid : s.creatorIdByAccount sender = id) (h : SameButContact (s.creators id) c) :
      Effect b sender s { s with creators := Function.update s.creators id c }
  | declare (metadataCommitment rightsDeclarationCommitment : Bytes32) (id next : Uint 256)
      (count : Uint 32) (hne : id ≠ 0) (hid : s.creatorIdByAccount sender = id)
      (hnext : (next : ℕ) = s.nextReleaseId + 1)
      (hcount : (count : ℕ) = (s.creators id).releaseCount + 1) :
      Effect b sender s { s with
        nextReleaseId := next
        releases := Function.update s.releases s.nextReleaseId
          { creatorId := id, metadataCommitment, rightsDeclarationCommitment,
            declaredAt := Uint.truncate 64 b.timestamp, state := .declaredUnverified }
        creators := Function.update s.creators id { s.creators id with releaseCount := count } }
  | withdraw (releaseId : Uint 256)
      (hdeclared : (s.releases releaseId).state = .declaredUnverified) :
      Effect b sender s { s with
        releases := Function.update s.releases releaseId
          { s.releases releaseId with state := .withdrawn } }

theorem Op.effect {op : Op} (h : op.apply P b sender s = .ok s') : Effect b sender s s' := by
  cases op with
  | access op =>
    obtain ⟨roles, -, h⟩ := bind_eq_ok.mp h
    obtain rfl := pure_eq_ok.mp h
    exact .administer _ ⟨rfl, rfl, rfl, rfl, rfl, rfl⟩
  | registerCreator profileCommitment payoutAddress =>
    simp only [Op.apply, Creators.registerCreator, revertIf_bind_eq_ok, Uint.increment_bind_eq_ok,
      pure_eq_ok] at h
    obtain ⟨-, hcommitment, -, haccount, hfree, id, hid, rfl⟩ := h
    exact .register profileCommitment payoutAddress id hcommitment (not_not.mp haccount)
      (not_not.mp hfree) hid
  | updateProfileCommitment newCommitment =>
    simp only [Op.apply, Creators.updateProfileCommitment, revertIf_bind_eq_ok,
      registeredCreatorId_bind_eq_ok, pure_eq_ok] at h
    obtain ⟨-, hne, hcommitment, hfree, rfl⟩ := h
    refine .updateCommitment newCommitment _ hne rfl hcommitment ?_
    by_contra hused
    exact hfree (not_or.mp hused)
  | updatePayoutAddress newAddress =>
    simp only [Op.apply, Creators.updatePayoutAddress, revertIf_bind_eq_ok,
      registeredCreatorId_bind_eq_ok, pure_eq_ok] at h
    obtain ⟨-, -, hne, rfl⟩ := h
    exact .contact _ _ hne rfl ⟨rfl, rfl, rfl, rfl⟩
  | setActive active =>
    simp only [Op.apply, Creators.setActive, revertIf_bind_eq_ok, registeredCreatorId_bind_eq_ok,
      pure_eq_ok] at h
    obtain ⟨-, hne, rfl⟩ := h
    exact .contact _ _ hne rfl ⟨rfl, rfl, rfl, rfl⟩
  | declareRelease metadataCommitment rightsDeclarationCommitment =>
    simp only [Op.apply, Creators.declareRelease, revertIf_bind_eq_ok,
      registeredCreatorId_bind_eq_ok, Uint.increment_bind_eq_ok, pure_eq_ok] at h
    obtain ⟨-, -, hne, -, next, hnext, count, hcount, rfl⟩ := h
    exact .declare metadataCommitment rightsDeclarationCommitment _ next count hne rfl hnext hcount
  | withdrawRelease releaseId =>
    simp only [Op.apply, Creators.withdrawRelease, revertIf_bind_eq_ok,
      registeredCreatorId_bind_eq_ok, pure_eq_ok] at h
    obtain ⟨-, -, hdeclared, -, rfl⟩ := h
    exact .withdraw releaseId (not_not.mp hdeclared)
  | pause =>
    simp only [Op.apply, Creators.pause, onlyRole_bind_eq_ok, revertIf_bind_eq_ok,
      pure_eq_ok] at h
    obtain ⟨-, -, rfl⟩ := h
    exact .administer _ ⟨rfl, rfl, rfl, rfl, rfl, rfl⟩
  | unpause =>
    simp only [Op.apply, Creators.unpause, onlyRole_bind_eq_ok, revertIf_bind_eq_ok,
      pure_eq_ok] at h
    obtain ⟨-, -, rfl⟩ := h
    exact .administer _ ⟨rfl, rfl, rfl, rfl, rfl, rfl⟩
  | receive => cases h

/-- The small steps: time passes, or one call takes effect. -/
inductive Small (w : CreatorWorld) : CreatorWorld → Prop
  | tick (b : Block) (h : w.block.timestamp ≤ b.timestamp) : Small w { w with block := b }
  | call (msg : Msg) (op : Op) (s : State) (h : Effect w.block msg.sender w.state s) :
      Small w ⟨w.block, s, ⟨w.block, msg, op, w.state, none⟩ :: w.journal⟩

theorem micro_small {w w' : CreatorWorld} (h : (contract P).Micro w w') : Small w w' := by
  cases h with
  | tick b hb => exact .tick b hb
  | call msg op o ho =>
    obtain ⟨-, ho⟩ := revertIf_bind_eq_ok.mp ho
    obtain ⟨s, hs, ho⟩ := bind_eq_ok.mp ho
    obtain rfl := pure_eq_ok.mp ho
    exact .call msg op s (Op.effect hs)
  | resume frame => exact frame.elim

/-! ## Records that are well kept -/

/-- The creator has been registered. -/
def State.Registered (s : State) (i : Uint 256) : Prop := i ≠ 0 ∧ i ≤ s.creatorCount

/-- The releases that name a creator. -/
def State.releasesOf (s : State) (i : Uint 256) : Finset (Uint 256) :=
  Finset.univ.filter fun r ↦ (s.releases r).creatorId = i

structure WellKept (s : State) : Prop where
  accounts : Indexes s.creatorIdByAccount s.Registered fun i ↦ (s.creators i).account
  commitments : Indexes s.creatorIdByProfileCommitment s.Registered
    fun i ↦ (s.creators i).profileCommitment
  commitment_ne : ∀ i, s.Registered i → (s.creators i).profileCommitment ≠ 0
  released : ∀ i, s.Registered i → ((s.creators i).releaseCount : ℕ) = (s.releasesOf i).card
  declared_by : ∀ r, (s.releases r).creatorId ≤ s.creatorCount
  undeclared : ∀ r, s.nextReleaseId ≤ r → s.releases r = .blank

theorem wellKept_initial : WellKept (initialState P d) := by
  have hnone : ∀ i, ¬ (initialState P d).Registered i := fun i h ↦ h.1 (Fin.le_zero_iff.mp h.2)
  constructor
  · intro a i hi
    exact iff_of_false hi.symm fun h ↦ hnone i h.1
  · intro c i hi
    exact iff_of_false hi.symm fun h ↦ hnone i h.1
  · intro i hi
    exact absurd hi (hnone i)
  · intro i hi
    exact absurd hi (hnone i)
  · intro r
    exact Fin.zero_le _
  · intro r _
    rfl

theorem WellKept.administer (hs : WellKept s) (h : Administers s s') : WellKept s' := by
  obtain ⟨roles, paused, count, next, creators, accounts, commitments, releases⟩ := s'
  obtain ⟨rfl, rfl, rfl, rfl, rfl, rfl⟩ := h
  exact ⟨hs.accounts, hs.commitments, hs.commitment_ne, hs.released, hs.declared_by, hs.undeclared⟩

/-- A field of the creators after one of them is written. -/
theorem field_update {α : Type} (field : Creator → α) (creators : Uint 256 → Creator)
    (id : Uint 256) (c : Creator) (i : Uint 256) :
    field (Function.update creators id c i) =
      Function.update (fun j ↦ field (creators j)) id (field c) i :=
  congrFun (Function.comp_update field creators id c) i

/-- A registered creator changes, apart from its account and its releases. -/
theorem WellKept.edit (hs : WellKept s) {id : Uint 256} {c : Creator}
    {commitments : Bytes32 → Uint 256} (haccount : c.account = (s.creators id).account)
    (hcommitments : Indexes commitments s.Registered
      (Function.update (fun i ↦ (s.creators i).profileCommitment) id c.profileCommitment))
    (hne : s.Registered id → c.profileCommitment ≠ 0)
    (hcount : c.releaseCount = (s.creators id).releaseCount) :
    WellKept { s with
      creators := Function.update s.creators id c
      creatorIdByProfileCommitment := commitments } where
  accounts := hs.accounts.congr (fun _ ↦ Iff.rfl) fun i _ ↦ by
    rw [field_update Creator.account, haccount, Function.update_eq_self]
  commitments := hcommitments.congr (fun _ ↦ Iff.rfl) fun i _ ↦
    field_update Creator.profileCommitment s.creators id c i
  commitment_ne i hi := by
    rw [field_update Creator.profileCommitment]
    by_cases hii : i = id
    · subst hii
      rw [Function.update_self]
      exact hne hi
    · rw [Function.update_of_ne hii]
      exact hs.commitment_ne i hi
  released i hi := by
    rw [field_update Creator.releaseCount, hcount, Function.update_eq_self]
    exact hs.released i hi
  declared_by := hs.declared_by
  undeclared := hs.undeclared

/-- A new creator takes the first free id. -/
theorem WellKept.register (hs : WellKept s) {c : Creator} {id : Uint 256}
    (hcommitment : c.profileCommitment ≠ 0) (haccount : s.creatorIdByAccount c.account = 0)
    (hfree : s.creatorIdByProfileCommitment c.profileCommitment = 0) (hcount : c.releaseCount = 0)
    (hid : (id : ℕ) = s.creatorCount + 1) :
    WellKept { s with
      creatorCount := id
      creators := Function.update s.creators id c
      creatorIdByAccount := Function.update s.creatorIdByAccount c.account id
      creatorIdByProfileCommitment :=
        Function.update s.creatorIdByProfileCommitment c.profileCommitment id } := by
  have hnew : ¬ s.Registered id := fun h ↦ by
    have hle := Fin.le_def.mp h.2
    omega
  have hregistered : ∀ i, i ≠ 0 ∧ i ≤ id ↔ s.Registered i ∨ i = id := by
    intro i
    rw [State.Registered, Fin.le_def, Fin.le_def, Fin.ext_iff (a := i) (b := id)]
    constructor
    · rintro ⟨hi, hle⟩
      by_cases hlast : (i : ℕ) = id
      · exact .inr hlast
      · exact .inl ⟨hi, by omega⟩
    · rintro (⟨hi, hle⟩ | hlast)
      · exact ⟨hi, by omega⟩
      · refine ⟨?_, hlast.le⟩
        rintro rfl
        rw [Fin.val_zero] at hlast
        omega
  constructor
  · apply (hs.accounts.insert haccount hnew).congr hregistered
    intro i _
    exact field_update Creator.account s.creators id c i
  · apply (hs.commitments.insert hfree hnew).congr hregistered
    intro i _
    exact field_update Creator.profileCommitment s.creators id c i
  · intro i hi
    rw [field_update Creator.profileCommitment]
    obtain hold | rfl := (hregistered i).mp hi
    · rw [Function.update_of_ne fun hii : i = id ↦ hnew (hii ▸ hold)]
      exact hs.commitment_ne i hold
    · rwa [Function.update_self]
  · intro i hi
    rw [field_update Creator.releaseCount]
    obtain hold | rfl := (hregistered i).mp hi
    · rw [Function.update_of_ne fun hii : i = id ↦ hnew (hii ▸ hold)]
      exact hs.released i hold
    · -- Releases name creators that were there before.
      rw [Function.update_self, hcount, Fin.val_zero, eq_comm, Finset.card_eq_zero]
      apply Finset.filter_eq_empty_iff.mpr
      intro r _ hr
      have hle := Fin.le_def.mp (hs.declared_by r)
      rw [hr] at hle
      omega
  · intro r
    have hle := Fin.le_def.mp (hs.declared_by r)
    rw [Fin.le_def]
    exact hle.trans (by rw [hid]; exact Nat.le_succ _)
  · exact hs.undeclared

/-- A registered creator declares the next release. -/
theorem WellKept.declare (hs : WellKept s) {id next : Uint 256} {release : Release}
    {count : Uint 32} (hid : s.Registered id) (hcreator : release.creatorId = id)
    (hnext : (next : ℕ) = s.nextReleaseId + 1)
    (hcount : (count : ℕ) = (s.creators id).releaseCount + 1) :
    WellKept { s with
      nextReleaseId := next
      releases := Function.update s.releases s.nextReleaseId release
      creators := Function.update s.creators id
        { s.creators id with releaseCount := count } } := by
  have hblank := hs.undeclared s.nextReleaseId le_rfl
  have hnames : ∀ r, (Function.update s.releases s.nextReleaseId release r).creatorId =
      Function.update (fun r ↦ (s.releases r).creatorId) s.nextReleaseId id r := by
    intro r
    rw [← hcreator]
    exact congrFun (Function.comp_update Release.creatorId s.releases _ release) r
  have hgrows : ∀ i, i ≠ 0 → (Finset.univ.filter fun r ↦
        (Function.update s.releases s.nextReleaseId release r).creatorId = i).card =
      (s.releasesOf i).card + if i = id then 1 else 0 := by
    intro i hi
    simp only [hnames]
    apply card_filter_update
    rw [hblank]
    exact hi.symm
  constructor
  · apply hs.accounts.congr (fun _ ↦ Iff.rfl)
    intro i _
    rw [field_update Creator.account, Function.update_eq_self]
  · apply hs.commitments.congr (fun _ ↦ Iff.rfl)
    intro i _
    rw [field_update Creator.profileCommitment, Function.update_eq_self]
  · intro i hi
    rw [field_update Creator.profileCommitment, Function.update_eq_self]
    exact hs.commitment_ne i hi
  · intro i hi
    rw [field_update Creator.releaseCount, State.releasesOf, hgrows i hi.1]
    by_cases hii : i = id
    · subst hii
      rw [Function.update_self, if_pos rfl, hcount, hs.released i hi]
    · rw [Function.update_of_ne hii, if_neg hii, add_zero]
      exact hs.released i hi
  · intro r
    rw [hnames]
    by_cases hr : r = s.nextReleaseId
    · rw [hr, Function.update_self]
      exact hid.2
    · rw [Function.update_of_ne hr]
      exact hs.declared_by r
  · intro r hr
    have hle : (next : ℕ) ≤ r := Fin.le_def.mp hr
    have hne : r ≠ s.nextReleaseId := fun heq ↦ by
      rw [heq] at hle
      omega
    calc Function.update s.releases s.nextReleaseId release r
        = s.releases r := Function.update_of_ne hne _ _
      _ = .blank := hs.undeclared r (Fin.le_def.mpr (by omega))

theorem WellKept.withdraw (hs : WellKept s) {r₀ : Uint 256}
    (hdeclared : (s.releases r₀).state = .declaredUnverified) :
    WellKept { s with
      releases := Function.update s.releases r₀
        { s.releases r₀ with state := .withdrawn } } := by
  have hcreator : ∀ r, (Function.update s.releases r₀
      { s.releases r₀ with state := .withdrawn } r).creatorId = (s.releases r).creatorId := by
    intro r
    by_cases hr : r = r₀ <;> simp [hr]
  refine ⟨hs.accounts, hs.commitments, hs.commitment_ne, fun i hi ↦ ?_, fun r ↦ ?_, fun r hr ↦ ?_⟩
  · simp only [State.releasesOf, hcreator]
    exact hs.released i hi
  · rw [hcreator]
    exact hs.declared_by r
  · have hne : r ≠ r₀ := by
      rintro rfl
      rw [hs.undeclared r hr] at hdeclared
      cases hdeclared
    calc Function.update s.releases r₀ { s.releases r₀ with state := .withdrawn } r
        = s.releases r := Function.update_of_ne hne _ _
      _ = .blank := hs.undeclared r hr

theorem WellKept.registered (hs : WellKept s) {id : Uint 256} (hne : id ≠ 0)
    (hid : s.creatorIdByAccount sender = id) : s.Registered id :=
  ((hs.accounts sender id hne).mp hid).1

theorem Effect.wellKept (hs : WellKept s) (h : Effect b sender s s') : WellKept s' := by
  cases h with
  | administer _ hadmin => exact hs.administer hadmin
  | register commitment payoutAddress id hcommitment haccount hfree hid =>
    exact hs.register (c := ⟨sender, payoutAddress, commitment, Uint.truncate 64 b.timestamp, 0, true⟩)
      hcommitment haccount hfree rfl hid
  | updateCommitment newCommitment id hne hid hcommitment hfree =>
    exact hs.edit (c := { s.creators id with profileCommitment := newCommitment }) rfl
      (hs.commitments.rekey hne (hs.registered hne hid) hfree) (fun _ ↦ hcommitment) rfl
  | contact id c hne hid hc =>
    refine hs.edit hc.account ?_ (fun hi ↦ ?_) hc.releaseCount
    · apply hs.commitments.congr (fun _ ↦ Iff.rfl)
      intro i _
      rw [hc.profileCommitment, Function.update_eq_self]
    · rw [hc.profileCommitment]
      exact hs.commitment_ne id hi
  | declare metadata rights id next count hne hid hnext hcount =>
    exact hs.declare (hs.registered hne hid) rfl hnext hcount
  | withdraw releaseId hdeclared => exact hs.withdraw hdeclared

/-! ## What never changes -/

/-- What identifies a creator or a release in the first storage does so in the second. -/
structure Preserves (s s' : State) : Prop where
  registered : ∀ i, s.Registered i → s'.Registered i
  account : ∀ i, s.Registered i → (s'.creators i).account = (s.creators i).account
  registeredAt : ∀ i, s.Registered i → (s'.creators i).registeredAt = (s.creators i).registeredAt
  release : ∀ r, (s.releases r).state ≠ .none →
    { s'.releases r with state := (s.releases r).state } = s.releases r
  withdrawn : ∀ r, (s.releases r).state = .withdrawn → (s'.releases r).state = .withdrawn
  declared : ∀ r, (s.releases r).state ≠ .none → (s'.releases r).state ≠ .none

theorem Preserves.refl (s : State) : Preserves s s :=
  ⟨fun _ h ↦ h, fun _ _ ↦ rfl, fun _ _ ↦ rfl, fun _ _ ↦ rfl, fun _ h ↦ h, fun _ h ↦ h⟩

theorem Preserves.trans (h : Preserves s s') (h' : Preserves s' s'') : Preserves s s'' where
  registered i hi := h'.registered i (h.registered i hi)
  account i hi := (h'.account i (h.registered i hi)).trans (h.account i hi)
  registeredAt i hi := (h'.registeredAt i (h.registered i hi)).trans (h.registeredAt i hi)
  release r hr := by
    have hfirst := h.release r hr
    have hsecond := h'.release r (h.declared r hr)
    rw [← hfirst, ← hsecond]
  withdrawn r hr := h'.withdrawn r (h.withdrawn r hr)
  declared r hr := h'.declared r (h.declared r hr)

/-- One creator changes and keeps its account and its time. -/
theorem Preserves.edit {id : Uint 256} {c : Creator} (hcount : s'.creatorCount = s.creatorCount)
    (hcreators : s'.creators = Function.update s.creators id c)
    (haccount : c.account = (s.creators id).account)
    (htime : c.registeredAt = (s.creators id).registeredAt)
    (hreleases : ∀ r, (s.releases r).state ≠ .none → s'.releases r = s.releases r) :
    Preserves s s' where
  registered i hi := by
    rw [State.Registered, hcount]
    exact hi
  account i _ := by
    rw [hcreators, field_update Creator.account, haccount, Function.update_eq_self]
  registeredAt i _ := by
    rw [hcreators, field_update Creator.registeredAt, htime, Function.update_eq_self]
  release r hr := by rw [hreleases r hr]
  withdrawn r hr := by
    rw [hreleases r (by rw [hr]; decide)]
    exact hr
  declared r hr := by
    rw [hreleases r hr]
    exact hr

theorem Effect.preserves (hs : WellKept s) (h : Effect b sender s s') : Preserves s s' := by
  cases h with
  | administer _ hadmin =>
    obtain ⟨roles, paused, count, next, creators, accounts, commitments, releases⟩ := s'
    obtain ⟨rfl, rfl, rfl, rfl, rfl, rfl⟩ := hadmin
    exact ⟨fun _ h ↦ h, fun _ _ ↦ rfl, fun _ _ ↦ rfl, fun _ _ ↦ rfl, fun _ h ↦ h, fun _ h ↦ h⟩
  | register commitment payoutAddress id hcommitment haccount hfree hid =>
    have hold : ∀ i, s.Registered i → i ≠ id ∧ i ≤ id := by
      intro i hi
      have hle := Fin.le_def.mp hi.2
      refine ⟨fun heq ↦ ?_, Fin.le_def.mpr (by omega)⟩
      rw [heq] at hle
      omega
    refine ⟨fun i hi ↦ ⟨hi.1, (hold i hi).2⟩, fun i hi ↦ ?_, fun i hi ↦ ?_, fun _ _ ↦ rfl,
      fun _ h ↦ h, fun _ h ↦ h⟩
    · exact congrArg Creator.account (Function.update_of_ne (hold i hi).1 _ _)
    · exact congrArg Creator.registeredAt (Function.update_of_ne (hold i hi).1 _ _)
  | updateCommitment newCommitment id => exact .edit rfl rfl rfl rfl fun _ _ ↦ rfl
  | contact id c hne hid hc =>
    exact .edit rfl rfl hc.account hc.registeredAt fun _ _ ↦ rfl
  | declare metadata rights id next count hne hid hnext hcount =>
    refine .edit rfl rfl rfl rfl fun r hr ↦ Function.update_of_ne ?_ _ _
    rintro rfl
    exact hr (congrArg Release.state (hs.undeclared s.nextReleaseId le_rfl))
  | withdraw r₀ hdeclared =>
    refine ⟨fun _ h ↦ h, fun _ _ ↦ rfl, fun _ _ ↦ rfl, fun r _ ↦ ?_, fun r hr ↦ ?_, fun r hr ↦ ?_⟩
    · by_cases hrr : r = r₀ <;> simp [hrr]
    · by_cases hrr : r = r₀
      · simp [hrr]
      · simpa [hrr] using hr
    · by_cases hrr : r = r₀
      · simp [hrr]
      · simpa [hrr] using hr

/-! ## All runs -/

variable (P d) in
/-- A world that code can observe during a run. -/
def Observable (w : CreatorWorld) : Prop :=
  ∃ b, ReflTransGen (contract P).Micro (genesis P d b) w

theorem Reachable.observable {w : CreatorWorld} (h : Reachable P d w) : Observable P d w := by
  obtain ⟨b, hb⟩ := h
  exact ⟨b, hb.micro⟩

theorem Small.wellKept {w w' : CreatorWorld} (hw : WellKept w.state) (h : Small w w') :
    WellKept w'.state ∧ Preserves w.state w'.state := by
  cases h with
  | tick => exact ⟨hw, .refl _⟩
  | call msg op s heff => exact ⟨heff.wellKept hw, heff.preserves hw⟩

theorem Observable.wellKept {w : CreatorWorld} (h : Observable P d w) : WellKept w.state := by
  obtain ⟨b, hb⟩ := h
  exact run_invariant (I := fun v ↦ WellKept v.state)
    (fun _ _ _ hv hm ↦ ((micro_small hm).wellKept hv).1) hb wellKept_initial

theorem WellKept.preserves {w w' : CreatorWorld} (hw : WellKept w.state)
    (h : ReflTransGen (contract P).Micro w w') : Preserves w.state w'.state := by
  suffices WellKept w'.state ∧ Preserves w.state w'.state from this.2
  refine run_invariant (I := fun v ↦ WellKept v.state ∧ Preserves w.state v.state)
    (fun v v' _ hv hm ↦ ?_) h ⟨hw, .refl _⟩
  obtain ⟨hkept, hpreserves⟩ := (micro_small hm).wellKept hv.1
  exact ⟨hkept, hv.2.trans hpreserves⟩

/-- What the records of the registry satisfy. -/
structure RegistrySafe (s : State) : Prop where
  account_iff : ∀ a i, i ≠ 0 →
    (s.creatorIdByAccount a = i ↔ s.Registered i ∧ (s.creators i).account = a)
  commitment_iff : ∀ c i, i ≠ 0 →
    (s.creatorIdByProfileCommitment c = i ↔ s.Registered i ∧ (s.creators i).profileCommitment = c)
  account_inj : ∀ i j, s.Registered i → s.Registered j →
    (s.creators i).account = (s.creators j).account → i = j
  commitment_inj : ∀ i j, s.Registered i → s.Registered j →
    (s.creators i).profileCommitment = (s.creators j).profileCommitment → i = j
  released : ∀ i, s.Registered i → ((s.creators i).releaseCount : ℕ) = (s.releasesOf i).card

/-- In every run the two indexes are the inverses of the records, counters count the releases, and
what identifies a creator or a release never changes from then on. -/
theorem creators_registry {w : CreatorWorld} (h : Observable P d w) :
    RegistrySafe w.state ∧
      ∀ w', ReflTransGen (contract P).Micro w w' → Preserves w.state w'.state := by
  have hkept := h.wellKept
  refine ⟨⟨hkept.accounts, hkept.commitments, fun i j hi hj ↦ ?_, fun i j hi hj ↦ ?_,
    hkept.released⟩, fun w' hr ↦ hkept.preserves hr⟩
  · exact hkept.accounts.inj hi.1 hj.1 hi hj
  · exact hkept.commitments.inj hi.1 hj.1 hi hj

/-! ## A small run

Two creators; the first moves to another commitment, and the second takes the one that is free. -/

namespace Sample

def admin : Address := 1
def creator : Address := 0x31
def other : Address := 0x32

def primitives : Primitives where
  keccak256 x := if x = utf8 "PAUSER_ROLE" then
      0x65d7a28e3265b37a6474929f336521b332c1681b933f6cb9f3376673440d862a
    else if x = utf8 "MAPPER_ROLE" then
      0x2559c73ad5e64226de134fc607a00e9f0c0b7465b43c2ae69baaca347c607777
    else 0
  recover _ _ := none
  verifyProof _ _ _ := false

theorem admin_ne : admin ≠ 0 := by decide

def deployment : Deployment where
  self := 0x3000
  admin := admin
  admin_ne := admin_ne

def tx (timestamp : ℕ) (sender : Address) (op : Op) : CreatorTx :=
  { block := ⟨timestamp, 80002⟩, msg := ⟨sender, 0⟩, op }

def history : List CreatorTx :=
  [tx 1000 creator (.registerCreator 41 creator),
   tx 1010 creator (.updateProfileCommitment 41),
   tx 1020 creator (.updateProfileCommitment 42),
   tx 1030 other (.registerCreator 41 other),
   tx 1040 other (.declareRelease 51 52),
   tx 1050 other (.withdrawRelease 1)]

def registered : CreatorWorld :=
  (contract primitives).run history (genesis primitives deployment ⟨900, 80002⟩)

theorem reachable_registered : Reachable primitives deployment registered :=
  ⟨⟨900, 80002⟩, Contract.reaches_run (by decide)⟩

end Sample

/-- The second creator is found under the commitment that the first one has given up. -/
theorem creators_registry_sample :
    Sample.registered.state.creatorIdByProfileCommitment 41 = 2 ∧
      ((Sample.registered.state.creators 2).releaseCount : ℕ) =
        (Sample.registered.state.releasesOf 2).card := by
  have hsafe := (creators_registry Sample.reachable_registered.observable).1
  have hid : Sample.registered.state.creatorIdByProfileCommitment 41 = 2 := by decide +kernel
  exact ⟨hid, hsafe.released 2 ((hsafe.commitment_iff 41 2 (by decide)).mp hid).1⟩

end CreatorFirst.Creators
