import CreatorFirst.Supporter.Effects

/-!
# Token ids

Ids are given out in order from one on. What is recorded for an issued id is fixed, except that its
credential may become inactive and its owner may be taken away, both for good.
-/

namespace CreatorFirst.Supporter

open Chain Relation

variable {P : Primitives} {T : Erc721 Address (Uint 256)} {d : Deployment} {b : Block}
  {sender : Address} {s s' : State T}

/-- The id has been given out. -/
def State.Issued (s : State T) (t : Uint 256) : Prop := t ≠ 0 ∧ t < s.nextTokenId

/-! ## The parts of a storage after a registration, a revocation or a burn -/

section Parts

variable {v : SupportIntent} {signature : Bytes} {relayer : Address} {nonce : Uint 256}
  {earlyIssued : Uint 32} {nextTokenId : Uint 256} {tokens : T.State} {t : Uint 256}

theorem Registers.owner_eq
    (h : Registers P T d b relayer v signature s nonce earlyIssued nextTokenId tokens) :
    (s.withCredential b v nonce earlyIssued nextTokenId tokens).owner =
      Function.update s.owner s.nextTokenId v.holder :=
  T.update_owner h.minted

theorem State.owner_burned (h : T.update 0 t 0 s.tokens = some tokens) (holder : Address) :
    State.owner { s.deactivate t holder with tokens } = Function.update s.owner t 0 :=
  T.update_owner h

@[simp]
theorem State.deactivate_tokens (s : State T) (t : Uint 256) (holder : Address) :
    (s.deactivate t holder).tokens = s.tokens := by
  unfold deactivate
  split <;> rfl

@[simp]
theorem State.deactivate_owner (s : State T) (t : Uint 256) (holder : Address) :
    (s.deactivate t holder).owner = s.owner := by
  funext x
  simp only [owner, deactivate_tokens]

@[simp]
theorem State.deactivate_nextTokenId (s : State T) (t : Uint 256) (holder : Address) :
    (s.deactivate t holder).nextTokenId = s.nextTokenId := by
  unfold deactivate
  split <;> rfl

@[simp]
theorem State.deactivate_earlyPolicies (s : State T) (t : Uint 256) (holder : Address) :
    (s.deactivate t holder).earlyPolicies = s.earlyPolicies := by
  unfold deactivate
  split <;> rfl

@[simp]
theorem State.deactivate_nonces (s : State T) (t : Uint 256) (holder : Address) :
    (s.deactivate t holder).nonces = s.nonces := by
  unfold deactivate
  split <;> rfl

theorem State.deactivate_credentials (s : State T) (t : Uint 256) (holder : Address) :
    (s.deactivate t holder).credentials =
      Function.update s.credentials t { s.credentials t with active := false } := by
  unfold deactivate
  split
  · rfl
  · next hinactive =>
    have hsame : { s.credentials t with active := false } = s.credentials t := by
      cases hcredential : s.credentials t
      simp_all
    rw [hsame, Function.update_eq_self]

end Parts

/-! ## What never changes back -/

/-- From the first storage to the second, issued ids keep their record and lose at most their
activity and their owner. -/
structure Advances (s s' : State T) : Prop where
  issued : ∀ t, s.Issued t → s'.Issued t
  recorded : ∀ t, s.Issued t →
    { s'.credentials t with active := (s.credentials t).active } = s.credentials t
  inactive : ∀ t, s.Issued t → (s.credentials t).active = false → (s'.credentials t).active = false
  owner : ∀ t, s.Issued t → s'.owner t = s.owner t ∨ s'.owner t = 0

namespace Advances

protected theorem refl (s : State T) : Advances s s :=
  ⟨fun _ h ↦ h, fun _ _ ↦ rfl, fun _ _ h ↦ h, fun _ _ ↦ .inl rfl⟩

protected theorem trans {s'' : State T} (h : Advances s s') (h' : Advances s' s'') :
    Advances s s'' where
  issued t ht := h'.issued t (h.issued t ht)
  recorded t ht := by
    have hfirst := h.recorded t ht
    have hsecond := h'.recorded t (h.issued t ht)
    rw [← hfirst, ← hsecond]
  inactive t ht hinactive := h'.inactive t (h.issued t ht) (h.inactive t ht hinactive)
  owner t ht := by
    obtain hkept | hgone := h'.owner t (h.issued t ht)
    · rw [hkept]
      exact h.owner t ht
    · exact .inr hgone

theorem of_same (howner : s'.owner = s.owner) (hid : s'.nextTokenId = s.nextTokenId)
    (hcredentials : s'.credentials = s.credentials) : Advances s s' where
  issued t ht := ⟨ht.1, hid ▸ ht.2⟩
  recorded t _ := by rw [hcredentials]
  inactive t _ hinactive := by rwa [hcredentials]
  owner t _ := .inl (congrFun howner t)

/-- An inactive credential with nothing else changed, but maybe the owner gone. -/
theorem deactivate (t : Uint 256) (holder : Address) : Advances s (s.deactivate t holder) where
  issued x hx := ⟨hx.1, by simpa using hx.2⟩
  recorded x _ := by
    rw [State.deactivate_credentials]
    by_cases hxt : x = t
    · subst hxt
      simp
    · simp [hxt]
  inactive x _ hinactive := by
    rw [State.deactivate_credentials]
    by_cases hxt : x = t
    · simp [hxt]
    · rwa [Function.update_of_ne hxt]
  owner x _ := .inl (by simp)

end Advances

theorem Registers.advances {v : SupportIntent} {signature : Bytes} {relayer : Address}
    {nonce : Uint 256} {earlyIssued : Uint 32} {nextTokenId : Uint 256} {tokens : T.State}
    (h : Registers P T d b relayer v signature s nonce earlyIssued nextTokenId tokens) :
    Advances s (s.withCredential b v nonce earlyIssued nextTokenId tokens) where
  issued t ht := by
    have hlt : (t : ℕ) < nextTokenId := calc
      (t : ℕ) < s.nextTokenId := ht.2
      _ < s.nextTokenId + 1 := Nat.lt_succ_self _
      _ = nextTokenId := h.nextTokenId_eq.symm
    exact ⟨ht.1, hlt⟩
  recorded t ht := by simp [State.withCredential, Function.update_of_ne ht.2.ne]
  inactive t ht hinactive := by
    simpa [State.withCredential, Function.update_of_ne ht.2.ne] using hinactive
  owner t ht := .inl (by rw [h.owner_eq, Function.update_of_ne ht.2.ne])

theorem Effect.advances {op : Op} {callout : Option ReceiverCall}
    (h : Effect P T d b sender s op s' callout) : Advances s s' := by
  cases h with
  | administer op s' _ hadmin =>
    exact .of_same hadmin.owner hadmin.nextTokenId hadmin.credentials
  | setEarlyPolicy => exact .of_same rfl rfl rfl
  | register op v signature nonce earlyIssued nextTokenId tokens _ _ hregisters =>
    exact hregisters.advances
  | revoke t => exact .deactivate t _
  | burn t tokens _ _ hburned =>
    have hfirst : Advances s (s.deactivate t (s.owner t)) := .deactivate t _
    refine ⟨hfirst.issued, hfirst.recorded, hfirst.inactive, fun x _ ↦ ?_⟩
    rw [State.owner_burned hburned]
    by_cases hxt : x = t
    · exact .inr (by simp [hxt])
    · exact .inl (Function.update_of_ne hxt _ _)

theorem Small.advances {w w' : SupporterWorld T} (h : Small P T d w w') :
    Advances w.state w'.state := by
  cases h with
  | tick | resume => exact .refl _
  | call msg op s callout heff => exact heff.advances

theorem run_advances {w w' : SupporterWorld T} (h : ReflTransGen (contract P T d).Micro w w') :
    Advances w.state w'.state :=
  run_invariant (I := fun v ↦ Advances w.state v.state)
    (fun _ _ _ hv hm ↦ hv.trans (micro_small hm).advances) h (.refl _)

/-! ## The ids of the journal -/

/-- The id that the call gave out. -/
def issuedId (e : SupporterEntry T) : Option (Uint 256) :=
  (e.op.intent e.msg.sender).map fun _ ↦ e.before.nextTokenId

/-- The ids given out in order, newest first. -/
def issuedIds (journal : List (SupporterEntry T)) : List (Uint 256) := journal.filterMap issuedId

/-- The ids below the next one are those that were given out, each of them once. -/
structure InOrder (w : SupporterWorld T) : Prop where
  next_ne : w.state.nextTokenId ≠ 0
  mem_iff : ∀ t, t ∈ issuedIds w.journal ↔ w.state.Issued t
  nodup : (issuedIds w.journal).Nodup

/-- What one step does to the ids: none, or the next one is given out. -/
theorem Small.id_change {w w' : SupporterWorld T} (h : Small P T d w w') :
    (w'.state.nextTokenId = w.state.nextTokenId ∧ issuedIds w'.journal = issuedIds w.journal) ∨
    ((w'.state.nextTokenId : ℕ) = w.state.nextTokenId + 1 ∧
      issuedIds w'.journal = w.state.nextTokenId :: issuedIds w.journal) := by
  cases h with
  | tick | resume => exact .inl ⟨rfl, rfl⟩
  | call msg op s callout heff =>
    cases heff with
    | administer op s' hop hadmin =>
      exact .inl ⟨hadmin.nextTokenId,
        List.filterMap_cons_none (by simp [issuedId, Op.intent_of_administrative hop])⟩
    | setEarlyPolicy => exact .inl ⟨rfl, List.filterMap_cons_none rfl⟩
    | register op v signature nonce earlyIssued nextTokenId tokens hop _ hregisters =>
      exact .inr ⟨hregisters.nextTokenId_eq,
        List.filterMap_cons_some (by simp [issuedId, hop])⟩
    | revoke t => exact .inl ⟨by simp, List.filterMap_cons_none rfl⟩
    | burn t => exact .inl ⟨by simp, List.filterMap_cons_none rfl⟩

theorem Small.inOrder {w w' : SupporterWorld T} (hw : InOrder w) (h : Small P T d w w') :
    InOrder w' := by
  obtain ⟨hnext, hids⟩ | ⟨hnext, hids⟩ := h.id_change
  · refine ⟨hnext ▸ hw.next_ne, fun t ↦ ?_, hids ▸ hw.nodup⟩
    rw [hids, hw.mem_iff t, State.Issued, State.Issued, hnext]
  · have hfresh : w.state.nextTokenId ∉ issuedIds w.journal :=
      fun hmem ↦ lt_irrefl _ ((hw.mem_iff _).mp hmem).2
    refine ⟨fun h0 ↦ ?_, fun t ↦ ?_, ?_⟩
    · rw [h0] at hnext
      exact absurd hnext (by simp)
    · rw [hids, List.mem_cons, hw.mem_iff t]
      simp only [State.Issued, Fin.lt_def, Fin.ext_iff, hnext]
      have hne := hw.next_ne
      constructor
      · rintro (ht | ⟨ht, hlt⟩)
        · exact ⟨fun h0 ↦ hne (Fin.ext (ht.symm.trans (congrArg Fin.val h0))), by omega⟩
        · exact ⟨ht, by omega⟩
      · rintro ⟨ht, hlt⟩
        by_cases heq : (t : ℕ) = w.state.nextTokenId
        · exact .inl heq
        · exact .inr ⟨ht, by omega⟩
    · rw [hids]
      exact List.nodup_cons.mpr ⟨hfresh, hw.nodup⟩

theorem Observable.inOrder {w : SupporterWorld T} (h : Observable P T d w) : InOrder w := by
  refine h.invariant (I := InOrder) (fun b ↦ ⟨?_, fun t ↦ ?_, List.nodup_nil⟩)
    fun _ _ _ hw hs ↦ hs.inOrder hw
  · exact (by decide : (1 : Uint 256) ≠ 0)
  · simp only [genesis, issuedIds, List.filterMap_nil, List.not_mem_nil, false_iff]
    rintro ⟨hne, hlt⟩
    have hone : (t : ℕ) < 1 := hlt
    exact hne (Fin.ext (Nat.lt_one_iff.mp hone))

end CreatorFirst.Supporter
