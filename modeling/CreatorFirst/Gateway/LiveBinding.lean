import CreatorFirst.Gateway.TrustAuditLog

/-!
# One live binding per owner

A binding is live while it is active or has not expired. `begin` looks at the newest binding of the owner
only, so a live binding has to be the newest one. Every statement keeps this but the one that activates
a binding, which may come after a newer binding was begun.
-/

namespace CreatorFirst.Gateway

open Database Process

namespace AccountTrust

def Binding.Live (now : Date) (r : Binding) : Prop := r.state = .active ∨ now.ms < r.expiresAt.ms

/-- Each owner has at most one live binding, and none is begun for an owner with an active one. -/
structure State.OneLive (now : Date) (t : State) : Prop where
  atMostOne : ∀ r ∈ t.bindings, ∀ r' ∈ t.bindings, r.ownerId = r'.ownerId → r.Live now → r'.Live now →
    r = r'
  refuses : ∀ r ∈ t.bindings, r.state = .active → ∀ profile,
    ∃ e, t.mayBegin now r.ownerId profile = .error e

section Newest

variable {t : State}

theorem activeTrustBinding_eq_some {ownerId : AccountId} {r : Binding}
    (h : t.activeTrustBinding ownerId = some r) :
    r ∈ t.bindings ∧ r.ownerId = ownerId ∧
      ∀ r' ∈ t.bindings, r'.ownerId = ownerId → r'.createdAt.ms ≤ r.createdAt.ms := by
  have hmem := List.argmax_mem h
  rw [List.mem_filter] at hmem
  refine ⟨hmem.1, by simpa using hmem.2, fun r' hr' howner ↦ ?_⟩
  have hmem' : r' ∈ t.bindings.rows.filter fun r ↦ r.ownerId = ownerId :=
    List.mem_filter.mpr ⟨hr', by simpa using howner⟩
  exact @List.le_of_mem_argmax _ _ _ (fun r : Binding ↦ r.createdAt.ms) _ _ _ hmem' h

theorem activeTrustBinding_eq_none {ownerId : AccountId} (h : t.activeTrustBinding ownerId = none) :
    ∀ r ∈ t.bindings, r.ownerId ≠ ownerId := by
  intro r hr howner
  have hempty := List.argmax_eq_none.mp h
  have hmem : r ∈ t.bindings.rows.filter fun r ↦ r.ownerId = ownerId :=
    List.mem_filter.mpr ⟨hr, by simpa using howner⟩
  rw [hempty] at hmem
  cases hmem

end Newest

/-- A live binding is newer than the other bindings of its owner, no two bindings of an owner were begun
at one time, and no binding is begun expired. -/
structure State.Ordered (now : Date) (t : State) : Prop where
  live_newest : ∀ r ∈ t.bindings, r.Live now → ∀ r' ∈ t.bindings, r'.ownerId = r.ownerId →
    r'.bindingId ≠ r.bindingId → r'.createdAt.ms < r.createdAt.ms
  distinct : ∀ r ∈ t.bindings, ∀ r' ∈ t.bindings, r'.ownerId = r.ownerId →
    r'.bindingId ≠ r.bindingId → r'.createdAt.ms ≠ r.createdAt.ms
  lasting : ∀ r ∈ t.bindings, r.createdAt.ms < r.expiresAt.ms

section Ordered

variable {now : Date} {t t' : State}

theorem State.Ordered.oneLive (h : t.Ordered now) : t.OneLive now := by
  constructor
  case atMostOne =>
    intro r hr r' hr' howner hlive hlive'
    by_contra hne
    have hid : r'.bindingId ≠ r.bindingId := fun hid ↦ hne (Table.eq_of_key hr hr' hid.symm)
    have hbefore := h.live_newest r hr hlive r' hr' howner.symm hid
    exact absurd (h.live_newest r' hr' hlive' r hr howner hid.symm) (not_lt.mpr hbefore.le)
  case refuses =>
    intro r hr hactive profile
    cases hbegin : t.mayBegin now r.ownerId profile with
    | error e => exact ⟨e, rfl⟩
    | ok u =>
      simp only [State.mayBegin, bind_eq_ok, requireValue_eq_ok] at hbegin
      obtain ⟨-, -, hbegin⟩ := hbegin
      split at hbegin
      · next hnone => exact absurd rfl (activeTrustBinding_eq_none hnone r hr)
      · next existing hexisting =>
        obtain ⟨hmem, howner, hnewest⟩ := activeTrustBinding_eq_some hexisting
        simp only [bind_eq_ok, requireValue_eq_ok] at hbegin
        obtain ⟨-, hstate, -⟩ := hbegin
        have hid : existing.bindingId ≠ r.bindingId := by
          intro hid
          exact hstate (Table.eq_of_key hmem hr hid ▸ hactive)
        have hbefore := h.live_newest r hr (.inl hactive) existing hmem howner hid
        exact absurd (hnewest r hr rfl) (not_le.mpr hbefore)

theorem ordered_empty (now : Date) : State.empty.Ordered now where
  live_newest r hr := absurd hr (Table.not_mem_empty r)
  distinct r hr := absurd hr (Table.not_mem_empty r)
  lasting r hr := absurd hr (Table.not_mem_empty r)

/-- Bindings do not come to life as time passes. -/
theorem State.Ordered.later (h : t.Ordered now) {later : Date} (hle : now.ms ≤ later.ms) :
    t.Ordered later where
  live_newest r hr hlive := by
    refine h.live_newest r hr ?_
    obtain hactive | hunexpired := hlive
    · exact .inl hactive
    · exact .inr (hle.trans_lt hunexpired)
  distinct := h.distinct
  lasting := h.lasting

theorem State.Ordered.of_bindings (h : t.Ordered now) (hbindings : t'.bindings = t.bindings) :
    t'.Ordered now := by
  constructor
  · rw [hbindings]
    exact h.live_newest
  · rw [hbindings]
    exact h.distinct
  · rw [hbindings]
    exact h.lasting

/-- The binding is the newest of its owner. -/
def State.Newest (t : State) (bindingId : String) : Prop :=
  ∀ r ∈ t.bindings, r.bindingId = bindingId → ∀ r' ∈ t.bindings, r'.ownerId = r.ownerId →
    r'.createdAt.ms ≤ r.createdAt.ms

/-- The columns that no transition changes. -/
def Binding.origin (r : Binding) : String × AccountId × Date × Date :=
  (r.bindingId, r.ownerId, r.createdAt, r.expiresAt)

variable {k : String} {state : BindingState} {detail : Detail} {updatedAt : Date}

/-- A row after a transition, and the row it was. -/
theorem mem_transition {x : Binding}
    (hx : x ∈ t.bindings.update k (fun _ ↦ True) (Binding.enter state detail updatedAt)) :
    ∃ r ∈ t.bindings, x.origin = r.origin ∧
      ((r.bindingId = k ∧ x.state = state) ∨ (r.bindingId ≠ k ∧ x.state = r.state)) := by
  obtain ⟨r, hr, rfl⟩ := Table.mem_update.mp hx
  refine ⟨r, hr, ?_⟩
  by_cases hk : r.bindingId = k
  · rw [if_pos ⟨hk, trivial⟩]
    exact ⟨rfl, .inl ⟨hk, rfl⟩⟩
  · rw [if_neg fun h ↦ hk h.1]
    exact ⟨rfl, .inr ⟨hk, rfl⟩⟩

theorem State.Newest.transition {j : String} (h : t.Newest j)
    (hbindings : t'.bindings = t.bindings.update k (fun _ ↦ True)
      (Binding.enter state detail updatedAt)) : t'.Newest j := by
  intro x hx hid x' hx' howner
  rw [hbindings] at hx hx'
  obtain ⟨r, hr, horigin, -⟩ := mem_transition hx
  obtain ⟨r', hr', horigin', -⟩ := mem_transition hx'
  simp only [Binding.origin, Prod.mk.injEq] at horigin horigin'
  rw [horigin.2.2.1, horigin'.2.2.1]
  refine h r hr (horigin.1.symm.trans hid) r' hr' ?_
  rw [← horigin'.2.1, ← horigin.2.1, howner]

/-- A transition keeps the order unless it activates a binding that is not the newest. -/
theorem State.Ordered.transition (h : t.Ordered now)
    (hbindings : t'.bindings = t.bindings.update k (fun _ ↦ True) (Binding.enter state detail updatedAt))
    (hstate : state = .active → t.Newest k) : t'.Ordered now := by
  have hcolumns : ∀ x ∈ t'.bindings, ∃ r ∈ t.bindings, x.bindingId = r.bindingId ∧
      x.ownerId = r.ownerId ∧ x.createdAt = r.createdAt ∧ x.expiresAt = r.expiresAt ∧
        ((r.bindingId = k ∧ x.state = state) ∨ (r.bindingId ≠ k ∧ x.state = r.state)) := by
    intro x hx
    rw [hbindings] at hx
    obtain ⟨r, hr, horigin, hcases⟩ := mem_transition hx
    simp only [Binding.origin, Prod.mk.injEq] at horigin
    exact ⟨r, hr, horigin.1, horigin.2.1, horigin.2.2.1, horigin.2.2.2, hcases⟩
  constructor
  case live_newest =>
    intro x hx hlive x' hx' howner hne
    obtain ⟨r, hr, hid, ho, hcreated, hexpires, hcases⟩ := hcolumns x hx
    obtain ⟨r', hr', hid', ho', hcreated', -, -⟩ := hcolumns x' hx'
    rw [hid, hid'] at hne
    rw [ho, ho'] at howner
    rw [hcreated, hcreated']
    by_cases hbefore : r.Live now
    · exact h.live_newest r hr hbefore r' hr' howner hne
    · -- the transition has brought the binding to life, so it has activated it
      have hactivated : r.bindingId = k ∧ state = .active := by
        obtain ⟨hk, hx⟩ | ⟨hk, hx⟩ := hcases
        · obtain hactive | hunexpired := hlive
          · exact ⟨hk, hx ▸ hactive⟩
          · exact absurd (.inr (hexpires ▸ hunexpired)) hbefore
        · obtain hactive | hunexpired := hlive
          · exact absurd (.inl (hx ▸ hactive)) hbefore
          · exact absurd (.inr (hexpires ▸ hunexpired)) hbefore
      have hle := hstate hactivated.2 r hr hactivated.1 r' hr' howner
      exact lt_of_le_of_ne hle (h.distinct r hr r' hr' howner hne)
  case distinct =>
    intro x hx x' hx' howner hne
    obtain ⟨r, hr, hid, ho, hcreated, -⟩ := hcolumns x hx
    obtain ⟨r', hr', hid', ho', hcreated', -⟩ := hcolumns x' hx'
    rw [hcreated, hcreated']
    exact h.distinct r hr r' hr' (ho' ▸ ho ▸ howner) (hid' ▸ hid ▸ hne)
  case lasting =>
    intro x hx
    obtain ⟨r, hr, -, -, hcreated, hexpires, -⟩ := hcolumns x hx
    rw [hcreated, hexpires]
    exact h.lasting r hr

/-- A binding is begun only after the bindings of its owner have expired. -/
theorem expired_of_mayBegin (h : t.Ordered now) {accountId : AccountId} {profile : Profile}
    (hmay : t.mayBegin now accountId profile = .ok ()) :
    ∀ r ∈ t.bindings, r.ownerId = accountId → ¬r.Live now ∧ r.createdAt.ms < now.ms := by
  intro r hr howner
  simp only [State.mayBegin, bind_eq_ok, requireValue_eq_ok] at hmay
  obtain ⟨-, -, hmay⟩ := hmay
  split at hmay
  · next hnone => exact absurd howner (activeTrustBinding_eq_none hnone r hr)
  · next existing hexisting =>
    obtain ⟨hmem, hexistingOwner, hnewest⟩ := activeTrustBinding_eq_some hexisting
    simp only [bind_eq_ok, requireValue_eq_ok] at hmay
    obtain ⟨-, hstate, hexpired⟩ := hmay
    have hdead : ¬existing.Live now := by
      rintro (hactive | hunexpired)
      · exact hstate hactive
      · exact absurd hexpired (not_le.mpr hunexpired)
    constructor
    · intro hlive
      by_cases hid : existing.bindingId = r.bindingId
      · exact hdead (Table.eq_of_key hmem hr hid ▸ hlive)
      · have hbefore := h.live_newest r hr hlive existing hmem (hexistingOwner.trans howner.symm) hid
        exact absurd (hnewest r hr howner) (not_le.mpr hbefore)
    · calc r.createdAt.ms ≤ existing.createdAt.ms := hnewest r hr howner
        _ < existing.expiresAt.ms := h.lasting existing hmem
        _ ≤ now.ms := hexpired

theorem State.Ordered.begun (h : t.Ordered now) {config : ServerConfig} {accountId : AccountId}
    {draws : BeginDraws} {expiresAt : Date} {profile : Profile}
    (hmay : t.mayBegin now accountId profile = .ok ())
    (hexpires : expiresAt.ms = now.ms + config.trustBindingTtlMs)
    (hinsert : t.bindings.insert (newBinding now accountId draws expiresAt) = some t'.bindings) :
    t'.Ordered now := by
  have hexpired := expired_of_mayBegin h hmay
  have hmem : ∀ x, x ∈ t'.bindings ↔ x ∈ t.bindings ∨ x = newBinding now accountId draws expiresAt :=
    fun x ↦ Table.mem_insert hinsert
  constructor
  case live_newest =>
    intro r hr hlive r' hr' howner hne
    obtain hr | rfl := (hmem r).mp hr
    · obtain hr' | rfl := (hmem r').mp hr'
      · exact h.live_newest r hr hlive r' hr' howner hne
      · exact absurd hlive (hexpired r hr howner.symm).1
    · obtain hr' | rfl := (hmem r').mp hr'
      · exact (hexpired r' hr' howner).2
      · exact absurd rfl hne
  case distinct =>
    intro r hr r' hr' howner hne
    obtain hr | rfl := (hmem r).mp hr
    · obtain hr' | rfl := (hmem r').mp hr'
      · exact h.distinct r hr r' hr' howner hne
      · exact (hexpired r hr howner.symm).2.ne'
    · obtain hr' | rfl := (hmem r').mp hr'
      · exact (hexpired r' hr' howner).2.ne
      · exact absurd rfl hne
  case lasting =>
    intro r hr
    obtain hr | rfl := (hmem r).mp hr
    · exact h.lasting r hr
    · change now.ms < expiresAt.ms
      rw [hexpires]
      exact Nat.lt_add_of_pos_right config.trustBindingTtl_pos

end Ordered

section Step

variable (lib : Library) (config : ServerConfig) (now : Date) (profile : Profile) (t : State)

/-- A verified wallet is that of the owner's newest binding, or the owner has another active binding. -/
def OnNewest : Action → Prop
  | .walletRecovered accountId i =>
    ∀ held ∈ t.heldWallet accountId i, walletSigned lib held.intent held.signature = .ok () →
      t.OtherActive held.transaction.bindingId ∨
        ∀ r ∈ t.bindings.rows, r.bindingId = held.transaction.bindingId →
          t.activeTrustBinding r.ownerId = some r
  | _ => True

instance (a : Action) : Decidable (OnNewest lib t a) :=
  match a with
  | .walletRecovered .. => by
    unfold OnNewest
    infer_instance
  | .begin .. | .assertMockJpki .. | .registrationOptions .. | .registrationChallenge ..
  | .verifyRegistration .. | .registrationVerified .. | .authenticationOptions _
  | .authenticationChallenge .. | .verifyAuthentication .. | .authenticationVerified .. | .walletOptions ..
  | .verifyWallet .. => .isTrue trivial

variable {lib config now profile t}

theorem ordered_step {a : Action} {profile' : Profile} {t' : State}
    (heffect : Effect lib config now profile t a profile' t') (hnewest : OnNewest lib t a)
    (h : t.Ordered now) : t'.Ordered now := by
  cases heffect with
  | same | finished | waiting | unwritten | challenged | authenticationChallenge | authenticating
  | authenticated | intended | verifying => exact h.of_bindings rfl
  | begun accountId draws expiresAt bindings hmay hexpires hinsert =>
    exact h.begun hmay hexpires hinsert
  | asserted | registered => exact h.transition rfl (by simp)
  | unbound => exact h.transition rfl (by simp)
  | bound accountId i held hheld hsigned hother =>
    have hbound : (t.walletBound now accountId i held).Ordered now := h.transition rfl (by simp)
    refine hbound.transition rfl fun _ ↦ ?_
    have horiginal : t.Newest held.transaction.bindingId := by
      intro r hr hid r' hr' howner
      have hfound := (hnewest held hheld hsigned).resolve_left hother r hr hid
      exact (activeTrustBinding_eq_some hfound).2.2 r' hr' howner
    have hkept : (t.walletBound now accountId i held).Newest held.transaction.bindingId :=
      horiginal.transition rfl
    exact hkept

end Step

end AccountTrust

namespace Server

variable (lib : Library) (config : ServerConfig)

/-- The request to account trust is on the newest binding. -/
def OnNewest (s : State) : Action → Prop
  | .trust action => AccountTrust.OnNewest lib s.trust action
  | _ => True

theorem ordered_server {s : State} {a : Action} (hnewest : OnNewest lib s a)
    (h : s.trust.Ordered s.clock) :
    (step lib config s a).trust.Ordered (step lib config s a).clock := by
  cases a with
  | wait ms => exact h.later (Date.ms_le_advance _ _)
  | trust action =>
    exact AccountTrust.ordered_step (AccountTrust.serve_effect lib config s.clock _ s.trust action) hnewest h
  | _ =>
    rw [step_trust_of_ne (by simp), step_clock_of_ne (by simp)]
    exact h

/-- In every run in which each wallet that is verified is that of a newest binding, or of an owner with
another active binding, every owner has one live binding at most. -/
theorem one_live_binding (clock : Date) (actions : List Action)
    (hnewest : EachStep (step lib config) (OnNewest lib) (start clock) actions) :
    AtEachMoment (step lib config) (fun s ↦ s.trust.OneLive s.clock) (start clock) actions := by
  have hordered : AtEachMoment (step lib config) (fun s ↦ s.trust.Ordered s.clock) (start clock)
      actions :=
    hnewest.keeps (fun s a hstep h ↦ ordered_server lib config hstep h) (AccountTrust.ordered_empty clock)
  exact fun past hpast ↦ (hordered past hpast).oneLive

instance (s : State) (a : Action) : Decidable (OnNewest lib s a) :=
  match a with
  | .trust action => inferInstanceAs (Decidable (AccountTrust.OnNewest lib s.trust action))
  | .wait _ | .registerDemoUser .. | .createChallenge .. | .verifyChallenge .. | .messageRecovered ..
  | .createSupportIntent .. | .supportBody .. | .submitSupport .. | .supportSignature ..
  | .supportRegistration .. | .createPlayback .. | .deliverStream .. | .opened .. | .data .. | .record ..
  | .closeSession .. | .participation _ => .isTrue trivial

namespace Sample

def secondBeginDraws : AccountTrust.BeginDraws where
  bindingId := "c0a7e6b2-1d55-4c3f-8a19-2b9d7e4f6c10"
  csrfToken := "Wq8nT5rB2kLm0vX4yJc7ZsHdP1gFaEuO"
  jpkiChallenge := "mN3bV6cX9zL2kJ5hG8fD1sA4"
  accountSubjectCommitment := "0x8e2371be01bdad7f29d8558a280b1f444bdda77d9fb6e3e4e5f1030c76ece6e7"

/-- The first binding expires while its signature is recovered, and another one is begun. -/
def overtaken : List Action := registration ++ bindWallet ++ [
  .wait 600000,
  .trust (.begin listener secondBeginDraws),
  .trust (.walletRecovered listener 2)]

end Sample

theorem one_live_binding_bound :
    AtEachMoment (step Sample.library Sample.config) (fun s ↦ s.trust.OneLive s.clock)
      (start Sample.clock)
      (Sample.registration ++ Sample.bindWallet ++ [.trust (.walletRecovered Sample.listener 2)]) :=
  one_live_binding Sample.library Sample.config Sample.clock _ (by decide +kernel)

/-- The first binding is active and the second has not expired. -/
theorem two_live_bindings :
    ¬AtEachMoment (step Sample.library Sample.config) (fun s ↦ s.trust.OneLive s.clock)
      (start Sample.clock) Sample.overtaken := by
  intro h
  have hfirst : ∃ r ∈ (run (step Sample.library Sample.config) (start Sample.clock)
      Sample.overtaken).trust.bindings.rows, r.bindingId = Sample.beginDraws.bindingId ∧
        r.ownerId = Sample.listener ∧ r.state = .active := by decide +kernel
  have hsecond : ∃ r ∈ (run (step Sample.library Sample.config) (start Sample.clock)
      Sample.overtaken).trust.bindings.rows, r.bindingId = Sample.secondBeginDraws.bindingId ∧
        r.ownerId = Sample.listener ∧ (run (step Sample.library Sample.config) (start Sample.clock)
          Sample.overtaken).clock.ms < r.expiresAt.ms := by decide +kernel
  obtain ⟨r, hr, hid, howner, hactive⟩ := hfirst
  obtain ⟨r', hr', hid', howner', hunexpired⟩ := hsecond
  have hsame := h.last.atMostOne r hr r' hr' (howner.trans howner'.symm) (.inl hactive) (.inr hunexpired)
  rw [hsame, hid'] at hid
  exact absurd hid (by decide)

end Server

end CreatorFirst.Gateway
