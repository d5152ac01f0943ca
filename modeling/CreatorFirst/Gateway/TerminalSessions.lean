import CreatorFirst.Gateway.Effects

/-!
# Terminal sessions

Closing a session and recording evidence leave terminal sessions alone. Starting a stream and expiring
a session do not look at the state they overwrite: a stream that is answered late starts a closed
session again, and a request after the expiry turns a closed session into an expired one.
-/

namespace CreatorFirst.Gateway

open Database Process

namespace Store

variable {s s' : Store} {k : String}

def stateOf (s : Store) (sessionId : String) : Option SessionState :=
  (s.session sessionId).map (·.state)

/-- The lease is released in the rows of terminal sessions and no others. -/
def LeasesMatch (s : Store) : Prop :=
  ∀ r ∈ s.sessions.rows, r.leaseReleased = true ↔ r.state.Terminal

instance (s : Store) : Decidable s.LeasesMatch :=
  inferInstanceAs (Decidable (∀ r ∈ s.sessions.rows, _ ↔ _))

/-- Sessions that are terminal in `s` have the same state in `s'`. -/
def TerminalKept (s s' : Store) : Prop :=
  ∀ k state, state.Terminal → s.stateOf k = some state → s'.stateOf k = some state

def leaseReleased (s : Store) (sessionId : String) : Bool :=
  (s.session sessionId).any (·.leaseReleased)

theorem stateOf_eq_some {state : SessionState} :
    s.stateOf k = some state ↔ ∃ r, s.session k = some r ∧ r.state = state := by
  simp [stateOf]

theorem leaseReleased_iff (h : s.LeasesMatch) {state : SessionState} (hk : s.stateOf k = some state) :
    s.leaseReleased k = true ↔ state.Terminal := by
  obtain ⟨r, hr, rfl⟩ := stateOf_eq_some.mp hk
  have hmem := (Table.find?_eq_some.mp hr).1
  rw [leaseReleased, hr]
  exact h r hmem

theorem TerminalKept.refl (s : Store) : s.TerminalKept s := fun _ _ _ h ↦ h

theorem TerminalKept.trans {s'' : Store} (h : s.TerminalKept s') (h' : s'.TerminalKept s'') :
    s.TerminalKept s'' :=
  fun k state hterminal hk ↦ h' k state hterminal (h k state hterminal hk)

section Change

/-- The sessions of `s'` are those of `s` after one update. -/
theorem session_update {p : Session → Prop} [DecidablePred p] {f : Table.Rewrite Session.sessionId}
    (hs' : s'.sessions = s.sessions.update k p f) (j : String) :
    s'.session j =
      if j = k then (s.session k).map fun r ↦ if p r then f.apply r else r else s.session j := by
  rw [session, hs']
  split
  · next hj =>
    subst hj
    exact Table.find?_update_self
  · next hj => exact Table.find?_update_of_ne hj

variable {p : Session → Prop} [DecidablePred p] {f : Table.Rewrite Session.sessionId}

theorem stateOf_update (hs' : s'.sessions = s.sessions.update k p f) {r : Session}
    (hr : s.session k = some r) :
    s'.stateOf k = some (if p r then (f.apply r).state else r.state) := by
  rw [stateOf, session_update hs', if_pos rfl, hr]
  by_cases hp : p r <;> simp [hp]

theorem TerminalKept.update (hs' : s'.sessions = s.sessions.update k p f)
    (hf : ∀ r, s.session k = some r → p r → r.state.Terminal → (f.apply r).state = r.state) :
    s.TerminalKept s' := by
  intro j state hterminal hj
  obtain ⟨r, hr, rfl⟩ := stateOf_eq_some.mp hj
  by_cases hjk : j = k
  · subst hjk
    rw [stateOf_update hs' hr]
    split
    · next hp => rw [hf r hr hp hterminal]
    · rfl
  · refine stateOf_eq_some.mpr ⟨r, ?_, rfl⟩
    rw [session_update hs', if_neg hjk, hr]

theorem LeasesMatch.update (h : s.LeasesMatch) (hs' : s'.sessions = s.sessions.update k p f)
    (hf : ∀ r, s.session k = some r → p r → (r.leaseReleased = true ↔ r.state.Terminal) →
      ((f.apply r).leaseReleased = true ↔ (f.apply r).state.Terminal)) : s'.LeasesMatch := by
  intro x hx
  have hmem : x ∈ s.sessions.update k p f := hs' ▸ hx
  obtain ⟨r, hr, rfl⟩ := Table.mem_update.mp hmem
  split
  · next hk => exact hf r (Table.find?_eq_some.mpr ⟨hr, hk.1⟩) hk.2 (h r hr)
  · exact h r hr

/-- An insertion leaves the sessions there are. -/
theorem session_insert {r x : Session} (hs' : s.sessions.insert r = some s'.sessions)
    (hx : s.session k = some x) : s'.session k = some x := by
  have hfree := (Table.insert_eq_some.mp hs').1
  rw [session, Table.find?_insert hs', if_neg]
  · exact hx
  · rintro rfl
    rw [session, hfree] at hx
    cases hx

theorem TerminalKept.insert {r : Session} (hs' : s.sessions.insert r = some s'.sessions) :
    s.TerminalKept s' := by
  intro j state hterminal hj
  obtain ⟨x, hx, rfl⟩ := stateOf_eq_some.mp hj
  exact stateOf_eq_some.mpr ⟨x, session_insert hs' hx, rfl⟩

theorem LeasesMatch.insert (h : s.LeasesMatch) {r : Session}
    (hs' : s.sessions.insert r = some s'.sessions)
    (hr : r.leaseReleased = true ↔ r.state.Terminal) : s'.LeasesMatch := by
  intro x hx
  obtain hx | rfl := (Table.mem_insert hs').mp hx
  · exact h x hx
  · exact hr

theorem TerminalKept.of_sessions_eq (hs' : s'.sessions = s.sessions) : s.TerminalKept s' := by
  intro j state _ hj
  rwa [stateOf, session, hs']

theorem LeasesMatch.of_sessions_eq (h : s.LeasesMatch) (hs' : s'.sessions = s.sessions) :
    s'.LeasesMatch := by
  rwa [LeasesMatch, hs']

theorem leaseReleased_eq {r : Session} (hr : s.session k = some r) :
    s.leaseReleased k = r.leaseReleased := by
  rw [leaseReleased, hr, Option.any_some]

theorem exists_of_leaseReleased (h : s.leaseReleased k = true) :
    ∃ r, s.session k = some r ∧ r.leaseReleased = true := by
  simpa [leaseReleased, Option.any_eq_true] using h

theorem leaseReleased_update (hs' : s'.sessions = s.sessions.update k p f) (j : String) :
    s'.leaseReleased j =
      if j = k then (s.session k).any fun r ↦ (if p r then f.apply r else r).leaseReleased
      else s.leaseReleased j := by
  rw [leaseReleased, session_update hs']
  split
  · cases s.session k <;> rfl
  · rfl

/-- An update that does not write the lease column. -/
theorem leaseReleased_update_same (hs' : s'.sessions = s.sessions.update k p f)
    (hf : ∀ r, (f.apply r).leaseReleased = r.leaseReleased) (j : String) :
    s'.leaseReleased j = s.leaseReleased j := by
  rw [leaseReleased_update hs']
  split
  · next hj =>
    subst hj
    have hsame : ∀ r : Session, (if p r then f.apply r else r).leaseReleased = r.leaseReleased := by
      intro r
      rw [apply_ite Session.leaseReleased, hf, ite_self]
    simp only [hsame]
    rfl
  · rfl

/-- An update that releases leases takes none back. -/
theorem leaseReleased_update_of_released {state : SessionState}
    (hs' : s'.sessions = s.sessions.update k p (Session.release state)) {j : String}
    (h : s.leaseReleased j = true) : s'.leaseReleased j = true := by
  rw [leaseReleased_update hs']
  split
  · next hj =>
    subst hj
    obtain ⟨r, hr, hreleased⟩ := exists_of_leaseReleased h
    rw [hr, Option.any_some]
    split
    · rfl
    · exact hreleased
  · exact h

/-- The lease of a new session is held. -/
theorem leaseReleased_insert {r : Session} (hs' : s.sessions.insert r = some s'.sessions)
    (hr : r.leaseReleased = false) (j : String) : s'.leaseReleased j = s.leaseReleased j := by
  rw [leaseReleased, session, Table.find?_insert hs']
  split
  · next hj =>
    have hfree := (Table.insert_eq_some.mp hs').1
    subst hj
    rw [leaseReleased, session, hfree, Option.any_some, hr]
    rfl
  · rfl

end Change

end Store

/-- No stream starts a terminal session, and a session that a request expires is open or has already
expired. -/
def RespectsTerminal (g : State) : Action → Prop
  | .deliverStream account sessionId =>
    ∀ r, g.store.session sessionId = some r → r.ownerId = account.accountId →
      r.expiresAt ≤ g.clock.ms → r.state.Terminal → r.state = .expired
  | .opened i (.ok _) =>
    ∀ session startedAt, g.streams[i]? = some (.opening session startedAt) →
      ∀ r, g.store.session session.sessionId = some r → ¬r.state.Terminal
  | _ => True

section

variable {config : Config} {requestHash : String → String} {g : State} {a : Action}

theorem respectsTerminal_of_kept (h : g.store.TerminalKept (step config requestHash g a).store) :
    RespectsTerminal g a := by
  cases a with
  | deliverStream account sessionId =>
    intro r hr howner hexpired hterminal
    have hkept := h sessionId r.state hterminal (Store.stateOf_eq_some.mpr ⟨r, hr, rfl⟩)
    rw [step_expired hr howner hexpired, Store.stateOf_update rfl hr, if_pos trivial] at hkept
    exact (Option.some.inj hkept).symm
  | opened i answer =>
    cases answer with
    | error e => trivial
    | ok delivery =>
      intro session startedAt hstream r hr hterminal
      have hkept := h session.sessionId r.state hterminal (Store.stateOf_eq_some.mpr ⟨r, hr, rfl⟩)
      rw [step_opened hstream, Store.stateOf_update rfl hr, if_pos trivial] at hkept
      have hstarted : SessionState.started = r.state := Option.some.inj hkept
      rw [← hstarted] at hterminal
      revert hterminal
      decide
  | _ => trivial

theorem kept_of_respectsTerminal (hleases : g.store.LeasesMatch) (h : RespectsTerminal g a) :
    (step config requestHash g a).store.LeasesMatch ∧
      g.store.TerminalKept (step config requestHash g a).store := by
  have hchange := step_store config requestHash g a
  generalize (step config requestHash g a).store = s at hchange ⊢
  cases hchange with
  | same => exact ⟨hleases, .refl _⟩
  | playback account draws body =>
    obtain hsame | ⟨track, adapterRef, hinsert, -⟩ := createPlayback_sessions rfl
    · exact ⟨hleases.of_sessions_eq hsame, .of_sessions_eq hsame⟩
    · have hnew : false = true ↔ SessionState.authorized.Terminal := by decide
      exact ⟨hleases.insert hinsert hnew, .insert hinsert⟩
  | expired account sessionId r hr howner hexpired =>
    refine ⟨hleases.update rfl fun r' _ _ _ ↦ ?_, .update rfl fun r' hr' _ hterminal ↦ ?_⟩
    · exact iff_of_true rfl (.inr (.inr rfl))
    · obtain rfl : r = r' := Option.some.inj (hr.symm.trans hr')
      exact (h r hr howner hexpired hterminal).symm
  | started i session startedAt delivery hstream =>
    have hopen := h session startedAt hstream
    have hstarted : ¬SessionState.started.Terminal := by decide
    refine ⟨hleases.update rfl fun r hr _ hmatch ↦ ?_, .update rfl fun r hr _ hterminal ↦ ?_⟩
    · exact iff_of_false (fun hreleased ↦ hopen r hr (hmatch.mp hreleased)) hstarted
    · exact absurd hterminal (hopen r hr)
  | recorded i evidenceId value =>
    have hactive : ¬SessionState.active.Terminal := by decide
    refine ⟨hleases.update rfl fun r _ hopen hmatch ↦ ?_, .update rfl fun r _ hopen hterminal ↦ ?_⟩
    · exact iff_of_false (fun hreleased ↦ hopen (hmatch.mp hreleased)) hactive
    · exact absurd hterminal hopen
  | closed account sessionId =>
    refine ⟨hleases.update rfl fun r _ _ _ ↦ ?_, .update rfl fun r _ hopen hterminal ↦ ?_⟩
    · exact iff_of_true rfl (.inl rfl)
    · exact absurd hterminal hopen.2

theorem respectsTerminal_iff (hleases : g.store.LeasesMatch) :
    (step config requestHash g a).store.LeasesMatch ∧
        g.store.TerminalKept (step config requestHash g a).store ↔ RespectsTerminal g a :=
  ⟨fun h ↦ respectsTerminal_of_kept h.2, kept_of_respectsTerminal hleases⟩

theorem leaseReleased_createPlayback {now : Date} {account : Account} {draws : Draws}
    {body : Except Failure Body} {s s' : Store}
    (hs' : ((createPlayback config requestHash now account draws body).execute s).2 = s')
    (k : String) : s'.leaseReleased k = s.leaseReleased k := by
  obtain hsame | ⟨track, adapterRef, hinsert, -⟩ := createPlayback_sessions hs'
  · rw [Store.leaseReleased, Store.session, hsame]
    rfl
  · exact Store.leaseReleased_insert hinsert rfl k

theorem leaseReleased_step {k : String} (h : g.store.leaseReleased k = true) :
    (step config requestHash g a).store.leaseReleased k = true := by
  have hchange := step_store config requestHash g a
  generalize (step config requestHash g a).store = s at hchange ⊢
  cases hchange with
  | same => exact h
  | playback account draws body =>
    rwa [leaseReleased_createPlayback rfl]
  | expired | closed => exact Store.leaseReleased_update_of_released rfl h
  | started | recorded => rwa [Store.leaseReleased_update_same rfl fun _ ↦ rfl]

end

section Runs

variable (config : Config) (requestHash : String → String) (clock : Date) (actions : List Action)

/-- Terminal sessions keep their state, they and no others have released their lease, and a run has
released the lease of each of them once. -/
structure TerminalSafe : Prop where
  stays : ∀ past later, past <+: later → later <+: actions →
    (run (step config requestHash) (start clock) past).store.TerminalKept
      (run (step config requestHash) (start clock) later).store
  leases : AtEachMoment (step config requestHash) (fun g ↦ g.store.LeasesMatch) (start clock) actions
  raised : ∀ past, past <+: actions → ∀ k state,
    (run (step config requestHash) (start clock) past).store.stateOf k = some state →
      countSteps (step config requestHash)
          (Raises (step config requestHash) fun g ↦ g.store.leaseReleased k) (start clock) past =
        if state.Terminal then 1 else 0

variable {config requestHash clock actions}

theorem leasesMatch_start : (start clock).store.LeasesMatch := fun _ hr ↦ nomatch hr

/-- Once released, a lease stays so; it has been raised by the steps that released it. -/
theorem countSteps_raised {past : List Action} {k : String} {state : SessionState}
    (hleases : (run (step config requestHash) (start clock) past).store.LeasesMatch)
    (hk : (run (step config requestHash) (start clock) past).store.stateOf k = some state) :
    countSteps (step config requestHash)
        (Raises (step config requestHash) fun g ↦ g.store.leaseReleased k) (start clock) past =
      if state.Terminal then 1 else 0 := by
  have hstart : (start clock).store.leaseReleased k = false := rfl
  have hup : ∀ (g : State) a, g.store.leaseReleased k = true →
      (step config requestHash g a).store.leaseReleased k = true := fun _ _ ↦ leaseReleased_step
  rw [countSteps_raises hup, hstart, Bool.not_false, Bool.true_and]
  exact if_congr (Store.leaseReleased_iff hleases hk) rfl rfl

theorem stays_of_eachStep {past later : List Action} (hpast : past <+: later)
    (h : EachStep (step config requestHash)
      (fun g a ↦ g.store.TerminalKept (step config requestHash g a).store) (start clock) later) :
    (run (step config requestHash) (start clock) past).store.TerminalKept
      (run (step config requestHash) (start clock) later).store := by
  obtain ⟨rest, rfl⟩ := hpast
  have hrest := (EachStep.append.mp h).2
  have hkept := hrest.keeps
    (P := fun g : State ↦
      (run (step config requestHash) (start clock) past).store.TerminalKept g.store)
    (fun g a hstep hpast ↦ hpast.trans hstep) (.refl _)
  rw [run_append]
  exact hkept.last

theorem terminalSafe_iff :
    TerminalSafe config requestHash clock actions ↔
      EachStep (step config requestHash) RespectsTerminal (start clock) actions := by
  have hexact : AtEachMoment (step config requestHash) (fun g ↦ g.store.LeasesMatch) (start clock) actions ∧
      EachStep (step config requestHash)
        (fun g a ↦ g.store.TerminalKept (step config requestHash g a).store) (start clock) actions ↔
      EachStep (step config requestHash) RespectsTerminal (start clock) actions :=
    holds_iff_eachStep (I := fun _ ↦ True) (fun _ _ _ ↦ trivial)
      (fun g a _ hleases ↦ respectsTerminal_iff hleases) trivial leasesMatch_start
  rw [← hexact]
  constructor
  · intro h
    refine ⟨h.leases, eachStep_iff.mpr fun past a hpast ↦ ?_⟩
    have hstays := h.stays past (past ++ [a]) (List.prefix_append past [a]) hpast
    rwa [run_append] at hstays
  · rintro ⟨hleases, hkept⟩
    refine ⟨fun past later hpast hlater ↦ ?_, hleases, fun past hpast k state hk ↦ ?_⟩
    · obtain ⟨rest, rfl⟩ := hlater
      exact stays_of_eachStep hpast (EachStep.append.mp hkept).1
    · exact countSteps_raised (hleases past hpast) hk

/-- The action runs a statement that releases the lease of the session. -/
def Releases (sessionId : String) (g : State) : Action → Prop
  | .deliverStream account id =>
    id = sessionId ∧ (g.store.session id).any
      (fun r ↦ r.ownerId = account.accountId ∧ r.expiresAt ≤ g.clock.ms) = true
  | .closeSession account id => id = sessionId ∧ 0 < (g.store.closeSession id account.accountId).2
  | _ => False

instance (sessionId : String) (g : State) : (a : Action) → Decidable (Releases sessionId g a)
  | .deliverStream _ _ => inferInstanceAs (Decidable (_ ∧ _))
  | .closeSession _ _ => inferInstanceAs (Decidable (_ ∧ _))
  | .wait _ | .createPlayback _ _ _ | .opened _ _ | .data _ _ | .record _ _ => .isFalse id

/-- No stream starts a terminal session, and no request expires one. -/
def ReleasesOpen (g : State) : Action → Prop
  | .deliverStream account sessionId =>
    ∀ r, g.store.session sessionId = some r → r.ownerId = account.accountId →
      r.expiresAt ≤ g.clock.ms → ¬r.state.Terminal
  | .opened i (.ok _) =>
    ∀ session startedAt, g.streams[i]? = some (.opening session startedAt) →
      ∀ r, g.store.session session.sessionId = some r → ¬r.state.Terminal
  | _ => True

theorem ReleasesOpen.respectsTerminal {g : State} {a : Action} (h : ReleasesOpen g a) :
    RespectsTerminal g a := by
  cases a with
  | deliverStream account sessionId =>
    exact fun r hr howner hexpired hterminal ↦ absurd hterminal (h r hr howner hexpired)
  | opened i answer =>
    cases answer with
    | error e => trivial
    | ok delivery => exact h
  | _ => trivial

section

variable {g : State} {a : Action} {k : String}

/-- A lease is raised by the statements that release it only. -/
theorem releases_of_raises
    (h : Raises (step config requestHash) (fun g ↦ g.store.leaseReleased k) g a) : Releases k g a := by
  have hbefore : g.store.leaseReleased k = false := h.1
  have hafter : (step config requestHash g a).store.leaseReleased k = true := h.2
  have hchange := step_store config requestHash g a
  generalize (step config requestHash g a).store = s at hafter hchange
  have hheld : s.leaseReleased k ≠ g.store.leaseReleased k := by
    rw [hafter, hbefore]
    decide
  cases hchange with
  | same => exact absurd rfl hheld
  | playback account draws body => exact absurd (leaseReleased_createPlayback rfl k) hheld
  | started | recorded => exact absurd (Store.leaseReleased_update_same rfl (fun _ ↦ rfl) k) hheld
  | expired account sessionId r hr howner hexpired =>
    have hk : k = sessionId := by
      by_contra hk
      rw [Store.leaseReleased_update rfl, if_neg hk] at hheld
      exact hheld rfl
    refine ⟨hk.symm, ?_⟩
    simp [hr, howner, hexpired]
  | closed account sessionId =>
    have hk : k = sessionId := by
      by_contra hk
      rw [Store.leaseReleased_update rfl, if_neg hk] at hheld
      exact hheld rfl
    subst hk
    refine ⟨rfl, Table.changes_pos.mpr ?_⟩
    rw [Store.leaseReleased_update rfl, if_pos rfl, Option.any_eq_true] at hafter
    obtain ⟨r, hr, hreleased⟩ := hafter
    refine ⟨r, hr, ?_⟩
    by_contra hclosed
    rw [if_neg hclosed] at hreleased
    rw [Store.leaseReleased_eq hr, hreleased] at hbefore
    cases hbefore

/-- A statement that finds the session open raises its lease. -/
theorem raises_of_releases (hleases : g.store.LeasesMatch) (hopen : ReleasesOpen g a)
    (h : Releases k g a) :
    Raises (step config requestHash) (fun g ↦ g.store.leaseReleased k) g a := by
  have hheld : ∀ r, g.store.session k = some r → ¬r.state.Terminal →
      g.store.leaseReleased k = false := by
    intro r hr hr'
    rw [Store.leaseReleased_eq hr, ← Bool.not_eq_true]
    exact fun hreleased ↦ hr' ((hleases r (Table.find?_eq_some.mp hr).1).mp hreleased)
  cases a with
  | deliverStream account sessionId =>
    obtain ⟨rfl, hany⟩ := h
    obtain ⟨r, hr, hcheck⟩ := (Option.any_eq_true _ _).mp hany
    obtain ⟨howner, hexpired⟩ := of_decide_eq_true hcheck
    refine ⟨hheld r hr (hopen r hr howner hexpired), ?_⟩
    dsimp only
    rw [step_expired hr howner hexpired, Store.leaseReleased_update rfl, if_pos rfl, hr]
    rfl
  | closeSession account sessionId =>
    obtain ⟨rfl, hchanges⟩ := h
    obtain ⟨r, hr, howner, hstate⟩ := Table.changes_pos.mp hchanges
    refine ⟨hheld r hr hstate, ?_⟩
    have hafter :
        (g.store.closeSession sessionId account.accountId).1.leaseReleased sessionId = true := by
      have hselected : g.store.session sessionId = some r := hr
      rw [Store.leaseReleased_update rfl, if_pos rfl, hselected, Option.any_some,
        if_pos ⟨howner, hstate⟩]
      rfl
    exact hafter
  | wait | createPlayback | opened | data | record => exact absurd h id

theorem releases_iff_raises (hleases : g.store.LeasesMatch) (hopen : ReleasesOpen g a) :
    Releases k g a ↔ Raises (step config requestHash) (fun g ↦ g.store.leaseReleased k) g a :=
  ⟨raises_of_releases hleases hopen, releases_of_raises⟩

end

/-- The lease of each terminal session has been released by one statement. -/
def ReleasedOnce (config : Config) (requestHash : String → String) (clock : Date)
    (actions : List Action) : Prop :=
  ∀ past, past <+: actions → ∀ k state,
    (run (step config requestHash) (start clock) past).store.stateOf k = some state →
      countSteps (step config requestHash) (Releases k) (start clock) past =
        if state.Terminal then 1 else 0

theorem releasesOpen_of_releasedOnce (hsafe : TerminalSafe config requestHash clock actions)
    (honce : ReleasedOnce config requestHash clock actions) :
    EachStep (step config requestHash) ReleasesOpen (start clock) actions := by
  have hrespects := eachStep_iff.mp (terminalSafe_iff.mp hsafe)
  refine eachStep_iff.mpr fun past a hpast ↦ ?_
  cases a with
  | deliverStream account sessionId =>
    intro r hr howner hexpired hterminal
    have hstate : (run (step config requestHash) (start clock) past).store.stateOf sessionId =
        some r.state := Store.stateOf_eq_some.mpr ⟨r, hr, rfl⟩
    have hinit := List.prefix_append past [Action.deliverStream account sessionId]
    have hkept := hsafe.stays past _ hinit hpast sessionId r.state hterminal hstate
    have hbefore := honce past (hinit.trans hpast) sessionId r.state hstate
    have hafter := honce _ hpast sessionId r.state hkept
    have hreleases : Releases sessionId (run (step config requestHash) (start clock) past)
        (.deliverStream account sessionId) := ⟨rfl, by simp [hr, howner, hexpired]⟩
    rw [if_pos hterminal] at hbefore hafter
    rw [countSteps_append, hbefore, countSteps, if_pos hreleases] at hafter
    omega
  | opened i answer =>
    cases answer with
    | error e => trivial
    | ok delivery => exact hrespects past _ hpast
  | _ => trivial

theorem releasedOnce_iff :
    TerminalSafe config requestHash clock actions ∧ ReleasedOnce config requestHash clock actions ↔
      EachStep (step config requestHash) ReleasesOpen (start clock) actions := by
  constructor
  · rintro ⟨hsafe, honce⟩
    exact releasesOpen_of_releasedOnce hsafe honce
  · intro hopen
    have hsafe := terminalSafe_iff.mpr (hopen.mono fun g a ↦ ReleasesOpen.respectsTerminal)
    refine ⟨hsafe, fun past hpast k state hk ↦ ?_⟩
    rw [← hsafe.raised past hpast k state hk]
    refine countSteps_congr (eachStep_iff.mpr fun earlier a hearlier ↦ ?_)
    have hinit := hearlier.trans hpast
    exact releases_iff_raises (hsafe.leases earlier ((List.prefix_append _ _).trans hinit))
      (eachStep_iff.mp hopen earlier a hinit)

end Runs

/-- A run is safe for terminal sessions if and only if its streams start no terminal session and its
requests expire no closed or revoked one. It has, besides, released each lease by a single statement
if and only if its requests expire no terminal session at all. -/
theorem terminal_sessions (config : Config) (requestHash : String → String) (clock : Date)
    (actions : List Action) :
    (TerminalSafe config requestHash clock actions ↔
      EachStep (step config requestHash) RespectsTerminal (start clock) actions) ∧
    (TerminalSafe config requestHash clock actions ∧ ReleasedOnce config requestHash clock actions ↔
      EachStep (step config requestHash) ReleasesOpen (start clock) actions) :=
  ⟨terminalSafe_iff, releasedOnce_iff⟩

namespace Sample

/-- The media adapter answers the stream of the session that has been closed. -/
def startedAfterClose : List Action := closedWhileOpening ++ [.opened 0 (.ok delivery)]

/-- The listener closes a session and asks for its stream when it has expired. -/
def streamedAfterExpiry : List Action :=
  [play firstDraws "play-key-1", .closeSession listener firstDraws.playbackSessionId, .wait 300000,
    .deliverStream listener firstDraws.playbackSessionId]

end Sample

/-- The first run leaves a started session with its lease released, the second turns a closed session
into an expired one. -/
theorem terminal_sessions_overwritten :
    ¬TerminalSafe Sample.config Sample.requestHash Sample.clock Sample.startedAfterClose ∧
      ¬TerminalSafe Sample.config Sample.requestHash Sample.clock Sample.streamedAfterExpiry := by
  constructor
  · intro h
    have hlast := h.leases.last
    revert hlast
    decide +kernel
  · intro h
    have hkept := h.stays (Sample.streamedAfterExpiry.take 3) Sample.streamedAfterExpiry
      (List.take_prefix 3 _) List.prefix_rfl Sample.firstDraws.playbackSessionId .closed (.inl rfl)
      (by decide +kernel)
    revert hkept
    decide +kernel

end CreatorFirst.Gateway
