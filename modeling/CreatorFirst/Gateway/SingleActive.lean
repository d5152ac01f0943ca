import CreatorFirst.Gateway.Effects

/-!
# One active session per owner

A session is created only when its owner has no active one, and no statement other than the one that
marks a session as started makes a session active. That statement runs after the media adapter has
answered, whatever has become of the session by then. It keeps the limit unless the session has been
closed, has not expired and its owner has begun another one.
-/

namespace CreatorFirst.Gateway

open Database Process

theorem Session.not_active_release {now : ℕ} {state : SessionState} (h : state.Terminal)
    (r : Session) : ¬((Session.release state).apply r).ActiveAt now :=
  fun hactive ↦ SessionState.playable_iff.mp hactive.1 h

namespace Store

variable {s : Store} {now : ℕ}

theorem activeSessionForOwner_eq_none {ownerId : String} :
    s.activeSessionForOwner ownerId now = none ↔
      ∀ r ∈ s.sessions, r.ownerId = ownerId → ¬r.ActiveAt now := by
  simp [activeSessionForOwner, List.find?_eq_none, Table.mem_iff]

/-- Each owner has at most one active session. -/
def SingleActive (now : ℕ) (s : Store) : Prop :=
  ∀ r ∈ s.sessions.rows, ∀ r' ∈ s.sessions.rows, r.ownerId = r'.ownerId → r.ActiveAt now →
    r'.ActiveAt now → r = r'

instance (now : ℕ) (s : Store) : Decidable (s.SingleActive now) :=
  inferInstanceAs (Decidable (∀ r ∈ s.sessions.rows, ∀ r' ∈ s.sessions.rows, _ → _ → _ → _))

/-- Active sessions expire and do not come back as time passes. -/
theorem SingleActive.later (h : s.SingleActive now) {later : ℕ} (hle : now ≤ later) :
    s.SingleActive later := by
  intro r hr r' hr' howner hactive hactive'
  exact h r hr r' hr' howner ⟨hactive.1, hle.trans_lt hactive.2⟩ ⟨hactive'.1, hle.trans_lt hactive'.2⟩

/-- An update of one row keeps the limit if it makes the row active only when it was active before or
its owner has no active session. -/
theorem SingleActive.update (h : s.SingleActive now) {s' : Store} {k : String} {p : Session → Prop}
    [DecidablePred p] {f : Table.Rewrite Session.sessionId}
    (hs' : s'.sessions = s.sessions.update k p f) (howner : ∀ r, (f.apply r).ownerId = r.ownerId)
    (hactive : ∀ r ∈ s.sessions, r.sessionId = k → p r → (f.apply r).ActiveAt now →
      r.ActiveAt now ∨ s.activeSessionForOwner r.ownerId now = none) :
    s'.SingleActive now := by
  intro x hx x' hx' hxowner hxactive hxactive'
  rw [hs'] at hx hx'
  obtain ⟨r, hr, rfl⟩ := Table.mem_update.mp hx
  obtain ⟨r', hr', rfl⟩ := Table.mem_update.mp hx'
  have hsame : ∀ r, (if r.sessionId = k ∧ p r then f.apply r else r).ownerId = r.ownerId := by
    intro r
    rw [apply_ite Session.ownerId, howner, ite_self]
  have hbefore : ∀ r ∈ s.sessions, (if r.sessionId = k ∧ p r then f.apply r else r).ActiveAt now →
      r.ActiveAt now ∨ r.sessionId = k ∧ s.activeSessionForOwner r.ownerId now = none := by
    intro r hr
    split
    · next hk => exact fun hnow ↦ (hactive r hr hk.1 hk.2 hnow).imp_right fun hnone ↦ ⟨hk.1, hnone⟩
    · exact .inl
  rw [hsame, hsame] at hxowner
  have heq : r = r' := by
    obtain hwas | ⟨hk, hnone⟩ := hbefore r hr hxactive
    · obtain hwas' | ⟨hk', hnone'⟩ := hbefore r' hr' hxactive'
      · exact h r hr r' hr' hxowner hwas hwas'
      · exact absurd hwas (activeSessionForOwner_eq_none.mp hnone' r hr hxowner)
    · obtain hwas' | ⟨hk', hnone'⟩ := hbefore r' hr' hxactive'
      · exact absurd hwas' (activeSessionForOwner_eq_none.mp hnone r' hr' hxowner.symm)
      · exact Table.eq_of_key hr hr' (hk.trans hk'.symm)
  rw [heq]

theorem SingleActive.of_sessions_eq (h : s.SingleActive now) {s' : Store}
    (hs' : s'.sessions = s.sessions) : s'.SingleActive now := by
  rwa [SingleActive, hs']

theorem SingleActive.insert (h : s.SingleActive now) {s' : Store} {r : Session}
    (hs' : s.sessions.insert r = some s'.sessions)
    (hfree : s.activeSessionForOwner r.ownerId now = none) : s'.SingleActive now := by
  have hother := activeSessionForOwner_eq_none.mp hfree
  intro x hx x' hx' howner hactive hactive'
  obtain hx | rfl := (Table.mem_insert hs').mp hx
  · obtain hx' | rfl := (Table.mem_insert hs').mp hx'
    · exact h x hx x' hx' howner hactive hactive'
    · exact absurd hactive (hother x hx howner)
  · obtain hx' | rfl := (Table.mem_insert hs').mp hx'
    · exact absurd hactive' (hother x' hx' howner.symm)
    · rfl

end Store

def State.SingleActive (g : State) : Prop := g.store.SingleActive g.clock.ms

instance (g : State) : Decidable g.SingleActive := inferInstanceAs (Decidable (Store.SingleActive _ _))

/-- When the media adapter answers a stream, its session may only be closed or revoked if it has
expired since or its owner has no active session. -/
def StartsWithinLimit (g : State) : Action → Prop
  | .opened i (.ok _) =>
    ∀ session startedAt, g.streams[i]? = some (.opening session startedAt) →
      ∀ r, g.store.session session.sessionId = some r → r.state.Terminal → g.clock.ms < r.expiresAt →
        g.store.activeSessionForOwner r.ownerId g.clock.ms = none
  | _ => True

section

variable {config : Config} {requestHash : String → String} {g : State} {a : Action}

theorem clock_step (h : ∀ ms, a ≠ .wait ms) : (step config requestHash g a).clock = g.clock := by
  cases a with
  | wait ms => exact absurd rfl (h ms)
  | createPlayback | closeSession => rfl
  | deliverStream account sessionId =>
    rw [step]
    generalize (deliverStream g.clock account sessionId).execute g.store = out
    rcases out with ⟨_ | _, _⟩ <;> rfl
  | opened i answer =>
    rw [step]
    split
    · generalize (startDelivery _ answer).execute g.store = out
      rcases out with ⟨_ | _ | _, _⟩ <;> rfl
    · rfl
  | data | record =>
    rw [step]
    split <;> rfl

theorem started_within_limit {sessionId : String} {r : Session}
    (hr : g.store.session sessionId = some r) (hterminal : r.state.Terminal)
    (hunexpired : g.clock.ms < r.expiresAt)
    (h : (g.store.setSessionState sessionId .started).SingleActive g.clock.ms) :
    g.store.activeSessionForOwner r.ownerId g.clock.ms = none := by
  obtain ⟨hmem, rfl⟩ := Table.find?_eq_some.mp hr
  refine Store.activeSessionForOwner_eq_none.mpr fun r' hr' howner hactive ↦ ?_
  have hplayable := SessionState.playable_iff.mp hactive.1
  have hne : r'.sessionId ≠ r.sessionId := by
    intro hid
    rw [Table.eq_of_key hr' hmem hid] at hplayable
    exact hplayable hterminal
  have hstarted : { r with state := .started } ∈
      (g.store.setSessionState r.sessionId .started).sessions :=
    Table.mem_update_of_pos (f := Session.withState .started) hmem trivial
  have hother : r' ∈ (g.store.setSessionState r.sessionId .started).sessions :=
    Table.mem_update_of_not hr' fun hk ↦ hne hk.1
  have heq := h _ hother _ hstarted howner hactive ⟨.inr (.inl rfl), hunexpired⟩
  have hid := congrArg Session.sessionId heq
  exact hne hid

/-- One step keeps the limit exactly when it meets the condition. -/
theorem singleActive_step_iff (h : g.SingleActive) :
    (step config requestHash g a).SingleActive ↔ StartsWithinLimit g a := by
  constructor
  · intro hnext
    cases a with
    | opened i answer =>
      cases answer with
      | error e => trivial
      | ok delivery =>
        intro session startedAt hstream r hr hterminal hunexpired
        rw [State.SingleActive, step_opened hstream, clock_step (by simp)] at hnext
        exact started_within_limit hr hterminal hunexpired hnext
    | _ => trivial
  · intro hlimit
    by_cases hwait : ∃ ms, a = .wait ms
    · obtain ⟨ms, rfl⟩ := hwait
      exact Store.SingleActive.later h (Date.ms_le_advance _ _)
    · rw [State.SingleActive, clock_step fun ms hms ↦ hwait ⟨ms, hms⟩]
      have hchange := step_store config requestHash g a
      generalize (step config requestHash g a).store = s at hchange ⊢
      cases hchange with
      | same => exact h
      | playback account draws body =>
        obtain hsame | ⟨track, adapterRef, hinsert, hfree⟩ := createPlayback_sessions rfl
        · exact Store.SingleActive.of_sessions_eq h hsame
        · exact Store.SingleActive.insert h hinsert hfree
      | expired account sessionId =>
        exact Store.SingleActive.update h rfl (fun _ ↦ rfl)
          fun r _ _ _ hactive ↦ absurd hactive (Session.not_active_release (by decide) r)
      | started i session startedAt delivery hstream =>
        refine Store.SingleActive.update h rfl (fun _ ↦ rfl) fun r hr hid _ hactive ↦ ?_
        have hfound : g.store.session session.sessionId = some r := Table.find?_eq_some.mpr ⟨hr, hid⟩
        by_cases hterminal : r.state.Terminal
        · exact .inr (hlimit session startedAt hstream r hfound hterminal hactive.2)
        · exact .inl ⟨SessionState.playable_iff.mpr hterminal, hactive.2⟩
      | recorded i evidenceId value =>
        exact Store.SingleActive.update h rfl (fun _ ↦ rfl)
          fun r _ _ hopen hactive ↦ .inl ⟨SessionState.playable_iff.mpr hopen, hactive.2⟩
      | closed account sessionId =>
        exact Store.SingleActive.update h rfl (fun _ ↦ rfl)
          fun r _ _ _ hactive ↦ absurd hactive (Session.not_active_release (by decide) r)

/-- In every run of interleaved requests, each owner has at most one active session at every moment
if and only if every stream that is started is within the limit. -/
theorem single_active (config : Config) (requestHash : String → String) (clock : Date)
    (actions : List Action) :
    AtEachMoment (step config requestHash) State.SingleActive (start clock) actions ↔
      EachStep (step config requestHash) StartsWithinLimit (start clock) actions :=
  atEachMoment_iff_eachStep (fun _ _ h ↦ singleActive_step_iff h) fun _ hr ↦ nomatch hr

namespace Sample

/-- The listener plays another track before the media adapter answers. -/
def replayedWhileOpening : List Action :=
  closedWhileOpening ++ [play secondDraws "play-key-2", .opened 0 (.ok delivery)]

end Sample

/-- The answer of the media adapter makes the closed session a second active one. -/
theorem two_active_sessions :
    ¬AtEachMoment (step Sample.config Sample.requestHash) State.SingleActive (start Sample.clock)
      Sample.replayedWhileOpening := by
  intro h
  have hlast := h.last
  revert hlast
  decide +kernel

end

end CreatorFirst.Gateway
