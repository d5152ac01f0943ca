import CreatorFirst.Gateway.Effects

/-!
# Delivery accounting

Evidence is recorded by two statements of one transaction: one inserts the row of the evidence unless
its identifier is taken, the other adds the bytes to the session unless it is terminal. The two agree
for new evidence of an open session. Evidence of a terminal session is stored without being counted,
and repeated evidence of an open session is counted again.
-/

namespace CreatorFirst.Gateway

open Database Process

namespace Store

variable {s s' : Store} {k : String}

/-- The bytes of all evidence of a session. -/
def evidenceBytes (s : Store) (sessionId : String) : ℕ :=
  ((s.evidence.rows.filter fun e ↦ e.sessionId = sessionId).map (·.bytesDelivered)).sum

def Accounted (s : Store) : Prop :=
  ∀ r ∈ s.sessions.rows, r.bytesDelivered = s.evidenceBytes r.sessionId

instance (s : Store) : Decidable s.Accounted :=
  inferInstanceAs (Decidable (∀ r ∈ s.sessions.rows, _ = _))

/-- Recording evidence whose identifier is taken changes nothing. -/
def Idempotent (s : Store) : StoreCall → Prop
  | .recordEvidence value =>
    s.evidence.find? value.evidenceId ≠ none → s.recordEvidence value = s
  | _ => True

/-- New evidence belongs to a session that is open or gets no bytes, repeated evidence to one that is
terminal or already active and gets no bytes, and a new session has no bytes of earlier evidence. -/
def CountsEvidence (s : Store) : StoreCall → Prop
  | .createSession sessionId .. => s.session sessionId = none → s.evidenceBytes sessionId = 0
  | .recordEvidence value =>
    ∀ r, s.session value.sessionId = some r →
      if s.evidence.find? value.evidenceId = none then
        ¬r.state.Terminal ∨ value.bytesDelivered = 0
      else r.state.Terminal ∨ r.state = .active ∧ value.bytesDelivered = 0
  | _ => True

section Evidence

variable {value : DeliveryEvidence}

theorem evidenceBytes_of_new (h : s.evidence.find? value.evidenceId = none) (j : String) :
    (s.recordEvidence value).evidenceBytes j =
      s.evidenceBytes j + if value.sessionId = j then value.bytesDelivered else 0 := by
  have hrows := Table.rows_insertOrIgnore_of_free
    (r := { value with evidenceVersion := "delivery-evidence-v1" }) h
  rw [evidenceBytes, recordEvidence, hrows, List.filter_append, List.map_append, List.sum_append]
  congr 1
  by_cases hj : value.sessionId = j <;> simp [hj]

theorem evidence_of_repeated (h : s.evidence.find? value.evidenceId ≠ none) :
    (s.recordEvidence value).evidence = s.evidence :=
  Table.insertOrIgnore_of_taken h

theorem deliver_eq_self {r : Session} {bytes : ℕ} :
    (Session.deliver bytes).apply r = r ↔ r.state = .active ∧ bytes = 0 := by
  cases r
  simp [Session.deliver, eq_comm]

/-- Repeated evidence changes nothing exactly when its session is terminal, or active without the
evidence adding to it. -/
theorem recordEvidence_eq_self (h : s.evidence.find? value.evidenceId ≠ none) :
    s.recordEvidence value = s ↔ ∀ r, s.session value.sessionId = some r →
      r.state.Terminal ∨ r.state = .active ∧ value.bytesDelivered = 0 := by
  have hsessions : s.recordEvidence value = s ↔
      s.sessions.update value.sessionId (fun r ↦ ¬r.state.Terminal)
        (Session.deliver value.bytesDelivered) = s.sessions := by
    have hstore : s.recordEvidence value = { s with
        sessions := s.sessions.update value.sessionId (fun r ↦ ¬r.state.Terminal)
          (Session.deliver value.bytesDelivered) } :=
      congrArg (fun evidence ↦ { s with sessions := (s.recordEvidence value).sessions, evidence })
        (evidence_of_repeated h)
    rw [hstore]
    exact ⟨congrArg Store.sessions, fun h ↦ congrArg (fun sessions ↦ { s with sessions }) h⟩
  rw [hsessions, Table.update_eq_self]
  constructor
  · intro hself r hr
    obtain ⟨hmem, hid⟩ := Table.find?_eq_some.mp hr
    by_cases hterminal : r.state.Terminal
    · exact .inl hterminal
    · exact .inr (deliver_eq_self.mp (hself r hmem hid hterminal))
  · intro hcounted r hmem hid hopen
    obtain hterminal | hactive := hcounted r (Table.find?_eq_some.mpr ⟨hmem, hid⟩)
    · exact absurd hterminal hopen
    · exact deliver_eq_self.mpr hactive

end Evidence

section Step

/-- An update that leaves the bytes of the sessions alone. -/
theorem Accounted.update (h : s.Accounted) {p : Session → Prop} [DecidablePred p]
    {f : Table.Rewrite Session.sessionId} (hs' : s'.sessions = s.sessions.update k p f)
    (hevidence : s'.evidence = s.evidence)
    (hf : ∀ r, (f.apply r).bytesDelivered = r.bytesDelivered) : s'.Accounted := by
  have hbytes : ∀ j, s'.evidenceBytes j = s.evidenceBytes j := by
    intro j
    rw [evidenceBytes, hevidence]
    rfl
  intro x hx
  have hmem : x ∈ s.sessions.update k p f := hs' ▸ hx
  obtain ⟨r, hr, rfl⟩ := Table.mem_update.mp hmem
  rw [hbytes]
  split
  · rw [hf, f.key_apply]
    exact h r hr
  · exact h r hr

theorem accounted_createSession (h : s.Accounted)
    {sessionId decisionId ownerId trackId adapterRef : String} {issuedAt expiresAt : ℕ} :
    (s.call (.createSession sessionId decisionId ownerId trackId adapterRef issuedAt
        expiresAt)).Accounted ↔
      (s.session sessionId = none → s.evidenceBytes sessionId = 0) := by
  rw [call, createSession]
  generalize hr : ({ sessionId, decisionId, ownerId, trackId, adapterRef, issuedAt, expiresAt } :
    Session) = r
  have hid : r.sessionId = sessionId := by rw [← hr]
  have hbytes : r.bytesDelivered = 0 := by rw [← hr]
  cases hinsert : s.sessions.insert r with
  | none =>
    refine iff_of_true h fun hfree ↦ ?_
    rw [← hid] at hfree
    exact absurd hfree (Table.insert_eq_none.mp hinsert)
  | some sessions =>
    have hfree : s.session sessionId = none := hid ▸ (Table.insert_eq_some.mp hinsert).1
    constructor
    · intro hnext _
      have hnew := hnext r ((Table.mem_insert hinsert).mpr (.inr rfl))
      rw [hbytes, hid] at hnew
      exact hnew.symm
    · intro hzero x hx
      obtain hx | rfl := (Table.mem_insert hinsert).mp hx
      · exact h x hx
      · rw [hbytes, hid]
        exact (hzero hfree).symm

/-- New evidence keeps the account unless its session is terminal and it brings bytes. -/
theorem accounted_of_new {value : DeliveryEvidence} (h : s.Accounted)
    (hnew : s.evidence.find? value.evidenceId = none) :
    (s.recordEvidence value).Accounted ↔ ∀ r, s.session value.sessionId = some r →
      ¬r.state.Terminal ∨ value.bytesDelivered = 0 := by
  constructor
  · intro hnext r hr
    obtain ⟨hmem, hid⟩ := Table.find?_eq_some.mp hr
    refine or_iff_not_imp_left.mpr fun hopen ↦ ?_
    have hkept : r ∈ (s.recordEvidence value).sessions :=
      Table.mem_update_of_not hmem fun hk ↦ hopen hk.2
    have hafter := hnext r hkept
    have hbefore := h r hmem
    rw [evidenceBytes_of_new hnew, if_pos hid.symm, ← hbefore] at hafter
    exact Nat.left_eq_add.mp hafter
  · intro hcounted x hx
    obtain ⟨r, hr, rfl⟩ := Table.mem_update.mp hx
    have hbefore := h r hr
    rw [evidenceBytes_of_new hnew]
    by_cases hid : r.sessionId = value.sessionId
    · by_cases hterminal : r.state.Terminal
      · obtain hopen | hzero := hcounted r (Table.find?_eq_some.mpr ⟨hr, hid⟩)
        · exact absurd hterminal hopen
        · rw [if_neg fun hk ↦ hk.2 hterminal, if_pos hid.symm, hzero]
          exact hbefore
      · have hkey := (Session.deliver value.bytesDelivered).key_apply r
        rw [if_pos ⟨hid, hterminal⟩, hkey, if_pos hid.symm]
        exact congrArg (· + value.bytesDelivered) hbefore
    · rw [if_neg fun hk ↦ hid hk.1, if_neg (Ne.symm hid)]
      exact hbefore

theorem countsEvidence_iff (h : s.Accounted) (c : StoreCall) :
    (s.call c).Accounted ∧ s.Idempotent c ↔ s.CountsEvidence c := by
  cases c with
  | recordDecision value =>
    refine iff_of_true ⟨?_, trivial⟩ trivial
    rw [call, recordDecision]
    cases s.decisions.insert value <;> exact h
  | createSession sessionId decisionId ownerId trackId adapterRef issuedAt expiresAt =>
    rw [accounted_createSession h]
    exact and_iff_left trivial
  | setSessionState sessionId state =>
    exact iff_of_true ⟨h.update rfl rfl fun _ ↦ rfl, trivial⟩ trivial
  | closeSession sessionId ownerId =>
    exact iff_of_true ⟨h.update rfl rfl fun _ ↦ rfl, trivial⟩ trivial
  | expireSession sessionId => exact iff_of_true ⟨h.update rfl rfl fun _ ↦ rfl, trivial⟩ trivial
  | saveIdempotentResponse ownerId key requestHash response =>
    refine iff_of_true ⟨?_, trivial⟩ trivial
    rw [call, saveIdempotentResponse]
    cases s.idempotencyKeys.insert ⟨ownerId, key, requestHash, response⟩ <;> exact h
  | recordEvidence value =>
    by_cases hnew : s.evidence.find? value.evidenceId = none
    · simp only [CountsEvidence, if_pos hnew]
      rw [← accounted_of_new h hnew]
      exact and_iff_left fun hrepeated ↦ absurd hnew hrepeated
    · simp only [CountsEvidence, if_neg hnew]
      rw [← recordEvidence_eq_self hnew]
      constructor
      · exact fun hstep ↦ hstep.2 hnew
      · intro hself
        have hcall : s.call (.recordEvidence value) = s := hself
        exact ⟨hcall.symm ▸ h, fun _ ↦ hself⟩

end Step

end Store

/-- Over every sequence of statements, the bytes of each session are at every moment those of its
evidence and repeated evidence changes nothing, if and only if every statement counts its evidence. -/
theorem delivery_accounting (calls : List StoreCall) :
    AtEachMoment Store.call Store.Accounted .empty calls ∧
        EachStep Store.call Store.Idempotent .empty calls ↔
      EachStep Store.call Store.CountsEvidence .empty calls :=
  holds_iff_eachStep (I := fun _ ↦ True) (fun _ _ _ ↦ trivial)
    (fun _ c _ h ↦ Store.countsEvidence_iff h c) trivial fun _ hr ↦ nomatch hr

namespace Sample

def session : StoreCall :=
  .createSession firstDraws.playbackSessionId firstDraws.decisionId listener.accountId "track-mock-001"
    "local-test-tone.wav" clock.ms (clock.ms + 300000)

def evidence : DeliveryEvidence where
  evidenceId := "5d2c4b1e-6f6a-4f0e-8a53-0c1d9e7b2a44"
  sessionId := firstDraws.playbackSessionId
  decisionId := firstDraws.decisionId
  trackId := "track-mock-001"
  responseStatus := delivery.status
  rangeSummary := delivery.rangeSummary
  bytesDelivered := 100
  startedAt := clock
  completedAt := clock

/-- The listener closes the session before the evidence of the aborted stream is recorded. -/
def recordedAfterClose : List StoreCall :=
  [session, .closeSession firstDraws.playbackSessionId listener.accountId, .recordEvidence evidence]

def recordedTwice : List StoreCall := [session, .recordEvidence evidence, .recordEvidence evidence]

/-- The requests that lead to the first of these sequences. -/
def closedWhileDelivering : List Action :=
  [play firstDraws "play-key-1", .deliverStream listener firstDraws.playbackSessionId,
    .opened 0 (.ok delivery), .data 0 100, .closeSession listener firstDraws.playbackSessionId,
    .record 0 evidence.evidenceId]

end Sample

/-- The evidence of a closed session is not counted, repeated evidence of an open one is counted twice,
and the requests of a listener reach the first case. -/
theorem delivery_miscounted :
    ¬AtEachMoment Store.call Store.Accounted .empty Sample.recordedAfterClose ∧
      ¬AtEachMoment Store.call Store.Accounted .empty Sample.recordedTwice ∧
      ¬EachStep Store.call Store.Idempotent .empty Sample.recordedTwice ∧
      ¬(run (step Sample.config Sample.requestHash) (start Sample.clock)
        Sample.closedWhileDelivering).store.Accounted := by
  refine ⟨fun h ↦ ?_, fun h ↦ ?_, fun h ↦ ?_, by decide +kernel⟩
  · have hlast := h.last
    revert hlast
    decide +kernel
  · have hlast := h.last
    revert hlast
    decide +kernel
  · have hself := h.2.2.1 (by decide +kernel)
    have hbytes := congrArg (fun s : Store ↦ s.sessions.rows.map (·.bytesDelivered)) hself
    revert hbytes
    decide +kernel

/-- The tables that a run of interleaved requests reaches are those of a sequence of statements. -/
theorem run_calls (config : Config) (requestHash : String → String) (clock : Date)
    (actions : List Action) :
    ∃ calls, (run (step config requestHash) (start clock) actions).store =
      run Store.call .empty calls := by
  have hreached : AtEachMoment (step config requestHash)
      (fun g ↦ ∃ calls, g.store = run Store.call .empty calls) (start clock) actions := by
    refine atEachMoment_of_kept (fun g a hg ↦ ?_) ⟨[], rfl⟩
    obtain ⟨calls, hcalls⟩ := hg
    obtain ⟨more, hmore⟩ := step_calls config requestHash g a
    exact ⟨calls ++ more, by rw [run_append, ← hcalls, hmore]⟩
  exact hreached.last

end CreatorFirst.Gateway
