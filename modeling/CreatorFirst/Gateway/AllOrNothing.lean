import CreatorFirst.Gateway.Effects

/-!
# Decision, session and idempotency record

An authorized request writes its decision, its session and its idempotency record one after the other.
Between these writes it looks up the media reference and formats the expiry, and either may throw. A
run in which neither happens, and no drawn session identifier is taken, keeps the three tables in
step; any other request leaves an allowed decision behind, or a session too.
-/

namespace CreatorFirst.Gateway

open Database Process

namespace Store

/-- Each allowed decision has one session with its owner and track, and each session has one such
decision and one idempotency record that names it. -/
structure AllOrNothing (s : Store) : Prop where
  session_of_decision : ∀ d ∈ s.decisions, d.allowed = true →
    ∃! r, r ∈ s.sessions ∧ r.decisionId = d.decisionId
  decision_of_session : ∀ r ∈ s.sessions,
    ∃! d, d ∈ s.decisions ∧ d.decisionId = r.decisionId ∧ d.allowed = true
  same_request : ∀ d ∈ s.decisions, ∀ r ∈ s.sessions, r.decisionId = d.decisionId →
    r.ownerId = d.ownerId ∧ r.trackId = d.trackId
  record_of_session : ∀ r ∈ s.sessions,
    ∃! k, k ∈ s.idempotencyKeys ∧ k.response.playbackSessionId = r.sessionId

/-- What a request has to leave alone if it fails. -/
structure LeavesNothing (s s' : Store) : Prop where
  decisions : ∀ d ∈ s'.decisions, d.allowed = true → d ∈ s.decisions
  sessions : s'.sessions = s.sessions
  idempotencyKeys : s'.idempotencyKeys = s.idempotencyKeys

theorem LeavesNothing.refl (s : Store) : s.LeavesNothing s := ⟨fun _ hd _ ↦ hd, rfl, rfl⟩

/-- The invariant behind `AllOrNothing`. -/
structure Linked (s : Store) : Prop where
  hasSession : ∀ d ∈ s.decisions, d.allowed = true → ∃ r ∈ s.sessions, r.decisionId = d.decisionId
  oneSession : ∀ r ∈ s.sessions, ∀ r' ∈ s.sessions, r.decisionId = r'.decisionId → r = r'
  hasDecision : ∀ r ∈ s.sessions, ∃ d ∈ s.decisions,
    d.decisionId = r.decisionId ∧ d.allowed = true ∧ r.ownerId = d.ownerId ∧ r.trackId = d.trackId
  hasRecord : ∀ r ∈ s.sessions, ∃ k ∈ s.idempotencyKeys, k.response.playbackSessionId = r.sessionId
  oneRecord : ∀ k ∈ s.idempotencyKeys, ∀ k' ∈ s.idempotencyKeys,
    k.response.playbackSessionId = k'.response.playbackSessionId → k = k'
  namesSession : ∀ k ∈ s.idempotencyKeys, ∃ r ∈ s.sessions,
    k.response.playbackSessionId = r.sessionId

variable {s s' : Store}

theorem linked_empty : Linked empty where
  hasSession _ hd := nomatch hd
  oneSession _ hr := nomatch hr
  hasDecision _ hr := nomatch hr
  hasRecord _ hr := nomatch hr
  oneRecord _ hk := nomatch hk
  namesSession _ hk := nomatch hk

theorem Linked.allOrNothing (h : s.Linked) : s.AllOrNothing where
  session_of_decision d hd hallowed := by
    obtain ⟨r, hr, hid⟩ := h.hasSession d hd hallowed
    exact ⟨r, ⟨hr, hid⟩, fun r' hr' ↦ h.oneSession r' hr'.1 r hr (hr'.2.trans hid.symm)⟩
  decision_of_session r hr := by
    obtain ⟨d, hd, hid, hallowed, -⟩ := h.hasDecision r hr
    exact ⟨d, ⟨hd, hid, hallowed⟩, fun d' hd' ↦ Table.eq_of_key hd'.1 hd (hd'.2.1.trans hid.symm)⟩
  same_request d hd r hr hid := by
    obtain ⟨d', hd', hid', -, hsame⟩ := h.hasDecision r hr
    rwa [Table.eq_of_key hd hd' (hid.symm.trans hid'.symm)]
  record_of_session r hr := by
    obtain ⟨k, hk, hname⟩ := h.hasRecord r hr
    exact ⟨k, ⟨hk, hname⟩, fun k' hk' ↦ h.oneRecord k' hk'.1 k hk (hk'.2.trans hname.symm)⟩

/-- The columns that link a session to the other tables. -/
def links (r : Session) : String × String × String × String :=
  (r.sessionId, r.decisionId, r.ownerId, r.trackId)

/-- The invariant depends on the linking columns only. -/
theorem Linked.of_links (h : s.Linked) (hdecisions : s'.decisions = s.decisions)
    (hkeys : s'.idempotencyKeys = s.idempotencyKeys)
    (hto : ∀ x ∈ s'.sessions, ∃ r ∈ s.sessions, links x = links r)
    (hfrom : ∀ r ∈ s.sessions, ∃ x ∈ s'.sessions, links x = links r) : s'.Linked where
  hasSession d hd hallowed := by
    rw [hdecisions] at hd
    obtain ⟨r, hr, hid⟩ := h.hasSession d hd hallowed
    obtain ⟨x, hx, hlinks⟩ := hfrom r hr
    exact ⟨x, hx, (congrArg (·.2.1) hlinks).trans hid⟩
  oneSession x hx x' hx' hid := by
    obtain ⟨r, hr, hlinks⟩ := hto x hx
    obtain ⟨r', hr', hlinks'⟩ := hto x' hx'
    have hrid : r.decisionId = r'.decisionId := calc
      r.decisionId = x.decisionId := (congrArg (·.2.1) hlinks).symm
      _ = x'.decisionId := hid
      _ = r'.decisionId := congrArg (·.2.1) hlinks'
    have hsame : links x = links x' := by rw [hlinks, hlinks', h.oneSession r hr r' hr' hrid]
    exact Table.eq_of_key hx hx' (congrArg (·.1) hsame)
  hasDecision x hx := by
    obtain ⟨r, hr, hlinks⟩ := hto x hx
    obtain ⟨d, hd, hid, hallowed, howner, htrack⟩ := h.hasDecision r hr
    rw [hdecisions]
    exact ⟨d, hd, hid.trans (congrArg (·.2.1) hlinks).symm, hallowed,
      (congrArg (·.2.2.1) hlinks).trans howner, (congrArg (·.2.2.2) hlinks).trans htrack⟩
  hasRecord x hx := by
    obtain ⟨r, hr, hlinks⟩ := hto x hx
    obtain ⟨k, hk, hname⟩ := h.hasRecord r hr
    rw [hkeys]
    exact ⟨k, hk, hname.trans (congrArg (·.1) hlinks).symm⟩
  oneRecord k hk k' hk' := by
    rw [hkeys] at hk hk'
    exact h.oneRecord k hk k' hk'
  namesSession k hk := by
    rw [hkeys] at hk
    obtain ⟨r, hr, hname⟩ := h.namesSession k hk
    obtain ⟨x, hx, hlinks⟩ := hfrom r hr
    exact ⟨x, hx, hname.trans (congrArg (·.1) hlinks).symm⟩

theorem Linked.update (h : s.Linked) {k : String} {p : Session → Prop} [DecidablePred p]
    {f : Table.Rewrite Session.sessionId} (hsessions : s'.sessions = s.sessions.update k p f)
    (hdecisions : s'.decisions = s.decisions) (hkeys : s'.idempotencyKeys = s.idempotencyKeys)
    (hf : ∀ r, links (f.apply r) = links r) : s'.Linked := by
  have hsame : ∀ r, links (if r.sessionId = k ∧ p r then f.apply r else r) = links r := by
    intro r
    rw [apply_ite links, hf, ite_self]
  refine h.of_links hdecisions hkeys (fun x hx ↦ ?_) fun r hr ↦ ?_
  · rw [hsessions] at hx
    obtain ⟨r, hr, rfl⟩ := Table.mem_update.mp hx
    exact ⟨r, hr, hsame r⟩
  · rw [hsessions]
    exact ⟨_, Table.mem_update.mpr ⟨r, hr, rfl⟩, hsame r⟩

/-- A decision that denies a request stands alone. -/
theorem Linked.denied (h : s.Linked) {d : Decision} (hallowed : d.allowed = false)
    {decisions : Table Decision.decisionId} (hd : s.decisions.insert d = some decisions) :
    Linked { s with decisions } where
  hasSession d' hd' hallowed' := by
    obtain hd' | rfl := (Table.mem_insert hd).mp hd'
    · exact h.hasSession d' hd' hallowed'
    · rw [hallowed] at hallowed'
      cases hallowed'
  oneSession := h.oneSession
  hasDecision r hr := by
    obtain ⟨d', hd', hrest⟩ := h.hasDecision r hr
    exact ⟨d', (Table.mem_insert hd).mpr (.inl hd'), hrest⟩
  hasRecord := h.hasRecord
  oneRecord := h.oneRecord
  namesSession := h.namesSession

/-- A decision, a session and a record that belong together. -/
theorem Linked.created (h : s.Linked) {d : Decision} {r : Session} {k : IdempotencyKey}
    {decisions : Table Decision.decisionId} {sessions : Table Session.sessionId}
    {idempotencyKeys : Table IdempotencyKey.key} (hd : s.decisions.insert d = some decisions)
    (hr : s.sessions.insert r = some sessions) (hk : s.idempotencyKeys.insert k = some idempotencyKeys)
    (hid : r.decisionId = d.decisionId) (hallowed : d.allowed = true) (howner : r.ownerId = d.ownerId)
    (htrack : r.trackId = d.trackId) (hname : k.response.playbackSessionId = r.sessionId) :
    Linked { s with decisions, sessions, idempotencyKeys } := by
  -- neither identifier occurs in a session or record written before
  have hdecision : ∀ r' ∈ s.sessions, r'.decisionId ≠ d.decisionId := by
    intro r' hr' heq
    obtain ⟨d', hd', hid', -⟩ := h.hasDecision r' hr'
    exact Table.find?_eq_none.mp (Table.insert_eq_some.mp hd).1 d' hd' (hid'.trans heq)
  have hsession : ∀ r' ∈ s.sessions, r'.sessionId ≠ r.sessionId :=
    Table.find?_eq_none.mp (Table.insert_eq_some.mp hr).1
  have hrecord : ∀ k' ∈ s.idempotencyKeys, k'.response.playbackSessionId ≠ r.sessionId := by
    intro k' hk' heq
    obtain ⟨r', hr', hname'⟩ := h.namesSession k' hk'
    exact hsession r' hr' (hname'.symm.trans heq)
  have hrnew : r ∈ sessions := (Table.mem_insert hr).mpr (.inr rfl)
  have hknew : k ∈ idempotencyKeys := (Table.mem_insert hk).mpr (.inr rfl)
  have hdnew : d ∈ decisions := (Table.mem_insert hd).mpr (.inr rfl)
  constructor
  case hasSession =>
    intro d' hd' hallowed'
    obtain hd' | rfl := (Table.mem_insert hd).mp hd'
    · obtain ⟨r', hr', hid'⟩ := h.hasSession d' hd' hallowed'
      exact ⟨r', (Table.mem_insert hr).mpr (.inl hr'), hid'⟩
    · exact ⟨r, hrnew, hid⟩
  case oneSession =>
    intro x hx x' hx' hxid
    obtain hx | rfl := (Table.mem_insert hr).mp hx
    · obtain hx' | rfl := (Table.mem_insert hr).mp hx'
      · exact h.oneSession x hx x' hx' hxid
      · exact absurd (hxid.trans hid) (hdecision x hx)
    · obtain hx' | rfl := (Table.mem_insert hr).mp hx'
      · exact absurd (hxid.symm.trans hid) (hdecision x' hx')
      · rfl
  case hasDecision =>
    intro x hx
    obtain hx | rfl := (Table.mem_insert hr).mp hx
    · obtain ⟨d', hd', hrest⟩ := h.hasDecision x hx
      exact ⟨d', (Table.mem_insert hd).mpr (.inl hd'), hrest⟩
    · exact ⟨d, hdnew, hid.symm, hallowed, howner, htrack⟩
  case hasRecord =>
    intro x hx
    obtain hx | rfl := (Table.mem_insert hr).mp hx
    · obtain ⟨k', hk', hname'⟩ := h.hasRecord x hx
      exact ⟨k', (Table.mem_insert hk).mpr (.inl hk'), hname'⟩
    · exact ⟨k, hknew, hname⟩
  case oneRecord =>
    intro x hx x' hx' hxname
    obtain hx | rfl := (Table.mem_insert hk).mp hx
    · obtain hx' | rfl := (Table.mem_insert hk).mp hx'
      · exact h.oneRecord x hx x' hx' hxname
      · exact absurd (hxname.trans hname) (hrecord x hx)
    · obtain hx' | rfl := (Table.mem_insert hk).mp hx'
      · exact absurd (hxname.symm.trans hname) (hrecord x' hx')
      · rfl
  case namesSession =>
    intro x hx
    obtain hx | rfl := (Table.mem_insert hk).mp hx
    · obtain ⟨r', hr', hname'⟩ := h.namesSession x hx
      exact ⟨r', (Table.mem_insert hr).mpr (.inl hr'), hname'⟩
    · exact ⟨r, hrnew, hname⟩

end Store

section

variable (config : Config) (requestHash : String → String)

/-- A `createPlayback` that fails leaves no allowed decision, session or record behind. -/
def FailsCleanly (g : State) : Action → Prop
  | .createPlayback account draws body =>
    ∀ e, ((createPlayback config requestHash g.clock account draws body).execute g.store).1 = .error e →
      g.store.LeavesNothing
        ((createPlayback config requestHash g.clock account draws body).execute g.store).2
  | _ => True

/-- When a request is authorized and its decision identifier is new, the track has a media reference,
the drawn session identifier is new and the expiry is a time that can be formatted. -/
def CompletesPlayback (g : State) : Action → Prop
  | .createPlayback account draws body =>
    ∀ request track, Authorizes config g.clock account body g.store request track →
      g.store.decisions.find? draws.decisionId = none →
        (∃ adapterRef, adapterReference config track = .ok adapterRef) ∧
          g.store.session draws.playbackSessionId = none ∧
          g.clock.ms + config.playbackTtlMs ≤ maxTime
  | _ => True

variable {config requestHash} {g : State} {a : Action}

section Request

variable {account : Account} {draws : Draws} {body : Except Failure Body}

/-- An allowed decision that is written shows that the request does not fail cleanly. -/
theorem not_leavesNothing {s s' : Store} {d : Decision} {decisions : Table Decision.decisionId}
    (hd : s.decisions.insert d = some decisions) (hallowed : d.allowed = true)
    (hs' : s'.decisions = decisions) : ¬s.LeavesNothing s' := by
  intro hclean
  have hnew : d ∈ s'.decisions := hs' ▸ (Table.mem_insert hd).mpr (.inr rfl)
  have hfree := Table.find?_eq_none.mp (Table.insert_eq_some.mp hd).1
  exact hfree d (hclean.decisions d hnew hallowed) rfl

theorem completes_of_failsCleanly
    (h : FailsCleanly config requestHash g (.createPlayback account draws body)) :
    CompletesPlayback config g (.createPlayback account draws body) := by
  intro request track hauthorizes hfree
  have heffect := authorizePlayback_effect config g.clock account track draws request.idempotencyKey
    (requestHash request.trackId) g.store
  rw [← createPlayback_of_authorizes hauthorizes] at heffect
  rw [FailsCleanly] at h
  generalize (createPlayback config requestHash g.clock account draws body).execute g.store = out
    at h heffect
  cases heffect with
  | nothing hd => exact absurd hfree (Table.insert_eq_none.mp hd)
  | decision e decisions hd => exact absurd (h e rfl) (not_leavesNothing hd rfl rfl)
  | session e decisions sessions adapterRef hd => exact absurd (h e rfl) (not_leavesNothing hd rfl rfl)
  | created decisions sessions idempotencyKeys adapterRef expiresAt hd hadapter hsession hexpires =>
    refine ⟨⟨adapterRef, hadapter⟩, (Table.insert_eq_some.mp hsession).1, not_lt.mp fun hlate ↦ ?_⟩
    rw [Date.toISOString?_eq_none.mpr hlate] at hexpires
    cases hexpires

variable (requestHash) in
/-- Every way the request can end when it meets the condition. -/
theorem effect_of_completes (h : CompletesPlayback config g (.createPlayback account draws body)) :
    (∃ response s', (createPlayback config requestHash g.clock account draws body).execute g.store =
        (.ok response, s') ∧ (g.store.Linked → s'.Linked)) ∨
      Refusal g.store ((createPlayback config requestHash g.clock account draws body).execute g.store) := by
  have heffect := createPlayback_effect config requestHash g.clock account draws body g.store
  generalize (createPlayback config requestHash g.clock account draws body).execute g.store = out
    at heffect ⊢
  obtain ⟨request, track, hauthorizes, heffect⟩ | hrefusal := heffect
  · have hcondition := h request track hauthorizes
    cases heffect with
    | nothing => exact .inr (.failed _)
    | decision e decisions hd hfailed =>
      obtain ⟨⟨adapterRef, hadapter⟩, hfree, -⟩ := hcondition (Table.insert_eq_some.mp hd).1
      obtain herror | ⟨adapterRef', -, htaken⟩ := hfailed
      · rw [hadapter] at herror
        cases herror
      · exact absurd hfree (Table.insert_eq_none.mp htaken)
    | session e decisions sessions adapterRef hd hadapter hsession hfailed =>
      obtain ⟨-, -, htime⟩ := hcondition (Table.insert_eq_some.mp hd).1
      obtain hlate | htaken := hfailed
      · exact absurd htime (not_le.mpr hlate)
      · exact absurd hauthorizes.prior_eq htaken
    | created decisions sessions idempotencyKeys adapterRef expiresAt hd _ hsession _ hkey =>
      exact .inl ⟨_, _, rfl, fun hlinked ↦ hlinked.created hd hsession hkey rfl rfl rfl rfl rfl⟩
  · exact .inr hrefusal

theorem Refusal.leavesNothing {s : Store} {out : Except Failure Response × Store}
    (h : Refusal s out) : s.LeavesNothing out.2 := by
  cases h with
  | failed | repeated => exact .refl s
  | denied e d decisions hallowed hinsert =>
    refine ⟨fun d' hd' hallowed' ↦ ?_, rfl, rfl⟩
    obtain hd' | rfl := (Table.mem_insert hinsert).mp hd'
    · exact hd'
    · rw [hallowed] at hallowed'
      cases hallowed'

theorem Refusal.linked {s : Store} {out : Except Failure Response × Store} (h : Refusal s out)
    (hlinked : s.Linked) : out.2.Linked := by
  cases h with
  | failed | repeated => exact hlinked
  | denied e d decisions hallowed hinsert => exact hlinked.denied hallowed hinsert

end Request

theorem failsCleanly_iff :
    FailsCleanly config requestHash g a ↔ CompletesPlayback config g a := by
  cases a with
  | createPlayback account draws body =>
    refine ⟨completes_of_failsCleanly, fun h e he ↦ ?_⟩
    obtain ⟨response, s', hout, -⟩ | hrefusal := effect_of_completes requestHash h
    · rw [hout] at he
      cases he
    · exact hrefusal.leavesNothing
  | _ => exact Iff.rfl

theorem linked_step (h : CompletesPlayback config g a) (hlinked : g.store.Linked) :
    (step config requestHash g a).store.Linked := by
  have hchange := step_store config requestHash g a
  generalize (step config requestHash g a).store = s at hchange ⊢
  cases hchange with
  | same => exact hlinked
  | playback account draws body =>
    obtain ⟨response, s', hout, hnext⟩ | hrefusal := effect_of_completes requestHash h
    · rw [hout]
      exact hnext hlinked
    · exact hrefusal.linked hlinked
  | expired | started | recorded | closed => exact hlinked.update rfl rfl rfl fun _ ↦ rfl

/-- In every run, the three tables are in step at every moment and no request that fails leaves
anything behind, if and only if every request that is authorized can be completed. -/
theorem all_or_nothing (config : Config) (requestHash : String → String) (clock : Date)
    (actions : List Action) :
    AtEachMoment (step config requestHash) (fun g ↦ g.store.AllOrNothing) (start clock) actions ∧
        EachStep (step config requestHash) (FailsCleanly config requestHash) (start clock) actions ↔
      EachStep (step config requestHash) (CompletesPlayback config) (start clock) actions := by
  constructor
  · rintro ⟨-, hclean⟩
    exact hclean.mono fun g a ↦ failsCleanly_iff.mp
  · intro hcompletes
    have hlinked : AtEachMoment (step config requestHash) (fun g ↦ g.store.Linked) (start clock) actions :=
      hcompletes.keeps (fun g a hstep hg ↦ linked_step hstep hg) Store.linked_empty
    exact ⟨fun past hpast ↦ (hlinked past hpast).allOrNothing,
      hcompletes.mono fun g a ↦ failsCleanly_iff.mpr⟩

end

namespace Sample

/-- The Navidrome adapter without a media reference for the track. -/
def unmapped : Config := { config with adapter := .navidrome }

def request : List Action := [play firstDraws "play-key-1"]

end Sample

/-- Without a media reference the decision stays behind without a session, and with an expiry out of
range the session stays behind without a record. -/
theorem playback_left_behind :
    ¬AtEachMoment (step Sample.unmapped Sample.requestHash) (fun g ↦ g.store.AllOrNothing)
        (start Sample.clock) Sample.request ∧
      ¬AtEachMoment (step Sample.endless Sample.requestHash) (fun g ↦ g.store.AllOrNothing)
        (start Sample.clock) Sample.request := by
  constructor
  · intro h
    have hdecision : ∃ d ∈ (run (step Sample.unmapped Sample.requestHash) (start Sample.clock)
        Sample.request).store.decisions.rows, d.allowed = true := by decide +kernel
    have hsessions : (run (step Sample.unmapped Sample.requestHash) (start Sample.clock)
        Sample.request).store.sessions.rows = [] := by decide +kernel
    obtain ⟨d, hd, hallowed⟩ := hdecision
    obtain ⟨r, ⟨hr, -⟩, -⟩ := h.last.session_of_decision d hd hallowed
    rw [Table.mem_iff, hsessions] at hr
    cases hr
  · intro h
    have hsession : ∃ r, r ∈ (run (step Sample.endless Sample.requestHash) (start Sample.clock)
        Sample.request).store.sessions.rows := List.exists_mem_of_ne_nil _ (by decide +kernel)
    have hrecords : (run (step Sample.endless Sample.requestHash) (start Sample.clock)
        Sample.request).store.idempotencyKeys.rows = [] := by decide +kernel
    obtain ⟨r, hr⟩ := hsession
    obtain ⟨k, ⟨hk, -⟩, -⟩ := h.last.record_of_session r hr
    rw [Table.mem_iff, hrecords] at hk
    cases hk

end CreatorFirst.Gateway
