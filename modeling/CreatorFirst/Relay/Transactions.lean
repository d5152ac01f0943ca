import CreatorFirst.Governor.SignedBallot
import CreatorFirst.Relay.Idempotency
import CreatorFirst.Relay.Signatures

/-!
# The transactions that a relayer sends

Whatever calls, replies and failures come in whatever order, an operation makes each of its chain calls
once, and sends its transaction on the reply to its reading of the chain. A ballot that is sent in this
way counts on the chain as the member's own vote, unless it has meanwhile become too late for it or its
nonce has been used.
-/

namespace CreatorFirst.Relay

open Chain Process Relation Script

section

variable {Call α Reply Result : Type} {lib : Library} {R : Relayer Call α Reply Result}
  {s s' : State α Result} {a : Event Call Reply} {events past : List (Event Call Reply)}
  {promise : ℕ}

/-! ## One step -/

/-- What the operations are about and how far they have come. -/
def State.trail (s : State α Result) : List (Request α × Progress Result) :=
  s.started.map fun op ↦ (op.request, op.progress)

/-- What one step does to the operations and the chain calls. -/
inductive Move (R : Relayer Call α Reply Result) (s : State α Result) :
    Event Call Reply → State α Result → Prop
  | rest (a : Event Call Reply) {s' : State α Result} (htrail : s'.trail = s.trail)
      (hcalls : s'.chainCalls = s.chainCalls) : Move R s a s'
  | begin (c : Call) (r : Request α) {s' : State α Result} (hr : R.request c = .ok r)
      (htrail : s'.trail = s.trail ++ [(r, R.start r.value)])
      (hcalls : s'.chainCalls =
        s.chainCalls ++ (R.start r.value).chainCalls.map (s.trail.length, ·)) : Move R s (.call c) s'
  | resume (promise : ℕ) (reply : Reply) (r : Request α) (phase : Phase) (progress : Progress Result)
      {s' : State α Result} (hop : s.trail[promise]? = some (r, .awaits phase))
      (hresume : R.resume r.value phase reply = some progress)
      (htrail : s'.trail = s.trail.set promise (r, progress))
      (hcalls : s'.chainCalls = s.chainCalls ++ progress.chainCalls.map (promise, ·)) :
      Move R s (.reply promise reply) s'

theorem trail_advance {r : Request α} {progress progress' : Progress Result}
    (hop : s.trail[promise]? = some (r, progress)) :
    (s.advance promise progress').trail = s.trail.set promise (r, progress') := by
  apply List.ext_getElem?
  intro i
  simp only [State.trail, State.advance, List.getElem?_map, List.getElem?_modify, List.getElem?_set] at hop ⊢
  by_cases hi : promise = i
  · subst hi
    obtain ⟨op, hstarted, heq⟩ := Option.map_eq_some_iff.mp hop
    obtain ⟨hlt, hget⟩ := List.getElem?_eq_some_iff.mp hstarted
    simp [hlt, hget, ← (Prod.mk.inj heq).1]
  · cases s.started[i]? <;> simp [hi]

theorem trail_discard (operationKey : String) : (s.discard promise operationKey).trail = s.trail := by
  apply List.ext_getElem?
  intro i
  simp only [State.trail, State.discard, List.getElem?_map, List.getElem?_modify]
  by_cases hi : promise = i <;> cases s.started[i]? <;> simp [hi]

theorem step_move (a : Event Call Reply) : Move R s a (step lib R s a) := by
  cases a with
  | call c =>
    have heffect : Effect lib R s (.call c) (step lib R s (.call c)) := step_effect _
    generalize step lib R s (.call c) = s' at heffect
    cases heffect with
    | unchanged => exact .rest _ rfl rfl
    | begin _ r hr hfree =>
      exact .begin c r hr (by simp [State.trail, State.begin]) (by simp [State.trail, State.begin])
  | reply promise reply =>
    simp only [step]
    split
    · next r phase handled hop =>
      have htrail : s.trail[promise]? = some (r, .awaits phase) := by simp [State.trail, hop]
      split
      · next progress hresume =>
        exact .resume promise reply r phase progress htrail hresume (trail_advance htrail) rfl
      · exact .rest _ rfl rfl
    · exact .rest _ rfl rfl
  | failure promise =>
    have heffect : Effect lib R s (.failure promise) (step lib R s (.failure promise)) := step_effect _
    generalize step lib R s (.failure promise) = s' at heffect
    cases heffect with
    | unchanged => exact .rest _ rfl rfl
    | discard _ op hop hfailed => exact .rest _ (trail_discard _) rfl

/-! ## Operations -/

/-- Each operation was started by a call that has passed the checks, and `Q` holds of how far it has
come. -/
def Backed (Q : α → Progress Result → Prop) (R : Relayer Call α Reply Result)
    (past : List (Event Call Reply)) (s : State α Result) : Prop :=
  ∀ x ∈ s.trail, (∃ c, .call c ∈ past ∧ R.request c = .ok x.1) ∧ Q x.1.value x.2

/-- `Q` holds of what an operation starts with, and every reply keeps it. -/
structure Kept (Q : α → Progress Result → Prop) (R : Relayer Call α Reply Result) : Prop where
  start : ∀ value, Q value (R.start value)
  resume : ∀ value phase reply progress, Q value (.awaits phase) →
    R.resume value phase reply = some progress → Q value progress

theorem Backed.move {Q : α → Progress Result → Prop} (hQ : Kept Q R) (h : Backed Q R past s)
    (hmove : Move R s a s') : Backed Q R (past ++ [a]) s' := by
  have hkept : ∀ x ∈ s.trail, (∃ c, .call c ∈ past ++ [a] ∧ R.request c = .ok x.1) ∧ Q x.1.value x.2 := by
    intro x hx
    obtain ⟨⟨c, hc, hr⟩, hprogress⟩ := h x hx
    exact ⟨⟨c, List.mem_append_left _ hc, hr⟩, hprogress⟩
  intro x hx
  cases hmove with
  | rest _ htrail => exact hkept x (htrail ▸ hx)
  | begin c r hr htrail =>
    rw [htrail, List.mem_append, List.mem_singleton] at hx
    obtain hx | rfl := hx
    · exact hkept x hx
    · exact ⟨⟨c, by simp, hr⟩, hQ.start r.value⟩
  | resume promise reply r phase progress hop hresume htrail =>
    rw [htrail] at hx
    obtain hx | rfl := List.mem_or_eq_of_mem_set hx
    · exact hkept x hx
    · obtain ⟨hcall, hphase⟩ := hkept _ (List.mem_of_getElem? hop)
      exact ⟨hcall, hQ.resume _ _ _ _ hphase hresume⟩

theorem backed_run {Q : α → Progress Result → Prop} (hQ : Kept Q R) (events : List (Event Call Reply)) :
    Backed Q R events (run (step lib R) initialState events) := by
  induction events using List.reverseRecOn with
  | nil => exact fun x hx ↦ absurd hx (by simp [initialState, State.trail])
  | append_singleton events a ih =>
    rw [run_append]
    exact ih.move hQ (step_move a)

/-! ## Chain calls -/

/-- How far an operation has come. -/
def Progress.rank : Progress Result → ℕ
  | .awaits .recovering => 0
  | .awaits .reading => 1
  | .awaits .sending => 2
  | .settled _ => 3

/-- How far an operation has come when it makes the call. -/
def ChainCall.rank : ChainCall → ℕ
  | .status => 1
  | .relay => 2

/-- Operations only go forward. -/
def Forward (R : Relayer Call α Reply Result) : Prop :=
  ∀ value phase reply progress, R.resume value phase reply = some progress →
    (Progress.awaits phase : Progress Result).rank < progress.rank

theorem rank_of_mem_chainCalls {progress : Progress Result} {call : ChainCall}
    (h : call ∈ progress.chainCalls) : call.rank = progress.rank := by
  cases progress with
  | awaits phase => cases phase <;> simp_all [Progress.chainCalls, ChainCall.rank, Progress.rank]
  | settled outcome => simp [Progress.chainCalls] at h

theorem nodup_chainCalls (progress : Progress Result) : progress.chainCalls.Nodup := by
  cases progress with
  | awaits phase => cases phase <;> simp [Progress.chainCalls]
  | settled outcome => simp [Progress.chainCalls]

/-- Each chain call was made by an operation that has come so far, and only once. -/
structure CallsOnce (s : State α Result) : Prop where
  made : ∀ promise call, (promise, call) ∈ s.chainCalls →
    ∃ x, s.trail[promise]? = some x ∧ call.rank ≤ x.2.rank
  nodup : s.chainCalls.Nodup

/-- The calls that an operation adds are none of those that it has made. -/
theorem CallsOnce.append (h : CallsOnce s) {progress : Progress Result}
    (hnew : ∀ x, s.trail[promise]? = some x → x.2.rank < progress.rank) :
    (s.chainCalls ++ progress.chainCalls.map (promise, ·)).Nodup := by
  refine List.nodup_append.mpr ⟨h.nodup, (nodup_chainCalls progress).map (Prod.mk_right_injective promise), ?_⟩
  rintro y hy z hz rfl
  obtain ⟨call, hcall, rfl⟩ := List.mem_map.mp hz
  obtain ⟨x, hx, hrank⟩ := h.made promise call hy
  have hlt := hnew x hx
  rw [← rank_of_mem_chainCalls hcall] at hlt
  omega

theorem CallsOnce.move (hforward : Forward R) (h : CallsOnce s) (hmove : Move R s a s') :
    CallsOnce s' := by
  cases hmove with
  | rest _ htrail hcalls => exact ⟨by rw [htrail, hcalls]; exact h.made, by rw [hcalls]; exact h.nodup⟩
  | begin c r hr htrail hcalls =>
    constructor
    · intro promise call hcall
      rw [hcalls, List.mem_append, List.mem_map] at hcall
      rw [htrail]
      obtain hmade | ⟨_, hnew, heq⟩ := hcall
      · obtain ⟨x, hx, hrank⟩ := h.made promise call hmade
        obtain ⟨hlt, -⟩ := List.getElem?_eq_some_iff.mp hx
        exact ⟨x, by rw [List.getElem?_append_left hlt, hx], hrank⟩
      · obtain ⟨rfl, rfl⟩ := Prod.mk.inj heq
        exact ⟨_, List.getElem?_concat_length, (rank_of_mem_chainCalls hnew).le⟩
    · rw [hcalls]
      apply h.append
      intro x hx
      simp at hx
  | resume p reply r phase progress hop hresume htrail hcalls =>
    have hrank := hforward _ _ _ _ hresume
    obtain ⟨hp, -⟩ := List.getElem?_eq_some_iff.mp hop
    constructor
    · intro promise call hcall
      rw [hcalls, List.mem_append, List.mem_map] at hcall
      rw [htrail, List.getElem?_set]
      obtain hmade | ⟨_, hnew, heq⟩ := hcall
      · obtain ⟨x, hx, hle⟩ := h.made promise call hmade
        by_cases hpromise : p = promise
        · subst hpromise
          obtain rfl := Option.some.inj (hop.symm.trans hx)
          exact ⟨(r, progress), by simp [hp], hle.trans hrank.le⟩
        · exact ⟨x, by simp [hpromise, hx], hle⟩
      · obtain ⟨rfl, rfl⟩ := Prod.mk.inj heq
        exact ⟨(r, progress), by simp [hp], (rank_of_mem_chainCalls hnew).le⟩
    · rw [hcalls]
      apply h.append
      intro x hx
      obtain rfl := Option.some.inj (hop.symm.trans hx)
      exact hrank

theorem callsOnce_run (hforward : Forward R) (events : List (Event Call Reply)) :
    CallsOnce (run (step lib R) initialState events) :=
  AtEachMoment.last (atEachMoment_of_kept (fun _ a hs ↦ hs.move hforward (step_move a))
    ⟨fun _ _ h ↦ absurd h (by simp [initialState]), by simp [initialState]⟩)

/-- The step has the transaction of the operation sent. -/
def Sends (lib : Library) (R : Relayer Call α Reply Result) (s : State α Result) (a : Event Call Reply)
    (promise : ℕ) : Prop :=
  (promise, .relay) ∉ s.chainCalls ∧ (promise, .relay) ∈ (step lib R s a).chainCalls

/-- An operation that does not start with its transaction sends it on a reply. -/
theorem Sends.resume (h : Sends lib R s a promise) (hstart : ∀ value, R.start value ≠ .awaits .sending) :
    ∃ reply r phase, a = .reply promise reply ∧ s.trail[promise]? = some (r, .awaits phase) ∧
      R.resume r.value phase reply = some (.awaits .sending) := by
  have sending {progress : Progress Result} (hcall : .relay ∈ progress.chainCalls) :
      progress = .awaits .sending := by
    cases progress with
    | awaits phase => cases phase <;> simp_all [Progress.chainCalls]
    | settled outcome => simp [Progress.chainCalls] at hcall
  obtain ⟨hnot, hsent⟩ := h
  have hmove : Move R s a (step lib R s a) := step_move a
  generalize step lib R s a = s' at hmove hsent
  cases hmove with
  | rest _ htrail hcalls => exact absurd (hcalls ▸ hsent) hnot
  | begin c r hr htrail hcalls =>
    rw [hcalls, List.mem_append, List.mem_map] at hsent
    obtain hmade | ⟨_, hcall, heq⟩ := hsent
    · exact absurd hmade hnot
    · obtain ⟨-, rfl⟩ := Prod.mk.inj heq
      exact absurd (sending hcall) (hstart r.value)
  | resume p reply r phase progress hop hresume htrail hcalls =>
    rw [hcalls, List.mem_append, List.mem_map] at hsent
    obtain hmade | ⟨_, hcall, heq⟩ := hsent
    · exact absurd hmade hnot
    · obtain ⟨rfl, rfl⟩ := Prod.mk.inj heq
      exact ⟨reply, r, phase, rfl, hop, sending hcall ▸ hresume⟩

theorem sends_of_resume {reply : Reply} {r : Request α} {phase : Phase} {handled : Bool}
    (hop : s.started[promise]? = some ⟨r, .awaits phase, handled⟩)
    (hcalls : (promise, .relay) ∉ s.chainCalls)
    (hresume : R.resume r.value phase reply = some (.awaits .sending)) :
    Sends lib R s (.reply promise reply) promise := by
  have hstep : step lib R s (.reply promise reply) = s.advance promise (.awaits .sending) := by
    simp only [step, hop, hresume]
  refine ⟨hcalls, ?_⟩
  rw [hstep]
  exact List.mem_append_right _ List.mem_cons_self

theorem step_first_call {c : Call} {r : Request α} (hr : R.request c = .ok r) :
    step lib R initialState (.call c) = initialState.begin lib r (R.start r.value) := by
  rw [step, relay_of_free hr rfl]

end

/-! ## Ballots -/

section

variable {P : Primitives} {checksum : Address → String} {lib : Library} {config : GovernanceConfig}

/-- An operation on a ballot goes on with a status, and anything else settles it. -/
theorem governanceResume_cases {value : Ballot} {phase : Phase} {reply : GovernanceReply}
    {progress : Progress VoteConfirmed} (h : governanceResume value phase reply = some progress) :
    (phase = .reading ∧ ∃ before, reply = .status (.ok before) ∧
      progress = governanceStatus value before) ∨ ∃ outcome, progress = .settled outcome := by
  unfold governanceResume at h
  split at h
  · exact .inl ⟨rfl, _, rfl, (Option.some.inj h).symm⟩
  · exact .inr ⟨_, (Option.some.inj h).symm⟩
  · exact .inr ⟨_, (Option.some.inj h).symm⟩
  · exact .inr ⟨_, (Option.some.inj h).symm⟩
  · cases h

theorem governance_forward : Forward (governanceRelayer lib config) := by
  intro value phase reply progress hresume
  obtain ⟨rfl, before, -, rfl⟩ | ⟨outcome, rfl⟩ := governanceResume_cases hresume
  · unfold governanceStatus
    split
    · simp [Progress.rank]
    · split <;> simp [Progress.rank]
  · cases phase <;> simp [Progress.rank]

/-- What a ballot has passed when it reaches the map. -/
structure BallotChecked (lib : Library) (config : GovernanceConfig) (c : GovernanceCall)
    (value : Ballot) : Prop where
  member : ∃ text, lib.getAddress text = some value.member
  house : value.house = 1 ∨ value.house = 2
  intensity : -9 ≤ value.intensity ∧ value.intensity ≤ 9
  deadline : c.now ≤ value.deadline ∧ value.deadline ≤ c.now + MAX_INTENT_LIFETIME_SECONDS
  signed : ballotSigned lib config value = .ok ()

theorem ballotChecked_of_ok {c : GovernanceCall} {r : Request Ballot}
    (h : governanceRequest lib config c = .ok r) : BallotChecked lib config c r.value := by
  unfold governanceRequest at h
  obtain ⟨-, h⟩ := requireValue_bind_eq_ok.mp h
  obtain ⟨member, hmember, h⟩ := bind_eq_ok.mp h
  obtain ⟨proposalId, -, h⟩ := bind_eq_ok.mp h
  obtain ⟨sessionId, -, h⟩ := bind_eq_ok.mp h
  obtain ⟨nonce, -, h⟩ := bind_eq_ok.mp h
  obtain ⟨deadline, -, h⟩ := bind_eq_ok.mp h
  obtain ⟨house, hhouse, h⟩ := bind_eq_ok.mp h
  obtain ⟨intensity, hintensity, h⟩ := bind_eq_ok.mp h
  obtain ⟨hdeadline, h⟩ := requireValue_bind_eq_ok.mp h
  obtain ⟨signature, -, h⟩ := bind_eq_ok.mp h
  obtain ⟨key, -, h⟩ := bind_eq_ok.mp h
  obtain ⟨⟨⟩, hsigned, h⟩ := bind_eq_ok.mp h
  obtain rfl := Except.ok.inj h
  rw [Bool.and_eq_true, decide_eq_true_iff, decide_eq_true_iff] at hdeadline
  rw [requireSome_eq_ok] at hmember hhouse hintensity
  refine ⟨⟨_, hmember⟩, ?_, ?_, hdeadline, hsigned⟩
  · unfold ballotHouse at hhouse
    split at hhouse
    · exact .inl (Option.some.inj hhouse).symm
    · split at hhouse
      · exact .inr (Option.some.inj hhouse).symm
      · cases hhouse
  · unfold ballotIntensity at hintensity
    split at hintensity
    · split at hintensity
      · next q _ hq =>
        obtain rfl := Option.some.inj hintensity
        exact hq.2
      · cases hintensity
    · cases hintensity

theorem BallotChecked.exists_spells (hclient : Client P checksum lib) {c : GovernanceCall} {value : Ballot}
    (h : BallotChecked lib config c value) : ∃ v : Governor.CfpBallot, value.Spells checksum v := by
  obtain ⟨text, htext⟩ := h.member
  obtain ⟨member, hmember⟩ := hclient.getAddress_text _ _ htext
  exact Relay.exists_spells hclient h.house h.intensity hmember h.signed

/-- The relayer reads the status of a ballot from the governor. -/
structure GovernanceStatus.ReadFrom (before : GovernanceStatus) (v : Governor.CfpBallot)
    (s : Governor.State) : Prop where
  nonce : before.nonce = s.votingNonces v.member
  house : before.house = (s.memberHouse v.sessionId v.member).toUint8

theorem governanceStatus_eq_sending {value : Ballot} {before : GovernanceStatus} :
    governanceStatus value before = .awaits .sending ↔
      before.house = value.house ∧ before.nonce = value.nonce := by
  unfold governanceStatus
  split
  · next h => simp [h]
  · next h =>
    split
    · next hnonce => simp [hnonce]
    · next hnonce => simp_all

/-- A ballot is sent on a status that names its house and its nonce. -/
theorem Sends.ballot {s : State Ballot VoteConfirmed} {a : Event GovernanceCall GovernanceReply}
    {promise : ℕ} (h : Sends lib (governanceRelayer lib config) s a promise) :
    ∃ before r, a = .reply promise (.status (.ok before)) ∧
      s.trail[promise]? = some (r, .awaits .reading) ∧
      before.house = r.value.house ∧ before.nonce = r.value.nonce := by
  obtain ⟨reply, r, phase, rfl, hop, hresume⟩ := h.resume fun _ h ↦ nomatch h
  obtain ⟨rfl, before, rfl, hstatus⟩ | ⟨outcome, hsettled⟩ := governanceResume_cases hresume
  · exact ⟨before, r, rfl, hop, governanceStatus_eq_sending.mp hstatus.symm⟩
  · cases hsettled

/-- The governor counts the ballot exactly if it counts the member's own vote there, as long as the
deadline has not passed and the nonce has not been used, if the session is that of the proposal, and if it
recovers a signer from the signature at all: a client may read forms of signatures that it refuses. -/
def CountsAsOwnVote (P : Primitives) (d : Governor.Deployment) (v : Governor.CfpBallot)
    (signature : Bytes) (w : Governor.GovernorWorld) : Prop :=
  ∀ relayer s', w.state.roles (Governor.RELAYER_ROLE P) relayer = true →
    (Governor.castCfpApprovalVoteBySig P d w.block relayer v signature w.state = .ok s' ↔
      w.block.timestamp ≤ (v.deadline : ℕ) ∧ w.state.votingNonces v.member = v.nonce ∧
      (w.state.proposals v.proposalId).sessionId = v.sessionId ∧
      (P.recover (v.digest P d w.block) signature).isSome = true ∧
      ∃ (s₀ : Governor.State) (n : Uint 256),
        Governor.castCfpApprovalVote w.block v.member v.proposalId v.intensity w.state = .ok s₀ ∧
        (n : ℕ) = w.state.votingNonces v.member + 1 ∧ s' = s₀.withNonce v.member n)

/-- The house that the relayer has read stays the member's house. -/
theorem countsAsOwnVote (hclient : Client P checksum lib) {d : Governor.Deployment} {value : Ballot}
    {v : Governor.CfpBallot} {before : GovernanceStatus} {w w' : Governor.GovernorWorld}
    (hsigned : ballotSigned lib config value = .ok ()) (hspells : value.Spells checksum v)
    (hhouse : value.house ≠ 0) (hread : before.ReadFrom v w.state) (hbefore : before.house = value.house)
    (hreach : ReflTransGen (Governor.contract P d).Micro w w')
    (hserves : config.Serves checksum d w'.block) :
    CountsAsOwnVote P d v (hexBytes value.signature) w' := by
  intro relayer s' hrelayer
  have hmember : w'.state.memberHouse v.sessionId v.member = v.house := by
    have hthen : w.state.memberHouse v.sessionId v.member = v.house :=
      toUint8_injective (hread.house.symm.trans (hbefore.trans hspells.house))
    have hne : w.state.memberHouse v.sessionId v.member ≠ .none := by
      intro hnone
      rw [hspells.house, ← hthen, hnone] at hhouse
      exact hhouse rfl
    rw [Governor.memberHouse_stays hreach hne, hthen]
  constructor
  · intro hok
    have hpresents := Governor.presents_of_ok hok
    exact ⟨hpresents.in_time, hpresents.nonce_eq.symm, hpresents.session_eq,
      Option.isSome_of_eq_some hpresents.signed, (Governor.relay_iff_direct hpresents).mp hok⟩
  · rintro ⟨htime, hnonce, hsession, hrecovers, hdirect⟩
    obtain ⟨signer, hsigner⟩ := Option.isSome_iff_exists.mp hrecovers
    obtain rfl := (ballotSigned_iff hclient hserves hspells hsigner).mp hsigned
    exact (Governor.relay_iff_direct ⟨hrelayer, htime, hnonce.symm, hsession, hmember, hsigner⟩).mpr hdirect

end

/-- Over all runs of the relayer of ballots, an operation makes each chain call once at most, and sends
its ballot on a status that names the house and the nonce of the ballot. When the status is the
governor's, the governor counts the ballot from then on as the member's own vote, where it recovers a
signer from its signature. -/
theorem relayed_ballots_counted {P : Primitives} {checksum : Address → String} {lib : Library}
    (hclient : Client P checksum lib) (config : GovernanceConfig)
    (past : List (Event GovernanceCall GovernanceReply)) :
    let s := run (step lib (governanceRelayer lib config)) initialState past
    s.chainCalls.Nodup ∧
    ∀ a promise, Sends lib (governanceRelayer lib config) s a promise →
      ∃ c r v before, .call c ∈ past ∧ governanceRequest lib config c = .ok r ∧
        s.trail[promise]? = some (r, .awaits .reading) ∧
        a = .reply promise (.status (.ok before)) ∧ r.value.Spells checksum v ∧
        c.now ≤ v.deadline ∧ (v.deadline : ℕ) ≤ c.now + MAX_INTENT_LIFETIME_SECONDS ∧
        before.house = v.house.toUint8 ∧ before.nonce = v.nonce ∧
        ∀ d w w', before.ReadFrom v w.state → ReflTransGen (Governor.contract P d).Micro w w' →
          config.Serves checksum d w'.block → CountsAsOwnVote P d v (hexBytes r.value.signature) w' := by
  intro s
  refine ⟨(callsOnce_run governance_forward past).nodup, fun a promise hsends ↦ ?_⟩
  obtain ⟨before, r, ha, hop, hhouse, hnonce⟩ := hsends.ballot
  have hbacked : Backed (fun _ _ ↦ True) (governanceRelayer lib config) past s :=
    backed_run ⟨fun _ ↦ trivial, fun _ _ _ _ _ _ ↦ trivial⟩ past
  obtain ⟨⟨c, hc, hr⟩, -⟩ := hbacked _ (List.mem_of_getElem? hop)
  have hchecked : BallotChecked lib config c r.value := ballotChecked_of_ok hr
  obtain ⟨v, hspells⟩ := hchecked.exists_spells hclient
  have hne : r.value.house ≠ 0 := by
    have h := hchecked.house
    omega
  refine ⟨c, r, v, before, hc, hr, hop, ha, hspells, ?_, ?_, hhouse.trans hspells.house,
    hnonce.trans hspells.nonce, ?_⟩
  · rw [← hspells.deadline]
    exact hchecked.deadline.1
  · rw [← hspells.deadline]
    exact hchecked.deadline.2
  · intro d w w' hread hreach hserves
    exact countsAsOwnVote hclient hchecked.signed hspells hne hread hhouse hreach hserves

namespace Sample

def ballotCall : GovernanceCall where
  input := .object [("proposalId", .string "1"), ("sessionId", .string "1"),
    ("house", .number (.finite 1)), ("member", .string signer), ("intensity", .number (.finite 2)),
    ("nonce", .string "0"), ("deadline", .string "1100"), ("signature", .string signedBallot.signature),
    ("idempotencyKey", .string "vote-0001")]
  available := true
  now := 1030

/-- The vote is open, and the relayer has its role. -/
def openVote : Governor.GovernorWorld :=
  (Governor.contract primitives Governor.Sample.deployment).run
    (Governor.Sample.preparation ++ [Governor.Sample.appointment])
    (Governor.genesis primitives Governor.Sample.deployment ⟨900, 80002⟩)

def ballotRequested : Request Ballot :=
  ⟨signer ++ ":" ++ "vote-0001", signedBallot.payload, signedBallot⟩

theorem request_ballotCall : governanceRequest client ballotConfig ballotCall = .ok ballotRequested := by
  have hmember : client.getAddress (ballotCall.input.property "member") = some signer := by decide +kernel
  have hproposal : (ballotCall.input.property "proposalId").bigInt = some ((1 : ℕ) : ℤ) := by decide +kernel
  have hsession : (ballotCall.input.property "sessionId").bigInt = some ((1 : ℕ) : ℤ) := by decide +kernel
  have hnonce : (ballotCall.input.property "nonce").bigInt = some ((0 : ℕ) : ℤ) := by decide +kernel
  have hdeadline : (ballotCall.input.property "deadline").bigInt = some ((1100 : ℕ) : ℤ) := by
    decide +kernel
  have hhouse : ballotHouse (ballotCall.input.property "house") = some 1 := by decide +kernel
  have hintensity : ballotIntensity (ballotCall.input.property "intensity") = some 2 := by decide +kernel
  have htime : (decide (ballotCall.now ≤ 1100) &&
      decide (1100 ≤ ballotCall.now + MAX_INTENT_LIFETIME_SECONDS)) = true := by decide
  have hsignature : hexText 130 (ballotCall.input.property "signature") =
      some signedBallot.signature := by decide +kernel
  have hkey : idempotencyKey ballotCall.input = .ok "vote-0001" := by
    have hproperty : ballotCall.input.property "idempotencyKey" = .string "vote-0001" := rfl
    have hvalid : Gateway.validKey "vote-0001" := by decide +kernel
    rw [idempotencyKey, hproperty]
    exact if_pos hvalid
  unfold governanceRequest
  refine requireValue_bind_eq_ok.mpr ⟨rfl, bind_eq_ok.mpr ⟨_, requireSome_eq_ok.mpr hmember, ?_⟩⟩
  refine bind_eq_ok.mpr ⟨_, unsignedInteger_of_bigInt hproposal _, ?_⟩
  refine bind_eq_ok.mpr ⟨_, unsignedInteger_of_bigInt hsession _, ?_⟩
  refine bind_eq_ok.mpr ⟨_, unsignedInteger_of_bigInt hnonce _, ?_⟩
  refine bind_eq_ok.mpr ⟨_, unsignedInteger_of_bigInt hdeadline _, ?_⟩
  refine bind_eq_ok.mpr ⟨_, requireSome_eq_ok.mpr hhouse, ?_⟩
  refine bind_eq_ok.mpr ⟨_, requireSome_eq_ok.mpr hintensity, ?_⟩
  refine requireValue_bind_eq_ok.mpr ⟨htime, bind_eq_ok.mpr ⟨_, requireSome_eq_ok.mpr hsignature, ?_⟩⟩
  refine bind_eq_ok.mpr ⟨_, hkey, ?_⟩
  exact bind_eq_ok.mpr ⟨(), signatures_agree_sample.1, rfl⟩

theorem sends_ballot : Sends client (governanceRelayer client ballotConfig)
    (run (step client (governanceRelayer client ballotConfig)) initialState [.call ballotCall])
    (.reply 0 (.status (.ok ⟨0, 1⟩))) 0 := by
  have hfirst : step client (governanceRelayer client ballotConfig) initialState (.call ballotCall) =
      initialState.begin client ballotRequested (.awaits .reading) :=
    step_first_call request_ballotCall
  rw [run_cons, hfirst, run_nil]
  exact sends_of_resume rfl (by decide) rfl

end Sample

/-- The creator's ballot arrives while the vote is open. -/
theorem relayed_ballots_counted_sample :
    CountsAsOwnVote Sample.primitives Governor.Sample.deployment (Governor.Sample.signedBallot 0)
      (hexBytes Sample.signedBallot.signature) Sample.openVote := by
  obtain ⟨c, r, v, before, hc, hr, -, ha, hspells, -, -, -, -, hcounts⟩ :=
    (relayed_ballots_counted Sample.client_sound Sample.ballotConfig [.call Sample.ballotCall]).2 _ 0
      Sample.sends_ballot
  cases List.mem_singleton.mp hc
  cases ha
  have hvalue : r.value = Sample.signedBallot :=
    congrArg Request.value (Except.ok.inj (hr.symm.trans Sample.request_ballotCall))
  rw [hvalue] at hspells hcounts
  obtain rfl := hspells.unique Sample.client_sound Sample.signedBallot_spells
  exact hcounts _ _ _ ⟨by decide +kernel, by decide +kernel⟩ .refl (Sample.ballotConfig_serves _)

/-! ## Support intents -/

section

variable {P : Primitives} {checksum : Address → String} {lib : Library} {config : SupporterConfig}

/-- An operation on an intent goes on with the signer and with a status, and anything else settles it. -/
theorem supporterResume_cases {value : SupportIntent} {phase : Phase} {reply : SupporterReply}
    {progress : Progress SupporterResult}
    (h : supporterResume lib config value phase reply = some progress) :
    (phase = .recovering ∧ progress = supporterRecovered lib config value) ∨
    (phase = .reading ∧ ∃ before, reply = .status (.ok before) ∧
      progress = supporterStatus value before) ∨ ∃ outcome, progress = .settled outcome := by
  unfold supporterResume at h
  split at h
  · exact .inl ⟨rfl, (Option.some.inj h).symm⟩
  · exact .inr (.inl ⟨rfl, _, rfl, (Option.some.inj h).symm⟩)
  · exact .inr (.inr ⟨_, (Option.some.inj h).symm⟩)
  · exact .inr (.inr ⟨_, (Option.some.inj h).symm⟩)
  · exact .inr (.inr ⟨_, (Option.some.inj h).symm⟩)
  · cases h

theorem supporterRecovered_cases (lib : Library) (config : SupporterConfig) (value : SupportIntent) :
    supporterRecovered lib config value = .awaits .reading ∨
      ∃ outcome, supporterRecovered lib config value = .settled outcome := by
  unfold supporterRecovered
  split
  · exact .inr ⟨_, rfl⟩
  · split
    · exact .inr ⟨_, rfl⟩
    · split
      · exact .inr ⟨_, rfl⟩
      · exact .inl rfl

theorem supporterStatus_cases (value : SupportIntent) (before : SupporterStatus) :
    (supporterStatus value before = .awaits .sending ∧
      before.registered = true ∧ before.tokenId = 0 ∧ before.nonce = value.nonce) ∨
      ∃ outcome, supporterStatus value before = .settled outcome := by
  unfold supporterStatus
  split
  · exact .inr ⟨_, rfl⟩
  · next hregistered =>
    split
    · exact .inr ⟨_, rfl⟩
    · next htoken =>
      split
      · exact .inr ⟨_, rfl⟩
      · next hnonce => exact .inl ⟨rfl, by simpa using hregistered, by omega, by simpa using hnonce⟩

theorem supporter_forward : Forward (supporterRelayer lib config) := by
  intro value phase reply progress hresume
  obtain ⟨rfl, rfl⟩ | ⟨rfl, before, -, rfl⟩ | ⟨outcome, rfl⟩ := supporterResume_cases hresume
  · obtain h | ⟨outcome, h⟩ := supporterRecovered_cases lib config value <;>
      simp [h, Progress.rank]
  · obtain ⟨h, -⟩ | ⟨outcome, h⟩ := supporterStatus_cases value before <;> simp [h, Progress.rank]
  · cases phase <;> simp [Progress.rank]

/-- An operation reads the chain after it has found the holder as the signer. -/
def SignerFound (lib : Library) (config : SupporterConfig) (value : SupportIntent)
    (progress : Progress SupporterResult) : Prop :=
  progress = .awaits .reading → supporterRecovered lib config value = .awaits .reading

theorem kept_signerFound : Kept (SignerFound lib config) (supporterRelayer lib config) where
  start _ h := nomatch h
  resume value phase reply progress _ hresume := by
    intro hreading
    obtain ⟨-, hprogress⟩ | ⟨-, before, -, hprogress⟩ | ⟨outcome, hprogress⟩ :=
      supporterResume_cases hresume
    · exact hprogress.symm.trans hreading
    · obtain ⟨h, -⟩ | ⟨outcome, h⟩ := supporterStatus_cases value before
      · cases h.symm.trans (hprogress.symm.trans hreading)
      · cases h.symm.trans (hprogress.symm.trans hreading)
    · cases hprogress.symm.trans hreading

/-- An intent is sent on a status of a registered listener without a token, under the current nonce. -/
theorem Sends.intent {s : State SupportIntent SupporterResult}
    {a : Event SupporterCall SupporterReply} {promise : ℕ}
    (h : Sends lib (supporterRelayer lib config) s a promise) :
    ∃ before r, a = .reply promise (.status (.ok before)) ∧
      s.trail[promise]? = some (r, .awaits .reading) ∧
      before.registered = true ∧ before.tokenId = 0 ∧ before.nonce = r.value.nonce := by
  obtain ⟨reply, r, phase, rfl, hop, hresume⟩ := h.resume fun _ h ↦ nomatch h
  obtain ⟨-, hprogress⟩ | ⟨rfl, before, rfl, hprogress⟩ | ⟨outcome, hprogress⟩ :=
    supporterResume_cases hresume
  · obtain h | ⟨outcome, h⟩ := supporterRecovered_cases lib config r.value
    · cases hprogress.trans h
    · cases hprogress.trans h
  · obtain ⟨-, hstatus⟩ | ⟨outcome, h⟩ := supporterStatus_cases r.value before
    · exact ⟨before, r, rfl, hop, hstatus⟩
    · cases hprogress.trans h
  · cases hprogress

/-- What an intent has passed when it reaches the map. -/
structure IntentChecked (lib : Library) (config : SupporterConfig) (c : SupporterCall)
    (value : SupportIntent) : Prop where
  holder : ∃ text, lib.getAddress text = some value.holder
  creatorId : ∃ text, hexText 64 text = some value.creatorId
  consentVersion : ∃ text, hexText 64 text = some value.consentVersion
  sponsored : config.allowedCreatorIds.any (·.toLower = value.creatorId.toLower) = true ∨
    ∃ id, c.registeredCreator = .ok (some id) ∧ id.toLower = value.creatorId.toLower
  deadline : c.now ≤ value.deadline ∧ value.deadline ≤ c.now + MAX_INTENT_LIFETIME_SECONDS

theorem namesRegisteredCreator_eq_true {c : SupporterCall} {creatorId : String}
    (h : namesRegisteredCreator c creatorId = .ok true) :
    ∃ id, c.registeredCreator = .ok (some id) ∧ id.toLower = creatorId.toLower := by
  unfold namesRegisteredCreator at h
  split at h
  · cases h
  · cases h
  · obtain ⟨registryCreatorId, -, h⟩ := bind_eq_ok.mp h
    obtain ⟨-, h⟩ := requireValue_bind_eq_ok.mp h
    obtain ⟨registeredCreator, hregistered, h⟩ := bind_eq_ok.mp h
    obtain ⟨hsame, -⟩ := requireValue_bind_eq_ok.mp h
    rw [mapError_eq_ok] at hregistered
    cases registeredCreator with
    | none => cases hsame
    | some id => exact ⟨id, hregistered, of_decide_eq_true hsame⟩

theorem intentChecked_of_ok {c : SupporterCall} {r : Request SupportIntent}
    (h : supporterRequest lib config c = .ok r) : IntentChecked lib config c r.value := by
  unfold supporterRequest at h
  obtain ⟨-, h⟩ := requireValue_bind_eq_ok.mp h
  obtain ⟨holder, hholder, h⟩ := bind_eq_ok.mp h
  obtain ⟨creatorId, hcreatorId, h⟩ := bind_eq_ok.mp h
  obtain ⟨consentVersion, hconsent, h⟩ := bind_eq_ok.mp h
  obtain ⟨registered, hregistered, h⟩ := bind_eq_ok.mp h
  obtain ⟨hsponsored, h⟩ := requireValue_bind_eq_ok.mp h
  obtain ⟨nonce, -, h⟩ := bind_eq_ok.mp h
  obtain ⟨deadline, -, h⟩ := bind_eq_ok.mp h
  obtain ⟨hdeadline, h⟩ := requireValue_bind_eq_ok.mp h
  obtain ⟨signature, -, h⟩ := bind_eq_ok.mp h
  obtain ⟨key, -, h⟩ := bind_eq_ok.mp h
  obtain rfl := Except.ok.inj h
  rw [Bool.and_eq_true, decide_eq_true_iff, decide_eq_true_iff] at hdeadline
  rw [requireSome_eq_ok] at hholder
  rw [bytes32, requireSome_eq_ok] at hcreatorId hconsent
  refine ⟨⟨_, hholder⟩, ⟨_, hcreatorId⟩, ⟨_, hconsent⟩, ?_, hdeadline⟩
  rw [Bool.or_eq_true] at hsponsored
  apply hsponsored.imp_right
  rintro rfl
  exact namesRegisteredCreator_eq_true hregistered

/-- What the token does for an intent that it has accepted, whoever has brought it. -/
def issueCredential {T : Erc721 Address (Uint 256)} (b : Block) (v : Supporter.SupportIntent)
    (s : Supporter.State T) :
    Except Supporter.Error (Outcome (Supporter.State T) Supporter.ReceiverCall) := do
  let nextNonce ← Uint.increment .arithmeticPanic (s.nonces v.holder)
  let policy := s.earlyPolicies v.creatorId
  let tier := if Supporter.isEarly b policy then Supporter.Tier.earlySupporter else .supporter
  let earlyIssued ← Supporter.countIssued b policy
  let nextTokenId ← Uint.increment .arithmeticPanic s.nextTokenId
  let issued ← Supporter.mint v.holder s.nextTokenId { s with
    nonces := Function.update s.nonces v.holder nextNonce
    earlyPolicies := Function.update s.earlyPolicies v.creatorId { policy with earlyIssued }
    nextTokenId
    credentials := Function.update s.credentials s.nextTokenId
      { creatorId := v.creatorId, tier, policyVersion := policy.version,
        issuedAt := Uint.truncate 64 b.timestamp, active := true }
    activeTokenOf := update₂ s.activeTokenOf v.creatorId v.holder s.nextTokenId }
  return .callout issued ⟨v.holder, s.nextTokenId⟩

/-- The token registers the holder exactly if it can issue the credential, as long as the deadline has not
passed, the nonce has not been used and the holder has no credential of the creator, and if it recovers a
signer from the signature at all: a client may read forms of signatures that it refuses. -/
def RegistersHolder (P : Primitives) (T : Erc721 Address (Uint 256)) (d : Supporter.Deployment)
    (b : Block) (v : Supporter.SupportIntent) (signature : Bytes) (s : Supporter.State T) : Prop :=
  ∀ relayer outcome, s.roles (Supporter.RELAYER_ROLE P) relayer = true →
    (Supporter.registerSupporterWithSignature P d b relayer v signature s = .ok outcome ↔
      v.creatorId ≠ 0 ∧ v.holder ≠ 0 ∧ b.timestamp ≤ (v.deadline : ℕ) ∧ s.nonces v.holder = v.nonce ∧
      s.activeTokenOf v.creatorId v.holder = 0 ∧ (P.recover (v.digest P d b) signature).isSome = true ∧
      issueCredential b v s = .ok outcome)

theorem registersHolder (hclient : Client P checksum lib) {T : Erc721 Address (Uint 256)}
    {d : Supporter.Deployment} {b : Block} {value : SupportIntent} {v : Supporter.SupportIntent}
    (hsigned : supporterRecovered lib config value = .awaits .reading)
    (hspells : value.Spells checksum v) (hserves : config.Serves checksum d b)
    (s : Supporter.State T) : RegistersHolder P T d b v (hexBytes value.signature) s := by
  intro relayer outcome hrelayer
  have hrelayer' : ¬ s.roles (Supporter.RELAYER_ROLE P) relayer = false := by simp [hrelayer]
  cases hsigner : P.recover (v.digest P d b) (hexBytes value.signature) with
  | none =>
    simp only [Supporter.registerSupporterWithSignature, Supporter.onlyRole, revertIf_bind_eq_ok, hsigner,
      Option.elim_none, Option.isSome_none, Bool.false_eq_true, false_and, and_false, iff_false]
    rintro ⟨-, -, -, -, -, -, h⟩
    cases h
  | some signer =>
    obtain rfl := (supporterRecovered_iff hclient hserves hspells hsigner).mp hsigned
    simp only [Supporter.registerSupporterWithSignature, Supporter.onlyRole, revertIf_bind_eq_ok, hrelayer',
      hsigner, Option.elim_some, ok_bind, not_false_eq_true, true_and, not_lt, ne_eq, not_not, not_true_eq_false,
      Option.isSome_some]
    constructor
    · rintro ⟨-, hcreator, hholder, htime, hnonce, hinactive, hissued⟩
      exact ⟨hcreator, hholder, htime, hnonce.symm, hinactive, hissued⟩
    · rintro ⟨hcreator, hholder, htime, hnonce, hinactive, hissued⟩
      exact ⟨by simp, hcreator, hholder, htime, hnonce.symm, hinactive, hissued⟩

/-- Over all runs of the relayer of support intents, an operation makes each chain call once at most, and
sends its intent, of a sponsored or registered creator, after it has found the holder as the signer, on a
status of a registered listener without a credential, under the current nonce. The token refuses such an
intent for its signature only where it recovers no signer from it. -/
theorem relayed_intents_registered {P : Primitives} {checksum : Address → String} {lib : Library}
    (hclient : Client P checksum lib) (config : SupporterConfig)
    (past : List (Event SupporterCall SupporterReply)) :
    let s := run (step lib (supporterRelayer lib config)) initialState past
    s.chainCalls.Nodup ∧
    ∀ a promise, Sends lib (supporterRelayer lib config) s a promise →
      ∃ c r v before, .call c ∈ past ∧ supporterRequest lib config c = .ok r ∧
        s.trail[promise]? = some (r, .awaits .reading) ∧
        a = .reply promise (.status (.ok before)) ∧ r.value.Spells checksum v ∧
        (config.allowedCreatorIds.any (·.toLower = r.value.creatorId.toLower) = true ∨
          ∃ id, c.registeredCreator = .ok (some id) ∧ id.toLower = r.value.creatorId.toLower) ∧
        c.now ≤ v.deadline ∧ (v.deadline : ℕ) ≤ c.now + MAX_INTENT_LIFETIME_SECONDS ∧
        before.registered = true ∧ before.tokenId = 0 ∧ before.nonce = v.nonce ∧
        ∀ T d b (state : Supporter.State T), config.Serves checksum d b →
          RegistersHolder P T d b v (hexBytes r.value.signature) state := by
  intro s
  refine ⟨(callsOnce_run supporter_forward past).nodup, fun a promise hsends ↦ ?_⟩
  obtain ⟨before, r, ha, hop, hregistered, htoken, hnonce⟩ := hsends.intent
  have hbacked : Backed (SignerFound lib config) (supporterRelayer lib config) past s :=
    backed_run kept_signerFound past
  obtain ⟨⟨c, hc, hr⟩, hfound⟩ := hbacked _ (List.mem_of_getElem? hop)
  have hsigned : supporterRecovered lib config r.value = .awaits .reading := hfound rfl
  have hchecked : IntentChecked lib config c r.value := intentChecked_of_ok hr
  obtain ⟨text, htext⟩ := hchecked.holder
  obtain ⟨holder, hholder⟩ := hclient.getAddress_text _ _ htext
  obtain ⟨v, hspells⟩ := exists_intent_spells hclient hholder hsigned
  refine ⟨c, r, v, before, hc, hr, hop, ha, hspells, hchecked.sponsored, ?_, ?_, hregistered, htoken,
    hnonce.trans hspells.nonce, ?_⟩
  · rw [← hspells.deadline]
    exact hchecked.deadline.1
  · rw [← hspells.deadline]
    exact hchecked.deadline.2
  · intro T d b state hserves
    exact registersHolder hclient hsigned hspells hserves state

end

namespace Sample

def intentCall : SupporterCall where
  input := .object [("holder", .string signer), ("creatorId", .string signedIntent.creatorId),
    ("nonce", .string "0"), ("deadline", .string "2000"),
    ("consentVersion", .string signedIntent.consentVersion),
    ("signature", .string signedIntent.signature), ("idempotencyKey", .string "support-0001")]
  available := true
  registeredCreator := .ok none
  now := 1200

/-- The early policy of the creator is set. -/
def openPolicy : Supporter.SupporterWorld Supporter.Sample.tokens :=
  (Supporter.contract primitives Supporter.Sample.tokens Supporter.Sample.deployment).run
    Supporter.Sample.preparation
    (Supporter.genesis primitives Supporter.Sample.tokens Supporter.Sample.deployment ⟨900, 80002⟩)

def intentRequested : Request SupportIntent :=
  ⟨signer ++ ":" ++ "support-0001", signedIntent.payload, signedIntent⟩

theorem bytes32_eq {value : Value} {name text : String} (h : hexText 64 value = some text) :
    bytes32 value name = .ok text := by
  rw [bytes32, h]
  rfl

theorem request_intentCall :
    supporterRequest client intentConfig intentCall = .ok intentRequested := by
  have hholder : client.getAddress (intentCall.input.property "holder") = some signer := by decide +kernel
  have hcreator : hexText 64 (intentCall.input.property "creatorId") = some signedIntent.creatorId := by
    decide +kernel
  have hconsent : hexText 64 (intentCall.input.property "consentVersion") =
      some signedIntent.consentVersion := by decide +kernel
  have hregistered : namesRegisteredCreator intentCall signedIntent.creatorId = .ok false := by
    have hregistry : intentCall.input.property "registryCreatorId" = .undefined := rfl
    rw [namesRegisteredCreator, hregistry]
    rfl
  have hsponsored : intentConfig.allowedCreatorIds.any
      (·.toLower = signedIntent.creatorId.toLower) = true := by
    simp only [intentConfig, List.any_cons, Bool.or_eq_true, decide_eq_true_eq]
    exact .inl rfl
  have hnonce : (intentCall.input.property "nonce").bigInt = some ((0 : ℕ) : ℤ) := by decide +kernel
  have hdeadline : (intentCall.input.property "deadline").bigInt = some ((2000 : ℕ) : ℤ) := by
    decide +kernel
  have htime : (decide (intentCall.now ≤ 2000) &&
      decide (2000 ≤ intentCall.now + MAX_INTENT_LIFETIME_SECONDS)) = true := by decide
  have hsignature : hexText 130 (intentCall.input.property "signature") =
      some signedIntent.signature := by decide +kernel
  have hkey : idempotencyKey intentCall.input = .ok "support-0001" := by
    have hproperty : intentCall.input.property "idempotencyKey" = .string "support-0001" := rfl
    have hvalid : Gateway.validKey "support-0001" := by decide +kernel
    rw [idempotencyKey, hproperty]
    exact if_pos hvalid
  unfold supporterRequest
  refine requireValue_bind_eq_ok.mpr ⟨rfl, bind_eq_ok.mpr ⟨_, requireSome_eq_ok.mpr hholder, ?_⟩⟩
  refine bind_eq_ok.mpr ⟨_, bytes32_eq hcreator, bind_eq_ok.mpr ⟨_, bytes32_eq hconsent, ?_⟩⟩
  refine bind_eq_ok.mpr ⟨_, hregistered, ?_⟩
  refine requireValue_bind_eq_ok.mpr ⟨(Bool.or_eq_true _ _).mpr (.inl hsponsored), ?_⟩
  refine bind_eq_ok.mpr ⟨_, unsignedInteger_of_bigInt hnonce _, ?_⟩
  refine bind_eq_ok.mpr ⟨_, unsignedInteger_of_bigInt hdeadline _, ?_⟩
  refine requireValue_bind_eq_ok.mpr ⟨htime, ?_⟩
  exact bind_eq_ok.mpr ⟨_, requireSome_eq_ok.mpr hsignature, bind_eq_ok.mpr ⟨_, hkey, rfl⟩⟩

/-- The holder has been found as the signer. -/
def readingState : State SupportIntent SupporterResult :=
  (initialState.begin client intentRequested (.awaits .recovering)).advance 0 (.awaits .reading)

theorem step_recovered : step client (supporterRelayer client intentConfig)
    (initialState.begin client intentRequested (.awaits .recovering)) (.reply 0 .recovered) =
      readingState := by
  have hfound : supporterRecovered client intentConfig intentRequested.value = .awaits .reading :=
    signatures_agree_sample.2
  have hstarted : (initialState.begin client intentRequested (.awaits .recovering)).started[0]? =
      some (⟨intentRequested, .awaits .recovering, false⟩ : Operation SupportIntent SupporterResult) :=
    rfl
  simp only [step, hstarted, supporterRelayer, supporterResume, hfound]
  rfl

theorem sends_intent : Sends client (supporterRelayer client intentConfig)
    (run (step client (supporterRelayer client intentConfig)) initialState
      [.call intentCall, .reply 0 .recovered])
    (.reply 0 (.status (.ok ⟨true, 0, 0, 0⟩))) 0 := by
  have hfirst : step client (supporterRelayer client intentConfig) initialState (.call intentCall) =
      initialState.begin client intentRequested (.awaits .recovering) :=
    step_first_call request_intentCall
  rw [run_cons, hfirst, run_cons, step_recovered, run_nil]
  exact sends_of_resume rfl (by decide) rfl

end Sample

/-- The intent of a fan is sent to the token. -/
theorem relayed_intents_registered_sample :
    RegistersHolder Sample.primitives Supporter.Sample.tokens Supporter.Sample.deployment ⟨1200, 80002⟩
      (Supporter.Sample.intent Supporter.Sample.fan 0) (hexBytes Sample.signedIntent.signature)
      Sample.openPolicy.state := by
  obtain ⟨c, r, v, before, hc, hr, -, -, hspells, -, -, -, -, -, -, hregisters⟩ :=
    (relayed_intents_registered Sample.client_sound Sample.intentConfig
      [.call Sample.intentCall, .reply 0 .recovered]).2 _ 0 Sample.sends_intent
  have hcall : c = Sample.intentCall := by simpa using hc
  subst hcall
  have hvalue : r.value = Sample.signedIntent :=
    congrArg Request.value (Except.ok.inj (hr.symm.trans Sample.request_intentCall))
  rw [hvalue] at hspells hregisters
  obtain rfl := hspells.unique Sample.client_sound Sample.signedIntent_spells
  exact hregisters _ _ _ _ (Sample.intentConfig_serves _)

end CreatorFirst.Relay
