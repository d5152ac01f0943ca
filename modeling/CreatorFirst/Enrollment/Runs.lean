import CreatorFirst.Gateway.Handlers
import CreatorFirst.Process.Run

/-!
# Runs of the enrollment operator

`process` chains each run to `transactionQueue` and keeps its promise in `running` until the run is over.
The body `#process` of a run is left open here: it takes any number of steps and ends with any outcome.

The reactions of promises come in any order that their promises allow. The queue of microtasks is one such
order, and calls may come between any two of them.
-/

namespace CreatorFirst.Enrollment

open Gateway Process

variable {α : Type}

/-- How far `#process` has come. -/
inductive Body (α : Type) where
  | uncalled
  | active
  | ended (outcome : Except Failure α)

def Body.isActive : Body α → Bool
  | .active => true
  | _ => false

/-- A run, with the outcomes of the promises that `process` makes for it; one that is pending has none.
What `transactionQueue` becomes with the run is `caught`; `deleted` says that the callback of `finally` has
run. -/
structure Run (α : Type) where
  invitationId : String
  body : Body α
  operation : Option (Except Failure α)
  caught : Option (Except Failure (Option α))
  deleted : Bool
  trackedOperation : Option (Except Failure α)

/-- The promise that a call was given: that of a run, unless there is no chain. -/
structure Call (α : Type) where
  invitationId : String
  run : Option ℕ
  outcome : Option (Except Failure α)

structure Operator (α : Type) where
  runs : List (Run α)
  running : String → Option ℕ
  calls : List (Call α)

inductive Action (α : Type) where
  | process (invitationId : String)
  | start (run : ℕ)
  | resume (run : ℕ)
  | finish (run : ℕ) (outcome : Except Failure α)
  | adopt (run : ℕ)
  | recover (run : ℕ)
  | delete (run : ℕ)
  | track (run : ℕ)
  | answer (call : ℕ)

/-- The reactions of promises. -/
def Action.IsMicrotask : Action α → Prop
  | .start _ | .adopt _ | .recover _ | .delete _ | .track _ | .answer _ => True
  | .process _ | .resume _ | .finish _ _ => False

namespace Run

def create (invitationId : String) : Run α where
  invitationId := invitationId
  body := .uncalled
  operation := none
  caught := none
  deleted := false
  trackedOperation := none

/-- `then` on the queue: `#process` is called once it is fulfilled. -/
def start (queue : Option (Except Failure (Option α))) (r : Run α) : Run α :=
  match queue, r.body, r.operation with
  | some (.ok _), .uncalled, none => { r with body := .active }
  | some (.error e), .uncalled, none => { r with operation := some (.error e) }
  | _, _, _ => r

def finish (outcome : Except Failure α) (r : Run α) : Run α :=
  match r.body with
  | .active => { r with body := .ended outcome }
  | _ => r

/-- The operation has the outcome of the promise that `#process` has returned. -/
def adopt (r : Run α) : Run α :=
  match r.body, r.operation with
  | .ended outcome, none => { r with operation := some outcome }
  | _, _ => r

/-- `operation.catch(() => undefined)`. -/
def recover (r : Run α) : Run α :=
  match r.operation, r.caught with
  | some (.ok value), none => { r with caught := some (.ok (some value)) }
  | some (.error _), none => { r with caught := some (.ok none) }
  | _, _ => r

def track (r : Run α) : Run α :=
  match r.deleted, r.operation, r.trackedOperation with
  | true, some outcome, none => { r with trackedOperation := some outcome }
  | _, _, _ => r

end Run

def Call.settle (runs : List (Run α)) (c : Call α) : Call α :=
  match c.run.bind (runs[·]?), c.outcome with
  | some r, none => { c with outcome := r.trackedOperation }
  | _, _ => c

namespace Operator

def initial : Operator α where
  runs := []
  running _ := none
  calls := []

def disabled : Failure :=
  .http 503 "PARTICIPANT_ENROLLMENT_OPERATOR_DISABLED" "On-chain participant enrollment is not configured"

section Operations

variable (s : Operator α)

/-- `transactionQueue` as the run has found it. -/
def transactionQueue : ℕ → Option (Except Failure (Option α))
  | 0 => some (.ok none)
  | k + 1 => s.runs[k]?.bind (·.caught)

def process (enabled : Bool) (invitationId : String) : Operator α :=
  if enabled then
    match s.running invitationId with
    | some k => { s with calls := s.calls ++ [⟨invitationId, some k, none⟩] }
    | none =>
      { runs := s.runs ++ [Run.create invitationId]
        running := Function.update s.running invitationId (some s.runs.length)
        calls := s.calls ++ [⟨invitationId, some s.runs.length, none⟩] }
  else { s with calls := s.calls ++ [⟨invitationId, none, some (.error disabled)⟩] }

/-- The callback of `operation.finally`. -/
def delete (k : ℕ) : Operator α :=
  match s.runs[k]? with
  | some r =>
    if r.operation.isSome ∧ r.deleted = false then
      { s with
        runs := s.runs.modify k ({ · with deleted := true })
        running := Function.update s.running r.invitationId none }
    else s
  | none => s

/-- `#process` of the run is between its first step and its last one. -/
def active (k : ℕ) : Bool := s.runs[k]?.any (·.body.isActive)

/-- `#process` of the run is over. -/
def Ended (k : ℕ) (outcome : Except Failure α) : Prop := ∃ r ∈ s.runs[k]?, r.body = .ended outcome

end Operations

section Steps

variable (enabled : Bool) (s : Operator α)

def step : Action α → Operator α
  | .process invitationId => s.process enabled invitationId
  | .start k => { s with runs := s.runs.modify k (Run.start (s.transactionQueue k)) }
  | .resume _ => s
  | .finish k outcome => { s with runs := s.runs.modify k (Run.finish outcome) }
  | .adopt k => { s with runs := s.runs.modify k Run.adopt }
  | .recover k => { s with runs := s.runs.modify k Run.recover }
  | .delete k => s.delete k
  | .track k => { s with runs := s.runs.modify k Run.track }
  | .answer j => { s with calls := s.calls.modify j (Call.settle s.runs) }

/-- The run whose `#process` begins, goes on or ends in a step. -/
def bodyEvent? : Action α → Option ℕ
  | .start k => if !s.active k && (s.step enabled (.start k)).active k then some k else none
  | .resume k | .finish k _ => if s.active k then some k else none
  | _ => none

/-- No reaction is left. -/
def Quiescent : Prop := ∀ a : Action α, a.IsMicrotask → s.step enabled a = s

end Steps

end Operator

/-! ## One run -/

namespace Run

/-- Each promise of a run has the outcome of the one that it is derived from. -/
structure Ordered (r : Run α) : Prop where
  operation : ∀ outcome, r.operation = some outcome → r.body = .ended outcome
  caught : ∀ outcome, r.caught = some outcome → r.operation.isSome ∧ ∃ value, outcome = .ok value
  deleted : r.deleted = true → r.operation.isSome
  tracked : ∀ outcome, r.trackedOperation = some outcome → r.deleted = true ∧ r.operation = some outcome

/-- What is settled stays settled. -/
structure Grows (r r' : Run α) : Prop where
  invitationId : r'.invitationId = r.invitationId
  called : r.body ≠ .uncalled → r'.body ≠ .uncalled
  ended : ∀ outcome, r.body = .ended outcome → r'.body = .ended outcome
  operation : ∀ outcome, r.operation = some outcome → r'.operation = some outcome
  caught : ∀ outcome, r.caught = some outcome → r'.caught = some outcome
  tracked : ∀ outcome, r.trackedOperation = some outcome → r'.trackedOperation = some outcome

/-- What a reaction, or the end of `#process`, does to a run that waits for `queue`. -/
structure Moves (queue : Option (Except Failure (Option α))) (r r' : Run α) : Prop extends Grows r r' where
  ordered : r.Ordered → (∀ e, queue ≠ some (.error e)) → r'.Ordered
  deleted_eq : r'.deleted = r.deleted
  called_iff : r'.body ≠ .uncalled → r.body ≠ .uncalled ∨ queue.isSome

theorem Grows.refl (r : Run α) : r.Grows r :=
  ⟨rfl, id, fun _ ↦ id, fun _ ↦ id, fun _ ↦ id, fun _ ↦ id⟩

variable {queue : Option (Except Failure (Option α))} {r : Run α}

theorem Moves.refl : Moves queue r r :=
  ⟨.refl r, fun h _ ↦ h, rfl, .inl⟩

theorem moves_start : Moves queue r (r.start queue) := by
  obtain ⟨invitationId, body, operation, caught, deleted, trackedOperation⟩ := r
  unfold start
  split
  · next value hbody hoperation =>
    obtain rfl : body = .uncalled := hbody
    obtain rfl : operation = none := hoperation
    refine ⟨⟨rfl, nofun, nofun, nofun, fun _ ↦ id, fun _ ↦ id⟩, fun h _ ↦ ?_, rfl, fun _ ↦ .inr rfl⟩
    exact ⟨nofun, h.caught, h.deleted, h.tracked⟩
  · next e hbody hoperation =>
    obtain rfl : operation = none := hoperation
    refine ⟨⟨rfl, id, fun _ ↦ id, nofun, fun _ ↦ id, fun _ ↦ id⟩, fun h hok ↦ ?_, rfl, .inl⟩
    exact absurd rfl (hok e)
  · exact .refl

theorem moves_finish (outcome : Except Failure α) : Moves queue r (r.finish outcome) := by
  obtain ⟨invitationId, body, operation, caught, deleted, trackedOperation⟩ := r
  unfold finish
  split
  · next hbody =>
    obtain rfl : body = .active := hbody
    refine ⟨⟨rfl, nofun, nofun, fun _ ↦ id, fun _ ↦ id, fun _ ↦ id⟩, fun h _ ↦ ?_, rfl, fun _ ↦ .inl nofun⟩
    refine ⟨fun o ho ↦ ?_, h.caught, h.deleted, h.tracked⟩
    cases h.operation o ho
  · exact .refl

theorem moves_adopt : Moves queue r r.adopt := by
  obtain ⟨invitationId, body, operation, caught, deleted, trackedOperation⟩ := r
  unfold adopt
  split
  · next outcome hbody hoperation =>
    obtain rfl : body = .ended outcome := hbody
    obtain rfl : operation = none := hoperation
    refine ⟨⟨rfl, id, fun _ ↦ id, nofun, fun _ ↦ id, fun _ ↦ id⟩, fun h _ ↦ ?_, rfl, .inl⟩
    refine ⟨?_, fun o ho ↦ ⟨rfl, (h.caught o ho).2⟩, fun _ ↦ rfl, fun o ho ↦ ?_⟩
    · rintro o ⟨⟩
      rfl
    · cases (h.tracked o ho).2
  · exact .refl

theorem moves_recover : Moves queue r r.recover := by
  obtain ⟨invitationId, body, operation, caught, deleted, trackedOperation⟩ := r
  unfold recover
  split
  · next value hoperation hcaught =>
    obtain rfl : operation = some (.ok value) := hoperation
    obtain rfl : caught = none := hcaught
    refine ⟨⟨rfl, id, fun _ ↦ id, fun _ ↦ id, nofun, fun _ ↦ id⟩, fun h _ ↦ ?_, rfl, .inl⟩
    refine ⟨h.operation, ?_, h.deleted, h.tracked⟩
    rintro o ⟨⟩
    exact ⟨rfl, some value, rfl⟩
  · next e hoperation hcaught =>
    obtain rfl : operation = some (.error e) := hoperation
    obtain rfl : caught = none := hcaught
    refine ⟨⟨rfl, id, fun _ ↦ id, fun _ ↦ id, nofun, fun _ ↦ id⟩, fun h _ ↦ ?_, rfl, .inl⟩
    refine ⟨h.operation, ?_, h.deleted, h.tracked⟩
    rintro o ⟨⟩
    exact ⟨rfl, none, rfl⟩
  · exact .refl

theorem moves_track : Moves queue r r.track := by
  obtain ⟨invitationId, body, operation, caught, deleted, trackedOperation⟩ := r
  unfold track
  split
  · next outcome hdeleted hoperation htracked =>
    obtain rfl : trackedOperation = none := htracked
    refine ⟨⟨rfl, id, fun _ ↦ id, fun _ ↦ id, fun _ ↦ id, nofun⟩, fun h _ ↦ ?_, rfl, .inl⟩
    refine ⟨h.operation, h.caught, h.deleted, ?_⟩
    rintro o ⟨⟩
    exact ⟨hdeleted, hoperation⟩
  · exact .refl

end Run

/-! ## All runs -/

namespace Operator

/-- The runs of the operator go on, and no call is made or answered. -/
structure Moves (s s' : Operator α) : Prop where
  runs : ∀ k, Option.Rel (Run.Moves (s.transactionQueue k)) s.runs[k]? s'.runs[k]?
  running : s'.running = s.running
  calls : s'.calls = s.calls

/-- What the calls have been given. -/
def Answers (s : Operator α) (c : Call α) : Prop :=
  match c.run with
  | none => c.outcome = some (.error disabled)
  | some k => ∃ r, s.runs[k]? = some r ∧ r.invitationId = c.invitationId ∧
      ∀ outcome, c.outcome = some outcome → r.trackedOperation = some outcome

/-- `running` has the runs whose entry was not deleted, and `#process` of a run is called only when the
runs before it are over. -/
structure Sound (s : Operator α) : Prop where
  ordered : ∀ (k : ℕ) (r : Run α), s.runs[k]? = some r → r.Ordered
  called : ∀ (k : ℕ) (r : Run α), s.runs[k]? = some r → r.body ≠ .uncalled → (s.transactionQueue k).isSome
  running : ∀ invitationId k, s.running invitationId = some k ↔
    ∃ r, s.runs[k]? = some r ∧ r.invitationId = invitationId ∧ r.deleted = false
  answers : ∀ c ∈ s.calls, s.Answers c

variable {s s' : Operator α} {k : ℕ}

theorem moves_modify {f : Run α → Run α}
    (hf : ∀ r, Run.Moves (s.transactionQueue k) r (f r)) : s.Moves { s with runs := s.runs.modify k f } where
  runs j := by
    rw [List.getElem?_modify]
    cases hrun : s.runs[j]? with
    | none => exact .none
    | some r =>
      by_cases hk : k = j
      · subst hk
        simpa using Option.Rel.some (hf r)
      · simpa [hk] using Option.Rel.some (Run.Moves.refl (r := r))
  running := rfl
  calls := rfl

theorem Moves.exists_after (h : s.Moves s') {r : Run α} (hrun : s.runs[k]? = some r) :
    ∃ r', s'.runs[k]? = some r' ∧ Run.Moves (s.transactionQueue k) r r' := by
  have hrel := h.runs k
  rw [hrun] at hrel
  generalize s'.runs[k]? = after at hrel
  cases hrel with
  | some hmoves => exact ⟨_, rfl, hmoves⟩

theorem Moves.exists_before (h : s.Moves s') {r' : Run α} (hrun : s'.runs[k]? = some r') :
    ∃ r, s.runs[k]? = some r ∧ Run.Moves (s.transactionQueue k) r r' := by
  have hrel := h.runs k
  rw [hrun] at hrel
  generalize s.runs[k]? = before at hrel
  cases hrel with
  | some hmoves => exact ⟨_, rfl, hmoves⟩

/-- The runs go on, and others may be added. -/
def Grows (s s' : Operator α) : Prop :=
  ∀ (k : ℕ) (r : Run α), s.runs[k]? = some r → ∃ r', s'.runs[k]? = some r' ∧ r.Grows r'

theorem Moves.grows (h : s.Moves s') : s.Grows s' := by
  intro k r hrun
  obtain ⟨r', hrun', hmoves⟩ := h.exists_after hrun
  exact ⟨r', hrun', hmoves.toGrows⟩

theorem Grows.transactionQueue (h : s.Grows s') (hqueue : (s.transactionQueue k).isSome) :
    (s'.transactionQueue k).isSome := by
  cases k with
  | zero => rfl
  | succ k =>
    obtain ⟨value, hvalue⟩ := Option.isSome_iff_exists.mp hqueue
    obtain ⟨r, hrun, hcaught⟩ := Option.bind_eq_some_iff.mp hvalue
    obtain ⟨r', hrun', hgrows⟩ := h k r hrun
    rw [Operator.transactionQueue, hrun', Option.bind_some, hgrows.caught value hcaught]
    rfl

theorem Grows.answers (h : s.Grows s') {c : Call α} (hc : s.Answers c) : s'.Answers c := by
  unfold Answers at hc ⊢
  split at hc
  · exact hc
  · next k _ =>
    obtain ⟨r, hrun, hid, houtcome⟩ := hc
    obtain ⟨r', hrun', hgrows⟩ := h k r hrun
    exact ⟨r', hrun', hgrows.invitationId.trans hid,
      fun outcome ho ↦ hgrows.tracked outcome (houtcome outcome ho)⟩

/-- A failed run does not fail the queue. -/
theorem Sound.transactionQueue_ne_error (h : s.Sound) (e : Failure) :
    s.transactionQueue k ≠ some (.error e) := by
  cases k with
  | zero => nofun
  | succ k =>
    intro herror
    obtain ⟨r, hrun, hcaught⟩ := Option.bind_eq_some_iff.mp herror
    obtain ⟨-, value, hok⟩ := (h.ordered k r hrun).caught _ hcaught
    cases hok

theorem Sound.of_moves (h : s.Sound) (hmoves : s.Moves s') : s'.Sound where
  ordered k r' hrun' := by
    obtain ⟨r, hrun, hrel⟩ := hmoves.exists_before hrun'
    exact hrel.ordered (h.ordered k r hrun) fun e ↦ h.transactionQueue_ne_error e
  called k r' hrun' hcalled := by
    obtain ⟨r, hrun, hrel⟩ := hmoves.exists_before hrun'
    apply hmoves.grows.transactionQueue
    exact (hrel.called_iff hcalled).elim (h.called k r hrun) id
  running invitationId k := by
    rw [hmoves.running, h.running]
    constructor
    · rintro ⟨r, hrun, hid, hdeleted⟩
      obtain ⟨r', hrun', hrel⟩ := hmoves.exists_after hrun
      exact ⟨r', hrun', hrel.invitationId.trans hid, hrel.deleted_eq.trans hdeleted⟩
    · rintro ⟨r', hrun', hid, hdeleted⟩
      obtain ⟨r, hrun, hrel⟩ := hmoves.exists_before hrun'
      exact ⟨r, hrun, hrel.invitationId.symm.trans hid, hrel.deleted_eq.symm.trans hdeleted⟩
  answers c hc := by
    rw [hmoves.calls] at hc
    exact hmoves.grows.answers (h.answers c hc)

/-! ## Steps -/

theorem sound_initial : (initial : Operator α).Sound where
  ordered k r hrun := by cases hrun
  called k r hrun := by cases hrun
  running invitationId k := by
    constructor
    · nofun
    · rintro ⟨r, hrun, -⟩
      cases hrun
  answers c hc := by cases hc

theorem getElem?_concat_eq_some {runs : List (Run α)} {r r' : Run α} :
    (runs ++ [r])[k]? = some r' ↔ runs[k]? = some r' ∨ k = runs.length ∧ r' = r := by
  rw [List.getElem?_append]
  split
  · next hlt => simp [Nat.ne_of_lt hlt]
  · next hge =>
    have hnone : runs[k]? = none := List.getElem?_eq_none (Nat.le_of_not_lt hge)
    rw [hnone]
    by_cases hk : k = runs.length
    · subst hk
      simp [eq_comm]
    · have hpos : k - runs.length ≠ 0 := by omega
      simp [hk, hpos]

/-- A new run, called `#process` of which is not. -/
theorem grows_create (s : Operator α) (invitationId : String) (running : String → Option ℕ)
    (calls : List (Call α)) :
    s.Grows { runs := s.runs ++ [Run.create invitationId], running, calls } :=
  fun _ r hrun ↦ ⟨r, getElem?_concat_eq_some.mpr (.inl hrun), .refl r⟩

theorem Sound.process (h : s.Sound) (enabled : Bool) (invitationId : String) :
    (s.process enabled invitationId).Sound := by
  unfold Operator.process
  split
  · split
    · next k hrunning =>
      refine ⟨h.ordered, h.called, h.running, fun c hc ↦ ?_⟩
      obtain hbefore | hnew := List.mem_append.mp hc
      · exact h.answers c hbefore
      · obtain rfl := List.mem_singleton.mp hnew
        obtain ⟨r, hrun, hid, -⟩ := (h.running invitationId k).mp hrunning
        exact ⟨r, hrun, hid, nofun⟩
    · next hrunning =>
      have hgrows := grows_create s invitationId
        (Function.update s.running invitationId (some s.runs.length))
        (s.calls ++ [⟨invitationId, some s.runs.length, none⟩])
      constructor
      · intro k r hrun
        obtain hbefore | ⟨-, rfl⟩ := getElem?_concat_eq_some.mp hrun
        · exact h.ordered k r hbefore
        · exact ⟨nofun, nofun, nofun, nofun⟩
      · intro k r hrun hcalled
        obtain hbefore | ⟨-, rfl⟩ := getElem?_concat_eq_some.mp hrun
        · exact hgrows.transactionQueue (h.called k r hbefore hcalled)
        · exact absurd rfl hcalled
      · intro id k
        dsimp only
        simp only [getElem?_concat_eq_some]
        by_cases hid : id = invitationId
        · subst hid
          rw [Function.update_self, Option.some.injEq]
          constructor
          · rintro rfl
            exact ⟨_, .inr ⟨rfl, rfl⟩, rfl, rfl⟩
          · rintro ⟨r, hbefore | ⟨rfl, -⟩, hid, hdeleted⟩
            · have hfound := (h.running id k).mpr ⟨r, hbefore, hid, hdeleted⟩
              rw [hrunning] at hfound
              cases hfound
            · rfl
        · rw [Function.update_of_ne hid, h.running]
          constructor
          · rintro ⟨r, hrun, hrest⟩
            exact ⟨r, .inl hrun, hrest⟩
          · rintro ⟨r, hbefore | ⟨-, rfl⟩, hsame, hdeleted⟩
            · exact ⟨r, hbefore, hsame, hdeleted⟩
            · exact absurd hsame.symm hid
      · intro c hc
        obtain hbefore | hnew := List.mem_append.mp hc
        · exact hgrows.answers (h.answers c hbefore)
        · obtain rfl := List.mem_singleton.mp hnew
          exact ⟨_, getElem?_concat_eq_some.mpr (.inr ⟨rfl, rfl⟩), rfl, nofun⟩
  · refine ⟨h.ordered, h.called, h.running, fun c hc ↦ ?_⟩
    obtain hbefore | hnew := List.mem_append.mp hc
    · exact h.answers c hbefore
    · obtain rfl := List.mem_singleton.mp hnew
      rfl

theorem grows_delete (s : Operator α) (k : ℕ) : s.Grows (s.delete k) := by
  intro j r hrun
  unfold Operator.delete
  split
  · split
    · refine ⟨if k = j then { r with deleted := true } else r, ?_, ?_⟩
      · change (s.runs.modify k _)[j]? = _
        rw [List.getElem?_modify, hrun]
        split <;> rfl
      · split
        · exact ⟨rfl, id, fun _ ↦ id, fun _ ↦ id, fun _ ↦ id, fun _ ↦ id⟩
        · exact .refl r
    · exact ⟨r, hrun, .refl r⟩
  · exact ⟨r, hrun, .refl r⟩

theorem Sound.delete (h : s.Sound) (k : ℕ) : (s.delete k).Sound := by
  unfold Operator.delete
  split
  · next r hrun =>
    split
    · next hopen =>
      obtain ⟨hoperation, hdeleted⟩ := hopen
      have hmodify : ∀ j (r' : Run α), (s.runs.modify k ({ · with deleted := true }))[j]? = some r' →
          (k = j ∧ r' = { r with deleted := true }) ∨ (k ≠ j ∧ s.runs[j]? = some r') := by
        intro j r' hrun'
        rw [List.getElem?_modify] at hrun'
        by_cases hk : k = j
        · subst hk
          rw [hrun] at hrun'
          simpa [eq_comm] using hrun'
        · simpa [hk] using hrun'
      have hgrows := grows_delete s k
      rw [Operator.delete, hrun] at hgrows
      dsimp only at hgrows
      rw [if_pos ⟨hoperation, hdeleted⟩] at hgrows
      constructor
      · intro j r' hrun'
        obtain ⟨rfl, rfl⟩ | ⟨-, hbefore⟩ := hmodify j r' hrun'
        · have hordered := h.ordered k r hrun
          exact ⟨hordered.operation, hordered.caught, fun _ ↦ hoperation,
            fun o ho ↦ ⟨rfl, (hordered.tracked o ho).2⟩⟩
        · exact h.ordered j r' hbefore
      · intro j r' hrun' hcalled
        apply hgrows.transactionQueue
        obtain ⟨rfl, rfl⟩ | ⟨-, hbefore⟩ := hmodify j r' hrun'
        · exact h.called k r hrun hcalled
        · exact h.called j r' hbefore hcalled
      · intro id j
        dsimp only
        have hheld := (h.running r.invitationId k).mpr ⟨r, hrun, rfl, hdeleted⟩
        by_cases hid : id = r.invitationId
        · subst hid
          rw [Function.update_self]
          refine ⟨nofun, ?_⟩
          rintro ⟨r', hrun', hsame, hnot⟩
          obtain ⟨rfl, rfl⟩ | ⟨hne, hbefore⟩ := hmodify j r' hrun'
          · cases hnot
          · have hother := (h.running r.invitationId j).mpr ⟨r', hbefore, hsame, hnot⟩
            rw [hheld] at hother
            exact absurd (Option.some.inj hother) hne
        · rw [Function.update_of_ne hid, h.running]
          constructor
          · rintro ⟨r', hbefore, hsame, hnot⟩
            have hne : k ≠ j := by
              rintro rfl
              rw [hrun] at hbefore
              exact hid (hsame.symm.trans (congrArg _ (Option.some.inj hbefore).symm))
            refine ⟨r', ?_, hsame, hnot⟩
            rw [List.getElem?_modify, hbefore]
            simp [hne]
          · rintro ⟨r', hrun', hsame, hnot⟩
            obtain ⟨rfl, rfl⟩ | ⟨-, hbefore⟩ := hmodify j r' hrun'
            · cases hnot
            · exact ⟨r', hbefore, hsame, hnot⟩
      · intro c hc
        exact hgrows.answers (h.answers c hc)
    · exact h
  · exact h

theorem Sound.answer (h : s.Sound) (j : ℕ) :
    Sound { s with calls := s.calls.modify j (Call.settle s.runs) } := by
  refine ⟨h.ordered, h.called, h.running, fun c hc ↦ ?_⟩
  obtain ⟨i, hi⟩ := List.mem_iff_getElem?.mp hc
  rw [List.getElem?_modify] at hi
  obtain ⟨before, hbefore, rfl⟩ := Option.map_eq_some_iff.mp hi
  have hanswers := h.answers before (List.mem_of_getElem? hbefore)
  split
  · unfold Call.settle
    split
    · next r hrun hpending =>
      obtain ⟨invitationId, run, outcome⟩ := before
      obtain ⟨k, hk, hrun⟩ := Option.bind_eq_some_iff.mp hrun
      obtain rfl : run = some k := hk
      obtain ⟨r', hrun', hid, -⟩ := hanswers
      obtain rfl := Option.some.inj (hrun.symm.trans hrun')
      exact ⟨r, hrun, hid, fun _ ↦ id⟩
    · exact hanswers
  · exact hanswers

theorem Sound.step (h : s.Sound) (enabled : Bool) (a : Action α) : (s.step enabled a).Sound := by
  cases a with
  | process invitationId => exact h.process enabled invitationId
  | delete k => exact h.delete k
  | answer j => exact h.answer j
  | resume k => exact h
  | start k => exact h.of_moves (moves_modify fun _ ↦ Run.moves_start)
  | finish k outcome => exact h.of_moves (moves_modify fun _ ↦ Run.moves_finish outcome)
  | adopt k => exact h.of_moves (moves_modify fun _ ↦ Run.moves_adopt)
  | recover k => exact h.of_moves (moves_modify fun _ ↦ Run.moves_recover)
  | track k => exact h.of_moves (moves_modify fun _ ↦ Run.moves_track)

/-- `#process` of the run was called. -/
def Called (s : Operator α) (k : ℕ) : Prop := ∃ r, s.runs[k]? = some r ∧ r.body ≠ .uncalled

theorem Grows.called (h : s.Grows s') (hcalled : s.Called k) : s'.Called k := by
  obtain ⟨r, hrun, hbody⟩ := hcalled
  obtain ⟨r', hrun', hgrows⟩ := h k r hrun
  exact ⟨r', hrun', hgrows.called hbody⟩

theorem Grows.ended (h : s.Grows s') {outcome : Except Failure α} (hended : s.Ended k outcome) :
    s'.Ended k outcome := by
  obtain ⟨r, hrun, hbody⟩ := hended
  obtain ⟨r', hrun', hgrows⟩ := h k r hrun
  exact ⟨r', hrun', hgrows.ended outcome hbody⟩

end Operator

end CreatorFirst.Enrollment
