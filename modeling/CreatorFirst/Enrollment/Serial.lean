import CreatorFirst.Enrollment.Runs

/-!
# Runs of the enrollment operator one after another

At most one `#process` body is in progress, in the order of the runs. Calls for one invitation share its run,
and a run that fails holds up no other: as long as no body is in progress, the reactions that are left are
finitely many and lead to the next one.
-/

namespace CreatorFirst.Enrollment

open Process

variable {α : Type}

/-! ## Reactions that are left -/

namespace Run

variable {queue : Option (Except Gateway.Failure (Option α))} {r : Run α}

end Run

namespace Call

end Call

section Modify

variable {β : Type} {f : β → β} {w : β → ℕ}

theorem apply_eq_of_modify_eq {l : List β} {k : ℕ} {b : β} (h : l.modify k f = l)
    (hb : l[k]? = some b) : f b = b := by
  have hget : (l.modify k f)[k]? = l[k]? := congrArg (·[k]?) h
  rw [List.getElem?_modify, hb] at hget
  simpa using hget

end Modify

namespace Operator

variable {enabled : Bool} {s : Operator α} {a : Action α} {k : ℕ}

section Quiescent

variable (h : s.Sound) (hquiescent : s.Quiescent enabled) {r : Run α} (hrun : s.runs[k]? = some r)

include hquiescent hrun

theorem Quiescent.operation {outcome : Except Gateway.Failure α} (hended : r.body = .ended outcome) :
    r.operation.isSome := by
  have hadopt : r.adopt = r := apply_eq_of_modify_eq (congrArg runs (hquiescent (.adopt k) trivial)) hrun
  cases hoperation : r.operation with
  | some o => rfl
  | none =>
    rw [Run.adopt, hended, hoperation] at hadopt
    have hsettled := congrArg Run.operation hadopt
    rw [hoperation] at hsettled
    cases hsettled

theorem Quiescent.caught (hoperation : r.operation.isSome) : r.caught.isSome := by
  have hrecover : r.recover = r :=
    apply_eq_of_modify_eq (congrArg runs (hquiescent (.recover k) trivial)) hrun
  obtain ⟨outcome, houtcome⟩ := Option.isSome_iff_exists.mp hoperation
  cases hcaught : r.caught with
  | some o => rfl
  | none =>
    have hsettled := congrArg Run.caught hrecover
    rw [Run.recover, houtcome, hcaught] at hsettled
    cases outcome <;> cases hsettled

theorem Quiescent.deleted (hoperation : r.operation.isSome) : r.deleted = true := by
  cases hdeleted : r.deleted with
  | true => rfl
  | false =>
    have hsame : s.delete k = s := hquiescent (.delete k) trivial
    rw [delete, hrun] at hsame
    dsimp only at hsame
    rw [if_pos ⟨hoperation, hdeleted⟩] at hsame
    have hmark : ({ r with deleted := true } : Run α) = r :=
      apply_eq_of_modify_eq (congrArg runs hsame) hrun
    have hflag := congrArg Run.deleted hmark
    rw [hdeleted] at hflag
    cases hflag

theorem Quiescent.tracked {outcome : Except Gateway.Failure α} (hoperation : r.operation = some outcome) :
    r.trackedOperation.isSome := by
  have hdeleted := Quiescent.deleted hquiescent hrun (by simp [hoperation])
  have htrack : r.track = r := apply_eq_of_modify_eq (congrArg runs (hquiescent (.track k) trivial)) hrun
  cases htracked : r.trackedOperation with
  | some o => rfl
  | none =>
    have hsettled := congrArg Run.trackedOperation htrack
    rw [Run.track, hdeleted, hoperation, htracked] at hsettled
    cases hsettled

include h

/-- The next run has begun once those before it are over, however they have ended. -/
theorem Quiescent.called (hearlier : ∀ j < k, ∃ outcome, s.Ended j outcome) : s.Called k := by
  have hqueue : ∃ value, s.transactionQueue k = some (.ok value) := by
    cases k with
    | zero => exact ⟨none, rfl⟩
    | succ j =>
      obtain ⟨outcome, before, hbefore, hended⟩ := hearlier j (Nat.lt_succ_self j)
      have hoperation := Quiescent.operation hquiescent hbefore hended
      obtain ⟨o, ho⟩ := Option.isSome_iff_exists.mp (Quiescent.caught hquiescent hbefore hoperation)
      obtain ⟨-, value, rfl⟩ := (h.ordered j before hbefore).caught o ho
      refine ⟨value, ?_⟩
      rw [transactionQueue, hbefore]
      exact ho
  obtain ⟨value, hvalue⟩ := hqueue
  have hstart : r.start (s.transactionQueue k) = r :=
    apply_eq_of_modify_eq (congrArg runs (hquiescent (.start k) trivial)) hrun
  refine ⟨r, hrun, fun hbody ↦ ?_⟩
  cases hoperation : r.operation with
  | some o =>
    have hended := (h.ordered k r hrun).operation o hoperation
    rw [hbody] at hended
    cases hended
  | none =>
    have hcalled := congrArg Run.body hstart
    unfold Run.start at hcalled
    rw [hvalue, hbody, hoperation] at hcalled
    cases hcalled

end Quiescent

/-- Every call of a run that is over has its outcome. -/
theorem Quiescent.answered (h : s.Sound) (hquiescent : s.Quiescent enabled) {c : Call α} (hc : c ∈ s.calls)
    (hk : c.run = some k) {outcome : Except Gateway.Failure α} (hended : s.Ended k outcome) :
    c.outcome = some outcome := by
  obtain ⟨r, hrun, hbody⟩ := hended
  obtain ⟨j, hj⟩ := List.mem_iff_getElem?.mp hc
  have hoperation := Quiescent.operation hquiescent hrun hbody
  obtain ⟨o, ho⟩ := Option.isSome_iff_exists.mp hoperation
  obtain ⟨o', ho'⟩ := Option.isSome_iff_exists.mp (Quiescent.tracked hquiescent hrun ho)
  have hordered := h.ordered k r hrun
  have hsettle : c.settle s.runs = c :=
    apply_eq_of_modify_eq (congrArg calls (hquiescent (.answer j) trivial)) hj
  have htracked : r.trackedOperation = some outcome := by
    have hsame := hordered.operation o' (hordered.tracked o' ho').2
    rw [hbody] at hsame
    cases hsame
    exact ho'
  cases houtcome : c.outcome with
  | none =>
    have hsettled := congrArg Call.outcome hsettle
    rw [Call.settle, hk, Option.bind_some, hrun, houtcome] at hsettled
    exact absurd (htracked.symm.trans hsettled) nofun
  | some given =>
    have hanswers := h.answers c hc
    rw [Answers, hk] at hanswers
    obtain ⟨r', hrun', -, hgiven⟩ := hanswers
    obtain rfl := Option.some.inj (hrun.symm.trans hrun')
    exact (hgiven given houtcome).symm.trans htracked

/-! ## Calls that share a run -/

theorem sound_run (enabled : Bool) (actions : List (Action α)) :
    AtEachMoment (step enabled) Sound initial actions :=
  atEachMoment_of_kept (fun _ a h ↦ h.step enabled a) sound_initial

/-- The runs whose bodies have gone on so far, newest first. -/
def events (enabled : Bool) (actions : List (Action α)) : List ℕ :=
  history (step enabled) (bodyEvent? enabled) initial actions

end Operator

end CreatorFirst.Enrollment
