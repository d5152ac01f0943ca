import CreatorFirst.Governor.Steps
import CreatorFirst.Sortition.Effects

/-!
# Small steps of the two contracts

Every run consists of four kinds of small steps. Seen from the governor alone each of them is
nothing or a small step of the governor, so what holds in all runs of the governor holds here.
-/

namespace CreatorFirst.Sortition

open Chain Relation

variable {P : Primitives} {d : Deployment}

/-- The small steps: time passes, a call of the governor or of the sortition takes effect, or an
outside call of the governor returns. -/
inductive Small (P : Primitives) (d : Deployment) (w : SystemWorld) : SystemWorld → Prop
  | tick (b : Block) (h : w.block.timestamp ≤ b.timestamp) : Small P d w { w with block := b }
  | governor (msg : Msg) (op : Governor.Op) (o : Outcome Governor.State Governor.TargetCall)
      (hsender : msg.sender ≠ d.self)
      (h : Governor.call P d.governor w.block msg op w.state.governor = .ok o) :
      Small P d w ⟨w.block, ⟨o.state, w.state.sortition⟩,
        ⟨w.block, msg, .governor op, w.state, o.frame?⟩ :: w.journal⟩
  | sortition (msg : Msg) (op : SortitionOp) (s : System) (hsender : msg.sender ≠ d.self)
      (h : Effect P d w.block msg.sender w.state op s) :
      Small P d w ⟨w.block, s, ⟨w.block, msg, .sortition op, w.state, none⟩ :: w.journal⟩
  | resume (success : Bool) (governor : Governor.State)
      (h : Governor.afterTargetCall success w.state.governor = .ok governor) :
      Small P d w { w with state := ⟨governor, w.state.sortition⟩ }

theorem micro_small {w w' : SystemWorld} (h : (contract P d).Micro w w') : Small P d w w' := by
  cases h with
  | tick b hb => exact .tick b hb
  | call msg op o ho =>
    cases op with
    | governor op =>
      obtain ⟨hsender, ho⟩ := revertIf_bind_eq_ok.mp ho
      obtain ⟨o', ho', ho⟩ := bind_eq_ok.mp ho
      obtain rfl := pure_eq_ok.mp ho
      have hsmall := Small.governor msg op o' hsender (mapError_eq_ok.mp ho')
      cases o' with
      | done g => exact hsmall
      | callout g frame => exact hsmall
    | sortition op =>
      obtain ⟨hsender, ho⟩ := revertIf_bind_eq_ok.mp ho
      obtain ⟨-, ho⟩ := revertIf_bind_eq_ok.mp ho
      obtain ⟨s, hs, ho⟩ := bind_eq_ok.mp ho
      obtain rfl := pure_eq_ok.mp ho
      exact .sortition msg op s hsender (SortitionOp.effect hs)
  | resume frame success s hs =>
    obtain ⟨governor, hgovernor, hs⟩ := bind_eq_ok.mp hs
    obtain rfl := pure_eq_ok.mp hs
    exact .resume success governor (mapError_eq_ok.mp hgovernor)

/-- A property of the fresh deployment that every small step from an observable world preserves holds
throughout all runs. -/
theorem Observable.invariant {I : SystemWorld → Prop} (hgenesis : ∀ b, I (genesis P d b))
    (hstep : ∀ w w', Observable P d w → I w → Small P d w w' → I w') {w : SystemWorld}
    (h : Observable P d w) : I w := by
  obtain ⟨b, hb⟩ := h
  apply run_invariant _ hb (hgenesis b)
  intro v v' hrun hv hm
  exact hstep v v' ⟨b, hrun⟩ hv (micro_small hm)

/-- What a small step does to the sortition: nothing, or the effect of one noted call. -/
theorem Small.sortition_change {w w' : SystemWorld} (h : Small P d w w') :
    w'.state.sortition = w.state.sortition ∨
    ∃ msg op, Effect P d w.block msg.sender w.state op w'.state ∧ w'.block = w.block ∧
      w'.journal = ⟨w.block, msg, .sortition op, w.state, none⟩ :: w.journal := by
  cases h with
  | tick | governor | resume => exact .inl rfl
  | sortition msg op s _ heff => exact .inr ⟨msg, op, heff, rfl, rfl⟩

theorem Small.timestamp_le {w w' : SystemWorld} (h : Small P d w w') :
    w.block.timestamp ≤ w'.block.timestamp := by
  cases h with
  | tick b hb => exact hb
  | governor | sortition | resume => exact le_rfl

theorem Small.journal_suffix {w w' : SystemWorld} (h : Small P d w w') :
    w.journal <:+ w'.journal := by
  cases h with
  | tick | resume => exact List.suffix_rfl
  | governor | sortition => exact List.suffix_cons _ _

theorem Small.journal_subset {w w' : SystemWorld} (h : Small P d w w') :
    w.journal ⊆ w'.journal :=
  h.journal_suffix.subset

/-- A property of the sortition's storage that every operation preserves holds in all runs. -/
theorem Observable.storage {I : State → Prop} (hinitial : I (initialState P d))
    (heffect : ∀ b sender op s s', I s.sortition → Effect P d b sender s op s' → I s'.sortition)
    {w : SystemWorld} (h : Observable P d w) : I w.state.sortition := by
  refine h.invariant (I := fun w ↦ I w.state.sortition) (fun _ ↦ hinitial) fun w w' _ hw hs ↦ ?_
  obtain hsame | ⟨msg, op, heff, -, -⟩ := hs.sortition_change
  · rwa [hsame]
  · exact heffect _ _ _ _ _ hw heff

/-! ## The governor's side -/

/-- What the governor notes about a call of either contract. -/
def governorEntry (d : Deployment) (e : SystemEntry) : Option Governor.GovernorEntry :=
  match e.op with
  | .governor op => some ⟨e.block, e.msg, op, e.before.governor, e.callout⟩
  | .sortition (.claimSeat c) =>
    some ⟨e.block, ⟨d.self, 0⟩,
      .plain (.registerMember c.sessionId c.votingWallet (houseOf c.house)), e.before.governor, none⟩
  | .sortition _ => none

def governorWorld (d : Deployment) (w : SystemWorld) : Governor.GovernorWorld :=
  ⟨w.block, w.state.governor, w.journal.filterMap (governorEntry d)⟩

/-- Seen from the governor, a small step is nothing or a small step of its own. -/
theorem Small.governor_micro {w w' : SystemWorld} (h : Small P d w w') :
    ReflTransGen (Governor.contract P d.governor).Micro (governorWorld d w)
      (governorWorld d w') := by
  cases h with
  | tick b hb => exact .single (.tick (governorWorld d w) b hb)
  | governor msg op o _ ho =>
    have hcall := Contract.Micro.call (C := Governor.contract P d.governor) (governorWorld d w)
      msg op o ho
    rw [World.log_eq] at hcall
    exact .single hcall
  | sortition msg op s _ heff =>
    cases heff with
    | claimSeat c candidateIndex governor hclaims =>
      have ho : (Governor.contract P d.governor).call w.block ⟨d.self, 0⟩
          (.plain (.registerMember c.sessionId c.votingWallet (houseOf c.house)))
          w.state.governor = .ok (.done governor) := by
        refine revertIf_bind_eq_ok.mpr ⟨by simp, bind_eq_ok.mpr ⟨governor, ?_, rfl⟩⟩
        exact hclaims.registered
      exact .single (Contract.Micro.call (C := Governor.contract P d.governor) (governorWorld d w)
        ⟨d.self, 0⟩ _ _ ho)
    | _ => exact .refl
  | resume success governor hresume =>
    exact .single (Contract.Micro.resume (C := Governor.contract P d.governor)
      (governorWorld d w) ⟨0, 0, 0, []⟩ success governor hresume)

/-- Every run of the two contracts is, for the governor, a run of the governor. -/
theorem Observable.governor {w : SystemWorld} (h : Observable P d w) :
    Governor.Observable P d.governor (governorWorld d w) := by
  obtain ⟨b, hb⟩ := h
  refine ⟨b, ?_⟩
  induction hb with
  | refl => exact .refl
  | tail _ hm ih => exact ih.trans (micro_small hm).governor_micro

end CreatorFirst.Sortition
