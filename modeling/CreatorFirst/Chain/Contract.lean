import Mathlib.Logic.Relation
import Mathlib.Data.List.Infix

/-!
# Contracts, transactions and committed history

A contract is given by the effect of one call on its storage. A call either finishes or, after its
own writes, hands control to code outside the model and is resumed when that code returns. Outside
code may call back any operation of the contract, any number of times and nested to any depth; a
call that reverts leaves the storage as it was, together with everything that was called inside it.

A world is the storage with the current block and the journal of the calls that took effect, newest
first. Runs are sequences of transactions whose block times do not decrease. Since reverted calls
disappear, every run is a sequence of small steps (a later block, one call taking effect, one
outside call returning), and properties of runs are proved by induction over these.
-/

namespace CreatorFirst.Chain

open Relation

/-- What each step of a run preserves, given the run up to it, holds at the end of the run. -/
theorem run_invariant {α : Type} {r : α → α → Prop} {I : α → Prop} {a b : α}
    (hstep : ∀ x y, ReflTransGen r a x → I x → r x y → I y) (h : ReflTransGen r a b) (ha : I a) :
    I b := by
  induction h with
  | refl => exact ha
  | tail hrun hlast ih => exact hstep _ _ hrun ih hlast

/-- The block context that all calls of one transaction share. -/
structure Block where
  timestamp : ℕ
  chainId : ℕ
  deriving DecidableEq, Repr

/-- A call finishes, or leaves its storage and waits for an outside call described by `frame`. -/
inductive Outcome (σ κ : Type) where
  | done (state : σ)
  | callout (state : σ) (frame : κ)

/-- One contract: the effect of a call, and what runs once its outside call has returned. -/
structure Contract (μ ο σ κ ε : Type) where
  call : Block → μ → ο → σ → Except ε (Outcome σ κ)
  resume : Block → κ → Bool → σ → Except ε σ

/-- Calls made one after the other. Each carries what the outside code does if it is reached: the
calls it makes in turn and whether it succeeds. -/
inductive Calls (μ ο : Type) where
  | nil
  | cons (msg : μ) (op : ο) (inner : Calls μ ο) (success : Bool) (rest : Calls μ ο)

/-- A call that took effect, with the storage it found. -/
structure Entry (μ ο σ κ : Type) where
  block : Block
  msg : μ
  op : ο
  before : σ
  callout : Option κ

structure World (μ ο σ κ : Type) where
  block : Block
  state : σ
  journal : List (Entry μ ο σ κ)

structure Transaction (μ ο : Type) where
  block : Block
  msg : μ
  op : ο
  inner : Calls μ ο := .nil
  success : Bool := true

variable {μ ο σ κ ε : Type}

namespace World

/-- Take over the storage a call leaves and note the call. -/
def log (w : World μ ο σ κ) (msg : μ) (op : ο) : Outcome σ κ → World μ ο σ κ
  | .done s => ⟨w.block, s, ⟨w.block, msg, op, w.state, none⟩ :: w.journal⟩
  | .callout s frame => ⟨w.block, s, ⟨w.block, msg, op, w.state, some frame⟩ :: w.journal⟩

@[simp]
theorem log_block (w : World μ ο σ κ) (msg : μ) (op : ο) (o : Outcome σ κ) :
    (w.log msg op o).block = w.block := by
  cases o <;> rfl

end World

namespace Outcome

def state : Outcome σ κ → σ
  | .done s => s
  | .callout s _ => s

def frame? : Outcome σ κ → Option κ
  | .done _ => none
  | .callout _ frame => some frame

theorem exists_callout {r : Except ε (Outcome σ κ)} (h : (r.toOption.bind frame?).isSome) :
    ∃ s frame, r = .ok (.callout s frame) := by
  cases r with
  | error e => cases h
  | ok o =>
    cases o with
    | done s => cases h
    | callout s frame => exact ⟨s, frame, rfl⟩

end Outcome

theorem World.log_eq (w : World μ ο σ κ) (msg : μ) (op : ο) (o : Outcome σ κ) :
    w.log msg op o =
      ⟨w.block, o.state, ⟨w.block, msg, op, w.state, o.frame?⟩ :: w.journal⟩ := by
  cases o <;> rfl

namespace Contract

variable (C : Contract μ ο σ κ ε)

/-- The outside call described by `frame` returns. -/
def returnFrom (frame : κ) (success : Bool) (w : World μ ο σ κ) : Except ε (World μ ο σ κ) :=
  match C.resume w.block frame success w.state with
  | .error e => .error e
  | .ok s => .ok { w with state := s }

/-- One call; `inner` is the effect of the calls the outside code makes before it returns. -/
def attemptWith (msg : μ) (op : ο) (inner : World μ ο σ κ → World μ ο σ κ) (success : Bool)
    (w : World μ ο σ κ) : Except ε (World μ ο σ κ) :=
  match C.call w.block msg op w.state with
  | .error e => .error e
  | .ok (.done s) => .ok (w.log msg op (.done s))
  | .ok (.callout s frame) => C.returnFrom frame success (inner (w.log msg op (.callout s frame)))

/-- The effect of a sequence of calls; a call that reverts has none. -/
def runCalls : Calls μ ο → World μ ο σ κ → World μ ο σ κ
  | .nil, w => w
  | .cons msg op inner success rest, w =>
    runCalls rest
      (match C.attemptWith msg op (fun v ↦ runCalls inner v) success w with
        | .error _ => w
        | .ok w' => w')

/-- A call with everything the outside code does inside it. -/
def attempt (msg : μ) (op : ο) (inner : Calls μ ο) (success : Bool) (w : World μ ο σ κ) :
    Except ε (World μ ο σ κ) :=
  C.attemptWith msg op (C.runCalls inner) success w

/-- A transaction opens its block and makes one call. -/
def transact (tx : Transaction μ ο) (w : World μ ο σ κ) : World μ ο σ κ :=
  match C.attempt tx.msg tx.op tx.inner tx.success { w with block := tx.block } with
  | .error _ => { w with block := tx.block }
  | .ok w' => w'

def run (txs : List (Transaction μ ο)) (w : World μ ο σ κ) : World μ ο σ κ :=
  txs.foldl (fun v tx ↦ C.transact tx v) w

/-- One transaction at a block time that is not earlier than the current one. -/
def Step (w w' : World μ ο σ κ) : Prop :=
  ∃ tx : Transaction μ ο, w.block.timestamp ≤ tx.block.timestamp ∧ w' = C.transact tx w

/-- Worlds connected by some sequence of transactions. -/
abbrev Reaches : World μ ο σ κ → World μ ο σ κ → Prop := ReflTransGen C.Step

/-- Block times of a list of transactions do not decrease, starting from `start`. -/
def Chronological (start : ℕ) : List (Transaction μ ο) → Prop
  | [] => True
  | tx :: rest => start ≤ tx.block.timestamp ∧ Chronological tx.block.timestamp rest

instance decidableChronological :
    (start : ℕ) → (txs : List (Transaction μ ο)) → Decidable (Chronological start txs)
  | _, [] => .isTrue trivial
  | start, tx :: rest =>
    have := decidableChronological tx.block.timestamp rest
    inferInstanceAs (Decidable (start ≤ tx.block.timestamp ∧ _))

/-- The small steps that every run consists of. -/
inductive Micro : World μ ο σ κ → World μ ο σ κ → Prop
  | tick (w : World μ ο σ κ) (b : Block) (h : w.block.timestamp ≤ b.timestamp) :
      Micro w { w with block := b }
  | call (w : World μ ο σ κ) (msg : μ) (op : ο) (o : Outcome σ κ)
      (h : C.call w.block msg op w.state = .ok o) : Micro w (w.log msg op o)
  | resume (w : World μ ο σ κ) (frame : κ) (success : Bool) (s : σ)
      (h : C.resume w.block frame success w.state = .ok s) : Micro w { w with state := s }

variable {C}

theorem returnFrom_eq_ok {frame : κ} {success : Bool} {w w' : World μ ο σ κ} :
    C.returnFrom frame success w = .ok w' ↔
      ∃ s, C.resume w.block frame success w.state = .ok s ∧ w' = { w with state := s } := by
  unfold returnFrom
  split
  · next h => simp [h]
  · next h => simp [h, eq_comm]

/-- A successful call finished at once, or handed over and was resumed. -/
theorem attemptWith_cases {msg : μ} {op : ο} {inner : World μ ο σ κ → World μ ο σ κ}
    {success : Bool} {w w' : World μ ο σ κ} (h : C.attemptWith msg op inner success w = .ok w') :
    (∃ s, C.call w.block msg op w.state = .ok (.done s) ∧ w' = w.log msg op (.done s)) ∨
    (∃ s frame s', C.call w.block msg op w.state = .ok (.callout s frame) ∧
      C.resume (inner (w.log msg op (.callout s frame))).block frame success
        (inner (w.log msg op (.callout s frame))).state = .ok s' ∧
      w' = { inner (w.log msg op (.callout s frame)) with state := s' }) := by
  unfold attemptWith at h
  split at h
  · cases h
  · next s hcall =>
    cases h
    exact .inl ⟨s, hcall, rfl⟩
  · next s frame hcall =>
    obtain ⟨s', hresume, rfl⟩ := returnFrom_eq_ok.mp h
    exact .inr ⟨s, frame, s', hcall, hresume, rfl⟩

/-! ## Blocks never change inside a transaction -/

theorem attemptWith_block {msg : μ} {op : ο} {inner : World μ ο σ κ → World μ ο σ κ}
    {success : Bool} {w w' : World μ ο σ κ} (hinner : ∀ v, (inner v).block = v.block)
    (h : C.attemptWith msg op inner success w = .ok w') : w'.block = w.block := by
  obtain ⟨s, -, rfl⟩ | ⟨s, frame, s', -, -, rfl⟩ := attemptWith_cases h
  · exact w.log_block msg op _
  · exact (hinner _).trans (w.log_block msg op _)

theorem runCalls_block (cs : Calls μ ο) (w : World μ ο σ κ) :
    (C.runCalls cs w).block = w.block := by
  induction cs generalizing w with
  | nil => rfl
  | cons msg op inner success rest ihInner ihRest =>
    rw [runCalls, ihRest]
    split
    · rfl
    · next h => exact attemptWith_block ihInner h

theorem transact_block (tx : Transaction μ ο) (w : World μ ο σ κ) :
    (C.transact tx w).block = tx.block := by
  unfold transact
  split
  · rfl
  · next h => exact attemptWith_block (runCalls_block tx.inner) h

/-! ## Runs consist of small steps -/

theorem attemptWith_micro {msg : μ} {op : ο} {inner : World μ ο σ κ → World μ ο σ κ}
    {success : Bool} {w w' : World μ ο σ κ}
    (hinner : ∀ v, ReflTransGen C.Micro v (inner v))
    (h : C.attemptWith msg op inner success w = .ok w') : ReflTransGen C.Micro w w' := by
  obtain ⟨s, hcall, rfl⟩ | ⟨s, frame, s', hcall, hresume, rfl⟩ := attemptWith_cases h
  · exact .single (.call w msg op _ hcall)
  · exact ((ReflTransGen.single (.call w msg op _ hcall)).trans (hinner _)).tail
      (.resume _ frame success s' hresume)

theorem runCalls_micro (cs : Calls μ ο) (w : World μ ο σ κ) :
    ReflTransGen C.Micro w (C.runCalls cs w) := by
  induction cs generalizing w with
  | nil => exact .refl
  | cons msg op inner success rest ihInner ihRest =>
    rw [runCalls]
    refine ReflTransGen.trans ?_ (ihRest _)
    split
    · exact .refl
    · next h => exact attemptWith_micro ihInner h

theorem attempt_micro {msg : μ} {op : ο} {inner : Calls μ ο} {success : Bool}
    {w w' : World μ ο σ κ} (h : C.attempt msg op inner success w = .ok w') :
    ReflTransGen C.Micro w w' :=
  attemptWith_micro (runCalls_micro inner) h

theorem Step.micro {w w' : World μ ο σ κ} (h : C.Step w w') : ReflTransGen C.Micro w w' := by
  obtain ⟨tx, htime, rfl⟩ := h
  refine ReflTransGen.head (.tick w tx.block htime) ?_
  unfold transact
  split
  · exact .refl
  · next h => exact attempt_micro h

theorem Reaches.micro {w w' : World μ ο σ κ} (h : C.Reaches w w') :
    ReflTransGen C.Micro w w' := by
  induction h with
  | refl => exact .refl
  | tail _ hstep ih => exact ih.trans (Step.micro hstep)

/-! ## Induction rules -/

/-- A property that every small step preserves holds in every world a run reaches. -/
theorem Reaches.invariant {I : World μ ο σ κ → Prop} {w w' : World μ ο σ κ}
    (hstep : ∀ v v', I v → C.Micro v v' → I v') (hI : I w) (h : C.Reaches w w') : I w' :=
  run_invariant (fun v v' _ ↦ hstep v v') h.micro hI

/-- A reflexive and transitive relation that every small step from a world with `I` satisfies
relates the two ends of every run. -/
theorem Reaches.relation {I : World μ ο σ κ → Prop} {Q : World μ ο σ κ → World μ ο σ κ → Prop}
    {w w' : World μ ο σ κ} (hrefl : ∀ v, Q v v) (htrans : ∀ u v x, Q u v → Q v x → Q u x)
    (hstep : ∀ v v', I v → C.Micro v v' → I v' ∧ Q v v') (hI : I w) (h : C.Reaches w w') :
    Q w w' := by
  suffices I w' ∧ Q w w' from this.2
  refine run_invariant (I := fun v ↦ I v ∧ Q w v) (fun v v' _ hv hlast ↦ ?_) h.micro ⟨hI, hrefl _⟩
  obtain ⟨hI', hQ⟩ := hstep _ _ hv.1 hlast
  exact ⟨hI', htrans _ _ _ hv.2 hQ⟩

/-- History is only ever extended. -/
theorem Micro.journal_suffix {w w' : World μ ο σ κ} (h : C.Micro w w') :
    w.journal <:+ w'.journal := by
  cases h with
  | tick => exact List.suffix_rfl
  | call msg op o h =>
    rw [World.log_eq]
    exact List.suffix_cons _ _
  | resume => exact List.suffix_rfl

theorem micro_journal_suffix {w w' : World μ ο σ κ} (h : ReflTransGen C.Micro w w') :
    w.journal <:+ w'.journal :=
  run_invariant (I := fun v ↦ w.journal <:+ v.journal)
    (fun _ _ _ hv hm ↦ hv.trans hm.journal_suffix) h List.suffix_rfl

/-! ## History -/

/-- Between `u` and `w` the call noted as `e` took effect with the outcome `o`, when `earlier` was
the journal. -/
structure Occurs (C : Contract μ ο σ κ ε) (u w : World μ ο σ κ) (e : Entry μ ο σ κ)
    (o : Outcome σ κ) (earlier : List (Entry μ ο σ κ)) : Prop where
  reached : ReflTransGen C.Micro u ⟨e.block, e.before, earlier⟩
  called : C.call e.block e.msg e.op e.before = .ok o
  callout_eq : e.callout = o.frame?
  continued : ReflTransGen C.Micro ⟨e.block, o.state, e :: earlier⟩ w

theorem Occurs.tail {u w w' : World μ ο σ κ} {e : Entry μ ο σ κ} {o : Outcome σ κ}
    {earlier : List (Entry μ ο σ κ)} (h : Occurs C u w e o earlier) (hm : C.Micro w w') :
    Occurs C u w' e o earlier :=
  { h with continued := h.continued.tail hm }

/-- A call that takes effect occurs. -/
theorem occurs_call {u w : World μ ο σ κ} (h : ReflTransGen C.Micro u w) {msg : μ} {op : ο}
    {o : Outcome σ κ} (ho : C.call w.block msg op w.state = .ok o) :
    Occurs C u (w.log msg op o) ⟨w.block, msg, op, w.state, o.frame?⟩ o w.journal where
  reached := h
  called := ho
  callout_eq := rfl
  continued := by rw [World.log_eq]

/-- Every entry of the journal occurred, after the entries behind it. -/
theorem exists_occurs_of_suffix {u w : World μ ο σ κ} (h : ReflTransGen C.Micro u w)
    (hu : u.journal = []) {e : Entry μ ο σ κ} {earlier : List (Entry μ ο σ κ)}
    (he : e :: earlier <:+ w.journal) : ∃ o, Occurs C u w e o earlier := by
  induction h with
  | refl =>
    rw [hu, List.suffix_nil] at he
    cases he
  | tail hrun hm ih =>
    cases hm with
    | tick b hb =>
      obtain ⟨o, hocc⟩ := ih he
      exact ⟨o, hocc.tail (.tick _ b hb)⟩
    | resume frame success s hs =>
      obtain ⟨o, hocc⟩ := ih he
      exact ⟨o, hocc.tail (.resume _ frame success s hs)⟩
    | call msg op o ho =>
      rw [World.log_eq] at he
      obtain heq | he := List.suffix_cons_iff.mp he
      · obtain ⟨rfl, rfl⟩ := List.cons.inj heq
        exact ⟨o, occurs_call hrun ho⟩
      · obtain ⟨o', hocc⟩ := ih he
        exact ⟨o', hocc.tail (.call _ msg op o ho)⟩

/-- What holds in the end but did not in the beginning was brought about by a call. -/
theorem exists_occurs_of_flip {K : σ → Prop} {u w : World μ ο σ κ}
    (hresume : ∀ b frame success s s', C.resume b frame success s = .ok s' → K s' → K s)
    (h : ReflTransGen C.Micro u w) (hu : ¬ K u.state) (hw : K w.state) :
    ∃ e o earlier, Occurs C u w e o earlier ∧ ¬ K e.before ∧ K o.state := by
  induction h with
  | refl => exact absurd hw hu
  | @tail v _ hrun hm ih =>
    by_cases hv : K v.state
    · obtain ⟨e, o, earlier, hocc, hflip⟩ := ih hv
      exact ⟨e, o, earlier, hocc.tail hm, hflip⟩
    · cases hm with
      | tick => exact absurd hw hv
      | resume frame success s hs => exact absurd (hresume _ _ _ _ _ hs hw) hv
      | call msg op o ho =>
        rw [World.log_eq] at hw
        exact ⟨_, o, _, occurs_call hrun ho, hv, hw⟩

/-- Executing a chronological list of transactions is a run. -/
theorem reaches_run {txs : List (Transaction μ ο)} {w : World μ ο σ κ}
    (h : Chronological w.block.timestamp txs) : C.Reaches w (C.run txs w) := by
  induction txs generalizing w with
  | nil => exact .refl
  | cons tx rest ih =>
    refine ReflTransGen.head ⟨tx, h.1, rfl⟩ (ih ?_)
    rw [transact_block]
    exact h.2

theorem attempt_error_of_call {msg : μ} {op : ο} {inner : Calls μ ο} {success : Bool}
    {w : World μ ο σ κ} (h : ∀ o, C.call w.block msg op w.state ≠ .ok o) :
    ∃ e, C.attempt msg op inner success w = .error e := by
  unfold attempt attemptWith
  split
  · next e _ => exact ⟨e, rfl⟩
  · next hok => exact absurd hok (h _)
  · next hok => exact absurd hok (h _)

/-- A call whose outside call is not accepted reverts with everything that happened inside. -/
theorem attempt_error_of_resume {msg : μ} {op : ο} {inner : Calls μ ο} {success : Bool}
    {w : World μ ο σ κ} {s : σ} {frame : κ}
    (hcall : C.call w.block msg op w.state = .ok (.callout s frame))
    (hresume : ∀ b s s', C.resume b frame success s ≠ .ok s') :
    ∃ e, C.attempt msg op inner success w = .error e := by
  unfold attempt attemptWith returnFrom
  rw [hcall]
  dsimp only
  split
  · next e _ => exact ⟨e, rfl⟩
  · next hok => exact absurd hok (hresume _ _ _)

/-- A call that reverts changes nothing but the block. -/
theorem transact_of_error {tx : Transaction μ ο} {w : World μ ο σ κ} {e : ε}
    (h : C.attempt tx.msg tx.op tx.inner tx.success { w with block := tx.block } = .error e) :
    C.transact tx w = { w with block := tx.block } := by
  simp [transact, h]

theorem runCalls_cons_of_error {msg : μ} {op : ο} {inner rest : Calls μ ο} {success : Bool}
    {w : World μ ο σ κ} {e : ε} (h : C.attempt msg op inner success w = .error e) :
    C.runCalls (.cons msg op inner success rest) w = C.runCalls rest w := by
  have h' : C.attemptWith msg op (fun v ↦ C.runCalls inner v) success w = .error e := h
  rw [runCalls, h']

/-- A transaction of a contract that calls nobody is one call. -/
theorem transact_of_isEmpty [IsEmpty κ] (tx : Transaction μ ο) (w : World μ ο σ κ) :
    C.transact tx w = match C.call tx.block tx.msg tx.op w.state with
      | .error _ => { w with block := tx.block }
      | .ok o => World.log { w with block := tx.block } tx.msg tx.op o := by
  unfold transact attempt attemptWith
  dsimp only
  cases C.call tx.block tx.msg tx.op w.state with
  | error e => rfl
  | ok o =>
    cases o with
    | done s => rfl
    | callout s frame => exact isEmptyElim frame

theorem run_concat (txs : List (Transaction μ ο)) (tx : Transaction μ ο) (w : World μ ο σ κ) :
    C.run (txs ++ [tx]) w = C.transact tx (C.run txs w) := by
  rw [run, List.foldl_append]
  rfl

/-! ## Open calls

Small steps forget which calls are open. What depends on that, such as a write that a contract makes
once its outside call has returned, is followed through the moments of a run: a world together with
the frames of the open calls, innermost first. -/

structure Moment (μ ο σ κ : Type) where
  world : World μ ο σ κ
  opened : List κ

variable (C) in
/-- From one moment to the next: a later block between transactions, a call that finishes at once, a
call that opens, or the innermost open call that returns. -/
inductive Next : Moment μ ο σ κ → Moment μ ο σ κ → Prop
  | tick (w : World μ ο σ κ) (b : Block) (h : w.block.timestamp ≤ b.timestamp) :
      Next ⟨w, []⟩ ⟨{ w with block := b }, []⟩
  | finish (w : World μ ο σ κ) (opened : List κ) (msg : μ) (op : ο) (s : σ)
      (h : C.call w.block msg op w.state = .ok (.done s)) :
      Next ⟨w, opened⟩ ⟨w.log msg op (.done s), opened⟩
  | enter (w : World μ ο σ κ) (opened : List κ) (msg : μ) (op : ο) (s : σ) (frame : κ)
      (h : C.call w.block msg op w.state = .ok (.callout s frame)) :
      Next ⟨w, opened⟩ ⟨w.log msg op (.callout s frame), frame :: opened⟩
  | leave (w : World μ ο σ κ) (opened : List κ) (frame : κ) (success : Bool) (s : σ)
      (h : C.resume w.block frame success w.state = .ok s) :
      Next ⟨w, frame :: opened⟩ ⟨{ w with state := s }, opened⟩

theorem attemptWith_next {msg : μ} {op : ο} {inner : World μ ο σ κ → World μ ο σ κ}
    {success : Bool} {w w' : World μ ο σ κ} {opened : List κ}
    (hinner : ∀ v opened, ReflTransGen C.Next ⟨v, opened⟩ ⟨inner v, opened⟩)
    (h : C.attemptWith msg op inner success w = .ok w') :
    ReflTransGen C.Next ⟨w, opened⟩ ⟨w', opened⟩ := by
  obtain ⟨s, hcall, rfl⟩ | ⟨s, frame, s', hcall, hresume, rfl⟩ := attemptWith_cases h
  · exact .single (.finish w opened msg op s hcall)
  · apply ReflTransGen.tail _ (.leave _ opened frame success s' hresume)
    exact .head (.enter w opened msg op s frame hcall) (hinner _ _)

theorem runCalls_next (cs : Calls μ ο) (w : World μ ο σ κ) (opened : List κ) :
    ReflTransGen C.Next ⟨w, opened⟩ ⟨C.runCalls cs w, opened⟩ := by
  induction cs generalizing w opened with
  | nil => exact .refl
  | cons msg op inner success rest ihInner ihRest =>
    rw [runCalls]
    apply ReflTransGen.trans _ (ihRest _ _)
    split
    · exact .refl
    · next h => exact attemptWith_next ihInner h

theorem Reaches.next {w w' : World μ ο σ κ} (h : C.Reaches w w') :
    ReflTransGen C.Next ⟨w, []⟩ ⟨w', []⟩ := by
  induction h with
  | refl => exact .refl
  | tail _ hstep ih =>
    obtain ⟨tx, htime, rfl⟩ := hstep
    apply ReflTransGen.trans ih
    apply ReflTransGen.head (.tick _ tx.block htime)
    unfold transact
    split
    · exact .refl
    · next h => exact attemptWith_next (runCalls_next tx.inner) h

/-- History is only ever extended. -/
theorem next_journal_suffix {m m' : Moment μ ο σ κ} (h : ReflTransGen C.Next m m') :
    m.world.journal <:+ m'.world.journal := by
  apply run_invariant (I := fun v ↦ m.world.journal <:+ v.world.journal) _ h List.suffix_rfl
  intro v v' _ hv hm
  cases hm with
  | tick | leave => exact hv
  | finish | enter => exact hv.trans (List.suffix_cons _ _)

end Contract

end CreatorFirst.Chain
