import Mathlib.Data.List.Infix
import Mathlib.Data.List.Induction

/-!
# Runs of a step function

A run is a list of actions taken one after the other; its moments are the states after each of its
prefixes. A property that every step keeps or breaks according to a condition on the state before it
and its action holds at every moment exactly when every step meets the condition.
-/

namespace CreatorFirst.Process

variable {σ α : Type} (step : σ → α → σ)

def run (s : σ) (as : List α) : σ := as.foldl step s

@[simp]
theorem run_nil (s : σ) : run step s [] = s := rfl

@[simp]
theorem run_cons (s : σ) (a : α) (as : List α) : run step s (a :: as) = run step (step s a) as := rfl

theorem run_append (s : σ) (as bs : List α) :
    run step s (as ++ bs) = run step (run step s as) bs :=
  List.foldl_append

/-- `R` relates each state of the run to the action taken there. -/
def EachStep (R : σ → α → Prop) : σ → List α → Prop
  | _, [] => True
  | s, a :: as => R s a ∧ EachStep R (step s a) as

/-- `P` holds after every prefix of the run. -/
def AtEachMoment (P : σ → Prop) (s : σ) (as : List α) : Prop :=
  ∀ past, past <+: as → P (run step s past)

variable {step} {P : σ → Prop} {R Q : σ → α → Prop} {s : σ} {a : α} {as : List α}

instance decidableEachStep [∀ s a, Decidable (R s a)] :
    (s : σ) → (as : List α) → Decidable (EachStep step R s as)
  | _, [] => .isTrue trivial
  | s, a :: as =>
    have := decidableEachStep (step s a) as
    inferInstanceAs (Decidable (R s a ∧ EachStep step R (step s a) as))

theorem EachStep.append {bs : List α} :
    EachStep step R s (as ++ bs) ↔ EachStep step R s as ∧ EachStep step R (run step s as) bs := by
  induction as generalizing s with
  | nil => simp [EachStep]
  | cons a as ih => simp [EachStep, ih, and_assoc]

/-- The steps of a run are the last steps of its prefixes. -/
theorem eachStep_iff :
    EachStep step R s as ↔ ∀ past a, past ++ [a] <+: as → R (run step s past) a := by
  constructor
  · rintro h past a ⟨rest, rfl⟩
    exact (EachStep.append.mp (EachStep.append.mp h).1).2.1
  · intro h
    induction as generalizing s with
    | nil => trivial
    | cons a as ih =>
      refine ⟨h [] a (List.cons_prefix_cons.mpr ⟨rfl, List.nil_prefix⟩), ih fun past b hpast ↦ ?_⟩
      exact h (a :: past) b (List.cons_prefix_cons.mpr ⟨rfl, hpast⟩)

theorem EachStep.mono (himp : ∀ s a, R s a → Q s a) (h : EachStep step R s as) :
    EachStep step Q s as := by
  induction as generalizing s with
  | nil => trivial
  | cons a as ih => exact ⟨himp s a h.1, ih h.2⟩

theorem EachStep.and (hR : EachStep step R s as) (hQ : EachStep step Q s as) :
    EachStep step (fun s a ↦ R s a ∧ Q s a) s as := by
  induction as generalizing s with
  | nil => trivial
  | cons a as ih => exact ⟨⟨hR.1, hQ.1⟩, ih hR.2 hQ.2⟩

theorem AtEachMoment.start (h : AtEachMoment step P s as) : P s := h [] List.nil_prefix

theorem AtEachMoment.last (h : AtEachMoment step P s as) : P (run step s as) :=
  h as List.prefix_rfl

theorem atEachMoment_nil : AtEachMoment step P s [] ↔ P s := by
  refine ⟨AtEachMoment.start, fun h past hpast ↦ ?_⟩
  rwa [List.prefix_nil.mp hpast]

theorem atEachMoment_cons :
    AtEachMoment step P s (a :: as) ↔ P s ∧ AtEachMoment step P (step s a) as := by
  constructor
  · intro h
    exact ⟨h.start, fun past hpast ↦ h (a :: past) (List.cons_prefix_cons.mpr ⟨rfl, hpast⟩)⟩
  · rintro ⟨hs, h⟩ past hpast
    cases past with
    | nil => exact hs
    | cons b past =>
      obtain ⟨rfl, hrest⟩ := List.cons_prefix_cons.mp hpast
      exact h past hrest

/-- What holds at first and is kept by the steps that occur holds at every moment. -/
theorem EachStep.keeps (hkeep : ∀ s a, R s a → P s → P (step s a)) (h : EachStep step R s as)
    (hs : P s) : AtEachMoment step P s as := by
  induction as generalizing s with
  | nil => exact atEachMoment_nil.mpr hs
  | cons a as ih => exact atEachMoment_cons.mpr ⟨hs, ih h.2 (hkeep s a h.1 hs)⟩

theorem atEachMoment_of_kept (hkeep : ∀ s a, P s → P (step s a)) (hs : P s) :
    AtEachMoment step P s as := by
  induction as generalizing s with
  | nil => exact atEachMoment_nil.mpr hs
  | cons a as ih => exact atEachMoment_cons.mpr ⟨hs, ih (hkeep s a hs)⟩

/-- Let `I` be kept by every step, and let a step from a state with `P` keep `P` and have `Q` exactly
when it meets `R`. Then a run keeps `P` at every moment and has `Q` at every step exactly when each
of its steps meets `R`. -/
theorem holds_iff_eachStep {I : σ → Prop} (hkeep : ∀ s a, I s → I (step s a))
    (hexact : ∀ s a, I s → P s → ((P (step s a) ∧ Q s a) ↔ R s a)) (hI : I s) (hP : P s) :
    AtEachMoment step P s as ∧ EachStep step Q s as ↔ EachStep step R s as := by
  induction as generalizing s with
  | nil => exact iff_of_true ⟨atEachMoment_nil.mpr hP, trivial⟩ trivial
  | cons a as ih =>
    have hhead := hexact s a hI hP
    rw [atEachMoment_cons, EachStep, EachStep]
    constructor
    · rintro ⟨⟨-, hrest⟩, hQ, hQrest⟩
      have hnext := hrest.start
      exact ⟨hhead.mp ⟨hnext, hQ⟩, (ih (hkeep s a hI) hnext).mp ⟨hrest, hQrest⟩⟩
    · rintro ⟨hR, hRrest⟩
      obtain ⟨hnext, hQ⟩ := hhead.mpr hR
      obtain ⟨hrest, hQrest⟩ := (ih (hkeep s a hI) hnext).mpr hRrest
      exact ⟨⟨hP, hrest⟩, hQ, hQrest⟩

/-- The case of `holds_iff_eachStep` with nothing beside `P`. -/
theorem atEachMoment_iff_eachStep (hexact : ∀ s a, P s → (P (step s a) ↔ R s a)) (hP : P s) :
    AtEachMoment step P s as ↔ EachStep step R s as := by
  induction as generalizing s with
  | nil => exact iff_of_true (atEachMoment_nil.mpr hP) trivial
  | cons a as ih =>
    rw [atEachMoment_cons, EachStep]
    constructor
    · rintro ⟨-, hrest⟩
      exact ⟨(hexact s a hP).mp hrest.start, (ih hrest.start).mp hrest⟩
    · rintro ⟨hR, hRrest⟩
      have hnext := (hexact s a hP).mpr hR
      exact ⟨hP, (ih hnext).mpr hRrest⟩

section Past

variable (step)

/-- Some step of the run is in `R`. -/
def Once (R : σ → α → Prop) (s : σ) (as : List α) : Prop :=
  ∃ past a, past ++ [a] <+: as ∧ R (run step s past) a

variable {step}

theorem not_once_nil : ¬Once step R s [] := by
  rintro ⟨past, a, hpast, -⟩
  simp at hpast

theorem Once.of_isPrefix {past : List α} (h : Once step R s past) (hpast : past <+: as) :
    Once step R s as := by
  obtain ⟨earlier, a, hearlier, hR⟩ := h
  exact ⟨earlier, a, hearlier.trans hpast, hR⟩

theorem Once.append (h : Once step R s as) (bs : List α) : Once step R s (as ++ bs) :=
  h.of_isPrefix (List.prefix_append as bs)

theorem once_concat : Once step R s (as ++ [a]) ↔ Once step R s as ∨ R (run step s as) a := by
  constructor
  · rintro ⟨past, b, hpast, hR⟩
    obtain hlast | hearlier := List.prefix_concat_iff.mp hpast
    · obtain ⟨rfl, hb⟩ := List.append_inj' hlast rfl
      obtain rfl : b = a := by simpa using hb
      exact .inr hR
    · exact .inl ⟨past, b, hearlier, hR⟩
  · rintro (h | hR)
    · exact h.append [a]
    · exact ⟨as, a, List.prefix_rfl, hR⟩

theorem Once.mono (himp : ∀ s a, R s a → Q s a) (h : Once step R s as) : Once step Q s as := by
  obtain ⟨past, a, hpast, hR⟩ := h
  exact ⟨past, a, hpast, himp _ _ hR⟩

theorem EachStep.of_isPrefix {past : List α} (h : EachStep step R s as) (hpast : past <+: as) :
    EachStep step R s past := by
  obtain ⟨rest, rfl⟩ := hpast
  exact (EachStep.append.mp h).1

theorem EachStep.concat :
    EachStep step R s (as ++ [a]) ↔ EachStep step R s as ∧ R (run step s as) a := by
  rw [EachStep.append]
  simp [EachStep]

end Past

section Latest

variable {β : Type} (step)

/-- The latest value that a step of the run gives. -/
def latest (f : σ → α → Option β) : σ → List α → Option β
  | _, [] => none
  | s, a :: as => (latest f (step s a) as).or (f s a)

variable {step} {f : σ → α → Option β}

theorem latest_concat :
    latest step f s (as ++ [a]) = (f (run step s as) a).or (latest step f s as) := by
  induction as generalizing s with
  | nil => simp [latest]
  | cons b as ih =>
    calc
      latest step f s (b :: as ++ [a]) = (latest step f (step s b) (as ++ [a])).or (f s b) := rfl
      _ = ((f (run step (step s b) as) a).or (latest step f (step s b) as)).or (f s b) := by rw [ih]
      _ = (f (run step s (b :: as)) a).or (latest step f s (b :: as)) := Option.or_assoc

theorem once_of_latest {b : β} (h : latest step f s as = some b) :
    Once step (fun s a ↦ f s a = some b) s as := by
  induction as using List.reverseRecOn with
  | nil => cases h
  | append_singleton as a ih =>
    rw [latest_concat, Option.or_eq_some_iff] at h
    rw [once_concat]
    obtain hlast | ⟨-, hearlier⟩ := h
    · exact .inr hlast
    · exact .inl (ih hearlier)

end Latest

section History

variable {β : Type} (step)

/-- The values that the steps of the run give, newest first. -/
def history (f : σ → α → Option β) : σ → List α → List β
  | _, [] => []
  | s, a :: as => history f (step s a) as ++ (f s a).toList

variable {step} {f : σ → α → Option β}

theorem history_concat :
    history step f s (as ++ [a]) = (f (run step s as) a).toList ++ history step f s as := by
  induction as generalizing s with
  | nil => simp [history]
  | cons b as ih =>
    calc
      history step f s (b :: as ++ [a]) = history step f (step s b) (as ++ [a]) ++ (f s b).toList := rfl
      _ = ((f (run step (step s b) as) a).toList ++ history step f (step s b) as) ++ (f s b).toList := by
        rw [ih]
      _ = (f (run step s (b :: as)) a).toList ++ history step f s (b :: as) := List.append_assoc _ _ _

end History

section Count

variable (step)

/-- How many steps of the run are in `R`. -/
def countSteps (R : σ → α → Prop) [∀ s a, Decidable (R s a)] : σ → List α → ℕ
  | _, [] => 0
  | s, a :: as => (if R s a then 1 else 0) + countSteps R (step s a) as

/-- The step turns the flag from `false` to `true`. -/
def Raises (flag : σ → Bool) (s : σ) (a : α) : Prop := flag s = false ∧ flag (step s a) = true

instance (flag : σ → Bool) (s : σ) (a : α) : Decidable (Raises step flag s a) :=
  inferInstanceAs (Decidable (_ ∧ _))

variable {step} [∀ s a, Decidable (R s a)] [∀ s a, Decidable (Q s a)]

theorem countSteps_append (bs : List α) :
    countSteps step R s (as ++ bs) = countSteps step R s as + countSteps step R (run step s as) bs := by
  induction as generalizing s with
  | nil => simp [countSteps]
  | cons a as ih => simp [countSteps, ih, Nat.add_assoc]

theorem countSteps_congr (h : EachStep step (fun s a ↦ R s a ↔ Q s a) s as) :
    countSteps step R s as = countSteps step Q s as := by
  induction as generalizing s with
  | nil => rfl
  | cons a as ih => rw [countSteps, countSteps, ih h.2, if_congr h.1 rfl rfl]

/-- A flag that never falls is raised once if the run raises it, and not at all otherwise. -/
theorem countSteps_raises {flag : σ → Bool} (hup : ∀ s a, flag s = true → flag (step s a) = true) :
    countSteps step (Raises step flag) s as = if !flag s && flag (run step s as) then 1 else 0 := by
  induction as generalizing s with
  | nil => cases hflag : flag s <;> simp [countSteps, hflag]
  | cons a as ih =>
    rw [countSteps, ih, run_cons]
    cases hs : flag s with
    | true => simp [Raises, hs, hup s a hs]
    | false =>
      cases hnext : flag (step s a) with
      | false => simp [Raises, hnext]
      | true =>
        have hlater : AtEachMoment step (fun s ↦ flag s = true) (step s a) as :=
          atEachMoment_of_kept hup hnext
        simp [Raises, hs, hnext, hlater.last]

/-- A step of the run that is in `R` marks the state, and nothing else does. -/
def Marks (step : σ → α → σ) (R : σ → α → Prop) (marked : σ → Bool) (s : σ) (a : α) : Prop :=
  marked (step s a) = true ↔ marked s = true ∨ R s a

theorem countSteps_le_ite {marked : σ → Bool} (hmarks : EachStep step (Marks step R marked) s as) :
    countSteps step R s as ≤ (if marked s then 0 else 1) ↔
      EachStep step (fun s a ↦ R s a → marked s = false) s as := by
  induction as generalizing s with
  | nil => exact iff_of_true (Nat.zero_le _) trivial
  | cons a as ih =>
    have hrest := ih hmarks.2
    have hmark : marked (step s a) = true ↔ marked s = true ∨ R s a := hmarks.1
    rw [countSteps, EachStep, ← hrest]
    by_cases hR : R s a
    · have hnext : marked (step s a) = true := hmark.mpr (.inr hR)
      cases hs : marked s with
      | true => simp [hR]
      | false =>
        simp only [hR, hnext, if_true, Bool.false_eq_true, if_false, forall_const, true_and]
        omega
    · have hnext : marked (step s a) = marked s := by
        rw [Bool.eq_iff_iff, hmark, or_iff_left hR]
      simp [hR, hnext]

/-- Where the steps in `R` mark the state, there is at most one of them exactly if each finds the state
without the mark. -/
theorem countSteps_le_one_iff {marked : σ → Bool} (hmarks : EachStep step (Marks step R marked) s as)
    (hs : marked s = false) :
    countSteps step R s as ≤ 1 ↔ EachStep step (fun s a ↦ R s a → marked s = false) s as := by
  have hcount := countSteps_le_ite hmarks
  rwa [hs] at hcount

end Count

section EachPast

/-- `R` relates each past of the run to the action taken after it. -/
def EachPast (R : List α → α → Prop) (as : List α) : Prop :=
  ∀ past a, past ++ [a] <+: as → R past a

theorem eachPast_nil {R : List α → α → Prop} : EachPast R [] := by
  intro past a hpast
  simp at hpast

theorem eachPast_concat {R : List α → α → Prop} :
    EachPast R (as ++ [a]) ↔ EachPast R as ∧ R as a := by
  constructor
  · intro h
    exact ⟨fun past b hpast ↦ h past b (hpast.trans (List.prefix_append as [a])),
      h as a List.prefix_rfl⟩
  · rintro ⟨hearlier, hlast⟩ past b hpast
    obtain hsame | hpast := List.prefix_concat_iff.mp hpast
    · obtain ⟨rfl, hb⟩ := List.append_inj' hsame rfl
      obtain rfl : b = a := by simpa using hb
      exact hlast
    · exact hearlier past b hpast

theorem EachPast.of_isPrefix {R : List α → α → Prop} {past : List α} (h : EachPast R as)
    (hpast : past <+: as) : EachPast R past :=
  fun earlier b hearlier ↦ h earlier b (hearlier.trans hpast)

theorem eachPast_iff_get {R : List α → α → Prop} :
    EachPast R as ↔ ∀ i : Fin as.length, R (as.take i) (as.get i) := by
  constructor
  · intro h i
    apply h
    have htake : as.take i ++ [as.get i] = as.take (i + 1) := by simp
    rw [htake]
    exact List.take_prefix _ _
  · rintro h past a ⟨rest, rfl⟩
    have hlast := h ⟨past.length, by simp⟩
    simpa using hlast

instance {R : List α → α → Prop} [∀ past a, Decidable (R past a)] : Decidable (EachPast R as) :=
  decidable_of_iff _ eachPast_iff_get.symm

end EachPast

section CountOnce

variable [∀ s a, Decidable (R s a)]

theorem countSteps_pos_iff : 0 < countSteps step R s as ↔ Once step R s as := by
  induction as using List.reverseRecOn with
  | nil => exact iff_of_false (Nat.lt_irrefl 0) not_once_nil
  | append_singleton as a ih =>
    rw [countSteps_append, once_concat, ← ih]
    by_cases hR : R (run step s as) a
    · simp [countSteps, hR]
    · simp [countSteps, hR]

instance : Decidable (Once step R s as) := decidable_of_iff _ countSteps_pos_iff

/-- There is at most one step in `R` exactly if none of them comes after another. -/
theorem countSteps_le_one_iff_eachPast : countSteps step R s as ≤ 1 ↔
    EachPast (fun past a ↦ R (run step s past) a → ¬Once step R s past) as := by
  induction as using List.reverseRecOn with
  | nil => exact iff_of_true (Nat.zero_le 1) eachPast_nil
  | append_singleton as a ih =>
    rw [countSteps_append, eachPast_concat, ← ih, ← countSteps_pos_iff]
    by_cases hR : R (run step s as) a
    · simp only [countSteps, hR, if_true, forall_const]
      omega
    · simp [countSteps, hR]

end CountOnce

/-- What each step has for every index, it has for all. -/
theorem EachStep.forall {ι : Type} {R : ι → σ → α → Prop} :
    (∀ i, EachStep step (R i) s as) ↔ EachStep step (fun s a ↦ ∀ i, R i s a) s as := by
  simp only [eachStep_iff]
  constructor
  · intro h past a hpast i
    exact h i past a hpast
  · intro h i past a hpast
    exact h past a hpast i

end CreatorFirst.Process
