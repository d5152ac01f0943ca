import Mathlib.Algebra.Ring.Nat
import Mathlib.Order.Interval.Finset.Nat

/-!
# Periods of time

Half-open periods of whole seconds. Periods that follow each other without overlap cover as many
seconds as they are long together.
-/

namespace CreatorFirst

/-- The seconds from `startsAt` on and before `endsAt`. -/
structure Period where
  startsAt : ℕ
  endsAt : ℕ
  deriving DecidableEq

namespace Period

def length (p : Period) : ℕ := p.endsAt - p.startsAt

def seconds (p : Period) : Finset ℕ := Finset.Ico p.startsAt p.endsAt

/-- The seconds that some period of a list covers. -/
def covered : List Period → Finset ℕ
  | [] => ∅
  | p :: l => p.seconds ∪ covered l

/-- Newest first, each period starts when or after all older ones have ended. -/
def InSequence (l : List Period) : Prop :=
  l.Pairwise fun newer older ↦ older.endsAt ≤ newer.startsAt

theorem mem_covered {l : List Period} {t : ℕ} :
    t ∈ covered l ↔ ∃ p ∈ l, p.startsAt ≤ t ∧ t < p.endsAt := by
  induction l with
  | nil => simp [covered]
  | cons p l ih => simp [covered, seconds, ih]

theorem card_covered {l : List Period} (h : InSequence l) :
    (covered l).card = (l.map length).sum := by
  induction l with
  | nil => rfl
  | cons p l ih =>
    obtain ⟨holder, hrest⟩ := List.pairwise_cons.mp h
    have hdisjoint : Disjoint p.seconds (covered l) := by
      refine Finset.disjoint_left.mpr fun t ht hcovered ↦ ?_
      obtain ⟨q, hq, -, hend⟩ := mem_covered.mp hcovered
      have hstart := (Finset.mem_Ico.mp ht).1
      have hq' := holder q hq
      omega
    rw [covered, Finset.card_union_of_disjoint hdisjoint, ih hrest, seconds, Nat.card_Ico,
      List.map_cons, List.sum_cons, length]

/-- A further period after the last one. -/
theorem InSequence.cons {l : List Period} (h : InSequence l) (hforward : ∀ q ∈ l, q.startsAt ≤ q.endsAt)
    {p : Period} (hlast : ∀ q, l.head? = some q → q.endsAt ≤ p.startsAt) : InSequence (p :: l) := by
  refine List.pairwise_cons.mpr ⟨fun q hq ↦ ?_, h⟩
  cases l with
  | nil => cases hq
  | cons r l =>
    have hr := hlast r rfl
    obtain rfl | hq := List.mem_cons.mp hq
    · exact hr
    · have hqr := (List.pairwise_cons.mp h).1 q hq
      have hforward := hforward r List.mem_cons_self
      omega

/-! ## Renewals -/

/-- The end of the newest period. -/
def lastEnd (l : List Period) : ℕ := (l.head?.map (·.endsAt)).getD 0

/-- The periods that payments buy, newest first: each starts when it is paid for, or when the one before
it ends. -/
def renewals : List (ℕ × ℕ) → List Period
  | [] => []
  | (paidAt, duration) :: earlier =>
    let start := max paidAt (lastEnd (renewals earlier))
    ⟨start, start + duration⟩ :: renewals earlier

@[simp]
theorem lastEnd_nil : lastEnd [] = 0 := rfl

@[simp]
theorem lastEnd_renewals_cons (payment : ℕ × ℕ) (earlier : List (ℕ × ℕ)) :
    lastEnd (renewals (payment :: earlier)) =
      max payment.1 (lastEnd (renewals earlier)) + payment.2 := rfl

/-- From the last payment on, there is no gap before the end of the newest period. -/
theorem mem_covered_renewals {payments : List (ℕ × ℕ)} {t : ℕ} (h : ∀ p ∈ payments, p.1 ≤ t) :
    t ∈ covered (renewals payments) ↔ t < lastEnd (renewals payments) := by
  induction payments with
  | nil => simp [renewals, covered]
  | cons payment earlier ih =>
    obtain ⟨hpaid, hearlier⟩ := List.forall_mem_cons.mp h
    have hbefore := ih hearlier
    have hunion : t ∈ covered (renewals (payment :: earlier)) ↔
        (max payment.1 (lastEnd (renewals earlier)) ≤ t ∧
          t < max payment.1 (lastEnd (renewals earlier)) + payment.2) ∨
            t < lastEnd (renewals earlier) := by
      rw [renewals, covered, Finset.mem_union, seconds, Finset.mem_Ico, hbefore]
    rw [hunion, lastEnd_renewals_cons]
    omega

end Period

end CreatorFirst
