import Mathlib.Data.ZMod.Defs
import Mathlib.Data.Fin.Basic
import Mathlib.Data.Int.Basic
import Mathlib.Data.Fintype.Basic
import Mathlib.Tactic.Linarith

/-!
# Machine integers with checked arithmetic

Unsigned and signed integers of a fixed width, as a contract language with checked arithmetic has
them: a sum, difference or product that leaves the range aborts the call. Narrowing casts are
explicit and keep the low bits. A guard that aborts the call is `revertIf`; the lemmas turn a
successful run of a guarded function into the list of facts that made it succeed.
-/

namespace CreatorFirst.Chain

/-- Unsigned integers of `w` bits. -/
abbrev Uint (w : ℕ) := Fin (2 ^ w)

/-- Signed integers of `w` bits. -/
abbrev Sint (w : ℕ) := {i : ℤ // -2 ^ (w - 1) ≤ i ∧ i < 2 ^ (w - 1)}

/-! The widths in use: a literal of one of them carries the same proof in every module. -/

instance neZero_width8 : NeZero (2 ^ 8) := ⟨(Nat.two_pow_pos 8).ne'⟩

instance neZero_width32 : NeZero (2 ^ 32) := ⟨(Nat.two_pow_pos 32).ne'⟩

instance neZero_width64 : NeZero (2 ^ 64) := ⟨(Nat.two_pow_pos 64).ne'⟩

instance neZero_width128 : NeZero (2 ^ 128) := ⟨(Nat.two_pow_pos 128).ne'⟩

instance neZero_width160 : NeZero (2 ^ 160) := ⟨(Nat.two_pow_pos 160).ne'⟩

instance neZero_width256 : NeZero (2 ^ 256) := ⟨(Nat.two_pow_pos 256).ne'⟩

/-! ## Guards -/

section Guards

variable {ε α β : Type}

/-- Abort with `e` when the condition holds. -/
def revertIf (c : Prop) [Decidable c] (e : ε) : Except ε Unit :=
  if c then .error e else .ok ()

theorem bind_eq_ok {x : Except ε α} {f : α → Except ε β} {y : β} :
    (x >>= f) = .ok y ↔ ∃ a, x = .ok a ∧ f a = .ok y := by
  cases x with
  | error e => simp [bind, Except.bind]
  | ok a => simp [bind, Except.bind]

theorem revertIf_eq_ok {c : Prop} [Decidable c] {e : ε} {u : Unit} :
    revertIf c e = .ok u ↔ ¬ c := by
  unfold revertIf
  split <;> simp_all

theorem revertIf_bind_eq_ok {c : Prop} [Decidable c] {e : ε} {f : Unit → Except ε β} {y : β} :
    (revertIf c e >>= f) = .ok y ↔ ¬ c ∧ f () = .ok y := by
  rw [bind_eq_ok]
  constructor
  · rintro ⟨u, hu, hf⟩
    exact ⟨revertIf_eq_ok.mp hu, hf⟩
  · rintro ⟨hc, hf⟩
    exact ⟨(), revertIf_eq_ok.mpr hc, hf⟩

theorem bind_eq_error {x : Except ε α} {f : α → Except ε β} {e : ε} :
    (x >>= f) = .error e ↔ x = .error e ∨ ∃ a, x = .ok a ∧ f a = .error e := by
  cases x with
  | error e' => simp [bind, Except.bind]
  | ok a => simp [bind, Except.bind]

theorem revertIf_bind_eq_error {c : Prop} [Decidable c] {e e' : ε} {f : Unit → Except ε β} :
    (revertIf c e >>= f) = .error e' ↔ c ∧ e = e' ∨ ¬ c ∧ f () = .error e' := by
  unfold revertIf
  split
  · next h => simp [h, bind, Except.bind]
  · next h => simp [h, bind, Except.bind]

theorem ok_bind {a : α} {f : α → Except ε β} : (Except.ok a >>= f) = f a := rfl

theorem revertIf_bind {c : Prop} [Decidable c] {e : ε} {f : Unit → Except ε β} :
    (revertIf c e >>= f) = if c then .error e else f () := by
  unfold revertIf
  split <;> rfl

theorem pure_eq_ok {x y : α} : (pure x : Except ε α) = .ok y ↔ x = y := by
  simp [pure, Except.pure]

theorem mapError_eq_ok {ε' : Type} {f : ε → ε'} {x : Except ε α} {a : α} :
    x.mapError f = .ok a ↔ x = .ok a := by
  cases x with
  | error e => simp [Except.mapError]
  | ok a' => simp [Except.mapError]

theorem map_eq_ok {f : α → β} {x : Except ε α} {y : β} :
    f <$> x = .ok y ↔ ∃ a, x = .ok a ∧ f a = y := by
  cases x with
  | error e => simp
  | ok a => simp

theorem map_snd_eq_ok {x : Except ε (α × β)} {y : β} :
    (·.2) <$> x = .ok y ↔ ∃ a, x = .ok (a, y) := by
  simp only [map_eq_ok, Prod.exists, exists_eq_right]

theorem exists_ok_of_isOk {x : Except ε α} (h : x.isOk = true) : ∃ a, x = .ok a := by
  cases x with
  | error e => cases h
  | ok a => exact ⟨a, rfl⟩

theorem exists_error_of_isOk {x : Except ε α} (h : x.isOk = false) : ∃ e, x = .error e := by
  cases x with
  | error e => exact ⟨e, rfl⟩
  | ok a => cases h

theorem ne_ok_of_isOk {x : Except ε α} (h : x.isOk = false) (a : α) : x ≠ .ok a := by
  rintro rfl
  cases h

end Guards

/-! ## Unsigned arithmetic -/

namespace Uint

variable {ε : Type} {w : ℕ}

/-- Narrowing cast: the low `w` bits. -/
def truncate (w n : ℕ) : Uint w := ⟨n % 2 ^ w, Nat.mod_lt _ (Nat.two_pow_pos w)⟩

/-- The value when it is in range, otherwise the arithmetic error `e`. -/
def fit (e : ε) (n : ℕ) : Except ε (Uint w) :=
  if h : n < 2 ^ w then .ok ⟨n, h⟩ else .error e

def add (e : ε) (a b : Uint w) : Except ε (Uint w) := fit e (a + b)

/-- The next value, as `++` and `+= 1` have it. -/
def increment (e : ε) (a : Uint w) : Except ε (Uint w) := fit e (a + 1)

def sub (e : ε) (a b : Uint w) : Except ε (Uint w) :=
  if b ≤ a then .ok ⟨a - b, (Nat.sub_le _ _).trans_lt a.isLt⟩ else .error e

def mul (e : ε) (a b : Uint w) : Except ε (Uint w) := fit e (a * b)

/-- The remainder modulo a value of any width, zero aborting the call. -/
def mod {v : ℕ} (e : ε) (a : Uint w) (b : Uint v) : Except ε (Uint w) :=
  if (b : ℕ) = 0 then .error e else .ok ⟨a % b, (Nat.mod_le _ _).trans_lt a.isLt⟩

/-- Every bit the other way. -/
def complement (a : Uint w) : Uint w :=
  ⟨2 ^ w - 1 - a, (Nat.sub_le _ _).trans_lt (Nat.sub_lt (Nat.two_pow_pos w) Nat.one_pos)⟩

theorem truncate_val (w n : ℕ) : (truncate w n : ℕ) = n % 2 ^ w := rfl

theorem truncate_self (a : Uint w) : truncate w (a : ℕ) = a :=
  Fin.ext (Nat.mod_eq_of_lt a.isLt)

theorem truncate_of_lt {w n : ℕ} (h : n < 2 ^ w) : (truncate w n : ℕ) = n :=
  Nat.mod_eq_of_lt h

theorem fit_eq_ok {e : ε} {n : ℕ} {c : Uint w} : fit e n = .ok c ↔ (c : ℕ) = n := by
  unfold fit
  split
  · simp only [Except.ok.injEq, Fin.ext_iff]
    exact eq_comm
  · have := c.isLt
    simp only [reduceCtorEq, false_iff]
    omega

theorem add_eq_ok {e : ε} {a b c : Uint w} : add e a b = .ok c ↔ (c : ℕ) = a + b := fit_eq_ok

theorem mul_eq_ok {e : ε} {a b c : Uint w} : mul e a b = .ok c ↔ (c : ℕ) = a * b := fit_eq_ok

theorem sub_eq_ok {e : ε} {a b c : Uint w} :
    sub e a b = .ok c ↔ (b : ℕ) ≤ a ∧ (c : ℕ) = a - b := by
  unfold sub
  split
  · next h =>
    simp only [Except.ok.injEq, Fin.ext_iff]
    exact ⟨fun hc ↦ ⟨h, hc.symm⟩, fun hc ↦ hc.2.symm⟩
  · next h =>
    simp only [reduceCtorEq, false_iff, not_and]
    intro hle
    exact absurd hle h

theorem mod_eq_ok {v : ℕ} {e : ε} {a c : Uint w} {b : Uint v} :
    mod e a b = .ok c ↔ (b : ℕ) ≠ 0 ∧ (c : ℕ) = a % b := by
  unfold mod
  split
  · next h => simp [h]
  · next h =>
    simp only [Except.ok.injEq, Fin.ext_iff]
    exact ⟨fun hc ↦ ⟨h, hc.symm⟩, fun hc ↦ hc.2.symm⟩

theorem exists_sub_eq_ok {e : ε} {a b : Uint w} (h : b ≤ a) : ∃ c, sub e a b = .ok c :=
  ⟨_, if_pos h⟩

theorem increment_eq_ok {e : ε} {a c : Uint w} : increment e a = .ok c ↔ (c : ℕ) = a + 1 :=
  fit_eq_ok

theorem pos_of_ne_zero {a : Uint w} (h : a ≠ 0) : 0 < (a : ℕ) := by
  rcases Nat.eq_zero_or_pos (a : ℕ) with h0 | h0
  · exact absurd (Fin.ext (by simpa using h0)) h
  · exact h0

section Bind

variable {β : Type} {e : ε} {a b : Uint w} {f : Uint w → Except ε β} {y : β}

theorem add_bind_eq_ok :
    (add e a b >>= f) = .ok y ↔ ∃ c : Uint w, (c : ℕ) = a + b ∧ f c = .ok y := by
  simp only [bind_eq_ok, add_eq_ok]

theorem increment_bind_eq_ok :
    (increment e a >>= f) = .ok y ↔ ∃ c : Uint w, (c : ℕ) = a + 1 ∧ f c = .ok y := by
  simp only [bind_eq_ok, increment_eq_ok]

theorem sub_bind_eq_ok :
    (sub e a b >>= f) = .ok y ↔
      (b : ℕ) ≤ a ∧ ∃ c : Uint w, (c : ℕ) = a - b ∧ f c = .ok y := by
  simp only [bind_eq_ok, sub_eq_ok, and_assoc, exists_and_left]

theorem mod_bind_eq_ok {v : ℕ} {b : Uint v} :
    (mod e a b >>= f) = .ok y ↔
      (b : ℕ) ≠ 0 ∧ ∃ c : Uint w, (c : ℕ) = a % b ∧ f c = .ok y := by
  simp only [bind_eq_ok, mod_eq_ok, and_assoc, exists_and_left]

theorem mul_bind_eq_ok :
    (mul e a b >>= f) = .ok y ↔ ∃ c : Uint w, (c : ℕ) = a * b ∧ f c = .ok y := by
  simp only [bind_eq_ok, mul_eq_ok]

end Bind

end Uint

/-! ## Signed arithmetic -/

namespace Sint

variable {ε : Type} {w : ℕ}

instance : Zero (Sint w) := ⟨⟨0, by simp, by positivity⟩⟩

@[simp]
theorem zero_val : ((0 : Sint w) : ℤ) = 0 := rfl

/-- The value when it is in range, otherwise the arithmetic error `e`. -/
def fit (e : ε) (i : ℤ) : Except ε (Sint w) :=
  if h : -2 ^ (w - 1) ≤ i ∧ i < 2 ^ (w - 1) then .ok ⟨i, h⟩ else .error e

def add (e : ε) (a b : Sint w) : Except ε (Sint w) := fit e (a + b)

def sub (e : ε) (a b : Sint w) : Except ε (Sint w) := fit e (a - b)

def neg (e : ε) (a : Sint w) : Except ε (Sint w) := fit e (-a)

/-- Reinterpretation of the same bits as an unsigned integer. -/
def toUint (a : Sint w) : Uint w := Uint.truncate w ((a : ℤ) % 2 ^ w).toNat

/-- Sign-extending cast to a wider integer. -/
def widen (a : Sint w) {v : ℕ} (h : w ≤ v) : Sint v :=
  ⟨a, by
    have hpow : (2 : ℤ) ^ (w - 1) ≤ 2 ^ (v - 1) :=
      pow_le_pow_right₀ (by norm_num) (Nat.sub_le_sub_right h 1)
    have := a.property
    constructor <;> linarith⟩

theorem fit_eq_ok {e : ε} {i : ℤ} {c : Sint w} : fit e i = .ok c ↔ (c : ℤ) = i := by
  unfold fit
  split
  · simp only [Except.ok.injEq, Subtype.ext_iff]
    exact eq_comm
  · next h =>
    simp only [reduceCtorEq, false_iff]
    rintro rfl
    exact h c.property

theorem add_eq_ok {e : ε} {a b c : Sint w} : add e a b = .ok c ↔ (c : ℤ) = a + b := fit_eq_ok

theorem sub_eq_ok {e : ε} {a b c : Sint w} : sub e a b = .ok c ↔ (c : ℤ) = a - b := fit_eq_ok

theorem neg_eq_ok {e : ε} {a c : Sint w} : neg e a = .ok c ↔ (c : ℤ) = -a := fit_eq_ok

@[simp]
theorem widen_val (a : Sint w) {v : ℕ} (h : w ≤ v) : ((a.widen h : Sint v) : ℤ) = a := rfl

/-- Nonnegative values keep their numeral when reinterpreted. -/
theorem toUint_of_nonneg {a : Sint w} (h : 0 ≤ (a : ℤ)) : (a.toUint : ℕ) = (a : ℤ).toNat := by
  have hlt : (a : ℤ) < 2 ^ w :=
    a.property.2.trans_le (pow_le_pow_right₀ (by norm_num) (Nat.sub_le w 1))
  have hmod : (a : ℤ) % 2 ^ w = a := Int.emod_eq_of_lt h hlt
  unfold toUint
  rw [hmod]
  apply Uint.truncate_of_lt
  zify
  simpa [Int.toNat_of_nonneg h] using hlt

end Sint

end CreatorFirst.Chain
