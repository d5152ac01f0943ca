import CreatorFirst.Script.Value
import Mathlib.Data.List.TakeWhile

/-!
# Integers among the numbers of a script

Integers up to `2 ^ 53` are held exactly, and larger ones never become safe. A sequence of digits is converted to
the number that it denotes.
-/

namespace CreatorFirst.Script.Number

def isSafeInteger : Number → Bool
  | .finite q => q.den = 1 ∧ q.num.natAbs < 2 ^ 53
  | _ => false

def sub : Number → Number → Number
  | .nan, _ | _, .nan => .nan
  | .finite p, .finite q => round (p - q)
  | .finite _, .infinity negative => .infinity !negative
  | .infinity negative, .finite _ => .infinity negative
  | .infinity negative, .infinity negative' => if negative = negative' then .nan else .infinity negative

def add (x y : Number) : Number := x.sub y.neg

/-- `<` -/
def lt : Number → Number → Bool
  | .nan, _ | _, .nan => false
  | .finite p, .finite q => p < q
  | .finite _, .infinity negative => !negative
  | .infinity negative, .finite _ => negative
  | .infinity negative, .infinity negative' => negative && !negative'

/-- `<=` -/
def le (x y : Number) : Bool := x.lt y || x.equals y

/-- `Math.min` -/
def min (x y : Number) : Number := if x = .nan ∨ y = .nan then .nan else if y.lt x then y else x

/-- `Math.max` -/
def max (x y : Number) : Number := if x = .nan ∨ y = .nan then .nan else if x.lt y then y else x

/-- `String(x)` for an integer below `10 ^ 21`. -/
def text : Number → String
  | .finite q =>
    if q.num.natAbs ≤ 2 ^ 53 then toString q.num else toString ((Value.printed q.num).getD q.num)
  | .infinity negative => if negative then "-Infinity" else "Infinity"
  | .nan => "NaN"

/-! ## Rounding -/

/-- The distance of the doubles around a number. -/
def unit (q : ℚ) : ℚ := 2 ^ Max.max (Int.log 2 |q| - 52) (-1074)

theorem unit_pos (q : ℚ) : 0 < unit q := zpow_pos (by norm_num) _

/-- The nearest integer, the even one of two. -/
def nearest (q : ℚ) : ℤ :=
  if q - ⌊q⌋ < 1 / 2 then ⌊q⌋ else if 1 / 2 < q - ⌊q⌋ then ⌊q⌋ + 1
  else if ⌊q⌋ % 2 = 0 then ⌊q⌋ else ⌊q⌋ + 1

theorem nearest_intCast (m : ℤ) : nearest m = m := by
  rw [nearest, Int.floor_intCast, sub_self, if_pos (by norm_num)]

theorem floor_le_nearest (q : ℚ) : ⌊q⌋ ≤ nearest q := by
  unfold nearest
  split
  · exact le_rfl
  · split
    · exact (lt_add_one _).le
    · split
      · exact le_rfl
      · exact (lt_add_one _).le

theorem round_eq {q : ℚ} (hq : q ≠ 0) :
    round q = if (2 : ℚ) ^ 1024 ≤ |nearest (q / unit q) * unit q| then .infinity (q < 0)
      else .finite (nearest (q / unit q) * unit q) := by
  rw [round, if_neg hq]
  rfl

/-- A multiple of the distance of the doubles around it is one of them. -/
theorem round_eq_finite {q : ℚ} {m : ℤ} (hm : q = m * unit q) (hq : |q| < 2 ^ 1024) : round q = .finite q := by
  by_cases hzero : q = 0
  · rw [round, if_pos hzero, hzero]
  · have hdiv : q / unit q = m := by rw [div_eq_iff (unit_pos q).ne', ← hm]
    rw [round_eq hzero, hdiv, nearest_intCast, ← hm, if_neg (not_le.mpr hq)]

theorem unit_intCast (z : ℤ) : unit z = 2 ^ ((Nat.log 2 z.natAbs : ℤ) - 52) := by
  have hlog : Int.log 2 |(z : ℚ)| = Nat.log 2 z.natAbs := by
    rw [← Int.cast_abs, Int.abs_eq_natAbs, Int.cast_natCast, Int.log_natCast]
  rw [unit, hlog, max_eq_left (by omega)]

theorem cast_two_pow_mul {k : ℕ} (hk : k ≤ 52) : ((2 ^ (52 - k) : ℤ) : ℚ) * 2 ^ ((k : ℤ) - 52) = 1 := by
  have hcast : ((2 ^ (52 - k) : ℤ) : ℚ) = 2 ^ (52 - (k : ℤ)) := by
    rw [Int.cast_pow, Int.cast_ofNat, ← zpow_natCast, Nat.cast_sub hk]
    rfl
  rw [hcast, ← zpow_add₀ (by norm_num), sub_add_sub_cancel, sub_self, zpow_zero]

theorem not_isSafeInteger_of_le {q : ℚ} (hq : 2 ^ 53 ≤ q) : (finite q).isSafeInteger = false := by
  rw [isSafeInteger, decide_eq_false_iff_not]
  rintro ⟨hden, hnum⟩
  have hq' : q = q.num := (Rat.coe_int_num_of_den_eq_one hden).symm
  rw [hq'] at hq
  have hle : (2 : ℤ) ^ 53 ≤ q.num := by exact_mod_cast hq
  omega

theorem isSafeInteger_intCast {z : ℤ} : (finite z).isSafeInteger = true ↔ z.natAbs < 2 ^ 53 := by
  simp [isSafeInteger]

/-- Integers up to `2 ^ 53` are held exactly. -/
theorem round_intCast {z : ℤ} (hz : z.natAbs ≤ 2 ^ 53) : round z = .finite z := by
  by_cases hzero : z = 0
  · rw [hzero]
    rfl
  · have hbound : |(z : ℚ)| < 2 ^ 1024 := by
      rw [← Int.cast_abs, Int.abs_eq_natAbs, Int.cast_natCast]
      calc
        (z.natAbs : ℚ) ≤ (2 ^ 53 : ℕ) := Nat.cast_le.mpr hz
        _ = 2 ^ 53 := by norm_num
        _ < 2 ^ 1024 := pow_lt_pow_right₀ (by norm_num) (by norm_num)
    have hunit := unit_intCast z
    by_cases hlarge : z.natAbs = 2 ^ 53
    · -- the distance is two there
      have hdvd : z = z / 2 * 2 := by omega
      have htwo : unit z = 2 := by
        rw [hunit, hlarge, Nat.log_pow (by norm_num)]
        norm_num
      apply round_eq_finite (m := z / 2) _ hbound
      rw [htwo]
      exact_mod_cast hdvd
    · have hlog : Nat.log 2 z.natAbs ≤ 52 := by
        have hlt : z.natAbs < 2 ^ 53 := lt_of_le_of_ne hz hlarge
        exact Nat.lt_succ_iff.mp (Nat.log_lt_of_lt_pow (by omega) hlt)
      apply round_eq_finite (m := z * 2 ^ (52 - Nat.log 2 z.natAbs)) _ hbound
      rw [hunit, Int.cast_mul, mul_assoc, cast_two_pow_mul hlog, mul_one]

/-- At least a given integer, perhaps infinite. -/
def AtLeast (x : Number) (z : ℤ) : Prop := x = .infinity false ∨ ∃ q : ℚ, z ≤ q ∧ x = .finite q

/-- Rounding does not lead below a double. -/
theorem atLeast_round {q : ℚ} {k z : ℤ} (hq : 0 < q) (hk : k * unit q ≤ q) (hz : z ≤ k * unit q) :
    (round q).AtLeast z := by
  rw [round_eq hq.ne']
  split
  · exact Or.inl (by rw [decide_eq_false hq.not_gt])
  · refine Or.inr ⟨_, hz.trans ?_, rfl⟩
    have hfloor : k ≤ ⌊q / unit q⌋ := Int.le_floor.mpr ((le_div_iff₀ (unit_pos q)).mpr hk)
    have hnearest : (k : ℚ) ≤ nearest (q / unit q) := Int.cast_le.mpr (hfloor.trans (floor_le_nearest _))
    exact mul_le_mul_of_nonneg_right hnearest (unit_pos q).le

/-- Numbers from `2 ^ 53` on stay there. -/
theorem atLeast_round_of_le {q : ℚ} (hq : 2 ^ 53 ≤ q) : (round q).AtLeast (2 ^ 53) := by
  have hpos : 0 < q := lt_of_lt_of_le (by norm_num) hq
  have hlog : 53 ≤ Int.log 2 q := by
    rw [← Int.zpow_le_iff_le_log (by norm_num) hpos]
    exact_mod_cast hq
  have hunit : ((2 ^ 52 : ℤ) : ℚ) * unit q = 2 ^ Int.log 2 q := by
    rw [unit, abs_of_pos hpos, max_eq_left (by omega), Int.cast_pow, Int.cast_ofNat, ← zpow_natCast,
      ← zpow_add₀ (by norm_num)]
    congr 1
    omega
  apply atLeast_round (k := 2 ^ 52) hpos
  · rw [hunit]
    exact_mod_cast Int.zpow_log_le_self (by norm_num) hpos
  · rw [hunit, Int.cast_pow, Int.cast_ofNat, ← zpow_natCast]
    exact zpow_le_zpow_right₀ (by norm_num) hlog

theorem not_isSafeInteger_of_atLeast {x : Number} (h : x.AtLeast (2 ^ 53)) : x.isSafeInteger = false := by
  obtain rfl | ⟨q, hq, rfl⟩ := h
  · rfl
  · exact not_isSafeInteger_of_le (by exact_mod_cast hq)

theorem round_natCast {n : ℕ} (hn : n ≤ 2 ^ 53) : round n = .finite (n : ℤ) := by
  have h : round (n : ℤ) = .finite (n : ℤ) := round_intCast (by omega)
  rwa [Int.cast_natCast] at h ⊢

theorem AtLeast.mono {x : Number} {y z : ℤ} (h : x.AtLeast z) (hyz : y ≤ z) : x.AtLeast y := by
  obtain rfl | ⟨q, hq, rfl⟩ := h
  · exact Or.inl rfl
  · exact Or.inr ⟨q, (Int.cast_le.mpr hyz).trans hq, rfl⟩

/-- Taking one away from a large number leaves one that is almost as large. -/
theorem AtLeast.sub_one {x : Number} (h : x.AtLeast (2 ^ 53)) : (x.sub (finite 1)).AtLeast (2 ^ 53 - 1) := by
  obtain rfl | ⟨q, hq, rfl⟩ := h
  · exact Or.inl rfl
  · change (round (q - 1)).AtLeast (2 ^ 53 - 1)
    have hlow : (2 : ℚ) ^ 53 - 1 ≤ q - 1 := sub_le_sub_right (by exact_mod_cast hq) 1
    have hpos : 0 < q - 1 := lt_of_lt_of_le (by norm_num) hlow
    by_cases hlarge : (2 : ℚ) ^ 53 ≤ q - 1
    · exact (atLeast_round_of_le hlarge).mono (by norm_num)
    · have hlog : Int.log 2 (q - 1) = 52 := by
        apply le_antisymm
        · rw [← Int.lt_add_one_iff, ← Int.lt_zpow_iff_log_lt (by norm_num) hpos]
          exact_mod_cast not_le.mp hlarge
        · rw [← Int.zpow_le_iff_le_log (by norm_num) hpos]
          refine le_trans ?_ hlow
          norm_num
      have hunit : unit (q - 1) = 1 := by
        rw [unit, abs_of_pos hpos, hlog]
        rfl
      apply atLeast_round (k := 2 ^ 53 - 1) hpos
      · rw [hunit, mul_one]
        exact_mod_cast hlow
      · rw [hunit, mul_one]

/-! ## Arithmetic -/

theorem sub_intCast {a b : ℤ} (h : (a - b).natAbs ≤ 2 ^ 53) :
    (finite a).sub (finite b) = finite (a - b : ℤ) := by
  rw [sub, ← Int.cast_sub, round_intCast h]

theorem add_intCast {a b : ℤ} (h : (a + b).natAbs ≤ 2 ^ 53) :
    (finite a).add (finite b) = finite (a + b : ℤ) := by
  rw [add, neg, ← Int.cast_neg, sub_intCast (by rwa [sub_neg_eq_add]), sub_neg_eq_add]

@[simp]
theorem lt_intCast {a b : ℤ} : (finite a).lt (finite b) = true ↔ a < b := by
  simp [lt]

@[simp]
theorem le_intCast {a b : ℤ} : (finite a).le (finite b) = true ↔ a ≤ b := by
  simp [le, equals, le_iff_lt_or_eq]

theorem min_intCast {a b : ℤ} : (finite a).min (finite b) = finite (Min.min a b : ℤ) := by
  rw [min, if_neg (by simp)]
  by_cases h : b < a
  · rw [if_pos (lt_intCast.mpr h), min_eq_right h.le]
  · rw [if_neg (mt lt_intCast.mp h), min_eq_left (not_lt.mp h)]

theorem AtLeast.min_eq {x : Number} {z b : ℤ} (h : x.AtLeast z) (hb : b ≤ z) :
    (finite b).min x = finite b := by
  obtain rfl | ⟨q, hq, rfl⟩ := h
  · rfl
  · have hle : (b : ℚ) ≤ q := (Int.cast_le.mpr hb).trans hq
    rw [min, if_neg (by simp), if_neg]
    simpa [lt] using hle

theorem AtLeast.le_eq_false {x : Number} {z a : ℤ} (h : x.AtLeast z) (ha : a < z) :
    x.le (finite a) = false := by
  obtain rfl | ⟨q, hq, rfl⟩ := h
  · rfl
  · have hlt : (a : ℚ) < q := (Int.cast_lt.mpr ha).trans_le hq
    simp [le, lt, equals, hlt.le, hlt.ne']

theorem max_intCast {a b : ℤ} : (finite a).max (finite b) = finite (Max.max a b : ℤ) := by
  rw [max, if_neg (by simp)]
  by_cases h : a < b
  · rw [if_pos (lt_intCast.mpr h), max_eq_right h.le]
  · rw [if_neg (mt lt_intCast.mp h), max_eq_left (not_lt.mp h)]

theorem text_intCast {z : ℤ} (h : z.natAbs ≤ 2 ^ 53) : (finite z).text = toString z := by
  rw [text, Rat.num_intCast, if_pos h]

/-! ## Numerals -/

/-- What decimal digits denote. -/
def numeral (digits : List Char) : ℕ := digits.foldl (fun n c ↦ n * 10 + (c.toNat - 48)) 0

variable {digits : List Char}

theorem digitOf_of_isDigit {c : Char} (hc : c.isDigit = true) : digitOf 10 c = some (c.toNat - 48) := by
  rw [Char.isDigit, Bool.and_eq_true, decide_eq_true_iff, decide_eq_true_iff] at hc
  have hle : '0' ≤ c ∧ c ≤ '9' := hc
  have hnine : c.toNat ≤ 57 := UInt32.le_iff_toNat_le.mp hc.2
  have hlt : c.toNat - 48 < 10 := by omega
  simp [digitOf, hle, hlt]

theorem readDigits_of_isDigit (hne : digits ≠ []) (h : ∀ c ∈ digits, c.isDigit = true) :
    readDigits 10 digits = some (numeral digits) := by
  have hfold : ∀ n, digits.foldlM (fun n c ↦ (digitOf 10 c).map (n * 10 + ·)) n =
      some (digits.foldl (fun n c ↦ n * 10 + (c.toNat - 48)) n) := by
    clear hne
    induction digits with
    | nil => exact fun n ↦ rfl
    | cons c digits ih =>
      intro n
      rw [List.foldlM_cons, digitOf_of_isDigit (h c List.mem_cons_self)]
      exact ih (fun d hd ↦ h d (List.mem_cons_of_mem c hd)) _
  rw [readDigits, if_neg hne, hfold 0]
  rfl

theorem trim_of_isDigit (h : ∀ c ∈ digits, isSpace c = false) : trim digits = digits := by
  have hdrop : ∀ cs : List Char, (∀ c ∈ cs, isSpace c = false) → cs.dropWhile isSpace = cs := by
    intro cs hcs
    cases cs with
    | nil => rfl
    | cons c cs => rw [List.dropWhile_cons_of_neg (by simp [hcs c List.mem_cons_self])]
  rw [trim, hdrop digits h, hdrop _ (fun c hc ↦ h c (List.mem_reverse.mp hc)), List.reverse_reverse]

theorem isSpace_of_isDigit {c : Char} (hc : c.isDigit = true) : isSpace c = false := by
  rw [Char.isDigit, Bool.and_eq_true, decide_eq_true_iff, decide_eq_true_iff] at hc
  have hlow : 48 ≤ c.toNat := UInt32.le_iff_toNat_le.mp hc.1
  have hhigh : c.toNat ≤ 57 := UInt32.le_iff_toNat_le.mp hc.2
  simp [isSpace]
  omega

theorem not_isDigit_of {c : Char} (hc : c.isDigit = false) (h : ∀ c ∈ digits, c.isDigit = true) :
    c ∉ digits := by
  intro hmem
  rw [h c hmem] at hc
  cases hc

theorem readDecimal_of_isDigit (hne : digits ≠ []) (h : ∀ c ∈ digits, c.isDigit = true) :
    readDecimal digits = some (numeral digits : ℚ) := by
  have hspan : ∀ p : Char → Bool, (∀ c ∈ digits, p c = true) → digits.span p = (digits, []) := by
    intro p hp
    rw [List.span_eq_takeWhile_dropWhile, List.takeWhile_eq_self_iff.mpr hp, List.dropWhile_eq_nil_iff.mpr hp]
  have hexponent : ∀ c ∈ digits, (decide (c ≠ 'e') && decide (c ≠ 'E')) = true := by
    intro c hc
    have hsmall : c ≠ 'e' := fun heq ↦ not_isDigit_of (by decide) h (heq ▸ hc)
    have hcapital : c ≠ 'E' := fun heq ↦ not_isDigit_of (by decide) h (heq ▸ hc)
    simp [hsmall, hcapital]
  have hpoint : ∀ c ∈ digits, decide (c ≠ '.') = true := by
    intro c hc
    rw [decide_eq_true_iff]
    exact fun heq ↦ not_isDigit_of (by decide) h (heq ▸ hc)
  simp only [readDecimal, hspan _ hexponent, hspan _ hpoint, List.drop_nil, List.append_nil,
    readDigits_of_isDigit hne h, readExponent]
  simp

/-- Digits are converted to the number that they denote. -/
theorem ofString_of_isDigit (hne : digits ≠ []) (h : ∀ c ∈ digits, c.isDigit = true) :
    ofString (String.ofList digits) = round (numeral digits) := by
  have hunsigned : ofUnsigned digits = round (numeral digits) := by
    have hinfinity : digits ≠ "Infinity".toList := by
      rintro rfl
      exact absurd (h 'I' (by decide)) (by decide)
    rw [ofUnsigned, if_neg hinfinity, readDecimal_of_isDigit hne h]
    rfl
  have hletter :
      ∀ (c : Char) (first : Char) (cs : List Char), c.isDigit = false → digits ≠ first :: c :: cs := by
    rintro c first cs hc rfl
    exact not_isDigit_of hc h (by simp)
  have hsign : ∀ (c : Char) (cs : List Char), c.isDigit = false → digits ≠ c :: cs := by
    rintro c cs hc rfl
    exact not_isDigit_of hc h List.mem_cons_self
  unfold ofString
  rw [String.toList_ofList, trim_of_isDigit fun c hc ↦ isSpace_of_isDigit (h c hc)]
  split
  · exact absurd rfl hne
  · next cs => exact absurd rfl (hletter 'x' '0' cs (by decide))
  · next cs => exact absurd rfl (hletter 'X' '0' cs (by decide))
  · next cs => exact absurd rfl (hletter 'o' '0' cs (by decide))
  · next cs => exact absurd rfl (hletter 'O' '0' cs (by decide))
  · next cs => exact absurd rfl (hletter 'b' '0' cs (by decide))
  · next cs => exact absurd rfl (hletter 'B' '0' cs (by decide))
  · next cs => exact absurd rfl (hsign '-' cs (by decide))
  · next cs => exact absurd rfl (hsign '+' cs (by decide))
  · exact hunsigned

end CreatorFirst.Script.Number
