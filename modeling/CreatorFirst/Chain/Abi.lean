import CreatorFirst.Chain.MachineInt

/-!
# Byte strings, words and the outside primitives

Static arguments are encoded as 32-byte big-endian words, so the encoding of a fixed list of
in-range words can be read back. Hashing, signature recovery and Merkle verification are functions
of the surrounding platform and stay parameters.
-/

namespace CreatorFirst.Chain

abbrev Bytes := List UInt8
abbrev Bytes32 := Uint 256
abbrev Address := Uint 160

/-- The caller of a message call and the value it sends along. -/
structure Msg where
  sender : Address
  value : Uint 256 := 0
  deriving DecidableEq

/-- Functions the contracts use from outside their own source. A signature that does not recover
aborts the call, which `none` stands for. -/
structure Primitives where
  keccak256 : Bytes → Bytes32
  recover : Bytes32 → Bytes → Option Address
  verifyProof : List Bytes32 → Bytes32 → Bytes32 → Bool

/-- The bytes of a string constant. -/
def utf8 (s : String) : Bytes := s.toUTF8.data.toList

/-- The `k` low bytes of `n`, most significant first. -/
def bigEndian : ℕ → ℕ → Bytes
  | 0, _ => []
  | k + 1, n => bigEndian k (n / 256) ++ [UInt8.ofNat (n % 256)]

/-- Encoding of static values, one 32-byte word each. -/
def abiEncode (words : List ℕ) : Bytes := words.flatMap (bigEndian 32)

/-- A signed integer fills its word with copies of the sign bit. -/
def Sint.word {w : ℕ} (a : Sint w) : ℕ := ((a : ℤ) % 2 ^ 256).toNat

@[simp]
theorem length_bigEndian (k n : ℕ) : (bigEndian k n).length = k := by
  induction k generalizing n with
  | zero => rfl
  | succ k ih => simp [bigEndian, ih]

theorem bigEndian_inj {k a b : ℕ} (ha : a < 256 ^ k) (hb : b < 256 ^ k)
    (h : bigEndian k a = bigEndian k b) : a = b := by
  induction k generalizing a b with
  | zero =>
    rw [pow_zero] at ha hb
    omega
  | succ k ih =>
    obtain ⟨hhigh, hlow⟩ := List.append_inj h (by simp)
    have hdiv : a / 256 = b / 256 := by
      apply ih _ _ hhigh
      · exact Nat.div_lt_of_lt_mul (by rwa [pow_succ, mul_comm] at ha)
      · exact Nat.div_lt_of_lt_mul (by rwa [pow_succ, mul_comm] at hb)
    have hmod : a % 256 = b % 256 := by
      have hbyte := congrArg UInt8.toNat (List.singleton_inj.mp hlow)
      simpa [UInt8.toNat_ofNat'] using hbyte
    omega

/-- Encodings of equally many in-range words agree only when the words do. -/
theorem abiEncode_inj {ws vs : List ℕ} (hlen : ws.length = vs.length)
    (hws : ∀ x ∈ ws, x < 2 ^ 256) (hvs : ∀ x ∈ vs, x < 2 ^ 256)
    (h : abiEncode ws = abiEncode vs) : ws = vs := by
  induction ws generalizing vs with
  | nil => exact (List.length_eq_zero_iff.mp hlen.symm).symm
  | cons a ws ih =>
    cases vs with
    | nil => simp at hlen
    | cons b vs =>
      simp only [abiEncode, List.flatMap_cons] at h
      obtain ⟨hhead, htail⟩ := List.append_inj h (by simp)
      have hab : a = b := by
        apply bigEndian_inj (k := 32) _ _ hhead
        · have := hws a (by simp)
          norm_num at this ⊢
          exact this
        · have := hvs b (by simp)
          norm_num at this ⊢
          exact this
      rw [hab, ih (by simpa using hlen) (fun x hx ↦ hws x (by simp [hx]))
        (fun x hx ↦ hvs x (by simp [hx])) htail]

/-! ## Reading call data -/

/-- The number that bytes spell, most significant first. -/
def ofBigEndian (bs : Bytes) : ℕ := bs.foldl (fun n byte ↦ 256 * n + byte.toNat) 0

theorem ofBigEndian_concat (bs : Bytes) (byte : UInt8) :
    ofBigEndian (bs ++ [byte]) = 256 * ofBigEndian bs + byte.toNat := by
  rw [ofBigEndian, List.foldl_append]
  rfl

theorem ofBigEndian_bigEndian {k n : ℕ} (h : n < 256 ^ k) : ofBigEndian (bigEndian k n) = n := by
  induction k generalizing n with
  | zero =>
    rw [pow_zero, Nat.lt_one_iff] at h
    exact h.symm
  | succ k ih =>
    have hhigh : n / 256 < 256 ^ k := Nat.div_lt_of_lt_mul (by rwa [pow_succ, mul_comm] at h)
    have hlow : (UInt8.ofNat (n % 256)).toNat = n % 256 := by
      rw [UInt8.toNat_ofNat']
      omega
    rw [bigEndian, ofBigEndian_concat, ih hhigh, hlow]
    exact Nat.div_add_mod n 256

/-- The function that call data names by its first four bytes. -/
def selector (callData : Bytes) : Bytes := callData.take 4

/-- The call data are long enough for `n` arguments of one word each. Further bytes are ignored. -/
def HasArguments (n : ℕ) (callData : Bytes) : Prop := 4 + 32 * n ≤ callData.length

instance (n : ℕ) (callData : Bytes) : Decidable (HasArguments n callData) :=
  inferInstanceAs (Decidable (_ ≤ _))

/-- The argument at an index, from zero on. -/
def argument (callData : Bytes) (i : ℕ) : ℕ :=
  ofBigEndian ((callData.drop (4 + 32 * i)).take 32)

theorem length_abiEncode (ws : List ℕ) : (abiEncode ws).length = 32 * ws.length := by
  induction ws with
  | nil => rfl
  | cons a ws ih =>
    have hcons : abiEncode (a :: ws) = bigEndian 32 a ++ abiEncode ws := rfl
    rw [hcons, List.length_append, length_bigEndian, ih, List.length_cons]
    omega

theorem drop_abiEncode (ws : List ℕ) (i : ℕ) :
    (abiEncode ws).drop (32 * i) = abiEncode (ws.drop i) := by
  induction i generalizing ws with
  | zero => rfl
  | succ i ih =>
    cases ws with
    | nil => simp [abiEncode]
    | cons a ws =>
      have hcons : abiEncode (a :: ws) = bigEndian 32 a ++ abiEncode ws := rfl
      have hsplit : 32 * (i + 1) = (bigEndian 32 a).length + 32 * i := by
        rw [length_bigEndian]
        omega
      rw [hcons, hsplit, List.drop_append, List.drop_succ_cons]
      simp [ih]

/-- Encoded arguments are read back. -/
theorem argument_encode {name : Bytes} (hname : name.length = 4) {ws : List ℕ} {i : ℕ}
    (hi : i < ws.length) (hword : ws[i] < 2 ^ 256) : argument (name ++ abiEncode ws) i = ws[i] := by
  have hdrop : (name ++ abiEncode ws).drop (4 + 32 * i) =
      bigEndian 32 ws[i] ++ abiEncode (ws.drop (i + 1)) := by
    calc (name ++ abiEncode ws).drop (4 + 32 * i)
        = (abiEncode ws).drop (32 * i) := by rw [← hname, List.drop_length_add_append]
      _ = abiEncode (ws.drop i) := drop_abiEncode ws i
      _ = abiEncode (ws[i] :: ws.drop (i + 1)) := by rw [List.drop_eq_getElem_cons hi]
  unfold argument
  rw [hdrop, List.take_left' (length_bigEndian 32 _)]
  apply ofBigEndian_bigEndian
  norm_num at hword ⊢
  exact hword

end CreatorFirst.Chain
