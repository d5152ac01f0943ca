import CreatorFirst.Chain.Abi
import CreatorFirst.Script.Integers

/-!
# Digests of typed data

A wallet signs the digest of a struct under a domain, which is a struct itself. Each member of a struct
fills one word, and the encoded type says the names and types of the members, so that a digest
determines both structs as far as the hash does. Clients have the values of the members as texts.
-/

namespace CreatorFirst.Chain

/-- A struct as it is hashed: its encoded type and one word for each member. -/
structure TypedStruct where
  type : String
  words : List ℕ
  deriving DecidableEq

/-- A type with its members, each as its name and its type. -/
def encodeType (primaryType : String) (members : List (String × String)) : String :=
  primaryType ++ "(" ++ String.intercalate "," (members.map fun m ↦ m.2 ++ " " ++ m.1) ++ ")"

section

variable (P : Primitives)

def TypedStruct.encoded (s : TypedStruct) : Bytes :=
  abiEncode ((P.keccak256 (utf8 s.type) : ℕ) :: s.words)

def TypedStruct.hash (s : TypedStruct) : Bytes32 := P.keccak256 (s.encoded P)

def typedDataPreimage (domain s : TypedStruct) : Bytes :=
  [0x19, 0x01] ++ bigEndian 32 (domain.hash P) ++ bigEndian 32 (s.hash P)

/-- The digest that is signed. -/
def typedDataHash (domain s : TypedStruct) : Bytes32 := P.keccak256 (typedDataPreimage P domain s)

/-- What is hashed on the way to the digest. -/
def typedDataPreimages (domain s : TypedStruct) : Set Bytes :=
  {utf8 domain.type, domain.encoded P, utf8 s.type, s.encoded P, typedDataPreimage P domain s}

end

/-- The members fit in their words. -/
def TypedStruct.Fits (s : TypedStruct) : Prop := ∀ word ∈ s.words, word < 2 ^ 256

variable {P : Primitives}

theorem utf8_injective : Function.Injective utf8 := by
  intro s t h
  apply String.toByteArray_inj.mp
  apply ByteArray.ext
  exact Array.toList_inj.mp h

theorem word_lt (word : Bytes32) : (word : ℕ) < 256 ^ 32 := word.isLt.trans_le (by norm_num)

theorem abiEncode_fits_inj {ws vs : List ℕ} (hws : ∀ x ∈ ws, x < 2 ^ 256)
    (hvs : ∀ x ∈ vs, x < 2 ^ 256) (h : abiEncode ws = abiEncode vs) : ws = vs := by
  have hlength : 32 * ws.length = 32 * vs.length := by
    rw [← length_abiEncode, h, length_abiEncode]
  exact abiEncode_inj (by omega) hws hvs h

theorem TypedStruct.eq_of_hash {s t : TypedStruct} {preimages : Set Bytes}
    (hinj : Set.InjOn P.keccak256 preimages) (hs : s.encoded P ∈ preimages)
    (ht : t.encoded P ∈ preimages) (hstype : utf8 s.type ∈ preimages)
    (httype : utf8 t.type ∈ preimages) (hsfits : s.Fits) (htfits : t.Fits)
    (h : s.hash P = t.hash P) : s = t := by
  have hencoded : s.encoded P = t.encoded P := hinj hs ht h
  have hfits {u : TypedStruct} (hu : u.Fits) :
      ∀ x ∈ (P.keccak256 (utf8 u.type) : ℕ) :: u.words, x < 2 ^ 256 := by
    intro x hx
    cases hx with
    | head => exact (P.keccak256 (utf8 u.type)).isLt
    | tail _ hx => exact hu x hx
  obtain ⟨htype, hwords⟩ := List.cons.inj (abiEncode_fits_inj (hfits hsfits) (hfits htfits) hencoded)
  have hsame : s.type = t.type := utf8_injective (hinj hstype httype (Fin.ext htype))
  cases s
  cases t
  simp_all

/-- A digest stands for one domain and one struct, among inputs on which the hash does not collide. -/
theorem typedDataHash_inj {domain s domain' s' : TypedStruct}
    (hinj : Set.InjOn P.keccak256 (typedDataPreimages P domain s ∪ typedDataPreimages P domain' s'))
    (hdomain : domain.Fits) (hs : s.Fits) (hdomain' : domain'.Fits) (hs' : s'.Fits)
    (h : typedDataHash P domain s = typedDataHash P domain' s') : domain = domain' ∧ s = s' := by
  have hpreimage : typedDataPreimage P domain s = typedDataPreimage P domain' s' :=
    hinj (by simp [typedDataPreimages]) (by simp [typedDataPreimages]) h
  obtain ⟨hstart, hstruct⟩ := List.append_inj hpreimage (by simp)
  obtain ⟨-, hseparator⟩ := List.append_inj hstart (by simp)
  have hash_inj {a b : Bytes32} (hab : bigEndian 32 a = bigEndian 32 b) : a = b :=
    Fin.ext (bigEndian_inj (word_lt a) (word_lt b) hab)
  constructor
  · apply TypedStruct.eq_of_hash hinj _ _ _ _ hdomain hdomain' (hash_inj hseparator) <;>
      simp [typedDataPreimages]
  · apply TypedStruct.eq_of_hash hinj _ _ _ _ hs hs' (hash_inj hstruct) <;>
      simp [typedDataPreimages]

/-! ## Personal messages -/

/-- The bytes of a number in decimal. -/
def decimalBytes (n : ℕ) : Bytes := (Nat.toDigits 10 n).map fun c ↦ UInt8.ofNat c.toNat

/-- A message is signed behind its length, and under another start than typed data. -/
def personalPreimage (message : Bytes) : Bytes :=
  [0x19] ++ utf8 "Ethereum Signed Message:\n" ++ decimalBytes message.length ++ message

def personalHash (P : Primitives) (message : Bytes) : Bytes32 := P.keccak256 (personalPreimage message)

theorem personalPreimage_ne (message : Bytes) (domain s : TypedStruct) :
    personalPreimage message ≠ typedDataPreimage P domain s := by
  intro h
  have hsecond : (personalPreimage message)[1]? = (typedDataPreimage P domain s)[1]? := by rw [h]
  have hletter : (personalPreimage message)[1]? = some 0x45 := rfl
  have hversion : (typedDataPreimage P domain s)[1]? = some 0x01 := rfl
  rw [hletter, hversion] at hsecond
  exact absurd hsecond (by decide)

theorem length_decimalBytes_le {m n : ℕ} (h : m ≤ n) :
    (decimalBytes m).length ≤ (decimalBytes n).length := by
  have hn : n < 10 ^ (Nat.toDigits 10 n).length :=
    (Nat.length_toDigits_le_iff (by decide) Nat.length_toDigits_pos).mp le_rfl
  simp only [decimalBytes, List.length_map]
  exact (Nat.length_toDigits_le_iff (by decide) Nat.length_toDigits_pos).mpr (h.trans_lt hn)

theorem personalPreimage_injective : Function.Injective personalPreimage := by
  intro message message' h
  have hrest : decimalBytes message.length ++ message = decimalBytes message'.length ++ message' := by
    simp only [personalPreimage, List.append_assoc] at h
    exact List.append_cancel_left (List.append_cancel_left h)
  have hlength : (decimalBytes message.length).length + message.length =
      (decimalBytes message'.length).length + message'.length := by
    rw [← List.length_append, hrest, List.length_append]
  have hsame : message.length = message'.length := by
    obtain hle | hle := le_total message.length message'.length
    · have hdigits := length_decimalBytes_le hle
      omega
    · have hdigits := length_decimalBytes_le hle
      omega
  rw [hsame] at hrest
  exact List.append_cancel_left hrest

/-! ## Values of members as texts -/

/-- The types of members that fill one word; of a text the word is its hash. -/
inductive MemberType where
  | string
  | address
  | bytes32
  | uint (bits : ℕ)
  | int (bits : ℕ)
  deriving DecidableEq

def MemberType.name : MemberType → String
  | .string => "string"
  | .address => "address"
  | .bytes32 => "bytes32"
  | .uint bits => "uint" ++ toString bits
  | .int bits => "int" ++ toString bits

def memberTypes : List MemberType :=
  [.string, .address, .bytes32] ++
    (List.range 32).flatMap fun i ↦ [.uint (8 * (i + 1)), .int (8 * (i + 1))]

def MemberType.ofName? (name : String) : Option MemberType :=
  memberTypes.find? fun type ↦ type.name = name

/-- `0x` and so many hexadecimal digits. -/
def hexNumber (digits : ℕ) (text : String) : Option ℕ :=
  match text.toList with
  | '0' :: 'x' :: cs => if cs.length = digits then Script.Number.readDigits 16 cs else none
  | _ => none

/-- An integer in decimal. -/
def decimal (text : String) : Option ℤ :=
  match text.toList with
  | '-' :: cs => (Script.Number.readDigits 10 cs).map fun n ↦ -(n : ℤ)
  | cs => (Script.Number.readDigits 10 cs).map Nat.cast

section

variable (P : Primitives) (account : String → Option Address)

/-- The word of a value. A value that is out of range has none. -/
def MemberType.word : MemberType → String → Option ℕ
  | .string, text => some (P.keccak256 (utf8 text))
  | .address, text => (account text).map Fin.val
  | .bytes32, text => hexNumber 64 text
  | .uint bits, text => (decimal text).bind fun n ↦
      if 0 ≤ n ∧ n < 2 ^ bits then some n.toNat else none
  | .int bits, text => (decimal text).bind fun n ↦
      if -2 ^ (bits - 1) ≤ n ∧ n < 2 ^ (bits - 1) then some (n % 2 ^ 256).toNat else none

/-- The word of a member, which has a name and the name of its type. -/
def memberWord (message : List (String × String)) (m : String × String) : Option ℕ := do
  let type ← MemberType.ofName? m.2
  let text ← message.lookup m.1
  type.word P account text

def structOf (primaryType : String) (members message : List (String × String)) :
    Option TypedStruct :=
  (members.mapM (memberWord P account message)).map (⟨encodeType primaryType members, ·⟩)

end

/-! What is written is read back. -/

theorem readDigits_toDigits (n : ℕ) : Script.Number.readDigits 10 (Nat.toDigits 10 n) = some n := by
  have hdigit : ∀ c ∈ Nat.toDigits 10 n, c.isDigit = true :=
    fun c hc ↦ Nat.isDigit_of_mem_toDigits (by decide) (by decide) hc
  rw [Script.Number.readDigits_of_isDigit Nat.toDigits_ne_nil hdigit, Option.some.injEq]
  calc Script.Number.numeral (Nat.toDigits 10 n)
      = Nat.ofDigitChars 10 (Nat.toDigits 10 n) 0 := by
        simp only [Script.Number.numeral, Nat.ofDigitChars, mul_comm]
        rfl
    _ = n := Nat.ofDigitChars_toDigits (by decide) (by decide)

theorem decimal_natCast (n : ℕ) : decimal (toString n) = some (n : ℤ) := by
  have htext : (toString n).toList = Nat.toDigits 10 n := String.toList_ofList
  have hsign : ∀ cs, Nat.toDigits 10 n ≠ '-' :: cs := by
    intro cs h
    have hdigit : '-'.isDigit = true :=
      Nat.isDigit_of_mem_toDigits (by decide) (by decide) (h ▸ List.mem_cons_self)
    exact absurd hdigit (by decide)
  unfold decimal
  rw [htext]
  split
  · next cs h => exact absurd h (hsign cs)
  · rw [readDigits_toDigits]
    rfl

theorem decimal_toString (n : ℤ) : decimal (toString n) = some n := by
  cases n with
  | ofNat n => exact decimal_natCast n
  | negSucc n =>
    have htext : (toString (Int.negSucc n)).toList = '-' :: Nat.toDigits 10 (n + 1) := by
      simp [toString, Int.repr, Nat.repr]
    simp only [decimal, htext, readDigits_toDigits]
    rfl

variable {P : Primitives} {account : String → Option Address}

theorem word_uint (bits n : ℕ) :
    MemberType.word P account (.uint bits) (toString n) = if n < 2 ^ bits then some n else none := by
  have hcast : (n : ℤ) < 2 ^ bits ↔ n < 2 ^ bits := by exact_mod_cast Iff.rfl
  rw [MemberType.word, decimal_natCast, Option.bind_some]
  simp [hcast]

theorem word_uint_of_lt {bits n : ℕ} (h : n < 2 ^ bits) :
    MemberType.word P account (.uint bits) (toString n) = some n := by
  rw [word_uint, if_pos h]

theorem word_int (bits : ℕ) (n : ℤ) :
    MemberType.word P account (.int bits) (toString n) =
      if -2 ^ (bits - 1) ≤ n ∧ n < 2 ^ (bits - 1) then some (n % 2 ^ 256).toNat else none := by
  simp only [MemberType.word, decimal_toString, Option.bind_some]

theorem memberWord_eq {message : List (String × String)} {name typeName text : String} {type : MemberType}
    {word : ℕ} (htype : MemberType.ofName? typeName = some type)
    (htext : message.lookup name = some text) (hword : type.word P account text = some word) :
    memberWord P account message (name, typeName) = some word := by
  simp [memberWord, htype, htext, hword]

theorem structOf_eq {primaryType type : String} {members message : List (String × String)} {words : List ℕ}
    (htype : encodeType primaryType members = type)
    (h : List.Forall₂ (fun m word ↦ memberWord P account message m = some word) members words) :
    structOf P account primaryType members message = some ⟨type, words⟩ := by
  have hwords : members.mapM (memberWord P account message) = some words := by
    clear htype
    induction h with
    | nil => rfl
    | cons hword _ ih => simp [List.mapM_cons, hword, ih]
  rw [structOf, hwords, htype]
  rfl

theorem isSome_memberWord {primaryType : String} {members message : List (String × String)}
    (h : (structOf P account primaryType members message).isSome) {m : String × String}
    (hm : m ∈ members) : (memberWord P account message m).isSome := by
  rw [structOf, Option.isSome_map] at h
  induction members with
  | nil => cases hm
  | cons first rest ih =>
    rw [List.mapM_cons] at h
    cases hfirst : memberWord P account message first with
    | none => simp [hfirst] at h
    | some word =>
      cases hrest : rest.mapM (memberWord P account message) with
      | none => simp [hfirst, hrest] at h
      | some words =>
        cases hm with
        | head => simp [hfirst]
        | tail _ hm => exact ih (by simp [hrest]) hm

theorem readDigits_lt {cs : List Char} {n : ℕ} (h : Script.Number.readDigits 16 cs = some n) :
    n < 16 ^ cs.length := by
  have hfold : ∀ (cs : List Char) (m n : ℕ),
      cs.foldlM (fun n c ↦ (Script.Number.digitOf 16 c).map (n * 16 + ·)) m = some n →
        n < (m + 1) * 16 ^ cs.length := by
    intro cs
    induction cs with
    | nil =>
      intro m n h
      obtain rfl := Option.some.inj h
      simp
    | cons c cs ih =>
      intro m n h
      rw [List.foldlM_cons] at h
      obtain ⟨next, hnext, h⟩ := Option.bind_eq_some_iff.mp h
      obtain ⟨digit, hdigit, rfl⟩ := Option.map_eq_some_iff.mp hnext
      have hlt : digit < 16 := by
        obtain ⟨hsmall, hsame⟩ := Option.ite_none_right_eq_some.mp hdigit
        rwa [← Option.some.inj hsame]
      calc n < (m * 16 + digit + 1) * 16 ^ cs.length := ih _ _ h
        _ ≤ (m + 1) * 16 * 16 ^ cs.length := Nat.mul_le_mul_right _ (by omega)
        _ = (m + 1) * 16 ^ (c :: cs).length := by rw [List.length_cons, pow_succ']; ring
  unfold Script.Number.readDigits at h
  split at h
  · cases h
  · simpa using hfold cs 0 n h

theorem hexNumber_lt {digits n : ℕ} {text : String} (h : hexNumber digits text = some n) :
    n < 16 ^ digits := by
  unfold hexNumber at h
  split at h
  · split at h
    · next hlength =>
      rw [← hlength]
      exact readDigits_lt h
    · cases h
  · cases h

theorem uint_lt_of_isSome {message : List (String × String)} {name typeName : String} {bits n : ℕ}
    (htype : MemberType.ofName? typeName = some (.uint bits))
    (htext : message.lookup name = some (toString n))
    (h : (memberWord P account message (name, typeName)).isSome) : n < 2 ^ bits := by
  by_contra hlt
  have hword : memberWord P account message (name, typeName) = none := by
    simp only [memberWord, htype, htext, Option.bind_eq_bind, Option.bind_some]
    rw [word_uint, if_neg hlt]
  simp [hword] at h

/-- The types that occur, looked up by one evaluation. -/
theorem ofName?_eq :
    MemberType.ofName? "string" = some .string ∧
    MemberType.ofName? "address" = some .address ∧
    MemberType.ofName? "bytes32" = some .bytes32 ∧
    MemberType.ofName? "uint256" = some (.uint 256) ∧
    MemberType.ofName? "uint64" = some (.uint 64) ∧
    MemberType.ofName? "uint32" = some (.uint 32) ∧
    MemberType.ofName? "uint8" = some (.uint 8) ∧
    MemberType.ofName? "int8" = some (.int 8) := by
  decide +kernel

@[simp]
theorem ofName?_string : MemberType.ofName? "string" = some .string := ofName?_eq.1

@[simp]
theorem ofName?_address : MemberType.ofName? "address" = some .address := ofName?_eq.2.1

@[simp]
theorem ofName?_bytes32 : MemberType.ofName? "bytes32" = some .bytes32 := ofName?_eq.2.2.1

@[simp]
theorem ofName?_uint256 : MemberType.ofName? "uint256" = some (.uint 256) := ofName?_eq.2.2.2.1

@[simp]
theorem ofName?_uint64 : MemberType.ofName? "uint64" = some (.uint 64) := ofName?_eq.2.2.2.2.1

@[simp]
theorem ofName?_uint32 : MemberType.ofName? "uint32" = some (.uint 32) := ofName?_eq.2.2.2.2.2.1

@[simp]
theorem ofName?_uint8 : MemberType.ofName? "uint8" = some (.uint 8) := ofName?_eq.2.2.2.2.2.2.1

@[simp]
theorem ofName?_int8 : MemberType.ofName? "int8" = some (.int 8) := ofName?_eq.2.2.2.2.2.2.2

/-! ## Addresses as texts -/

/-- So many hexadecimal digits of a number, the most significant first. -/
def hexDigits : ℕ → ℕ → List ℕ
  | 0, _ => []
  | k + 1, n => hexDigits k (n / 16) ++ [n % 16]

def smallText (account : Address) : String := String.ofList ((hexDigits 40 account).map Nat.digitChar)

/-- A letter is large under a mark of at least 8. -/
def checksumChar (digit mark : ℕ) : Char :=
  if 8 ≤ mark then (Nat.digitChar digit).toUpper else Nat.digitChar digit

/-- The marks are the digits of the hash of the small text. -/
def checksumAddress (P : Primitives) (account : Address) : String :=
  String.ofList ('0' :: 'x' :: List.zipWith checksumChar (hexDigits 40 account)
    (hexDigits 64 (P.keccak256 (utf8 (smallText account)))))

@[simp]
theorem length_hexDigits (k n : ℕ) : (hexDigits k n).length = k := by
  induction k generalizing n with
  | zero => rfl
  | succ k ih => simp [hexDigits, ih]

theorem hexDigits_lt {k n digit : ℕ} (h : digit ∈ hexDigits k n) : digit < 16 := by
  induction k generalizing n with
  | zero => simp [hexDigits] at h
  | succ k ih =>
    obtain h | h := List.mem_append.mp h
    · exact ih h
    · rw [List.mem_singleton.mp h]
      exact Nat.mod_lt _ (by decide)

theorem foldl_hexDigits {k n : ℕ} (h : n < 16 ^ k) :
    (hexDigits k n).foldl (fun n digit ↦ n * 16 + digit) 0 = n := by
  induction k generalizing n with
  | zero =>
    rw [pow_zero] at h
    exact (Nat.lt_one_iff.mp h).symm
  | succ k ih =>
    have hdiv : n / 16 < 16 ^ k := Nat.div_lt_of_lt_mul (by rwa [pow_succ, mul_comm] at h)
    calc (hexDigits (k + 1) n).foldl (fun n digit ↦ n * 16 + digit) 0
        = (hexDigits k (n / 16)).foldl (fun n digit ↦ n * 16 + digit) 0 * 16 + n % 16 := by
          simp [hexDigits, List.foldl_append]
      _ = n / 16 * 16 + n % 16 := by rw [ih hdiv]
      _ = n := Nat.div_add_mod' n 16

/-- Characters are read as the digits that they stand for. -/
theorem readDigits_eq {cs : List Char} {digits : List ℕ} (hne : cs ≠ [])
    (h : List.Forall₂ (fun c digit ↦ Script.Number.digitOf 16 c = some digit) cs digits) :
    Script.Number.readDigits 16 cs = some (digits.foldl (fun n digit ↦ n * 16 + digit) 0) := by
  have hfold : ∀ m, cs.foldlM (fun n c ↦ (Script.Number.digitOf 16 c).map (n * 16 + ·)) m =
      some (digits.foldl (fun n digit ↦ n * 16 + digit) m) := by
    clear hne
    induction h with
    | nil => exact fun m ↦ rfl
    | cons hdigit _ ih =>
      intro m
      rw [List.foldlM_cons, hdigit]
      exact ih _
  rw [Script.Number.readDigits, if_neg hne, hfold]

theorem digitOf_checksumChar : ∀ digit < 16, ∀ mark < 16,
    Script.Number.digitOf 16 (checksumChar digit mark) = some digit := by
  decide

theorem forall₂_checksumChar {digits marks : List ℕ} (hlength : digits.length ≤ marks.length)
    (hdigits : ∀ digit ∈ digits, digit < 16) (hmarks : ∀ mark ∈ marks, mark < 16) :
    List.Forall₂ (fun c digit ↦ Script.Number.digitOf 16 c = some digit)
      (List.zipWith checksumChar digits marks) digits := by
  induction digits generalizing marks with
  | nil => exact .nil
  | cons digit digits ih =>
    cases marks with
    | nil => simp at hlength
    | cons mark marks =>
      rw [List.forall_mem_cons] at hdigits hmarks
      exact .cons (digitOf_checksumChar digit hdigits.1 mark hmarks.1)
        (ih (Nat.le_of_succ_le_succ hlength) hdigits.2 hmarks.2)

/-- A checksum is read as its address, whatever the hash is. -/
theorem hexNumber_checksumAddress (P : Primitives) (account : Address) :
    hexNumber 40 (checksumAddress P account) = some (account : ℕ) := by
  have hdigits : List.Forall₂ (fun c digit ↦ Script.Number.digitOf 16 c = some digit)
      (List.zipWith checksumChar (hexDigits 40 account)
        (hexDigits 64 (P.keccak256 (utf8 (smallText account))))) (hexDigits 40 account) :=
    forall₂_checksumChar (by simp) (fun _ ↦ hexDigits_lt) (fun _ ↦ hexDigits_lt)
  have hlength := hdigits.length_eq
  rw [length_hexDigits] at hlength
  rw [hexNumber, checksumAddress, String.toList_ofList]
  simp only [hlength, if_true]
  have hne : List.zipWith checksumChar (hexDigits 40 account)
      (hexDigits 64 (P.keccak256 (utf8 (smallText account)))) ≠ [] := by
    intro hnil
    rw [hnil] at hlength
    cases hlength
  rw [readDigits_eq hne hdigits, foldl_hexDigits (account.isLt.trans_eq (by norm_num))]

end CreatorFirst.Chain
