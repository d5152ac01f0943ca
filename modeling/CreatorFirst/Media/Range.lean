import CreatorFirst.Script.Integers

/-!
# Byte ranges of media files

The header of a request for a part of a file, and the part that is served. Sizes and positions are numbers of the
script, which hold integers up to `2 ^ 53` exactly.
-/

namespace CreatorFirst.Media

open Script

/-- What is thrown: an `Error` or a `RangeError`. -/
inductive Failure where
  | error (message : String)
  | rangeError (message : String)
  deriving DecidableEq

structure ByteRange where
  start : Number
  /-- The last position, which is served too. -/
  last : Number
  isPartial : Bool
  deriving DecidableEq

/-- `/^bytes=(\d*)-(\d*)$/` -/
def rangeMatch (s : List Char) : Option (List Char × List Char) :=
  if "bytes=".toList <+: s then
    let rest := s.drop 6
    match rest.dropWhile Char.isDigit with
    | '-' :: second =>
      if second.all Char.isDigit then some (rest.takeWhile Char.isDigit, second) else none
    | _ => none
  else none

/-- The last test, and what is returned. -/
def checkRange (start last size : Number) : Except Failure ByteRange :=
  if !start.isSafeInteger || !last.isSafeInteger || start.lt (.finite 0) || last.lt start || size.le start then
    .error (.rangeError "Unsatisfiable Range")
  else .ok ⟨start, last.min (size.sub (.finite 1)), true⟩

def parseSingleRange (header : Option (List Char)) (size : Number) : Except Failure ByteRange :=
  match header with
  | none | some [] => .ok ⟨.finite 0, size.sub (.finite 1), false⟩
  | some header =>
    match rangeMatch (Number.trim header) with
    | none | some ([], []) => .error (.rangeError "Unsupported Range")
    | some ([], second) =>
      let suffix := Number.ofString (String.ofList second)
      if !suffix.isSafeInteger || suffix.le (.finite 0) then .error (.rangeError "Invalid Range")
      else checkRange (Number.max (.finite 0) (size.sub suffix)) (size.sub (.finite 1)) size
    | some (first, second) =>
      checkRange (Number.ofString (String.ofList first))
        (if second = [] then size.sub (.finite 1) else Number.ofString (String.ofList second)) size

/-! ## Files -/

/-- What is at a path: a file with its bytes, or something else. -/
inductive Entry where
  | file (content : List UInt8)
  | other

abbrev FileSystem := List Char → Option Entry

/-- `path.resolve` with a root that is absolute. -/
def resolve (root reference : List Char) : List Char :=
  let path := if reference.head? = some '/' then reference else root ++ '/' :: reference
  let names := (path.splitOn '/').foldl (fun names name ↦
    if name = [] ∨ name = ['.'] then names else if name = ['.', '.'] then names.dropLast else names ++ [name]) []
  '/' :: List.intercalate ['/'] names

/-- `createReadStream` with a start and an end, and the bytes that it delivers. -/
def createReadStream (content : List UInt8) (start last : Number) : Except Failure (List UInt8) :=
  match start, last with
  | .finite p, .finite q =>
    if start.isSafeInteger && last.isSafeInteger && 0 ≤ p && 0 ≤ q && p ≤ q then
      .ok ((content.drop p.num.natAbs).take (q.num.natAbs + 1 - p.num.natAbs))
    else .error (.rangeError "out of range")
  | _, _ => .error (.rangeError "out of range")

structure Response where
  status : ℕ
  headers : List (String × String)
  body : List UInt8
  rangeSummary : String

/-- The part of `open` that knows the file. -/
def respond (reference : List Char) (content : List UInt8) (rangeHeader : Option (List Char)) :
    Except Failure Response := do
  let range ← parseSingleRange rangeHeader (Number.round content.length)
  let length := (range.last.sub range.start).add (.finite 1)
  let summary := range.start.text ++ "-" ++ range.last.text ++ "/" ++ (Number.round content.length).text
  let body ← createReadStream content range.start range.last
  return {
    status := if range.isPartial then 206 else 200
    headers :=
      [("Accept-Ranges", "bytes"), ("Content-Length", length.text),
        ("Content-Type", if ".wav".toList <:+ reference then "audio/wav" else "application/octet-stream")] ++
      if range.isPartial then [("Content-Range", "bytes " ++ summary)] else []
    body
    rangeSummary := summary }

structure FileMediaAdapter where
  root : List Char

def FileMediaAdapter.open (adapter : FileMediaAdapter) (files : FileSystem) (reference : List Char)
    (rangeHeader : Option (List Char)) : Except Failure Response :=
  let target := resolve adapter.root reference
  if target ≠ adapter.root ∧ ¬adapter.root ++ ['/'] <+: target then
    .error (.error "Media reference escaped the approved root")
  else
    match files target with
    | none => .error (.error "ENOENT: no such file or directory")
    | some .other => .error (.error "Media reference is not a file")
    | some (.file content) => respond reference content rangeHeader

/-! ## Requests -/

/-- Decimal digits, at least one. -/
def Digits (ds : List Char) : Prop := ds ≠ [] ∧ ∀ c ∈ ds, c.isDigit = true

inductive Request where
  | interval (first last : ℕ)
  | tail (first : ℕ)
  | suffix (count : ℕ)

namespace Request

/-- `bytes=a-b`, `bytes=a-` and `bytes=-k` -/
inductive Spells : List Char → Request → Prop
  | interval {ds ds' : List Char} (h : Digits ds) (h' : Digits ds') :
    Spells ("bytes=".toList ++ ds ++ '-' :: ds') (.interval (Number.numeral ds) (Number.numeral ds'))
  | tail {ds : List Char} (h : Digits ds) : Spells ("bytes=".toList ++ ds ++ ['-']) (.tail (Number.numeral ds))
  | suffix {ds : List Char} (h : Digits ds) : Spells ("bytes=-".toList ++ ds) (.suffix (Number.numeral ds))

/-- The positions asked for in a file of `n` bytes. -/
def Wants (n : ℕ) : Request → ℕ → Prop
  | .interval first last, i => first ≤ i ∧ i ≤ last
  | .tail first, i => first ≤ i
  | .suffix count, i => n ≤ i + count

def Satisfiable (n : ℕ) : Request → Prop
  | .interval first last => first < n ∧ first ≤ last
  | .tail first => first < n
  | .suffix count => 0 < count ∧ 0 < n

/-- The numbers of a script hold what is asked for. -/
def Fits (n : ℕ) : Request → Prop
  | .interval _ last => last < 2 ^ 53
  | .tail _ => n ≤ 2 ^ 53
  | .suffix count => count < 2 ^ 53 ∧ n ≤ 2 ^ 53

/-- A numeral of the request is not a safe integer, be it satisfiable or not. -/
def TooLong : Request → Prop
  | .interval _ last => 2 ^ 53 ≤ last
  | .tail _ => False
  | .suffix count => 2 ^ 53 ≤ count

end Request

/-! ## Reading the header -/

theorem rangeMatch_eq_some {s first second : List Char} :
    rangeMatch s = some (first, second) ↔ s = "bytes=".toList ++ first ++ '-' :: second ∧
      (∀ c ∈ first, c.isDigit = true) ∧ ∀ c ∈ second, c.isDigit = true := by
  constructor
  · intro h
    unfold rangeMatch at h
    split at h
    · next hprefix =>
      obtain ⟨rest, rfl⟩ := hprefix
      have hrest : ("bytes=".toList ++ rest).drop 6 = rest := rfl
      rw [hrest] at h
      dsimp only at h
      split at h
      · next second' hdrop =>
        split at h
        · next hall =>
          cases h
          refine ⟨?_, fun c hc ↦ List.mem_takeWhile_imp hc, List.all_eq_true.mp hall⟩
          rw [List.append_assoc, ← hdrop, List.takeWhile_append_dropWhile]
        · cases h
      · cases h
    · cases h
  · rintro ⟨rfl, hfirst, hsecond⟩
    have hdrop : ("bytes=".toList ++ first ++ '-' :: second).drop 6 = first ++ '-' :: second := rfl
    have hprefix : "bytes=".toList <+: "bytes=".toList ++ first ++ '-' :: second :=
      ⟨first ++ '-' :: second, by simp⟩
    have htail : (first ++ '-' :: second).dropWhile Char.isDigit = '-' :: second := by
      rw [List.dropWhile_append_of_pos hfirst]
      rfl
    have hhead : (first ++ '-' :: second).takeWhile Char.isDigit = first := by
      rw [List.takeWhile_append_of_pos hfirst]
      exact List.append_nil first
    rw [rangeMatch, if_pos hprefix, hdrop]
    dsimp only
    rw [htail, hhead]
    exact if_pos (List.all_eq_true.mpr hsecond)

/-- What is done with the groups of a match. -/
theorem parseSingleRange_some {header : List Char} (hne : header ≠ []) (size : Number) :
    parseSingleRange (some header) size =
      match rangeMatch (Number.trim header) with
      | none | some ([], []) => .error (.rangeError "Unsupported Range")
      | some ([], second) =>
        let suffix := Number.ofString (String.ofList second)
        if !suffix.isSafeInteger || suffix.le (.finite 0) then .error (.rangeError "Invalid Range")
        else checkRange (Number.max (.finite 0) (size.sub suffix)) (size.sub (.finite 1)) size
      | some (first, second) =>
        checkRange (Number.ofString (String.ofList first))
          (if second = [] then size.sub (.finite 1) else Number.ofString (String.ofList second)) size := by
  cases header with
  | nil => exact absurd rfl hne
  | cons c header => rfl

theorem ne_nil_of_trim {header : List Char} (h : Number.trim header ≠ []) : header ≠ [] := by
  rintro rfl
  exact h rfl

/-- Every other header is refused. -/
theorem parseSingleRange_of_not_spells {header : List Char} (hne : header ≠ [])
    (h : ∀ r, ¬Request.Spells (Number.trim header) r) (size : Number) :
    parseSingleRange (some header) size = .error (.rangeError "Unsupported Range") := by
  rw [parseSingleRange_some hne]
  split
  · rfl
  · rfl
  · next second hsecond hmatch =>
    obtain ⟨htrim, -, hdigits⟩ := rangeMatch_eq_some.mp hmatch
    rw [htrim] at h
    exact absurd (Request.Spells.suffix ⟨hsecond, hdigits⟩) (h _)
  · next first second _ hfirst hmatch =>
    obtain ⟨htrim, hdigits, hdigits'⟩ := rangeMatch_eq_some.mp hmatch
    rw [htrim] at h
    by_cases hsecond : second = []
    · rw [hsecond] at h
      exact absurd (Request.Spells.tail ⟨hfirst, hdigits⟩) (h _)
    · exact absurd (Request.Spells.interval ⟨hfirst, hdigits⟩ ⟨hsecond, hdigits'⟩) (h _)

section Spelled

variable {header ds ds' : List Char} {size : Number}

theorem parseSingleRange_interval (hd : Digits ds) (hd' : Digits ds')
    (htrim : Number.trim header = "bytes=".toList ++ ds ++ '-' :: ds') :
    parseSingleRange (some header) size =
      checkRange (Number.round (Number.numeral ds)) (Number.round (Number.numeral ds')) size := by
  have hmatch := rangeMatch_eq_some.mpr ⟨htrim, hd.2, hd'.2⟩
  rw [parseSingleRange_some (ne_nil_of_trim (by rw [htrim]; simp)), hmatch]
  obtain ⟨c, ds, rfl⟩ := List.exists_cons_of_ne_nil hd.1
  change checkRange _ (if ds' = [] then _ else _) size = _
  rw [if_neg hd'.1, Number.ofString_of_isDigit hd.1 hd.2, Number.ofString_of_isDigit hd'.1 hd'.2]

theorem parseSingleRange_tail (hd : Digits ds) (htrim : Number.trim header = "bytes=".toList ++ ds ++ ['-']) :
    parseSingleRange (some header) size =
      checkRange (Number.round (Number.numeral ds)) (size.sub (.finite 1)) size := by
  have hmatch := rangeMatch_eq_some.mpr ⟨htrim, hd.2, fun c hc ↦ absurd hc List.not_mem_nil⟩
  rw [parseSingleRange_some (ne_nil_of_trim (by rw [htrim]; simp)), hmatch]
  obtain ⟨c, ds, rfl⟩ := List.exists_cons_of_ne_nil hd.1
  change checkRange _ (size.sub (.finite 1)) size = _
  rw [Number.ofString_of_isDigit hd.1 hd.2]

theorem parseSingleRange_suffix (hd : Digits ds) (htrim : Number.trim header = "bytes=-".toList ++ ds) :
    parseSingleRange (some header) size =
      if !(Number.round (Number.numeral ds)).isSafeInteger || (Number.round (Number.numeral ds)).le (.finite 0) then
        .error (.rangeError "Invalid Range")
      else
        checkRange (Number.max (.finite 0) (size.sub (Number.round (Number.numeral ds)))) (size.sub (.finite 1))
          size := by
  have hmatch : rangeMatch (Number.trim header) = some ([], ds) :=
    rangeMatch_eq_some.mpr ⟨htrim, fun c hc ↦ absurd hc List.not_mem_nil, hd.2⟩
  rw [parseSingleRange_some (ne_nil_of_trim (by rw [htrim]; simp)), hmatch,
    ← Number.ofString_of_isDigit hd.1 hd.2]
  obtain ⟨c, ds, rfl⟩ := List.exists_cons_of_ne_nil hd.1
  rfl

end Spelled

/-! ## The last test -/

open Number

theorem checkRange_of_unsafe {start last size : Number}
    (h : start.isSafeInteger = false ∨ last.isSafeInteger = false) :
    checkRange start last size = .error (.rangeError "Unsatisfiable Range") := by
  apply if_pos
  obtain h | h := h <;> simp [h]

/-- A test of positions that the script holds exactly. -/
theorem checkRange_intCast {a b : ℤ} {size : Number} (ha : a.natAbs < 2 ^ 53) (hb : b.natAbs < 2 ^ 53) :
    checkRange (finite a) (finite b) size =
      if 0 ≤ a ∧ a ≤ b ∧ size.le (finite a) = false then
        .ok ⟨finite a, (finite b).min (size.sub (finite 1)), true⟩
      else .error (.rangeError "Unsatisfiable Range") := by
  have hstart : (finite a).isSafeInteger = true := isSafeInteger_intCast.mpr ha
  have hlast : (finite b).isSafeInteger = true := isSafeInteger_intCast.mpr hb
  have hnegative : (finite a).lt (finite 0) = decide (a < 0) := by
    rw [Bool.eq_iff_iff, decide_eq_true_iff]
    exact_mod_cast lt_intCast (b := 0)
  have hback : (finite b).lt (finite a) = decide (b < a) := by
    rw [Bool.eq_iff_iff, decide_eq_true_iff]
    exact lt_intCast
  rw [checkRange, hstart, hlast, hnegative, hback]
  by_cases h : 0 ≤ a ∧ a ≤ b ∧ size.le (finite a) = false
  · have htest : (!true || !true || decide (a < 0) || decide (b < a) || size.le (finite a)) = false := by
      simp [h.1, h.2.1, h.2.2]
    rw [htest, if_neg Bool.false_ne_true, if_pos h]
  · have htest : (!true || !true || decide (a < 0) || decide (b < a) || size.le (finite a)) = true := by
      by_cases hzero : 0 ≤ a
      · by_cases hab : a ≤ b
        · have hsize : size.le (finite a) = true := by simpa [hzero, hab] using h
          simp [hsize]
        · simp [not_le.mp hab]
      · simp [not_le.mp hzero]
    rw [htest, if_pos rfl, if_neg h]

/-- The size as far as small positions can be compared with it. -/
theorem le_size {n a : ℕ} (ha : a < 2 ^ 53) : (Number.round n).le (finite (a : ℤ)) = decide (n ≤ a) := by
  by_cases hn : n ≤ 2 ^ 53
  · rw [round_natCast hn, Bool.eq_iff_iff, decide_eq_true_iff, le_intCast, Int.ofNat_le]
  · have hlarge : (Number.round n).AtLeast (2 ^ 53) := atLeast_round_of_le (by exact_mod_cast (not_le.mp hn).le)
    rw [hlarge.le_eq_false (by exact_mod_cast ha), eq_comm, decide_eq_false_iff_not]
    omega

theorem min_size {n b : ℕ} (hb : b < 2 ^ 53) (hpos : 0 < n) :
    (finite (b : ℤ)).min ((Number.round n).sub (finite 1)) = finite ((min b (n - 1) : ℕ) : ℤ) := by
  by_cases hn : n ≤ 2 ^ 53
  · have hsub : (Number.round n).sub (finite 1) = finite ((n - 1 : ℕ) : ℤ) := by
      have h : (finite (n : ℤ)).sub (finite (1 : ℤ)) = finite ((n : ℤ) - 1 : ℤ) := sub_intCast (by omega)
      rw [Int.cast_one] at h
      rw [round_natCast hn, h, Nat.cast_sub hpos, Nat.cast_one]
    rw [hsub, min_intCast, Nat.cast_min]
  · have hlarge : (Number.round n).AtLeast (2 ^ 53) := atLeast_round_of_le (by exact_mod_cast (not_le.mp hn).le)
    rw [hlarge.sub_one.min_eq (by omega), min_eq_left (by omega)]

theorem sub_one_size {n : ℕ} (hn : n ≤ 2 ^ 53) :
    (Number.round n).sub (finite 1) = finite ((n : ℤ) - 1 : ℤ) := by
  have h : (finite (n : ℤ)).sub (finite (1 : ℤ)) = finite ((n : ℤ) - 1 : ℤ) := sub_intCast (by omega)
  rwa [Int.cast_one, ← round_natCast hn] at h

theorem last_position {n : ℕ} (hpos : 0 < n) (hn : n ≤ 2 ^ 53) :
    (Number.round n).sub (finite 1) = finite ((n - 1 : ℕ) : ℤ) := by
  rw [sub_one_size hn, Nat.cast_sub hpos, Nat.cast_one]

theorem unsafe_round {n : ℕ} (hn : 2 ^ 53 ≤ n) : (Number.round n).isSafeInteger = false :=
  not_isSafeInteger_of_atLeast (atLeast_round_of_le (by exact_mod_cast hn))

/-! ## Answers -/

/-- What is returned are the positions asked for that the file has. -/
def Yields (n : ℕ) (r : Request) (range : Except Failure ByteRange) : Prop :=
  ∃ first last : ℕ, range = .ok ⟨finite (first : ℤ), finite (last : ℤ), true⟩ ∧ first ≤ last ∧ last < n ∧
    ∀ i, first ≤ i ∧ i ≤ last ↔ i < n ∧ r.Wants n i

def Refused (range : Except Failure ByteRange) : Prop := ∃ message, range = .error (.rangeError message)

theorem refused_of_unsafe {start last size : Number}
    (h : start.isSafeInteger = false ∨ last.isSafeInteger = false) : Refused (checkRange start last size) :=
  ⟨_, checkRange_of_unsafe h⟩

theorem refused_of_outside {a b : ℤ} {size : Number} (ha : a.natAbs < 2 ^ 53) (hb : b.natAbs < 2 ^ 53)
    (h : ¬(0 ≤ a ∧ a ≤ b ∧ size.le (finite a) = false)) : Refused (checkRange (finite a) (finite b) size) := by
  rw [checkRange_intCast ha hb, if_neg h]
  exact ⟨_, rfl⟩

/-- Positions between two others, checked against a size. -/
theorem checkRange_inside {a b n : ℕ} (hab : a ≤ b) (hb : b < 2 ^ 53) (han : a < n) :
    checkRange (finite (a : ℤ)) (finite (b : ℤ)) (Number.round n) =
      .ok ⟨finite (a : ℤ), finite ((min b (n - 1) : ℕ) : ℤ), true⟩ := by
  have hsize : (Number.round n).le (finite (a : ℤ)) = false := by
    rw [le_size (by omega), decide_eq_false_iff_not]
    omega
  rw [checkRange_intCast (by omega) (by omega), if_pos ⟨by omega, by omega, hsize⟩, min_size hb (by omega)]

/-- The test of the length of a suffix. -/
theorem suffix_test {k : ℕ} (hk : k < 2 ^ 53) :
    (!(Number.round k).isSafeInteger || (Number.round k).le (finite 0)) = decide (k = 0) := by
  have hsafe : (Number.round k).isSafeInteger = true := by
    rw [Number.round_natCast hk.le]
    exact isSafeInteger_intCast.mpr (by omega)
  have hle : (finite (k : ℤ)).le (finite (0 : ℤ)) = decide (k = 0) := by
    rw [Bool.eq_iff_iff, decide_eq_true_iff, le_intCast]
    omega
  rw [Int.cast_zero, ← Number.round_natCast hk.le] at hle
  rw [hsafe, hle]
  rfl

theorem suffix_start {n k : ℕ} (hn : n ≤ 2 ^ 53) (hk : k < 2 ^ 53) :
    Number.max (finite 0) ((Number.round n).sub (Number.round k)) = finite ((n - k : ℕ) : ℤ) := by
  have hmax : (finite (0 : ℤ)).max (finite ((n : ℤ) - k : ℤ)) = finite (max 0 ((n : ℤ) - k) : ℤ) := max_intCast
  have hcast : max 0 ((n : ℤ) - k) = ((n - k : ℕ) : ℤ) := by omega
  rw [Int.cast_zero, hcast] at hmax
  rw [Number.round_natCast hn, Number.round_natCast hk.le, sub_intCast (by omega), hmax]

section Requests

variable {header : List Char} {r : Request} {n : ℕ}

theorem parseSingleRange_of_satisfiable (hspells : Request.Spells (Number.trim header) r)
    (hsatisfiable : r.Satisfiable n) (hfits : r.Fits n) :
    Yields n r (parseSingleRange (some header) (Number.round n)) := by
  generalize htrim : Number.trim header = s at hspells
  cases hspells with
  | @interval ds ds' hd hd' =>
    obtain ⟨hfirst, hle⟩ := hsatisfiable
    rw [parseSingleRange_interval hd hd' htrim]
    generalize Number.numeral ds = a at *
    generalize Number.numeral ds' = b at *
    have hb : b < 2 ^ 53 := hfits
    rw [Number.round_natCast (by omega), Number.round_natCast (by omega), checkRange_inside hle hb hfirst]
    refine ⟨a, min b (n - 1), rfl, by omega, by omega, fun i ↦ ?_⟩
    change _ ↔ i < n ∧ a ≤ i ∧ i ≤ b
    omega
  | @tail ds hd =>
    rw [parseSingleRange_tail hd htrim]
    generalize Number.numeral ds = a at *
    have hfirst : a < n := hsatisfiable
    have hn : n ≤ 2 ^ 53 := hfits
    rw [last_position (by omega) hn, round_natCast (by omega : a ≤ 2 ^ 53),
      checkRange_inside (by omega) (by omega) hfirst]
    refine ⟨a, min (n - 1) (n - 1), rfl, by omega, by omega, fun i ↦ ?_⟩
    change _ ↔ i < n ∧ a ≤ i
    omega
  | @suffix ds hd =>
    obtain ⟨hcount, hpos⟩ := hsatisfiable
    rw [parseSingleRange_suffix hd htrim]
    generalize Number.numeral ds = k at *
    obtain ⟨hk, hn⟩ := hfits
    have htest : decide (k = 0) = false := decide_eq_false (by omega)
    rw [suffix_test hk, htest, suffix_start hn hk, last_position hpos hn, if_neg Bool.false_ne_true,
      checkRange_inside (by omega) (by omega) (by omega)]
    refine ⟨n - k, min (n - 1) (n - 1), rfl, by omega, by omega, fun i ↦ ?_⟩
    change _ ↔ i < n ∧ n ≤ i + k
    omega

theorem parseSingleRange_of_not_satisfiable (hspells : Request.Spells (Number.trim header) r)
    (hsatisfiable : ¬r.Satisfiable n) : Refused (parseSingleRange (some header) (Number.round n)) := by
  generalize htrim : Number.trim header = s at hspells
  cases hspells with
  | @interval ds ds' hd hd' =>
    rw [parseSingleRange_interval hd hd' htrim]
    generalize Number.numeral ds = a at *
    generalize Number.numeral ds' = b at *
    by_cases ha : 2 ^ 53 ≤ a
    · exact refused_of_unsafe (.inl (unsafe_round ha))
    · by_cases hb : 2 ^ 53 ≤ b
      · exact refused_of_unsafe (.inr (unsafe_round hb))
      · rw [Number.round_natCast (by omega), Number.round_natCast (by omega)]
        apply refused_of_outside (by omega) (by omega)
        rw [le_size (by omega), decide_eq_false_iff_not]
        have hnot : ¬(a < n ∧ a ≤ b) := hsatisfiable
        omega
  | @tail ds hd =>
    rw [parseSingleRange_tail hd htrim]
    generalize Number.numeral ds = a at *
    by_cases ha : 2 ^ 53 ≤ a
    · exact refused_of_unsafe (.inl (unsafe_round ha))
    · have hnot : ¬a < n := hsatisfiable
      rw [sub_one_size (by omega), round_natCast (by omega : a ≤ 2 ^ 53)]
      apply refused_of_outside (by omega) (by omega)
      rw [le_size (by omega), decide_eq_false_iff_not]
      omega
  | @suffix ds hd =>
    rw [parseSingleRange_suffix hd htrim]
    generalize Number.numeral ds = k at *
    have hnot : ¬(0 < k ∧ 0 < n) := hsatisfiable
    by_cases hk : 2 ^ 53 ≤ k
    · refine ⟨"Invalid Range", if_pos ?_⟩
      rw [unsafe_round hk]
      rfl
    · rw [suffix_test (by omega)]
      by_cases hzero : k = 0
      · exact ⟨"Invalid Range", if_pos (decide_eq_true hzero)⟩
      · obtain rfl : n = 0 := by omega
        rw [decide_eq_false hzero, if_neg Bool.false_ne_true, suffix_start (by omega) (by omega),
          sub_one_size (by omega)]
        exact refused_of_outside (by omega) (by omega) (by omega)

theorem parseSingleRange_of_tooLong (hspells : Request.Spells (Number.trim header) r) (hlong : r.TooLong)
    (size : Number) : Refused (parseSingleRange (some header) size) := by
  generalize htrim : Number.trim header = s at hspells
  cases hspells with
  | interval hd hd' =>
    rw [parseSingleRange_interval hd hd' htrim]
    exact refused_of_unsafe (.inr (unsafe_round hlong))
  | tail => exact hlong.elim
  | suffix hd =>
    rw [parseSingleRange_suffix hd htrim]
    refine ⟨"Invalid Range", if_pos ?_⟩
    rw [unsafe_round hlong]
    rfl

end Requests

/-! ## What is served -/

/-- The reference leads to a file below the root. -/
structure FileMediaAdapter.Holds (adapter : FileMediaAdapter) (files : FileSystem) (reference : List Char)
    (content : List UInt8) : Prop where
  inside : resolve adapter.root reference = adapter.root ∨
    adapter.root ++ ['/'] <+: resolve adapter.root reference
  file : files (resolve adapter.root reference) = some (.file content)

variable {adapter : FileMediaAdapter} {files : FileSystem} {reference : List Char} {content : List UInt8}
  {header : Option (List Char)}

theorem FileMediaAdapter.Holds.open_eq (h : adapter.Holds files reference content) :
    adapter.open files reference header = respond reference content header := by
  have hinside : ¬(resolve adapter.root reference ≠ adapter.root ∧
      ¬adapter.root ++ ['/'] <+: resolve adapter.root reference) := by
    rintro ⟨hroot, hprefix⟩
    exact h.inside.elim hroot hprefix
  rw [FileMediaAdapter.open, if_neg hinside, h.file]

theorem createReadStream_eq (content : List UInt8) {first last : ℕ} (hle : first ≤ last)
    (hlast : last < 2 ^ 53) :
    createReadStream content (finite (first : ℤ)) (finite (last : ℤ)) =
      .ok ((content.drop first).take (last + 1 - first)) := by
  have hfirst : (finite (first : ℤ)).isSafeInteger = true := isSafeInteger_intCast.mpr (by omega)
  have hlast' : (finite (last : ℤ)).isSafeInteger = true := isSafeInteger_intCast.mpr (by omega)
  have hzero : (0 : ℚ) ≤ ((first : ℤ) : ℚ) := by exact_mod_cast Nat.zero_le first
  have hzero' : (0 : ℚ) ≤ ((last : ℤ) : ℚ) := by exact_mod_cast Nat.zero_le last
  have hle' : ((first : ℤ) : ℚ) ≤ ((last : ℤ) : ℚ) := by exact_mod_cast hle
  rw [createReadStream, hfirst, hlast', decide_eq_true hzero, decide_eq_true hzero', decide_eq_true hle']
  rfl

/-- A response with the bytes between two positions. -/
structure Response.Serves (response : Response) (content : List UInt8) (first last : ℕ) : Prop where
  body : response.body = (content.drop first).take (last - first + 1)
  contentLength : response.headers.lookup "Content-Length" = some (toString (last - first + 1))
  contentRange : response.headers.lookup "Content-Range" =
    if response.status = 206 then
      some ("bytes " ++ (toString first ++ "-" ++ toString last ++ "/" ++ toString content.length))
    else none

theorem length_text {first last : ℕ} (hle : first ≤ last) (hlast : last < 2 ^ 53) :
    (((finite (last : ℤ)).sub (finite (first : ℤ))).add (finite 1)).text = toString (last - first + 1) := by
  have hsub : (finite (last : ℤ)).sub (finite (first : ℤ)) = finite ((last : ℤ) - first : ℤ) :=
    sub_intCast (by omega)
  have hadd :
      (finite ((last : ℤ) - first : ℤ)).add (finite (1 : ℤ)) = finite ((last - first + 1 : ℕ) : ℤ) := by
    rw [add_intCast (by omega)]
    congr 2
    omega
  rw [Int.cast_one] at hadd
  rw [hsub, hadd, text_intCast (by omega)]
  rfl

theorem respond_eq (reference : List Char) {first last : ℕ} {isPartial : Bool}
    (hsize : content.length ≤ 2 ^ 53) (hle : first ≤ last)
    (hlast : last < content.length)
    (hrange : parseSingleRange header (Number.round content.length) =
      .ok ⟨finite (first : ℤ), finite (last : ℤ), isPartial⟩) :
    ∃ response, respond reference content header = .ok response ∧
      response.status = (if isPartial then 206 else 200) ∧ response.Serves content first last := by
  have hlength := length_text hle (by omega : last < 2 ^ 53)
  have htotal : (Number.round content.length).text = toString content.length := by
    rw [Number.round_natCast hsize, text_intCast (by omega)]
    rfl
  have hfirst : (finite (first : ℤ)).text = toString first := text_intCast (by omega)
  have hlast' : (finite (last : ℤ)).text = toString last := text_intCast (by omega)
  have hstream := createReadStream_eq content hle (by omega : last < 2 ^ 53)
  have hcount : last + 1 - first = last - first + 1 := by omega
  have hrespond : respond reference content header = .ok {
      status := if isPartial then 206 else 200
      headers :=
        [("Accept-Ranges", "bytes"), ("Content-Length", toString (last - first + 1)),
          ("Content-Type", if ".wav".toList <:+ reference then "audio/wav" else "application/octet-stream")] ++
        if isPartial then
          [("Content-Range", "bytes " ++ (toString first ++ "-" ++ toString last ++ "/" ++ toString content.length))]
        else []
      body := (content.drop first).take (last - first + 1)
      rangeSummary := toString first ++ "-" ++ toString last ++ "/" ++ toString content.length } := by
    rw [respond, hrange]
    change (createReadStream content (finite (first : ℤ)) (finite (last : ℤ))).bind _ = _
    rw [hstream, hlength, hfirst, hlast', htotal, hcount]
    rfl
  refine ⟨_, hrespond, rfl, rfl, ?_, ?_⟩
  · cases isPartial <;> rfl
  · cases isPartial <;> rfl

theorem FileMediaAdapter.Holds.open_whole (h : adapter.Holds files reference content) (hne : content ≠ [])
    (hsize : content.length ≤ 2 ^ 53) :
    ∃ response, adapter.open files reference none = .ok response ∧ response.status = 200 ∧
      response.body = content ∧ response.Serves content 0 (content.length - 1) := by
  have hpos : 0 < content.length := List.length_pos_iff.mpr hne
  have hrange : parseSingleRange none (Number.round content.length) =
      .ok ⟨finite ((0 : ℕ) : ℤ), finite ((content.length - 1 : ℕ) : ℤ), false⟩ := by
    rw [parseSingleRange, last_position hpos hsize]
    rfl
  obtain ⟨response, hresponse, hstatus, hserves⟩ :=
    respond_eq reference hsize (Nat.zero_le _) (Nat.sub_one_lt_of_lt hpos) hrange
  refine ⟨response, h.open_eq.trans hresponse, hstatus, ?_, hserves⟩
  rw [hserves.body, List.drop_zero, List.take_of_length_le (by omega)]

theorem FileMediaAdapter.Holds.open_error (h : adapter.Holds files reference content) {failure : Failure}
    (hrange : parseSingleRange header (Number.round content.length) = .error failure) :
    adapter.open files reference header = .error failure := by
  rw [h.open_eq, respond, hrange]
  rfl

/-- The last position of an empty file is negative, which a stream refuses. -/
theorem respond_empty (reference : List Char) :
    respond reference [] none = .error (.rangeError "out of range") := by
  have hrange : parseSingleRange none (Number.round ([] : List UInt8).length) =
      .ok ⟨finite 0, finite ((-1 : ℤ) : ℚ), false⟩ := by
    have hsub := sub_one_size (n := ([] : List UInt8).length) (Nat.zero_le _)
    rw [parseSingleRange, hsub]
    rfl
  have hstream :
      createReadStream [] (finite 0) (finite ((-1 : ℤ) : ℚ)) = .error (.rangeError "out of range") := by
    rw [createReadStream]
    exact if_neg (by simp)
  simp only [respond, hrange, bind, Except.bind, hstream]

/-- On files of at most `2 ^ 53` bytes, and with numerals below `2 ^ 53`, a range is served exactly if it is
satisfiable, and what is served are the bytes asked for that the file has; a longer last position or suffix and
every header of another form is refused. Without a header a file that is not empty is served whole. -/
theorem ranges_served :
    (∀ (n : ℕ) (header : List Char) (r : Request), Request.Spells (trim header) r →
      (¬r.Satisfiable n → Refused (parseSingleRange (some header) (Number.round n))) ∧
      (r.TooLong → Refused (parseSingleRange (some header) (Number.round n))) ∧
      (r.Satisfiable n → r.Fits n → Yields n r (parseSingleRange (some header) (Number.round n)))) ∧
    (∀ (size : Number) (header : List Char), header ≠ [] → (∀ r, ¬Request.Spells (trim header) r) →
      Refused (parseSingleRange (some header) size)) ∧
    ∀ (adapter : FileMediaAdapter) (files : FileSystem) (reference : List Char) (content : List UInt8),
      adapter.Holds files reference content → content.length ≤ 2 ^ 53 →
      (content ≠ [] → ∃ response, adapter.open files reference none = .ok response ∧ response.status = 200 ∧
        response.body = content ∧ response.Serves content 0 (content.length - 1)) ∧
      (∀ (header : Option (List Char)) (first last : ℕ), first ≤ last → last < content.length →
        parseSingleRange header (Number.round content.length) =
          .ok ⟨finite (first : ℤ), finite (last : ℤ), true⟩ →
        ∃ response, adapter.open files reference header = .ok response ∧ response.status = 206 ∧
          response.Serves content first last) ∧
      ∀ (header : Option (List Char)) (failure : Failure),
        parseSingleRange header (Number.round content.length) = .error failure →
        adapter.open files reference header = .error failure := by
  refine ⟨fun n header r hspells ↦ ⟨?_, ?_, ?_⟩, ?_, ?_⟩
  · exact parseSingleRange_of_not_satisfiable hspells
  · exact fun hlong ↦ parseSingleRange_of_tooLong hspells hlong _
  · exact parseSingleRange_of_satisfiable hspells
  · exact fun size header hne h ↦ ⟨_, parseSingleRange_of_not_spells hne h size⟩
  · intro adapter files reference content hholds hsize
    refine ⟨fun hne ↦ hholds.open_whole hne hsize, fun header first last hle hlast hrange ↦ ?_, ?_⟩
    · obtain ⟨response, hresponse, hstatus, hserves⟩ := respond_eq reference hsize hle hlast hrange
      exact ⟨response, hholds.open_eq.trans hresponse, hstatus, hserves⟩
    · exact fun header failure hrange ↦ hholds.open_error hrange

namespace Sample

def media : FileMediaAdapter := ⟨"/media".toList⟩

/-- The ten bytes of the one file. -/
def tone : List UInt8 := [82, 73, 70, 70, 36, 8, 0, 0, 87, 65]

def disk : FileSystem := fun path ↦ if path = "/media/tone.wav".toList then some (.file tone) else none

end Sample

/-- The four bytes that `bytes=2-5` asks for are served. -/
theorem ranges_served_sample :
    ∃ response, Sample.media.open Sample.disk "tone.wav".toList (some "bytes=2-5".toList) = .ok response ∧
      response.status = 206 ∧ response.body = [70, 70, 36, 8] := by
  obtain ⟨hparse, -, hopen⟩ := ranges_served
  have hholds : Sample.media.Holds Sample.disk "tone.wav".toList Sample.tone :=
    ⟨by decide, if_pos (by decide)⟩
  have hspells : Request.Spells (trim "bytes=2-5".toList) (.interval 2 5) :=
    @Request.Spells.interval ['2'] ['5']
      ⟨by decide, List.all_eq_true.mp (by decide)⟩ ⟨by decide, List.all_eq_true.mp (by decide)⟩
  have hfits : (Request.interval 2 5).Fits Sample.tone.length := by
    change 5 < 2 ^ 53
    decide
  obtain ⟨first, last, hrange, hle, hlast, hwanted⟩ :=
    (hparse Sample.tone.length _ _ hspells).2.2 ⟨by decide, by decide⟩ hfits
  obtain ⟨response, hresponse, hstatus, hserves⟩ :=
    (hopen _ _ _ _ hholds (by decide)).2.1 _ first last hle hlast hrange
  -- The positions that are served are exactly those that are asked for.
  have hpositions : first = 2 ∧ last = 5 := by
    have hat (i : ℕ) : first ≤ i ∧ i ≤ last ↔ i < 10 ∧ 2 ≤ i ∧ i ≤ 5 := hwanted i
    have hfirst := hat first
    have hlast := hat last
    have htwo := hat 2
    have hfive := hat 5
    omega
  obtain ⟨rfl, rfl⟩ := hpositions
  exact ⟨response, hresponse, hstatus, hserves.body⟩

/-- A last position that is too long for a number is refused, although it would be cut at the end of the file; a
file that is too long for one is not served to its end; and an empty file is not served at all. -/
theorem long_numeral_refused :
    (¬∀ (n : ℕ) (header : List Char) (r : Request), Request.Spells (trim header) r → r.Satisfiable n →
      ∃ range, parseSingleRange (some header) (Number.round n) = .ok range) ∧
    parseSingleRange none (Number.round (2 ^ 53 + 1)) ≠ .ok ⟨finite 0, finite (2 ^ 53), false⟩ ∧
    ¬∃ response, respond "empty.wav".toList [] none = .ok response := by
  refine ⟨?_, by decide +kernel, ?_⟩
  · intro h
    have hfirst : Digits "0".toList := ⟨by decide, List.all_eq_true.mp (by decide)⟩
    have hlast : Digits "9007199254740992".toList := ⟨by decide, List.all_eq_true.mp (by decide)⟩
    have hspells : Request.Spells (trim "bytes=0-9007199254740992".toList)
        (.interval (numeral "0".toList) (numeral "9007199254740992".toList)) :=
      Request.Spells.interval hfirst hlast
    have hlong : (Request.interval (numeral "0".toList) (numeral "9007199254740992".toList)).TooLong := by
      change 2 ^ 53 ≤ numeral "9007199254740992".toList
      decide
    obtain ⟨range, hrange⟩ := h 10 _ _ hspells ⟨by decide, by decide⟩
    obtain ⟨message, hrefused⟩ := parseSingleRange_of_tooLong hspells hlong (Number.round (10 : ℕ))
    cases hrange.symm.trans hrefused
  · rintro ⟨response, hresponse⟩
    cases (respond_empty _).symm.trans hresponse

end CreatorFirst.Media
