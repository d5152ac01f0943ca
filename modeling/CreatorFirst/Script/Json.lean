import Mathlib.Data.List.Basic
import Mathlib.Tactic.IntervalCases

/-!
# The text of an object

A script turns an object whose fields are strings and integers into a text. Two objects with one text
have the same fields in the same order.
-/

namespace CreatorFirst.Script

/-- The value of a field. -/
inductive Scalar where
  | string (s : String)
  | int (n : ℤ)
  deriving DecidableEq

namespace Json

/-! ## Strings -/

def escape (c : Char) : List Char :=
  if c = '"' then ['\\', '"'] else if c = '\\' then ['\\', '\\']
  else if c.toNat = 8 then ['\\', 'b'] else if c.toNat = 9 then ['\\', 't']
  else if c.toNat = 10 then ['\\', 'n'] else if c.toNat = 12 then ['\\', 'f']
  else if c.toNat = 13 then ['\\', 'r']
  else if c.toNat < 32 then
    ['\\', 'u', '0', '0', Nat.digitChar (c.toNat / 16), Nat.digitChar (c.toNat % 16)]
  else [c]

def quote (cs : List Char) : List Char := '"' :: cs.flatMap escape ++ ['"']

/-- The first character that an escaped text stands for, and the text behind it. -/
def unescape : List Char → Option (Char × List Char)
  | '\\' :: '"' :: cs => some ('"', cs)
  | '\\' :: '\\' :: cs => some ('\\', cs)
  | '\\' :: 'b' :: cs => some (Char.ofNat 8, cs)
  | '\\' :: 't' :: cs => some (Char.ofNat 9, cs)
  | '\\' :: 'n' :: cs => some (Char.ofNat 10, cs)
  | '\\' :: 'f' :: cs => some (Char.ofNat 12, cs)
  | '\\' :: 'r' :: cs => some (Char.ofNat 13, cs)
  | '\\' :: 'u' :: '0' :: '0' :: high :: low :: cs =>
    let digit (c : Char) : ℕ := if c.toNat < 58 then c.toNat - 48 else c.toNat - 87
    some (Char.ofNat (16 * digit high + digit low), cs)
  | '"' :: _ => none
  | '\\' :: _ => none
  | c :: cs => some (c, cs)
  | [] => none

theorem unescape_escape (c : Char) (rest : List Char) :
    unescape (escape c ++ rest) = some (c, rest) := by
  by_cases hcontrol : c.toNat < 32
  · have hc : c = Char.ofNat c.toNat := (Char.ofNat_toNat c).symm
    generalize c.toNat = n at hc hcontrol
    subst hc
    interval_cases n <;> rfl
  · by_cases hquote : c = '"'
    · subst hquote
      rfl
    · by_cases hslash : c = '\\'
      · subst hslash
        rfl
      · have hplain : escape c = [c] := by
          unfold escape
          rw [if_neg hquote, if_neg hslash, if_neg (by omega), if_neg (by omega),
            if_neg (by omega), if_neg (by omega), if_neg (by omega), if_neg hcontrol]
        rw [hplain]
        simp [unescape, hslash]

/-- A quoted text ends where its string ends. -/
theorem quote_append_inj {cs ds rest rest' : List Char} (h : quote cs ++ rest = quote ds ++ rest') :
    cs = ds ∧ rest = rest' := by
  have htail : cs.flatMap escape ++ '"' :: rest = ds.flatMap escape ++ '"' :: rest' := by
    simpa [quote] using h
  clear h
  induction cs generalizing ds with
  | nil =>
    cases ds with
    | nil => exact ⟨rfl, by simpa using htail⟩
    | cons d ds =>
      have hread := congrArg unescape htail
      rw [List.flatMap_cons, List.append_assoc, unescape_escape] at hread
      cases hread
  | cons c cs ih =>
    have hread := congrArg unescape htail
    rw [List.flatMap_cons, List.append_assoc, unescape_escape] at hread
    cases ds with
    | nil => cases hread
    | cons d ds =>
      rw [List.flatMap_cons, List.append_assoc, unescape_escape] at hread
      obtain ⟨rfl, hrest⟩ := Prod.mk.inj (Option.some.inj hread)
      obtain ⟨rfl, rfl⟩ := ih hrest
      exact ⟨rfl, rfl⟩

/-! ## Integers -/

def integer (n : ℤ) : List Char :=
  if n < 0 then '-' :: Nat.toDigits 10 n.natAbs else Nat.toDigits 10 n.natAbs

/-- Digits end before what is no digit. -/
theorem digits_append_inj {cs ds rest rest' : List Char} {c d : Char}
    (hcs : ∀ x ∈ cs, x.isDigit) (hds : ∀ x ∈ ds, x.isDigit) (hc : c.isDigit = false)
    (hd : d.isDigit = false) (h : cs ++ c :: rest = ds ++ d :: rest') :
    cs = ds ∧ c :: rest = d :: rest' := by
  have hhead (es tail : List Char) (e : Char) (hes : ∀ x ∈ es, x.isDigit) (he : e.isDigit = false) :
      (es ++ e :: tail).takeWhile Char.isDigit = es := by
    rw [List.takeWhile_append_of_pos hes, List.takeWhile_cons_of_neg (by simp [he]), List.append_nil]
  have hdigits : cs = ds := by
    calc
      cs = (cs ++ c :: rest).takeWhile Char.isDigit := (hhead cs rest c hcs hc).symm
      _ = (ds ++ d :: rest').takeWhile Char.isDigit := by rw [h]
      _ = ds := hhead ds rest' d hds hd
  subst hdigits
  exact ⟨rfl, List.append_cancel_left h⟩

theorem isDigit_of_mem_toDigits {n : ℕ} : ∀ x ∈ Nat.toDigits 10 n, x.isDigit :=
  fun _ hx ↦ Nat.isDigit_of_mem_toDigits (by decide) (by decide) hx

theorem toDigits_append_inj {m n : ℕ} {rest rest' : List Char} {c d : Char}
    (hc : c.isDigit = false) (hd : d.isDigit = false)
    (h : Nat.toDigits 10 m ++ c :: rest = Nat.toDigits 10 n ++ d :: rest') :
    m = n ∧ c :: rest = d :: rest' := by
  obtain ⟨hdigits, hrest⟩ :=
    digits_append_inj isDigit_of_mem_toDigits isDigit_of_mem_toDigits hc hd h
  refine ⟨?_, hrest⟩
  calc
    m = Nat.ofDigitChars 10 (Nat.toDigits 10 m) 0 :=
      (Nat.ofDigitChars_toDigits (by decide) (by decide)).symm
    _ = Nat.ofDigitChars 10 (Nat.toDigits 10 n) 0 := by rw [hdigits]
    _ = n := Nat.ofDigitChars_toDigits (by decide) (by decide)

theorem integer_head (n : ℤ) : ∃ c cs, integer n = c :: cs ∧ (c = '-' ↔ n < 0) ∧ c ≠ '"' := by
  unfold integer
  split
  · next h => exact ⟨'-', _, rfl, by simp [h], by decide⟩
  · next h =>
    cases hdigits : Nat.toDigits 10 n.natAbs with
    | nil => exact absurd hdigits Nat.toDigits_ne_nil
    | cons c cs =>
      have hc : c.isDigit = true := isDigit_of_mem_toDigits c (by rw [hdigits]; exact List.mem_cons_self)
      refine ⟨c, cs, rfl, iff_of_false ?_ h, ?_⟩
      · rintro rfl
        exact absurd hc (by decide)
      · rintro rfl
        exact absurd hc (by decide)

theorem integer_append_inj {m n : ℤ} {rest rest' : List Char} {c d : Char}
    (hc : c.isDigit = false) (hd : d.isDigit = false)
    (h : integer m ++ c :: rest = integer n ++ d :: rest') : m = n ∧ c :: rest = d :: rest' := by
  have hsign : m < 0 ↔ n < 0 := by
    obtain ⟨a, as, ha, hma, -⟩ := integer_head m
    obtain ⟨b, bs, hb, hnb, -⟩ := integer_head n
    rw [ha, hb] at h
    rw [← hma, ← hnb, (List.cons.inj h).1]
  unfold integer at h
  by_cases hm : m < 0
  · have hn : n < 0 := hsign.mp hm
    rw [if_pos hm, if_pos hn] at h
    obtain ⟨habs, hrest⟩ := toDigits_append_inj hc hd (List.cons.inj h).2
    exact ⟨by omega, hrest⟩
  · have hn : ¬ n < 0 := fun hn ↦ hm (hsign.mpr hn)
    rw [if_neg hm, if_neg hn] at h
    obtain ⟨habs, hrest⟩ := toDigits_append_inj hc hd h
    exact ⟨by omega, hrest⟩

/-! ## Objects -/

def scalar : Scalar → List Char
  | .string s => quote s.toList
  | .int n => integer n

def field (f : String × Scalar) : List Char := quote f.1.toList ++ ':' :: scalar f.2

/-- The fields of an object, behind its opening brace. -/
def fields : List (String × Scalar) → List Char
  | [] => ['\x7d']
  | [f] => field f ++ ['\x7d']
  | f :: g :: rest => field f ++ ',' :: fields (g :: rest)

/-- `JSON.stringify` of an object with such fields. -/
def stringify (fs : List (String × Scalar)) : String := String.ofList ('\x7b' :: fields fs)

theorem scalar_append_inj {v w : Scalar} {rest rest' : List Char} {c d : Char}
    (hc : c.isDigit = false) (hd : d.isDigit = false)
    (h : scalar v ++ c :: rest = scalar w ++ d :: rest') : v = w ∧ c :: rest = d :: rest' := by
  cases v with
  | string s =>
    cases w with
    | string t =>
      obtain ⟨hchars, hrest⟩ := quote_append_inj h
      exact ⟨congrArg Scalar.string (String.toList_inj.mp hchars), hrest⟩
    | int n =>
      obtain ⟨b, bs, hb, -, hne⟩ := integer_head n
      rw [scalar, scalar, hb] at h
      exact absurd (List.cons.inj h).1.symm hne
  | int m =>
    cases w with
    | string t =>
      obtain ⟨a, as, ha, -, hne⟩ := integer_head m
      rw [scalar, scalar, ha] at h
      exact absurd (List.cons.inj h).1 hne
    | int n =>
      obtain ⟨rfl, hrest⟩ := integer_append_inj hc hd h
      exact ⟨rfl, hrest⟩

theorem field_append_inj {f g : String × Scalar} {rest rest' : List Char} {c d : Char}
    (hc : c.isDigit = false) (hd : d.isDigit = false)
    (h : field f ++ c :: rest = field g ++ d :: rest') : f = g ∧ c :: rest = d :: rest' := by
  simp only [field, List.append_assoc, List.cons_append] at h
  obtain ⟨hname, hvalue⟩ := quote_append_inj h
  obtain ⟨hscalar, hrest⟩ := scalar_append_inj hc hd (List.cons.inj hvalue).2
  exact ⟨Prod.ext (String.toList_inj.mp hname) hscalar, hrest⟩

/-- What ends a field tells whether another one follows. -/
theorem fields_cons (f : String × Scalar) (fs : List (String × Scalar)) :
    fields (f :: fs) = field f ++ if fs = [] then ['\x7d'] else ',' :: fields fs := by
  cases fs <;> simp [fields]

theorem fields_inj {fs gs : List (String × Scalar)} (h : fields fs = fields gs) : fs = gs := by
  have hnil (f : String × Scalar) (fs : List (String × Scalar)) : fields (f :: fs) ≠ fields [] := by
    rw [fields_cons, field, quote]
    simp [fields]
  induction fs generalizing gs with
  | nil =>
    cases gs with
    | nil => rfl
    | cons g gs => exact absurd h.symm (hnil g gs)
  | cons f fs ih =>
    cases gs with
    | nil => exact absurd h (hnil f fs)
    | cons g gs =>
      rw [fields_cons, fields_cons] at h
      by_cases hfs : fs = [] <;> by_cases hgs : gs = []
      · rw [if_pos hfs, if_pos hgs] at h
        rw [hfs, hgs, (field_append_inj (by decide) (by decide) h).1]
      · rw [if_pos hfs, if_neg hgs] at h
        exact absurd (List.cons.inj (field_append_inj (by decide) (by decide) h).2).1 (by decide)
      · rw [if_neg hfs, if_pos hgs] at h
        exact absurd (List.cons.inj (field_append_inj (by decide) (by decide) h).2).1 (by decide)
      · rw [if_neg hfs, if_neg hgs] at h
        obtain ⟨rfl, hrest⟩ := field_append_inj (by decide) (by decide) h
        rw [ih (List.cons.inj hrest).2]

theorem stringify_injective : Function.Injective stringify := by
  intro fs gs h
  have hchars := String.ofList_injective h
  exact fields_inj (List.cons.inj hchars).2

end Json

end CreatorFirst.Script
