import CreatorFirst.Text.Lines

/-!
# Texts as bytes

UTF-8 leaves the characters of ASCII alone and uses none of their bytes for others, so lines can be cut before or
after the encoding. Base64 writes bytes with letters, digits and three signs.
-/

namespace CreatorFirst.Text

/-! ## UTF-8 -/

def utf8 (s : List Char) : List UInt8 := s.flatMap String.utf8EncodeChar

@[simp]
theorem utf8_nil : utf8 [] = [] := rfl

@[simp]
theorem utf8_append (s t : List Char) : utf8 (s ++ t) = utf8 s ++ utf8 t := List.flatMap_append

theorem utf8_cons (c : Char) (s : List Char) : utf8 (c :: s) = String.utf8EncodeChar c ++ utf8 s :=
  List.flatMap_cons

theorem utf8EncodeChar_of_lt {c : Char} (h : c.toNat < 128) :
    String.utf8EncodeChar c = [UInt8.ofNat c.toNat] := by
  have hle : c.val.toNat ≤ 0x7f := Nat.le_of_lt_succ h
  rw [String.utf8EncodeChar, if_pos hle]
  rfl

/-- A byte of ASCII stands for its own character only. -/
theorem toNat_of_mem_utf8EncodeChar {c : Char} {b : UInt8} (hb : b.toNat < 128)
    (h : b ∈ String.utf8EncodeChar c) : c.toNat = b.toNat := by
  have hc : c.toNat = c.val.toNat := rfl
  rw [hc]
  unfold String.utf8EncodeChar at h
  dsimp only at h
  split at h
  · next hone =>
    rw [List.mem_singleton] at h
    rw [h, UInt8.toNat_ofNat']
    omega
  · split at h
    · simp only [List.mem_cons, List.not_mem_nil, or_false] at h
      rcases h with rfl | rfl <;> rw [UInt8.toNat_ofNat'] at hb <;> omega
    · split at h
      · simp only [List.mem_cons, List.not_mem_nil, or_false] at h
        rcases h with rfl | rfl | rfl <;> rw [UInt8.toNat_ofNat'] at hb <;> omega
      · simp only [List.mem_cons, List.not_mem_nil, or_false] at h
        rcases h with rfl | rfl | rfl | rfl <;> rw [UInt8.toNat_ofNat'] at hb <;> omega

theorem mem_of_mem_utf8 {c : Char} {s : List Char} {b : UInt8} (hb : b.toNat < 128) (hc : c.toNat = b.toNat)
    (h : b ∈ utf8 s) : c ∈ s := by
  obtain ⟨d, hd, hbd⟩ := List.mem_flatMap.mp h
  have hcd : c = d := Char.toNat_inj.mp (hc.trans (toNat_of_mem_utf8EncodeChar hb hbd).symm)
  rwa [hcd]

theorem utf8_eq_nil {s : List Char} : utf8 s = [] ↔ s = [] := by
  cases s with
  | nil => simp
  | cons c s => simp [utf8_cons, String.utf8EncodeChar_ne_nil]

/-- UTF-8 keeps the line ends of ASCII. -/
theorem utf8_transparent {e : LineEnd Char} {e' : LineEnd UInt8} (hcr : e.cr.toNat = e'.cr.toNat)
    (hlf : e.lf.toNat = e'.lf.toNat) (hcr' : e'.cr.toNat < 128) (hlf' : e'.lf.toNat < 128) :
    LineEnd.Transparent e e' String.utf8EncodeChar where
  cr := by rw [utf8EncodeChar_of_lt (hcr ▸ hcr'), hcr, UInt8.ofNat_toNat]
  lf := by rw [utf8EncodeChar_of_lt (hlf ▸ hlf'), hlf, UInt8.ofNat_toNat]
  cr_notMem c hc h := hc (Char.toNat_inj.mp ((toNat_of_mem_utf8EncodeChar hcr' h).trans hcr.symm))
  lf_notMem c hc h := hc (Char.toNat_inj.mp ((toNat_of_mem_utf8EncodeChar hlf' h).trans hlf.symm))
  ne_nil _ := String.utf8EncodeChar_ne_nil

/-- What comes before the first byte of ASCII of one kind. -/
theorem takeWhile_utf8 {c : Char} {b : UInt8} (hb : b.toNat < 128) (hc : c.toNat = b.toNat) {s : List Char}
    (hs : c ∉ s) (t : List Char) : (utf8 (s ++ c :: t)).takeWhile (· ≠ b) = utf8 s := by
  have hnone : b ∉ utf8 s := fun h ↦ hs (mem_of_mem_utf8 hb hc h)
  rw [utf8_append, utf8_cons, utf8EncodeChar_of_lt (hc ▸ hb), hc, UInt8.ofNat_toNat, List.singleton_append]
  exact (takeWhile_append_cons hnone (utf8 t)).1

/-- Dots may be put in front of lines before or after the encoding. -/
theorem utf8_stuff {c : Char} {b : UInt8} (hb : b.toNat < 128) (hc : c.toNat = b.toNat) (l : List Char) :
    utf8 (stuff c l) = stuff b (utf8 l) := by
  have hcb : String.utf8EncodeChar c = [b] := by rw [utf8EncodeChar_of_lt (hc ▸ hb), hc, UInt8.ofNat_toNat]
  cases l with
  | nil => rfl
  | cons d l =>
    rw [stuff]
    split
    · next hd =>
      rw [hd, utf8_cons, utf8_cons, hcb, List.singleton_append, List.singleton_append, stuff, if_pos rfl]
    · next hd =>
      rw [stuff_of_head?_ne]
      intro hhead
      obtain ⟨b', bytes, hbytes⟩ := List.exists_cons_of_ne_nil (String.utf8EncodeChar_ne_nil (c := d))
      rw [utf8_cons, hbytes, List.cons_append, List.head?_cons, Option.some_inj] at hhead
      have hmem : b ∈ String.utf8EncodeChar d := by
        rw [hbytes, hhead]
        exact List.mem_cons_self
      exact hd (Char.toNat_inj.mp ((toNat_of_mem_utf8EncodeChar hb hmem).trans hc.symm))

/-! ## Base64 -/

def base64Alphabet : List Char := "ABCDEFGHIJKLMNOPQRSTUVWXYZabcdefghijklmnopqrstuvwxyz0123456789+/".toList

def base64Digit (n : ℕ) : Char := base64Alphabet.getD n '='

def base64 : List UInt8 → List Char
  | a :: b :: c :: rest =>
    base64Digit (a.toNat / 4) :: base64Digit (a.toNat % 4 * 16 + b.toNat / 16) ::
      base64Digit (b.toNat % 16 * 4 + c.toNat / 64) :: base64Digit (c.toNat % 64) :: base64 rest
  | [a, b] =>
    [base64Digit (a.toNat / 4), base64Digit (a.toNat % 4 * 16 + b.toNat / 16), base64Digit (b.toNat % 16 * 4), '=']
  | [a] => [base64Digit (a.toNat / 4), base64Digit (a.toNat % 4 * 16), '=', '=']
  | [] => []

example : base64 (utf8 "ü.".toList) = "w7wu".toList := by decide

theorem base64Digit_mem (n : ℕ) : base64Digit n ∈ '=' :: base64Alphabet := by
  rw [base64Digit, List.getD_eq_getElem?_getD]
  cases h : base64Alphabet[n]? with
  | none => exact List.mem_cons_self
  | some c => exact List.mem_cons_of_mem _ (List.mem_of_getElem? h)

theorem base64_subset (bytes : List UInt8) : base64 bytes ⊆ '=' :: base64Alphabet := by
  have hpad : '=' ∈ '=' :: base64Alphabet := List.mem_cons_self
  induction bytes using base64.induct with
  | case1 a b c rest ih => simp only [base64, List.cons_subset, base64Digit_mem, ih, true_and]
  | case2 a b => simp only [base64, List.cons_subset, base64Digit_mem, hpad, List.nil_subset, true_and]
  | case3 a => simp only [base64, List.cons_subset, base64Digit_mem, hpad, List.nil_subset, true_and]
  | case4 => exact List.nil_subset _

end CreatorFirst.Text
