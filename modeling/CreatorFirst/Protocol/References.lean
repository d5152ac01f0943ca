import CreatorFirst.Script.Integers
import CreatorFirst.Text.Pattern
import CreatorFirst.Time.Date
import Mathlib.Data.Finset.Image
import Mathlib.Order.Interval.Finset.Nat

/-!
# References to requirements

The identifiers of requirements that a section on tests refers to, one by one or as ranges. A domain may have
hyphens of its own, and the pattern gives it as much as it can: a range that is written with an en dash is expanded,
and one that is written with a hyphen is taken for a single requirement of a longer domain.
-/

namespace CreatorFirst.Protocol

open Text Script

/-! ## The expansion of references -/

/-- `[A-Z0-9-]` -/
def domainChar (c : Char) : Bool := c.isUpper || c.isDigit || c = '-'

structure ReferenceMatch where
  domain : List Char
  firstText : List Char
  lastText : Option (List Char)
  deriving DecidableEq

/-- `/REQ-([A-Z0-9-]+)-([0-9]{3})(?:[–-]([0-9]{3}))?/` -/
def pattern : Pattern Char ReferenceMatch :=
  (Pattern.literal "REQ-".toList).andThen fun _ ↦
    (Pattern.many1 domainChar).andThen fun domain ↦
      (Pattern.literal ['-']).andThen fun _ ↦
        (Pattern.times Char.isDigit 3).andThen fun firstText ↦
          (Pattern.optional ((Pattern.symbol (· ∈ ['–', '-'])).andThen fun _ ↦ Pattern.times Char.isDigit 3)).andThen
            fun lastText ↦ Pattern.value ⟨domain, firstText, lastText⟩

/-- `String(value).padStart(3, '0')` -/
def padStart (value : ℕ) : List Char := (Date.padded 3 value).toList

def identifier (domain : List Char) (value : ℕ) : List Char :=
  "REQ-".toList ++ domain ++ '-' :: padStart value

/-- The identifiers that one match adds. Three digits are converted exactly. -/
def ReferenceMatch.references (m : ReferenceMatch) : Finset (List Char) :=
  let first := Number.numeral m.firstText
  let last := Number.numeral (m.lastText.getD m.firstText)
  if last < first ∨ 999 < last - first then ∅
  else (Finset.Icc first last).image (identifier m.domain)

def expandTestReferences (source : List Char) : Finset (List Char) :=
  (Pattern.matchAll pattern source).foldl (fun references m ↦ references ∪ m.references) ∅

example : expandTestReferences "REQ-A1-B-007, REQ-X-001–002".toList =
    {"REQ-A1-B-007".toList, "REQ-X-001".toList, "REQ-X-002".toList} := by decide +kernel

/-! ## References as they are meant -/

/-- Letters and digits, but not a numeral of three digits. -/
structure IsWord (w : List Char) : Prop where
  ne : w ≠ []
  chars : ∀ c ∈ w, (c.isUpper || c.isDigit) = true
  not_numeral : ¬(w.length = 3 ∧ ∀ c ∈ w, c.isDigit = true)

instance (w : List Char) : Decidable (IsWord w) :=
  decidable_of_iff (w ≠ [] ∧ w.all (fun c ↦ c.isUpper || c.isDigit) = true ∧
      ¬(w.length = 3 ∧ w.all Char.isDigit = true))
    ⟨fun ⟨hne, hchars, hnot⟩ ↦ ⟨hne, List.all_eq_true.mp hchars, fun h ↦ hnot ⟨h.1, List.all_eq_true.mpr h.2⟩⟩,
      fun h ↦ ⟨h.ne, List.all_eq_true.mpr h.chars,
        fun hnot ↦ h.not_numeral ⟨hnot.1, List.all_eq_true.mp hnot.2⟩⟩⟩

/-- Words that are joined by hyphens. -/
structure Domain where
  words : List (List Char)
  ne : words ≠ []
  isWord : ∀ w ∈ words, IsWord w

def Domain.text (d : Domain) : List Char := List.intercalate ['-'] d.words

inductive Form where
  | single
  | enDash
  | hyphen
  deriving DecidableEq

/-- A requirement, or those between two of them. -/
structure Reference where
  domain : Domain
  first : ℕ
  last : ℕ
  form : Form
  le : first ≤ last
  lt : last < 1000
  single : form = .single → first = last

namespace Reference

variable (r : Reference)

def text : List Char :=
  identifier r.domain.text r.first ++
    match r.form with
    | .single => []
    | .enDash => '–' :: padStart r.last
    | .hyphen => '-' :: padStart r.last

/-- The identifiers from the first one to the last one. -/
def references : Finset (List Char) := (Finset.Icc r.first r.last).image (identifier r.domain.text)

end Reference

def Separators (s : List Char) : Prop := ∀ c ∈ s, c = ' ' ∨ c = ','

/-- References with spaces and commas between them, and perhaps around them. -/
inductive Listed : List Reference → List Char → Prop
  | nil {separators : List Char} (h : Separators separators) : Listed [] separators
  | cons {separators rest : List Char} {refs : List Reference} (r : Reference) (h : Separators separators)
    (hrest : rest = [] ∨ ∃ c rest', rest = c :: rest' ∧ Separators [c]) (hrefs : Listed refs rest) :
    Listed (r :: refs) (separators ++ r.text ++ rest)

/-! ## Numerals of three digits -/

theorem padStart_eq (value : ℕ) :
    padStart value = List.replicate (3 - (Nat.toDigits 10 value).length) '0' ++ Nat.toDigits 10 value := by
  rw [padStart, Date.padded, String.toList_ofList]

theorem isDigit_padStart (value : ℕ) : ∀ c ∈ padStart value, c.isDigit = true :=
  fun _ hc ↦ Date.isDigit_of_mem_padded hc

theorem numeral_padStart {value : ℕ} (h : value < 1000) :
    (padStart value).length = 3 ∧ Number.numeral (padStart value) = value := by
  have hall : ∀ n < 1000,
      (List.replicate (3 - (Nat.toDigits 10 n).length) '0' ++ Nat.toDigits 10 n).length = 3 ∧
        Number.numeral (List.replicate (3 - (Nat.toDigits 10 n).length) '0' ++ Nat.toDigits 10 n) = n := by
    decide +kernel
  rw [padStart_eq]
  exact hall value h

/-! ## One match -/

theorem consumes_pattern : pattern.Consumes := by
  apply Pattern.Consumes.andThen (Pattern.consumes_literal (by decide))
  intro _
  apply (Pattern.within_many1 domainChar).andThen
  intro domain
  apply (Pattern.consumes_literal (by decide)).within.andThen
  intro _
  apply (Pattern.within_times Char.isDigit 3).andThen
  intro firstText
  apply Pattern.Within.andThen
  · apply Pattern.Within.optional
    exact (Pattern.consumes_symbol _).within.andThen fun _ ↦ Pattern.within_times Char.isDigit 3
  · exact fun lastText ↦ Pattern.within_value _

/-- A domain does not reach further than the last hyphen with three digits behind it. -/
theorem not_isPrefix_of_longer {ds tail u v : List Char} (hds : ∀ c ∈ ds, c.isDigit = true)
    (htail : ∀ c ∈ tail.head?, domainChar c = false) (hne : u ≠ []) (hu : ∀ c ∈ u, domainChar c = true)
    (heq : u ++ v = '-' :: (ds ++ tail)) : ¬['-'] <+: v := by
  rintro ⟨v, rfl⟩
  obtain ⟨c, u, rfl⟩ := List.exists_cons_of_ne_nil hne
  obtain ⟨-, hrest⟩ := List.cons.inj heq
  have hno : ∀ c rest, tail = c :: rest → domainChar c = true → False := by
    rintro c rest rfl hc
    rw [htail c rfl] at hc
    cases hc
  obtain ⟨a, hds', hv⟩ | ⟨a, hu', htail'⟩ := List.append_eq_append_iff.mp hrest
  · cases a with
    | nil => exact hno '-' v hv.symm (by decide)
    | cons d a =>
      obtain ⟨rfl, -⟩ := List.cons.inj hv
      exact absurd (hds '-' (by rw [hds']; simp)) (by decide)
  · cases a with
    | nil => exact hno '-' v htail' (by decide)
    | cons d a => exact hno d (a ++ '-' :: v) htail' (hu d (by rw [hu']; simp))

theorem head?_pattern {domain ds tail rest : List Char} {lastText : Option (List Char)} (hne : domain ≠ [])
    (hdomain : ∀ c ∈ domain, domainChar c = true) (hlength : ds.length = 3) (hds : ∀ c ∈ ds, c.isDigit = true)
    (htail : ∀ c ∈ tail.head?, domainChar c = false)
    (hlast : (Pattern.optional ((Pattern.symbol (· ∈ ['–', '-'])).andThen fun _ ↦ Pattern.times Char.isDigit 3)
      tail).head? = some (lastText, rest)) :
    (pattern ("REQ-".toList ++ domain ++ '-' :: ds ++ tail)).head? = some (⟨domain, ds, lastText⟩, rest) := by
  have hliteral : (Pattern.literal ['-'] ('-' :: (ds ++ tail))).head? = some ((), ds ++ tail) :=
    congrArg List.head? (Pattern.literal_append ['-'] (ds ++ tail))
  have htimes : (Pattern.times Char.isDigit 3 (ds ++ tail)).head? = some (ds, tail) := by
    rw [← hlength, Pattern.times_append hds]
    rfl
  rw [List.append_assoc, List.append_assoc, List.cons_append]
  apply Pattern.head?_andThen (congrArg List.head? (Pattern.literal_append _ _))
  apply Pattern.head?_many1_andThen hne hdomain
  · intro u v hu hclass heq
    have hno := Pattern.literal_eq_nil (not_isPrefix_of_longer hds htail hu hclass heq)
    rw [Pattern.andThen, hno, List.flatMap_nil]
  · exact Pattern.head?_andThen hliteral (Pattern.head?_andThen htimes (Pattern.head?_andThen hlast rfl))

/-- Between references there is a space or a comma, or nothing follows. -/
def Ends (tail : List Char) : Prop := tail = [] ∨ ∃ c rest, tail = c :: rest ∧ Separators [c]

theorem Ends.domainChar {tail : List Char} (h : Ends tail) : ∀ c ∈ tail.head?, domainChar c = false := by
  rintro c hc
  obtain rfl | ⟨d, rest, rfl, hd⟩ := h
  · cases hc
  · obtain rfl := Option.some_inj.mp hc
    obtain rfl | rfl := hd d List.mem_cons_self <;> decide

/-- Nothing but a dash is taken for one. -/
theorem Ends.no_dash {tail : List Char} (h : Ends tail) :
    (Pattern.symbol (· ∈ ['–', '-'])).andThen (fun _ ↦ Pattern.times Char.isDigit 3) tail = [] := by
  obtain rfl | ⟨d, rest, rfl, hd⟩ := h
  · rfl
  · obtain rfl | rfl := hd d List.mem_cons_self <;> rfl

theorem Ends.optional {tail : List Char} (h : Ends tail) :
    (Pattern.optional ((Pattern.symbol (· ∈ ['–', '-'])).andThen fun _ ↦ Pattern.times Char.isDigit 3)
      tail).head? = some (none, tail) := by
  rw [Pattern.optional_of_no_match h.no_dash]
  rfl

theorem head?_optional_enDash {ds tail : List Char} (hlength : ds.length = 3)
    (hds : ∀ c ∈ ds, c.isDigit = true) :
    (Pattern.optional ((Pattern.symbol (· ∈ ['–', '-'])).andThen fun _ ↦ Pattern.times Char.isDigit 3)
      ('–' :: (ds ++ tail))).head? = some (some ds, tail) := by
  apply Pattern.head?_optional
  have htimes : (Pattern.times Char.isDigit 3 (ds ++ tail)).head? = some (ds, tail) := by
    rw [← hlength, Pattern.times_append hds]
    rfl
  exact Pattern.head?_andThen rfl htimes

/-! ## Domains -/

theorem domainChar_of_word {c : Char} (h : (c.isUpper || c.isDigit) = true) : domainChar c = true := by
  rw [domainChar, h]
  rfl

theorem hyphen_notMem {w : List Char} (h : IsWord w) : '-' ∉ w := fun hmem ↦ absurd (h.chars _ hmem) (by decide)

theorem chars_intercalate {words : List (List Char)} (h : ∀ w ∈ words, IsWord w) :
    ∀ c ∈ List.intercalate ['-'] words, domainChar c = true := by
  induction words with
  | nil => exact nofun
  | cons w words ih =>
    have hw : ∀ c ∈ w, domainChar c = true :=
      fun c hc ↦ domainChar_of_word ((h w List.mem_cons_self).chars c hc)
    cases hwords : words with
    | nil => rwa [List.intercalate_singleton]
    | cons w' words' =>
      have hrest := ih fun v hv ↦ h v (List.mem_cons_of_mem w hv)
      intro c hc
      rw [← hwords, List.intercalate_cons_of_ne_nil (by simp [hwords]), List.mem_append, List.mem_append,
        List.mem_singleton] at hc
      obtain (hc | rfl) | hc := hc
      · exact hw c hc
      · rfl
      · exact hrest c hc

/-- The last word, with a hyphen in front of it unless it is the only one. -/
theorem last_intercalate {words : List (List Char)} (hne : words ≠ []) :
    ∃ w ∈ words, List.intercalate ['-'] words = w ∨ ∃ s, List.intercalate ['-'] words = s ++ '-' :: w := by
  induction words with
  | nil => exact absurd rfl hne
  | cons w words ih =>
    by_cases hwords : words = []
    · exact ⟨w, List.mem_cons_self, Or.inl (by rw [hwords, List.intercalate_singleton])⟩
    · obtain ⟨v, hv, htext⟩ := ih hwords
      refine ⟨v, List.mem_cons_of_mem w hv, Or.inr ?_⟩
      rw [List.intercalate_cons_of_ne_nil hwords]
      obtain htext | ⟨s, htext⟩ := htext
      · exact ⟨w, by rw [htext]; simp⟩
      · exact ⟨w ++ '-' :: s, by rw [htext]; simp⟩

/-- What is behind the last hyphen. -/
theorem eq_of_append_hyphen {s t u v : List Char} (hu : '-' ∉ u) (hv : '-' ∉ v)
    (h : s ++ '-' :: u = t ++ '-' :: v) :
    s = t ∧ u = v := by
  obtain ⟨a, rfl, ha⟩ | ⟨a, rfl, ha⟩ := List.append_eq_append_iff.mp h
  · cases a with
    | nil => exact ⟨(List.append_nil s).symm, (List.cons.inj ha).2⟩
    | cons c a => exact absurd (by rw [(List.cons.inj ha).2]; simp) hu
  · cases a with
    | nil => exact ⟨List.append_nil t, (List.cons.inj ha).2.symm⟩
    | cons c a => exact absurd (by rw [(List.cons.inj ha).2]; simp) hv

theorem hyphen_notMem_padStart (value : ℕ) : '-' ∉ padStart value :=
  fun hmem ↦ absurd (isDigit_padStart value _ hmem) (by decide)

theorem Domain.text_ne_nil (d : Domain) : d.text ≠ [] := by
  obtain ⟨w, hw, htext | ⟨s, htext⟩⟩ := last_intercalate d.ne
  · rw [Domain.text, htext]
    exact (d.isWord w hw).ne
  · rw [Domain.text, htext]
    simp

/-- The last word of a domain is no numeral. -/
theorem Domain.text_ne_append (d : Domain) (s : List Char) {value : ℕ} (hvalue : value < 1000) :
    d.text ≠ s ++ '-' :: padStart value := by
  intro h
  obtain ⟨w, hw, htext | ⟨s', htext⟩⟩ := last_intercalate d.ne
  · have hmem : '-' ∈ w := by
      rw [← htext, ← Domain.text, h]
      simp
    exact hyphen_notMem (d.isWord w hw) hmem
  · have heq : s' ++ '-' :: w = s ++ '-' :: padStart value := htext.symm.trans h
    obtain ⟨-, rfl⟩ := eq_of_append_hyphen (hyphen_notMem (d.isWord w hw)) (hyphen_notMem_padStart value) heq
    exact (d.isWord _ hw).not_numeral ⟨(numeral_padStart hvalue).1, isDigit_padStart value⟩

/-! ## All references of a text -/

namespace Reference

/-- What the pattern makes of a reference. -/
def found (r : Reference) : ReferenceMatch :=
  match r.form with
  | .single => ⟨r.domain.text, padStart r.first, none⟩
  | .enDash => ⟨r.domain.text, padStart r.first, some (padStart r.last)⟩
  | .hyphen => ⟨r.domain.text ++ '-' :: padStart r.first, padStart r.last, none⟩

theorem first_lt (r : Reference) : r.first < 1000 := r.le.trans_lt r.lt

theorem head?_pattern (r : Reference) {tail : List Char} (h : Ends tail) :
    (pattern (r.text ++ tail)).head? = some (r.found, tail) := by
  have hfirst := (numeral_padStart r.first_lt).1
  have hlast := (numeral_padStart r.lt).1
  cases hform : r.form with
  | single =>
    rw [text, found, hform, identifier, List.append_nil]
    exact Protocol.head?_pattern r.domain.text_ne_nil (chars_intercalate r.domain.isWord) hfirst
      (isDigit_padStart r.first) h.domainChar h.optional
  | enDash =>
    have htail : ∀ c ∈ ('–' :: (padStart r.last ++ tail)).head?, domainChar c = false := by
      intro c hc
      obtain rfl := Option.some_inj.mp hc
      decide
    rw [text, found, hform, identifier, List.append_assoc, List.cons_append]
    exact Protocol.head?_pattern r.domain.text_ne_nil (chars_intercalate r.domain.isWord) hfirst
      (isDigit_padStart r.first) htail (head?_optional_enDash hlast (isDigit_padStart r.last))
  | hyphen =>
    have htext : r.text ++ tail =
        "REQ-".toList ++ (r.domain.text ++ '-' :: padStart r.first) ++ '-' :: padStart r.last ++ tail := by
      rw [text, hform, identifier]
      simp
    have hchars : ∀ c ∈ r.domain.text ++ '-' :: padStart r.first, domainChar c = true := by
      intro c hc
      obtain hc | hc := List.mem_append.mp hc
      · exact chars_intercalate r.domain.isWord c hc
      · obtain rfl | hc := List.mem_cons.mp hc
        · rfl
        · simp [domainChar, isDigit_padStart r.first c hc]
    rw [htext, found, hform]
    exact Protocol.head?_pattern (by simp) hchars hlast (isDigit_padStart r.last) h.domainChar h.optional

end Reference

theorem matchAll_separators {s : List Char} (hs : Separators s) (t : List Char) :
    Pattern.matchAll pattern (s ++ t) = Pattern.matchAll pattern t := by
  induction s with
  | nil => rfl
  | cons c s ih =>
    have hnone : pattern (c :: (s ++ t)) = [] := by
      have hliteral : Pattern.literal "REQ-".toList (c :: (s ++ t)) = [] := by
        apply Pattern.literal_eq_nil
        intro hprefix
        obtain rfl : 'R' = c := (List.cons_prefix_cons.mp hprefix).1
        exact absurd (hs 'R' List.mem_cons_self) (by decide)
      rw [pattern, Pattern.andThen, hliteral, List.flatMap_nil]
    rw [List.cons_append, Pattern.matchAll_of_no_match hnone]
    exact ih fun d hd ↦ hs d (List.mem_cons_of_mem c hd)

/-- The pattern finds the references of a text one after the other. -/
theorem matchAll_of_listed {refs : List Reference} {source : List Char} (h : Listed refs source) :
    Pattern.matchAll pattern source = refs.map Reference.found := by
  induction h with
  | nil hs =>
    have hskip := matchAll_separators hs []
    rwa [List.append_nil] at hskip
  | cons r hs hrest hrefs ih =>
    rw [List.append_assoc, matchAll_separators hs,
      Pattern.matchAll_of_match consumes_pattern (r.head?_pattern hrest), ih, List.map_cons]

theorem mem_foldl_references {ms : List ReferenceMatch} {ids : Finset (List Char)} {id : List Char} :
    id ∈ ms.foldl (fun references m ↦ references ∪ m.references) ids ↔
      id ∈ ids ∨ ∃ m ∈ ms, id ∈ m.references := by
  induction ms generalizing ids with
  | nil => simp
  | cons m ms ih =>
    rw [List.foldl_cons, ih, Finset.mem_union]
    simp [or_assoc]

theorem mem_expandTestReferences {refs : List Reference} {source : List Char} (h : Listed refs source)
    (id : List Char) : id ∈ expandTestReferences source ↔ ∃ r ∈ refs, id ∈ r.found.references := by
  rw [expandTestReferences, mem_foldl_references, matchAll_of_listed h]
  simp

/-! ## Ranges -/

namespace Reference

variable {r : Reference}

theorem found_references (h : r.form ≠ .hyphen) : r.found.references = r.references := by
  have hfirst := (numeral_padStart r.first_lt).2
  have hlast := (numeral_padStart r.lt).2
  have hle := r.le
  have hlt := r.lt
  cases hform : r.form with
  | single =>
    have heq := r.single hform
    rw [ReferenceMatch.references, found, hform, references, ← heq]
    simp [hfirst]
  | enDash =>
    rw [ReferenceMatch.references, found, hform, references]
    simp only [Option.getD_some, hfirst, hlast]
    exact if_neg (by omega)
  | hyphen => exact absurd hform h

/-- A range with a hyphen is taken for a requirement of a longer domain. -/
theorem found_references_hyphen (h : r.form = .hyphen) :
    r.found.references = {identifier (r.domain.text ++ '-' :: padStart r.first) r.last} := by
  have hlast := (numeral_padStart r.lt).2
  rw [ReferenceMatch.references, found, h]
  simp [hlast]

/-- That requirement is nobody's. -/
theorem identifier_notMem_references (r : Reference) {s : List Char} {value last : ℕ} (hvalue : value < 1000) :
    identifier (s ++ '-' :: padStart value) last ∉ r.references := by
  intro hmem
  obtain ⟨i, -, hi⟩ := Finset.mem_image.mp hmem
  obtain ⟨hdomain, -⟩ := eq_of_append_hyphen (hyphen_notMem_padStart i) (hyphen_notMem_padStart last) hi
  exact r.domain.text_ne_append s hvalue (List.append_cancel_left hdomain)

end Reference

theorem listed_singleton (r : Reference) : Listed [r] r.text := by
  have hlisted := @Listed.cons [] [] [] r nofun (.inl rfl) (Listed.nil nofun)
  rwa [List.nil_append, List.append_nil] at hlisted

/-- A range with a hyphen leaves an identifier that is not among those meant. -/
theorem Reference.found_of_hyphen {refs : List Reference} {source : List Char} (h : Listed refs source)
    {r : Reference} (hr : r ∈ refs) (hform : r.form = .hyphen) :
    ∃ id ∈ expandTestReferences source, ∀ r' : Reference, id ∉ r'.references := by
  have hfound : identifier (r.domain.text ++ '-' :: padStart r.first) r.last ∈ r.found.references := by
    rw [r.found_references_hyphen hform]
    exact Finset.mem_singleton_self _
  exact ⟨_, (mem_expandTestReferences h _).mpr ⟨r, hr, hfound⟩,
    fun r' ↦ r'.identifier_notMem_references r.first_lt⟩

/-- References are expanded to the identifiers that are meant, and to no others, exactly if none of them is a range
that is written with a hyphen. -/
theorem expandTestReferences_iff {refs : List Reference} {source : List Char} (h : Listed refs source) :
    (∀ id, id ∈ expandTestReferences source ↔ ∃ r ∈ refs, id ∈ r.references) ↔
      ∀ r ∈ refs, r.form ≠ .hyphen := by
  constructor
  · intro hexact r hr hform
    obtain ⟨id, hfound, hnone⟩ := Reference.found_of_hyphen h hr hform
    obtain ⟨r', -, hmem⟩ := (hexact id).mp hfound
    exact hnone r' hmem
  · intro hforms id
    rw [mem_expandTestReferences h]
    refine exists_congr fun r ↦ and_congr_right fun hr ↦ ?_
    rw [Reference.found_references (hforms r hr)]

theorem expandTestReferences_enDash :
    ∃ r : Reference, r.text = "REQ-PAY-V2-001–003".toList ∧
      ∀ id, id ∈ expandTestReferences r.text ↔ ∃ r' ∈ [r], id ∈ r'.references := by
  let d : Domain := ⟨["PAY".toList, "V2".toList], List.cons_ne_nil _ _, by decide +kernel⟩
  let r : Reference := ⟨d, 1, 3, .enDash, by decide, by decide, nofun⟩
  refine ⟨r, by decide +kernel, (expandTestReferences_iff (listed_singleton r)).mpr fun r' hr' ↦ ?_⟩
  rw [List.mem_singleton.mp hr']
  exact nofun

/-- The range `REQ-PAY-001-003` is not expanded. -/
theorem hyphen_not_expanded :
    ∃ r : Reference, r.text = "REQ-PAY-001-003".toList ∧
      r.references = {"REQ-PAY-001".toList, "REQ-PAY-002".toList, "REQ-PAY-003".toList} ∧
      ¬∀ id, id ∈ expandTestReferences r.text ↔ ∃ r' ∈ [r], id ∈ r'.references := by
  let d : Domain := ⟨["PAY".toList], List.cons_ne_nil _ _, by decide +kernel⟩
  let r : Reference := ⟨d, 1, 3, .hyphen, by decide, by decide, nofun⟩
  have hform : r.form = .hyphen := rfl
  refine ⟨r, by decide +kernel, by decide +kernel, fun h ↦ ?_⟩
  clear_value r
  obtain ⟨id, hfound, hnone⟩ := Reference.found_of_hyphen (listed_singleton r) (List.mem_singleton_self r) hform
  obtain ⟨r', -, hmem⟩ := (h id).mp hfound
  exact hnone r' hmem

end CreatorFirst.Protocol
