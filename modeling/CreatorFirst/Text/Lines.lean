import Mathlib.Data.List.Infix

/-!
# Texts of lines

A text over some alphabet is cut wherever two given symbols follow each other. Lines without that pair come
back as they were joined, a text is the join of its lines, and a text that arrives in two parts may be cut
part by part. An encoding that leaves the two symbols alone commutes with cutting.
-/

namespace CreatorFirst.Text

/-- The two symbols that end a line. -/
structure LineEnd (α : Type) where
  cr : α
  lf : α
  ne : cr ≠ lf

variable {α β : Type}

/-- The piece of a text before a symbol. -/
theorem takeWhile_append_cons [DecidableEq α] {c : α} {s : List α} (hs : c ∉ s) (t : List α) :
    (s ++ c :: t).takeWhile (· ≠ c) = s ∧ (s ++ c :: t).dropWhile (· ≠ c) = c :: t := by
  have hne : ∀ d ∈ s, decide (d ≠ c) = true := by
    intro d hd
    rw [decide_eq_true_iff]
    rintro rfl
    exact hs hd
  constructor
  · rw [List.takeWhile_append_of_pos hne]
    simp
  · rw [List.dropWhile_append_of_pos hne]
    simp

/-- What is left begins with the symbol that is looked for. -/
theorem dropWhile_eq_cons {α : Type} [DecidableEq α] {c : α} {s rest : List α}
    (h : (s.dropWhile (· ≠ c)).drop 1 = rest) (hne : rest ≠ []) : s.dropWhile (· ≠ c) = c :: rest := by
  cases hleft : s.dropWhile (· ≠ c) with
  | nil =>
    rw [hleft, List.drop_nil] at h
    exact absurd h.symm hne
  | cons d left =>
    have hhead := List.head?_dropWhile_not (fun d ↦ decide (d ≠ c)) s
    rw [hleft] at hhead
    have heq : d = c := by simpa using hhead
    rw [hleft, List.drop_succ_cons, List.drop_zero] at h
    rw [heq, h]

namespace LineEnd

section Operations

variable (e : LineEnd α)

def mark : List α := [e.cr, e.lf]

/-- A piece of text without a line end. -/
def Unbroken (l : List α) : Prop := ¬e.mark <:+: l

/-- Finished lines, and an unfinished one. -/
def join (ls : List (List α)) (r : List α) : List α := ls.flatMap (· ++ e.mark) ++ r

variable [DecidableEq α]

/-- One more symbol in front of a text that has been cut. -/
def prepend (c : α) : List (List α) × List α → List (List α) × List α
  | ([], r) => ([], c :: r)
  | (l :: ls, r) => ((c :: l) :: ls, r)

/-- The finished lines of a text, and what follows the last of them. -/
def cut : List α → List (List α) × List α
  | c :: c' :: s =>
    if c = e.cr ∧ c' = e.lf then ([] :: (cut s).1, (cut s).2) else prepend c (cut (c' :: s))
  | s => ([], s)

end Operations

variable {e : LineEnd α}

/-! ## Unbroken texts -/

theorem unbroken_nil : e.Unbroken [] := by
  simp [Unbroken, mark]

theorem unbroken_singleton (c : α) : e.Unbroken [c] := by
  intro h
  have hlength := h.length_le
  simp [mark] at hlength

theorem unbroken_cons_cons {c c' : α} {s : List α} :
    e.Unbroken (c :: c' :: s) ↔ ¬(c = e.cr ∧ c' = e.lf) ∧ e.Unbroken (c' :: s) := by
  unfold Unbroken
  rw [List.infix_cons_iff, not_or, mark, List.cons_prefix_cons, List.cons_prefix_cons]
  simp [eq_comm]

theorem Unbroken.tail {c : α} {s : List α} (h : e.Unbroken (c :: s)) : e.Unbroken s :=
  fun hs ↦ h (hs.trans (List.suffix_cons c s).isInfix)

theorem unbroken_of_notMem {l : List α} (h : e.cr ∉ l) : e.Unbroken l := by
  intro hmark
  apply h
  apply hmark.subset
  simp [mark]

theorem unbroken_of_short {s : List α} (hs : ∀ c c' rest, s ≠ c :: c' :: rest) : e.Unbroken s := by
  cases s with
  | nil => exact unbroken_nil
  | cons c s =>
    cases s with
    | nil => exact unbroken_singleton c
    | cons c' s => exact absurd rfl (hs c c' s)

theorem Unbroken.cons {c : α} {l : List α} (h : e.Unbroken l) (hc : c ≠ e.cr) : e.Unbroken (c :: l) := by
  cases l with
  | nil => exact unbroken_singleton c
  | cons c' l => exact unbroken_cons_cons.mpr ⟨fun hcr ↦ hc hcr.1, h⟩

/-! ## Joining -/

@[simp]
theorem join_nil (r : List α) : e.join [] r = r := rfl

theorem join_cons (l : List α) (ls : List (List α)) (r : List α) :
    e.join (l :: ls) r = l ++ e.cr :: e.lf :: e.join ls r := by
  simp [join, mark]

theorem join_append (ls ls' : List (List α)) (r : List α) :
    e.join (ls ++ ls') r = e.join ls (e.join ls' r) := by
  simp [join]

theorem join_append_right (ls : List (List α)) (r s : List α) : e.join ls (r ++ s) = e.join ls r ++ s := by
  simp [join]

/-- Lines between line ends. -/
theorem intercalate_mark (ls : List (List α)) (r : List α) :
    List.intercalate e.mark (ls ++ [r]) = e.join ls r := by
  induction ls with
  | nil => simp [List.intercalate]
  | cons l ls ih =>
    calc
      List.intercalate e.mark (l :: ls ++ [r]) = l ++ e.mark ++ List.intercalate e.mark (ls ++ [r]) := by
        cases ls <;> simp [List.intercalate]
      _ = e.join (l :: ls) r := by
        rw [ih, join_cons]
        simp [mark]

theorem join_prepend (c : α) (p : List (List α) × List α) :
    e.join (prepend c p).1 (prepend c p).2 = c :: e.join p.1 p.2 := by
  obtain ⟨ls, r⟩ := p
  cases ls <;> simp [prepend, join]

/-- A first symbol that does not end a line there leaves the lines unbroken. -/
theorem unbroken_prepend {c c' : α} {s : List α} (hne : ¬(c = e.cr ∧ c' = e.lf)) {p : List (List α) × List α}
    (hp : (∀ l ∈ p.1, e.Unbroken l) ∧ e.Unbroken p.2) (hjoin : e.join p.1 p.2 = c' :: s) :
    (∀ l ∈ (prepend c p).1, e.Unbroken l) ∧ e.Unbroken (prepend c p).2 := by
  obtain ⟨ls, r⟩ := p
  cases ls with
  | nil =>
    refine ⟨nofun, ?_⟩
    obtain rfl : r = c' :: s := hjoin
    exact unbroken_cons_cons.mpr ⟨hne, hp.2⟩
  | cons l ls =>
    have hl : e.Unbroken (c :: l) := by
      cases l with
      | nil => exact unbroken_singleton c
      | cons d l =>
        rw [join_cons] at hjoin
        obtain rfl : d = c' := (List.cons.inj hjoin).1
        exact unbroken_cons_cons.mpr ⟨hne, hp.1 _ List.mem_cons_self⟩
    refine ⟨fun l' hl' ↦ ?_, hp.2⟩
    obtain rfl | hrest := List.mem_cons.mp hl'
    · exact hl
    · exact hp.1 l' (List.mem_cons_of_mem l hrest)

/-! ## Cutting -/

section Cut

variable [DecidableEq α]

theorem cut_line {l : List α} (h : e.Unbroken l) (s : List α) :
    e.cut (l ++ e.cr :: e.lf :: s) = (l :: (e.cut s).1, (e.cut s).2) := by
  induction l with
  | nil => simp [cut]
  | cons c l ih =>
    have hrest := ih h.tail
    cases l with
    | nil =>
      have hne : ¬(c = e.cr ∧ e.cr = e.lf) := fun hcr ↦ e.ne hcr.2
      rw [List.nil_append] at hrest
      rw [List.cons_append, List.nil_append, cut, if_neg hne, hrest, prepend]
    | cons c' l =>
      have hne := (unbroken_cons_cons.mp h).1
      rw [List.cons_append] at hrest
      rw [List.cons_append, List.cons_append, cut, if_neg hne, hrest, prepend]

theorem cut_short {s : List α} (hs : ∀ c c' rest, s ≠ c :: c' :: rest) : e.cut s = ([], s) := by
  cases s with
  | nil => rfl
  | cons c s =>
    cases s with
    | nil => rfl
    | cons c' s => exact absurd rfl (hs c c' s)

theorem cut_unbroken {s : List α} (h : e.Unbroken s) : e.cut s = ([], s) := by
  induction s with
  | nil => rfl
  | cons c s ih =>
    cases s with
    | nil => rfl
    | cons c' s => rw [cut, if_neg (unbroken_cons_cons.mp h).1, ih h.tail, prepend]

/-- Lines come back as they were joined. -/
theorem cut_join {ls : List (List α)} {r : List α} (h : ∀ l ∈ ls, e.Unbroken l) (hr : e.Unbroken r) :
    e.cut (e.join ls r) = (ls, r) := by
  induction ls with
  | nil => exact cut_unbroken hr
  | cons l ls ih =>
    rw [join_cons, cut_line (h l List.mem_cons_self), ih fun l' hl' ↦ h l' (List.mem_cons_of_mem l hl')]

/-- A text is the join of its lines. -/
theorem join_cut (s : List α) : e.join (e.cut s).1 (e.cut s).2 = s := by
  induction s using cut.induct e with
  | case1 c c' s hmark ih => rw [cut, if_pos hmark, join_cons, ih, hmark.1, hmark.2, List.nil_append]
  | case2 c c' s hne ih => rw [cut, if_neg hne, join_prepend, ih]
  | case3 s hs => rw [cut_short hs, join_nil]

theorem unbroken_cut (s : List α) : (∀ l ∈ (e.cut s).1, e.Unbroken l) ∧ e.Unbroken (e.cut s).2 := by
  induction s using cut.induct e with
  | case1 c c' s hmark ih =>
    rw [cut, if_pos hmark]
    refine ⟨fun l hl ↦ ?_, ih.2⟩
    obtain rfl | hrest := List.mem_cons.mp hl
    · exact unbroken_nil
    · exact ih.1 l hrest
  | case2 c c' s hne ih =>
    rw [cut, if_neg hne]
    exact unbroken_prepend hne ih (join_cut (c' :: s))
  | case3 s hs =>
    rw [cut_short hs]
    exact ⟨nofun, unbroken_of_short hs⟩

/-- A text may be cut part by part. -/
theorem cut_append (s t : List α) :
    e.cut (s ++ t) = ((e.cut s).1 ++ (e.cut ((e.cut s).2 ++ t)).1, (e.cut ((e.cut s).2 ++ t)).2) := by
  have hs := unbroken_cut (e := e) s
  have ht := unbroken_cut (e := e) ((e.cut s).2 ++ t)
  calc
    e.cut (s ++ t) = e.cut (e.join (e.cut s).1 (e.cut s).2 ++ t) := by rw [join_cut]
    _ = e.cut (e.join (e.cut s).1 (e.join (e.cut ((e.cut s).2 ++ t)).1 (e.cut ((e.cut s).2 ++ t)).2)) := by
      rw [← join_append_right, join_cut]
    _ = ((e.cut s).1 ++ (e.cut ((e.cut s).2 ++ t)).1, (e.cut ((e.cut s).2 ++ t)).2) := by
      rw [← join_append, cut_join _ ht.2]
      intro l hl
      exact (List.mem_append.mp hl).elim (hs.1 l) (ht.1 l)

/-! ## Lines between line ends -/

variable (e) in
def split (s : List α) : List (List α) := (e.cut s).1 ++ [(e.cut s).2]

theorem unbroken_split {s l : List α} (h : l ∈ e.split s) : e.Unbroken l := by
  have hs := unbroken_cut (e := e) s
  obtain hl | hl := List.mem_append.mp h
  · exact hs.1 l hl
  · rw [List.mem_singleton.mp hl]
    exact hs.2

end Cut

/-! ## Encodings -/

/-- An encoding that leaves the symbols of line ends alone and makes none of others. -/
structure Transparent (e : LineEnd α) (e' : LineEnd β) (encode : α → List β) : Prop where
  cr : encode e.cr = [e'.cr]
  lf : encode e.lf = [e'.lf]
  cr_notMem : ∀ c, c ≠ e.cr → e'.cr ∉ encode c
  lf_notMem : ∀ c, c ≠ e.lf → e'.lf ∉ encode c
  ne_nil : ∀ c, encode c ≠ []

variable {e' : LineEnd β} {encode : α → List β}

theorem Transparent.unbroken (h : Transparent e e' encode) {l : List α} (hl : e.Unbroken l) :
    e'.Unbroken (l.flatMap encode) := by
  induction l with
  | nil => exact unbroken_nil
  | cons c l ih =>
    have hrest := ih hl.tail
    rw [List.flatMap_cons]
    by_cases hc : c = e.cr
    · rw [hc, h.cr, List.singleton_append]
      cases l with
      | nil => exact unbroken_singleton e'.cr
      | cons c' l =>
        have hc' : c' ≠ e.lf := fun hlf ↦ (unbroken_cons_cons.mp hl).1 ⟨hc, hlf⟩
        obtain ⟨d, ds, hd⟩ := List.exists_cons_of_ne_nil (h.ne_nil c')
        rw [List.flatMap_cons, hd, List.cons_append] at hrest ⊢
        refine unbroken_cons_cons.mpr ⟨fun hlf ↦ h.lf_notMem c' hc' ?_, hrest⟩
        rw [hd, hlf.2]
        exact List.mem_cons_self
    · have hnone := h.cr_notMem c hc
      generalize encode c = bs at hnone
      induction bs with
      | nil => exact hrest
      | cons b bs ihb =>
        rw [List.mem_cons, not_or] at hnone
        exact (ihb hnone.2).cons (Ne.symm hnone.1)

theorem Transparent.flatMap_join (h : Transparent e e' encode) (ls : List (List α)) (r : List α) :
    (e.join ls r).flatMap encode = e'.join (ls.map (·.flatMap encode)) (r.flatMap encode) := by
  induction ls with
  | nil => rfl
  | cons l ls ih => simp [join_cons, h.cr, h.lf, ih]

/-- Cutting an encoded text gives the encoded lines. -/
theorem Transparent.cut_flatMap [DecidableEq α] [DecidableEq β] (h : Transparent e e' encode) (s : List α) :
    e'.cut (s.flatMap encode) =
      ((e.cut s).1.map (·.flatMap encode), (e.cut s).2.flatMap encode) := by
  have hs := unbroken_cut (e := e) s
  calc
    e'.cut (s.flatMap encode) = e'.cut ((e.join (e.cut s).1 (e.cut s).2).flatMap encode) := by rw [join_cut]
    _ = ((e.cut s).1.map (·.flatMap encode), (e.cut s).2.flatMap encode) := by
      rw [h.flatMap_join, cut_join _ (h.unbroken hs.2)]
      intro l hl
      obtain ⟨l', hl', rfl⟩ := List.mem_map.mp hl
      exact h.unbroken (hs.1 l' hl')

theorem Transparent.intercalate_split [DecidableEq α] (h : Transparent e e' encode) (s : List α) :
    List.intercalate e'.mark ((e.split s).map (·.flatMap encode)) = s.flatMap encode := by
  rw [split, List.map_append, List.map_singleton, intercalate_mark, ← h.flatMap_join, join_cut]

end LineEnd

/-! ## Blocks of lines -/

section Block

variable [DecidableEq α] (dot : α)

/-- A second dot in front of a line that begins with one. -/
def stuff : List α → List α
  | c :: l => if c = dot then dot :: c :: l else c :: l
  | [] => []

/-- A line that begins with a dot, without it. -/
def unstuff : List α → List α
  | c :: l => if c = dot then l else c :: l
  | [] => []

/-- The lines before the one that is a single dot, without the dots in front of them, and those after it. -/
def receive : List (List α) → Option (List (List α) × List (List α))
  | [] => none
  | l :: ls =>
    if l = [dot] then some ([], ls)
    else (receive ls).map fun (block, rest) ↦ (unstuff dot l :: block, rest)

variable {dot}

theorem stuff_of_head?_ne {l : List α} (h : l.head? ≠ some dot) : stuff dot l = l := by
  cases l with
  | nil => rfl
  | cons c l => exact if_neg fun hc ↦ h (congrArg some hc)

theorem unstuff_stuff (l : List α) : unstuff dot (stuff dot l) = l := by
  cases l with
  | nil => rfl
  | cons c l =>
    rw [stuff]
    split
    · exact if_pos rfl
    · next hc => exact if_neg hc

theorem stuff_ne_dot (l : List α) : stuff dot l ≠ [dot] := by
  cases l with
  | nil => exact (List.cons_ne_nil dot []).symm
  | cons c l =>
    rw [stuff]
    split
    · simp
    · next hc => exact fun heq ↦ hc (List.cons.inj heq).1

/-- A block comes back as it was before dots were put in front of its lines. -/
theorem receive_stuffed (ls rest : List (List α)) :
    receive dot (ls.map (stuff dot) ++ [dot] :: rest) = some (ls, rest) := by
  induction ls with
  | nil => exact if_pos rfl
  | cons l ls ih =>
    rw [List.map_cons, List.cons_append, receive, if_neg (stuff_ne_dot l), ih, Option.map_some, unstuff_stuff]

theorem LineEnd.Unbroken.stuff {e : LineEnd α} {l : List α} (h : e.Unbroken l) (hdot : dot ≠ e.cr) :
    e.Unbroken (stuff dot l) := by
  cases l with
  | nil => exact h
  | cons c l =>
    rw [Text.stuff]
    split
    · exact h.cons hdot
    · exact h

end Block

end CreatorFirst.Text
