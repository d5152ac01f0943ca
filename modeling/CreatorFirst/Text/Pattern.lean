import Mathlib.Data.Nat.Basic
import Mathlib.Data.List.Basic

/-!
# Patterns

The ways to match the beginning of a text, in the order in which a matcher with backtracking tries them; the first
one is the match. A greedy repetition tries the longest piece first, so what follows it decides how much of a piece
it keeps.
-/

namespace CreatorFirst.Text

/-- The ways to match, each with what it gives and the text that is left. -/
abbrev Pattern (σ α : Type) := List σ → List (α × List σ)

namespace Pattern

variable {σ α β : Type}

def value (a : α) : Pattern σ α := fun s ↦ [(a, s)]

/-- One pattern after another. -/
def andThen (p : Pattern σ α) (q : α → Pattern σ β) : Pattern σ β := fun s ↦ (p s).flatMap fun m ↦ q m.1 m.2

/-- A symbol of a class. -/
def symbol (f : σ → Bool) : Pattern σ σ
  | c :: s => if f c then [(c, s)] else []
  | [] => []

/-- A given piece. -/
def literal [DecidableEq σ] (w : List σ) : Pattern σ Unit := fun s ↦
  if w <+: s then [((), s.drop w.length)] else []

/-- Symbols of a class, as many as possible. -/
def many (f : σ → Bool) : Pattern σ (List σ)
  | c :: s => if f c then (many f s).map (fun m ↦ (c :: m.1, m.2)) ++ [([], c :: s)] else [([], c :: s)]
  | [] => [([], [])]

/-- Symbols of a class, as many as possible, but at least one. -/
def many1 (f : σ → Bool) : Pattern σ (List σ) := fun s ↦ (many f s).filter fun m ↦ !m.1.isEmpty

/-- Symbols of a class, as many as given. -/
def times (f : σ → Bool) : ℕ → Pattern σ (List σ)
  | 0 => value []
  | n + 1 => (symbol f).andThen fun c ↦ (times f n).andThen fun w ↦ value (c :: w)

/-- A pattern if possible. -/
def optional (p : Pattern σ α) : Pattern σ (Option α) := fun s ↦
  (p s).map (fun m ↦ (some m.1, m.2)) ++ [(none, s)]

/-- The matches from left to right, with fuel. -/
def scan (p : Pattern σ α) : ℕ → List σ → List α
  | 0, _ => []
  | fuel + 1, s =>
    match (p s).head? with
    | some m => m.1 :: scan p fuel m.2
    | none => scan p fuel s.tail

/-- All matches of a pattern that never matches the empty text. -/
def matchAll (p : Pattern σ α) (s : List σ) : List α := scan p s.length s

/-! ## What is left -/

/-- What is left is not longer. -/
def Within (p : Pattern σ α) : Prop := ∀ s, ∀ m ∈ p s, m.2.length ≤ s.length

/-- What is left is shorter. -/
def Consumes (p : Pattern σ α) : Prop := ∀ s, ∀ m ∈ p s, m.2.length < s.length

variable {p : Pattern σ α} {q : α → Pattern σ β} {f : σ → Bool} {s : List σ}

theorem Consumes.within (h : Consumes p) : Within p := fun s m hm ↦ Nat.le_of_lt (h s m hm)

theorem within_value (a : α) : Within (value a : Pattern σ α) := by
  intro s m hm
  rw [List.mem_singleton.mp hm]

theorem Within.andThen (hp : Within p) (hq : ∀ a, Within (q a)) : Within (p.andThen q) := by
  intro s m hm
  obtain ⟨m', hm', hm⟩ := List.mem_flatMap.mp hm
  exact Nat.le_trans (hq m'.1 m'.2 m hm) (hp s m' hm')

theorem Consumes.andThen (hp : Consumes p) (hq : ∀ a, Within (q a)) : Consumes (p.andThen q) := by
  intro s m hm
  obtain ⟨m', hm', hm⟩ := List.mem_flatMap.mp hm
  exact Nat.lt_of_le_of_lt (hq m'.1 m'.2 m hm) (hp s m' hm')

theorem consumes_symbol (f : σ → Bool) : Consumes (symbol f) := by
  intro s m hm
  cases s with
  | nil => cases hm
  | cons c s =>
    rw [symbol] at hm
    split at hm
    · rw [List.mem_singleton.mp hm]
      exact Nat.lt_succ_self _
    · cases hm

theorem consumes_literal [DecidableEq σ] {w : List σ} (hw : w ≠ []) : Consumes (literal w) := by
  intro s m hm
  unfold literal at hm
  split at hm
  · next hprefix =>
    have hpos := List.length_pos_iff.mpr hw
    have hle := hprefix.length_le
    rw [List.mem_singleton.mp hm, List.length_drop]
    omega
  · cases hm

theorem within_many (f : σ → Bool) : Within (many f) := by
  intro s
  induction s with
  | nil =>
    intro m hm
    rw [List.mem_singleton.mp hm]
  | cons c s ih =>
    intro m hm
    rw [many] at hm
    split at hm
    · obtain hm | hm := List.mem_append.mp hm
      · obtain ⟨m', hm', rfl⟩ := List.mem_map.mp hm
        exact Nat.le_succ_of_le (ih m' hm')
      · rw [List.mem_singleton.mp hm]
    · rw [List.mem_singleton.mp hm]

theorem within_many1 (f : σ → Bool) : Within (many1 f) :=
  fun s m hm ↦ within_many f s m (List.mem_of_mem_filter hm)

theorem within_times (f : σ → Bool) (n : ℕ) : Within (times f n) := by
  induction n with
  | zero => exact within_value []
  | succ n ih => exact (consumes_symbol f).within.andThen fun c ↦ ih.andThen fun w ↦ within_value (c :: w)

theorem Within.optional (hp : Within p) : Within (optional p) := by
  intro s m hm
  obtain hm | hm := List.mem_append.mp hm
  · obtain ⟨m', hm', rfl⟩ := List.mem_map.mp hm
    exact hp s m' hm'
  · rw [List.mem_singleton.mp hm]

/-! ## The first match -/

theorem head?_andThen {a : α} {rest : List σ} {m : β × List σ} (hp : (p s).head? = some (a, rest))
    (hq : (q a rest).head? = some m) : (p.andThen q s).head? = some m := by
  obtain ⟨ms, hms⟩ := List.head?_eq_some_iff.mp hp
  obtain ⟨ms', hms'⟩ := List.head?_eq_some_iff.mp hq
  rw [andThen, hms, List.flatMap_cons, hms']
  rfl

theorem literal_append [DecidableEq σ] (w s : List σ) : literal w (w ++ s) = [((), s)] := by
  rw [literal, if_pos (List.prefix_append w s), List.drop_left]

theorem literal_eq_nil [DecidableEq σ] {w : List σ} (h : ¬w <+: s) : literal w s = [] := if_neg h

theorem times_append {w : List σ} (hw : ∀ c ∈ w, f c = true) (s : List σ) :
    times f w.length (w ++ s) = [(w, s)] := by
  induction w with
  | nil => rfl
  | cons c w ih =>
    have hrest := ih fun d hd ↦ hw d (List.mem_cons_of_mem c hd)
    have hc : symbol f (c :: (w ++ s)) = [(c, w ++ s)] := if_pos (hw c List.mem_cons_self)
    rw [List.length_cons, times, List.cons_append, andThen, hc, List.flatMap_singleton, andThen, hrest]
    rfl

/-- A repetition may begin with a piece that it can match; it tries longer pieces before this one, and shorter ones
after it. -/
theorem many_append {w : List σ} (hw : ∀ c ∈ w, f c = true) (s : List σ) :
    ∃ shorter, many f (w ++ s) = (many f s).map (fun m ↦ (w ++ m.1, m.2)) ++ shorter := by
  induction w with
  | nil => exact ⟨[], by simp⟩
  | cons c w ih =>
    obtain ⟨shorter, hmany⟩ := ih fun d hd ↦ hw d (List.mem_cons_of_mem c hd)
    refine ⟨shorter.map (fun m ↦ (c :: m.1, m.2)) ++ [([], c :: (w ++ s))], ?_⟩
    rw [List.cons_append, many, if_pos (hw c List.mem_cons_self), hmany]
    simp [Function.comp_def]

/-- The last try is the empty piece. -/
theorem many_eq_append (f : σ → Bool) (s : List σ) :
    ∃ longer, many f s = longer ++ [([], s)] ∧
      ∀ m ∈ longer, m.1 ≠ [] ∧ (∀ c ∈ m.1, f c = true) ∧ m.1 ++ m.2 = s := by
  induction s with
  | nil => exact ⟨[], rfl, nofun⟩
  | cons c s ih =>
    obtain ⟨longer, hmany, hlonger⟩ := ih
    by_cases hc : f c = true
    · refine ⟨(many f s).map (fun m ↦ (c :: m.1, m.2)), by rw [many, if_pos hc], fun m hm ↦ ?_⟩
      obtain ⟨m', hm', rfl⟩ := List.mem_map.mp hm
      rw [hmany] at hm'
      obtain hm' | hm' := List.mem_append.mp hm'
      · obtain ⟨-, hclass, heq⟩ := hlonger m' hm'
        exact ⟨List.cons_ne_nil _ _, List.forall_mem_cons.mpr ⟨hc, hclass⟩, by rw [List.cons_append, heq]⟩
      · rw [List.mem_singleton.mp hm']
        exact ⟨List.cons_ne_nil _ _, by simpa using hc, rfl⟩
    · exact ⟨[], by rw [many, if_neg hc]; rfl, nofun⟩

/-- A repetition keeps the longest piece after which the rest matches. -/
theorem head?_many1_andThen {q : List σ → Pattern σ β} {w : List σ} {m : β × List σ} (hne : w ≠ [])
    (hw : ∀ c ∈ w, f c = true)
    (hlonger : ∀ u v, u ≠ [] → (∀ c ∈ u, f c = true) → u ++ v = s → q (w ++ u) v = [])
    (hq : (q w s).head? = some m) : ((many1 f).andThen q (w ++ s)).head? = some m := by
  obtain ⟨shorter, hshorter⟩ := many_append hw s
  obtain ⟨longer, hmany, hclass⟩ := many_eq_append f s
  have hsplit : many f (w ++ s) = longer.map (fun m ↦ (w ++ m.1, m.2)) ++ (w, s) :: shorter := by
    rw [hshorter, hmany]
    simp
  have hfail :
      ((longer.map (fun m ↦ (w ++ m.1, m.2))).filter fun m ↦ !m.1.isEmpty).flatMap (fun m ↦ q m.1 m.2) =
      [] := by
    rw [List.flatMap_eq_nil_iff]
    intro m' hm'
    obtain ⟨u, hu, rfl⟩ := List.mem_map.mp (List.mem_of_mem_filter hm')
    obtain ⟨hne', hclass', heq⟩ := hclass u hu
    exact hlonger u.1 u.2 hne' hclass' heq
  have hkeep :
      ((w, s) :: shorter).filter (fun m ↦ !m.1.isEmpty) = (w, s) :: shorter.filter fun m ↦ !m.1.isEmpty :=
    List.filter_cons_of_pos (by simpa using hne)
  obtain ⟨ms, hms⟩ := List.head?_eq_some_iff.mp hq
  rw [andThen, many1, hsplit, List.filter_append, List.flatMap_append, hfail, List.nil_append, hkeep,
    List.flatMap_cons, hms]
  rfl

theorem head?_optional {a : α} {rest : List σ} (h : (p s).head? = some (a, rest)) :
    (optional p s).head? = some (some a, rest) := by
  obtain ⟨ms, hms⟩ := List.head?_eq_some_iff.mp h
  rw [optional, hms]
  rfl

theorem optional_of_no_match (h : p s = []) : optional p s = [(none, s)] := by
  rw [optional, h]
  rfl

/-! ## All matches -/

theorem scan_nil (h : p [] = []) (fuel : ℕ) : scan p fuel [] = [] := by
  induction fuel with
  | zero => rfl
  | succ fuel ih =>
    rw [scan, h]
    exact ih

/-- Enough fuel is enough. -/
theorem scan_eq_scan (hp : Consumes p) {fuel fuel' : ℕ} {s : List σ} (h : s.length ≤ fuel)
    (h' : s.length ≤ fuel') :
    scan p fuel s = scan p fuel' s := by
  have hnil : p [] = [] := by
    rw [List.eq_nil_iff_forall_not_mem]
    exact fun m hm ↦ Nat.not_lt_zero _ (hp [] m hm)
  induction fuel generalizing fuel' s with
  | zero => rw [List.length_eq_zero_iff.mp (Nat.le_zero.mp h), scan_nil hnil, scan_nil hnil]
  | succ fuel ih =>
    cases fuel' with
    | zero => rw [List.length_eq_zero_iff.mp (Nat.le_zero.mp h'), scan_nil hnil, scan_nil hnil]
    | succ fuel' =>
      rw [scan, scan]
      cases hhead : (p s).head? with
      | some m =>
        have hshort := hp s m (List.mem_of_head? hhead)
        exact congrArg (m.1 :: ·) (ih (by omega) (by omega))
      | none =>
        have htail : s.tail.length = s.length - 1 := List.length_tail
        exact ih (by omega) (by omega)

theorem matchAll_of_match (hp : Consumes p) {a : α} {rest : List σ} (h : (p s).head? = some (a, rest)) :
    matchAll p s = a :: matchAll p rest := by
  have hshort := hp s _ (List.mem_of_head? h)
  obtain ⟨n, hn⟩ := Nat.exists_eq_succ_of_ne_zero (Nat.ne_zero_of_lt hshort)
  rw [matchAll, hn, scan, h]
  exact congrArg (a :: ·) (scan_eq_scan hp (by omega) le_rfl)

theorem matchAll_of_no_match {c : σ} (h : p (c :: s) = []) : matchAll p (c :: s) = matchAll p s := by
  rw [matchAll, List.length_cons, scan, h]
  rfl

end Pattern

end CreatorFirst.Text
