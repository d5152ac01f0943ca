import Mathlib.Data.List.Nodup
import Mathlib.Data.List.Perm.Basic

/-!
# Registers of declarations

A register takes declarations one after the other, remembers who declared a key first, and reports every later
declaration of it together with the failures that are reported to it. It ends without errors exactly when there was
no failure and no key was declared twice, so the order of what it is given does not decide whether it has errors.
-/

namespace CreatorFirst.Process

variable {K O E : Type}

/-- What is given to a register. -/
inductive Report (K E : Type) where
  | declare (key : K)
  | fail (error : E)

/-- The keys with those who declared them first, and the errors. -/
structure Register (K O E : Type) where
  seen : List (K × O)
  errors : List E

namespace Register

def empty : Register K O E := ⟨[], []⟩

def keys (r : Register K O E) : List K := r.seen.map Prod.fst

theorem nodup_keys_empty : (empty : Register K O E).keys.Nodup := List.nodup_nil

variable [DecidableEq K]

/-- The first declaration of a key, if there is one. -/
def owner (r : Register K O E) (key : K) : Option O := (r.seen.find? (·.1 = key)).map Prod.snd

/-- The error of a second declaration is made from who declares the key and who declared it before. -/
def enter (duplicate : K → O → O → E) (r : Register K O E) : O × Report K E → Register K O E
  | (o, .declare key) =>
    match r.owner key with
    | some first => { r with errors := r.errors ++ [duplicate key o first] }
    | none => { r with seen := r.seen ++ [(key, o)] }
  | (_, .fail error) => { r with errors := r.errors ++ [error] }

def enterAll (duplicate : K → O → O → E) (r : Register K O E) (reports : List (O × Report K E)) : Register K O E :=
  reports.foldl (enter duplicate) r

end Register

namespace Report

def key? : Report K E → Option K
  | .declare key => some key
  | .fail _ => none

def error? : Report K E → Option E
  | .declare _ => none
  | .fail error => some error

end Report

/-- The keys that are declared, in order and with repetitions. -/
def declared (reports : List (O × Report K E)) : List K := reports.filterMap (·.2.key?)

/-- The failures that are reported. -/
def failures (reports : List (O × Report K E)) : List E := reports.filterMap (·.2.error?)

namespace Register

variable [DecidableEq K] {duplicate : K → O → O → E} {r : Register K O E} {key : K} {o first : O}

/-! ## One report -/

theorem owner_eq_none_iff : r.owner key = none ↔ key ∉ r.keys := by
  rw [owner, Option.map_eq_none_iff, List.find?_eq_none, keys, List.mem_map]
  constructor
  · rintro h ⟨entry, hentry, heq⟩
    exact h entry hentry (decide_eq_true heq)
  · intro h entry hentry heq
    exact h ⟨entry, hentry, of_decide_eq_true heq⟩

theorem mem_of_owner (h : r.owner key = some first) : (key, first) ∈ r.seen := by
  rw [owner, Option.map_eq_some_iff] at h
  obtain ⟨⟨key', first'⟩, hfind, rfl⟩ := h
  have hkey : key' = key := by simpa using List.find?_some hfind
  rw [← hkey]
  exact List.mem_of_find?_eq_some hfind

theorem enter_fail (error : E) :
    r.enter duplicate (o, .fail error) = ⟨r.seen, r.errors ++ [error]⟩ := rfl

theorem enter_declare_new (h : key ∉ r.keys) :
    r.enter duplicate (o, .declare key) = ⟨r.seen ++ [(key, o)], r.errors⟩ := by
  simp only [enter, owner_eq_none_iff.mpr h]

theorem enter_declare_again (h : r.owner key = some first) :
    r.enter duplicate (o, .declare key) = ⟨r.seen, r.errors ++ [duplicate key o first]⟩ := by
  simp only [enter, h]

/-- A key is either new or has an owner. -/
theorem new_or_owned (r : Register K O E) (key : K) : key ∉ r.keys ∨ ∃ first, r.owner key = some first := by
  cases howner : r.owner key with
  | none => exact .inl (owner_eq_none_iff.mp howner)
  | some first => exact .inr ⟨first, rfl⟩

theorem mem_keys_of_owner (h : r.owner key = some first) : key ∈ r.keys :=
  List.mem_map.mpr ⟨(key, first), mem_of_owner h, rfl⟩

theorem mem_keys_enter (report : O × Report K E) :
    key ∈ (r.enter duplicate report).keys ↔ key ∈ r.keys ∨ report.2.key? = some key := by
  obtain ⟨o, report⟩ := report
  cases report with
  | fail error => simp [enter_fail, keys, Report.key?]
  | declare key' =>
    obtain hnew | ⟨first, howner⟩ := r.new_or_owned key'
    · rw [enter_declare_new hnew]
      simp [keys, Report.key?, eq_comm]
    · have hmem := mem_keys_of_owner howner
      rw [enter_declare_again howner]
      constructor
      · exact .inl
      · rintro (h | h)
        · exact h
        · cases h
          exact hmem

/-- Errors are only added. -/
theorem errors_enter_ne_nil (h : r.errors ≠ []) (report : O × Report K E) :
    (r.enter duplicate report).errors ≠ [] := by
  obtain ⟨o, report⟩ := report
  cases report with
  | fail error => simp [enter_fail]
  | declare key =>
    obtain hnew | ⟨first, howner⟩ := r.new_or_owned key
    · rw [enter_declare_new hnew]
      exact h
    · rw [enter_declare_again howner]
      simp

/-! ## Many reports -/

theorem enterAll_cons (report : O × Report K E) (reports : List (O × Report K E)) :
    r.enterAll duplicate (report :: reports) = (r.enter duplicate report).enterAll duplicate reports := rfl

theorem mem_keys_enterAll (reports : List (O × Report K E)) :
    key ∈ (r.enterAll duplicate reports).keys ↔ key ∈ r.keys ∨ key ∈ declared reports := by
  induction reports generalizing r with
  | nil => simp [enterAll, declared]
  | cons report reports ih =>
    rw [enterAll_cons, ih, mem_keys_enter, or_assoc]
    simp only [declared, List.mem_filterMap, List.mem_cons, exists_eq_or_imp]

theorem errors_enterAll_ne_nil (h : r.errors ≠ []) (reports : List (O × Report K E)) :
    (r.enterAll duplicate reports).errors ≠ [] := by
  induction reports generalizing r with
  | nil => exact h
  | cons report reports ih => exact ih (errors_enter_ne_nil h report)

/-- A register ends without errors exactly when nothing failed and no key was declared again. -/
theorem enterAll_exact (reports : List (O × Report K E)) (hnodup : r.keys.Nodup) :
    (r.enterAll duplicate reports).errors = [] ↔
      r.errors = [] ∧ failures reports = [] ∧ (r.keys ++ declared reports).Nodup := by
  induction reports generalizing r with
  | nil => simp [enterAll, failures, declared, hnodup]
  | cons report reports ih =>
    obtain ⟨o, report⟩ := report
    rw [enterAll_cons]
    cases report with
    | fail error =>
      have hne : ((r.enter duplicate (o, .fail error)).enterAll duplicate reports).errors ≠ [] :=
        errors_enterAll_ne_nil (by simp [enter_fail]) reports
      simp [hne, failures, Report.error?]
    | declare key =>
      obtain hnew | ⟨first, howner⟩ := r.new_or_owned key
      · rw [enter_declare_new hnew, ih (by simpa [keys] using hnodup.concat hnew)]
        simp [failures, declared, Report.error?, Report.key?, keys]
      · have hne : ((r.enter duplicate (o, .declare key)).enterAll duplicate reports).errors ≠ [] :=
          errors_enterAll_ne_nil (by simp [enter_declare_again howner]) reports
        have hdup : ¬(r.keys ++ declared ((o, .declare key) :: reports)).Nodup := fun h ↦
          (List.nodup_append.mp h).2.2 key (mem_keys_of_owner howner) key List.mem_cons_self rfl
        simp only [hne, hdup, and_false]

/-- Without errors the keys of a register are those declared, in their order. -/
theorem keys_enterAll (reports : List (O × Report K E)) (h : (r.enterAll duplicate reports).errors = []) :
    (r.enterAll duplicate reports).keys = r.keys ++ declared reports := by
  induction reports generalizing r with
  | nil => simp [enterAll, declared]
  | cons report reports ih =>
    rw [enterAll_cons] at h ⊢
    rw [ih h]
    obtain ⟨o, report⟩ := report
    cases report with
    | fail error => rfl
    | declare key =>
      obtain hnew | ⟨first, howner⟩ := r.new_or_owned key
      · rw [enter_declare_new hnew]
        simp [keys, declared, Report.key?]
      · refine absurd h (errors_enterAll_ne_nil ?_ reports)
        simp [enter_declare_again howner]

end Register

end CreatorFirst.Process
