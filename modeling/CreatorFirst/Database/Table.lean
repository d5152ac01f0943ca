import Mathlib.Data.List.Nodup
import Mathlib.Data.List.Induction

/-!
# Tables with a primary key

A table holds its rows in the order of their insertion, no two of them with the same key. An insertion
under a key that is taken fails. An update rewrites the row under one key and may not touch the key
itself, so that a row is followed through all updates by its key.
-/

namespace CreatorFirst.Database

/-- Rows of which `key` is the primary key. -/
structure Table {κ ρ : Type} (key : ρ → κ) where
  rows : List ρ
  nodup : (rows.map key).Nodup

namespace Table

variable {κ ρ : Type} {key : ρ → κ}

instance : Membership ρ (Table key) where
  mem t r := r ∈ t.rows

def empty : Table key := ⟨[], List.nodup_nil⟩

@[simp]
theorem not_mem_empty (r : ρ) : r ∉ (empty : Table key) := List.not_mem_nil

theorem eq_iff_rows {t t' : Table key} : t = t' ↔ t.rows = t'.rows := by
  cases t
  cases t'
  simp

theorem mem_iff {t : Table key} {r : ρ} : r ∈ t ↔ r ∈ t.rows := Iff.rfl

/-- A key determines its row. -/
theorem eq_of_key {t : Table key} {r r' : ρ} (hr : r ∈ t) (hr' : r' ∈ t) (h : key r = key r') :
    r = r' :=
  List.inj_on_of_nodup_map t.nodup hr hr' h

section Update

/-- Rewrite one row, keeping its key. -/
structure Rewrite (key : ρ → κ) where
  apply : ρ → ρ
  key_apply : ∀ r, key (apply r) = key r

variable [DecidableEq κ]

def find? (t : Table key) (k : κ) : Option ρ :=
  t.rows.find? fun r ↦ key r = k

theorem find?_eq_some {t : Table key} {k : κ} {r : ρ} :
    t.find? k = some r ↔ r ∈ t ∧ key r = k := by
  constructor
  · intro h
    exact ⟨List.mem_of_find?_eq_some h, by simpa using List.find?_some h⟩
  · rintro ⟨hr, rfl⟩
    cases hfound : t.find? (key r) with
    | none =>
      have hother := List.find?_eq_none.mp hfound r hr
      simp at hother
    | some r' =>
      have hr' : r' ∈ t := List.mem_of_find?_eq_some hfound
      have hkey : key r' = key r := by simpa using List.find?_some hfound
      rw [eq_of_key hr' hr hkey]

theorem find?_eq_none {t : Table key} {k : κ} : t.find? k = none ↔ ∀ r ∈ t, key r ≠ k := by
  simp [find?, List.find?_eq_none, mem_iff]

theorem find?_key {t : Table key} {r : ρ} (h : r ∈ t) : t.find? (key r) = some r :=
  find?_eq_some.mpr ⟨h, rfl⟩

/-- `INSERT`; it fails when the key is taken. -/
def insert (t : Table key) (r : ρ) : Option (Table key) :=
  if h : key r ∈ t.rows.map key then none
  else some ⟨t.rows ++ [r], by
    rw [List.map_append, List.map_singleton]
    exact t.nodup.append (List.nodup_singleton _) (by simpa using h)⟩

theorem insert_eq_some {t t' : Table key} {r : ρ} :
    t.insert r = some t' ↔ t.find? (key r) = none ∧ t'.rows = t.rows ++ [r] := by
  have hfree : t.find? (key r) = none ↔ key r ∉ t.rows.map key := by
    rw [find?_eq_none, List.mem_map]
    exact ⟨fun h ⟨r', hr', hkey⟩ ↦ h r' hr' hkey, fun h r' hr' hkey ↦ h ⟨r', hr', hkey⟩⟩
  rw [hfree, insert]
  split
  · next h => simp [h]
  · next h => simp [h, eq_iff_rows, eq_comm]

theorem insert_eq_none {t : Table key} {r : ρ} : t.insert r = none ↔ t.find? (key r) ≠ none := by
  cases hinsert : t.insert r with
  | none =>
    refine iff_of_true rfl fun hfree ↦ ?_
    rw [insert, dif_neg] at hinsert
    · cases hinsert
    · intro hmem
      obtain ⟨r', hr', hkey⟩ := List.mem_map.mp hmem
      exact find?_eq_none.mp hfree r' hr' hkey
  | some t' =>
    exact iff_of_false (by simp) (not_not.mpr (insert_eq_some.mp hinsert).1)

theorem mem_insert {t t' : Table key} {r x : ρ} (h : t.insert r = some t') :
    x ∈ t' ↔ x ∈ t ∨ x = r := by
  rw [mem_iff, (insert_eq_some.mp h).2, List.mem_append, List.mem_singleton, mem_iff]

theorem insert_ne {t t' : Table key} {r : ρ} (h : t.insert r = some t') : t' ≠ t := by
  rintro rfl
  exact find?_eq_none.mp (insert_eq_some.mp h).1 r ((mem_insert h).mpr (.inr rfl)) rfl

/-- An insertion leaves the other keys as they were. -/
theorem find?_insert {t t' : Table key} {r : ρ} (h : t.insert r = some t') (k : κ) :
    t'.find? k = if key r = k then some r else t.find? k := by
  split
  · next hk =>
    subst hk
    exact find?_key ((mem_insert h).mpr (.inr rfl))
  · next hk =>
    cases hfound : t.find? k with
    | none =>
      refine find?_eq_none.mpr fun x hx ↦ ?_
      obtain hx | rfl := (mem_insert h).mp hx
      · exact find?_eq_none.mp hfound x hx
      · exact hk
    | some x =>
      obtain ⟨hx, rfl⟩ := find?_eq_some.mp hfound
      exact find?_key ((mem_insert h).mpr (.inl hx))

/-- `INSERT OR IGNORE`; nothing happens when the key is taken. -/
def insertOrIgnore (t : Table key) (r : ρ) : Table key := (t.insert r).getD t

theorem insertOrIgnore_of_taken {t : Table key} {r : ρ} (h : t.find? (key r) ≠ none) :
    t.insertOrIgnore r = t := by
  rw [insertOrIgnore, insert_eq_none.mpr h, Option.getD_none]

theorem rows_insertOrIgnore_of_free {t : Table key} {r : ρ} (h : t.find? (key r) = none) :
    (t.insertOrIgnore r).rows = t.rows ++ [r] := by
  cases hinsert : t.insert r with
  | none => exact absurd h (insert_eq_none.mp hinsert)
  | some t' =>
    rw [insertOrIgnore, hinsert, Option.getD_some]
    exact (insert_eq_some.mp hinsert).2

/-- `UPDATE … WHERE key = k AND p`. -/
def update (t : Table key) (k : κ) (p : ρ → Prop) [DecidablePred p] (f : Rewrite key) : Table key where
  rows := t.rows.map fun r ↦ if key r = k ∧ p r then f.apply r else r
  nodup := by
    have hkeys : (t.rows.map fun r ↦ if key r = k ∧ p r then f.apply r else r).map key =
        t.rows.map key := by
      rw [List.map_map]
      refine List.map_congr_left fun r _ ↦ ?_
      change key (if key r = k ∧ p r then f.apply r else r) = key r
      split
      · exact f.key_apply r
      · rfl
    rw [hkeys]
    exact t.nodup

/-- The number of rows such an update changes. -/
def changes (t : Table key) (k : κ) (p : ρ → Prop) [DecidablePred p] : ℕ :=
  t.rows.countP fun r ↦ key r = k ∧ p r

variable {p : ρ → Prop} [DecidablePred p] {f : Rewrite key}

theorem changes_pos {t : Table key} {k : κ} : 0 < t.changes k p ↔ ∃ r, t.find? k = some r ∧ p r := by
  simp only [changes, List.countP_pos_iff, find?_eq_some, mem_iff, decide_eq_true_eq, and_assoc]

theorem mem_update {t : Table key} {k : κ} {x : ρ} :
    x ∈ t.update k p f ↔ ∃ r ∈ t, x = if key r = k ∧ p r then f.apply r else r := by
  simp [mem_iff, update, eq_comm]

/-- Rows that the update does not select stay. -/
theorem mem_update_of_not {t : Table key} {k : κ} {r : ρ} (hr : r ∈ t) (h : ¬(key r = k ∧ p r)) :
    r ∈ t.update k p f :=
  mem_update.mpr ⟨r, hr, (if_neg h).symm⟩

theorem mem_update_of_pos {t : Table key} {r : ρ} (hr : r ∈ t) (h : p r) :
    f.apply r ∈ t.update (key r) p f :=
  mem_update.mpr ⟨r, hr, (if_pos ⟨rfl, h⟩).symm⟩

/-- An update changes nothing exactly when it rewrites each row it selects to itself. -/
theorem update_eq_self {t : Table key} {k : κ} :
    t.update k p f = t ↔ ∀ r ∈ t, key r = k → p r → f.apply r = r := by
  constructor
  · rintro h r hr rfl hp
    have happly : f.apply r ∈ t := h ▸ mem_update_of_pos hr hp
    exact eq_of_key happly hr (f.key_apply r)
  · intro h
    have hsame : ∀ r ∈ t.rows, (if key r = k ∧ p r then f.apply r else r) = r := by
      intro r hr
      split
      · next hk => exact h r hr hk.1 hk.2
      · rfl
    have hrows : (t.update k p f).rows = t.rows.map id := List.map_congr_left hsame
    exact eq_iff_rows.mpr (hrows.trans (List.map_id t.rows))

theorem find?_update_of_ne {t : Table key} {k j : κ} (h : j ≠ k) :
    (t.update k p f).find? j = t.find? j := by
  cases hfound : t.find? j with
  | none =>
    refine find?_eq_none.mpr fun x hx ↦ ?_
    obtain ⟨r, hr, rfl⟩ := mem_update.mp hx
    have hkey := find?_eq_none.mp hfound r hr
    split
    · rwa [f.key_apply]
    · exact hkey
  | some r =>
    obtain ⟨hr, rfl⟩ := find?_eq_some.mp hfound
    exact find?_eq_some.mpr ⟨mem_update_of_not hr fun hk ↦ h hk.1, rfl⟩

theorem find?_update_self {t : Table key} {k : κ} :
    (t.update k p f).find? k = (t.find? k).map fun r ↦ if p r then f.apply r else r := by
  cases hfound : t.find? k with
  | none =>
    refine find?_eq_none.mpr fun x hx ↦ ?_
    obtain ⟨r, hr, rfl⟩ := mem_update.mp hx
    have hkey := find?_eq_none.mp hfound r hr
    rw [if_neg fun hk ↦ hkey hk.1]
    exact hkey
  | some r =>
    obtain ⟨hr, rfl⟩ := find?_eq_some.mp hfound
    refine find?_eq_some.mpr ⟨mem_update.mpr ⟨r, hr, by simp⟩, ?_⟩
    change key (if p r then f.apply r else r) = key r
    split
    · exact f.key_apply r
    · rfl

theorem find?_update {t : Table key} {k j : κ} :
    (t.update k p f).find? j = (t.find? j).map fun r ↦ if j = k ∧ p r then f.apply r else r := by
  by_cases hj : j = k
  · subst hj
    simp [find?_update_self]
  · simp [find?_update_of_ne hj, hj]

/-- A row after an update was there before, or is one that the update has rewritten. -/
theorem find?_of_update {t : Table key} {k j : κ} {x : ρ} (h : (t.update k p f).find? j = some x) :
    t.find? j = some x ∨ j = k ∧ ∃ r, t.find? k = some r ∧ p r ∧ x = f.apply r := by
  rw [find?_update, Option.map_eq_some_iff] at h
  obtain ⟨r, hfound, rfl⟩ := h
  split
  · next hk =>
    obtain ⟨rfl, hp⟩ := hk
    exact .inr ⟨rfl, r, hfound, hp, rfl⟩
  · exact .inl hfound

/-- `UPDATE … WHERE p`, for a condition that is not about the key. -/
def updateAll (t : Table key) (p : ρ → Prop) [DecidablePred p] (f : Rewrite key) : Table key where
  rows := t.rows.map fun r ↦ if p r then f.apply r else r
  nodup := by
    have hkeys : (t.rows.map fun r ↦ if p r then f.apply r else r).map key = t.rows.map key := by
      rw [List.map_map]
      refine List.map_congr_left fun r _ ↦ ?_
      change key (if p r then f.apply r else r) = key r
      split
      · exact f.key_apply r
      · rfl
    rw [hkeys]
    exact t.nodup

omit [DecidableEq κ] in
theorem mem_updateAll {t : Table key} {x : ρ} :
    x ∈ t.updateAll p f ↔ ∃ r ∈ t, x = if p r then f.apply r else r := by
  simp [mem_iff, updateAll, eq_comm]

theorem find?_updateAll {t : Table key} {k : κ} :
    (t.updateAll p f).find? k = (t.find? k).map fun r ↦ if p r then f.apply r else r := by
  have hkey : ∀ r, key (if p r then f.apply r else r) = key r := by
    intro r
    split
    · exact f.key_apply r
    · rfl
  cases hfound : t.find? k with
  | none =>
    refine find?_eq_none.mpr fun x hx ↦ ?_
    obtain ⟨r, hr, rfl⟩ := mem_updateAll.mp hx
    rw [hkey]
    exact find?_eq_none.mp hfound r hr
  | some r =>
    obtain ⟨hr, rfl⟩ := find?_eq_some.mp hfound
    exact find?_eq_some.mpr ⟨mem_updateAll.mpr ⟨r, hr, rfl⟩, hkey r⟩

/-- Put a row under its key, in the place of the row that is there. -/
def set (t : Table key) (r : ρ) : Table key :=
  (t.insert r).getD (t.update (key r) (fun _ ↦ True) ⟨fun x ↦ if key x = key r then r else x, by
    intro x
    split
    · next h => exact h.symm
    · rfl⟩)

theorem insert_set {t : Table key} {r : ρ} (h : t.find? (key r) = none) :
    t.insert r = some (t.set r) := by
  cases hinsert : t.insert r with
  | none => exact absurd h (insert_eq_none.mp hinsert)
  | some t' => rw [set, hinsert, Option.getD_some]

theorem find?_set {t : Table key} {r : ρ} (k : κ) :
    (t.set r).find? k = if key r = k then some r else t.find? k := by
  cases hinsert : t.insert r with
  | some t' =>
    rw [set, hinsert, Option.getD_some]
    exact find?_insert hinsert k
  | none =>
    rw [set, hinsert, Option.getD_none, find?_update]
    by_cases hk : key r = k
    · subst hk
      cases hfound : t.find? (key r) with
      | none => exact absurd hfound (insert_eq_none.mp hinsert)
      | some x => simp [(find?_eq_some.mp hfound).2]
    · cases t.find? k <;> simp [hk, Ne.symm hk]

theorem insertOrIgnore_of_free {t : Table key} {r : ρ} (h : t.find? (key r) = none) :
    t.insertOrIgnore r = t.set r := by
  rw [insertOrIgnore, insert_set h, Option.getD_some]

/-- The row under the key is in `q`. -/
def Holds (t : Table key) (k : κ) (q : ρ → Prop) : Prop := ∃ r, t.find? k = some r ∧ q r

variable {q : ρ → Prop} {t : Table key} {k : κ}

theorem Holds.insert {t' : Table key} {r : ρ} (h : t.Holds k q) (hinsert : t.insert r = some t') :
    t'.Holds k q := by
  obtain ⟨x, hx, hq⟩ := h
  refine ⟨x, ?_, hq⟩
  rw [find?_insert hinsert, if_neg, hx]
  rintro rfl
  rw [(insert_eq_some.mp hinsert).1] at hx
  cases hx

theorem Holds.set {r : ρ} (h : t.Holds k q) (hfree : t.find? (key r) = none) : (t.set r).Holds k q :=
  h.insert (insert_set hfree)

theorem Holds.update {j : κ} (h : t.Holds k q) (hf : ∀ r, q r → q (f.apply r)) :
    (t.update j p f).Holds k q := by
  obtain ⟨x, hx, hq⟩ := h
  rw [Holds, find?_update, hx]
  refine ⟨_, rfl, ?_⟩
  dsimp only
  split
  · exact hf x hq
  · exact hq

end Update

section Restrict

/-- The rows in `q`. -/
def restrict (t : Table key) (q : ρ → Prop) [DecidablePred q] : Table key where
  rows := t.rows.filter fun r ↦ q r
  nodup := (List.filter_sublist.map key).nodup t.nodup

variable {q : ρ → Prop} [DecidablePred q]

theorem mem_restrict {t : Table key} {r : ρ} : r ∈ t.restrict q ↔ r ∈ t ∧ q r := by
  simp [mem_iff, restrict]

theorem restrict_restrict {t : Table key} : (t.restrict q).restrict q = t.restrict q :=
  eq_iff_rows.mpr (by simp [restrict, List.filter_filter])

theorem restrict_congr {t : Table key} {q' : ρ → Prop} [DecidablePred q']
    (h : ∀ r ∈ t, q r ↔ q' r) : t.restrict q = t.restrict q' :=
  eq_iff_rows.mpr (List.filter_congr fun r hr ↦ by simpa using h r hr)

variable [DecidableEq κ]

theorem find?_restrict {t : Table key} {k : κ} :
    (t.restrict q).find? k = (t.find? k).filter fun r ↦ q r := by
  cases hfound : t.find? k with
  | none =>
    refine find?_eq_none.mpr fun x hx ↦ ?_
    exact find?_eq_none.mp hfound x (mem_restrict.mp hx).1
  | some r =>
    obtain ⟨hr, rfl⟩ := find?_eq_some.mp hfound
    by_cases hq : q r
    · rw [Option.filter_some, if_pos (by simpa using hq)]
      exact find?_key (mem_restrict.mpr ⟨hr, hq⟩)
    · rw [Option.filter_some, if_neg (by simpa using hq)]
      refine find?_eq_none.mpr fun x hx hkey ↦ ?_
      obtain ⟨hx, hqx⟩ := mem_restrict.mp hx
      exact hq (eq_of_key hx hr hkey ▸ hqx)

theorem find?_restrict_of_found {t : Table key} {k : κ} (h : ∀ r, t.find? k = some r → q r) :
    (t.restrict q).find? k = t.find? k := by
  rw [find?_restrict]
  cases hfound : t.find? k with
  | none => rfl
  | some r => rw [Option.filter_some, if_pos (by simpa using h r hfound)]

theorem find?_restrict_eq_none {t : Table key} {k : κ} (h : t.find? k = none) :
    (t.restrict q).find? k = none := by
  rw [find?_restrict, h, Option.filter_none]

theorem insert_restrict {t t' : Table key} {r : ρ} (h : t.insert r = some t') (hq : q r) :
    (t.restrict q).insert r = some (t'.restrict q) := by
  refine insert_eq_some.mpr ⟨find?_restrict_eq_none (insert_eq_some.mp h).1, ?_⟩
  simp [restrict, (insert_eq_some.mp h).2, List.filter_append, hq]

theorem restrict_insert_of_not {t t' : Table key} {r : ρ} (h : t.insert r = some t') (hq : ¬q r) :
    t'.restrict q = t.restrict q := by
  refine eq_iff_rows.mpr ?_
  simp [restrict, (insert_eq_some.mp h).2, List.filter_append, hq]

theorem restrict_set {t : Table key} {r : ρ} (hfree : t.find? (key r) = none) (hq : q r) :
    (t.set r).restrict q = (t.restrict q).set r := by
  have hinsert := insert_restrict (insert_set hfree) hq
  rw [insert_set (find?_restrict_eq_none hfree)] at hinsert
  exact (Option.some.inj hinsert).symm

theorem restrict_set_of_not {t : Table key} {r : ρ} (hfree : t.find? (key r) = none) (hq : ¬q r) :
    (t.set r).restrict q = t.restrict q :=
  restrict_insert_of_not (insert_set hfree) hq

variable {p : ρ → Prop} [DecidablePred p] {f : Rewrite key}

/-- An update that does not move rows in or out of `q` can be made on the restriction. -/
theorem restrict_update {t : Table key} {k : κ} (hf : ∀ r, q (f.apply r) ↔ q r) :
    (t.update k p f).restrict q = (t.restrict q).update k p f := by
  refine eq_iff_rows.mpr ?_
  have hsame : ∀ r, q (if key r = k ∧ p r then f.apply r else r) ↔ q r := by
    intro r
    split
    · exact hf r
    · exact Iff.rfl
  simp only [restrict, update, List.filter_map, Function.comp_def]
  refine congrArg (List.map _) (List.filter_congr fun r _ ↦ ?_)
  simp only [hsame]

/-- An update of rows outside `q` is not seen on the restriction. -/
theorem restrict_update_of_not {t : Table key} {k : κ} (hf : ∀ r, q (f.apply r) ↔ q r)
    (hout : ∀ r ∈ t, key r = k → p r → ¬q r) : (t.update k p f).restrict q = t.restrict q := by
  rw [restrict_update hf, update_eq_self]
  intro r hr hk hp
  obtain ⟨hr, hq⟩ := mem_restrict.mp hr
  exact absurd hq (hout r hr hk hp)

theorem restrict_update_of_found {t : Table key} {k : κ} {r : ρ} (hf : ∀ r, q (f.apply r) ↔ q r)
    (hfound : t.find? k = some r) (hq : ¬q r) : (t.update k p f).restrict q = t.restrict q := by
  refine restrict_update_of_not hf fun x hx hkey _ ↦ ?_
  rwa [Option.some.inj ((find?_eq_some.mpr ⟨hx, hkey⟩).symm.trans hfound)]

end Restrict

section Remove

variable [DecidableEq κ]

/-- Take the row under a key away. -/
def remove (t : Table key) (k : κ) : Table key := t.restrict fun r ↦ key r ≠ k

theorem mem_remove {t : Table key} {k : κ} {r : ρ} : r ∈ t.remove k ↔ r ∈ t ∧ key r ≠ k :=
  mem_restrict

theorem length_remove_le (t : Table key) (k : κ) : (t.remove k).rows.length ≤ t.rows.length :=
  List.length_filter_le _ _

/-- The row that was inserted first is the only one under its key. -/
theorem rows_remove_head {t : Table key} {r : ρ} {rs : List ρ} (h : t.rows = r :: rs) :
    (t.remove (key r)).rows = rs := by
  have hnodup := t.nodup
  rw [h, List.map_cons, List.nodup_cons] at hnodup
  have hrest : ∀ x ∈ rs, key x ≠ key r := fun x hx hkey ↦
    hnodup.1 (hkey ▸ List.mem_map_of_mem hx)
  simpa [remove, restrict, h] using hrest

/-- Take the oldest row away where there are `limit` rows or more. -/
def makeRoom (t : Table key) (limit : ℕ) : Table key :=
  match t.rows.head? with
  | some r => if limit ≤ t.rows.length then t.remove (key r) else t
  | none => t

theorem rows_makeRoom {t : Table key} {limit : ℕ} :
    (t.makeRoom limit).rows = if limit ≤ t.rows.length then t.rows.tail else t.rows := by
  unfold makeRoom
  cases hrows : t.rows with
  | nil => simp [hrows]
  | cons r rs =>
    simp only [List.head?_cons, List.tail_cons]
    split
    · exact rows_remove_head hrows
    · exact hrows

theorem mem_of_mem_makeRoom {t : Table key} {limit : ℕ} {r : ρ} (h : r ∈ t.makeRoom limit) : r ∈ t := by
  rw [mem_iff, rows_makeRoom] at h
  split at h
  · exact List.mem_of_mem_tail h
  · exact h

theorem find?_makeRoom_of_free {t : Table key} {limit : ℕ} {k : κ} (h : t.find? k = none) :
    (t.makeRoom limit).find? k = none :=
  find?_eq_none.mpr fun r hr ↦ find?_eq_none.mp h r (mem_of_mem_makeRoom hr)

theorem rows_set_of_free {t : Table key} {r : ρ} (h : t.find? (key r) = none) :
    (t.set r).rows = t.rows ++ [r] :=
  (insert_eq_some.mp (insert_set h)).2

end Remove

end Table

end CreatorFirst.Database
