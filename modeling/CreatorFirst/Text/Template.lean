import CreatorFirst.Text.Pattern
import Mathlib.Data.List.Pairwise
import Mathlib.Data.List.Perm.Basic

/-!
# Templates of paths

A path is a sequence of segments, each behind a slash. A template has a name or a class of texts for each
of them. Without slashes in them a path is read in one way only, so that a template finds in a path
exactly the arguments that it was written with, and templates that differ in a name have no path in common.
-/

namespace CreatorFirst.Text

namespace Pattern

variable {σ : Type}

/-- Symbols of a class, as many as possible within bounds. -/
def between (f : σ → Bool) (least : ℕ) (most : Option ℕ) : Pattern σ (List σ) := fun s ↦
  (many f s).filter fun m ↦ least ≤ m.1.length && most.all (m.1.length ≤ ·)

/-- The end of the text. -/
def finish : Pattern σ Unit
  | [] => [((), [])]
  | _ :: _ => []

theorem mem_many {f : σ → Bool} {s : List σ} {m : List σ × List σ} :
    m ∈ many f s ↔ (∀ c ∈ m.1, f c = true) ∧ m.1 ++ m.2 = s := by
  constructor
  · intro hm
    obtain ⟨longer, hmany, hlonger⟩ := many_eq_append f s
    rw [hmany] at hm
    obtain hm | hm := List.mem_append.mp hm
    · exact (hlonger m hm).2
    · rw [List.mem_singleton.mp hm]
      exact ⟨fun c hc ↦ absurd hc List.not_mem_nil, rfl⟩
  · rintro ⟨hclass, rfl⟩
    obtain ⟨shorter, hshorter⟩ := many_append hclass m.2
    obtain ⟨longer, hmany, -⟩ := many_eq_append f m.2
    rw [hshorter, hmany]
    simp

end Pattern

/-- A name, or texts over a class with bounds on their length. -/
inductive Segment where
  | name (w : List Char)
  | parameter (f : Char → Bool) (least : ℕ) (most : Option ℕ)

abbrev Template := List Segment

namespace Segment

def fits (s : List Char) : Segment → Bool
  | name w => s = w
  | parameter f least most => s.all f && (least ≤ s.length && most.all (s.length ≤ ·))

/-- What the segment gives, if it is a parameter. -/
def pattern : Segment → Pattern Char (List (List Char))
  | name w => (Pattern.literal ('/' :: w)).andThen fun _ ↦ Pattern.value []
  | parameter f least most => (Pattern.literal ['/']).andThen fun _ ↦
      (Pattern.between f least most).andThen fun s ↦ Pattern.value [s]

/-- The text of a segment is an argument, if it is a parameter. -/
def arguments (s : List Char) : Segment → List (List Char)
  | name _ => []
  | parameter _ _ _ => [s]

/-- No text of the segment has a slash. -/
def slashless : Segment → Bool
  | name w => !w.contains '/'
  | parameter f _ _ => !f '/'

/-- No text fits both. -/
def clashes : Segment → Segment → Bool
  | name w, segment => !segment.fits w
  | segment, name w => !segment.fits w
  | _, _ => false

variable {segment segment' : Segment} {s : List Char}

theorem mem_pattern {m : List (List Char) × List Char} {t : List Char} :
    m ∈ segment.pattern t ↔
      ∃ s, segment.fits s = true ∧ m.1 = segment.arguments s ∧ t = '/' :: (s ++ m.2) := by
  have hliteral (w : List Char) : ∀ x, x ∈ Pattern.literal w t ↔ t = w ++ x.2 := by
    intro x
    constructor
    · intro hx
      unfold Pattern.literal at hx
      split at hx
      · next hprefix =>
        rw [List.mem_singleton.mp hx]
        exact (List.prefix_iff_eq_append.mp hprefix).symm
      · cases hx
    · rintro rfl
      rw [Pattern.literal_append]
      exact List.mem_singleton.mpr rfl
  cases segment with
  | name w =>
    simp only [pattern, Pattern.andThen, Pattern.value, List.mem_flatMap, hliteral, List.mem_singleton, fits,
      arguments, decide_eq_true_eq, exists_eq_left]
    constructor
    · rintro ⟨x, rfl, rfl⟩
      exact ⟨rfl, rfl⟩
    · rintro ⟨hm, rfl⟩
      exact ⟨((), m.2), rfl, Prod.ext hm rfl⟩
  | parameter f least most =>
    simp only [pattern, Pattern.andThen, Pattern.value, List.mem_flatMap, hliteral, List.mem_singleton,
      Pattern.between, List.mem_filter, Pattern.mem_many, fits, arguments, Bool.and_eq_true, List.all_eq_true]
    constructor
    · rintro ⟨x, rfl, y, ⟨⟨hclass, hy⟩, hlength⟩, rfl⟩
      exact ⟨y.1, ⟨hclass, hlength⟩, rfl, by rw [← hy]; rfl⟩
    · rintro ⟨s, ⟨hclass, hlength⟩, hm, rfl⟩
      exact ⟨((), s ++ m.2), rfl, (s, m.2), ⟨⟨hclass, rfl⟩, hlength⟩, Prod.ext hm rfl⟩

theorem not_mem_of_fits (h : segment.slashless = true) (hs : segment.fits s = true) : '/' ∉ s := by
  cases segment with
  | name w =>
    obtain rfl : s = w := of_decide_eq_true hs
    simpa [slashless] using h
  | parameter f least most =>
    intro hslash
    have hclass : s.all f = true := (Bool.and_eq_true_iff.mp hs).1
    have hf : f '/' = true := List.all_eq_true.mp hclass '/' hslash
    simp [slashless, hf] at h

theorem not_fits_of_clashes (h : segment.clashes segment' = true) (hs : segment.fits s = true) :
    segment'.fits s = false := by
  cases segment with
  | name w =>
    obtain rfl : s = w := of_decide_eq_true hs
    simpa [clashes] using h
  | parameter f least most =>
    cases segment' with
    | name w =>
      by_contra hfits
      obtain rfl : s = w := of_decide_eq_true (Bool.not_eq_false _ ▸ hfits)
      simp [clashes, hs] at h
    | parameter f' least' most' => cases h

end Segment

namespace Template

def pattern : Template → Pattern Char (List (List Char))
  | [] => Pattern.finish.andThen fun _ ↦ Pattern.value []
  | segment :: t => segment.pattern.andThen fun args ↦ (pattern t).andThen fun args' ↦
      Pattern.value (args ++ args')

/-- The arguments in a text, if it matches as a whole. -/
def exec (t : Template) (s : List Char) : Option (List (List Char)) := (t.pattern s).head?.map Prod.fst

/-- The template, written with arguments. -/
inductive Written : Template → List (List Char) → List Char → Prop
  | nil : Written [] [] []
  | cons {segment : Segment} {s rest : List Char} {t : Template} {args : List (List Char)}
    (hs : segment.fits s = true) (hrest : Written t args rest) :
    Written (segment :: t) (segment.arguments s ++ args) ('/' :: (s ++ rest))

def slashless (t : Template) : Bool := t.all Segment.slashless

/-- The templates have no path in common: their segments differ in number, or two of them clash. -/
def apart (t t' : Template) : Bool :=
  t.length != t'.length || (List.zipWith Segment.clashes t t').any id

variable {t t' : Template} {s s' : List Char} {args args' : List (List Char)}

theorem written_nil : Written [] args s ↔ args = [] ∧ s = [] := by
  constructor
  · intro h
    cases h
    exact ⟨rfl, rfl⟩
  · rintro ⟨rfl, rfl⟩
    exact .nil

theorem mem_pattern {m : List (List Char) × List Char} :
    m ∈ t.pattern s ↔ m.2 = [] ∧ Written t m.1 s := by
  induction t generalizing s m with
  | nil =>
    cases s with
    | nil =>
      simp [pattern, Pattern.andThen, Pattern.finish, Pattern.value, written_nil, Prod.ext_iff, and_comm]
    | cons c s =>
      simp only [pattern, Pattern.andThen, Pattern.finish, List.flatMap_nil, List.not_mem_nil, false_iff]
      rintro ⟨-, hwritten⟩
      exact List.cons_ne_nil _ _ (written_nil.mp hwritten).2
  | cons segment t ih =>
    simp only [pattern, Pattern.andThen, Pattern.value, List.mem_flatMap, List.mem_singleton,
      Segment.mem_pattern, ih]
    constructor
    · rintro ⟨x, ⟨text, hfits, hargs, rfl⟩, y, ⟨hy, hwritten⟩, rfl⟩
      refine ⟨hy, ?_⟩
      rw [hargs]
      exact .cons hfits hwritten
    · rintro ⟨hm, hwritten⟩
      generalize hargs : m.1 = args at hwritten
      cases hwritten with
      | cons hfits hrest =>
        exact ⟨(segment.arguments _, _), ⟨_, hfits, rfl, rfl⟩, (_, []), ⟨rfl, hrest⟩, Prod.ext hargs hm⟩

/-- What is left behind a segment begins with a slash. -/
theorem Written.head (h : Written t args s) : ∀ c ∈ s.head?, c = '/' := by
  cases h with
  | nil => simp
  | cons hs hrest => simp

/-- Up to the next slash a path is read in one way. -/
theorem append_inj_of_slash {u u' v v' : List Char} (hu : '/' ∉ u) (hu' : '/' ∉ u')
    (hv : ∀ c ∈ v.head?, c = '/') (hv' : ∀ c ∈ v'.head?, c = '/') (h : u ++ v = u' ++ v') :
    u = u' ∧ v = v' := by
  induction u generalizing u' with
  | nil =>
    cases u' with
    | nil => exact ⟨rfl, h⟩
    | cons c u' =>
      rw [List.nil_append] at h
      rw [h] at hv
      obtain rfl := hv c rfl
      exact absurd List.mem_cons_self hu'
  | cons c u ih =>
    cases u' with
    | nil =>
      rw [List.nil_append] at h
      rw [← h] at hv'
      obtain rfl := hv' c rfl
      exact absurd List.mem_cons_self hu
    | cons c' u' =>
      obtain ⟨rfl, hrest⟩ := List.cons.inj h
      obtain ⟨rfl, rfl⟩ := ih (List.not_mem_of_not_mem_cons hu) (List.not_mem_of_not_mem_cons hu') hrest
      exact ⟨rfl, rfl⟩

theorem Written.unique (hslashless : t.slashless = true) (h : Written t args s) (h' : Written t args' s) :
    args = args' := by
  induction h generalizing args' with
  | nil =>
    cases h'
    rfl
  | @cons segment text rest t args hfits hrest ih =>
    obtain ⟨hsegment, ht⟩ := Bool.and_eq_true_iff.mp ((List.all_cons ..).symm.trans hslashless)
    generalize hpath : '/' :: (text ++ rest) = path at h'
    cases h' with
    | cons hfits' hrest' =>
      obtain ⟨rfl, rfl⟩ := append_inj_of_slash (Segment.not_mem_of_fits hsegment hfits)
        (Segment.not_mem_of_fits hsegment hfits') hrest.head hrest'.head (List.cons.inj hpath).2
      rw [ih ht hrest']

theorem exec_eq_some_iff (hslashless : t.slashless = true) : t.exec s = some args ↔ Written t args s := by
  rw [exec, Option.map_eq_some_iff]
  constructor
  · rintro ⟨m, hm, rfl⟩
    exact (mem_pattern.mp (List.mem_of_head? hm)).2
  · intro h
    have hmem : (args, []) ∈ t.pattern s := mem_pattern.mpr ⟨rfl, h⟩
    cases hhead : (t.pattern s).head? with
    | none =>
      rw [List.head?_eq_none_iff.mp hhead] at hmem
      cases hmem
    | some m =>
      exact ⟨m, rfl, (mem_pattern.mp (List.mem_of_head? hhead)).2.unique hslashless h⟩

theorem not_written_of_apart (hslashless : t.slashless = true) (hslashless' : t'.slashless = true)
    (hapart : t.apart t' = true) (h : Written t args s) : ¬Written t' args' s := by
  induction h generalizing t' args' with
  | nil =>
    intro h'
    cases h'
    cases hapart
  | @cons segment text rest t args hfits hrest ih =>
    intro h'
    generalize hpath : '/' :: (text ++ rest) = path at h'
    cases h' with
    | nil => cases hpath
    | @cons segment' text' rest' t' args' hfits' hrest' =>
      obtain ⟨hsegment, ht⟩ := Bool.and_eq_true_iff.mp ((List.all_cons ..).symm.trans hslashless)
      obtain ⟨hsegment', ht'⟩ := Bool.and_eq_true_iff.mp ((List.all_cons ..).symm.trans hslashless')
      obtain ⟨rfl, rfl⟩ := append_inj_of_slash (Segment.not_mem_of_fits hsegment hfits)
        (Segment.not_mem_of_fits hsegment' hfits') hrest.head hrest'.head (List.cons.inj hpath).2
      have hagree : segment.clashes segment' = false := by
        by_contra hclash
        have hnot := Segment.not_fits_of_clashes (Bool.not_eq_false _ ▸ hclash) hfits
        rw [hfits'] at hnot
        cases hnot
      apply ih ht ht' _ hrest'
      simpa [apart, hagree] using hapart

end Template

/-! ## Tables of routes -/

/-- A path, written from a template, together with a method. -/
structure Route (Method Endpoint : Type) where
  method : Method
  template : Template
  endpoint : Endpoint

section

variable {Method Endpoint : Type}

/-- No request is for both routes. -/
def Route.Apart (r r' : Route Method Endpoint) : Prop :=
  r.method ≠ r'.method ∨ r.template.apart r'.template = true

/-- The first route that has the method and matches the path. -/
def dispatch [DecidableEq Method] (routes : List (Route Method Endpoint)) (method : Method) (path : List Char) :
    Option (Endpoint × List (List Char)) :=
  routes.findSome? fun r ↦
    if r.method = method then (r.template.exec path).map (r.endpoint, ·) else none

instance [DecidableEq Method] (r r' : Route Method Endpoint) : Decidable (r.Apart r') :=
  inferInstanceAs (Decidable (_ ∨ _))

/-- No request is for two of the routes. -/
structure Unambiguous (routes : List (Route Method Endpoint)) : Prop where
  slashless : ∀ r ∈ routes, r.template.slashless = true
  apart : routes.Pairwise Route.Apart

variable {routes routes' : List (Route Method Endpoint)} {method : Method} {path : List Char}
  {endpoint : Endpoint} {args args' : List (List Char)}

theorem apart_comm (t t' : Template) : t.apart t' = t'.apart t := by
  have hclashes (segment segment' : Segment) : segment.clashes segment' = segment'.clashes segment := by
    cases segment <;> cases segment' <;> simp [Segment.clashes, Segment.fits, eq_comm]
  have hzip : List.zipWith Segment.clashes t t' = List.zipWith Segment.clashes t' t := by
    rw [List.zipWith_comm]
    congr
    funext segment segment'
    exact hclashes segment' segment
  rw [Template.apart, Template.apart, hzip, bne_comm]

instance : Std.Symm (@Route.Apart Method Endpoint) where
  symm _ _ hapart := hapart.imp Ne.symm fun hapart ↦ (apart_comm _ _).trans hapart

/-- Requests for two of the routes are told apart. -/
theorem Unambiguous.eq_of_written (h : Unambiguous routes) {r r' : Route Method Endpoint}
    (hr : r ∈ routes) (hr' : r' ∈ routes) (hmethod : r.method = r'.method)
    (hwritten : Template.Written r.template args path)
    (hwritten' : Template.Written r'.template args' path) : r = r' := by
  by_contra hne
  obtain hmethods | hapart := h.apart.forall hr hr' hne
  · exact hmethods hmethod
  · exact Template.not_written_of_apart (h.slashless r hr) (h.slashless r' hr') hapart hwritten hwritten'

/-- A request is for the route that it is written from, wherever that route stands. -/
theorem Unambiguous.dispatch_eq_some_iff [DecidableEq Method] (h : Unambiguous routes) :
    dispatch routes method path = some (endpoint, args) ↔
      ∃ r ∈ routes, r.method = method ∧ r.endpoint = endpoint ∧ Template.Written r.template args path := by
  have hsound : ∀ {endpoint args}, dispatch routes method path = some (endpoint, args) →
      ∃ r ∈ routes, r.method = method ∧ r.endpoint = endpoint ∧
        Template.Written r.template args path := by
    intro endpoint args hfound
    obtain ⟨r, hr, hfound⟩ := List.exists_of_findSome?_eq_some hfound
    obtain ⟨hmethod, hfound⟩ := Option.ite_none_right_eq_some.mp hfound
    obtain ⟨args, hexec, heq⟩ := Option.map_eq_some_iff.mp hfound
    obtain ⟨rfl, rfl⟩ := Prod.mk.inj heq
    exact ⟨r, hr, hmethod, rfl, (Template.exec_eq_some_iff (h.slashless r hr)).mp hexec⟩
  refine ⟨hsound, ?_⟩
  rintro ⟨r, hr, hmethod, rfl, hwritten⟩
  have hexec := (Template.exec_eq_some_iff (h.slashless r hr)).mpr hwritten
  cases hfound : dispatch routes method path with
  | none =>
    have hnone := List.findSome?_eq_none_iff.mp hfound r hr
    simp [hmethod, hexec] at hnone
  | some found =>
    obtain ⟨r', hr', hmethod', he, hwritten'⟩ := hsound (show _ = some (found.1, found.2) from hfound)
    obtain rfl := h.eq_of_written hr hr' (hmethod.trans hmethod'.symm) hwritten hwritten'
    rw [hwritten.unique (h.slashless r hr) hwritten', he]

theorem Unambiguous.perm (h : Unambiguous routes) (hperm : routes.Perm routes') : Unambiguous routes' where
  slashless r hr := h.slashless r (hperm.mem_iff.mpr hr)
  apart := (hperm.pairwise_iff fun hapart ↦ Std.Symm.symm _ _ hapart).mp h.apart

theorem Unambiguous.dispatch_perm [DecidableEq Method] (h : Unambiguous routes)
    (hperm : routes.Perm routes') (method : Method)
    (path : List Char) : dispatch routes method path = dispatch routes' method path := by
  apply Option.ext
  rintro ⟨endpoint, args⟩
  rw [h.dispatch_eq_some_iff, (h.perm hperm).dispatch_eq_some_iff]
  simp only [hperm.mem_iff]

end

end CreatorFirst.Text
