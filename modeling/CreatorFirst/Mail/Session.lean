import CreatorFirst.Process.Run
import CreatorFirst.Text.Lines

/-!
# Sessions with a mail server

A session collects the text of a server, which arrives in chunks, and hands its lines to the callers of `line`.
A call either gets a line at once or waits; errors, timeouts and the end of the connection reject the calls that
wait at that time.
-/

namespace CreatorFirst.Mail

open CreatorFirst.Process Text

/-- Lines end with a carriage return and a line feed. -/
def crlf : LineEnd Char := ⟨'\r', '\n', by decide⟩

/-- What the promise of a call is settled with. -/
abbrev Answer := Except String (List Char)

def Answer.line? : Answer → Option (List Char)
  | .ok l => some l
  | .error _ => none

structure Session where
  buffer : List Char
  lines : List (List Char)
  /-- The calls of `line` with what they are settled with. -/
  calls : List (Option Answer)
  /-- The calls that wait, by their numbers. -/
  waiters : List ℕ
  deriving DecidableEq

namespace Session

inductive Action where
  | data (chunk : List Char)
  | error (message : String)
  | timeout
  | close
  | line
  deriving DecidableEq

section Operations

variable (s : Session)

def start : Session := ⟨[], [], [], []⟩

/-- The loop of `flush`. -/
def flushed : List ℕ → List (List Char) → List (Option Answer) →
    List ℕ × List (List Char) × List (Option Answer)
  | i :: waiters, l :: lines, calls => flushed waiters lines (calls.set i (some (.ok l)))
  | waiters, lines, calls => (waiters, lines, calls)

def flush : Session :=
  let (waiters, lines, calls) := flushed s.waiters s.lines s.calls
  { s with waiters, lines, calls }

def rejectAll (message : String) : Session :=
  { s with
    calls := s.waiters.foldl (fun calls i ↦ calls.set i (some (.error message))) s.calls
    waiters := [] }

def onData (chunk : List Char) : Session :=
  let (lines, buffer) := crlf.cut (s.buffer ++ chunk)
  { s with buffer, lines := s.lines ++ lines }.flush

def line : Session :=
  match s.lines with
  | l :: lines => { s with lines, calls := s.calls ++ [some (.ok l)] }
  | [] => { s with calls := s.calls ++ [none], waiters := s.waiters ++ [s.calls.length] }

def step : Action → Session
  | .data chunk => s.onData chunk
  | .error message => s.rejectAll message
  | .timeout => s.rejectAll "Gmail SMTP connection timed out"
  | .close => s.rejectAll "Gmail SMTP connection closed unexpectedly"
  | .line => s.line

/-- The lines that have been handed out, in the order of the calls. -/
def handed : List (List Char) :=
  s.calls.filterMap (·.bind Answer.line?)

end Operations

/-- An event after which the connection is dead. -/
def Action.fails : Action → Bool
  | .error _ | .timeout | .close => true
  | _ => false

/-- The text that has arrived. -/
def stream (actions : List Action) : List Char :=
  actions.flatMap fun
    | .data chunk => chunk
    | _ => []

variable {s : Session} {done : List Answer} {k : ℕ}

/-! ## The queue of calls -/

/-- The calls that wait are the last ones, and wait only while no line is ready. -/
structure Queued (s : Session) (done : List Answer) (k : ℕ) : Prop where
  calls : s.calls = done.map some ++ List.replicate k none
  waiters : s.waiters = List.range' done.length k
  ready : k = 0 ∨ s.lines = []

theorem Queued.waiters_eq_nil (h : s.Queued done k) : s.waiters = [] ↔ none ∉ s.calls := by
  rw [h.waiters, h.calls]
  cases k <;> simp [List.range'_succ]

theorem Queued.handed_eq (h : s.Queued done k) : s.handed = done.filterMap Answer.line? := by
  rw [handed, h.calls, List.filterMap_append, List.filterMap_map]
  have hnone : (List.replicate k (none : Option Answer)).filterMap (·.bind Answer.line?) = [] := by simp
  rw [hnone, List.append_nil]
  rfl

theorem filterMap_ok (lines : List (List Char)) :
    (lines.map (Except.ok : List Char → Answer)).filterMap Answer.line? = lines := by
  rw [List.filterMap_map]
  exact List.filterMap_some

theorem filterMap_reject (k : ℕ) (message : String) :
    (List.replicate k (Except.error message : Answer)).filterMap Answer.line? = [] := by
  simp [Answer.line?]

theorem line_of_cons {l : List Char} {lines : List (List Char)} (h : s.lines = l :: lines) :
    s.line = { s with lines, calls := s.calls ++ [some (.ok l)] } := by
  rw [line]
  split
  · next hlines =>
    rw [h] at hlines
    cases hlines
    rfl
  · next hlines => simp [hlines] at h

theorem line_of_nil (h : s.lines = []) :
    s.line = { s with calls := s.calls ++ [none], waiters := s.waiters ++ [s.calls.length] } := by
  rw [line]
  split
  · next hlines => simp [hlines] at h
  · rfl

/-- The first call that waits is settled. -/
theorem set_pending (done : List Answer) (k : ℕ) (answer : Answer) :
    (done.map some ++ List.replicate (k + 1) none).set done.length (some answer) =
      (done ++ [answer]).map some ++ List.replicate k none := by
  have hlength : done.length = (done.map (some : Answer → Option Answer)).length := (List.length_map _).symm
  rw [hlength, List.set_append_right _ _ le_rfl, Nat.sub_self, List.replicate_succ, List.set_cons_zero]
  simp

theorem flushed_pending (done : List Answer) (k : ℕ) (lines : List (List Char)) :
    flushed (List.range' done.length k) lines (done.map some ++ List.replicate k none) =
      (List.range' (done.length + min k lines.length) (k - lines.length), lines.drop k,
        (done ++ (lines.take k).map Except.ok).map some ++ List.replicate (k - lines.length) none) := by
  induction k generalizing done lines with
  | zero => simp [flushed]
  | succ k ih =>
    cases lines with
    | nil => simp [flushed]
    | cons l lines =>
      have hrest := ih (done ++ [.ok l]) lines
      rw [List.length_append, List.length_singleton] at hrest
      rw [List.range'_succ, flushed, set_pending, hrest]
      simp [Nat.add_assoc, Nat.add_comm 1]

theorem foldl_reject (done : List Answer) (k : ℕ) (message : String) :
    (List.range' done.length k).foldl (fun calls i ↦ calls.set i (some (.error message)))
        (done.map some ++ List.replicate k none) =
      (done ++ List.replicate k (Except.error message)).map some := by
  induction k generalizing done with
  | zero => simp
  | succ k ih =>
    have hrest := ih (done ++ [.error message])
    rw [List.length_append, List.length_singleton] at hrest
    rw [List.range'_succ, List.foldl_cons, set_pending, hrest]
    simp [List.replicate_succ]

theorem queued_start : start.Queued [] 0 := ⟨rfl, rfl, .inl rfl⟩

theorem Queued.onData (h : s.Queued done k) (chunk : List Char) :
    let lines := s.lines ++ (crlf.cut (s.buffer ++ chunk)).1
    (s.onData chunk).Queued (done ++ (lines.take k).map Except.ok) (k - lines.length) ∧
      (s.onData chunk).lines = lines.drop k ∧
      (s.onData chunk).buffer = (crlf.cut (s.buffer ++ chunk)).2 := by
  intro lines
  have hflush := flushed_pending done k lines
  unfold Session.onData flush
  dsimp only
  rw [h.waiters, h.calls, hflush]
  refine ⟨⟨rfl, ?_, ?_⟩, rfl, rfl⟩
  · simp
  · dsimp only
    rw [List.drop_eq_nil_iff]
    omega

theorem Queued.rejectAll (h : s.Queued done k) (message : String) :
    (s.rejectAll message).Queued (done ++ List.replicate k (Except.error message)) 0 := by
  refine ⟨?_, rfl, .inl rfl⟩
  rw [Session.rejectAll, h.waiters, h.calls, foldl_reject]
  simp

theorem Queued.line_ready (h : s.Queued done k) {l : List Char} {lines : List (List Char)}
    (hlines : s.lines = l :: lines) : s.line.Queued (done ++ [.ok l]) 0 := by
  have hk : k = 0 := h.ready.resolve_right (by simp [hlines])
  subst hk
  rw [line_of_cons hlines]
  refine ⟨?_, h.waiters, .inl rfl⟩
  simp [h.calls]

theorem Queued.line_waits (h : s.Queued done k) (hlines : s.lines = []) : s.line.Queued done (k + 1) := by
  rw [line_of_nil hlines]
  refine ⟨?_, ?_, .inr hlines⟩
  · simp [h.calls, List.replicate_succ']
  · simp [h.calls, h.waiters, List.range'_concat]

/-! ## Framing -/

/-- What a session has made of the text that has arrived. -/
structure Framed (s : Session) (text : List Char) : Prop where
  queued : ∃ done k, s.Queued done k
  handed : s.handed ++ s.lines = (crlf.cut text).1
  buffer : s.buffer = (crlf.cut text).2

theorem framed_start : start.Framed [] := ⟨⟨[], 0, queued_start⟩, rfl, rfl⟩

theorem Framed.onData {text : List Char} (h : s.Framed text) (chunk : List Char) :
    (s.onData chunk).Framed (text ++ chunk) := by
  obtain ⟨done, k, hqueued⟩ := h.queued
  obtain ⟨hnext, hlines, hbuffer⟩ := hqueued.onData chunk
  refine ⟨⟨_, _, hnext⟩, ?_, ?_⟩
  · calc
      (s.onData chunk).handed ++ (s.onData chunk).lines =
          done.filterMap Answer.line? ++ (s.lines ++ (crlf.cut (s.buffer ++ chunk)).1) := by
        rw [hnext.handed_eq, hlines, List.filterMap_append, filterMap_ok, List.append_assoc,
          List.take_append_drop]
      _ = (crlf.cut text).1 ++ (crlf.cut ((crlf.cut text).2 ++ chunk)).1 := by
        rw [← hqueued.handed_eq, ← h.buffer, ← h.handed, List.append_assoc]
      _ = (crlf.cut (text ++ chunk)).1 := by rw [LineEnd.cut_append text chunk]
  · rw [hbuffer, LineEnd.cut_append text chunk, ← h.buffer]

theorem Framed.rejectAll {text : List Char} (h : s.Framed text) (message : String) :
    (s.rejectAll message).Framed text := by
  obtain ⟨done, k, hqueued⟩ := h.queued
  have hnext := hqueued.rejectAll message
  refine ⟨⟨_, _, hnext⟩, ?_, h.buffer⟩
  rw [hnext.handed_eq, List.filterMap_append, filterMap_reject, List.append_nil, ← hqueued.handed_eq]
  exact h.handed

theorem Framed.line {text : List Char} (h : s.Framed text) : s.line.Framed text := by
  obtain ⟨done, k, hqueued⟩ := h.queued
  have hbefore := h.handed
  rw [hqueued.handed_eq] at hbefore
  cases hlines : s.lines with
  | nil =>
    have hnext := hqueued.line_waits hlines
    refine ⟨⟨_, _, hnext⟩, ?_, ?_⟩
    · rw [hnext.handed_eq, line_of_nil hlines]
      exact hbefore
    · rw [line_of_nil hlines]
      exact h.buffer
  | cons l lines =>
    have hnext := hqueued.line_ready hlines
    refine ⟨⟨_, _, hnext⟩, ?_, ?_⟩
    · rw [hnext.handed_eq, line_of_cons hlines, ← hbefore, hlines]
      simp [Answer.line?]
    · rw [line_of_cons hlines]
      exact h.buffer

/-- After every sequence of events and calls. -/
theorem framed_run (actions : List Action) : (run step start actions).Framed (stream actions) := by
  induction actions using List.reverseRecOn with
  | nil => exact framed_start
  | append_singleton actions a ih =>
    rw [run_append, stream, List.flatMap_append, ← stream]
    cases a with
    | data chunk =>
      rw [List.flatMap_singleton]
      exact ih.onData chunk
    | error message =>
      rw [List.flatMap_singleton, List.append_nil]
      exact ih.rejectAll message
    | timeout =>
      rw [List.flatMap_singleton, List.append_nil]
      exact ih.rejectAll _
    | close =>
      rw [List.flatMap_singleton, List.append_nil]
      exact ih.rejectAll _
    | line =>
      rw [List.flatMap_singleton, List.append_nil]
      exact ih.line

/-- Chunks and calls without a failure settle no call with an error. -/
theorem calls_run_of_alive (actions : List Action) (h : ∀ a ∈ actions, a.fails = false) :
    ∃ (lines : List (List Char)) (k : ℕ), (run step start actions).Queued (lines.map Except.ok) k := by
  induction actions using List.reverseRecOn with
  | nil => exact ⟨[], 0, queued_start⟩
  | append_singleton actions a ih =>
    obtain ⟨lines, k, hqueued⟩ := ih fun b hb ↦ h b (List.mem_append_left _ hb)
    have ha := h a (List.mem_append_right _ List.mem_cons_self)
    rw [run_append]
    cases a with
    | data chunk =>
      have hnext := (hqueued.onData chunk).1
      rw [← List.map_append] at hnext
      exact ⟨_, _, hnext⟩
    | line =>
      cases hlines : (run step start actions).lines with
      | nil => exact ⟨lines, k + 1, hqueued.line_waits hlines⟩
      | cons l rest =>
        have hnext := hqueued.line_ready hlines
        rw [← List.map_singleton, ← List.map_append] at hnext
        exact ⟨_, _, hnext⟩
    | error | timeout | close => cases ha

/-! ## Readers of a dead connection -/

theorem Framed.waiters_eq_nil {text : List Char} (h : s.Framed text) : s.waiters = [] ↔ none ∉ s.calls := by
  obtain ⟨done, k, hqueued⟩ := h.queued
  exact hqueued.waiters_eq_nil

theorem waiters_onData (h : s.waiters = []) (chunk : List Char) : (s.onData chunk).waiters = [] := by
  simp [onData, flush, flushed, h]

/-- A call after which nobody waits has found a line. -/
theorem waiters_line : s.line.waiters = [] ↔ s.waiters = [] ∧ s.lines ≠ [] := by
  cases hlines : s.lines with
  | nil =>
    rw [line_of_nil hlines]
    simp
  | cons l lines =>
    rw [line_of_cons hlines]
    simp

/-- One of the events has been a failure. -/
def dead (actions : List Action) : Bool := actions.any Action.fails

theorem dead_concat (actions : List Action) (a : Action) :
    dead (actions ++ [a]) = (dead actions || a.fails) := by
  simp [dead]

/-- The next step leaves nobody waiting exactly if it is not a call that finds no line. -/
theorem waiters_concat (actions : List Action) (a : Action)
    (h : dead actions = true → (run step start actions).waiters = []) :
    (dead (actions ++ [a]) = true → (run step start (actions ++ [a])).waiters = []) ↔
      (a = .line → dead actions = true → (run step start actions).lines ≠ []) := by
  rw [run_append, dead_concat]
  cases a with
  | error | timeout | close => exact iff_of_true (fun _ ↦ rfl) nofun
  | data chunk =>
    refine iff_of_true (fun hdead ↦ ?_) nofun
    apply waiters_onData
    apply h
    simpa [Action.fails] using hdead
  | line =>
    have hfails : (dead actions || Action.line.fails) = dead actions := Bool.or_false _
    have hline : (dead actions = true → (run step start actions).line.waiters = []) ↔
        (dead actions = true → (run step start actions).lines ≠ []) :=
      forall_congr' fun hdead ↦ waiters_line.trans (and_iff_right (h hdead))
    rw [hfails]
    exact hline.trans ⟨fun h _ ↦ h, fun h ↦ h rfl⟩

/-- After a failure of the connection no call is left waiting, at any moment, exactly if each later call finds
a line that is ready. -/
theorem no_reader_waits_iff (actions : List Action) :
    (∀ past, past <+: actions → dead past = true → none ∉ (run step start past).calls) ↔
      EachPast (fun past a ↦ a = .line → dead past = true → (run step start past).lines ≠ []) actions := by
  have hwaiters : ∀ past, (dead past = true → none ∉ (run step start past).calls) ↔
      (dead past = true → (run step start past).waiters = []) := by
    intro past
    rw [(framed_run past).waiters_eq_nil]
  simp only [hwaiters]
  induction actions using List.reverseRecOn with
  | nil =>
    exact iff_of_true (fun past hpast hdead ↦ by simp [List.prefix_nil.mp hpast, dead] at hdead) eachPast_nil
  | append_singleton actions a ih =>
    rw [eachPast_concat]
    constructor
    · intro h
      have hearlier : ∀ past, past <+: actions → dead past = true → (run step start past).waiters = [] :=
        fun past hpast ↦ h past (hpast.trans (List.prefix_append actions [a]))
      refine ⟨ih.mp hearlier, ?_⟩
      exact (waiters_concat actions a (hearlier actions List.prefix_rfl)).mp (h _ List.prefix_rfl)
    · rintro ⟨hpasts, hlast⟩ past hpast
      have hearlier := ih.mpr hpasts
      obtain rfl | hpast := List.prefix_concat_iff.mp hpast
      · exact (waiters_concat actions a (hearlier actions List.prefix_rfl)).mpr hlast
      · exact hearlier past hpast

/-- A call after the end of the connection waits for ever. -/
theorem reader_waits_after_close : ¬∀ past, past <+: [Action.close, .line] → dead past = true →
    none ∉ (run step start past).calls := by
  intro h
  exact h _ List.prefix_rfl rfl (by decide)

end Session

/-! ## Replies -/

/-- `/^(\d{3})([ -])/`, with the number of the first group and whether the second one is a hyphen. -/
def replyLine : List Char → Option (ℕ × Bool)
  | a :: b :: c :: d :: _ =>
    if a.isDigit ∧ b.isDigit ∧ c.isDigit ∧ (d = ' ' ∨ d = '-') then
      some (100 * (a.toNat - 48) + 10 * (b.toNat - 48) + (c.toNat - 48), d = '-')
    else none
  | _ => none

/-- What one more line is for a reply. -/
inductive Heard where
  | more (code : ℕ)
  | complete (code : ℕ)
  | failed (message : String)
  deriving DecidableEq

def hear (expectedCodes : List ℕ) (code : Option ℕ) (line : List Char) : Heard :=
  match replyLine line with
  | none => .failed "Gmail SMTP returned an invalid response"
  | some (n, more) =>
    if n ≠ code.getD n then .failed "Gmail SMTP returned inconsistent response codes"
    else if more then .more n
    else if n ∈ expectedCodes then .complete n
    else .failed ("Gmail SMTP rejected the operation with code " ++ toString n)

inductive Reply where
  | waits
  | accepted (code : ℕ) (rest : List (List Char))
  | failed (message : String)
  deriving DecidableEq

/-- The loop of `reply` on the lines that it reads. -/
def replyFrom (expectedCodes : List ℕ) : Option ℕ → List (List Char) → Reply
  | _, [] => .waits
  | code, line :: rest =>
    match hear expectedCodes code line with
    | .more code => replyFrom expectedCodes (some code) rest
    | .complete code => .accepted code rest
    | .failed message => .failed message

def reply (expectedCodes : List ℕ) (lines : List (List Char)) : Reply := replyFrom expectedCodes none lines

/-- The number that three digits stand for. -/
def codeOf : List Char → ℕ
  | [a, b, c] => 100 * (a.toNat - 48) + 10 * (b.toNat - 48) + (c.toNat - 48)
  | _ => 0

/-- Lines that carry one code: three digits in each of them, then a hyphen, or a space in the last one. -/
structure CarriesCode (code : List Char) (block : List (List Char)) : Prop where
  length : code.length = 3
  digits : ∀ d ∈ code, d.isDigit = true
  lines : ∃ init last, block = init ++ [last] ∧ (∀ l ∈ init, code ++ ['-'] <+: l) ∧ code ++ [' '] <+: last

theorem replyLine_eq_some {line : List Char} {n : ℕ} {more : Bool} :
    replyLine line = some (n, more) ↔ ∃ code : List Char, code.length = 3 ∧ (∀ d ∈ code, d.isDigit = true) ∧
      codeOf code = n ∧ code ++ [if more then '-' else ' '] <+: line := by
  constructor
  · intro h
    unfold replyLine at h
    split at h
    · next a b c d rest =>
      split at h
      · next hmatch =>
        obtain ⟨ha, hb, hc, hd⟩ := hmatch
        cases h
        refine ⟨[a, b, c], rfl, by simp [ha, hb, hc], rfl, rest, ?_⟩
        obtain rfl | rfl := hd <;> simp
      · cases h
    · cases h
  · rintro ⟨code, hlength, hdigits, rfl, rest, rfl⟩
    obtain ⟨a, b, c, rfl⟩ := List.length_eq_three.mp hlength
    simp only [List.mem_cons, List.not_mem_nil, or_false, forall_eq_or_imp, forall_eq] at hdigits
    cases more <;> simp [replyLine, codeOf, hdigits]

theorem toNat_isDigit {d : Char} (h : d.isDigit = true) : 48 ≤ d.toNat ∧ d.toNat ≤ 57 := by
  rw [Char.isDigit, Bool.and_eq_true, decide_eq_true_iff, decide_eq_true_iff] at h
  exact ⟨UInt32.le_iff_toNat_le.mp h.1, UInt32.le_iff_toNat_le.mp h.2⟩

theorem codeOf_injective {code code' : List Char} (h : code.length = 3) (h' : code'.length = 3)
    (hdigits : ∀ d ∈ code, d.isDigit = true) (hdigits' : ∀ d ∈ code', d.isDigit = true)
    (heq : codeOf code = codeOf code') : code = code' := by
  obtain ⟨a, b, c, rfl⟩ := List.length_eq_three.mp h
  obtain ⟨a', b', c', rfl⟩ := List.length_eq_three.mp h'
  simp only [List.mem_cons, List.not_mem_nil, or_false, forall_eq_or_imp, forall_eq] at hdigits hdigits'
  have ha := toNat_isDigit hdigits.1
  have hb := toNat_isDigit hdigits.2.1
  have hc := toNat_isDigit hdigits.2.2
  have ha' := toNat_isDigit hdigits'.1
  have hb' := toNat_isDigit hdigits'.2.1
  have hc' := toNat_isDigit hdigits'.2.2
  rw [codeOf, codeOf] at heq
  rw [Char.toNat_inj.mp (show a.toNat = a'.toNat by omega),
    Char.toNat_inj.mp (show b.toNat = b'.toNat by omega),
    Char.toNat_inj.mp (show c.toNat = c'.toNat by omega)]

theorem hear_eq_more {expectedCodes : List ℕ} {code : Option ℕ} {line : List Char} {n : ℕ} :
    hear expectedCodes code line = .more n ↔ code.getD n = n ∧ replyLine line = some (n, true) := by
  unfold hear
  split
  · next hline => simp [hline]
  · next m more hline =>
    rw [hline]
    by_cases hcode : m = code.getD m
    · cases more <;> grind
    · grind

theorem hear_eq_complete {expectedCodes : List ℕ} {code : Option ℕ} {line : List Char} {n : ℕ} :
    hear expectedCodes code line = .complete n ↔
      code.getD n = n ∧ n ∈ expectedCodes ∧ replyLine line = some (n, false) := by
  unfold hear
  split
  · next hline => simp [hline]
  · next m more hline =>
    rw [hline]
    by_cases hcode : m = code.getD m
    · cases more <;> grind
    · grind

/-- A reply that goes on is accepted at its first line with a space, if its lines carry one expected code. -/
theorem replyFrom_eq_accepted {expectedCodes : List ℕ} {code : Option ℕ}
    {lines rest : List (List Char)} {n : ℕ} :
    replyFrom expectedCodes code lines = .accepted n rest ↔
      code.getD n = n ∧ n ∈ expectedCodes ∧ ∃ init last, lines = init ++ last :: rest ∧
        (∀ l ∈ init, replyLine l = some (n, true)) ∧ replyLine last = some (n, false) := by
  induction lines generalizing code with
  | nil => simp [replyFrom]
  | cons line lines ih =>
    rw [replyFrom]
    constructor
    · intro h
      split at h
      · next m hheard =>
        obtain ⟨hcode, hline⟩ := hear_eq_more.mp hheard
        obtain ⟨hm, hexpected, init, last, hlines, hinit, hlast⟩ := ih.mp h
        obtain rfl : m = n := hm
        refine ⟨hcode, hexpected, line :: init, last, by rw [hlines, List.cons_append], fun l hl ↦ ?_, hlast⟩
        obtain rfl | hl := List.mem_cons.mp hl
        · exact hline
        · exact hinit l hl
      · next m hheard =>
        cases h
        obtain ⟨hcode, hexpected, hline⟩ := hear_eq_complete.mp hheard
        exact ⟨hcode, hexpected, [], line, rfl, nofun, hline⟩
      · cases h
    · rintro ⟨hcode, hexpected, init, last, hlines, hinit, hlast⟩
      cases init with
      | nil =>
        obtain ⟨rfl, rfl⟩ := List.cons.inj hlines
        rw [hear_eq_complete.mpr ⟨hcode, hexpected, hlast⟩]
      | cons l init =>
        obtain ⟨rfl, rfl⟩ := List.cons.inj hlines
        rw [hear_eq_more.mpr ⟨hcode, hinit line List.mem_cons_self⟩]
        refine ih.mpr ⟨rfl, hexpected, init, last, rfl, fun l hl ↦ ?_, hlast⟩
        exact hinit l (List.mem_cons_of_mem line hl)

/-- The replies that are accepted. -/
theorem reply_eq_accepted {expectedCodes : List ℕ} {lines rest : List (List Char)} {n : ℕ} :
    reply expectedCodes lines = .accepted n rest ↔ n ∈ expectedCodes ∧ ∃ code block,
      CarriesCode code block ∧ codeOf code = n ∧ lines = block ++ rest := by
  rw [reply, replyFrom_eq_accepted, Option.getD_none, eq_self_iff_true, true_and]
  refine and_congr_right fun _ ↦ ?_
  constructor
  · rintro ⟨init, last, rfl, hinit, hlast⟩
    obtain ⟨code, hlength, hdigits, hcode, hprefix⟩ := replyLine_eq_some.mp hlast
    refine ⟨code, init ++ [last], ⟨hlength, hdigits, init, last, rfl, fun l hl ↦ ?_, hprefix⟩, hcode, by simp⟩
    obtain ⟨code', hlength', hdigits', hcode', hprefix'⟩ := replyLine_eq_some.mp (hinit l hl)
    rw [codeOf_injective hlength hlength' hdigits hdigits' (hcode.trans hcode'.symm)]
    exact hprefix'
  · rintro ⟨code, block, ⟨hlength, hdigits, init, last, rfl, hinit, hlast⟩, hcode, rfl⟩
    refine ⟨init, last, by simp, fun l hl ↦ ?_, ?_⟩
    · exact replyLine_eq_some.mpr ⟨code, hlength, hdigits, hcode, hinit l hl⟩
    · exact replyLine_eq_some.mpr ⟨code, hlength, hdigits, hcode, hlast⟩

/-- After every sequence of chunks, calls and failures the lines that have been handed out and those that are
ready are, in order, the lines of the text that has arrived; calls are settled in their order, without an error
as long as the connection lives, and none waits while a line is ready. Replies are accepted exactly if their
lines carry one expected code. -/
theorem replies_framed :
    (∀ actions : List Session.Action,
      let s := run Session.step Session.start actions
      s.handed ++ s.lines = (crlf.cut (Session.stream actions)).1 ∧
      s.handed <+: (crlf.cut (Session.stream actions)).1 ∧
      (none ∈ s.calls → s.lines = []) ∧
      (∃ settled k, s.calls = List.map some settled ++ List.replicate k none) ∧
      (Session.dead actions = false → ∀ answer, some answer ∈ s.calls → ∃ l, answer = .ok l)) ∧
    ∀ (expectedCodes : List ℕ) (lines rest : List (List Char)) (n : ℕ),
      reply expectedCodes lines = .accepted n rest ↔ n ∈ expectedCodes ∧ ∃ code block,
        CarriesCode code block ∧ codeOf code = n ∧ lines = block ++ rest := by
  refine ⟨fun actions ↦ ?_, fun _ _ _ _ ↦ reply_eq_accepted⟩
  have hframed := Session.framed_run actions
  obtain ⟨done, k, hqueued⟩ := hframed.queued
  refine ⟨hframed.handed, ?_, fun hwaits ↦ ?_, ⟨done, k, hqueued.calls⟩, fun halive answer hanswer ↦ ?_⟩
  · rw [← hframed.handed]
    exact List.prefix_append _ _
  · apply hqueued.ready.resolve_left
    rintro rfl
    rw [hqueued.calls] at hwaits
    simp at hwaits
  · have hfails : ∀ a ∈ actions, a.fails = false := by simpa [Session.dead] using halive
    obtain ⟨lines, k', hanswers⟩ := Session.calls_run_of_alive actions hfails
    rw [hanswers.calls] at hanswer
    obtain ⟨l, -, rfl⟩ : ∃ l ∈ lines, Except.ok l = answer := by simpa using hanswer
    exact ⟨l, rfl⟩

example : reply [250] ["250-mx.example".toList, "250 8BITMIME".toList, "235 ".toList] =
    .accepted 250 ["235 ".toList] := by decide

end CreatorFirst.Mail
