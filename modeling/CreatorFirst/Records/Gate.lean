import CreatorFirst.Records.Validator

/-!
# What the gate ensures

Every record behind a gate that passes has passed its own checks. Of blocking issues the gate looks
for two statuses only, and it looks for the minutes and the decision of each House separately, without
comparing what they say about each other. What it finds belongs together where every decision of the
revision that it may find agrees with the minutes and with the others.
-/

namespace CreatorFirst.Records

open Script
open Chain (Bytes utf8)

section

variable {E : Platform} {project : Project} {selector : String}

/-! ## A run without problems -/

theorem problemIf_eq_nil {condition : Bool} {problem : Problem} :
    problemIf condition problem = [] ↔ condition = false := by
  cases condition <;> simp [problemIf]

/-- The record has passed its own checks. -/
def Checked (E : Platform) (r : Record) : Prop :=
  ∃ source cfp revision, checkCommon r cfp revision = [] ∧ checkType E r source = []

/-- The file holds the record, and nothing is wrong with them by themselves. -/
structure Holds (E : Platform) (file : File) (r : Record) : Prop where
  path : r.path = file.displayPath
  header : ∃ value, parseFrontmatter E file.source file.displayPath = .ok ([], value) ∧
    fieldsOf value = .ok r.field
  checks : ∃ cfp revision, matchPath file.recordPath = some (cfp, revision) ∧
    checkCommon r cfp revision = [] ∧ checkType E r file.source = []

theorem Holds.checked {file : File} {r : Record} (h : Holds E file r) : Checked E r := by
  obtain ⟨cfp, revision, -, hcommon, htype⟩ := h.checks
  exact ⟨file.source, cfp, revision, hcommon, htype⟩

theorem Holds.unique {file : File} {r r' : Record} (h : Holds E file r) (h' : Holds E file r') :
    r = r' := by
  obtain ⟨value, hvalue, hfield⟩ := h.header
  obtain ⟨value', hvalue', hfield'⟩ := h'.header
  rw [hvalue] at hvalue'
  cases hvalue'
  rw [hfield] at hfield'
  cases r
  cases r'
  cases h.path
  cases h'.path
  cases hfield'
  rfl

/-- Nothing is wrong with some files exactly if nothing is wrong with the first one and with the others. -/
theorem checkFiles_cons_eq_ok {ids : DocumentIds} {file : File} {files : List File}
    {records : List Record} :
    checkFiles E ids (file :: files) = .ok ([], records) ↔
      ∃ r rest, Holds E file r ∧ checkDuplicate ids r = [] ∧
        checkFiles E (remember ids r) files = .ok ([], rest) ∧ records = r :: rest := by
  rw [checkFiles]
  constructor
  · intro h
    cases hpath : matchPath file.recordPath with
    | none =>
      rw [hpath] at h
      dsimp only at h
      cases hrest : checkFiles E ids files with
      | error e =>
        rw [hrest] at h
        cases h
      | ok rest =>
        rw [hrest] at h
        cases h
    | some revision =>
      obtain ⟨cfp, revision⟩ := revision
      rw [hpath] at h
      dsimp only at h
      cases hheader : parseFrontmatter E file.source file.displayPath with
      | error e =>
        rw [hheader] at h
        cases h
      | ok header =>
        rw [hheader] at h
        cases hfields : fieldsOf header.2 with
        | error e =>
          simp only [bind, Except.bind, hfields] at h
          cases h
        | ok field =>
          cases hrest : checkFiles E (remember ids ⟨file.displayPath, field⟩) files with
          | error e =>
            simp only [bind, Except.bind, hfields, hrest] at h
            cases h
          | ok rest =>
            simp only [bind, Except.bind, hfields, hrest, pure, Except.pure, Except.ok.injEq,
              Prod.mk.injEq, List.append_eq_nil_iff] at h
            obtain ⟨⟨⟨⟨⟨hnone, hcommon⟩, hduplicate⟩, htype⟩, hproblems⟩, rfl⟩ := h
            have hheader' : parseFrontmatter E file.source file.displayPath = .ok ([], header.2) := by
              rw [hheader, ← hnone]
            refine ⟨⟨file.displayPath, field⟩, rest.2, ⟨rfl, ⟨header.2, hheader', hfields⟩,
              ⟨cfp, revision, hpath, hcommon, htype⟩⟩, hduplicate, ?_, rfl⟩
            rw [hrest, ← hproblems]
  · rintro ⟨⟨path, field⟩, rest, hholds, hduplicate, hrest, rfl⟩
    obtain ⟨value, hheader, hfields⟩ := hholds.header
    obtain ⟨cfp, revision, hpath, hcommon, htype⟩ := hholds.checks
    obtain rfl : path = file.displayPath := hholds.path
    dsimp only at hfields
    simp only [hpath, hheader, hfields, bind, Except.bind, hrest, pure, Except.pure, hcommon, hduplicate,
      htype, List.append_nil]

theorem mem_of_checkFiles {ids : DocumentIds} {files : List File} {records : List Record}
    (h : checkFiles E ids files = .ok ([], records)) {r : Record} :
    r ∈ records ↔ ∃ file ∈ files, Holds E file r := by
  induction files generalizing ids records with
  | nil =>
    obtain ⟨-, rfl⟩ := Prod.mk.inj (Except.ok.inj h)
    simp
  | cons file files ih =>
    obtain ⟨first, rest, hholds, -, hrest, rfl⟩ := checkFiles_cons_eq_ok.mp h
    rw [List.mem_cons, ih hrest, List.exists_mem_cons_iff]
    refine or_congr_left ⟨?_, fun hr ↦ hr.unique hholds⟩
    rintro rfl
    exact hholds

/-- The records of a project. -/
def recordsOf (E : Platform) (project : Project) : List Record :=
  match checkFiles E [] project.files with
  | .ok (_, records) => records
  | .error _ => []

theorem recordsOf_eq {problems : List Problem} {records : List Record}
    (h : checkFiles E [] project.files = .ok (problems, records)) : recordsOf E project = records := by
  rw [recordsOf, h]

/-- The records of one revision. -/
def selectedRecords (E : Platform) (project : Project) (cfp revision : String) : List Record :=
  (recordsOf E project).filter (selects cfp revision)

def houses : List String := ["creator_house", "user_house"]

theorem forall_houses {p : String → Prop} :
    (∀ house ∈ houses, p house) ↔ p "creator_house" ∧ p "user_house" := by
  simp [houses]

/-- What a passed gate has found in order. -/
structure Passed (E : Platform) (project : Project) (cfp revision : String) (selector : String) :
    Prop where
  templates : checkTemplates project.templates = []
  files : checkFiles E [] project.files = .ok ([], recordsOf E project)
  matched : matchSelector selector = some (cfp, revision)
  unblocked : ∀ r ∈ selectedRecords E project cfp revision, isBlocker r = false
  minutes : ∀ house ∈ houses,
    ∃ r ∈ selectedRecords E project cfp revision, isFinalMinutes house r = true
  approval : ∀ house ∈ houses,
    ∃ r ∈ selectedRecords E project cfp revision, isApproval house r = true
  evidence : checkEvidence selector (selectedRecords E project cfp revision) = .ok []

theorem Passed.checked {cfp revision : String} (h : Passed E project cfp revision selector) :
    ∀ r ∈ recordsOf E project, Checked E r := by
  intro r hr
  obtain ⟨file, -, hholds⟩ := (mem_of_checkFiles h.files).mp hr
  exact hholds.checked

theorem checkHouse_eq_nil {selected : List Record} {house : String} :
    checkHouse selector selected house = [] ↔
      (∃ r ∈ selected, isFinalMinutes house r = true) ∧ ∃ r ∈ selected, isApproval house r = true := by
  rw [checkHouse, List.append_eq_nil_iff, problemIf_eq_nil, problemIf_eq_nil, Bool.not_eq_false',
    Bool.not_eq_false', List.any_eq_true, List.any_eq_true]

theorem passes_eq_true {gate : Option String} :
    passes E project gate = true ↔ validate E project gate = .ok [] := by
  unfold passes
  constructor
  · intro h
    split at h
    · next hok => exact hok
    · cases h
  · intro h
    rw [h]

/-- The gate finds nothing wrong with the records. -/
theorem checkGate_eq_ok {records : List Record} : checkGate selector records = .ok [] ↔
    ∃ cfp revision, matchSelector selector = some (cfp, revision) ∧
      (∀ r ∈ records.filter (selects cfp revision), isBlocker r = false) ∧
      (∀ house ∈ houses, (∃ r ∈ records.filter (selects cfp revision), isFinalMinutes house r = true) ∧
        ∃ r ∈ records.filter (selects cfp revision), isApproval house r = true) ∧
      checkEvidence selector (records.filter (selects cfp revision)) = .ok [] := by
  unfold checkGate
  cases hselector : matchSelector selector with
  | none => simp [pure, Except.pure]
  | some selected =>
    obtain ⟨cfp, revision⟩ := selected
    dsimp only
    cases hevidence : checkEvidence selector (records.filter (selects cfp revision)) with
    | error e =>
      simp only [bind, Except.bind, reduceCtorEq, Option.some.injEq, Prod.mk.injEq, false_iff]
      rintro ⟨cfp, revision, ⟨rfl, rfl⟩, -, -, hok⟩
      rw [hevidence] at hok
      cases hok
    | ok evidence =>
      have hnonempty (h : ∃ r ∈ records.filter (selects cfp revision), isApproval "user_house" r = true) :
          (records.filter (selects cfp revision)).isEmpty = false := by
        obtain ⟨r, hr, -⟩ := h
        exact List.isEmpty_eq_false_iff.mpr (List.ne_nil_of_mem hr)
      simp only [bind, Except.bind, pure, Except.pure, Except.ok.injEq, List.append_eq_nil_iff,
        List.map_eq_nil_iff, List.filter_eq_nil_iff, checkHouse_eq_nil, problemIf_eq_nil, Bool.not_eq_true]
      constructor
      · rintro ⟨⟨⟨⟨-, hblockers⟩, hcreator⟩, huser⟩, rfl⟩
        exact ⟨cfp, revision, rfl, hblockers, forall_houses.mpr ⟨hcreator, huser⟩, hevidence⟩
      · rintro ⟨_, _, heq, hblockers, hhouses, hok⟩
        cases heq
        obtain ⟨hcreator, huser⟩ := forall_houses.mp hhouses
        rw [hevidence] at hok
        exact ⟨⟨⟨⟨hnonempty huser.2, hblockers⟩, hcreator⟩, huser⟩, Except.ok.inj hok⟩

theorem passes_iff : passes E project (some selector) = true ↔
    ∃ cfp revision, Passed E project cfp revision selector := by
  rw [passes_eq_true, validate]
  cases hfiles : checkFiles E [] project.files with
  | error e =>
    simp only [bind, Except.bind, reduceCtorEq, false_iff]
    rintro ⟨cfp, revision, hpassed⟩
    rw [hpassed.files] at hfiles
    cases hfiles
  | ok files =>
    obtain ⟨problems, records⟩ := files
    have hrecords := recordsOf_eq hfiles
    constructor
    · intro h
      cases hgate : checkGate selector records with
      | error e =>
        simp only [bind, Except.bind, hgate] at h
        cases h
      | ok gateProblems =>
        simp only [bind, Except.bind, hgate, pure, Except.pure, Except.ok.injEq,
          List.append_eq_nil_iff] at h
        obtain ⟨⟨⟨htemplates, rfl⟩, -⟩, rfl⟩ := h
        obtain ⟨cfp, revision, hselector, hunblocked, hhouses, hevidence⟩ := checkGate_eq_ok.mp hgate
        rw [← hrecords] at hfiles hunblocked hhouses hevidence
        exact ⟨cfp, revision, htemplates, hfiles, hselector, hunblocked,
          fun house hhouse ↦ (hhouses house hhouse).1, fun house hhouse ↦ (hhouses house hhouse).2,
          hevidence⟩
    · rintro ⟨cfp, revision, hpassed⟩
      have hgate : checkGate selector records = .ok [] := by
        rw [← hrecords]
        exact checkGate_eq_ok.mpr ⟨cfp, revision, hpassed.matched, hpassed.unblocked,
          fun house hhouse ↦ ⟨hpassed.minutes house hhouse, hpassed.approval house hhouse⟩,
          hpassed.evidence⟩
      have hproblems : problems = [] := by
        have h := hpassed.files
        rw [hfiles] at h
        exact (Prod.mk.inj (Except.ok.inj h)).1
      have hnonempty : records.isEmpty = false := by
        obtain ⟨r, hr, -⟩ := hpassed.approval "user_house" (by simp [houses])
        rw [← hrecords]
        exact List.isEmpty_eq_false_iff.mpr (List.ne_nil_of_mem (List.mem_filter.mp hr).1)
      simp only [bind, Except.bind, hgate, pure, Except.pure, hpassed.templates, hproblems, hnonempty,
        problemIf, Bool.false_eq_true, if_false, List.append_nil]

/-- The selector determines the revision. -/
theorem Passed.of_passes {other : Project} {cfp revision : String}
    (hpassed : Passed E project cfp revision selector) (h : passes E other (some selector) = true) :
    Passed E other cfp revision selector := by
  obtain ⟨cfp', revision', hother⟩ := passes_iff.mp h
  obtain ⟨rfl, rfl⟩ := Prod.mk.inj (Option.some.inj (hpassed.matched.symm.trans hother.matched))
  exact hother

/-! ## Blocking issues -/

structure Record.IsBlockingIssue (r : Record) : Prop where
  type : (r.field "document_type").is "issue" = true
  blocking : (r.field "blocking").isBool true = true

/-- The record has been made for tests. -/
def Record.IsFixture (r : Record) : Prop :=
  (r.field "status").is "test_fixture" = true ∨ (r.field "record_profile").is "testnet_fixture" = true

/-- The issue is resolved, with a time and a hash, or another record has taken its place. -/
inductive Settled (r : Record) : Prop
  | resolved (hstatus : (r.field "status").is "resolved" = true)
      (htime : (r.field "resolved_at").truthy = true)
      (hhash : hashPattern (r.field "resolution_hash").text = true)
  | superseded (hstatus : (r.field "status").is "superseded" = true)

/-- Statuses of documents in the making and of confirmed ones, which an issue may have too. -/
def documentStatuses : List String := ["draft", "member_review", "confirmed", "hash_bound"]

theorem isOneOf_iff {v : Value} {strings : List String} :
    isOneOf v strings = true ↔ ∃ s ∈ strings, v = .string s := by
  simp only [isOneOf, List.any_eq_true, Value.is_iff]

/-- A checked issue that is resolved says when and under which hash. -/
theorem Checked.resolved {r : Record} (h : Checked E r)
    (htype : (r.field "document_type").is "issue" = true)
    (hstatus : (r.field "status").is "resolved" = true) : Settled r := by
  obtain ⟨source, cfp, revision, -, hchecks⟩ := h
  have hminutes : (r.field "document_type").is "house_minutes" = false := by
    rw [Value.is_iff.mp htype]
    rfl
  rw [checkType, hminutes, if_neg Bool.false_ne_true, if_pos htype, checkIssue, if_pos hstatus] at hchecks
  simp only [List.append_eq_nil_iff, problemIf_eq_nil, requireFinalHash, Bool.not_eq_false'] at hchecks
  exact .resolved hstatus hchecks.2.1 hchecks.2.2

theorem Checked.status {r : Record} (h : Checked E r) :
    ∃ s ∈ allowedStatuses, r.field "status" = .string s := by
  obtain ⟨source, cfp, revision, hcommon, -⟩ := h
  simp only [checkCommon, List.append_eq_nil_iff, problemIf_eq_nil, Bool.not_eq_false'] at hcommon
  exact isOneOf_iff.mp hcommon.1.1.2

/-- Behind a gate that passes, the blocking issues of the revision other than fixtures are settled if
and only if none of them has the status of a document. -/
theorem gate_settles_issues_iff (h : passes E project (some selector) = true) :
    ∃ cfp revision, matchSelector selector = some (cfp, revision) ∧
      ((∀ r ∈ selectedRecords E project cfp revision, r.IsBlockingIssue → ¬ r.IsFixture →
          Settled r) ↔
        ∀ r ∈ selectedRecords E project cfp revision, r.IsBlockingIssue → ¬ r.IsFixture →
          isOneOf (r.field "status") documentStatuses = false) := by
  obtain ⟨cfp, revision, hpassed⟩ := passes_iff.mp h
  refine ⟨cfp, revision, hpassed.matched, forall₂_congr fun r hr ↦
    forall₂_congr fun hissue hfixture ↦ ?_⟩
  have hchecked := hpassed.checked r (List.mem_filter.mp hr).1
  constructor
  · rintro (⟨hstatus, -, -⟩ | hstatus)
    · rw [Value.is_iff.mp hstatus]
      decide
    · rw [Value.is_iff.mp hstatus]
      decide
  · intro hdocument
    obtain ⟨status, hallowed, hstatus⟩ := hchecked.status
    have hblocker := hpassed.unblocked r hr
    rw [isBlocker, hissue.type, hissue.blocking, hstatus] at hblocker
    rw [hstatus] at hdocument
    simp only [allowedStatuses, List.mem_cons, List.not_mem_nil, or_false] at hallowed
    obtain rfl | rfl | rfl | rfl | rfl | rfl | rfl | rfl | rfl := hallowed
    · exact absurd hdocument (by decide)
    · exact absurd hdocument (by decide)
    · exact absurd hdocument (by decide)
    · exact absurd hdocument (by decide)
    · exact .superseded (Value.is_iff.mpr hstatus)
    · exact absurd (.inl (Value.is_iff.mpr hstatus)) hfixture
    · exact absurd hblocker (by decide)
    · exact hchecked.resolved hissue.type (Value.is_iff.mpr hstatus)
    · exact absurd hblocker (by decide)

/-! ## Minutes and decisions -/

/-- The text of the hash under which a record speaks about the revision. -/
def Record.revisionHash (r : Record) : String := (r.field "cfp_revision_hash").text

/-- Final minutes and an approving decision of the House which names them, both about the revision
with this hash. -/
structure HouseRecords (selected : List Record) (house hash : String) (minutes decision : Record) :
    Prop where
  minutes_mem : minutes ∈ selected
  minutes_final : isFinalMinutes house minutes = true
  decision_mem : decision ∈ selected
  decision_approves : isApproval house decision = true
  named : (decision.field "minutes_document_id").strictEquals (minutes.field "document_id") = true
  minutes_hash : minutes.revisionHash = hash
  decision_hash : decision.revisionHash = hash

/-- Both Houses have approved the same revision, each by a decision on its own minutes, and neither has
rejected it. -/
structure HousesAgree (selected : List Record) : Prop where
  approved : ∃ hash, ∀ house ∈ houses,
    ∃ minutes decision, HouseRecords selected house hash minutes decision
  unrejected : ∀ house ∈ houses, ∀ decision ∈ selected,
    isFinalDecision house decision = true → (decision.field "result").is "rejected" = false

/-- All approving decisions are about one hash, each names final minutes of its House about it, and no
final decision is a rejection. -/
structure Consistent (selected : List Record) : Prop where
  oneHash : ∀ house ∈ houses, ∀ house' ∈ houses, ∀ decision ∈ selected, ∀ decision' ∈ selected,
    isApproval house decision = true → isApproval house' decision' = true →
      decision.revisionHash = decision'.revisionHash
  named : ∀ house ∈ houses, ∀ decision ∈ selected, isApproval house decision = true →
    ∃ minutes ∈ selected, isFinalMinutes house minutes = true ∧
      (decision.field "minutes_document_id").strictEquals (minutes.field "document_id") = true ∧
      minutes.revisionHash = decision.revisionHash
  unrejected : ∀ house ∈ houses, ∀ decision ∈ selected,
    isFinalDecision house decision = true → (decision.field "result").is "rejected" = false

def isConsistent (selected : List Record) : Bool :=
  houses.all fun house ↦
    (selected.all fun decision ↦ !isApproval house decision ||
      (houses.all fun house' ↦ selected.all fun decision' ↦ !isApproval house' decision' ||
        decision.revisionHash = decision'.revisionHash) &&
      selected.any fun minutes ↦ isFinalMinutes house minutes &&
        (decision.field "minutes_document_id").strictEquals (minutes.field "document_id") &&
        minutes.revisionHash = decision.revisionHash) &&
    selected.all fun decision ↦ !isFinalDecision house decision || !(decision.field "result").is "rejected"

theorem consistent_of_isConsistent {selected : List Record} (h : isConsistent selected = true) :
    Consistent selected := by
  simp only [isConsistent, List.all_eq_true, List.any_eq_true, Bool.and_eq_true, Bool.or_eq_true,
    Bool.not_eq_true', decide_eq_true_eq] at h
  refine ⟨?_, ?_, ?_⟩
  · intro house hhouse house' hhouse' decision hdecision decision' hdecision' happroves happroves'
    have hcounted := ((h house hhouse).1 decision hdecision).resolve_left (by simp [happroves])
    exact (hcounted.1 house' hhouse' decision' hdecision').resolve_left (by simp [happroves'])
  · intro house hhouse decision hdecision happroves
    have hcounted := ((h house hhouse).1 decision hdecision).resolve_left (by simp [happroves])
    obtain ⟨minutes, hminutes, ⟨hfinal, hnamed⟩, hhash⟩ := hcounted.2
    exact ⟨minutes, hminutes, hfinal, hnamed, hhash⟩
  · intro house hhouse decision hdecision hfinal
    exact ((h house hhouse).2 decision hdecision).resolve_left (by simp [hfinal])

/-- The files of a project but for some that hold approving decisions. -/
structure Withholds (E : Platform) (project smaller : Project) : Prop where
  templates : smaller.templates = project.templates
  files : smaller.files.Sublist project.files
  approvals : ∀ r ∈ recordsOf E project, r ∉ recordsOf E smaller →
    ∃ house ∈ houses, isApproval house r = true

/-! Files that are left out take no other record with them. -/

/-- An id has been used by a record that was looked at before. -/
def Knows (ids : DocumentIds) (id : Value) : Prop := ∃ entry ∈ ids, entry.1.sameKey id = true

theorem checkDuplicate_eq_nil {ids : DocumentIds} {r : Record} :
    checkDuplicate ids r = [] ↔ ¬ Knows ids (r.field "document_id") := by
  unfold checkDuplicate Knows
  cases hfind : ids.find? fun entry ↦ entry.1.sameKey (r.field "document_id") with
  | none => simpa using List.find?_eq_none.mp hfind
  | some entry =>
    simp only [List.cons_ne_nil, false_iff, not_not]
    exact ⟨entry, List.mem_of_find?_eq_some hfind, by simpa using List.find?_some hfind⟩

theorem knows_remember {ids : DocumentIds} {r : Record} (h : ¬ Knows ids (r.field "document_id"))
    {id : Value} :
    Knows (remember ids r) id ↔ Knows ids id ∨
      (r.field "document_id").truthy = true ∧ (r.field "document_id").sameKey id = true := by
  have hnone : (ids.find? fun entry ↦ entry.1.sameKey (r.field "document_id")).isNone = true := by
    rw [Option.isNone_iff_eq_none, List.find?_eq_none]
    exact fun entry hentry hsame ↦ h ⟨entry, hentry, hsame⟩
  by_cases htruthy : (r.field "document_id").truthy = true
  · rw [remember, if_pos ⟨hnone, htruthy⟩]
    simp [Knows, htruthy, or_and_right, exists_or]
  · rw [remember, if_neg fun hboth ↦ htruthy hboth.2]
    simp [htruthy]

/-- Any choice of the records is what some of the files hold, and nothing is wrong with those. -/
theorem checkFiles_of_sublist {ids ids' : DocumentIds} {files : List File} {records kept : List Record}
    (h : checkFiles E ids files = .ok ([], records)) (hkept : kept.Sublist records)
    (hids : ∀ id, Knows ids' id → Knows ids id) :
    ∃ files', files'.Sublist files ∧ checkFiles E ids' files' = .ok ([], kept) := by
  induction files generalizing ids ids' records kept with
  | nil =>
    obtain ⟨-, rfl⟩ := Prod.mk.inj (Except.ok.inj h)
    obtain rfl := List.sublist_nil.mp hkept
    exact ⟨[], .slnil, rfl⟩
  | cons file files ih =>
    obtain ⟨r, rest, hholds, hduplicate, hrest, rfl⟩ := checkFiles_cons_eq_ok.mp h
    have hnew := checkDuplicate_eq_nil.mp hduplicate
    cases hkept with
    | cons _ hkept =>
      obtain ⟨files', hfiles', hok⟩ := ih hrest hkept fun id hid ↦
        (knows_remember hnew).mpr (.inl (hids id hid))
      exact ⟨files', hfiles'.cons file, hok⟩
    | cons_cons _ hkept =>
      have hnew' : ¬ Knows ids' (r.field "document_id") := fun hknown ↦ hnew (hids _ hknown)
      have hknows (id : Value) (hid : Knows (remember ids' r) id) : Knows (remember ids r) id :=
        (knows_remember hnew).mpr (((knows_remember hnew').mp hid).imp_left (hids id))
      obtain ⟨files', hfiles', hok⟩ := ih hrest hkept hknows
      exact ⟨file :: files', hfiles'.cons_cons file,
        checkFiles_cons_eq_ok.mpr ⟨r, _, hholds, checkDuplicate_eq_nil.mpr hnew', hok, rfl⟩⟩

theorem Withholds.refl (E : Platform) (project : Project) : Withholds E project project :=
  ⟨rfl, List.Sublist.refl _, fun _ hr hnot ↦ absurd hr hnot⟩

theorem Withholds.mem {smaller : Project} {cfp revision cfp' revision' : String}
    (h : Withholds E project smaller) (hpassed : Passed E project cfp' revision' selector)
    (hsmaller : Passed E smaller cfp' revision' selector) {r : Record}
    (hr : r ∈ selectedRecords E smaller cfp revision) : r ∈ selectedRecords E project cfp revision := by
  obtain ⟨hr, hselects⟩ := List.mem_filter.mp hr
  obtain ⟨file, hfile, hholds⟩ := (mem_of_checkFiles hsmaller.files).mp hr
  exact List.mem_filter.mpr
    ⟨(mem_of_checkFiles hpassed.files).mpr ⟨file, h.files.subset hfile, hholds⟩, hselects⟩

theorem house_of_isApproval {house : String} {r : Record} (h : isApproval house r = true) :
    r.field "document_type" = .string "house_decision" ∧ r.field "house" = .string house := by
  simp only [isApproval, isFinalDecision, Bool.and_eq_true, Value.is_iff] at h
  exact ⟨h.1.1.1.1.1, h.1.1.1.1.2⟩

theorem type_of_isFinalMinutes {house : String} {r : Record} (h : isFinalMinutes house r = true) :
    r.field "document_type" = .string "house_minutes" := by
  simp only [isFinalMinutes, Bool.and_eq_true, Value.is_iff] at h
  exact h.1.1.1

/-- No record that approves is of another type. -/
theorem not_isApproval {house type : String} {r : Record} (htype : r.field "document_type" = .string type)
    (hne : type ≠ "house_decision") : isApproval house r = false := by
  rw [Bool.eq_false_iff]
  intro h
  have hsame := htype.symm.trans (house_of_isApproval h).1
  cases hsame
  exact hne rfl

/-- Minutes are never withheld. -/
theorem Withholds.mem_of_isFinalMinutes {smaller : Project} {cfp revision house : String}
    (h : Withholds E project smaller) {r : Record} (hr : r ∈ selectedRecords E project cfp revision)
    (hfinal : isFinalMinutes house r = true) : r ∈ selectedRecords E smaller cfp revision := by
  obtain ⟨hr, hselects⟩ := List.mem_filter.mp hr
  refine List.mem_filter.mpr ⟨?_, hselects⟩
  by_contra hnot
  obtain ⟨house', -, happroves⟩ := h.approvals r hr hnot
  rw [not_isApproval (type_of_isFinalMinutes hfinal) (by decide)] at happroves
  cases happroves

/-- Of the records only the first evidence index that is bound counts. -/
theorem checkEvidence_congr {selected selected' : List Record}
    (h : (selected.find? fun r ↦ (r.field "document_type").is "evidence_index" &&
        (r.field "status").is "hash_bound" && isProduction r) =
      selected'.find? fun r ↦ (r.field "document_type").is "evidence_index" &&
        (r.field "status").is "hash_bound" && isProduction r) :
    checkEvidence selector selected = checkEvidence selector selected' := by
  rw [checkEvidence, h]
  rfl

/-- With one approving decision of each House left the gate still passes. -/
theorem exists_withholds {cfp revision : String} (hpassed : Passed E project cfp revision selector)
    {creator user : Record} (hcreator : creator ∈ selectedRecords E project cfp revision)
    (huser : user ∈ selectedRecords E project cfp revision)
    (hcreatorApproves : isApproval "creator_house" creator = true)
    (huserApproves : isApproval "user_house" user = true) :
    ∃ smaller, Withholds E project smaller ∧ passes E smaller (some selector) = true ∧
      ∀ r ∈ selectedRecords E smaller cfp revision, ∀ house ∈ houses, isApproval house r = true →
        r = creator ∨ r = user := by
  classical
  let keep (r : Record) : Bool := (∀ house ∈ houses, isApproval house r = false) ∨ r = creator ∨ r = user
  have hkeep {r : Record} (h : (∀ house ∈ houses, isApproval house r = false) ∨ r = creator ∨ r = user) :
      keep r = true := decide_eq_true h
  obtain ⟨files', hfiles', hok⟩ := checkFiles_of_sublist hpassed.files
    (List.filter_sublist (p := keep)) fun _ hid ↦ hid
  have hrecords : recordsOf E ⟨project.templates, files'⟩ = (recordsOf E project).filter keep :=
    recordsOf_eq hok
  have hselected {r : Record} : r ∈ selectedRecords E ⟨project.templates, files'⟩ cfp revision ↔
      r ∈ selectedRecords E project cfp revision ∧ keep r = true := by
    simp only [selectedRecords, hrecords, List.mem_filter]
    tauto
  have hevidence :
      checkEvidence selector (selectedRecords E ⟨project.templates, files'⟩ cfp revision) = .ok [] := by
    rw [← hpassed.evidence]
    apply checkEvidence_congr
    rw [selectedRecords, selectedRecords, hrecords, List.find?_filter, List.find?_filter, List.find?_filter]
    congr 1
    funext r
    rw [Bool.eq_iff_iff]
    simp only [decide_eq_true_eq, Bool.and_eq_true, Value.is_iff]
    constructor
    · rintro ⟨-, hselects, hindex⟩
      exact ⟨hselects, hindex⟩
    · rintro ⟨hselects, hindex⟩
      exact ⟨hkeep (.inl fun _ _ ↦ not_isApproval hindex.1.1 (by decide)), hselects, hindex⟩
  refine ⟨⟨project.templates, files'⟩, ⟨rfl, hfiles', ?_⟩, passes_iff.mpr ⟨cfp, revision, ?_⟩, ?_⟩
  · intro r hr hnot
    by_contra hnone
    push Not at hnone
    apply hnot
    rw [hrecords]
    exact List.mem_filter.mpr ⟨hr, hkeep (.inl fun house hhouse ↦ Bool.not_eq_true _ ▸ hnone house hhouse)⟩
  · refine ⟨hpassed.templates, by rw [hrecords]; exact hok, hpassed.matched, ?_, ?_, ?_, hevidence⟩
    · intro r hr
      exact hpassed.unblocked r (hselected.mp hr).1
    · intro house hhouse
      obtain ⟨r, hr, hfinal⟩ := hpassed.minutes house hhouse
      exact ⟨r, hselected.mpr ⟨hr, hkeep (.inl fun _ _ ↦
        not_isApproval (type_of_isFinalMinutes hfinal) (by decide))⟩, hfinal⟩
    · exact forall_houses.mpr
        ⟨⟨creator, hselected.mpr ⟨hcreator, hkeep (.inr (.inl rfl))⟩, hcreatorApproves⟩,
          ⟨user, hselected.mpr ⟨huser, hkeep (.inr (.inr rfl))⟩, huserApproves⟩⟩
  · intro r hr house hhouse happroves
    obtain hnone | hsame := of_decide_eq_true (hselected.mp hr).2
    · rw [hnone house hhouse] at happroves
      cases happroves
    · exact hsame

/-- If the gate is right about two decisions of the Houses, they are about one hash and each names its
minutes. -/
theorem joined_of_withheld {cfp revision : String} (hpassed : Passed E project cfp revision selector)
    (hagree : ∀ smaller, Withholds E project smaller → passes E smaller (some selector) = true →
      HousesAgree (selectedRecords E smaller cfp revision))
    {creator user : Record} (hcreator : creator ∈ selectedRecords E project cfp revision)
    (huser : user ∈ selectedRecords E project cfp revision)
    (hcreatorApproves : isApproval "creator_house" creator = true)
    (huserApproves : isApproval "user_house" user = true) :
    ∃ hash minutes minutes',
      HouseRecords (selectedRecords E project cfp revision) "creator_house" hash minutes creator ∧
      HouseRecords (selectedRecords E project cfp revision) "user_house" hash minutes' user := by
  obtain ⟨smaller, hwithholds, hpasses, hleft⟩ :=
    exists_withholds hpassed hcreator huser hcreatorApproves huserApproves
  have hsmaller := hpassed.of_passes hpasses
  obtain ⟨⟨hash, happroved⟩, -⟩ := hagree smaller hwithholds hpasses
  have honly (house : String) (hhouse : house ∈ houses) {decision : Record}
      (hdecision : decision ∈ selectedRecords E project cfp revision)
      (hone : ∀ r, r = creator ∨ r = user → isApproval house r = true → r = decision) :
      ∃ minutes, HouseRecords (selectedRecords E project cfp revision) house hash minutes decision := by
    obtain ⟨minutes, found, h⟩ := happroved house hhouse
    obtain rfl :=
      hone found (hleft found h.decision_mem house hhouse h.decision_approves) h.decision_approves
    exact ⟨minutes, hwithholds.mem hpassed hsmaller h.minutes_mem, h.minutes_final, hdecision, h.decision_approves, h.named,
      h.minutes_hash, h.decision_hash⟩
  have hdistinct {house house' : String} {r : Record} (h : isApproval house r = true)
      (h' : isApproval house' r = true) : house = house' :=
    Value.string.inj ((house_of_isApproval h).2.symm.trans (house_of_isApproval h').2)
  obtain ⟨minutes, hminutes⟩ := honly "creator_house" (by simp [houses]) hcreator fun r hr happroves ↦
    hr.resolve_right fun hr ↦ absurd (hdistinct happroves (hr ▸ huserApproves)) (by decide)
  obtain ⟨minutes', hminutes'⟩ := honly "user_house" (by simp [houses]) huser fun r hr happroves ↦
    hr.resolve_left fun hr ↦ absurd (hdistinct happroves (hr ▸ hcreatorApproves)) (by decide)
  exact ⟨hash, minutes, minutes', hminutes, hminutes'⟩

/-- In consistent records the minutes and the decisions that the gate looks for belong together, whichever
approving decisions are left out. -/
theorem Consistent.agree {cfp revision : String} {smaller : Project}
    (hconsistent : Consistent (selectedRecords E project cfp revision))
    (hpassed : Passed E project cfp revision selector) (hwithholds : Withholds E project smaller)
    (hsmaller : Passed E smaller cfp revision selector) :
    HousesAgree (selectedRecords E smaller cfp revision) := by
  have hmem {r : Record} (hr : r ∈ selectedRecords E smaller cfp revision) :
      r ∈ selectedRecords E project cfp revision := hwithholds.mem hpassed hsmaller hr
  obtain ⟨user, huser, huserApproves⟩ := hsmaller.approval "user_house" (by simp [houses])
  refine ⟨⟨user.revisionHash, fun house hhouse ↦ ?_⟩, fun house hhouse decision hdecision ↦
    hconsistent.unrejected house hhouse decision (hmem hdecision)⟩
  obtain ⟨decision, hdecision, happroves⟩ := hsmaller.approval house hhouse
  obtain ⟨minutes, hminutes, hfinal, hnamed, hhash⟩ :=
    hconsistent.named house hhouse decision (hmem hdecision) happroves
  have hsame : decision.revisionHash = user.revisionHash := hconsistent.oneHash house hhouse "user_house"
    (by simp [houses]) decision (hmem hdecision) user (hmem huser) happroves huserApproves
  exact ⟨minutes, decision, hwithholds.mem_of_isFinalMinutes hminutes hfinal, hfinal, hdecision, happroves, hnamed,
    hhash.trans hsame, hsame⟩

/-- If the gate is right whichever approving decisions are left out, the records are consistent. -/
theorem Passed.consistent {cfp revision : String} (hpassed : Passed E project cfp revision selector)
    (hagree : ∀ smaller, Withholds E project smaller → passes E smaller (some selector) = true →
      HousesAgree (selectedRecords E smaller cfp revision)) :
    Consistent (selectedRecords E project cfp revision) := by
  obtain ⟨creator, hcreator, hcreatorApproves⟩ := hpassed.approval "creator_house" (by simp [houses])
  obtain ⟨user, huser, huserApproves⟩ := hpassed.approval "user_house" (by simp [houses])
  have hjoined {creator user : Record} (hcreator : creator ∈ selectedRecords E project cfp revision)
      (huser : user ∈ selectedRecords E project cfp revision) :=
    joined_of_withheld hpassed hagree hcreator huser
  have hcreatorHash {decision : Record} (hdecision : decision ∈ selectedRecords E project cfp revision)
      (happroves : isApproval "creator_house" decision = true) :
      decision.revisionHash = user.revisionHash := by
    obtain ⟨hash, _, _, hrecords, hrecords'⟩ := hjoined hdecision huser happroves huserApproves
    exact hrecords.decision_hash.trans hrecords'.decision_hash.symm
  have huserHash {decision : Record} (hdecision : decision ∈ selectedRecords E project cfp revision)
      (happroves : isApproval "user_house" decision = true) :
      decision.revisionHash = user.revisionHash := by
    obtain ⟨hash, _, _, hrecords, hrecords'⟩ := hjoined hcreator hdecision hcreatorApproves happroves
    exact (hrecords'.decision_hash.trans hrecords.decision_hash.symm).trans
      (hcreatorHash hcreator hcreatorApproves)
  have hhash : ∀ house ∈ houses, ∀ decision ∈ selectedRecords E project cfp revision,
      isApproval house decision = true → decision.revisionHash = user.revisionHash :=
    forall_houses.mpr ⟨fun _ ↦ hcreatorHash, fun _ ↦ huserHash⟩
  constructor
  · intro house hhouse house' hhouse' decision hdecision decision' hdecision' happroves happroves'
    exact (hhash house hhouse decision hdecision happroves).trans
      (hhash house' hhouse' decision' hdecision' happroves').symm
  · refine forall_houses.mpr ⟨?_, ?_⟩
    · intro decision hdecision happroves
      obtain ⟨hash, minutes, _, hrecords, -⟩ := hjoined hdecision huser happroves huserApproves
      exact ⟨minutes, hrecords.minutes_mem, hrecords.minutes_final, hrecords.named,
        hrecords.minutes_hash.trans hrecords.decision_hash.symm⟩
    · intro decision hdecision happroves
      obtain ⟨hash, _, minutes, -, hrecords⟩ := hjoined hcreator hdecision hcreatorApproves happroves
      exact ⟨minutes, hrecords.minutes_mem, hrecords.minutes_final, hrecords.named,
        hrecords.minutes_hash.trans hrecords.decision_hash.symm⟩
  · have hpasses := passes_iff.mpr ⟨cfp, revision, hpassed⟩
    exact (hagree project (Withholds.refl E project) hpasses).unrejected

/-- A gate that passes has found final minutes and an approving decision of each House. If the records of
the revision are consistent, they belong together; and the records are consistent exactly if the gate is
right about them whichever approving decisions are left out. -/
theorem gate_joins_houses_iff (h : passes E project (some selector) = true) :
    ∃ cfp revision, matchSelector selector = some (cfp, revision) ∧
      (∀ house ∈ houses,
        (∃ r ∈ selectedRecords E project cfp revision, isFinalMinutes house r = true) ∧
          ∃ r ∈ selectedRecords E project cfp revision, isApproval house r = true) ∧
      (Consistent (selectedRecords E project cfp revision) →
        HousesAgree (selectedRecords E project cfp revision)) ∧
      (Consistent (selectedRecords E project cfp revision) ↔
        ∀ smaller, Withholds E project smaller → passes E smaller (some selector) = true →
          HousesAgree (selectedRecords E smaller cfp revision)) := by
  obtain ⟨cfp, revision, hpassed⟩ := passes_iff.mp h
  refine ⟨cfp, revision, hpassed.matched,
    fun house hhouse ↦ ⟨hpassed.minutes house hhouse, hpassed.approval house hhouse⟩,
    fun hconsistent ↦ hconsistent.agree hpassed (Withholds.refl E project) hpassed, ?_,
    hpassed.consistent⟩
  intro hconsistent smaller hwithholds hpasses
  exact hconsistent.agree hpassed hwithholds (hpassed.of_passes hpasses)

end

/-! ## Sample records

Five production records of one revision and an issue. Headers are written in the flow style of the
format, with every string in quotes. -/

namespace Sample

def quote (s : String) : Bytes := 34 :: utf8 s ++ [34]

def commaSeparated (parts : List Bytes) : Bytes := List.intercalate (utf8 ", ") parts

/-- The flow style of strings, truth values, and lists and mappings of strings. -/
def flow : Value → Bytes
  | .string s => quote s
  | .bool b => utf8 (if b then "true" else "false")
  | .array items => utf8 "[" ++ commaSeparated (items.map item) ++ utf8 "]"
  | _ => utf8 "null"
where
  item : Value → Bytes
    | .string s => quote s
    | .object fields => [123] ++ commaSeparated (fields.map field) ++ [125]
    | _ => utf8 "null"
  field : String × Value → Bytes
    | (name, .string s) => utf8 name ++ utf8 ": " ++ quote s
    | (name, _) => utf8 name ++ utf8 ": null"

def header (fields : List (String × Value)) : Bytes :=
  List.intercalate [10] (fields.map fun (name, value) ↦ utf8 name ++ utf8 ": " ++ flow value)

def hash : String := "0x" ++ String.ofList (List.replicate 64 'a')
def otherHash : String := "0x" ++ String.ofList (List.replicate 64 'c')
def commit : String := String.ofList (List.replicate 40 'b')

def common (id type status : String) : List (String × Value) :=
  [("record_schema", .string "cfp-record/v1"), ("document_id", .string id),
   ("document_type", .string type), ("cfp_id", .string "CFP-0002"), ("cfp_revision", .string "1"),
   ("status", .string status), ("record_profile", .string "production"),
   ("created_at", .string "2026-08-24"), ("privacy_class", .string "public")]

def minutes (house id : String) : List (String × Value) :=
  common id "house_minutes" "confirmed" ++
  [("cfp_revision_hash", .string hash), ("house", .string house), ("session_id", .string "S"),
   ("meeting_id", .string "M"), ("held_at", .string "2026-08-24"), ("chair_id", .string "A"),
   ("recorder_id", .string "B"), ("membership_snapshot_hash", .string hash),
   ("agenda_hash", .string hash), ("evidence_index_path", .string "evidence-index.md"),
   ("source_commit", .string commit), ("confirmed_at", .string "2026-08-25"),
   ("confirmers", .array [.string "A", .string "B"])]

def decision (house id minutesId revisionHash result : String) : List (String × Value) :=
  common id "house_decision" "confirmed" ++
  [("cfp_revision_hash", .string revisionHash), ("house", .string house), ("session_id", .string "S"),
   ("membership_snapshot_hash", .string hash), ("minutes_document_id", .string minutesId),
   ("quorum_met", .bool true), ("result", .string result), ("result_evidence_hash", .string hash),
   ("source_commit", .string commit)]

def evidence : List (String × Value) :=
  common "EVIDENCE" "evidence_index" "hash_bound" ++
  [("bundle_root", .string hash), ("source_commit", .string commit),
   ("evidence_items", .array [.object [("evidence_id", .string "CFP"),
     ("document_path", .string "docs/CFP-0002.md"), ("content_hash", .string hash),
     ("classification", .string "public"), ("status", .string "verified")]])]

def issue (status : String) : List (String × Value) :=
  common "ISSUE" "issue" status ++
  [("issue_id", .string "ISSUE"), ("category", .string "charter"), ("blocking", .bool true),
   ("raised_by", .string "A"), ("owner", .string "B"), ("resolved_at", .string "2026-08-25"),
   ("resolution_hash", .string hash)]

def body (headings : List String) : Bytes :=
  List.intercalate [10] (headings.map fun heading ↦ utf8 "## " ++ utf8 heading)

def minutesBody : Bytes :=
  body ["会議情報", "出席・定足数", "利益相反", "使用資料", "審議した論点", "憲章・法務上の確認", "修正案",
    "議論の要約", "少数意見", "議決", "継続対応", "議事録の確認"]

def decisionBody : Bytes := body ["投票対象", "定足数", "集計結果", "付帯決議・少数意見"]

def evidenceBody : Bytes := body ["対象", "公開証拠", "制限証拠", "証拠束の確定"]

def issueBody : Bytes :=
  body ["問い", "発生理由", "関係する資料", "選択肢", "各院の意見", "解決条件", "決定", "少数意見",
    "関連する修正Revision"]

def file (name : String) (fields : List (String × Value)) (text : Bytes) : File where
  recordPath := "CFP-0002/revision-0001/" ++ name ++ ".md"
  displayPath := "docs/proposals/records/CFP-0002/revision-0001/" ++ name ++ ".md"
  source := utf8 "---\n" ++ header fields ++ utf8 "\n---\n" ++ text

/-- A record of the sample: its name, its header and its text. -/
abbrev Content := String × List (String × Value) × Bytes

/-- The records in the order of their names, with decisions of the two Houses. -/
def contents (issueStatus : String) (creatorDecisions userDecisions : List Content) : List Content :=
  creatorDecisions ++
  [("creator-house/minutes", minutes "creator_house" "MIN-C", minutesBody),
   ("evidence-index", evidence, evidenceBody), ("issues/ISSUE", issue issueStatus, issueBody)] ++
  userDecisions ++ [("user-house/minutes", minutes "user_house" "MIN-U", minutesBody)]

/-- Decisions that name the minutes of their House. -/
def agreeing (issueStatus : String) : List Content :=
  contents issueStatus
    [("creator-house/decision", decision "creator_house" "DEC-C" "MIN-C" hash "approved",
      decisionBody)]
    [("user-house/decision", decision "user_house" "DEC-U" "MIN-U" hash "approved", decisionBody)]

/-- The User House approves another revision under minutes of the Creator House, and the Creator House has
also rejected the revision. -/
def conflicting : List Content :=
  contents "resolved"
    [("creator-house/decision", decision "creator_house" "DEC-C" "MIN-C" hash "approved",
      decisionBody),
     ("creator-house/decision-2", decision "creator_house" "DEC-R" "MIN-C" hash "rejected",
      decisionBody)]
    [("user-house/decision", decision "user_house" "DEC-U" "MIN-C" otherHash "approved",
      decisionBody)]

/-- Reads the header of one of the given records, which its id shows. -/
def platform (cs : List Content) : Platform where
  parseDocument text :=
    match cs.find? fun c ↦ (c.2.1.lookup "document_id").any fun id ↦
        isPart (utf8 "\ndocument_id: " ++ flow id) text with
    | some (_, fields, _) => ⟨[], some (.object fields)⟩
    | none => ⟨["unexpected text"], none⟩
  accessible path := path = "docs/CFP-0002.md"

def project (cs : List Content) : Project where
  templates _ := some (utf8 "record_schema: cfp-record/v1")
  files := cs.map fun (name, fields, text) ↦ file name fields text

/-- The records of the revision. -/
def records (cs : List Content) : List Record :=
  selectedRecords (platform cs) (project cs) "CFP-0002" "1"

def gatePasses (cs : List Content) : Bool :=
  passes (platform cs) (project cs) (some "CFP-0002@1")

theorem matchSelector_sample : matchSelector "CFP-0002@1" = some ("CFP-0002", "1") := by
  decide +kernel

theorem agreeing_passes :
    (gatePasses (agreeing "resolved") &&
      (records (agreeing "resolved")).all (fun r ↦ !isOneOf (r.field "status") documentStatuses ||
        !(r.field "document_type").is "issue") &&
      isConsistent (records (agreeing "resolved"))) = true := by
  decide +kernel

/-- A draft of a blocking issue, made for no test. -/
def isBlockingDraft (r : Record) : Bool :=
  (r.field "document_type").is "issue" && (r.field "blocking").isBool true &&
    (r.field "status").is "draft" && isProduction r

def isRejection (r : Record) : Bool :=
  isFinalDecision "creator_house" r && (r.field "result").is "rejected"

theorem defects_pass :
    (gatePasses (agreeing "draft") && (records (agreeing "draft")).any isBlockingDraft &&
      (gatePasses conflicting && (records conflicting).any isRejection)) = true := by
  decide +kernel

end Sample

/-- The gate passes, and the issue of the sample is settled. -/
theorem gate_settles_issues_sample :
    ∃ cfp revision, matchSelector "CFP-0002@1" = some (cfp, revision) ∧
      ∀ r ∈ selectedRecords (Sample.platform (Sample.agreeing "resolved"))
        (Sample.project (Sample.agreeing "resolved")) cfp revision,
        r.IsBlockingIssue → ¬ r.IsFixture → Settled r := by
  have hsample := Sample.agreeing_passes
  simp only [Bool.and_eq_true, List.all_eq_true, Bool.or_eq_true, Bool.not_eq_true'] at hsample
  obtain ⟨⟨hpasses, hstatuses⟩, -⟩ := hsample
  obtain ⟨cfp, revision, hselector, hiff⟩ := gate_settles_issues_iff hpasses
  obtain ⟨rfl, rfl⟩ :=
    Prod.mk.inj (Option.some.inj (Sample.matchSelector_sample.symm.trans hselector))
  refine ⟨_, _, hselector, hiff.mpr fun r hr hissue _ ↦ (hstatuses r hr).resolve_right fun hother ↦ ?_⟩
  rw [hissue.type] at hother
  cases hother

/-- A gate that passes although a blocking issue is still a draft. -/
theorem blocking_draft_passes :
    passes (Sample.platform (Sample.agreeing "draft")) (Sample.project (Sample.agreeing "draft"))
        (some "CFP-0002@1") = true ∧
      ∃ r ∈ selectedRecords (Sample.platform (Sample.agreeing "draft"))
        (Sample.project (Sample.agreeing "draft")) "CFP-0002" "1",
        r.IsBlockingIssue ∧ ¬ r.IsFixture ∧ ¬ Settled r := by
  have hsample := Sample.defects_pass
  simp only [Bool.and_eq_true, List.any_eq_true] at hsample
  obtain ⟨⟨hpasses, r, hr, hdraft⟩, -⟩ := hsample
  simp only [Sample.isBlockingDraft, Bool.and_eq_true, isProduction, Bool.not_eq_true'] at hdraft
  obtain ⟨⟨⟨htype, hblocking⟩, hstatus⟩, hproduction⟩ := hdraft
  rw [Value.is_iff] at hstatus
  refine ⟨hpasses, r, hr, ⟨htype, hblocking⟩, ?_, ?_⟩
  · rintro (hfixture | hfixture)
    · rw [hstatus] at hfixture
      exact absurd hfixture (by decide)
    · rw [hproduction] at hfixture
      cases hfixture
  · rintro (⟨hsettled, -, -⟩ | hsettled)
    · rw [hstatus] at hsettled
      exact absurd hsettled (by decide)
    · rw [hstatus] at hsettled
      exact absurd hsettled (by decide)

/-- The gate passes, and the records of the Houses of the sample belong together. -/
theorem gate_joins_houses_sample :
    ∃ cfp revision, matchSelector "CFP-0002@1" = some (cfp, revision) ∧
      HousesAgree (selectedRecords (Sample.platform (Sample.agreeing "resolved"))
        (Sample.project (Sample.agreeing "resolved")) cfp revision) := by
  have hsample := Sample.agreeing_passes
  simp only [Bool.and_eq_true] at hsample
  obtain ⟨⟨hpasses, -⟩, hconsistent⟩ := hsample
  obtain ⟨cfp, revision, hselector, -, hagree, -⟩ := gate_joins_houses_iff hpasses
  obtain ⟨rfl, rfl⟩ :=
    Prod.mk.inj (Option.some.inj (Sample.matchSelector_sample.symm.trans hselector))
  exact ⟨_, _, hselector, hagree (consistent_of_isConsistent hconsistent)⟩

/-- A gate that passes although a House has rejected the revision and the other House approves another
one. -/
theorem conflicting_houses_pass :
    passes (Sample.platform Sample.conflicting) (Sample.project Sample.conflicting)
        (some "CFP-0002@1") = true ∧
      ¬ HousesAgree (selectedRecords (Sample.platform Sample.conflicting)
        (Sample.project Sample.conflicting) "CFP-0002" "1") := by
  have hsample := Sample.defects_pass
  simp only [Bool.and_eq_true, List.any_eq_true] at hsample
  obtain ⟨-, hpasses, r, hr, hrejection⟩ := hsample
  simp only [Sample.isRejection, Bool.and_eq_true] at hrejection
  refine ⟨hpasses, fun hagree ↦ ?_⟩
  have hunrejected := hagree.unrejected "creator_house" (by simp [houses]) r hr hrejection.1
  rw [hrejection.2] at hunrejected
  cases hunrejected

end CreatorFirst.Records
