import CreatorFirst.Process.Register
import CreatorFirst.Protocol.Documents
import Mathlib.Data.List.Nodup

/-!
# The validator of the protocol

The documents of the protocol declare identifiers and refer to each other. The validator reads one after
the other, remembers what has been declared, and checks the references at the end. Whether it passes
depends on the documents alone and not on their order: it accepts exactly the sets of documents in which
every identifier is declared once, every requirement is tested, and every reference is to something that exists.
-/

namespace CreatorFirst.Protocol

open Process Text

/-! ## What a document reports -/

/-- The maps of the validator are one register with five kinds of keys. -/
inductive Kind where
  | globalInvariant
  | specification
  | requirement
  | openQuestion
  | specificationInvariant
  deriving DecidableEq

namespace Kind

def words : Kind → String
  | globalInvariant => "global invariant"
  | specification => "specification"
  | requirement => "requirement"
  | openQuestion => "Open Question"
  | specificationInvariant => "specification invariant"

end Kind

abbrev Key := Kind × List Char

def shown (id : List Char) : String := String.ofList id

/-- Global invariants are all declared in one file, which is not named again. -/
def duplicate (key : Key) (displayPath first : String) : String :=
  displayPath ++ ": duplicate " ++ key.1.words ++ " ID " ++ shown key.2 ++
    if key.1 = .globalInvariant then "" else " (also in " ++ first ++ ")"

namespace File

variable (f : File)

def error (words : String) : String := f.displayPath ++ ": " ++ words

def failIf (wrong : Bool) (words : String) : List (Report Key String) :=
  if wrong then [.fail (f.error words)] else []

def globalInvariantReports : List (Report Key String) := f.globalInvariants.map fun id ↦
  if f.path ≠ "invariants.md" then
    .fail (f.error ("global invariant " ++ shown id ++ " must be defined in invariants.md"))
  else .declare (.globalInvariant, id)

def metadataReports : List (Report Key String) :=
  f.failIf (!f.hasMetadata "Status") "missing Status metadata" ++
  f.failIf (!f.hasMetadata "Protocol Domain") "missing Protocol Domain metadata" ++
  f.failIf (!f.hasVersion) "Version must use MAJOR.MINOR.PATCH" ++
  f.failIf (!f.hasLastUpdated) "Last Updated must use YYYY-MM-DD" ++
  if f.relatedDocuments.isEmpty then f.failIf true "missing Related Documents section"
  else f.failIf (Pattern.matchAll documentPattern f.relatedDocuments).isEmpty
    "Related Documents references no repository documents"

def requirementReports : List (Report Key String) :=
  f.failIf (f.specification.isSome && f.requirements.isEmpty) "specification defines no requirements" ++
  f.requirements.map fun id ↦ .declare (.requirement, id)

def sectionReports : List (Report Key String) :=
  f.failIf f.tests.isEmpty "missing Test Requirements section" ++
  f.failIf f.tested.isEmpty "Test Requirements references no requirement IDs" ++
  f.failIf f.referencedInvariants.isEmpty "Invariants references no global invariant IDs" ++
  f.failIf f.specificationInvariants.isEmpty "defines no specification invariant IDs" ++
  f.failIf f.openQuestionsSource.isEmpty "missing Open Questions section" ++
  f.failIf f.openQuestionLines.isEmpty "Open Questions defines no tracked questions"

def openQuestionReport (line : List Char) : Report Key String :=
  match openQuestion line with
  | none =>
    .fail (f.error "malformed Open Question; expected stable ID, Decision owner, Blocks and Question")
  | some id => .declare (.openQuestion, id)

def normativeReports : List (Report Key String) :=
  (f.normative.filter (· ∉ f.tested)).map fun id ↦
    .fail (f.error (shown id ++ " has no Test Requirements reference"))

/-- What only a document with an identifier of its own is asked for. -/
def specificationReports : List (Report Key String) :=
  f.sectionReports ++ f.openQuestionLines.map f.openQuestionReport ++
  f.specificationInvariants.map (fun id ↦ .declare (.specificationInvariant, id)) ++ f.normativeReports

/-- One turn of the loop over the files. -/
def reports : List (Report Key String) :=
  f.globalInvariantReports ++
  f.failIf (f.isSpecificationFile && f.specification.isNone) "specification file has no valid Specification ID" ++
  (if f.isSpecificationFile then f.metadataReports else []) ++
  f.specification.toList.map (fun id ↦ .declare (.specification, id)) ++
  f.requirementReports ++
  if f.specification.isSome then f.specificationReports else []

/-- A reference is looked up below the root, unless it leaves it. -/
def referenceErrors (stat : List Char → Option Bool) (reference : List Char) : List String :=
  if ['.', '.'] ∈ reference.splitOn '/' then
    [f.error ("repository document reference escapes the project root: " ++ shown reference)]
  else
    match stat reference with
    | none => [f.error ("repository document reference does not exist: " ++ shown reference)]
    | some false => [f.error ("repository document reference is not a file: " ++ shown reference)]
    | some true => []

def testedErrors (register : Register Key String String) (id : List Char) : List String :=
  match register.owner (.requirement, id) with
  | none => [f.error ("Test Requirements references unknown " ++ shown id)]
  | some first =>
    if id ∈ f.requirements then []
    else [f.error ("Test Requirements references " ++ shown id ++ " from " ++ first)]

def invariantErrors (register : Register Key String String) (id : List Char) : List String :=
  if (register.owner (.globalInvariant, id)).isNone then
    [f.error ("Invariants references unknown " ++ shown id)]
  else []

/-- The checks of a specification, once everything is declared. -/
def checkErrors (register : Register Key String String) : List String :=
  if f.specification.isSome then
    f.tested.flatMap (f.testedErrors register) ++ f.referencedInvariants.flatMap (f.invariantErrors register)
  else []

end File

/-! ## The validator -/

structure Summary where
  specifications : ℕ
  requirements : ℕ
  normative : ℕ
  globalInvariants : ℕ
  specificationInvariants : ℕ
  openQuestions : ℕ
  references : ℕ
  deriving DecidableEq

def allReports (files : List File) : List (String × Report Key String) :=
  files.flatMap fun f ↦ f.reports.map (f.displayPath, ·)

def registerOf (files : List File) : Register Key String String :=
  Register.empty.enterAll duplicate (allReports files)

/-- How many keys of a kind are known. -/
def sizeOf (kind : Kind) (keys : List Key) : ℕ := (keys.filter (·.1 = kind)).length

def errors (stat : List Char → Option Bool) (files : List File) : List String :=
  (registerOf files).errors ++
  (if sizeOf .globalInvariant (registerOf files).keys = 0 then
    ["invariants.md: defines no global invariant IDs"] else []) ++
  files.flatMap (fun f ↦ f.repositoryReferences.flatMap (f.referenceErrors stat)) ++
  files.flatMap (File.checkErrors · (registerOf files))

def normativeRequirementCount (files : List File) : ℕ :=
  ((files.filter (·.specification.isSome)).map (·.normative.length)).sum

/-- What a set of documents is summarised as, from the keys that are known. -/
def summaryOf (keys : List Key) (files : List File) : Summary where
  specifications := sizeOf .specification keys
  requirements := sizeOf .requirement keys
  normative := normativeRequirementCount files
  globalInvariants := sizeOf .globalInvariant keys
  specificationInvariants := sizeOf .specificationInvariant keys
  openQuestions := sizeOf .openQuestion keys
  references := (files.map (·.repositoryReferences.length)).sum

def validate (stat : List Char → Option Bool) (files : List File) : Except (List String) Summary :=
  if (errors stat files).isEmpty then .ok (summaryOf (registerOf files).keys files)
  else .error (errors stat files)

/-! ## Sets of documents as they are meant -/

namespace File

variable (f : File)

/-- The keys that a document declares. -/
def declarations : List Key :=
  (if f.path = "invariants.md" then f.globalInvariants.map (Kind.globalInvariant, ·) else []) ++
  f.specification.toList.map (Kind.specification, ·) ++
  f.requirements.map (Kind.requirement, ·) ++
  if f.specification.isSome then
    (f.openQuestionLines.filterMap openQuestion).map (Kind.openQuestion, ·) ++
      f.specificationInvariants.map (Kind.specificationInvariant, ·)
  else []

/-- What the file of a specification says about it. -/
structure HasMetadata : Prop where
  specification : f.specification.isSome = true
  status : f.hasMetadata "Status" = true
  domain : f.hasMetadata "Protocol Domain" = true
  version : f.hasVersion = true
  lastUpdated : f.hasLastUpdated = true
  relatedDocuments : Pattern.matchAll documentPattern f.relatedDocuments ≠ []

/-- What a specification contains. Its tests cover what it demands. -/
structure HasContents : Prop where
  requirements : f.requirements ≠ []
  normative : ∀ id ∈ f.normative, id ∈ expandTestReferences f.tests
  tested : (expandTestReferences f.tests).Nonempty
  referencedInvariants : f.referencedInvariants ≠ []
  specificationInvariants : f.specificationInvariants ≠ []
  questions : f.openQuestionLines ≠ []
  question : ∀ line ∈ f.openQuestionLines, (openQuestion line).isSome = true

/-- What a document has to be by itself. -/
structure Sound : Prop where
  globalInvariants : f.globalInvariants ≠ [] → f.path = "invariants.md"
  metadata : f.isSpecificationFile = true → f.HasMetadata
  contents : f.specification.isSome = true → f.HasContents

end File

/-- Sound documents that declare nothing twice and refer to what exists. -/
structure WellFormed (stat : List Char → Option Bool) (files : List File) : Prop where
  sound : ∀ f ∈ files, f.Sound
  once : (files.flatMap File.declarations).Nodup
  invariants : ∃ f ∈ files, f.globalInvariants ≠ []
  own : ∀ f ∈ files, f.specification.isSome = true → ∀ id ∈ expandTestReferences f.tests, id ∈ f.requirements
  known : ∀ f ∈ files, f.specification.isSome = true → ∀ id ∈ f.referencedInvariants,
    ∃ g ∈ files, id ∈ g.globalInvariants
  references : ∀ f ∈ files, ∀ reference ∈ f.repositoryReferences,
    ['.', '.'] ∉ reference.splitOn '/' ∧ stat reference = some true

/-! ## What is reported -/

theorem filterMap_key?_failIf (f : File) (wrong : Bool) (words : String) :
    (f.failIf wrong words).filterMap Report.key? = [] := by
  cases wrong <;> rfl

theorem filterMap_error?_failIf (f : File) (wrong : Bool) (words : String) :
    (f.failIf wrong words).filterMap Report.error? = [] ↔ wrong = false := by
  cases wrong <;> simp [File.failIf, Report.error?]

theorem filterMap_key?_declare {kind : Kind} (ids : List (List Char)) :
    (ids.map fun id ↦ (.declare (kind, id) : Report Key String)).filterMap Report.key? = ids.map (kind, ·) := by
  induction ids with
  | nil => rfl
  | cons id ids ih => simpa [Report.key?] using ih

theorem filterMap_error?_declare {kind : Kind} (ids : List (List Char)) :
    (ids.map fun id ↦ (.declare (kind, id) : Report Key String)).filterMap Report.error? = [] := by
  induction ids with
  | nil => rfl
  | cons id ids ih => simp [Report.error?]

namespace File

variable (f : File)

theorem key?_globalInvariantReports :
    f.globalInvariantReports.filterMap Report.key? =
      if f.path = "invariants.md" then f.globalInvariants.map (Kind.globalInvariant, ·) else [] := by
  unfold globalInvariantReports
  by_cases h : f.path = "invariants.md"
  · simp only [h, ne_eq, not_true_eq_false, if_false, if_true, filterMap_key?_declare]
  · simp [h, List.filterMap_map, Report.key?, Function.comp_def]

theorem error?_globalInvariantReports :
    f.globalInvariantReports.filterMap Report.error? = [] ↔ (f.globalInvariants ≠ [] → f.path = "invariants.md") := by
  unfold globalInvariantReports
  by_cases h : f.path = "invariants.md"
  · simp only [h, ne_eq, not_true_eq_false, if_false, filterMap_error?_declare, imp_true_iff]
  · simp only [ne_eq, h, not_false_eq_true, if_true, List.filterMap_map, imp_false, not_not]
    cases f.globalInvariants <;> simp [Report.error?]

theorem key?_metadataReports : f.metadataReports.filterMap Report.key? = [] := by
  unfold metadataReports
  split_ifs <;> simp only [List.filterMap_append, filterMap_key?_failIf, List.append_nil]

theorem error?_metadataReports (h : f.specification.isSome = true) :
    f.metadataReports.filterMap Report.error? = [] ↔ f.HasMetadata := by
  have hrelated : (if f.relatedDocuments.isEmpty then f.failIf true "missing Related Documents section"
      else f.failIf (Pattern.matchAll documentPattern f.relatedDocuments).isEmpty
        "Related Documents references no repository documents").filterMap Report.error? = [] ↔
      Pattern.matchAll documentPattern f.relatedDocuments ≠ [] := by
    split_ifs with hempty
    · rw [filterMap_error?_failIf, List.isEmpty_iff.mp hempty]
      simp [Pattern.matchAll, Pattern.scan]
    · rw [filterMap_error?_failIf, List.isEmpty_eq_false_iff]
  simp only [metadataReports, List.filterMap_append, List.append_eq_nil_iff, filterMap_error?_failIf, hrelated,
    Bool.not_eq_false']
  constructor
  · rintro ⟨⟨⟨⟨hstatus, hdomain⟩, hversion⟩, hupdated⟩, hdocuments⟩
    exact ⟨h, hstatus, hdomain, hversion, hupdated, hdocuments⟩
  · intro hm
    exact ⟨⟨⟨⟨hm.status, hm.domain⟩, hm.version⟩, hm.lastUpdated⟩, hm.relatedDocuments⟩

theorem key?_sectionReports : f.sectionReports.filterMap Report.key? = [] := by
  simp only [sectionReports, List.filterMap_append, filterMap_key?_failIf, List.append_nil]

theorem tests_ne_nil (h : f.tested ≠ []) : f.tests ≠ [] := by
  intro htests
  apply h
  rw [tested, htests]
  rfl

theorem openQuestionsSource_ne_nil (h : f.openQuestionLines ≠ []) : f.openQuestionsSource ≠ [] := by
  intro hsource
  apply h
  rw [openQuestionLines, hsource]
  rfl

theorem error?_sectionReports : f.sectionReports.filterMap Report.error? = [] ↔
    f.tested ≠ [] ∧ f.referencedInvariants ≠ [] ∧ f.specificationInvariants ≠ [] ∧ f.openQuestionLines ≠ [] := by
  simp only [sectionReports, List.filterMap_append, List.append_eq_nil_iff, filterMap_error?_failIf,
    List.isEmpty_eq_false_iff]
  constructor
  · rintro ⟨⟨⟨⟨⟨-, htested⟩, hreferenced⟩, hinvariants⟩, -⟩, hlines⟩
    exact ⟨htested, hreferenced, hinvariants, hlines⟩
  · rintro ⟨htested, hreferenced, hinvariants, hlines⟩
    exact ⟨⟨⟨⟨⟨f.tests_ne_nil htested, htested⟩, hreferenced⟩, hinvariants⟩,
      f.openQuestionsSource_ne_nil hlines⟩, hlines⟩

theorem key?_openQuestionReports (lines : List (List Char)) :
    (lines.map f.openQuestionReport).filterMap Report.key? =
      (lines.filterMap openQuestion).map (Kind.openQuestion, ·) := by
  induction lines with
  | nil => rfl
  | cons line lines ih =>
    rw [List.map_cons, List.filterMap_cons, List.filterMap_cons, ih]
    cases hquestion : openQuestion line <;> simp [openQuestionReport, hquestion, Report.key?]

theorem error?_openQuestionReports (lines : List (List Char)) :
    (lines.map f.openQuestionReport).filterMap Report.error? = [] ↔
      ∀ line ∈ lines, (openQuestion line).isSome = true := by
  simp only [List.filterMap_eq_nil_iff, List.forall_mem_map]
  refine forall₂_congr fun line _ ↦ ?_
  cases hquestion : openQuestion line <;> simp [openQuestionReport, hquestion, Report.error?]

theorem key?_normativeReports : f.normativeReports.filterMap Report.key? = [] := by
  simp [normativeReports, List.filterMap_map, Report.key?, Function.comp_def]

theorem error?_normativeReports :
    f.normativeReports.filterMap Report.error? = [] ↔ ∀ id ∈ f.normative, id ∈ expandTestReferences f.tests := by
  simp only [normativeReports, List.filterMap_eq_nil_iff, List.forall_mem_map, Report.error?]
  simp [tested, mem_testReferences]

theorem tested_ne_nil : f.tested ≠ [] ↔ (expandTestReferences f.tests).Nonempty := by
  constructor
  · intro h
    obtain ⟨id, hid⟩ := List.exists_mem_of_ne_nil _ h
    exact ⟨id, mem_testReferences.mp hid⟩
  · rintro ⟨id, hid⟩
    exact List.ne_nil_of_mem (mem_testReferences.mpr hid)

/-- A document reports the keys that it declares. -/
theorem key?_reports : f.reports.filterMap Report.key? = f.declarations := by
  have hmetadata : (if f.isSpecificationFile then f.metadataReports else []).filterMap Report.key? = [] := by
    split_ifs
    · exact f.key?_metadataReports
    · rfl
  have hcontents : (if f.specification.isSome then f.specificationReports else []).filterMap Report.key? =
      if f.specification.isSome then
        (f.openQuestionLines.filterMap openQuestion).map (Kind.openQuestion, ·) ++
          f.specificationInvariants.map (Kind.specificationInvariant, ·)
      else [] := by
    split_ifs
    · simp only [specificationReports, List.filterMap_append, f.key?_sectionReports, f.key?_openQuestionReports,
        filterMap_key?_declare, f.key?_normativeReports, List.nil_append, List.append_nil]
    · rfl
  simp only [reports, requirementReports, List.filterMap_append, f.key?_globalInvariantReports,
    filterMap_key?_failIf, hmetadata, filterMap_key?_declare, hcontents, List.append_nil, List.nil_append,
    declarations]

theorem error?_specificationReports (h : f.requirements ≠ []) :
    f.specificationReports.filterMap Report.error? = [] ↔ f.HasContents := by
  simp only [specificationReports, List.filterMap_append, List.append_eq_nil_iff, f.error?_sectionReports,
    f.error?_openQuestionReports, filterMap_error?_declare, f.error?_normativeReports, f.tested_ne_nil]
  constructor
  · rintro ⟨⟨⟨⟨htested, hreferenced, hinvariants, hlines⟩, hquestion⟩, -⟩, hnormative⟩
    exact ⟨h, hnormative, htested, hreferenced, hinvariants, hlines, hquestion⟩
  · intro hc
    exact ⟨⟨⟨⟨hc.tested, hc.referencedInvariants, hc.specificationInvariants, hc.questions⟩, hc.question⟩,
      trivial⟩, hc.normative⟩

/-- A document reports no failure exactly when it is sound. -/
theorem error?_reports : f.reports.filterMap Report.error? = [] ↔ f.Sound := by
  have hmetadata : (f.isSpecificationFile && f.specification.isNone) = false ∧
      (if f.isSpecificationFile then f.metadataReports else []).filterMap Report.error? = [] ↔
        (f.isSpecificationFile = true → f.HasMetadata) := by
    cases hfile : f.isSpecificationFile
    · simp
    · cases hspec : f.specification with
      | none =>
        simp only [Option.isNone_none, Bool.and_self, Bool.true_eq_false, false_and, true_imp_iff, false_iff]
        intro hm
        simpa [hspec] using hm.specification
      | some id => simpa using f.error?_metadataReports (by rw [hspec]; rfl)
  have hcontents : (f.specification.isSome && f.requirements.isEmpty) = false ∧
      (if f.specification.isSome then f.specificationReports else []).filterMap Report.error? = [] ↔
        (f.specification.isSome = true → f.HasContents) := by
    cases hspec : f.specification.isSome
    · simp
    · simp only [Bool.true_and, if_true, true_imp_iff, List.isEmpty_eq_false_iff]
      constructor
      · rintro ⟨hne, hreports⟩
        exact (f.error?_specificationReports hne).mp hreports
      · intro hc
        exact ⟨hc.requirements, (f.error?_specificationReports hc.requirements).mpr hc⟩
  simp only [reports, requirementReports, List.filterMap_append, List.append_eq_nil_iff,
    f.error?_globalInvariantReports, filterMap_error?_failIf, filterMap_error?_declare]
  constructor
  · rintro ⟨⟨⟨⟨⟨hglobal, hid⟩, hmeta⟩, -⟩, hreq, -⟩, hspec⟩
    exact ⟨hglobal, hmetadata.mp ⟨hid, hmeta⟩, hcontents.mp ⟨hreq, hspec⟩⟩
  · intro hs
    have hm := hmetadata.mpr hs.metadata
    have hc := hcontents.mpr hs.contents
    exact ⟨⟨⟨⟨⟨hs.globalInvariants, hm.1⟩, hm.2⟩, trivial⟩, hc.1, trivial⟩, hc.2⟩

end File

/-! ## What is declared -/

section

variable {files : List File}

theorem declared_allReports (files : List File) :
    declared (allReports files) = files.flatMap File.declarations := by
  rw [declared, allReports, List.filterMap_flatMap]
  refine List.flatMap_congr fun f _ ↦ ?_
  rw [List.filterMap_map, ← f.key?_reports]
  rfl

theorem failures_allReports (files : List File) : failures (allReports files) = [] ↔ ∀ f ∈ files, f.Sound := by
  rw [failures, allReports, List.filterMap_flatMap, List.flatMap_eq_nil_iff]
  refine forall₂_congr fun f _ ↦ ?_
  rw [List.filterMap_map, ← f.error?_reports]
  rfl

theorem mem_keys_registerOf {key : Key} : key ∈ (registerOf files).keys ↔ key ∈ files.flatMap File.declarations := by
  rw [registerOf, Register.mem_keys_enterAll, declared_allReports]
  exact or_iff_right (List.not_mem_nil)

theorem errors_registerOf : (registerOf files).errors = [] ↔
    (∀ f ∈ files, f.Sound) ∧ (files.flatMap File.declarations).Nodup := by
  rw [registerOf, Register.enterAll_exact _ Register.nodup_keys_empty, failures_allReports, declared_allReports]
  exact and_iff_right rfl

theorem keys_registerOf (h : (registerOf files).errors = []) :
    (registerOf files).keys = files.flatMap File.declarations := by
  rw [registerOf, Register.keys_enterAll _ h, declared_allReports]
  rfl

theorem requirement_mem_declarations {f : File} {id : List Char} :
    (Kind.requirement, id) ∈ f.declarations ↔ id ∈ f.requirements := by
  unfold File.declarations
  split_ifs <;> simp

theorem globalInvariant_mem_declarations {f : File} {id : List Char} :
    (Kind.globalInvariant, id) ∈ f.declarations ↔ f.path = "invariants.md" ∧ id ∈ f.globalInvariants := by
  unfold File.declarations
  split_ifs with hpath <;> simp [hpath]

/-! ## What is checked at the end -/

theorem referenceErrors_eq_nil (f : File) (stat : List Char → Option Bool) (reference : List Char) :
    f.referenceErrors stat reference = [] ↔
      ['.', '.'] ∉ reference.splitOn '/' ∧ stat reference = some true := by
  unfold File.referenceErrors
  split_ifs with hescapes
  · simp [hescapes]
  · obtain hstat | hstat | hstat : stat reference = none ∨ stat reference = some false ∨
        stat reference = some true := by
      rcases stat reference with _ | _ | _ <;> simp
    all_goals simp [hstat, hescapes]

theorem owner_eq_some_iff {key : Key} :
    (∃ first, (registerOf files).owner key = some first) ↔ key ∈ files.flatMap File.declarations := by
  rw [← mem_keys_registerOf, ← not_iff_not, ← Register.owner_eq_none_iff, Option.eq_none_iff_forall_ne_some]
  exact not_exists

theorem testedErrors_eq_nil {f : File} (hf : f ∈ files) (id : List Char) :
    f.testedErrors (registerOf files) id = [] ↔ id ∈ f.requirements := by
  unfold File.testedErrors
  constructor
  · intro h
    split at h
    · cases h
    · split_ifs at h with hid
      exact hid
  · intro hid
    have hmem : (Kind.requirement, id) ∈ files.flatMap File.declarations :=
      List.mem_flatMap.mpr ⟨f, hf, requirement_mem_declarations.mpr hid⟩
    obtain ⟨first, howner⟩ := owner_eq_some_iff.mpr hmem
    simp only [howner, hid, if_true]

theorem invariantErrors_eq_nil (f : File) (id : List Char) :
    f.invariantErrors (registerOf files) id = [] ↔
      (Kind.globalInvariant, id) ∈ files.flatMap File.declarations := by
  rw [← owner_eq_some_iff, ← Option.isSome_iff_exists]
  unfold File.invariantErrors
  cases (registerOf files).owner (Kind.globalInvariant, id) <;> simp

theorem checkErrors_eq_nil {f : File} (hf : f ∈ files) : f.checkErrors (registerOf files) = [] ↔
    (f.specification.isSome = true → (∀ id ∈ expandTestReferences f.tests, id ∈ f.requirements) ∧
      ∀ id ∈ f.referencedInvariants, (Kind.globalInvariant, id) ∈ files.flatMap File.declarations) := by
  unfold File.checkErrors
  split_ifs with hspec
  · simp only [hspec, true_imp_iff, List.append_eq_nil_iff, List.flatMap_eq_nil_iff, testedErrors_eq_nil hf,
      invariantErrors_eq_nil, File.tested, mem_testReferences]
  · simp [hspec]

theorem sizeOf_globalInvariant_ne_zero {keys : List Key} :
    ¬sizeOf .globalInvariant keys = 0 ↔ ∃ id, (Kind.globalInvariant, id) ∈ keys := by
  rw [sizeOf, List.length_eq_zero_iff, List.filter_eq_nil_iff]
  constructor
  · intro h
    push Not at h
    obtain ⟨⟨kind, id⟩, hmem, hkind⟩ := h
    cases of_decide_eq_true hkind
    exact ⟨id, hmem⟩
  · rintro ⟨id, hmem⟩ h
    exact h _ hmem (decide_eq_true rfl)

/-- In sound documents the global invariants are where they are declared. -/
theorem globalInvariant_declared_iff (hsound : ∀ f ∈ files, f.Sound) {id : List Char} :
    (Kind.globalInvariant, id) ∈ files.flatMap File.declarations ↔ ∃ g ∈ files, id ∈ g.globalInvariants := by
  rw [List.mem_flatMap]
  refine exists_congr fun g ↦ and_congr_right fun hg ↦ ?_
  rw [globalInvariant_mem_declarations]
  exact and_iff_right_of_imp fun hid ↦ (hsound g hg).globalInvariants (List.ne_nil_of_mem hid)

/-! ## What is accepted -/

theorem errors_eq_nil {stat : List Char → Option Bool} : errors stat files = [] ↔ WellFormed stat files := by
  have hinvariants (hsound : ∀ f ∈ files, f.Sound) :
      ¬sizeOf .globalInvariant (registerOf files).keys = 0 ↔ ∃ f ∈ files, f.globalInvariants ≠ [] := by
    simp only [sizeOf_globalInvariant_ne_zero, mem_keys_registerOf, globalInvariant_declared_iff hsound]
    constructor
    · rintro ⟨id, g, hg, hid⟩
      exact ⟨g, hg, List.ne_nil_of_mem hid⟩
    · rintro ⟨g, hg, hne⟩
      obtain ⟨id, hid⟩ := List.exists_mem_of_ne_nil _ hne
      exact ⟨id, g, hg, hid⟩
  simp only [errors, List.append_eq_nil_iff, ite_eq_right_iff, List.cons_ne_nil, imp_false,
    List.flatMap_eq_nil_iff, referenceErrors_eq_nil, errors_registerOf]
  constructor
  · rintro ⟨⟨⟨⟨hsound, honce⟩, hglobal⟩, hreferences⟩, hcheck⟩
    refine ⟨hsound, honce, (hinvariants hsound).mp hglobal, fun f hf hspec ↦ ?_, fun f hf hspec id hid ↦ ?_,
      hreferences⟩
    · exact ((checkErrors_eq_nil hf).mp (hcheck f hf) hspec).1
    · exact (globalInvariant_declared_iff hsound).mp (((checkErrors_eq_nil hf).mp (hcheck f hf) hspec).2 id hid)
  · intro h
    refine ⟨⟨⟨⟨h.sound, h.once⟩, (hinvariants h.sound).mpr h.invariants⟩, h.references⟩, fun f hf ↦ ?_⟩
    refine (checkErrors_eq_nil hf).mpr fun hspec ↦ ⟨h.own f hf hspec, fun id hid ↦ ?_⟩
    exact (globalInvariant_declared_iff h.sound).mpr (h.known f hf hspec id hid)

/-- The validator accepts the well-formed sets of documents, and counts what they declare. -/
theorem validate_eq_ok {stat : List Char → Option Bool} {summary : Summary} :
    validate stat files = .ok summary ↔
      WellFormed stat files ∧ summary = summaryOf (files.flatMap File.declarations) files := by
  unfold validate
  by_cases h : errors stat files = []
  · have hregister : (registerOf files).errors = [] := by
      have hwell := errors_eq_nil.mp h
      exact errors_registerOf.mpr ⟨hwell.sound, hwell.once⟩
    rw [if_pos (List.isEmpty_iff.mpr h), keys_registerOf hregister]
    simp [errors_eq_nil.mp h, eq_comm]
  · rw [if_neg (by simpa using h)]
    have hwell : ¬WellFormed stat files := fun hw ↦ h (errors_eq_nil.mpr hw)
    simp [hwell]

/-! ## The order of the documents -/

theorem WellFormed.perm {stat : List Char → Option Bool} {files' : List File} (h : WellFormed stat files)
    (hperm : files.Perm files') : WellFormed stat files' := by
  have hmem {f : File} : f ∈ files' ↔ f ∈ files := hperm.mem_iff.symm
  refine ⟨?_, ?_, ?_, ?_, ?_, ?_⟩
  · intro f hf
    exact h.sound f (hmem.mp hf)
  · exact ((hperm.flatMap_right File.declarations).nodup_iff).mp h.once
  · obtain ⟨f, hf, hne⟩ := h.invariants
    exact ⟨f, hmem.mpr hf, hne⟩
  · intro f hf
    exact h.own f (hmem.mp hf)
  · intro f hf hspec id hid
    obtain ⟨g, hg, hid⟩ := h.known f (hmem.mp hf) hspec id hid
    exact ⟨g, hmem.mpr hg, hid⟩
  · intro f hf
    exact h.references f (hmem.mp hf)

theorem summaryOf_perm {files' : List File} (hperm : files.Perm files') :
    summaryOf (files.flatMap File.declarations) files = summaryOf (files'.flatMap File.declarations) files' := by
  have hsize (kind : Kind) : sizeOf kind (files.flatMap File.declarations) =
      sizeOf kind (files'.flatMap File.declarations) :=
    ((hperm.flatMap_right File.declarations).filter _).length_eq
  have hnormative : normativeRequirementCount files = normativeRequirementCount files' :=
    ((hperm.filter _).map _).sum_eq
  have hreferences : (files.map (·.repositoryReferences.length)).sum =
      (files'.map (·.repositoryReferences.length)).sum := (hperm.map _).sum_eq
  simp only [summaryOf, hsize, hnormative, hreferences]

theorem validate_perm {stat : List Char → Option Bool} {files' : List File} (hperm : files.Perm files')
    (summary : Summary) : validate stat files = .ok summary ↔ validate stat files' = .ok summary := by
  rw [validate_eq_ok, validate_eq_ok, summaryOf_perm hperm]
  exact and_congr_left' ⟨fun h ↦ h.perm hperm, fun h ↦ h.perm hperm.symm⟩

theorem requirements_sublist (f : File) :
    (f.requirements.map (Kind.requirement, ·)).Sublist f.declarations :=
  (List.sublist_append_right _ _).trans (List.sublist_append_left _ _)

/-- What a specification demands is among its own requirements, which are declared nowhere else. -/
theorem WellFormed.normative_declared_once {stat : List Char → Option Bool} (h : WellFormed stat files) {f : File}
    (hf : f ∈ files) (hspec : f.specification.isSome = true) {id : List Char} (hid : id ∈ f.normative) :
    id ∈ f.requirements ∧ (files.flatMap File.requirements).count id = 1 := by
  have hown := h.own f hf hspec id (((h.sound f hf).contents hspec).normative id hid)
  have hsublist : ((files.flatMap File.requirements).map (Kind.requirement, ·)).Sublist
      (files.flatMap File.declarations) := by
    rw [List.map_flatMap]
    exact List.Sublist.flatMap_right _ fun g _ ↦ requirements_sublist g
  have hnodup : (files.flatMap File.requirements).Nodup := (h.once.sublist hsublist).of_map
  exact ⟨hown, List.count_eq_one_of_mem hnodup (List.mem_flatMap.mpr ⟨f, hf, hown⟩)⟩

end

/-! ## The directory -/

/-- An entry of a directory; links and devices are neither files nor directories. -/
inductive DirectoryEntry where
  | file (name : String) (source : List Char)
  | directory (name : String) (entries : List DirectoryEntry)
  | other (name : String)

mutual

/-- What one entry of a directory adds. The display path goes from the root, the path from the protocol's directory. -/
def markdownFile (displayDirectory directory : String) : DirectoryEntry → List File
  | .file name source =>
    if name = "templates" then []
    else if ".md".toList <:+ name.toList then [⟨directory ++ name, displayDirectory ++ name, source⟩]
    else []
  | .directory name entries =>
    if name = "templates" then []
    else markdownFiles (displayDirectory ++ name ++ "/") (directory ++ name ++ "/") entries
  | .other _ => []

/-- `markdownFiles`, in the order in which the directories list their entries -/
def markdownFiles (displayDirectory directory : String) : List DirectoryEntry → List File
  | [] => []
  | entry :: entries =>
    markdownFile displayDirectory directory entry ++ markdownFiles displayDirectory directory entries

end

/-- The same directory, listed in another order on any level. -/
inductive Reordered : List DirectoryEntry → List DirectoryEntry → Prop
  | swap (entry entry' : DirectoryEntry) (entries : List DirectoryEntry) :
    Reordered (entry :: entry' :: entries) (entry' :: entry :: entries)
  | inside (name : String) {entries entries' : List DirectoryEntry} (rest : List DirectoryEntry)
    (h : Reordered entries entries') : Reordered (.directory name entries :: rest) (.directory name entries' :: rest)
  | cons (entry : DirectoryEntry) {entries entries' : List DirectoryEntry} (h : Reordered entries entries') :
    Reordered (entry :: entries) (entry :: entries')
  | refl (entries : List DirectoryEntry) : Reordered entries entries
  | trans {entries entries' entries'' : List DirectoryEntry} (h : Reordered entries entries')
    (h' : Reordered entries' entries'') : Reordered entries entries''

theorem markdownFiles_perm {entries entries' : List DirectoryEntry} (h : Reordered entries entries')
    (displayDirectory directory : String) :
    (markdownFiles displayDirectory directory entries).Perm (markdownFiles displayDirectory directory entries') := by
  induction h generalizing displayDirectory directory with
  | swap entry entry' entries =>
    simp only [markdownFiles, ← List.append_assoc]
    exact List.perm_append_comm.append_right _
  | inside name rest h ih =>
    simp only [markdownFiles, markdownFile]
    split_ifs
    · exact List.Perm.refl _
    · exact (ih _ _).append_right _
  | cons entry h ih =>
    simp only [markdownFiles]
    exact (ih _ _).append_left _
  | refl entries => exact List.Perm.refl _
  | trans h h' ih ih' => exact (ih _ _).trans (ih' _ _)

/-- The validator accepts a directory exactly when its documents are well-formed, in whatever order they are listed;
then whatever a specification demands is tested by it, is among its own requirements, and is declared nowhere else. -/
theorem validation_exact (stat : List Char → Option Bool) (displayDirectory directory : String)
    (entries : List DirectoryEntry) (summary : Summary) :
    let files := markdownFiles displayDirectory directory entries
    (validate stat files = .ok summary ↔
      WellFormed stat files ∧ summary = summaryOf (files.flatMap File.declarations) files) ∧
    (∀ entries', Reordered entries entries' → (validate stat files = .ok summary ↔
      validate stat (markdownFiles displayDirectory directory entries') = .ok summary)) ∧
    (validate stat files = .ok summary → ∀ f ∈ files, f.specification.isSome = true → ∀ id ∈ f.normative,
      id ∈ expandTestReferences f.tests ∧ id ∈ f.requirements ∧
        (files.flatMap File.requirements).count id = 1) := by
  intro files
  refine ⟨validate_eq_ok, fun entries' h ↦ validate_perm (markdownFiles_perm h _ _) summary, ?_⟩
  intro h f hf hspec id hid
  have hwell := (validate_eq_ok.mp h).1
  exact ⟨((hwell.sound f hf).contents hspec).normative id hid, hwell.normative_declared_once hf hspec hid⟩

namespace Sample

def document (lines : List String) : List Char := lines.flatMap fun line ↦ line.toList ++ ['\n']

def invariants : DirectoryEntry := .file "invariants.md" (document ["- **INV-A-001**"])

def specification : DirectoryEntry := .file "a.md" (document ["**Specification ID:** A", "- **REQ-A-001:**",
  "### MUST", "REQ-A-001", "## Invariants", "`INV-A-001`", "- **SPEC-INV-A-001:**", "## Test Requirements",
  "REQ-A-001", "## Open Questions", "- **OQ-A-001:** **Decision owner:** a; **Blocks:** b; **Question:** c?"])

def entries : List DirectoryEntry :=
  [specification, .directory "templates" [specification], invariants]

end Sample

theorem validation_exact_sample :
    WellFormed (fun _ ↦ none) (markdownFiles "protocol/" "" Sample.entries) :=
  ((validation_exact (fun _ ↦ none) "protocol/" "" Sample.entries ⟨1, 1, 1, 1, 1, 1, 0⟩).1.mp
    (by decide +kernel)).1

end CreatorFirst.Protocol
