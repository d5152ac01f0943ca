import CreatorFirst.Chain.Abi
import CreatorFirst.Script.Value

/-!
# The validator of proposal records

A record is a text with a header of fields. The validator checks every record of the directory by
itself and, as a gate, whether the records of one revision of a proposal allow it to go on. It passes
if it has found no problem. The parser of the headers comes from a package and is a parameter. Texts
are matched by their bytes in UTF-8, which finds what matching their characters does.
-/

namespace CreatorFirst.Records

open Script
open Chain (Bytes utf8)

structure File where
  /-- The path below the directory of the records. -/
  recordPath : String
  /-- The path that messages show. -/
  displayPath : String
  source : Bytes

/-- The messages of the parser, and the value unless the conversion fails. -/
structure ParsedDocument where
  errors : List String
  value : Option Value

structure Platform where
  parseDocument : Bytes → ParsedDocument
  /-- The file of an evidence document can be read. -/
  accessible : String → Bool

/-- A message, with the values that the source puts into it. -/
structure Problem where
  path : String
  message : String
  details : List Value := []

/-- The script ends with an exception. -/
inductive Crash where
  | typeError

structure Record where
  path : String
  field : String → Value

/-! ## Texts -/

/-- The lines of a text, a line feed or a carriage return with a line feed between them. -/
def lines : Bytes → List Bytes
  | [] => [[]]
  | 13 :: 10 :: bs => [] :: lines bs
  | 10 :: bs => [] :: lines bs
  | b :: bs =>
    match lines bs with
    | [] => [[b]]
    | first :: rest => (b :: first) :: rest

def isPart (part : Bytes) : Bytes → Bool
  | [] => part.isEmpty
  | b :: bs => part.isPrefixOf (b :: bs) || isPart part bs

/-- `source.includes(part)`. -/
def includes (source : Bytes) (part : String) : Bool := isPart (utf8 part) source

def isDigit (b : UInt8) : Bool := 48 ≤ b && b ≤ 57

/-- A digit or one of the letters from `a` to `f`. -/
def isHexDigit (b : UInt8) : Bool := isDigit b || (97 ≤ b && b ≤ 102)

/-- `/^0x[0-9a-f]{64}$/`. -/
def hashPattern (s : String) : Bool :=
  (utf8 s).take 2 = [48, 120] && ((utf8 s).drop 2).length = 64 && ((utf8 s).drop 2).all isHexDigit

/-- `/^[0-9a-f]{40}$/`. -/
def commitPattern (s : String) : Bool := (utf8 s).length = 40 && (utf8 s).all isHexDigit

/-- The text of bytes that are digits and letters of the Latin alphabet. -/
def ofAscii (bs : Bytes) : String := String.ofList (bs.map fun b ↦ Char.ofNat b.toNat)

/-- `CFP-` and four digits at the start, and what follows. -/
def splitCfp (bs : Bytes) : Option (String × Bytes) :=
  if bs.take 4 = utf8 "CFP-" ∧ ((bs.drop 4).take 4).length = 4 ∧ ((bs.drop 4).take 4).all isDigit then
    some (ofAscii (bs.take 8), bs.drop 8)
  else none

/-- `/^CFP-\d{4}$/`. -/
def cfpPattern (s : String) : Bool := (splitCfp (utf8 s)).any fun r ↦ r.2 = []

/-- None of the characters that end a line: line feed, carriage return, and the two separators. -/
def isSingleLine (bs : Bytes) : Bool :=
  !bs.contains 10 && !bs.contains 13 && !isPart [0xe2, 0x80, 0xa8] bs && !isPart [0xe2, 0x80, 0xa9] bs

/-- `/^(CFP-\d{4})\/revision-(\d{4})\/(.+)\.md$/`: the proposal and the digits of the revision. -/
def matchPath (recordPath : String) : Option (String × String) := do
  let (cfp, rest) ← splitCfp (utf8 recordPath)
  let digits := (rest.drop 10).take 4
  let name := rest.drop 14
  if rest.take 10 = utf8 "/revision-" ∧ digits.length = 4 ∧ digits.all isDigit ∧
      name.head? = some 47 ∧ 5 ≤ name.length ∧ name.drop (name.length - 3) = utf8 ".md" ∧
      isSingleLine (name.take (name.length - 3)) then
    some (cfp, ofAscii digits)
  else none

/-- `/^(CFP-\d{4})@([1-9]\d*)$/`: the proposal and the digits of the revision. -/
def matchSelector (selector : String) : Option (String × String) := do
  let (cfp, rest) ← splitCfp (utf8 selector)
  let digits := rest.drop 1
  if rest.head? = some 64 ∧ digits ≠ [] ∧ digits.head? ≠ some 48 ∧ digits.all isDigit then
    some (cfp, ofAscii digits)
  else none

/-! ## Checks -/

def allowedStatuses : List String :=
  ["draft", "member_review", "confirmed", "hash_bound", "superseded", "test_fixture", "open",
    "resolved", "deferred"]

def allowedDocumentTypes : List String :=
  ["evidence_index", "issue", "house_minutes", "house_decision", "review", "correction",
    "implementation_evidence", "execution_evidence"]

def requiredTemplates : List String :=
  ["house-minutes.template.md", "issue.template.md", "evidence-index.template.md",
    "correction.template.md", "house-decision.template.md"]

def problemIf (condition : Bool) (problem : Problem) : List Problem :=
  if condition then [problem] else []

/-- The value is one of the strings. -/
def isOneOf (value : Value) (strings : List String) : Bool := strings.any value.is

def isMissing : Value → Bool
  | .undefined | .null => true
  | .string s => s = ""
  | _ => false

def requireFields (r : Record) (fields : List String) : List Problem :=
  fields.flatMap fun field ↦
    problemIf (isMissing (r.field field)) ⟨r.path, "missing required field " ++ field, []⟩

def requireHeadings (r : Record) (source : Bytes) (headings : List String) : List Problem :=
  headings.flatMap fun heading ↦
    problemIf (!includes source ("## " ++ heading)) ⟨r.path, "missing required heading " ++ heading, []⟩

def isFinalStatus (status : Value) : Bool := status.is "confirmed" || status.is "hash_bound"

def requireFinalHash (value : Value) (field path : String) (details : List Value) : List Problem :=
  problemIf (!hashPattern value.text) ⟨path, field ++ " must be a 32-byte lowercase 0x hash", details⟩

def requireCommit (r : Record) : List Problem :=
  problemIf (!commitPattern (r.field "source_commit").text)
    ⟨r.path, "source_commit must be a 40-character lowercase commit", []⟩

/-- The value is not a list of at least `n` items. -/
def isShorter (value : Value) (n : ℕ) : Bool := value.items?.all fun items ↦ items.length < n

/-- What every record must satisfy, apart from being the only one with its id. -/
def checkCommon (r : Record) (cfp revision : String) : List Problem :=
  requireFields r ["record_schema", "document_id", "document_type", "cfp_id", "cfp_revision",
    "status", "created_at", "privacy_class"] ++
  problemIf (!(r.field "record_schema").is "cfp-record/v1")
    ⟨r.path, "unsupported record_schema", []⟩ ++
  problemIf (!isOneOf (r.field "document_type") allowedDocumentTypes)
    ⟨r.path, "invalid document_type", [r.field "document_type"]⟩ ++
  problemIf (!cfpPattern (r.field "cfp_id").text) ⟨r.path, "invalid cfp_id", []⟩ ++
  problemIf (!(r.field "cfp_id").is cfp) ⟨r.path, "cfp_id does not match directory", []⟩ ++
  problemIf (!(r.field "cfp_revision").toNumber.equals (.ofString revision))
    ⟨r.path, "cfp_revision does not match directory", []⟩ ++
  problemIf (!isOneOf (r.field "status") allowedStatuses)
    ⟨r.path, "invalid status", [r.field "status"]⟩ ++
  problemIf (!isOneOf (r.field "privacy_class") ["public", "public_summary", "restricted"])
    ⟨r.path, "invalid privacy_class", [r.field "privacy_class"]⟩ ++
  problemIf ((r.field "status").is "test_fixture" && !(r.field "record_profile").is "testnet_fixture")
    ⟨r.path, "test_fixture must declare record_profile: testnet_fixture", []⟩

def checkMinutes (r : Record) (source : Bytes) : List Problem :=
  requireFields r ["cfp_revision_hash", "house", "session_id", "meeting_id", "held_at", "chair_id",
    "recorder_id", "membership_snapshot_hash", "agenda_hash", "evidence_index_path",
    "source_commit", "confirmers"] ++
  problemIf (!isOneOf (r.field "house") ["creator_house", "user_house", "joint_session"])
    ⟨r.path, "invalid house", [r.field "house"]⟩ ++
  problemIf (isShorter (r.field "confirmers") 0) ⟨r.path, "confirmers must be an array", []⟩ ++
  requireHeadings r source ["会議情報", "出席・定足数", "利益相反", "使用資料", "審議した論点",
    "憲章・法務上の確認", "修正案", "議論の要約", "少数意見", "議決", "継続対応", "議事録の確認"] ++
  if isFinalStatus (r.field "status") then
    requireFinalHash (r.field "cfp_revision_hash") "cfp_revision_hash" r.path [] ++
    requireFinalHash (r.field "membership_snapshot_hash") "membership_snapshot_hash" r.path [] ++
    requireFinalHash (r.field "agenda_hash") "agenda_hash" r.path [] ++
    requireCommit r ++
    problemIf (!(r.field "confirmed_at").truthy) ⟨r.path, "final minutes require confirmed_at", []⟩ ++
    problemIf (isShorter (r.field "confirmers") 2)
      ⟨r.path, "final minutes require at least two confirmers", []⟩
  else []

def checkIssue (r : Record) (source : Bytes) : List Problem :=
  requireFields r ["issue_id", "category", "blocking", "raised_by", "owner"] ++
  problemIf (!(r.field "issue_id").strictEquals (r.field "document_id"))
    ⟨r.path, "issue_id must equal document_id", []⟩ ++
  problemIf (!(r.field "blocking").isBoolean) ⟨r.path, "blocking must be boolean", []⟩ ++
  problemIf (!isOneOf (r.field "category") ["charter", "legal", "rights", "privacy", "security",
    "technical", "economic", "governance", "operations"])
    ⟨r.path, "invalid issue category", [r.field "category"]⟩ ++
  requireHeadings r source ["問い", "発生理由", "関係する資料", "選択肢", "各院の意見", "解決条件",
    "決定", "少数意見", "関連する修正Revision"] ++
  if (r.field "status").is "resolved" then
    problemIf (!(r.field "resolved_at").truthy) ⟨r.path, "resolved issue requires resolved_at", []⟩ ++
    requireFinalHash (r.field "resolution_hash") "resolution_hash" r.path []
  else []

/-- A field of an item, which may be no mapping at all. -/
def itemField (item : Value) (field : String) : Value :=
  match item with
  | .object fields => (fields.lookup field).getD .undefined
  | _ => .undefined

def checkEvidenceItem (E : Platform) (r : Record) (index : ℕ) (item : Value) : List Problem :=
  (["evidence_id", "document_path", "content_hash", "classification", "status"].flatMap fun field ↦
    problemIf (!(itemField item field).truthy)
      ⟨r.path, "evidence_items[" ++ toString index ++ "] missing " ++ field, []⟩) ++
  if (itemField item "document_path").truthy then
    match itemField item "document_path" with
    | .string path => problemIf (!E.accessible path) ⟨r.path, "missing evidence document " ++ path, []⟩
    | other => [⟨r.path, "missing evidence document", [other]⟩]
  else []

def checkEvidenceIndex (E : Platform) (r : Record) (source : Bytes) : List Problem :=
  requireFields r ["bundle_root", "source_commit", "evidence_items"] ++
  (if isShorter (r.field "evidence_items") 1 then
    [⟨r.path, "evidence_items must be a non-empty array", []⟩]
  else ((r.field "evidence_items").items?.getD []).zipIdx.flatMap fun (item, index) ↦
    checkEvidenceItem E r index item) ++
  requireHeadings r source ["対象", "公開証拠", "制限証拠", "証拠束の確定"]

def checkDecision (r : Record) (source : Bytes) : List Problem :=
  requireFields r ["cfp_revision_hash", "house", "session_id", "membership_snapshot_hash",
    "minutes_document_id", "quorum_met", "result", "result_evidence_hash", "source_commit"] ++
  problemIf (!isOneOf (r.field "house") ["creator_house", "user_house"])
    ⟨r.path, "invalid decision house", []⟩ ++
  problemIf (!(r.field "quorum_met").isBoolean) ⟨r.path, "quorum_met must be boolean", []⟩ ++
  problemIf (!isOneOf (r.field "result") ["pending", "approved", "rejected"])
    ⟨r.path, "invalid decision result", []⟩ ++
  (if isFinalStatus (r.field "status") then
    requireFinalHash (r.field "cfp_revision_hash") "cfp_revision_hash" r.path [] ++
    requireFinalHash (r.field "membership_snapshot_hash") "membership_snapshot_hash" r.path [] ++
    requireFinalHash (r.field "result_evidence_hash") "result_evidence_hash" r.path [] ++
    requireCommit r
  else []) ++
  requireHeadings r source ["投票対象", "定足数", "集計結果", "付帯決議・少数意見"]

def checkCorrection (r : Record) (source : Bytes) : List Problem :=
  requireFields r ["corrects_document_id", "corrects_document_hash", "reason", "approved_by",
    "approved_at"] ++
  requireFinalHash (r.field "corrects_document_hash") "corrects_document_hash" r.path [] ++
  problemIf (isShorter (r.field "approved_by") 2)
    ⟨r.path, "correction requires at least two approvers", []⟩ ++
  requireHeadings r source ["訂正対象", "訂正内容", "訂正理由", "承認"]

/-- What a record must satisfy for its type. -/
def checkType (E : Platform) (r : Record) (source : Bytes) : List Problem :=
  if (r.field "document_type").is "house_minutes" then checkMinutes r source
  else if (r.field "document_type").is "issue" then checkIssue r source
  else if (r.field "document_type").is "evidence_index" then checkEvidenceIndex E r source
  else if (r.field "document_type").is "house_decision" then checkDecision r source
  else if (r.field "document_type").is "correction" then checkCorrection r source
  else []

/-! ## The records of the directory -/

section

local instance lawfulBEq_bytes : LawfulBEq Bytes := inferInstanceAs (LawfulBEq (List UInt8))

/-- The header of a text and what is wrong with it. -/
def parseFrontmatter (E : Platform) (source : Bytes) (displayPath : String) :
    Except Crash (List Problem × Value) :=
  match lines source with
  | first :: rest =>
    if first ≠ utf8 "---" then
      return ([⟨displayPath, "missing YAML frontmatter", []⟩], .object [])
    else if utf8 "---" ∉ rest then
      return ([⟨displayPath, "unterminated YAML frontmatter", []⟩], .object [])
    else
      let document := E.parseDocument (List.intercalate [10] (rest.takeWhile (· ≠ utf8 "---")))
      let problems := document.errors.map fun message ↦ ⟨displayPath, message, []⟩
      if document.errors ≠ [] then return (problems, .object [])
      else
        match document.value with
        | none => .error .typeError
        | some value => return (problems, value)
  | [] => return ([⟨displayPath, "missing YAML frontmatter", []⟩], .object [])

end

/-- Reading a field of nothing is an exception; what is no mapping has none of the fields. -/
def fieldsOf : Value → Except Crash (String → Value)
  | .undefined | .null => .error .typeError
  | .object fields => return fun field ↦ (fields.lookup field).getD .undefined
  | _ => return fun _ ↦ .undefined

/-- The ids seen so far, with the record that used each first. -/
abbrev DocumentIds := List (Value × String)

def checkDuplicate (ids : DocumentIds) (r : Record) : List Problem :=
  match ids.find? fun entry ↦ entry.1.sameKey (r.field "document_id") with
  | some (_, path) => [⟨r.path, "duplicate document_id, also used by " ++ path,
      [r.field "document_id"]⟩]
  | none => []

def remember (ids : DocumentIds) (r : Record) : DocumentIds :=
  if (ids.find? fun entry ↦ entry.1.sameKey (r.field "document_id")).isNone ∧
      (r.field "document_id").truthy then ids ++ [(r.field "document_id", r.path)]
  else ids

/-- The problems of the files and the records that they hold, in order. -/
def checkFiles (E : Platform) : DocumentIds → List File → Except Crash (List Problem × List Record)
  | _, [] => return ([], [])
  | ids, file :: files =>
    match matchPath file.recordPath with
    | none => do
      let (problems, records) ← checkFiles E ids files
      return (⟨file.displayPath, "path must match CFP-NNNN/revision-NNNN/...md", []⟩ :: problems,
        records)
    | some (cfp, revision) => do
      let (headerProblems, value) ← parseFrontmatter E file.source file.displayPath
      let field ← fieldsOf value
      let r : Record := ⟨file.displayPath, field⟩
      let (problems, records) ← checkFiles E (remember ids r) files
      return (headerProblems ++ checkCommon r cfp revision ++ checkDuplicate ids r ++
        checkType E r file.source ++ problems, r :: records)

/-- `templates` gives the content of the files that exist. -/
def checkTemplates (templates : String → Option Bytes) : List Problem :=
  requiredTemplates.flatMap fun template ↦
    let path := ".github/CFP_RECORD_TEMPLATES/" ++ template
    match templates template with
    | none => [⟨path, "missing required template", []⟩]
    | some source =>
      problemIf (!includes source "record_schema: cfp-record/v1")
        ⟨path, "missing record_schema", []⟩

/-! ## The gate -/

/-- The record is one of the revision. -/
def selects (cfp revision : String) (r : Record) : Bool :=
  (r.field "cfp_id").is cfp && (r.field "cfp_revision").toNumber.equals (.ofString revision)

def isBlocker (r : Record) : Bool :=
  (r.field "document_type").is "issue" && (r.field "blocking").isBool true &&
    isOneOf (r.field "status") ["open", "deferred"]

def isProduction (r : Record) : Bool := !(r.field "record_profile").is "testnet_fixture"

/-- Final minutes of a House. -/
def isFinalMinutes (house : String) (r : Record) : Bool :=
  (r.field "document_type").is "house_minutes" && (r.field "house").is house &&
    isFinalStatus (r.field "status") && isProduction r

/-- A final decision of a House, whatever its result. -/
def isFinalDecision (house : String) (r : Record) : Bool :=
  (r.field "document_type").is "house_decision" && (r.field "house").is house &&
    isFinalStatus (r.field "status") && isProduction r

def isApproval (house : String) (r : Record) : Bool :=
  isFinalDecision house r && (r.field "quorum_met").isBool true && (r.field "result").is "approved"

def checkHouse (selector : String) (selected : List Record) (house : String) : List Problem :=
  problemIf (!selected.any (isFinalMinutes house))
    ⟨selector, "missing final production minutes for " ++ house, []⟩ ++
  problemIf (!selected.any (isApproval house))
    ⟨selector, "missing approved final production decision for " ++ house, []⟩

/-- What a loop over the value goes through. -/
def iterate : Value → Except Crash (List Value)
  | .undefined | .null => return []
  | .array items => return items
  | .string s => return s.toList.map fun c ↦ .string (String.ofList [c])
  | _ => .error .typeError

def checkItems (r : Record) : List Value → Except Crash (List Problem)
  | [] => return []
  | item :: items => do
    let field ← fieldsOf item
    let problems ← checkItems r items
    return problemIf (!(field "status").is "verified")
        ⟨r.path, "evidence is not verified", [field "evidence_id"]⟩ ++
      requireFinalHash (field "content_hash") "evidence content_hash" r.path
        [field "evidence_id"] ++ problems

def checkEvidence (selector : String) (selected : List Record) : Except Crash (List Problem) :=
  match selected.find? fun r ↦ (r.field "document_type").is "evidence_index" &&
      (r.field "status").is "hash_bound" && isProduction r with
  | none => return [⟨selector, "missing hash_bound production evidence index", []⟩]
  | some r => do
    let items ← iterate (r.field "evidence_items")
    let problems ← checkItems r items
    return requireFinalHash (r.field "bundle_root") "bundle_root" r.path [] ++ requireCommit r ++
      problems

def checkGate (selector : String) (records : List Record) : Except Crash (List Problem) :=
  match matchSelector selector with
  | none => return [⟨selector, "invalid gate selector; expected CFP-NNNN@revision", []⟩]
  | some (cfp, revision) => do
    let selected := records.filter (selects cfp revision)
    let evidence ← checkEvidence selector selected
    return problemIf selected.isEmpty ⟨selector, "no records found", []⟩ ++
      (selected.filter isBlocker).map (fun r ↦
        ⟨selector, "unresolved blocking issue", [r.field "issue_id"]⟩) ++
      checkHouse selector selected "creator_house" ++ checkHouse selector selected "user_house" ++
      evidence

/-- The project as the validator finds it. -/
structure Project where
  templates : String → Option Bytes
  files : List File

/-- All problems of a run, with a gate where a selector is given. -/
def validate (E : Platform) (project : Project) (gate : Option String) :
    Except Crash (List Problem) := do
  let (problems, records) ← checkFiles E [] project.files
  let gateProblems ←
    match gate with
    | none => return []
    | some selector => checkGate selector records
  return checkTemplates project.templates ++ problems ++
    problemIf records.isEmpty ⟨"docs/proposals/records", "defines no CFP records", []⟩ ++
    gateProblems

/-- The run ends with exit code 0. -/
def passes (E : Platform) (project : Project) (gate : Option String) : Bool :=
  match validate E project gate with
  | .ok [] => true
  | _ => false

end CreatorFirst.Records
