import CreatorFirst.Protocol.References

/-!
# The documents of the protocol

What the validator reads off a document: the identifiers that it declares, those that it refers to, the data at its
head and the sections that it has. Every one of them is found by a pattern, in the document or in one of its sections.
-/

namespace CreatorFirst.Protocol

open Script Text

/-! ## Patterns -/

section Patterns

variable {α : Type}

def either {σ : Type} (p q : Pattern σ α) : Pattern σ α := fun s ↦ p s ++ q s

/-- `\n`, `\r` and the two separators. -/
def isLineEnd (c : Char) : Bool := c = '\n' || c = '\r' || c = '\u2028' || c = '\u2029'

/-- `$` with the flag `m` -/
def lineEnd : Pattern Char Unit := fun s ↦ if s.head?.all isLineEnd then [((), s)] else []

/-- `$` without the flag -/
def textEnd : Pattern Char Unit := fun s ↦ if s = [] then [((), s)] else []

/-- The matches at the starts of lines, with fuel. -/
def scanLines (p : Pattern Char α) : ℕ → Bool → List Char → List α
  | 0, _, _ => []
  | fuel + 1, atStart, s =>
    match if atStart then (p s).head? else none with
    | some m => m.1 :: scanLines p fuel ((s.take (s.length - m.2.length)).getLast?.all isLineEnd) m.2
    | none =>
      match s with
      | [] => []
      | c :: s => scanLines p fuel (isLineEnd c) s

/-- `/^.../gm`, for a pattern that never matches the empty text. -/
def matchLines (p : Pattern Char α) (s : List Char) : List α := scanLines p (s.length + 1) true s

/-- One pattern before another, of which the second one counts. -/
def before {β : Type} (p : Pattern Char β) (q : Pattern Char α) : Pattern Char α := p.andThen fun _ ↦ q

/-- One pattern behind another, of which the first one counts. -/
def behind {β : Type} (p : Pattern Char α) (q : Pattern Char β) : Pattern Char α :=
  p.andThen fun a ↦ q.andThen fun _ ↦ Pattern.value a

def text (w : String) : Pattern Char Unit := Pattern.literal w.toList

def spaces : Pattern Char (List Char) := Pattern.many1 Number.isSpace

def digits : Pattern Char (List Char) := Pattern.many1 Char.isDigit

/-- `PREFIX-[A-Z0-9-]+-[0-9]{3}` -/
def identifierOf (start : String) : Pattern Char (List Char) :=
  before (text (start ++ "-")) <| (Pattern.many1 domainChar).andThen fun domain ↦
    before (text "-") <| (Pattern.times Char.isDigit 3).andThen fun number ↦
      Pattern.value (start.toList ++ '-' :: domain ++ '-' :: number)

/-- Letters, digits, dots, underscores, slashes and hyphens. -/
def pathChar (c : Char) : Bool := c.isAlphanum || c ∈ ['.', '_', '/', '-']

/-- A path to a document of the repository, between backticks. -/
def documentPattern : Pattern Char (List Char) :=
  let directory := either (behind (Pattern.value "docs".toList) (text "docs"))
    (behind (Pattern.value "protocol".toList) (text "protocol"))
  before (text "`") <| behind (directory.andThen fun directory ↦ before (text "/") <|
    (Pattern.many1 pathChar).andThen fun path ↦
      behind (Pattern.value (directory ++ '/' :: path ++ ".md".toList)) (text ".md")) (text "`")

/-- `- **PREFIX-...:**` -/
def declaration (start : String) : Pattern Char (List Char) :=
  before (text "- **") (behind (identifierOf start) (text ":**"))

/-- `- **INV-...**`, alone in its line -/
def globalInvariantPattern : Pattern Char (List Char) :=
  before (text "- **") (behind (behind (behind (identifierOf "INV") (text "**"))
    (Pattern.many Number.isSpace)) lineEnd)

def specificationPattern : Pattern Char (List Char) :=
  before (text "**Specification ID:**") (before spaces (Pattern.many1 domainChar))

/-- `**LABEL:**` and a word -/
def metadataPattern (label : String) : Pattern Char (List Char) :=
  before (text ("**" ++ label ++ ":**")) (before spaces (Pattern.many1 fun c ↦ !Number.isSpace c))

def versionPattern : Pattern Char Unit :=
  before (text "**Version:**") <| before spaces <| before digits <| before (text ".") <| before digits <|
    before (text ".") <| before digits <| before (Pattern.many Number.isSpace) lineEnd

def updatedPattern : Pattern Char Unit :=
  before (text "**Last Updated:**") <| before spaces <| before (Pattern.times Char.isDigit 4) <|
    before (text "-") <| before (Pattern.times Char.isDigit 2) <| before (text "-") <|
      before (Pattern.times Char.isDigit 2) <| before (Pattern.many Number.isSpace) lineEnd

/-- `- .+`, up to the end of the line -/
def itemPattern : Pattern Char (List Char) :=
  before (text "- ") <| (Pattern.many1 fun c ↦ !isLineEnd c).andThen fun rest ↦
    before lineEnd (Pattern.value ("- ".toList ++ rest))

/-- A question with its identifier, its owner and what it blocks. -/
def openQuestionPattern : Pattern Char (List Char) :=
  before (text "- **") <| behind (identifierOf "OQ") <|
    before (text ":** **Decision owner:** ") <| before (Pattern.many1 (· ≠ ';')) <|
      before (text "; **Blocks:** ") <| before (Pattern.many1 (· ≠ ';')) <|
        before (text "; **Question:** ") <| before (Pattern.many1 fun c ↦ !isLineEnd c) <|
          before (text "?") textEnd

end Patterns

/-! ## Sections -/

/-- The text from the first occurrence on. -/
def fromFirst (w : List Char) : List Char → Option (List Char)
  | [] => if w = [] then some [] else none
  | c :: s => if w <+: c :: s then some (c :: s) else fromFirst w s

/-- The text before the first occurrence of any. -/
def upToFirst (ws : List (List Char)) : List Char → List Char
  | [] => []
  | c :: s => if ws.any (· <+: c :: s) then [] else c :: upToFirst ws s

/-- `section` -/
def sectionOf (source : List Char) (heading : String) (nextHeadings : List String) : List Char :=
  match fromFirst heading.toList source with
  | none => []
  | some s => heading.toList ++
      upToFirst (nextHeadings.map String.toList) (s.drop heading.toList.length)

/-! ## References to requirements, in order -/

/-- The identifiers that one match adds, in order. -/
def ReferenceMatch.inOrder (m : ReferenceMatch) : List (List Char) :=
  let first := Number.numeral m.firstText
  let last := Number.numeral (m.lastText.getD m.firstText)
  if last < first ∨ 999 < last - first then []
  else (List.range' first (last + 1 - first)).map (identifier m.domain)

/-- `expandTestReferences`, with its identifiers in the order of their insertion -/
def testReferences (source : List Char) : List (List Char) :=
  ((Pattern.matchAll pattern source).flatMap ReferenceMatch.inOrder).eraseDups

theorem mem_inOrder (m : ReferenceMatch) (id : List Char) : id ∈ m.inOrder ↔ id ∈ m.references := by
  unfold ReferenceMatch.inOrder ReferenceMatch.references
  dsimp only
  split_ifs with h
  · simp
  · simp only [List.mem_map, List.mem_range'_1, Finset.mem_image, Finset.mem_Icc]
    refine exists_congr fun value ↦ and_congr_left' (and_congr_right fun hle ↦ ?_)
    omega

theorem mem_testReferences {source id : List Char} :
    id ∈ testReferences source ↔ id ∈ expandTestReferences source := by
  rw [testReferences, List.mem_eraseDups, List.mem_flatMap, expandTestReferences, mem_foldl_references]
  simp only [mem_inOrder, Finset.notMem_empty, false_or]

/-! ## Documents -/

/-- A document, under its path below the directory of the protocol. -/
structure File where
  path : String
  displayPath : String
  source : List Char

namespace File

variable (f : File)

def isSpecificationFile : Bool := "-spec.md".toList <:+ f.path.toList

def repositoryReferences : List (List Char) := Pattern.matchAll documentPattern f.source

def globalInvariants : List (List Char) := matchLines globalInvariantPattern f.source

def specification : Option (List Char) := (matchLines specificationPattern f.source).head?

def hasMetadata (label : String) : Bool := !(matchLines (metadataPattern label) f.source).isEmpty

def hasVersion : Bool := !(matchLines versionPattern f.source).isEmpty

def hasLastUpdated : Bool := !(matchLines updatedPattern f.source).isEmpty

def relatedDocuments : List Char := sectionOf f.source "## Related Documents\n" ["## Goal\n"]

def requirements : List (List Char) := matchLines (declaration "REQ") f.source

def mustSource : List Char :=
  sectionOf f.source "### MUST\n" ["### MUST NOT\n", "### SHOULD\n", "## Invariants\n"]

def mustNotSource : List Char := sectionOf f.source "### MUST NOT\n"
  ["### SHOULD\n", "### SHOULD NOT\n", "### MAY\n", "## Invariants\n"]

def normative : List (List Char) := Pattern.matchAll (identifierOf "REQ") (f.mustSource ++ f.mustNotSource)

def tests : List Char :=
  sectionOf f.source "## Test Requirements\n" ["## Acceptance Criteria\n", "## Open Questions\n"]

/-- The set, in the order of its insertions. -/
def tested : List (List Char) := testReferences f.tests

def invariantsSource : List Char :=
  sectionOf f.source "## Invariants\n" ["## State Transitions\n", "## Interfaces\n"]

/-- The set, in the order of its insertions. -/
def referencedInvariants : List (List Char) :=
  (Pattern.matchAll (before (text "`") (behind (identifierOf "INV") (text "`"))) f.invariantsSource).eraseDups

def specificationInvariants : List (List Char) := matchLines (declaration "SPEC-INV") f.invariantsSource

def openQuestionsSource : List Char := sectionOf f.source "## Open Questions\n" []

def openQuestionLines : List (List Char) := matchLines itemPattern f.openQuestionsSource

/-- The identifier of a question, unless its line is malformed. -/
def openQuestion (line : List Char) : Option (List Char) := (openQuestionPattern line).head?.map Prod.fst

end File

end CreatorFirst.Protocol
