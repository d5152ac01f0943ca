import CreatorFirst.Mail.Session
import CreatorFirst.Script.Value
import CreatorFirst.Text.Bytes
import CreatorFirst.Time.Date

/-!
# Messages to a mail server

The message that follows `DATA`. Its header fields are single lines whatever the recipient and the subject are,
and its text is sent with a second dot in front of each line that begins with one, so a receiver finds the end of
the message where it was put and the text as it was.

Texts are lists of characters; half of a surrogate pair without the other half is encoded like the replacement
character, which stands for it here.
-/

namespace CreatorFirst.Mail

open Script Text

def crlfBytes : LineEnd UInt8 := ⟨13, 10, by decide⟩

def dot : UInt8 := 46

theorem utf8_crlf : LineEnd.Transparent crlf crlfBytes String.utf8EncodeChar :=
  utf8_transparent rfl rfl (by decide) (by decide)

/-! ## Addresses and subjects -/

/-- Without a line end of any kind. -/
def OneLine (s : List Char) : Prop := '\r' ∉ s ∧ '\n' ∉ s

instance (s : List Char) : Decidable (OneLine s) := inferInstanceAs (Decidable (_ ∧ _))

@[simp]
theorem oneLine_append {s t : List Char} : OneLine (s ++ t) ↔ OneLine s ∧ OneLine t := by
  simp only [OneLine, List.mem_append, not_or]
  exact and_and_and_comm

theorem OneLine.unbroken {s : List Char} (h : OneLine s) : crlf.Unbroken s := LineEnd.unbroken_of_notMem h.1

theorem OneLine.subset {s t : List Char} (h : OneLine t) (hst : s ⊆ t) : OneLine s :=
  ⟨fun hs ↦ h.1 (hst hs), fun hs ↦ h.2 (hst hs)⟩

/-- A value that is not a string is `none`. -/
def singleLine (value : Option (List Char)) (name : String) : Except String (List Char) :=
  match value with
  | none => .error (name ++ " must be a non-empty single line")
  | some value =>
    if Number.trim value = [] ∨ '\r' ∈ value ∨ '\n' ∈ value then
      .error (name ++ " must be a non-empty single line")
    else .ok (Number.trim value)

/-- `[^\s@<>]` -/
def addressChar (c : Char) : Bool := !Number.isSpace c && c ≠ '@' && c ≠ '<' && c ≠ '>'

/-- `/^[^\s@<>]+@[^\s@<>]+\.[^\s@<>]+$/` -/
def isMailbox (email : List Char) : Bool :=
  let localPart := email.takeWhile (· ≠ '@')
  let domain := (email.dropWhile (· ≠ '@')).drop 1
  localPart ≠ [] && localPart.all addressChar && domain.all addressChar && '.' ∈ (domain.drop 1).dropLast

variable (lowerCase : List Char → List Char)

def mailbox (value : Option (List Char)) (name : String) : Except String (List Char) := do
  let email := lowerCase (← singleLine value name)
  if isMailbox email then return email
  else throw (name ++ " must be an email address")

def encodedHeader (value : Option (List Char)) : Except String (List Char) := do
  return "=?UTF-8?B?".toList ++ base64 (utf8 (← singleLine value "subject")) ++ "?=".toList

/-! ## Texts -/

/-- `replace(/\r?\n/g, '\r\n')` -/
def normalizeLines : List Char → List Char
  | '\r' :: '\n' :: s => '\r' :: '\n' :: normalizeLines s
  | '\n' :: s => '\r' :: '\n' :: normalizeLines s
  | c :: s => c :: normalizeLines s
  | [] => []

example : normalizeLines "a\r\r\nb\nc\r".toList = "a\r\r\nb\r\nc\r".toList := by decide

/-- What `randomUUID` makes. -/
structure Uuid where
  digits : Fin 32 → Fin 16

def Uuid.text (id : Uuid) : List Char :=
  (List.ofFn fun i ↦
    let digit := Nat.digitChar (id.digits i)
    if i.val ∈ [8, 12, 16, 20] then ['-', digit] else [digit]).flatten

/-! ## Messages -/

structure Payload where
  recipient : Option (List Char)
  subject : Option (List Char)
  text : Option (List Char)
  deliveryId : List Char

/-- The names and the values of the header. -/
def fields (address recipient subject : List Char) (now : Date) (id : Uuid) : List (String × List Char) :=
  [("From", "Creator First Platform <".toList ++ address ++ ">".toList),
    ("To", "<".toList ++ recipient ++ ">".toList),
    ("Subject", subject),
    ("Date", now.toUTCString.toList),
    ("Message-ID", "<".toList ++ id.text ++ "@creator-first-platform.local>".toList),
    ("MIME-Version", "1.0".toList),
    ("Content-Type", "text/plain; charset=UTF-8".toList),
    ("Content-Transfer-Encoding", "8bit".toList),
    ("Auto-Submitted", "auto-generated".toList)]

def headerLine (field : String × List Char) : List Char := field.1.toList ++ ": ".toList ++ field.2

def headers (address recipient subject : List Char) (now : Date) (id : Uuid) : List (List Char) :=
  (fields address recipient subject now id).map headerLine

def smtpMessage (payload : Payload) (address : List Char) (now : Date) (id : Uuid) :
    Except String (List Char) := do
  let recipient ← mailbox lowerCase payload.recipient "recipient"
  let normalizedText := normalizeLines (payload.text.getD [])
  let body := List.intercalate crlf.mark ((crlf.split normalizedText).map (stuff '.'))
  let subject ← encodedHeader payload.subject
  return List.intercalate crlf.mark (headers address recipient subject now id ++ [[], body])

/-- What is written after the server has agreed to take a message. -/
def transmission (message : List Char) : List Char := message ++ "\r\n.\r\n".toList

def rcptTo (recipient : List Char) : List Char := "RCPT TO:<".toList ++ recipient ++ ">".toList

/-- What `command` writes. -/
def commandLine (command : List Char) : List Char := command ++ "\r\n".toList

variable {lowerCase}

/-! ## Values that have been checked -/

theorem isMailbox_of_mailbox {value : Option (List Char)} {name : String} {email : List Char}
    (h : mailbox lowerCase value name = .ok email) : isMailbox email = true := by
  unfold mailbox at h
  cases hline : singleLine value name with
  | error message => rw [hline] at h; cases h
  | ok s =>
    rw [hline] at h
    change (if isMailbox (lowerCase s) = true then Except.ok (lowerCase s) else Except.error _) = _ at h
    split at h
    · next hmailbox =>
      cases h
      exact hmailbox
    · cases h

/-- A point inside a list. -/
theorem mem_dropLast_drop_one {α : Type} {a : α} {l : List α} :
    a ∈ (l.drop 1).dropLast ↔ ∃ s t, l = s ++ a :: t ∧ s ≠ [] ∧ t ≠ [] := by
  constructor
  · intro h
    cases l with
    | nil => simp at h
    | cons b l =>
      rw [List.drop_succ_cons, List.drop_zero] at h
      have hne : l ≠ [] := by
        rintro rfl
        simp at h
      obtain ⟨s, t, hst⟩ := List.append_of_mem h
      refine ⟨b :: s, t ++ [l.getLast hne], ?_, by simp, by simp⟩
      calc
        b :: l = b :: (l.dropLast ++ [l.getLast hne]) := by rw [List.dropLast_append_getLast hne]
        _ = b :: s ++ a :: (t ++ [l.getLast hne]) := by simp [hst]
  · rintro ⟨s, t, rfl, hs, ht⟩
    obtain ⟨b, s, rfl⟩ := List.exists_cons_of_ne_nil hs
    rw [List.cons_append, List.drop_succ_cons, List.drop_zero,
      List.dropLast_append_of_ne_nil (List.cons_ne_nil a t), List.dropLast_cons_of_ne_nil ht]
    simp

/-- The pattern of an address. -/
theorem isMailbox_iff {email : List Char} :
    isMailbox email = true ↔ ∃ localPart host top, email = localPart ++ '@' :: (host ++ '.' :: top) ∧
      localPart ≠ [] ∧ host ≠ [] ∧ top ≠ [] ∧
      ∀ s ∈ [localPart, host, top], ∀ c ∈ s, addressChar c = true := by
  constructor
  · intro h
    simp only [isMailbox, Bool.and_eq_true, decide_eq_true_iff, List.all_eq_true] at h
    obtain ⟨⟨⟨hlocal, hlocalChars⟩, hdomainChars⟩, hpoint⟩ := h
    obtain ⟨host, top, hdomain, hhost, htop⟩ := mem_dropLast_drop_one.mp hpoint
    refine ⟨_, host, top, ?_, hlocal, hhost, htop, ?_⟩
    · rw [← dropWhile_eq_cons hdomain (by simp), List.takeWhile_append_dropWhile]
    · rw [hdomain] at hdomainChars
      intro s hs
      simp only [List.mem_cons, List.not_mem_nil, or_false] at hs
      rcases hs with rfl | rfl | rfl
      · exact hlocalChars
      · exact fun c hc ↦ hdomainChars c (List.mem_append_left _ hc)
      · exact fun c hc ↦ hdomainChars c (List.mem_append_right _ (List.mem_cons_of_mem _ hc))
  · rintro ⟨localPart, host, top, rfl, hlocal, hhost, htop, hchars⟩
    simp only [List.mem_cons, List.not_mem_nil, or_false, forall_eq_or_imp, forall_eq] at hchars
    obtain ⟨hlocalChars, hhostChars, htopChars⟩ := hchars
    have hat : '@' ∉ localPart := fun h ↦ absurd (hlocalChars _ h) (by decide)
    obtain ⟨htake, hdrop⟩ := takeWhile_append_cons hat (host ++ '.' :: top)
    simp only [isMailbox, htake, hdrop, List.drop_succ_cons, List.drop_zero, Bool.and_eq_true,
      decide_eq_true_iff, List.all_eq_true]
    refine ⟨⟨⟨hlocal, hlocalChars⟩, fun c hc ↦ ?_⟩, mem_dropLast_drop_one.mpr ⟨host, top, rfl, hhost, htop⟩⟩
    obtain hc | hc := List.mem_append.mp hc
    · exact hhostChars c hc
    · obtain rfl | hc := List.mem_cons.mp hc
      · rfl
      · exact htopChars c hc

/-- An address has neither white space nor angle brackets. -/
theorem char_of_isMailbox {email : List Char} (h : isMailbox email = true) {c : Char} (hc : c ∈ email) :
    Number.isSpace c = false ∧ c ≠ '<' ∧ c ≠ '>' := by
  obtain ⟨localPart, host, top, rfl, -, -, -, hchars⟩ := isMailbox_iff.mp h
  simp only [List.mem_cons, List.not_mem_nil, or_false, forall_eq_or_imp, forall_eq] at hchars
  obtain ⟨hlocal, hhost, htop⟩ := hchars
  have hone : addressChar c = true ∨ c = '@' ∨ c = '.' := by
    simp only [List.mem_append, List.mem_cons] at hc
    rcases hc with hc | rfl | hc | rfl | hc
    · exact Or.inl (hlocal c hc)
    · exact Or.inr (Or.inl rfl)
    · exact Or.inl (hhost c hc)
    · exact Or.inr (Or.inr rfl)
    · exact Or.inl (htop c hc)
  rcases hone with hc | rfl | rfl
  · simp only [addressChar, Bool.and_eq_true, Bool.not_eq_true', decide_eq_true_iff] at hc
    exact ⟨hc.1.1.1, hc.1.2, hc.2⟩
  · decide
  · decide

theorem oneLine_of_isMailbox {email : List Char} (h : isMailbox email = true) : OneLine email := by
  constructor
  · intro hcr
    exact absurd (char_of_isMailbox h hcr).1 (by decide)
  · intro hlf
    exact absurd (char_of_isMailbox h hlf).1 (by decide)

structure GmailSmtpTransport where
  address : List Char
  appPassword : List Char
  /-- The constructor has checked the address. -/
  checked : isMailbox address = true

variable (lowerCase) in
def GmailSmtpTransport.new (address appPassword : Option (List Char)) : Except String GmailSmtpTransport :=
  match h : mailbox lowerCase address "Gmail address" with
  | .error message => .error message
  | .ok email => do
    let appPassword ← singleLine appPassword "Gmail app password"
    return ⟨email, appPassword.filter (!Number.isSpace ·), isMailbox_of_mailbox h⟩

/-! ## The header -/

theorem oneLine_base64 (bytes : List UInt8) : OneLine (base64 bytes) :=
  OneLine.subset (by decide) (base64_subset bytes)

theorem oneLine_of_encodedHeader {value : Option (List Char)} {subject : List Char}
    (h : encodedHeader value = .ok subject) : OneLine subject := by
  unfold encodedHeader at h
  cases hline : singleLine value "subject" with
  | error message => rw [hline] at h; cases h
  | ok s =>
    rw [hline] at h
    cases h
    simp only [oneLine_append]
    exact ⟨⟨by decide, oneLine_base64 _⟩, by decide⟩

theorem oneLine_padded (width n : ℕ) : OneLine (Date.padded width n).toList := by
  constructor
  · intro h
    exact absurd (Date.isDigit_of_mem_padded h) (by decide)
  · intro h
    exact absurd (Date.isDigit_of_mem_padded h) (by decide)

/-- A name from a list, or none. -/
theorem oneLine_getD {names : List String} (h : ∀ name ∈ names, OneLine name.toList) (i : ℕ) :
    OneLine (names.getD i "").toList := by
  rw [List.getD_eq_getElem?_getD]
  cases hname : names[i]? with
  | none => exact (by decide : OneLine "".toList)
  | some name => exact h name (List.mem_of_getElem? hname)

theorem oneLine_toUTCString (d : Date) : OneLine d.toUTCString.toList := by
  have hweekday : ∀ i, OneLine (Date.weekdays.getD i "").toList := oneLine_getD (by decide)
  have hmonth : ∀ i, OneLine (Date.months.getD i "").toList := oneLine_getD (by decide)
  simp only [Date.toUTCString, String.toList_append, oneLine_append, oneLine_padded, hweekday, hmonth, and_true,
    true_and]
  decide

theorem oneLine_uuid (id : Uuid) : OneLine id.text := by
  have hdigit : ∀ d : Fin 16, Nat.digitChar d ≠ '\r' ∧ Nat.digitChar d ≠ '\n' := by decide
  have hchar : ∀ c ∈ id.text, c = '-' ∨ ∃ d : Fin 16, c = Nat.digitChar d := by
    intro c hc
    obtain ⟨piece, hpiece, hc⟩ := List.mem_flatten.mp hc
    obtain ⟨i, rfl⟩ := List.mem_ofFn.mp hpiece
    dsimp only at hc
    split at hc
    · simp only [List.mem_cons, List.not_mem_nil, or_false] at hc
      exact hc.imp_right fun hc ↦ ⟨_, hc⟩
    · exact Or.inr ⟨_, List.mem_singleton.mp hc⟩
  constructor
  · intro h
    obtain h | ⟨d, h⟩ := hchar _ h
    · exact absurd h (by decide)
    · exact (hdigit d).1 h.symm
  · intro h
    obtain h | ⟨d, h⟩ := hchar _ h
    · exact absurd h (by decide)
    · exact (hdigit d).2 h.symm

section Headers

variable {address recipient subject : List Char} (now : Date) (id : Uuid)

/-- No field of the header has a line end in it. -/
theorem oneLine_headers (haddress : OneLine address) (hrecipient : OneLine recipient)
    (hsubject : OneLine subject) :
    ∀ line ∈ headers address recipient subject now id, OneLine line := by
  have hdate := oneLine_toUTCString now
  have hid := oneLine_uuid id
  simp only [headers, fields, List.map_cons, List.map_nil, headerLine, List.mem_cons, List.not_mem_nil, or_false,
    forall_eq_or_imp, forall_eq, oneLine_append, haddress, hrecipient, hsubject, hdate, hid, and_true]
  decide

def headerNames : List String :=
  ["From", "To", "Subject", "Date", "Message-ID", "MIME-Version", "Content-Type", "Content-Transfer-Encoding",
    "Auto-Submitted"]

/-- The name of a field is what comes before its first colon. -/
theorem names_headers :
    (headers address recipient subject now id).map (fun line ↦ (utf8 line).takeWhile (· ≠ 58)) =
      headerNames.map fun name ↦ utf8 name.toList := by
  have hnames : ∀ name ∈ headerNames, ':' ∉ name.toList := by decide
  calc
    (headers address recipient subject now id).map (fun line ↦ (utf8 line).takeWhile (· ≠ 58)) =
        (fields address recipient subject now id).map (fun field ↦ utf8 field.1.toList) := by
      rw [headers, List.map_map]
      refine List.map_congr_left fun field hfield ↦ ?_
      have hname : field.1 ∈ headerNames := List.mem_map_of_mem (f := Prod.fst) hfield
      have hline : headerLine field = field.1.toList ++ ':' :: ' ' :: field.2 := by simp [headerLine]
      rw [Function.comp_apply, hline]
      exact takeWhile_utf8 (by decide) rfl (hnames _ hname) _
    _ = headerNames.map fun name ↦ utf8 name.toList := rfl

/-- A field of the header begins with its name. -/
theorem head?_headers :
    ∀ line ∈ headers address recipient subject now id, line ≠ [] ∧ line.head? ≠ some '.' := by
  have hnames : ∀ name ∈ headerNames, name.toList ≠ [] ∧ name.toList.head? ≠ some '.' := by decide
  intro line hline
  obtain ⟨field, hfield, rfl⟩ := List.mem_map.mp hline
  have hname : field.1 ∈ headerNames := List.mem_map_of_mem (f := Prod.fst) hfield
  obtain ⟨hne, hhead⟩ := hnames _ hname
  rw [headerLine, List.append_assoc, List.head?_append_of_ne_nil _ hne]
  exact ⟨List.append_ne_nil_of_left_ne_nil hne _, hhead⟩

end Headers

/-! ## What a receiver reads -/

theorem transmission_intercalate (header : List (List Char)) (text : List Char) :
    transmission (List.intercalate crlf.mark
      (header ++ [[], List.intercalate crlf.mark ((crlf.split text).map (stuff '.'))])) =
      crlf.join (header ++ [] :: (crlf.split text).map (stuff '.') ++ [['.']]) [] := by
  let init := (crlf.cut text).1.map (stuff '.')
  let last := stuff '.' (crlf.cut text).2
  have hsplit : (crlf.split text).map (stuff '.') = init ++ [last] := by
    rw [LineEnd.split, List.map_append, List.map_singleton]
  have hend : last ++ "\r\n.\r\n".toList = crlf.join [last, ['.']] [] := by
    simp [LineEnd.join, LineEnd.mark, crlf]
  rw [hsplit, LineEnd.intercalate_mark]
  calc
    transmission (List.intercalate crlf.mark (header ++ [[], crlf.join init last])) =
        transmission (crlf.join (header ++ [[]]) (crlf.join init last)) := by
      rw [← LineEnd.intercalate_mark (header ++ [[]]), List.append_assoc, List.singleton_append]
    _ = crlf.join (header ++ [[]]) (crlf.join init (last ++ "\r\n.\r\n".toList)) := by
      rw [transmission, LineEnd.join_append_right, LineEnd.join_append_right]
    _ = crlf.join (header ++ [] :: (init ++ [last]) ++ [['.']]) [] := by
      rw [hend, ← LineEnd.join_append, ← LineEnd.join_append]
      simp

/-- The lines of a message and of the point behind it. -/
theorem transmission_of_smtpMessage {payload : Payload} {address message : List Char} {now : Date} {id : Uuid}
    (h : smtpMessage lowerCase payload address now id = .ok message) :
    ∃ recipient subject, mailbox lowerCase payload.recipient "recipient" = .ok recipient ∧
      encodedHeader payload.subject = .ok subject ∧
      transmission message = crlf.join (headers address recipient subject now id ++
        [] :: (crlf.split (normalizeLines (payload.text.getD []))).map (stuff '.') ++ [['.']]) [] := by
  unfold smtpMessage at h
  cases hrecipient : mailbox lowerCase payload.recipient "recipient" with
  | error message => rw [hrecipient] at h; cases h
  | ok recipient =>
    cases hsubject : encodedHeader payload.subject with
    | error message => rw [hrecipient, hsubject] at h; cases h
    | ok subject =>
      rw [hrecipient, hsubject] at h
      cases h
      exact ⟨recipient, subject, rfl, rfl, transmission_intercalate _ _⟩

/-- No line of a message breaks in two. -/
theorem unbroken_transmission {header body : List (List Char)} (hheader : ∀ line ∈ header, OneLine line)
    (hbody : ∀ l ∈ body, crlf.Unbroken l) :
    ∀ l ∈ header ++ [] :: body.map (stuff '.') ++ [['.']], crlf.Unbroken l := by
  intro l hl
  simp only [List.mem_append, List.mem_cons, List.mem_map, List.not_mem_nil, or_false] at hl
  rcases hl with (hl | rfl | ⟨l, hl, rfl⟩) | rfl
  · exact (hheader l hl).unbroken
  · exact LineEnd.unbroken_nil
  · exact (hbody l hl).stuff (by decide)
  · exact LineEnd.unbroken_singleton '.'

/-- A receiver finds the end of a message where it is, and its lines as they were. -/
theorem receive_transmission {header : List (List Char)} (body : List (List Char))
    (hheader : ∀ line ∈ header, line.head? ≠ some '.') :
    receive dot ((header ++ [] :: body.map (stuff '.') ++ [['.']]).map utf8) =
      some (header.map utf8 ++ [] :: body.map utf8, []) := by
  have hstuff : ∀ l, utf8 (stuff '.' l) = stuff dot (utf8 l) := utf8_stuff (by decide) rfl
  have hstuffed : (header ++ [] :: body.map (stuff '.') ++ [['.']]).map utf8 =
      (header.map utf8 ++ [] :: body.map utf8).map (stuff dot) ++ [dot] :: [] := by
    have hfirst : (header.map utf8).map (stuff dot) = header.map utf8 := by
      rw [List.map_map]
      refine List.map_congr_left fun line hline ↦ ?_
      rw [Function.comp_apply, ← hstuff, stuff_of_head?_ne (hheader line hline)]
    have hrest : (body.map (stuff '.')).map utf8 = (body.map utf8).map (stuff dot) := by
      rw [List.map_map, List.map_map]
      exact List.map_congr_left fun l _ ↦ hstuff l
    calc
      (header ++ [] :: body.map (stuff '.') ++ [['.']]).map utf8 =
          header.map utf8 ++ [] :: (body.map (stuff '.')).map utf8 ++ [[dot]] := by
        simp only [List.map_append, List.map_cons]
        rfl
      _ = (header.map utf8 ++ [] :: body.map utf8).map (stuff dot) ++ [[dot]] := by
        rw [List.map_append, List.map_cons, hfirst, hrest]
        rfl
  rw [hstuffed, receive_stuffed]

/-- Lines may be encoded one by one. -/
theorem cut_utf8_join {ls : List (List Char)} (h : ∀ l ∈ ls, crlf.Unbroken l) :
    crlfBytes.cut (utf8 (crlf.join ls [])) = (ls.map utf8, []) := by
  rw [utf8, utf8_crlf.cut_flatMap, LineEnd.cut_join h LineEnd.unbroken_nil]
  rfl

theorem OneLine.utf8 {s : List Char} (h : OneLine s) : 13 ∉ utf8 s ∧ 10 ∉ utf8 s := by
  have hcr : '\r'.toNat = (13 : UInt8).toNat := by decide
  have hlf : '\n'.toNat = (10 : UInt8).toNat := by decide
  exact ⟨fun hmem ↦ h.1 (mem_of_mem_utf8 (by decide) hcr hmem),
    fun hmem ↦ h.2 (mem_of_mem_utf8 (by decide) hlf hmem)⟩

/-- A receiver that cuts what is written after `DATA` at line ends, up to the line that is a point, and takes one
leading point away from each line, finds that line at the very end. It reads the nine fields of the header, an
empty line and the text with each line feed, and each carriage return and line feed, replaced by both. No value
adds a line to the header, and the command with the recipient is one line. -/
theorem message_received (lowerCase : List Char → List Char) (transport : GmailSmtpTransport) (payload : Payload)
    (now : Date) (id : Uuid) (message : List Char)
    (h : smtpMessage lowerCase payload transport.address now id = .ok message) :
    ∃ recipient subject, mailbox lowerCase payload.recipient "recipient" = .ok recipient ∧
      encodedHeader payload.subject = .ok subject ∧
      (∃ lines body, crlfBytes.cut (utf8 (transmission message)) = (lines, []) ∧
        receive dot lines =
          some ((headers transport.address recipient subject now id).map utf8 ++ [] :: body, []) ∧
        List.intercalate crlfBytes.mark body = utf8 (normalizeLines (payload.text.getD []))) ∧
      ((headers transport.address recipient subject now id).map utf8).map (·.takeWhile (· ≠ 58)) =
        headerNames.map (fun name ↦ utf8 name.toList) ∧
      (∀ line ∈ (headers transport.address recipient subject now id).map utf8,
        line ≠ [] ∧ 13 ∉ line ∧ 10 ∉ line) ∧
      (∀ c ∈ recipient, Number.isSpace c = false ∧ c ≠ '<' ∧ c ≠ '>') ∧
      crlfBytes.cut (utf8 (commandLine (rcptTo recipient))) = ([utf8 (rcptTo recipient)], []) ∧
      13 ∉ utf8 (rcptTo recipient) ∧ 10 ∉ utf8 (rcptTo recipient) := by
  obtain ⟨recipient, subject, hrecipient, hsubject, hmessage⟩ := transmission_of_smtpMessage h
  have hmailbox := isMailbox_of_mailbox hrecipient
  have haddress := oneLine_of_isMailbox transport.checked
  have hheaders := oneLine_headers now id haddress (oneLine_of_isMailbox hmailbox)
    (oneLine_of_encodedHeader hsubject)
  have hrcpt : OneLine (rcptTo recipient) :=
    oneLine_append.mpr ⟨oneLine_append.mpr ⟨by decide, oneLine_of_isMailbox hmailbox⟩, by decide⟩
  have hpoint : ∀ line ∈ headers transport.address recipient subject now id, line.head? ≠ some '.' :=
    fun line hline ↦ (head?_headers now id line hline).2
  refine ⟨recipient, subject, hrecipient, hsubject, ?_, ?_, ?_, fun c hc ↦ char_of_isMailbox hmailbox hc, ?_, ?_⟩
  · let body := crlf.split (normalizeLines (payload.text.getD []))
    have hbody : ∀ l ∈ body, crlf.Unbroken l := fun l hl ↦ LineEnd.unbroken_split hl
    have htext :
        List.intercalate crlfBytes.mark (body.map utf8) = utf8 (normalizeLines (payload.text.getD [])) :=
      utf8_crlf.intercalate_split _
    have hreceive := receive_transmission body hpoint
    have hcut := cut_utf8_join (unbroken_transmission hheaders hbody)
    rw [← hmessage] at hcut
    exact ⟨_, body.map utf8, hcut, hreceive, htext⟩
  · rw [List.map_map]
    exact names_headers now id
  · intro line hline
    obtain ⟨line, hmem, rfl⟩ := List.mem_map.mp hline
    refine ⟨fun hnil ↦ ?_, (hheaders line hmem).utf8⟩
    exact (head?_headers now id line hmem).1 (utf8_eq_nil.mp hnil)
  · have hline : commandLine (rcptTo recipient) = crlf.join [rcptTo recipient] [] := by
      simp [commandLine, LineEnd.join, LineEnd.mark, crlf]
    rw [hline]
    refine cut_utf8_join fun l hl ↦ ?_
    rw [List.mem_singleton.mp hl]
    exact hrcpt.unbroken
  · exact hrcpt.utf8

theorem message_received_point :
    let transport : GmailSmtpTransport := ⟨"platform@example.org".toList, "secret".toList, by decide⟩
    let payload : Payload := ⟨some " fan@example.org".toList, some "ü".toList, some ".\n\r".toList, []⟩
    ∃ message lines header body, smtpMessage id payload transport.address ⟨0, by decide⟩ ⟨fun _ ↦ 0⟩ = .ok message ∧
      crlfBytes.cut (utf8 (transmission message)) = (lines, []) ∧
      receive dot lines = some (header ++ [] :: body, []) ∧
      List.intercalate crlfBytes.mark body = utf8 ".\r\n\r".toList := by
  intro transport payload
  obtain ⟨message, hmessage⟩ : ∃ message,
      smtpMessage id payload transport.address ⟨0, by decide⟩ ⟨fun _ ↦ 0⟩ = .ok message := ⟨_, rfl⟩
  obtain ⟨_, _, -, -, ⟨lines, body, hcut, hreceive, htext⟩, -⟩ :=
    message_received id transport payload ⟨0, by decide⟩ ⟨fun _ ↦ 0⟩ message hmessage
  exact ⟨message, lines, _, body, hmessage, hcut, hreceive, htext⟩

end CreatorFirst.Mail
