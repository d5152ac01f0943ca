import CreatorFirst.Mail.Message

/-!
# Sending a message

One call of `send`: a first attempt over implicit TLS and, unless the server has rejected an operation, a second
one over STARTTLS. The sockets, the server and the scheduler of the script act in any order; a message is accepted
when the server has taken it, whether or not its reply arrives.
-/

namespace CreatorFirst.Mail

open Process Script Text

inductive Connection where
  | implicitTls
  | startTls
  deriving DecidableEq

/-- What a call of `send` has at hand. -/
structure Call where
  lowerCase : List Char → List Char
  transport : GmailSmtpTransport
  payload : Payload
  now : Connection → Date
  id : Connection → Uuid

/-! ## The exchanges with the server -/

inductive Stage where
  | greeting
  | ehlo
  | startTls
  | handshake
  | authPlain
  | mailFrom
  | rcptTo
  | data
  | message
  | quit
  deriving DecidableEq

namespace Stage

def authenticateAndSend : List Stage := [ehlo, authPlain, mailFrom, rcptTo, data, message, quit]

def sendImplicitTls : List Stage := greeting :: authenticateAndSend

def sendStartTls : List Stage := greeting :: ehlo :: startTls :: handshake :: authenticateAndSend

def expectedCodes : Stage → List ℕ
  | greeting | startTls => [220]
  | ehlo | mailFrom | message => [250]
  | authPlain => [235]
  | rcptTo => [250, 251]
  | data => [354]
  | quit => [221]
  | handshake => []

end Stage

def Connection.stages : Connection → List Stage
  | .implicitTls => Stage.sendImplicitTls
  | .startTls => Stage.sendStartTls

/-- What is written before a reply is read; an invalid value throws. -/
def Call.request (call : Call) (c : Connection) : Stage → Except String (List Char)
  | .greeting | .handshake => .ok []
  | .ehlo => .ok (commandLine "EHLO creator-first-platform".toList)
  | .startTls => .ok (commandLine "STARTTLS".toList)
  | .authPlain =>
    let auth := '\x00' :: call.transport.address ++ '\x00' :: call.transport.appPassword
    .ok (commandLine ("AUTH PLAIN ".toList ++ base64 (utf8 auth)))
  | .mailFrom => .ok (commandLine ("MAIL FROM:<".toList ++ call.transport.address ++ ">".toList))
  | .rcptTo =>
    (mailbox call.lowerCase call.payload.recipient "recipient").map fun recipient ↦ commandLine (rcptTo recipient)
  | .data => .ok (commandLine "DATA".toList)
  | .message =>
    (smtpMessage call.lowerCase call.payload call.transport.address (call.now c) (call.id c)).map transmission
  | .quit => .ok (commandLine "QUIT".toList)

/-! ## One connection -/

structure Attempt where
  /-- What is left to do, from the exchange that is under way. -/
  stages : List Stage
  session : Session
  /-- The code of the reply that is being read. -/
  code : Option ℕ
  /-- What the promise of `secure` is settled with. -/
  secured : Option (Except String Unit)
  written : List Char
  /-- The message has been written up to its end. -/
  transmitted : Bool
  /-- The server has accepted the message. -/
  accepted : Bool
  outcome : Option (Except String Unit)

inductive SocketEvent where
  | data (chunk : List Char)
  | error (message : String)
  | timeout
  | close
  | secureConnect

namespace Attempt

variable (call : Call) (c : Connection) (a : Attempt)

/-- An exchange begins: what it writes is written, and the first line of the reply is asked for. -/
def enter : List Stage → Attempt
  | [] => { a with stages := [], outcome := some (.ok ()) }
  | .handshake :: rest => { a with stages := .handshake :: rest, secured := none }
  | stage :: rest =>
    match call.request c stage with
    | .error message => { a with outcome := some (.error message) }
    | .ok text =>
      { a with
        stages := stage :: rest
        session := a.session.line
        code := none
        written := a.written ++ text
        transmitted := a.transmitted || stage = Stage.message }

def start : Attempt :=
  enter call c ⟨[], Session.start, none, none, [], false, false, none⟩ c.stages

/-- The listeners of `secure` settle its promise once; those of a session are at work at other times. -/
def socket (e : SocketEvent) : Attempt :=
  if a.outcome.isSome then a
  else if a.stages.head? = some .handshake then
    match e with
    | .secureConnect => { a with secured := a.secured.or (some (.ok ())) }
    | .error message => { a with secured := a.secured.or (some (.error message)) }
    | .timeout => { a with secured := a.secured.or (some (.error "Gmail SMTP connection timed out")) }
    | .data _ | .close => a
  else
    match e with
    | .data chunk => { a with session := a.session.step (.data chunk) }
    | .error message => { a with session := a.session.step (.error message) }
    | .timeout => { a with session := a.session.step .timeout }
    | .close => { a with session := a.session.step .close }
    | .secureConnect => a

def fail (message : String) : Attempt := { a with outcome := some (.error message) }

/-- The loop of `reply` goes on with a line. -/
def read (stage : Stage) (rest : List Stage) (line : List Char) : Attempt :=
  match hear stage.expectedCodes a.code line with
  | .more code => { a with code := some code, session := a.session.line }
  | .complete _ => { a with accepted := a.accepted || stage = Stage.message }.enter call c rest
  | .failed message => a.fail message

/-- The script goes on if what it awaits has been settled. -/
def resume : Attempt :=
  if a.outcome.isSome then a
  else
    match a.stages with
    | [] => a
    | .handshake :: rest =>
      match a.secured with
      | none => a
      | some (.error message) => a.fail message
      | some (.ok ()) => { a with session := Session.start }.enter call c rest
    | stage :: rest =>
      match a.session.calls.getLast? with
      | some (some (.ok line)) => a.read call c stage rest line
      | some (some (.error message)) => a.fail message
      | _ => a

/-- The server takes a message that it has got. -/
def accept : Attempt := if a.transmitted then { a with accepted := true } else a

def failed : Bool :=
  match a.outcome with
  | some (.error _) => true
  | _ => false

end Attempt

/-! ## One call -/

structure Delivery where
  mode : String
  deliveryId : List Char

structure Send where
  implicitTls : Attempt
  startTls : Option Attempt

namespace Send

inductive Action where
  | socket (c : Connection) (e : SocketEvent)
  | resume (c : Connection)
  | accept (c : Connection)

/-- `/rejected the operation/.test(message)` -/
def rejected (message : String) : Bool := "rejected the operation".toList <:+: message.toList

variable (call : Call) (s : Send)

def start : Send := ⟨.start call .implicitTls, none⟩

def update (f : Attempt → Attempt) : Connection → Send
  | .implicitTls => { s with implicitTls := f s.implicitTls }
  | .startTls => { s with startTls := s.startTls.map f }

/-- The `catch` block. -/
def follow : Send :=
  match s.startTls, s.implicitTls.outcome with
  | none, some (.error message) =>
    if rejected message then s else { s with startTls := some (.start call .startTls) }
  | _, _ => s

def step : Action → Send
  | .socket c e => s.update (·.socket e) c
  | .resume c => (s.update (·.resume call c) c).follow call
  | .accept c => s.update Attempt.accept c

/-- What the promise of `send` is settled with. -/
def outcome : Option (Except String Delivery) :=
  match s.implicitTls.outcome, s.startTls with
  | none, _ => none
  | some (.ok ()), _ => some (.ok ⟨"gmail-smtp", call.payload.deliveryId⟩)
  | some (.error message), none => some (.error message)
  | some (.error _), some a => a.outcome.map fun r ↦ r.map fun _ ↦ ⟨"gmail-smtp", call.payload.deliveryId⟩

def attempts : List Attempt := s.implicitTls :: s.startTls.toList

/-- The number of messages that the server has accepted. -/
def accepted : ℕ := s.attempts.countP (·.accepted)

/-- At most one message is accepted, and none if the call fails. -/
def OneDelivery : Prop :=
  s.accepted ≤ 1 ∧ ∀ message, s.outcome call = some (.error message) → s.accepted = 0

end Send

/-! ## What one connection keeps -/

theorem Connection.tail_of_message {c : Connection} {rest : List Stage} (h : .message :: rest <:+ c.stages) :
    rest = [.quit] := by
  have htails : ∀ l ∈ c.stages.tails, l.head? = some .message → l.tail = [.quit] := by cases c <;> decide
  exact htails _ ((List.mem_tails _ _).mpr h) rfl

theorem Connection.message_mem_of_handshake {c : Connection} {rest : List Stage}
    (h : .handshake :: rest <:+ c.stages) : .message ∈ rest := by
  have htails : ∀ l ∈ c.stages.tails, l.head? = some .handshake → .message ∈ l.tail := by cases c <;> decide
  exact htails _ ((List.mem_tails _ _).mpr h) rfl

theorem Connection.of_message_notMem {c : Connection} {rest : List Stage} (h : rest <:+ c.stages)
    (hrest : .message ∉ rest) : rest = [] ∨ rest = [.quit] := by
  have htails : ∀ l ∈ c.stages.tails, .message ∉ l → l = [] ∨ l = [.quit] := by cases c <;> decide
  exact htails _ ((List.mem_tails _ _).mpr h) hrest

namespace Attempt

variable {call : Call} {c : Connection} {a : Attempt}

/-- A message is accepted only after it has been written, and has been accepted when its exchange is over. -/
structure Sound (a : Attempt) : Prop where
  path : ∃ c : Connection, a.stages <:+ c.stages
  transmitted_of_message : a.stages.head? = some .message → a.transmitted = true
  transmitted_of_accepted : a.accepted = true → a.transmitted = true
  message_notMem : a.transmitted = true → .message ∉ a.stages.tail
  accepted_of_past : .message ∉ a.stages → a.accepted = true
  stages_of_ok : a.outcome = some (.ok ()) → a.stages = []
  running : a.outcome = none → a.stages ≠ []

/-- The attempt has failed although the server has accepted its message. -/
def Wasted (a : Attempt) : Prop := a.accepted = true ∧ a.failed = true

theorem start_eq (call : Call) (c : Connection) :
    start call c = ⟨c.stages, Session.start.line, none, none, [], false, false, none⟩ := by
  cases c <;> rfl

theorem sound_start (call : Call) (c : Connection) : (start call c).Sound := by
  rw [start_eq]
  constructor
  · exact ⟨c, List.suffix_rfl⟩
  · cases c <;> decide
  · exact nofun
  · exact nofun
  · cases c <;> decide
  · exact nofun
  · cases c <;> exact nofun

theorem Sound.accepted_of_ok (h : a.Sound) (hok : a.outcome = some (.ok ())) : a.accepted = true := by
  apply h.accepted_of_past
  rw [h.stages_of_ok hok]
  exact List.not_mem_nil

theorem Sound.congr {a' : Attempt} (h : a.Sound) (hstages : a'.stages = a.stages)
    (htransmitted : a'.transmitted = a.transmitted) (haccepted : a'.accepted = a.accepted)
    (houtcome : a'.outcome = a.outcome ∨ ∃ message, a'.outcome = some (.error message)) : a'.Sound where
  path := hstages ▸ h.path
  transmitted_of_message := by rw [hstages, htransmitted]; exact h.transmitted_of_message
  transmitted_of_accepted := by rw [haccepted, htransmitted]; exact h.transmitted_of_accepted
  message_notMem := by rw [hstages, htransmitted]; exact h.message_notMem
  accepted_of_past := by rw [hstages, haccepted]; exact h.accepted_of_past
  stages_of_ok hok := by
    obtain hsame | ⟨message, herror⟩ := houtcome
    · exact hstages.trans (h.stages_of_ok (hsame.symm.trans hok))
    · cases herror.symm.trans hok
  running hnone := by
    obtain hsame | ⟨message, herror⟩ := houtcome
    · exact hstages ▸ h.running (hsame.symm.trans hnone)
    · cases herror.symm.trans hnone

theorem socket_cases (e : SocketEvent) :
    (a.socket e).stages = a.stages ∧ (a.socket e).transmitted = a.transmitted ∧
      (a.socket e).accepted = a.accepted ∧ (a.socket e).outcome = a.outcome := by
  unfold socket
  split
  · exact ⟨rfl, rfl, rfl, rfl⟩
  · split <;> cases e <;> exact ⟨rfl, rfl, rfl, rfl⟩

theorem Sound.socket (h : a.Sound) (e : SocketEvent) : (a.socket e).Sound := by
  obtain ⟨hstages, htransmitted, haccepted, houtcome⟩ := socket_cases (a := a) e
  exact h.congr hstages htransmitted haccepted (.inl houtcome)

theorem wasted_socket (e : SocketEvent) : (a.socket e).Wasted ↔ a.Wasted := by
  obtain ⟨-, -, haccepted, houtcome⟩ := socket_cases (a := a) e
  rw [Wasted, Wasted, failed, failed, haccepted, houtcome]

theorem Sound.fail (h : a.Sound) (message : String) : (a.fail message).Sound :=
  h.congr rfl rfl rfl (.inr ⟨message, rfl⟩)

theorem Sound.accept (h : a.Sound) : a.accept.Sound := by
  unfold Attempt.accept
  split
  · next htransmitted =>
    exact {
      path := h.path
      transmitted_of_message := h.transmitted_of_message
      transmitted_of_accepted := fun _ ↦ htransmitted
      message_notMem := h.message_notMem
      accepted_of_past := fun _ ↦ rfl
      stages_of_ok := h.stages_of_ok
      running := h.running }
  · exact h

theorem wasted_accept (hclean : ¬a.Wasted) : ¬a.accept.Wasted ↔ (a.transmitted = true → a.failed = false) := by
  unfold Attempt.accept
  split
  · next htransmitted => simp [Wasted, htransmitted, failed]
  · next htransmitted => simp [hclean, htransmitted]

/-- An exchange that is over, with the next one not begun. -/
structure Done (a : Attempt) (stage : Stage) (rest : List Stage) : Prop where
  sound : a.Sound
  stages : a.stages = stage :: rest
  accepted : stage = .message → a.accepted = true
  running : a.outcome = none

variable {stage : Stage} {rest : List Stage}

theorem Done.accepted_of_past (h : a.Done stage rest) (hrest : .message ∉ rest) : a.accepted = true := by
  by_cases hstage : stage = .message
  · exact h.accepted hstage
  · apply h.sound.accepted_of_past
    rw [h.stages, List.mem_cons, not_or]
    exact ⟨Ne.symm hstage, hrest⟩

theorem Done.path (h : a.Done stage rest) : ∃ c : Connection, stage :: rest <:+ c.stages := by
  obtain ⟨c, hpath⟩ := h.sound.path
  exact ⟨c, h.stages ▸ hpath⟩

/-- Once the message is written it does not come again. -/
theorem Done.message_notMem (h : a.Done stage rest) (htransmitted : a.transmitted = true) :
    .message ∉ rest := by
  have htail := h.sound.message_notMem htransmitted
  rwa [h.stages] at htail

theorem Done.sound_enter (h : a.Done stage rest) : (a.enter call c rest).Sound := by
  obtain ⟨d, hpath⟩ := h.path
  have hrest : rest <:+ d.stages := (List.suffix_cons stage rest).trans hpath
  unfold enter
  split
  · exact {
      path := ⟨d, hrest⟩
      transmitted_of_message := nofun
      transmitted_of_accepted := h.sound.transmitted_of_accepted
      message_notMem := fun _ ↦ List.not_mem_nil
      accepted_of_past := h.accepted_of_past
      stages_of_ok := fun _ ↦ rfl
      running := nofun }
  · next rest =>
    exact {
      path := ⟨d, hrest⟩
      transmitted_of_message := nofun
      transmitted_of_accepted := h.sound.transmitted_of_accepted
      message_notMem := fun htransmitted hmem ↦
        h.message_notMem htransmitted (List.mem_cons_of_mem _ hmem)
      accepted_of_past := h.accepted_of_past
      stages_of_ok := fun hok ↦ absurd (h.running.symm.trans hok) nofun
      running := fun _ ↦ List.cons_ne_nil _ _ }
  · next next rest _ =>
    split
    · exact h.sound.fail _
    · exact {
        path := ⟨d, hrest⟩
        transmitted_of_message := fun hmessage ↦ by
          rw [Option.some_inj.mp hmessage]
          exact Bool.or_true _
        transmitted_of_accepted := fun haccepted ↦ by
          rw [h.sound.transmitted_of_accepted haccepted]
          rfl
        message_notMem := fun htransmitted ↦ by
          rw [Bool.or_eq_true, decide_eq_true_iff] at htransmitted
          obtain hearlier | rfl := htransmitted
          · exact fun hmem ↦ h.message_notMem hearlier (List.mem_cons_of_mem _ hmem)
          · rw [List.tail_cons, Connection.tail_of_message hrest]
            decide
        accepted_of_past := h.accepted_of_past
        stages_of_ok := fun hok ↦ absurd (h.running.symm.trans hok) nofun
        running := fun _ ↦ List.cons_ne_nil _ _ }

/-- After the message there is nothing left that could throw. -/
theorem Done.failed_enter (call : Call) (c : Connection) (h : a.Done stage rest)
    (haccepted : a.accepted = true) :
    (a.enter call c rest).failed = false := by
  obtain ⟨d, hpath⟩ := h.path
  have hrest : rest <:+ d.stages := (List.suffix_cons stage rest).trans hpath
  have hnone := h.message_notMem (h.sound.transmitted_of_accepted haccepted)
  obtain rfl | rfl := Connection.of_message_notMem hrest hnone
  · rfl
  · simp [enter, Call.request, failed, h.running]

theorem accepted_enter (rest : List Stage) : (a.enter call c rest).accepted = a.accepted := by
  unfold enter
  split
  · rfl
  · rfl
  · split <;> rfl

/-! ## Replies to one attempt -/

/-- A reply that is accepted ends its exchange. -/
theorem Sound.done (h : a.Sound) (hstages : a.stages = stage :: rest) (hrunning : a.outcome = none) :
    { a with accepted := a.accepted || stage = Stage.message : Attempt }.Done stage rest where
  sound := {
    path := h.path
    transmitted_of_message := h.transmitted_of_message
    transmitted_of_accepted := fun haccepted ↦ by
      rw [Bool.or_eq_true, decide_eq_true_iff] at haccepted
      obtain hearlier | rfl := haccepted
      · exact h.transmitted_of_accepted hearlier
      · exact h.transmitted_of_message (by rw [hstages]; rfl)
    message_notMem := h.message_notMem
    accepted_of_past := fun hpast ↦ by
      rw [h.accepted_of_past hpast]
      rfl
    stages_of_ok := h.stages_of_ok
    running := h.running }
  stages := hstages
  accepted hstage := by simp [hstage]
  running := hrunning

theorem Sound.read (h : a.Sound) (hstages : a.stages = stage :: rest) (hrunning : a.outcome = none)
    (line : List Char) : (a.read call c stage rest line).Sound := by
  unfold Attempt.read
  split
  · exact h.congr rfl rfl rfl (.inl rfl)
  · exact (h.done hstages hrunning).sound_enter
  · exact h.fail _

/-- An attempt is wasted by the lines that its reply refuses. -/
theorem Sound.wasted_read (h : a.Sound) (hstages : a.stages = stage :: rest) (hrunning : a.outcome = none)
    (line : List Char) : ¬(a.read call c stage rest line).Wasted ↔
      (a.accepted = true → ∀ message, hear stage.expectedCodes a.code line ≠ .failed message) := by
  unfold Attempt.read
  split
  · next hheard => simp [Wasted, failed, hrunning, hheard]
  · next hheard =>
    refine iff_of_true (fun hwasted ↦ ?_) fun _ message ↦ by simp [hheard]
    have haccepted := hwasted.1
    rw [accepted_enter] at haccepted
    have hfailed := (h.done hstages hrunning).failed_enter call c haccepted
    rw [hwasted.2] at hfailed
    cases hfailed
  · next message hheard =>
    have hfailed : (a.fail message).failed = true := rfl
    have haccepted : (a.fail message).accepted = a.accepted := rfl
    simp [Wasted, hfailed, haccepted, hheard]

/-- What the script goes on with is a line that the reply takes. -/
def takes (a : Attempt) : Prop :=
  ∀ answer, a.session.calls.getLast? = some (some answer) → ∃ line, answer = .ok line ∧
    ∀ stage ∈ a.stages.head?, ∀ message, hear stage.expectedCodes a.code line ≠ .failed message

theorem Sound.done_handshake (h : a.Sound) (hstages : a.stages = .handshake :: rest)
    (hrunning : a.outcome = none) :
    { a with session := Session.start : Attempt }.Done .handshake rest where
  sound := h.congr rfl rfl rfl (.inl rfl)
  stages := hstages
  accepted := nofun
  running := hrunning

/-- The message comes after the handshake. -/
theorem Sound.not_accepted_of_handshake (h : a.Sound) (hstages : a.stages = .handshake :: rest) :
    a.accepted ≠ true := by
  intro haccepted
  obtain ⟨d, hpath⟩ := h.path
  have hnone := h.message_notMem (h.transmitted_of_accepted haccepted)
  rw [hstages] at hpath hnone
  exact hnone (Connection.message_mem_of_handshake hpath)

theorem Sound.resume (h : a.Sound) : (a.resume call c).Sound := by
  unfold Attempt.resume
  split
  · exact h
  · next hrunning =>
    rw [Option.not_isSome_iff_eq_none] at hrunning
    split
    · exact h
    · next rest hstages =>
      split
      · exact h
      · exact h.fail _
      · exact (h.done_handshake hstages hrunning).sound_enter
    · next stage rest _ hstages =>
      split
      · exact h.read hstages hrunning _
      · exact h.fail _
      · exact h

/-- An attempt is wasted where the script goes on, after the server has accepted the message, with something else
than a line that the reply takes. -/
theorem Sound.wasted_resume (h : a.Sound) (hclean : ¬a.Wasted) :
    ¬(a.resume call c).Wasted ↔ (a.outcome = none → a.accepted = true → a.takes) := by
  unfold Attempt.resume
  split
  · next hsettled =>
    refine iff_of_true hclean fun hrunning ↦ ?_
    rw [hrunning] at hsettled
    cases hsettled
  · next hrunning =>
    rw [Option.not_isSome_iff_eq_none] at hrunning
    have hwasted_fail : ∀ message, ¬(a.fail message).Wasted ↔ a.accepted ≠ true := by
      intro message
      exact not_congr (and_iff_left rfl)
    split
    · next hstages => exact absurd hstages (h.running hrunning)
    · next rest hstages =>
      have hnone := h.not_accepted_of_handshake hstages
      refine iff_of_true ?_ fun _ haccepted ↦ absurd haccepted hnone
      split
      · exact hclean
      · exact (hwasted_fail _).mpr hnone
      · intro hwasted
        apply hnone
        have haccepted := hwasted.1
        rwa [accepted_enter] at haccepted
    · next stage rest _ hstages =>
      split
      · next line hline =>
        rw [h.wasted_read hstages hrunning]
        simp [takes, hline, hstages, hrunning]
      · next message hline =>
        rw [hwasted_fail]
        simp [takes, hline, hrunning]
      · next hok herror =>
        refine iff_of_true hclean fun _ _ answer hanswer ↦ ?_
        cases answer with
        | ok line => exact absurd hanswer (hok line)
        | error message => exact absurd hanswer (herror message)

end Attempt

/-! ## Both attempts -/

namespace Attempt

variable {call : Call} {c : Connection} {a : Attempt}

theorem resume_of_failed (h : a.failed = true) : a.resume call c = a := by
  have hsettled : a.outcome.isSome := by
    cases houtcome : a.outcome with
    | none => simp [failed, houtcome] at h
    | some r => rfl
  exact if_pos hsettled

theorem failed_accept : a.accept.failed = a.failed := by
  unfold Attempt.accept
  split <;> rfl

theorem Wasted.accept (h : a.Wasted) : a.accept.Wasted := by
  refine ⟨?_, failed_accept.trans h.2⟩
  unfold Attempt.accept
  split
  · rfl
  · exact h.1

theorem not_wasted_of_ok (h : a.outcome = some (.ok ())) : ¬a.Wasted := by
  intro hwasted
  have hfailed := hwasted.2
  simp [failed, h] at hfailed

theorem not_wasted_start (call : Call) (c : Connection) : ¬(start call c).Wasted := by
  rw [start_eq]
  exact fun h ↦ absurd h.1 nofun

end Attempt

namespace Send

variable {call : Call} {s : Send} {f : Attempt → Attempt} {c d : Connection} {a : Attempt}

def attempt (s : Send) : Connection → Option Attempt
  | .implicitTls => some s.implicitTls
  | .startTls => s.startTls

/-- The second attempt begins when the first one has failed. -/
structure Consistent (s : Send) : Prop where
  sound : ∀ c, ∀ a ∈ s.attempt c, a.Sound
  failed : s.startTls.isSome = true → s.implicitTls.failed = true

/-- No attempt has failed although the server has accepted its message. -/
def Clean (s : Send) : Prop := ∀ c, ∀ a ∈ s.attempt c, ¬a.Wasted

/-- Where the server has accepted a message, the script goes on with a line that the reply to the message or to
`QUIT` takes, and with nothing else; and the server accepts no message of an attempt that has failed. -/
def Safe (s : Send) : Action → Prop
  | .socket _ _ => True
  | .resume c => ∀ a ∈ s.attempt c, a.outcome = none → a.accepted = true → a.takes
  | .accept c => ∀ a ∈ s.attempt c, a.transmitted = true → a.failed = false

theorem attempt_update :
    (s.update f c).attempt d = if d = c then (s.attempt d).map f else s.attempt d := by
  cases c <;> cases d <;> rfl

/-- An update changes one attempt. -/
theorem clean_update (hclean : s.Clean) : (s.update f c).Clean ↔ ∀ a ∈ s.attempt c, ¬(f a).Wasted := by
  constructor
  · intro h a ha
    apply h c
    rw [attempt_update, if_pos rfl]
    exact Option.mem_map_of_mem f ha
  · intro h d b hb
    rw [attempt_update] at hb
    split at hb
    · next hd =>
      obtain ⟨a, ha, rfl⟩ := Option.mem_map.mp hb
      exact h a (hd ▸ ha)
    · exact hclean d b hb

/-- The `catch` block begins the second attempt, or does nothing. -/
theorem follow_cases (call : Call) (s : Send) : s.follow call = s ∨
    s.startTls = none ∧ s.implicitTls.failed = true ∧
      s.follow call = { s with startTls := some (.start call .startTls) } := by
  unfold follow
  split
  · next message hnone houtcome =>
    split
    · exact Or.inl rfl
    · exact Or.inr ⟨hnone, by simp [Attempt.failed, houtcome], rfl⟩
  · exact Or.inl rfl

theorem clean_follow : (s.follow call).Clean ↔ s.Clean := by
  obtain heq | ⟨hnone, -, heq⟩ := follow_cases call s
  · rw [heq]
  · rw [heq]
    constructor
    · intro h d b hb
      cases d with
      | implicitTls => exact h .implicitTls b hb
      | startTls =>
        rw [attempt, hnone] at hb
        cases hb
    · intro h d b hb
      cases d with
      | implicitTls => exact h .implicitTls b hb
      | startTls =>
        obtain rfl := Option.some_inj.mp hb
        exact Attempt.not_wasted_start call .startTls

/-- A step wastes an attempt exactly if it is not safe. -/
theorem clean_step (h : s.Consistent) (hclean : s.Clean) (action : Action) :
    (s.step call action).Clean ↔ s.Safe action := by
  cases action with
  | socket c e =>
    refine iff_of_true ((clean_update hclean).mpr fun a ha ↦ ?_) trivial
    rw [Attempt.wasted_socket]
    exact hclean c a ha
  | resume c =>
    rw [step, clean_follow, clean_update hclean]
    exact forall₂_congr fun a ha ↦ (h.sound c a ha).wasted_resume (hclean c a ha)
  | accept c =>
    rw [step, clean_update hclean]
    exact forall₂_congr fun a ha ↦ Attempt.wasted_accept (hclean c a ha)

/-- What has been wasted stays so. -/
theorem clean_of_update (hf : ∀ a, a.Wasted → (f a).Wasted) (h : (s.update f c).Clean) : s.Clean := by
  intro d b hb hwasted
  by_cases hd : d = c
  · apply h d (f b) ?_ (hf b hwasted)
    rw [attempt_update, if_pos hd]
    exact Option.mem_map_of_mem f hb
  · apply h d b ?_ hwasted
    rwa [attempt_update, if_neg hd]

theorem clean_of_step {action : Action} (h : (s.step call action).Clean) : s.Clean := by
  cases action with
  | socket c e => exact clean_of_update (fun a ↦ (Attempt.wasted_socket e).mpr) h
  | resume c =>
    refine clean_of_update (fun a hwasted ↦ ?_) (clean_follow.mp h)
    rwa [Attempt.resume_of_failed hwasted.2]
  | accept c => exact clean_of_update (fun a ↦ Attempt.Wasted.accept) h

theorem clean_of_run {actions : List Action} (h : (run (step call) s actions).Clean) : s.Clean := by
  induction actions generalizing s with
  | nil => exact h
  | cons action actions ih => exact clean_of_step (ih h)

/-! ## What a call keeps -/

theorem Consistent.update (h : s.Consistent) (hsound : ∀ a, a.Sound → (f a).Sound)
    (hfailed : ∀ a, a.failed = true → (f a).failed = true) : (s.update f c).Consistent where
  sound d b hb := by
    rw [attempt_update] at hb
    split at hb
    · obtain ⟨a, ha, rfl⟩ := Option.mem_map.mp hb
      exact hsound a (h.sound d a ha)
    · exact h.sound d b hb
  failed hsecond := by
    cases c with
    | implicitTls => exact hfailed _ (h.failed hsecond)
    | startTls =>
      apply h.failed
      rwa [Send.update, Option.isSome_map] at hsecond

theorem Consistent.follow (h : s.Consistent) : (s.follow call).Consistent := by
  obtain heq | ⟨-, hfailed, heq⟩ := follow_cases call s
  · rwa [heq]
  · rw [heq]
    refine ⟨fun d b hb ↦ ?_, fun _ ↦ hfailed⟩
    cases d with
    | implicitTls => exact h.sound .implicitTls b hb
    | startTls =>
      obtain rfl := Option.some_inj.mp hb
      exact Attempt.sound_start call .startTls

theorem Consistent.step (h : s.Consistent) (action : Action) : (s.step call action).Consistent := by
  cases action with
  | socket c e =>
    refine h.update (fun a ha ↦ ha.socket e) fun a ha ↦ ?_
    obtain ⟨-, -, -, houtcome⟩ := Attempt.socket_cases (a := a) e
    rwa [Attempt.failed, houtcome]
  | resume c =>
    refine (h.update (fun a ha ↦ ha.resume) fun a ha ↦ ?_).follow
    rwa [Attempt.resume_of_failed ha]
  | accept c => exact h.update (fun a ha ↦ ha.accept) fun a ha ↦ Attempt.failed_accept.trans ha

theorem consistent_start (call : Call) : (start call).Consistent where
  sound d b hb := by
    cases d with
    | implicitTls =>
      obtain rfl := Option.some_inj.mp hb
      exact Attempt.sound_start call .implicitTls
    | startTls => cases hb
  failed := nofun

theorem clean_start (call : Call) : (start call).Clean := by
  intro d b hb
  cases d with
  | implicitTls =>
    obtain rfl := Option.some_inj.mp hb
    exact Attempt.not_wasted_start call .implicitTls
  | startTls => cases hb

/-! ## Deliveries -/

theorem accepted_eq_zero : s.accepted = 0 ↔ ∀ c, ∀ a ∈ s.attempt c, a.accepted ≠ true := by
  rw [accepted, List.countP_eq_zero, attempts]
  constructor
  · intro h c a ha
    cases c with
    | implicitTls => exact h a (List.mem_cons.mpr (.inl (Option.some_inj.mp ha).symm))
    | startTls => exact h a (List.mem_cons_of_mem _ (Option.mem_toList.mpr ha))
  · intro h a ha
    obtain rfl | ha := List.mem_cons.mp ha
    · exact h .implicitTls _ rfl
    · exact h .startTls a (Option.mem_toList.mp ha)

/-- A call fails when each of its attempts has. -/
theorem failed_of_outcome {message : String} (h : s.outcome call = some (.error message)) :
    ∀ c, ∀ a ∈ s.attempt c, a.failed = true := by
  intro c a ha
  unfold outcome at h
  split at h
  · cases h
  · cases h
  · next message hfirst hsecond =>
    cases c with
    | implicitTls =>
      obtain rfl := Option.some_inj.mp ha
      simp [Attempt.failed, hfirst]
    | startTls => cases hsecond.symm.trans ha
  · next message b hfirst hsecond =>
    cases c with
    | implicitTls =>
      obtain rfl := Option.some_inj.mp ha
      simp [Attempt.failed, hfirst]
    | startTls =>
      obtain rfl := Option.some_inj.mp (hsecond.symm.trans ha)
      cases hb : b.outcome with
      | none => simp [hb] at h
      | some r =>
        cases r with
        | ok u => simp [hb, Except.map] at h
        | error message => simp [Attempt.failed, hb]

/-- A call succeeds when its last attempt has. -/
theorem ok_of_outcome {delivery : Delivery} (h : s.outcome call = some (.ok delivery)) :
    s.implicitTls.outcome = some (.ok ()) ∨ ∃ b, s.startTls = some b ∧ b.outcome = some (.ok ()) := by
  unfold outcome at h
  split at h
  · cases h
  · next hfirst => exact Or.inl hfirst
  · cases h
  · next message b _ hsecond =>
    refine Or.inr ⟨b, hsecond, ?_⟩
    cases hb : b.outcome with
    | none => simp [hb] at h
    | some r =>
      cases r with
      | ok u => rfl
      | error message => simp [hb, Except.map] at h

theorem Consistent.accepted_le_one (h : s.Consistent) (hclean : s.Clean) : s.accepted ≤ 1 := by
  cases hsecond : s.startTls with
  | none =>
    have hlength : s.attempts.length ≤ 1 := by simp [attempts, hsecond]
    exact List.countP_le_length.trans hlength
  | some b =>
    have hfailed := h.failed (by rw [hsecond]; rfl)
    have hfirst : s.implicitTls.accepted ≠ true :=
      fun haccepted ↦ hclean .implicitTls _ rfl ⟨haccepted, hfailed⟩
    rw [accepted, attempts, hsecond, List.countP_cons_of_neg hfirst]
    exact List.countP_le_length

theorem Clean.oneDelivery (hclean : s.Clean) (h : s.Consistent) : s.OneDelivery call := by
  refine ⟨h.accepted_le_one hclean, fun message hmessage ↦ ?_⟩
  rw [accepted_eq_zero]
  exact fun c a ha haccepted ↦ hclean c a ha ⟨haccepted, failed_of_outcome hmessage c a ha⟩

/-- A call that has been settled with one delivery has wasted nothing. -/
theorem OneDelivery.clean (hone : s.OneDelivery call) (h : s.Consistent)
    (hsettled : (s.outcome call).isSome = true) : s.Clean := by
  obtain ⟨r, hr⟩ := Option.isSome_iff_exists.mp hsettled
  cases r with
  | error message =>
    have hnone := accepted_eq_zero.mp (hone.2 message hr)
    exact fun c a ha hwasted ↦ hnone c a ha hwasted.1
  | ok delivery =>
    obtain hfirst | ⟨b, hsecond, hb⟩ := ok_of_outcome hr
    · have hnone : s.startTls = none := by
        rw [← Option.not_isSome_iff_eq_none]
        intro hsecond
        have hfailed := h.failed hsecond
        simp [Attempt.failed, hfirst] at hfailed
      intro c a ha
      cases c with
      | implicitTls =>
        obtain rfl := Option.some_inj.mp ha
        exact Attempt.not_wasted_of_ok hfirst
      | startTls => cases hnone.symm.trans ha
    · have haccepted := (h.sound .startTls b hsecond).accepted_of_ok hb
      intro c a ha
      cases c with
      | implicitTls =>
        obtain rfl := Option.some_inj.mp ha
        intro hwasted
        have htwo : s.accepted = 2 := by simp [accepted, attempts, hsecond, hwasted.1, haccepted]
        have hle := hone.1
        omega
      | startTls =>
        obtain rfl := Option.some_inj.mp (hsecond.symm.trans ha)
        exact Attempt.not_wasted_of_ok hb

/-- The server gets at most one message, and none from a call that fails, at every moment of a run whose steps are
safe; and a call that has been settled has met this exactly if all steps have been safe. -/
theorem one_delivery_iff (call : Call) (actions : List Action) :
    (EachStep (step call) Safe (start call) actions →
      AtEachMoment (step call) (OneDelivery call) (start call) actions) ∧
    (((run (step call) (start call) actions).outcome call).isSome = true →
      ((run (step call) (start call) actions).OneDelivery call ↔
        EachStep (step call) Safe (start call) actions)) := by
  have hexact : AtEachMoment (step call) (fun s ↦ s.Consistent ∧ s.Clean) (start call) actions ↔
      EachStep (step call) Safe (start call) actions := by
    apply atEachMoment_iff_eachStep
    · intro s action ⟨h, hclean⟩
      exact (and_iff_right (h.step action)).trans (clean_step h hclean action)
    · exact ⟨consistent_start call, clean_start call⟩
  have hconsistent : AtEachMoment (step call) Consistent (start call) actions :=
    atEachMoment_of_kept (fun s action h ↦ h.step action) (consistent_start call)
  constructor
  · intro hsafe past hpast
    obtain ⟨h, hclean⟩ := hexact.mpr hsafe past hpast
    exact hclean.oneDelivery h
  · intro hsettled
    rw [← hexact]
    constructor
    · rintro hone past ⟨rest, hpast⟩
      have hlast : (run (step call) (run (step call) (start call) past) rest).Clean := by
        rw [← run_append, hpast]
        exact hone.clean hconsistent.last hsettled
      exact ⟨hconsistent past ⟨rest, hpast⟩, clean_of_run hlast⟩
    · intro hmoments
      obtain ⟨h, hclean⟩ := hmoments.last
      exact hclean.oneDelivery h

/-- A server that answers with these lines. -/
def answers (c : Connection) (lines : List String) : List Action :=
  lines.flatMap fun line ↦ [.socket c (.data (line.toList ++ crlf.mark)), .resume c]

/-- The server closes the connection after it has accepted the message, and accepts it once more. -/
theorem two_deliveries :
    let call : Call := ⟨id, ⟨"platform@example.org".toList, "secret".toList, by decide⟩,
      ⟨some "fan@example.org".toList, some "Welcome".toList, some "Hello".toList, "1".toList⟩,
      fun _ ↦ ⟨0, by decide⟩, fun _ ↦ ⟨fun _ ↦ 0⟩⟩
    ¬(run (step call) (start call)
      (answers .implicitTls ["220 ", "250 ", "235 ", "250 ", "250 ", "354 ", "250 "] ++
        [.socket .implicitTls .close, .resume .implicitTls] ++ answers .startTls ["220 ", "250 ", "220 "] ++
        [.socket .startTls .secureConnect, .resume .startTls] ++
        answers .startTls ["250 ", "235 ", "250 ", "250 ", "354 ", "250 ", "221 "])).OneDelivery call := by
  intro call hone
  exact absurd hone.1 (by decide +kernel)

end Send
end CreatorFirst.Mail
