import CreatorFirst.Database.Table
import CreatorFirst.Gateway.Accounts
import CreatorFirst.Script.Json
import CreatorFirst.Script.Value

/-!
# Operations of a relayer

A relayer sends transactions for wallets that have signed what the transaction does. Calls are told
apart by the wallet and an idempotency key: the first call under a key starts an operation, and later
ones join it while the relayer retains its entry. It retains 512 entries.
-/

namespace CreatorFirst.Relay

open Database Script

/-! ## Errors -/

/-- One error of the chain client in a sequence, each with the next one as its cause. -/
structure Cause where
  shortMessage : Option String := none
  message : Option String := none
  details : Option String := none
  deriving DecidableEq

abbrev ChainError := List Cause

inductive Thrown where
  | relayError (status : ℕ) (code message : String)
  | other (e : ChainError)
  deriving DecidableEq

/-- `0x` and 64 hexadecimal digits. -/
def isTransaction : List Char → Bool
  | '0' :: x :: cs => (x = 'x' || x = 'X') && cs.length ≥ 64 &&
      (cs.take 64).all fun c ↦ (Number.digitOf 16 c).isSome
  | _ => false

/-- `hidden` characters belong to a transaction that has been replaced. -/
def replaceTransactions : List Char → ℕ → List Char
  | [], _ => []
  | _ :: cs, hidden + 1 => replaceTransactions cs hidden
  | c :: cs, 0 =>
    if isTransaction (c :: cs) then "[transaction]".toList ++ replaceTransactions cs 65
    else c :: replaceTransactions cs 0

/-- The first text of at most 240 characters; a text does not get longer when its transactions are
replaced. -/
def safeChainMessage (failed : String) (error : ChainError) : String :=
  let values := (error.take 5).flatMap fun cause ↦
    [cause.shortMessage, cause.message, cause.details].filterMap id
  let message := (values.find? fun value ↦ Gateway.utf16Length value ≤ 240).getD failed
  String.ofList (replaceTransactions message.toList 0)

/-! ## What the relayers check alike -/

/-- What a relayer takes from `viem` and `node:crypto`. `getAddress` gives the checksummed form of an
address and throws on anything else; a signature from which no address can be recovered throws; the
digest of a text is in hexadecimal. -/
structure Library where
  getAddress : Value → Option String
  recoverTypedDataAddress : Gateway.TypedData → String → Option String
  sha256 : String → String

section Checks

variable {α : Type}

def requireSome (value : Option α) (status : ℕ) (code message : String) : Except Thrown α :=
  match value with
  | some a => .ok a
  | none => .error (.relayError status code message)

def requireValue (condition : Bool) (status : ℕ) (code message : String) : Except Thrown Unit :=
  if condition then .ok () else .error (.relayError status code message)

section

variable {β : Type} {condition : Bool} {status : ℕ} {code message : String}

theorem requireSome_eq_ok {value : Option α} {a : α} :
    requireSome value status code message = .ok a ↔ value = some a :=
  Gateway.found_eq_ok

theorem requireValue_eq_ok :
    requireValue condition status code message = .ok () ↔ condition = true :=
  Gateway.required_eq_ok

theorem requireValue_bind_eq_ok {f : Unit → Except Thrown β} {b : β} :
    (requireValue condition status code message >>= f) = .ok b ↔ condition = true ∧ f () = .ok b := by
  cases condition
  · exact iff_of_false (fun h ↦ nomatch h) (fun h ↦ nomatch h.1)
  · exact (and_iff_right rfl).symm

end

/-- `/^0x[0-9a-fA-F]{n}$/`, for a string. -/
def hexText (n : ℕ) : Value → Option String
  | .string s =>
    match s.toList with
    | '0' :: 'x' :: cs =>
      if cs.length = n ∧ cs.all fun c ↦ (Number.digitOf 16 c).isSome then some s else none
    | _ => none
  | _ => none

def unsignedInteger (value : Value) (name : String) : Except Thrown ℕ :=
  requireSome (value.bigInt.bind fun n ↦ if 0 ≤ n then some n.toNat else none)
    400 ("INVALID_" ++ name) (name ++ " must be an unsigned integer")

/-- `MAX_INTENT_LIFETIME_SECONDS` -/
def MAX_INTENT_LIFETIME_SECONDS : ℕ := 15 * 60

def idempotencyKey (input : Value) : Except Thrown String :=
  match input.property "idempotencyKey" with
  | .string key =>
    if Gateway.validKey key then .ok key
    else .error (.relayError 400 "INVALID_IDEMPOTENCY_KEY" "A valid idempotency key is required")
  | _ => .error (.relayError 400 "INVALID_IDEMPOTENCY_KEY" "A valid idempotency key is required")

end Checks

/-! ## A relayer -/

/-- What an operation waits for. -/
inductive Phase where
  | recovering
  | reading
  | sending
  deriving DecidableEq

/-- The functions of the chain that an operation calls. -/
inductive ChainCall where
  | status
  | relay
  deriving DecidableEq

inductive Progress (Result : Type) where
  | awaits (phase : Phase)
  | settled (outcome : Except Thrown Result)

/-- The call that an operation makes right before it waits. -/
def Progress.chainCalls {Result : Type} : Progress Result → List ChainCall
  | .awaits .reading => [.status]
  | .awaits .sending => [.relay]
  | _ => []

/-- A call that has passed the checks: the key of its operation, the object that is hashed, and what
the operation is about. -/
structure Request (α : Type) where
  operationKey : String
  payload : List (String × Scalar)
  value : α

/-- What one relayer has of its own. `request` is the part of `relay` before the map is read, applied
to the input of the call and to what it has waited for there; `start` and `resume` are the stretches
of `#relay`, which ends or waits again. -/
structure Relayer (Call α Reply Result : Type) where
  request : Call → Except Thrown (Request α)
  conflict : Thrown
  start : α → Progress Result
  resume : α → Phase → Reply → Option (Progress Result)

/-- An entry of the map, under its key. -/
structure Entry where
  operationKey : String
  hash : String
  promise : ℕ
  deriving DecidableEq

/-- An operation, and whether the failure handler of the call that started it has run. -/
structure Operation (α Result : Type) where
  request : Request α
  progress : Progress Result
  handled : Bool := false

/-- The operation has failed and its handler is still to run. -/
def Operation.Failed {α Result : Type} (op : Operation α Result) : Prop :=
  (∃ e, op.progress = .settled (.error e)) ∧ op.handled = false

/-- A promise is the place of its operation among all that have been started. -/
structure State (α Result : Type) where
  operations : Table Entry.operationKey
  started : List (Operation α Result)
  chainCalls : List (ℕ × ChainCall)

/-- One uninterrupted stretch: a call reaches the map, an operation gets what it waits for, or the
handler of a failed operation runs. -/
inductive Event (Call Reply : Type) where
  | call (c : Call)
  | reply (promise : ℕ) (r : Reply)
  | failure (promise : ℕ)

def OPERATION_LIMIT : ℕ := 512

section

variable {Call α Reply Result : Type}

def initialState : State α Result := ⟨.empty, [], []⟩

variable (lib : Library) (R : Relayer Call α Reply Result)

/-- `operationHash` -/
def Request.hash (r : Request α) : String := lib.sha256 (Json.stringify r.payload)

/-- An operation gets its first progress, and an entry. -/
def State.begin (s : State α Result) (r : Request α) (progress : Progress Result) :
    State α Result where
  operations := (s.operations.makeRoom OPERATION_LIMIT).set
    ⟨r.operationKey, r.hash lib, s.started.length⟩
  started := s.started ++ [⟨r, progress, false⟩]
  chainCalls := s.chainCalls ++ progress.chainCalls.map (s.started.length, ·)

def State.advance (s : State α Result) (promise : ℕ) (progress : Progress Result) :
    State α Result where
  operations := s.operations
  started := s.started.modify promise fun op ↦ { op with progress }
  chainCalls := s.chainCalls ++ progress.chainCalls.map (promise, ·)

/-- `this.operations.delete(operationKey)` -/
def State.discard (s : State α Result) (promise : ℕ) (operationKey : String) : State α Result where
  operations := s.operations.remove operationKey
  started := s.started.modify promise fun op ↦ { op with handled := true }
  chainCalls := s.chainCalls

/-- What a call gets, an error or the promise of an operation, and the state it leaves. -/
def relay (c : Call) (s : State α Result) : Except Thrown ℕ × State α Result :=
  match R.request c with
  | .error e => (.error e, s)
  | .ok r =>
    match s.operations.find? r.operationKey with
    | some prior =>
      if prior.hash ≠ r.hash lib then (.error R.conflict, s) else (.ok prior.promise, s)
    | none => (.ok s.started.length, s.begin lib r (R.start r.value))

/-- What is answered to an operation that does not wait for it changes nothing. -/
def step (s : State α Result) : Event Call Reply → State α Result
  | .call c => (relay lib R c s).2
  | .reply promise reply =>
    match s.started[promise]? with
    | some ⟨r, .awaits phase, _⟩ =>
      match R.resume r.value phase reply with
      | some progress => s.advance promise progress
      | none => s
    | _ => s
  | .failure promise =>
    match s.started[promise]? with
    | some ⟨r, .settled (.error _), false⟩ => s.discard promise r.operationKey
    | _ => s

end

end CreatorFirst.Relay
