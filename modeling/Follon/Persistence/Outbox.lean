import Follon.Domain.Identity
import Follon.Foundation.Json
import Follon.Foundation.Transition

/-!
# SQL statement texts

How a string literal of the source denotes the text that is sent, and what can
be told of a text that no data statement has: a name beside a name before an
equals sign.  An alias is the one place where two names meet, and an alias ends
its item.
-/

namespace Follon.Persistence

open Foundation

/-! ## String literals -/

def literalChars : List String → List Char
  | [] => []
  | first :: rest =>
    first.toList ++ rest.flatMap fun line => line.toList.dropWhile (· == ' ')

def literalText (lines : List String) : String := String.ofList (literalChars lines)

/-! ## Tokens -/

inductive SqlToken where
  | word (text : String)
  | number (text : String)
  | text (text : String)
  | parameter (text : String)
  | operator (text : String)
  | mark (c : Char)
  deriving DecidableEq

inductive Lexing where
  | blank
  | word (read : List Char)
  | number (read : List Char)
  | text (read : List Char)
  | parameter (read : List Char)
  | operator (read : List Char)
  | mark (c : Char)

def isLetter (c : Char) : Bool := ('a' ≤ c && c ≤ 'z') || ('A' ≤ c && c ≤ 'Z') || c == '_'

def isOperatorChar (c : Char) : Bool := c ∈ ['<', '>', '=', '+', '-', '*']

def lowercase (c : Char) : Char :=
  if 'A' ≤ c ∧ c ≤ 'Z' then Char.ofNat (c.toNat + 32) else c

namespace Lexing

def start (c : Char) : Lexing :=
  if c = ' ' then .blank
  else if isLetter c = true then .word [c]
  else if isAsciiDigit c = true then .number [c]
  else if c = '\'' then .text []
  else if c = '$' then .parameter []
  else if isOperatorChar c = true then .operator [c]
  else .mark c

def finish : Lexing → List SqlToken
  | .blank => []
  | .word read => [.word (String.ofList (read.reverse.map lowercase))]
  | .number read => [.number (String.ofList read.reverse)]
  | .text read => [.text (String.ofList read.reverse)]
  | .parameter read => [.parameter (String.ofList read.reverse)]
  | .operator read => [.operator (String.ofList read.reverse)]
  | .mark c => [.mark c]

def continueWith (c : Char) : Lexing → Option Lexing
  | .word read =>
    if (isLetter c || isAsciiDigit c) = true then some (.word (c :: read))
    else none
  | .number read =>
    if (isAsciiDigit c || c == '.') = true then some (.number (c :: read))
    else none
  | .text read => if c = '\'' then none else some (.text (c :: read))
  | .parameter read =>
    if isAsciiDigit c = true then some (.parameter (c :: read)) else none
  | .operator read =>
    if isOperatorChar c = true then some (.operator (c :: read)) else none
  | _ => none

def leavesSimple (c : Char) : Lexing → Bool
  | .operator ('-' :: _) => c == '-'
  | .parameter [] => !isAsciiDigit c
  | _ => false

end Lexing

def isSimpleChar (c : Char) : Bool :=
  isLetter c || isAsciiDigit c || isOperatorChar c ||
    c ∈ [' ', '(', ')', ',', '.', '$', '\'']

def lex (state : Lexing) : List Char → List SqlToken
  | [] => state.finish
  | c :: rest =>
    if (!isSimpleChar c || state.leavesSimple c) = true then []
    else
      match state.continueWith c with
      | some next => lex next rest
      | none =>
        match state with
        | .text _ => state.finish ++ lex .blank rest
        | _ => state.finish ++ lex (.start c) rest

def tokens (text : String) : List SqlToken := lex .blank text.toList

/-! ## Stray names -/

def isDataStatement : List SqlToken → Bool
  | .word first :: _ =>
    first ∈ ["select", "insert", "update", "delete", "with"]
  | _ => false

def hasStrayName (isKeyWord : String → Bool) : List SqlToken → Bool
  | .word first :: .word second :: .operator "=" :: rest =>
    (!isKeyWord first && !isKeyWord second) ||
      hasStrayName isKeyWord (.word second :: .operator "=" :: rest)
  | _ :: rest => hasStrayName isKeyWord rest
  | [] => false

def isMalformed (isKeyWord : String → Bool) (text : String) : Bool :=
  isDataStatement (tokens text) && hasStrayName isKeyWord (tokens text)

theorem tokens_literalText (lines : List String) :
    tokens (literalText lines) = lex .blank (literalChars lines) := by
  rw [tokens, literalText, toList_ofList]

theorem hasStrayName_append {isKeyWord : String → Bool}
    (before : List SqlToken) {after : List SqlToken}
    (h : hasStrayName isKeyWord after = true) :
    hasStrayName isKeyWord (before ++ after) = true := by
  induction before with
  | nil => exact h
  | cons token rest ih =>
    rw [cons_append]
    unfold hasStrayName
    split
    · next heq =>
        obtain ⟨_, heq⟩ := List.cons.inj heq
        rw [← heq, ih, Bool.or_true]
    · next heq =>
        obtain ⟨_, heq⟩ := List.cons.inj heq
        rw [← heq]
        exact ih
    · contradiction

theorem isDataStatement_congr (token : SqlToken) (rest other : List SqlToken) :
    isDataStatement (token :: rest) = isDataStatement (token :: other) := by
  cases token <;> rfl

theorem hasStrayName_of_names {isKeyWord : String → Bool}
    {first second : String} (hfirst : isKeyWord first = false)
    (hsecond : isKeyWord second = false) (rest : List SqlToken) : hasStrayName isKeyWord
      (.word first :: .word second :: .operator "=" :: rest) = true := by
  simp [hasStrayName, hfirst, hsecond]

end Follon.Persistence

/-!
## The outbox

Workers claim messages and mark them delivered, statement by statement, at a
server that is a parameter.  The line ends of the two updates are written so
that words run together, and the server refuses them: no claim and no delivery
ever succeeds.
-/

namespace Follon.Persistence

open Foundation Domain

/-! ## Clients and servers -/

inductive SqlValue where
  | text (value : String)
  | integer (value : Int)
  deriving DecidableEq

structure ClaimedMessage where
  (messageId eventId topic : String)
  payload : Json
  attempts : Int

structure Answer where
  rows : List ClaimedMessage
  changed : Nat

inductive Client (α : Type) where
  | returns (result : Result α)
  | execute (statement : String) (parameters : List SqlValue)
      (next : Result Answer → Client α)

namespace Client

variable {α β : Type}

/-- `?` inside a transaction: a failure drops it, which rolls it back. -/
def rollingBack (e : PaperError) : Client α :=
  .execute "ROLLBACK" [] fun _ => .returns (.error e)

def onOk (failed : PaperError → Client α) (next : Answer → Client α) :
    Result Answer → Client α
  | .ok answer => next answer
  | .error e => failed e

/-- The statements of a transaction for a tenant, from `BEGIN` on. -/
def inTransaction (tenantId : String) (body : Client α) : Client α :=
  .execute "BEGIN" [] <| onOk (fun e => .returns (.error e)) fun _ =>
    .execute "SELECT set_config('app.tenant_id', $1, TRUE)" [.text tenantId] <|
      onOk rollingBack fun _ => body

def commit (result : α) : Client α :=
  .execute "COMMIT" [] <| onOk (fun e => .returns (.error e)) fun _ =>
    .returns (.ok result)

end Client

/-! ## Claims and deliveries -/

def validateId (name value : String) : Result Unit := validateCanonicalId name value

def claimLines : List String :=
  ["WITH candidates AS (", "                SELECT message_id FROM outbox_messages",
    "                WHERE tenant_id = $1 AND delivered_at IS NULL AND available_at <= NOW()",
    "                  AND (claimed_at IS NULL OR claimed_at < NOW() - ($4 * INTERVAL '1 second'))",
    "                ORDER BY created_at, message_id",
    "                FOR UPDATE SKIP LOCKED LIMIT $3",
    "             )",
    "             UPDATE outbox_messages AS message",
    "             SET claimed_at = NOW(), claimed_by = $2, attempts = attempts + 1",
    "             FROM candidates WHERE message.message_id = candidates.message_id",
    "             RETURNING message.message_id, message.event_id, message.topic, message.payload, message.attempts"]

def deliverLines : List String :=
  ["UPDATE outbox_messages SET delivered_at = NOW(), claimed_at = NULL, claimed_by = NULL",
    "             WHERE tenant_id = $1 AND message_id = $2 AND claimed_by = $3 AND delivered_at IS NULL"]

def claimOutbox (tenantId workerId : String)
    (limit claimTimeoutSeconds : Int) : Client (List ClaimedMessage) :=
  let checked : Result Unit := do
    validateId "tenant_id" tenantId
    validateId "worker_id" workerId
    refuseIf (¬(1 ≤ limit ∧ limit ≤ 1000) ∨
        ¬(1 ≤ claimTimeoutSeconds ∧ claimTimeoutSeconds ≤ 86400))
      "invalid outbox claim limits"
  match checked with
  | .error e => .returns (.error e)
  | .ok () =>
    .inTransaction tenantId <|
      .execute (literalText claimLines)
        [.text tenantId, .text workerId, .integer limit,
          .integer claimTimeoutSeconds] <|
        .onOk .rollingBack fun answer => .commit answer.rows

def markOutboxDelivered (tenantId workerId messageId : String) : Client Unit :=
  .inTransaction tenantId <|
    .execute (literalText deliverLines)
      [.text tenantId, .text messageId, .text workerId] <|
      .onOk .rollingBack fun answer =>
        if answer.changed ≠ 1 then
          .rollingBack ⟨"outbox message is not claimed by this worker"⟩
        else .commit ()

/-! ## The server -/

structure OutboxMessage where
  (messageId tenantId eventId : String)
  availableAt : Nat
  claimedAt : Option Nat
  claimedBy : Option String
  deliveredAt : Option Nat
  (createdAt attempts : Nat)
  deriving DecidableEq

/-- A database server: its key words, what a statement of a connection may do,
and the outbox as it is committed. -/
structure Server (Db : Type) where
  isKeyWord : String → Bool
  step : Nat → String → List SqlValue → Db → Db → Result Answer → Prop
  outbox : Db → List OutboxMessage

def isControl (statement : String) : Bool :=
  statement ∈ ["BEGIN", "ROLLBACK", "SELECT set_config('app.tenant_id', $1, TRUE)"]

/-- What is relied on of a server: names are not key words, a statement its
grammar does not derive is refused, and neither that nor the control of a
transaction touches the outbox. -/
structure Server.Lawful {Db : Type} (server : Server Db) : Prop where
  names : ∀ name ∈ ["outbox_messageswhere", "nullwhere", "tenant_id"],
    server.isKeyWord name = false
  refuses : ∀ connection statement parameters db db' answer,
    isMalformed server.isKeyWord statement = true →
      server.step connection statement parameters db db' answer → ∃ e, answer = .error e
  keeps : ∀ connection statement parameters db db' answer,
    isMalformed server.isKeyWord statement = true ∨ isControl statement = true →
      server.step connection statement parameters db db' answer →
        server.outbox db' = server.outbox db

/-! ## The statements do not parse -/

theorem claimLines_first : (lex .blank (literalChars claimLines)).take 10 =
      [.word "with", .word "candidates", .word "as", .mark '(',
        .word "select", .word "message_id", .word "from",
        .word "outbox_messageswhere", .word "tenant_id", .operator "="] := by
  decide +kernel

theorem deliverLines_first : (lex .blank (literalChars deliverLines)).take 18 =
      [.word "update", .word "outbox_messages", .word "set",
        .word "delivered_at", .operator "=", .word "now", .mark '(',
        .mark ')', .mark ',', .word "claimed_at", .operator "=",
        .word "null", .mark ',', .word "claimed_by", .operator "=",
        .word "nullwhere", .word "tenant_id", .operator "="] := by
  decide

theorem tokens_split {lines : List String} {n : Nat} {first : List SqlToken}
    (h : (lex .blank (literalChars lines)).take n = first) :
    ∃ rest, tokens (literalText lines) = first ++ rest := by
  refine ⟨(lex .blank (literalChars lines)).drop n, ?_⟩
  rw [tokens_literalText, ← h, List.take_append_drop]

theorem isMalformed_of_split {isKeyWord : String → Bool} {text : String}
    {before rest : List SqlToken} {first second : String} (h : tokens text
      = before ++ .word first :: .word second :: .operator "=" :: rest)
    (hdata : isDataStatement (before ++ [.word first]) = true)
    (hfirst : isKeyWord first = false) (hsecond : isKeyWord second = false) :
    isMalformed isKeyWord text = true := by
  rw [isMalformed, h, and_eq_true]
  constructor
  · cases before with
    | nil => exact hdata
    | cons token more => exact (isDataStatement_congr token _ _).trans hdata
  · apply hasStrayName_append
    exact hasStrayName_of_names hfirst hsecond rest

section
variable {Db : Type} {server : Server Db}

theorem isMalformed_claim (hserver : server.Lawful) :
    isMalformed server.isKeyWord (literalText claimLines) = true := by
  obtain ⟨rest, hsplit⟩ := tokens_split claimLines_first
  have hbefore : tokens (literalText claimLines) =
      [.word "with", .word "candidates", .word "as", .mark '(',
        .word "select", .word "message_id", .word "from"] ++
        .word "outbox_messageswhere" :: .word "tenant_id" ::
          .operator "=" :: rest := hsplit
  exact isMalformed_of_split hbefore (by decide)
    (hserver.names _ (by simp)) (hserver.names _ (by simp))

theorem isMalformed_deliver (hserver : server.Lawful) :
    isMalformed server.isKeyWord (literalText deliverLines) = true := by
  obtain ⟨rest, hsplit⟩ := tokens_split deliverLines_first
  have hbefore : tokens (literalText deliverLines) =
      [.word "update", .word "outbox_messages", .word "set",
        .word "delivered_at", .operator "=", .word "now", .mark '(',
        .mark ')', .mark ',', .word "claimed_at", .operator "=",
        .word "null", .mark ',', .word "claimed_by", .operator "="] ++
        .word "nullwhere" :: .word "tenant_id" :: .operator "=" :: rest :=
    hsplit
  exact isMalformed_of_split hbefore (by decide)
    (hserver.names _ (by simp)) (hserver.names _ (by simp))

end

/-! ## Calls that cannot succeed -/

/-- A call whose every statement controls a transaction or is refused, and
which then returns a failure. -/
inductive Futile {Db α : Type} (server : Server Db) : Client α → Prop
  | returns (e : PaperError) : Futile server (.returns (.error e))
  | control {statement : String} {parameters : List SqlValue}
      {next : Result Answer → Client α} (h : isControl statement = true)
      (hnext : ∀ answer, Futile server (next answer)) :
      Futile server (.execute statement parameters next)
  | refused {statement : String} {parameters : List SqlValue}
      {next : Result Answer → Client α}
      (h : isMalformed server.isKeyWord statement = true)
      (hnext : ∀ e, Futile server (next (.error e))) :
      Futile server (.execute statement parameters next)

section
variable {Db α : Type} {server : Server Db}

theorem futile_rollingBack (e : PaperError) :
    Futile server (Client.rollingBack e : Client α) :=
  .control (by decide) fun _ => .returns e

theorem futile_inTransaction (tenantId : String) {body : Client α}
    (h : Futile server body) : Futile server (.inTransaction tenantId body) := by
  apply Futile.control (by decide)
  intro answer
  cases answer with
  | error e => exact .returns e
  | ok answer =>
    apply Futile.control (by decide)
    intro answer
    cases answer with
    | error e => exact futile_rollingBack e
    | ok answer => exact h

theorem futile_claimOutbox (hserver : server.Lawful)
    (tenantId workerId : String) (limit claimTimeoutSeconds : Int) : Futile server
      (claimOutbox tenantId workerId limit claimTimeoutSeconds) := by
  unfold claimOutbox
  dsimp only
  split
  · exact .returns _
  · apply futile_inTransaction
    apply Futile.refused (isMalformed_claim hserver)
    exact futile_rollingBack

theorem futile_markOutboxDelivered (hserver : server.Lawful)
    (tenantId workerId messageId : String) :
    Futile server (markOutboxDelivered tenantId workerId messageId) := by
  apply futile_inTransaction
  apply Futile.refused (isMalformed_deliver hserver)
  exact futile_rollingBack

theorem Futile.step (hserver : server.Lawful) {statement : String}
    {parameters : List SqlValue} {next : Result Answer → Client α}
    (h : Futile server (.execute statement parameters next))
    {connection : Nat} {db db' : Db} {answer : Result Answer}
    (hstep : server.step connection statement parameters db db' answer) :
    Futile server (next answer) ∧ server.outbox db' = server.outbox db := by
  cases h with
  | control hcontrol hnext =>
    exact ⟨hnext answer, hserver.keeps _ _ _ _ _ _ (.inr hcontrol) hstep⟩
  | refused hmalformed hnext =>
    obtain ⟨e, rfl⟩ := hserver.refuses _ _ _ _ _ _ hmalformed hstep
    exact ⟨hnext e, hserver.keeps _ _ _ _ _ _ (.inl hmalformed) hstep⟩

end

/-! ## Runs of many workers -/

inductive Call where
  | claim (tenantId workerId : String) (limit claimTimeoutSeconds : Int)
      (client : Client (List ClaimedMessage))
  | deliver (tenantId workerId messageId : String) (client : Client Unit)

structure Delivery (Db : Type) where
  db : Db
  calls : Nat → Option Call

def Delivery.record {Db : Type} (state : Delivery Db) (db : Db)
    (connection : Nat) (call : Call) : Delivery Db where
  db
  calls := Function.update state.calls connection (some call)

/-- A call is made on a connection, or a connection executes the next statement
of its call. -/
inductive Delivery.Step {Db : Type} (server : Server Db) :
    Delivery Db → Delivery Db → Prop
  | claim (state : Delivery Db) (connection : Nat)
      (tenantId workerId : String) (limit claimTimeoutSeconds : Int) :
      Step server state (state.record state.db connection
        (.claim tenantId workerId limit claimTimeoutSeconds
          (claimOutbox tenantId workerId limit claimTimeoutSeconds)))
  | deliver (state : Delivery Db) (connection : Nat)
      (tenantId workerId messageId : String) :
      Step server state (state.record state.db connection
        (.deliver tenantId workerId messageId
          (markOutboxDelivered tenantId workerId messageId)))
  | claimStep (state : Delivery Db) (connection : Nat)
      {tenantId workerId : String} {limit claimTimeoutSeconds : Int}
      {statement : String} {parameters : List SqlValue}
      {next : Result Answer → Client (List ClaimedMessage)} {db : Db}
      {answer : Result Answer}
      (hcall : state.calls connection = some (.claim tenantId workerId limit
        claimTimeoutSeconds (.execute statement parameters next)))
      (hstep : server.step connection statement parameters state.db db answer) :
      Step server state (state.record db connection
        (.claim tenantId workerId limit claimTimeoutSeconds (next answer)))
  | deliverStep (state : Delivery Db) (connection : Nat)
      {tenantId workerId messageId : String}
      {statement : String} {parameters : List SqlValue}
      {next : Result Answer → Client Unit} {db : Db} {answer : Result Answer}
      (hcall : state.calls connection = some (.deliver tenantId workerId
        messageId (.execute statement parameters next)))
      (hstep : server.step connection statement parameters state.db db answer) :
      Step server state (state.record db connection
        (.deliver tenantId workerId messageId (next answer)))

def Call.IsFutile {Db : Type} (server : Server Db) : Call → Prop
  | .claim _ _ _ _ client => Futile server client
  | .deliver _ _ _ client => Futile server client

structure Delivery.Stuck {Db : Type} (server : Server Db)
    (messages : List OutboxMessage) (state : Delivery Db) : Prop where
  calls : ∀ connection call, state.calls connection = some call → call.IsFutile server
  outbox : server.outbox state.db = messages

section
variable {Db : Type} {server : Server Db} {messages : List OutboxMessage}
  {state : Delivery Db}

theorem Delivery.Stuck.record (h : state.Stuck server messages) {call : Call}
    (hcall : call.IsFutile server) {db : Db}
    (hdb : server.outbox db = server.outbox state.db) (connection : Nat) :
    (state.record db connection call).Stuck server messages where
  calls := by
    intro other found hfound
    change Function.update state.calls connection (some call) other
      = some found at hfound
    by_cases hsame : other = connection
    · subst hsame
      rw [Function.update_self] at hfound
      obtain rfl := Option.some.inj hfound
      exact hcall
    · rw [Function.update_of_ne hsame] at hfound
      exact h.calls other found hfound
  outbox := hdb.trans h.outbox

theorem Delivery.Stuck.step (hserver : server.Lawful)
    (h : state.Stuck server messages) {next : Delivery Db}
    (hstep : Delivery.Step server state next) : next.Stuck server messages := by
  cases hstep with
  | claim connection tenantId workerId limit claimTimeoutSeconds =>
    apply h.record _ rfl
    exact futile_claimOutbox hserver _ _ _ _
  | deliver connection tenantId workerId messageId =>
    apply h.record _ rfl
    exact futile_markOutboxDelivered hserver _ _ _
  | claimStep connection hcall hstep =>
    have hfutile : Futile server _ := h.calls connection _ hcall
    obtain ⟨hnext, hdb⟩ := hfutile.step hserver hstep
    apply h.record _ hdb
    exact hnext
  | deliverStep connection hcall hstep =>
    have hfutile : Futile server _ := h.calls connection _ hcall
    obtain ⟨hnext, hdb⟩ := hfutile.step hserver hstep
    apply h.record _ hdb
    exact hnext

def Delivery.Idle (server : Server Db) (messages : List OutboxMessage)
    (state : Delivery Db) : Prop :=
  server.outbox state.db = messages ∧ ∀ connection, state.calls connection = none

/-- In every run every claim and every delivery that returns has failed, and
the outbox is as it was: nothing is ever claimed or delivered. -/
theorem outbox_never_delivers (hserver : server.Lawful)
    (h : Reachable (Delivery.Idle server messages) (Delivery.Step server)
      state) : server.outbox state.db = messages ∧
      (∀ connection tenantId workerId limit claimTimeoutSeconds result,
        state.calls connection = some (.claim tenantId workerId limit
          claimTimeoutSeconds (.returns result)) →
        ∀ claimed, result ≠ .ok claimed) ∧
      ∀ connection tenantId workerId messageId result,
        state.calls connection = some (.deliver tenantId workerId messageId
          (.returns result)) → result ≠ .ok () := by
  have hstuck : state.Stuck server messages := by
    apply h.invariant
    · rintro state ⟨hdb, hcalls⟩
      refine ⟨?_, hdb⟩
      intro connection call hcall
      rw [hcalls] at hcall
      contradiction
    · exact fun _ _ _ hkept hstep => hkept.step hserver hstep
  refine ⟨hstuck.outbox, ?_, ?_⟩
  · rintro connection _ _ _ _ result hcall claimed rfl
    have hfutile : Futile server (.returns (.ok claimed)) :=
      hstuck.calls connection _ hcall
    cases hfutile
  · rintro connection _ _ _ result hcall rfl
    have hfutile : Futile server (.returns (.ok ())) := hstuck.calls connection _ hcall
    cases hfutile

end

namespace OutboxRun

def message : OutboxMessage where
  messageId := "outbox.event-1"
  tenantId := "tenant-1"
  eventId := "event-1"
  availableAt := 0
  claimedAt := none
  claimedBy := none
  deliveredAt := none
  createdAt := 0
  attempts := 0

def isKeyWord (word : String) : Bool :=
  word ∈ ["all", "and", "as", "asc", "by", "create", "delete", "desc",
    "distinct", "else", "end", "false", "for", "from", "group", "having", "in",
    "insert", "interval", "into", "is", "limit", "locked", "not", "null", "on",
    "or", "order", "returning", "select", "set", "skip", "table", "true",
    "union", "update", "using", "values", "when", "where", "with"]

def syntaxError : PaperError where
  message := "PostgreSQL operation failed [42601]: syntax error at or near \"=\""

def respond (statement : String) : Result Answer :=
  if isMalformed isKeyWord statement = true then .error syntaxError
  else if isControl statement = true then .ok { rows := [], changed := 0 }
  else .error ⟨"PostgreSQL operation failed [0A000]: feature not supported"⟩

def server : Server (List OutboxMessage) where
  isKeyWord := isKeyWord
  step _ statement _ db db' answer := db' = db ∧ answer = respond statement
  outbox db := db

theorem server_lawful : server.Lawful where
  names := by decide
  refuses := by
    rintro _ statement _ _ _ _ hmalformed ⟨_, rfl⟩
    exact ⟨_, if_pos hmalformed⟩
  keeps := by
    rintro _ _ _ _ _ _ _ ⟨rfl, _⟩
    rfl

def start : Delivery (List OutboxMessage) where
  db := [message]
  calls _ := none

theorem start_idle : start.Idle server [message] := ⟨rfl, fun _ => rfl⟩

theorem respond_control {statement : String}
    (hplain : isMalformed isKeyWord statement = false)
    (hcontrol : isControl statement = true) :
    respond statement = .ok { rows := [], changed := 0 } := by
  rw [respond, if_neg (by simp [hplain]), if_pos hcontrol]

theorem respond_claim : respond (literalText claimLines) = .error syntaxError :=
  if_pos (isMalformed_claim server_lawful)

def Claims (client : Client (List ClaimedMessage)) : Prop :=
  ∃ state : Delivery (List OutboxMessage),
    Reachable (Delivery.Idle server [message]) (Delivery.Step server) state ∧
    state.calls 0 = some (.claim "tenant-1" "worker-1" 10 60 client)

theorem Claims.step {statement : String} {parameters : List SqlValue}
    {next : Result Answer → Client (List ClaimedMessage)}
    (h : Claims (.execute statement parameters next)) {answer : Result Answer}
    (hanswer : respond statement = answer) : Claims (next answer) := by
  obtain ⟨state, hreach, hcall⟩ := h
  exact ⟨_, hreach.step (.claimStep state 0 hcall ⟨rfl, hanswer.symm⟩), rfl⟩

theorem claims_returned : Claims (.returns (.error syntaxError)) := by
  have hstart : Claims (claimOutbox "tenant-1" "worker-1" 10 60) :=
    ⟨_, .step (.init start_idle) (.claim start 0 "tenant-1" "worker-1" 10 60), rfl⟩
  have hcontrol : respond "BEGIN" = .ok ⟨[], 0⟩ := respond_control (by decide) (by decide)
  have hbegin := Claims.step hstart hcontrol
  have htenant := Claims.step hbegin
    (respond_control (by rfl) (by decide))
  have hclaim := Claims.step htenant respond_claim
  exact Claims.step hclaim (respond_control (by decide) (by decide))

/-- Where the claim of the message has come back refused, nothing is claimed or
delivered. -/
theorem nothing_delivered : ∃ state : Delivery (List OutboxMessage),
      state.calls 0 = some (.claim "tenant-1" "worker-1" 10 60
        (.returns (.error syntaxError))) ∧
      server.outbox state.db = [message] ∧
      (∀ connection tenantId workerId limit claimTimeoutSeconds result,
        state.calls connection = some (.claim tenantId workerId limit
          claimTimeoutSeconds (.returns result)) →
        ∀ claimed, result ≠ .ok claimed) ∧
      ∀ connection tenantId workerId messageId result,
        state.calls connection = some (.deliver tenantId workerId messageId
          (.returns result)) → result ≠ .ok () := by
  obtain ⟨state, hreach, hcall⟩ := claims_returned
  exact ⟨state, hcall, outbox_never_delivers server_lawful hreach⟩

/-- A claim of an available message with valid arguments fails. -/
theorem claim_fails : ∃ (state : Delivery (List OutboxMessage)) (e : PaperError),
      Reachable (Delivery.Idle server [message])
        (Delivery.Step server) state ∧
      state.calls 0 = some (.claim "tenant-1" "worker-1" 10 60 (.returns (.error e))) ∧
      server.outbox start.db = [message] ∧ message.claimedAt = none ∧
      message.deliveredAt = none ∧ message.availableAt = 0 := by
  obtain ⟨state, hreach, hcall⟩ := claims_returned
  exact ⟨state, _, hreach, hcall, rfl, rfl, rfl, rfl⟩

end OutboxRun

end Follon.Persistence
