import AtlasPay.Database.Answers

/-!
# `AuthorizationService`

`authorize` of the Java service, as a program of statements on the tables of migrations 004 and 006.
The lookup of a key and the insert of its decision are two statements. The identifiers that a call
draws, and the moment of its transaction, are arguments.
-/

namespace AtlasPay

/-- A UUID: its text is read back as the same UUID. -/
abbrev Uuid := BitVec 128

namespace AuthorizationController

/-- `AuthorizationRequest`. Its validation lets a currency through that is null. -/
structure AuthorizationRequest where
  paymentId : String
  issuerId : String
  amountMinor : ℤ
  currency : Option String
  deriving DecidableEq, Repr

/-- `AuthorizationResponse`. -/
structure AuthorizationResponse where
  decisionId : Uuid
  paymentId : String
  status : String
  reason : String
  deriving DecidableEq, Repr

end AuthorizationController

open AuthorizationController (AuthorizationResponse)

/-! ## The tables -/

/-- A text that a `VARCHAR(n)` column holds. -/
abbrev Varchar (n : ℕ) := { s : String // s.length ≤ n }

/-- A row of `authorization_decisions`. -/
structure AuthorizationDecisionRow where
  decisionId : Uuid
  idempotencyKey : Varchar 128
  paymentId : Varchar 128
  issuerId : Varchar 128
  amountMinor : { n : ℤ // n < 2 ^ 63 }
  currency : { s : String // s.length = 3 }
  status : Varchar 32
  reason : Varchar 64

namespace AuthorizationDecisionRow

/-- The key of a row. -/
def key (row : AuthorizationDecisionRow) : String := row.idempotencyKey.1

/-- The response that is read from a row. -/
def response (row : AuthorizationDecisionRow) : AuthorizationResponse :=
  ⟨row.decisionId, row.paymentId.1, row.status.1, row.reason.1⟩

/-- A key has at most 128 characters. -/
theorem length_key_le (row : AuthorizationDecisionRow) : row.key.length ≤ 128 :=
  row.idempotencyKey.2

end AuthorizationDecisionRow

/-- The tables that `authorize` reads and writes. -/
structure AuthorizationTables where
  decisions : Table AuthorizationDecisionRow.decisionId
  outboxEvents : Table OutboxEventRow.id

/-- A change to these tables. -/
inductive AuthorizationChange where
  | insertDecision (row : AuthorizationDecisionRow)
  | insertOutboxEvent (row : OutboxEventRow)

namespace AuthorizationTables

/-- The tables after their migrations. -/
def migrated : AuthorizationTables := ⟨.empty, .empty⟩

/-- What a change does to the tables. -/
def apply (change : AuthorizationChange) (tables : AuthorizationTables) : AuthorizationTables :=
  match change with
  | .insertDecision row => { tables with decisions := tables.decisions.put row }
  | .insertOutboxEvent row => { tables with outboxEvents := tables.outboxEvents.put row }

/-- A decision with a key is there. -/
def HasKey (tables : AuthorizationTables) (key : String) : Prop :=
  ∃ row ∈ tables.decisions.rows, row.key = key

/-- A decision with the id or the idempotency key is there. -/
def decisionExists (tables : AuthorizationTables) (row : AuthorizationDecisionRow) : Bool :=
  (tables.decisions.find? row.decisionId).isSome ||
    (tables.decisions.findBy AuthorizationDecisionRow.key row.key).isSome

end AuthorizationTables

/-! ## The statements -/

namespace AuthorizationTables

/-- The row of a decision, where its values fit. -/
def decisionRow (decisionId : Uuid) (key : String)
    (request : AuthorizationController.AuthorizationRequest) (status reason : String) :
    Except DbError AuthorizationDecisionRow := do
  text key
  text request.paymentId
  text request.issuerId
  text (request.currency.getD "")
  text status
  text reason
  let idempotencyKey ← varchar 128 key
  let paymentId ← varchar 128 request.paymentId
  let issuerId ← varchar 128 request.issuerId
  let amountMinor ← bigint request.amountMinor
  let currency ← bpchar 3 (request.currency.getD "")
  let status ← varchar 32 status
  let reason ← varchar 64 reason
  -- A null is refused once the values are in the types of the columns.
  if request.currency = none then throw .notNull
  else
    pure ⟨decisionId, idempotencyKey, paymentId, issuerId, amountMinor, currency, status, reason⟩

/-- `select decision_id,payment_id,status,reason from authorization_decisions where
idempotency_key=?`. -/
def selectDecisions (tables : AuthorizationTables) (key : String) :
    Except DbError (List AuthorizationResponse × List AuthorizationChange) := do
  text key
  let found := tables.decisions.rows.filter fun row => row.key = key
  pure (found.map AuthorizationDecisionRow.response, [])

/-- `insert into authorization_decisions`. -/
def insertDecision (tables : AuthorizationTables) (decisionId : Uuid) (key : String)
    (request : AuthorizationController.AuthorizationRequest) (status reason : String) :
    Except DbError (Unit × List AuthorizationChange) := do
  let row ← decisionRow decisionId key request status reason
  if tables.decisionExists row then throw .unique
  else pure ((), [.insertDecision row])

/-- `insert into outbox_events`. -/
def insertOutboxEvent (tables : AuthorizationTables)
    (id aggregateType aggregateId eventType : String) (payload : JsonObject) (now : Timestamp) :
    Except DbError (Unit × List AuthorizationChange) := do
  let row ← Database.outboxEventRow id aggregateType aggregateId eventType payload now
  if tables.outboxEvents.find? row.id ≠ none then throw .unique
  else pure ((), [.insertOutboxEvent row])

end AuthorizationTables

/-- The statements of `authorize`. -/
inductive AuthorizationStatement where
  | selectDecisions (key : String)
  | insertDecision (decisionId : Uuid) (key : String)
      (request : AuthorizationController.AuthorizationRequest) (status reason : String)
  | insertOutboxEvent (id aggregateType aggregateId eventType : String) (payload : JsonObject)
      (now : Timestamp)

/-- What an insert locks: its places in the unique indexes. -/
inductive AuthorizationLock where
  | decision (decisionId : Uuid)
  | decisionKey (idempotencyKey : String)
  | outboxEvent (id : String)
  deriving DecidableEq

namespace AuthorizationStatement

/-- What a statement is answered with. -/
@[reducible]
def Answer : AuthorizationStatement → Type
  | selectDecisions _ => List AuthorizationResponse
  | _ => Unit

/-- A statement on what its transaction sees. -/
def run : (s : AuthorizationStatement) → AuthorizationTables →
    Except DbError (s.Answer × List AuthorizationChange)
  | selectDecisions key, tables => tables.selectDecisions key
  | insertDecision decisionId key request status reason, tables =>
    tables.insertDecision decisionId key request status reason
  | insertOutboxEvent id aggregateType aggregateId eventType payload now, tables =>
    tables.insertOutboxEvent id aggregateType aggregateId eventType payload now

/-- The locks that a statement waits for and keeps: an insert, those of its unique keys, where they
are not taken. -/
def locks (tables : AuthorizationTables) : AuthorizationStatement → List AuthorizationLock
  | selectDecisions _ => []
  | insertDecision decisionId key request status reason =>
    match AuthorizationTables.decisionRow decisionId key request status reason with
    | .ok row =>
      if tables.decisionExists row then []
      else [.decision row.decisionId, .decisionKey row.key]
    | .error _ => []
  | insertOutboxEvent id _ _ _ _ _ =>
    if (tables.outboxEvents.find? id).isSome then [] else [.outboxEvent id]

end AuthorizationStatement

/-- PostgreSQL, on these tables. Nothing is checked at commit. -/
def authorizationPostgres : Engine AuthorizationStatement.Answer AuthorizationTables
    AuthorizationChange AuthorizationLock DbError where
  run s tables := s.run tables
  apply change tables := tables.apply change
  settle _ _ := pure ⟨⟩
  needs s tables := s.locks tables
  takes s tables := s.locks tables
  takes_subset _ _ := List.Subset.refl _

/-! ## The service -/

/-- A call of `authorize`, with the ids that it draws and the moment of its transaction. -/
structure AuthorizeCall where
  key : String
  request : AuthorizationController.AuthorizationRequest
  decisionId : Uuid
  eventId : String
  now : Timestamp
  deriving DecidableEq, Repr

namespace AuthorizationService

/-- The status that is decided. -/
def status (request : AuthorizationController.AuthorizationRequest) : String :=
  if request.amountMinor > 1000000 then "declined" else "approved"

/-- The reason of a status. -/
def reason (status : String) : String :=
  if status = "approved" then "issuer_approved" else "amount_limit"

/-- `authorizationPayload`. -/
def authorizationPayload (status : String) : JsonObject := [("status", .str status)]

/-- The response to a call that decides. -/
def decided (call : AuthorizeCall) : AuthorizationResponse :=
  ⟨call.decisionId, call.request.paymentId, status call.request, reason (status call.request)⟩

/-- The event of a decision. -/
def recordEvent (call : AuthorizeCall) :
    Program AuthorizationStatement.Answer Empty AuthorizationResponse :=
  .call (.insertOutboxEvent call.eventId "payment" call.request.paymentId "authorization.decided"
    (authorizationPayload (status call.request)) call.now) fun _ =>
  .done (decided call)

/-- A decision, where none was found. -/
def recordDecision (call : AuthorizeCall) :
    Program AuthorizationStatement.Answer Empty AuthorizationResponse :=
  .call (.insertDecision call.decisionId call.key call.request (status call.request)
    (reason (status call.request))) fun _ =>
  recordEvent call

/-- `authorize`. -/
def authorize (call : AuthorizeCall) :
    Program AuthorizationStatement.Answer Empty AuthorizationResponse :=
  .call (.selectDecisions call.key) fun existing =>
  match existing with
  | response :: _ => .done response
  | [] => recordDecision call

end AuthorizationService

/-! ## When the statements are answered -/

namespace AuthorizationTables

variable {tables : AuthorizationTables} {changes : List AuthorizationChange}
  {request : AuthorizationController.AuthorizationRequest}

/-- The row of a decision has its values, but for what the columns do not keep. -/
theorem decisionRow_eq_ok {decisionId : Uuid} {key status reason : String}
    {row : AuthorizationDecisionRow}
    (h : decisionRow decisionId key request status reason = .ok row) :
    row.decisionId = decisionId ∧ row.key = keptText 128 key ∧
      varchar 128 request.paymentId = .ok row.paymentId ∧ row.status.1 = keptText 32 status ∧
      row.reason.1 = keptText 64 reason := by
  unfold decisionRow at h
  simp only [bind_eq_ok, text_eq_ok] at h
  obtain ⟨-, -, -, -, -, -, -, -, -, -, -, -, key', hkey, paymentId', hpaymentId, issuerId', -,
    amountMinor', -, currency', -, status', hstatus, reason', hreason, h⟩ := h
  split at h
  · exact absurd h throw_ne_ok
  · rw [pure_eq_ok] at h
    subst h
    exact ⟨rfl, (varchar_eq_ok.mp hkey).2, hpaymentId,
      (varchar_eq_ok.mp hstatus).2, (varchar_eq_ok.mp hreason).2⟩

/-- Decisions are selected by their key. -/
theorem selectDecisions_eq_ok {key : String} {found : List AuthorizationResponse} :
    tables.selectDecisions key = .ok (found, changes) ↔
      Storable key ∧ changes = [] ∧
        found = (tables.decisions.rows.filter fun row => row.key = key).map
          AuthorizationDecisionRow.response := by
  unfold selectDecisions
  simp only [bind_eq_ok, text_eq_ok, pure_pair_eq_ok, exists_const, and_comm]

/-- No decision has the id or the key. -/
theorem decisionExists_eq_false {row : AuthorizationDecisionRow} :
    tables.decisionExists row = false ↔ tables.decisions.find? row.decisionId = none ∧
      ¬tables.HasKey row.key := by
  have hkey : tables.decisions.findBy AuthorizationDecisionRow.key row.key =
      none ↔ ¬tables.HasKey row.key := by
    rw [Table.findBy_eq_none_iff, HasKey]
    simp
  unfold decisionExists
  rw [← hkey]
  simp

/-- A decision is inserted when its values fit, and its id and its key are new. -/
theorem insertDecision_eq_ok {decisionId : Uuid} {key status reason : String} {u : Unit} :
    tables.insertDecision decisionId key request status reason = .ok (u, changes) ↔
      ∃ row, decisionRow decisionId key request status reason = .ok row ∧
        tables.decisionExists row = false ∧ changes = [.insertDecision row] := by
  unfold insertDecision
  simp only [bind_eq_ok, ite_throw_eq_ok, pure_pair_eq_ok, true_and, Bool.not_eq_true]

/-- An event is inserted when its values fit and its id is new. -/
theorem insertOutboxEvent_eq_ok {id aggregateType aggregateId eventType : String}
    {payload : JsonObject} {now : Timestamp} {u : Unit} :
    tables.insertOutboxEvent id aggregateType aggregateId eventType payload now =
        .ok (u, changes) ↔
      ∃ row, Database.outboxEventRow id aggregateType aggregateId eventType payload now =
          .ok row ∧
        tables.outboxEvents.find? row.id = none ∧ changes = [.insertOutboxEvent row] := by
  unfold insertOutboxEvent
  simp only [bind_eq_ok, ite_throw_eq_ok, pure_pair_eq_ok, not_not, true_and, ne_eq]

/-- The keys that are stored have at most 128 characters. -/
theorem HasKey.length_le {key : String} (h : tables.HasKey key) : key.length ≤ 128 := by
  obtain ⟨row, -, rfl⟩ := h
  exact row.length_key_le

/-- A new decision leaves the keys that were there, and adds its own. -/
theorem hasKey_insertDecision {row : AuthorizationDecisionRow}
    (habsent : tables.decisions.find? row.decisionId = none) (key : String) :
    (tables.apply (.insertDecision row)).HasKey key ↔
      tables.HasKey key ∨ row.key = key := by
  have hrows : (tables.decisions.put row).rows = tables.decisions.rows ++ [row] :=
    Table.rows_put_of_absent habsent
  unfold HasKey apply
  simp only [hrows, List.mem_append, List.mem_singleton, or_and_right, exists_or, exists_eq_left]

end AuthorizationTables

/-! ## What `authorize` does -/

namespace AuthorizationService

/-- How a call ends. -/
abbrev Ended := Outcome DbError Empty AuthorizationResponse

variable {tables : AuthorizationTables} {call : AuthorizeCall} {response : AuthorizationResponse}
  {changes : List AuthorizationChange} {held : List AuthorizationLock}

/-- What is decided is short enough to be stored as it is. -/
theorem keptText_decided (request : AuthorizationController.AuthorizationRequest) :
    keptText 32 (status request) = status request ∧
      keptText 64 (reason (status request)) = reason (status request) := by
  unfold status
  split <;> exact ⟨by decide, by decide⟩

/-- The row and the event of a decision. -/
structure Decides (call : AuthorizeCall) (row : AuthorizationDecisionRow)
    (event : OutboxEventRow) : Prop where
  row_eq : AuthorizationTables.decisionRow call.decisionId call.key call.request
    (status call.request) (reason (status call.request)) = .ok row
  event_eq : Database.outboxEventRow call.eventId "payment" call.request.paymentId
    "authorization.decided" (authorizationPayload (status call.request)) call.now = .ok event

/-- The ends of `authorize`: a decision that was there, or a new one with its event. -/
inductive Authorizes (tables : AuthorizationTables) (call : AuthorizeCall) :
    AuthorizationResponse → List AuthorizationChange → Prop where
  | found (row : AuthorizationDecisionRow) (hrow : row ∈ tables.decisions.rows)
      (hkey : row.key = call.key) : Authorizes tables call row.response []
  | decided (row : AuthorizationDecisionRow) (event : OutboxEventRow)
      (hdecides : Decides call row event) (hnew : tables.decisionExists row = false)
      (heventNew : tables.outboxEvents.find? event.id = none) :
      Authorizes tables call (decided call) [.insertDecision row, .insertOutboxEvent event]

/-- What `authorize` did when its transaction committed, for a key that can be stored. -/
theorem authorizes_of_executes
    (h : authorizationPostgres.Executes tables (authorize call) response changes held) :
    Storable call.key ∧ Authorizes tables call response changes := by
  obtain ⟨found, first, rest, locks, hselect, hnext, rfl, -⟩ := Engine.executes_call.mp h
  obtain ⟨hkey, rfl, rfl⟩ := AuthorizationTables.selectDecisions_eq_ok.mp hselect
  refine ⟨hkey, ?_⟩
  cases hfound : tables.decisions.rows.filter fun row => row.key = call.key with
  | cons row others =>
    rw [hfound] at hnext
    obtain ⟨rfl, rfl, -⟩ := Engine.executes_done.mp hnext
    have hmem : row ∈ tables.decisions.rows.filter fun row => row.key = call.key := by
      rw [hfound]
      exact List.mem_cons_self
    obtain ⟨hrow, hrowKey⟩ := List.mem_filter.mp hmem
    exact .found row hrow (by simpa using hrowKey)
  | nil =>
    rw [hfound] at hnext
    obtain ⟨_, first', rest', locks', hinsert, hrest, rfl, -⟩ := Engine.executes_call.mp hnext
    obtain ⟨row, hrow, hnew, rfl⟩ := AuthorizationTables.insertDecision_eq_ok.mp hinsert
    obtain ⟨_, first', rest', locks', hinsert, hdone, rfl, -⟩ := Engine.executes_call.mp hrest
    obtain ⟨event, hevent, heventNew, rfl⟩ :=
      AuthorizationTables.insertOutboxEvent_eq_ok.mp hinsert
    obtain ⟨rfl, rfl, -⟩ := Engine.executes_done.mp hdone
    exact .decided row event ⟨hrow, hevent⟩ hnew heventNew

end AuthorizationService

end AtlasPay
