import AtlasPay.Database.Statements

/-!
# `PostgresOutbox` and `PostgresReplayController`

`claim_batch`, `acknowledge` and `record_failure` of `app/outbox.py`, and `reset_outbox_event` of
`app/reconciliation.py`, as programs of statements. The time of a call, and which rows are locked by
others when it claims, are arguments.
-/

namespace AtlasPay

/-- `OutboxEvent`. -/
structure OutboxEvent where
  id : String
  aggregateType : String
  aggregateId : String
  eventType : String
  payload : JsonObject
  attempts : ℤ
  deriving DecidableEq, Repr

namespace Outbox

/-- `_row_to_event`. -/
def rowToEvent (row : OutboxEventRow) : OutboxEvent :=
  ⟨row.id, row.aggregateType, row.aggregateId, row.eventType, row.payload, row.attempts⟩

/-- `claim_batch`. -/
def claimBatch (batchSize maxAttempts leaseSeconds : ℤ) (now : Timestamp)
    (skipped : List String) : Service (List OutboxEvent) :=
  if batchSize ≤ 0 then .fail (.valueError "batch_size must be positive")
  else if maxAttempts ≤ 0 then .fail (.valueError "max_attempts must be positive")
  else if leaseSeconds ≤ 0 then .fail (.valueError "lease_seconds must be positive")
  else
    .call (.selectClaimableEvents now maxAttempts leaseSeconds batchSize skipped) fun rows =>
      match rows.map rowToEvent with
      | [] => .done []
      | event :: rest =>
        .call (.lockEvents ((event :: rest).map OutboxEvent.id) now) fun _ => .done (event :: rest)

/-- `acknowledge`. -/
def acknowledge (eventId : String) (now : Timestamp) : Service Bool :=
  .call (.updateUnpublishedEvent eventId (.acknowledged now)) fun updated => .done updated

/-- `record_failure`. -/
def recordFailure (eventId error : String) : Service Bool :=
  .call (.updateUnpublishedEvent eventId (.failed (String.ofList (error.toList.take 1000))))
    fun updated => .done updated

/-- `reset_outbox_event`. -/
def resetOutboxEvent (eventId : String) : Service Bool :=
  if ¬isNotBlank eventId then .fail (.valueError "event_id must not be empty")
  else .call (.updateUnpublishedEvent eventId .reset) fun updated => .done updated

end Outbox

end AtlasPay
