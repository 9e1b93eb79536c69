import AtlasPay.Library.Grouping
import AtlasPay.Library.Reading
import AtlasPay.Network.History

/-!
# `PostgresOperationalSnapshotReader._measure_database`

`app/operational_snapshot.py`. The reader asks its six statements in one transaction, each of which
sees what is committed when it starts. What PostgreSQL computes of texts and floats is a parameter.
-/

namespace AtlasPay

variable {T : Type} [LinearOrder T] [Zero T]

/-- The tables of the service. -/
structure ObservedTables (T : Type) [LinearOrder T] [Zero T] where
  tables : Database
  networkObservations : List (NetworkObservationRow T)

/-- What other programs commit: a call of `record`, which commits nothing when it raises, or changes
to the other tables. -/
inductive ObservedCommit (T : Type) [LinearOrder T] [Zero T] where
  | record (observation : NetworkObservation T)
  | change (tables : Database)

/-- The row of a call of `record`. -/
def ObservedCommit.row? : ObservedCommit T → Option (NetworkObservationRow T)
  | record observation => observation.record.toOption
  | change _ => none

/-- What a commit does to the tables. -/
def ObservedCommit.apply (commit : ObservedCommit T) (c : ObservedTables T) : ObservedTables T :=
  match commit with
  | record _ => { c with networkObservations := c.networkObservations ++ commit.row?.toList }
  | change tables => { c with tables := tables }

/-- What the database computes: the collation of `ORDER BY`, the time at which the transaction of
the reader started, microseconds as seconds, and `percentile_cont(0.95)`, which is null of no
rows. -/
structure Server (T : Type) where
  collate : String → String → Bool
  now : Timestamp
  epoch : ℤ → T
  percentile95 : List T → Option T

/-- The statements of `_measure_database`. -/
inductive SnapshotStatement where
  | paymentStatuses
  | paymentOperations
  | outboxEvents (maxAttempts : ℤ)
  | networkTotals
  | networkDispositions
  | networkRoutes
  deriving DecidableEq, Repr

/-- A row of the last statement, and `RouteNetworkSummary`. -/
structure RouteNetworkSummary (T : Type) where
  routeName : String
  issuerId : String
  acquirerId : String
  observations : ℕ
  accepted : ℕ
  timeouts : ℕ
  lateResponses : ℕ
  deliveryUnknown : ℕ
  p95LatencyMs : T
  deriving DecidableEq

namespace SnapshotStatement

/-- What a statement is answered with. -/
@[reducible]
def Answer (T : Type) : SnapshotStatement → Type
  | paymentStatuses => List (String × ℕ)
  | paymentOperations => ℕ
  | outboxEvents _ => ℕ × ℕ × T
  | networkTotals => ℕ × ℕ × ℕ × T
  | networkDispositions => List (String × ℕ)
  | networkRoutes => List (RouteNetworkSummary T)

/-- `published_at IS NULL`. -/
def isUnpublished (row : OutboxEventRow) : Bool := row.publishedAt.isNone

/-- `transport_outcome = 'timeout'`. -/
def isTimeout (row : NetworkObservationRow T) : Bool := row.transportOutcome = "timeout"

/-- `disposition = 'late'`. -/
def isLate (row : NetworkObservationRow T) : Bool := row.disposition = some "late"

/-- `disposition = 'accepted'`. -/
def isAccepted (row : NetworkObservationRow T) : Bool := row.disposition = some "accepted"

/-- The columns of the last `GROUP BY`. -/
def route (row : NetworkObservationRow T) : String × String × String :=
  (row.routeName, row.issuerId, row.acquirerId)

/-- `ORDER BY route_name, issuer_id, acquirer_id`. -/
def inRouteOrder (collate : String → String → Bool) (a b : String × String × String) : Bool :=
  if a.1 ≠ b.1 then collate a.1 b.1
  else if a.2.1 ≠ b.2.1 then collate a.2.1 b.2.1
  else collate a.2.2 b.2.2

/-- `COALESCE(percentile_cont(0.95) WITHIN GROUP (ORDER BY latency_ms), 0)`. -/
def p95 (server : Server T) (rows : List (NetworkObservationRow T)) : T :=
  (server.percentile95 (rows.map NetworkObservationRow.latencyMs)).getD 0

/-- The row of a route. -/
def routeRow (server : Server T)
    (group : (String × String × String) × List (NetworkObservationRow T)) :
    RouteNetworkSummary T where
  routeName := group.1.1
  issuerId := group.1.2.1
  acquirerId := group.1.2.2
  observations := group.2.length
  accepted := group.2.countP isAccepted
  timeouts := group.2.countP isTimeout
  lateResponses := group.2.countP isLate
  deliveryUnknown := group.2.countP NetworkObservationRow.deliveryUnknown
  p95LatencyMs := p95 server group.2

/-- A statement on what is committed. -/
def answer (server : Server T) : (s : SnapshotStatement) → ObservedTables T → Answer T s
  | paymentStatuses, c =>
    (groups PaymentRow.status server.collate c.tables.payments.rows).map
      fun group => (group.1, group.2.length)
  | paymentOperations, c => c.tables.paymentOperations.rows.length
  | outboxEvents maxAttempts, c =>
    let unpublished := c.tables.outboxEvents.rows.filter isUnpublished
    (unpublished.length, unpublished.countP fun row => maxAttempts ≤ row.attempts,
      ((unpublished.map OutboxEventRow.createdAt).min?.map
        fun oldest => server.epoch (server.now - oldest)).getD 0)
  | networkTotals, c =>
    (c.networkObservations.length, c.networkObservations.countP isTimeout,
      c.networkObservations.countP isLate, p95 server c.networkObservations)
  | networkDispositions, c =>
    (groups id server.collate
      (c.networkObservations.filterMap NetworkObservationRow.disposition)).map
      fun group => (group.1, group.2.length)
  | networkRoutes, c =>
    (groups route (inRouteOrder server.collate) c.networkObservations).map (routeRow server)

end SnapshotStatement

/-- `DatabaseMeasurements`. -/
structure DatabaseMeasurements (T : Type) where
  paymentTotal : ℕ
  paymentStatusCounts : List (String × ℕ)
  operationCount : ℕ
  unpublishedOutbox : ℕ
  poisonOutbox : ℕ
  oldestUnpublishedAgeSeconds : T
  networkObservations : ℕ
  networkDispositionCounts : List (String × ℕ)
  networkTimeouts : ℕ
  networkLateResponses : ℕ
  networkP95LatencyMs : T
  networkRoutes : List (RouteNetworkSummary T)

/-- `_measure_database`. -/
def measureDatabase (outboxMaxAttempts : ℤ) :
    Program (SnapshotStatement.Answer T) Empty (DatabaseMeasurements T) :=
  .call .paymentStatuses fun statusCounts =>
    .call .paymentOperations fun operationCount =>
      .call (.outboxEvents outboxMaxAttempts) fun (unpublished, poison, oldestAge) =>
        .call .networkTotals fun (networkTotal, networkTimeouts, networkLate, networkP95) =>
          .call .networkDispositions fun networkDispositions =>
            .call .networkRoutes fun networkRoutes =>
              .done
                { paymentTotal := (statusCounts.map Prod.snd).sum
                  paymentStatusCounts := statusCounts
                  operationCount := operationCount
                  unpublishedOutbox := unpublished
                  poisonOutbox := poison
                  oldestUnpublishedAgeSeconds := max oldestAge 0
                  networkObservations := networkTotal
                  networkDispositionCounts := networkDispositions
                  networkTimeouts := networkTimeouts
                  networkLateResponses := networkLate
                  networkP95LatencyMs := max networkP95 0
                  networkRoutes := networkRoutes.map fun row =>
                    { row with p95LatencyMs := max row.p95LatencyMs 0 } }

end AtlasPay
