import AtlasPay.Database.Statements
import AtlasPay.Network.Flow

/-!
# `PostgresNetworkObservationWriter.record`

`app/network_history.py` and migration 005. A call inserts one row in a transaction of its own. Its
id and the time of recording are given by the database, and no query on the table asks for them.
-/

namespace AtlasPay

variable {T : Type} [LE T] [Zero T]

/-- A row of `network_observations`. -/
structure NetworkObservationRow (T : Type) [LE T] [Zero T] where
  routeName : String
  issuerId : String
  acquirerId : String
  transportOutcome : String
  disposition : Option String
  deliveryUnknown : Bool
  latencyMs : T
  reversalReason : Option String
  transportOutcome_check : transportOutcome ∈ ["response", "timeout", "failure"]
  disposition_check : ∀ value ∈ disposition,
    value ∈ ["accepted", "mismatched", "timed_out", "late", "duplicate"]
  latencyMs_check : 0 ≤ latencyMs
  reversalReason_check : ∀ value ∈ reversalReason, value ∈ ["timeout", "late_response", "operator"]

/-- The values of outcomes pass the check of their column. -/
theorem TransportOutcome.value_mem (outcome : TransportOutcome) :
    outcome.value ∈ ["response", "timeout", "failure"] := by
  cases outcome <;> decide

/-- The values of dispositions pass the check of their column. -/
theorem TransactionDisposition.value_mem (disposition : TransactionDisposition) :
    disposition.value ∈ ["accepted", "mismatched", "timed_out", "late", "duplicate"] := by
  cases disposition <;> decide

/-- The values of reasons pass the check of their column. -/
theorem ReversalReason.value_mem (reason : ReversalReason) :
    reason.value ∈ ["timeout", "late_response", "operator"] := by
  cases reason <;> decide

/-- The row that `record` inserts, where its texts can be stored. -/
def NetworkObservation.record (observation : NetworkObservation T) :
    Except DbError (NetworkObservationRow T) := do
  text observation.route.name
  text observation.route.issuerId
  text observation.route.acquirerId
  pure
    { routeName := observation.route.name
      issuerId := observation.route.issuerId
      acquirerId := observation.route.acquirerId
      transportOutcome := observation.transportOutcome.value
      disposition := observation.disposition.map TransactionDisposition.value
      deliveryUnknown := observation.deliveryUnknown
      latencyMs := observation.latencyMs
      reversalReason := observation.reversalReason.map ReversalReason.value
      transportOutcome_check := observation.transportOutcome.value_mem
      disposition_check := by
        intro value hvalue
        obtain ⟨disposition, -, rfl⟩ := Option.map_eq_some_iff.mp hvalue
        exact disposition.value_mem
      latencyMs_check := observation.latencyMs_nonneg
      reversalReason_check := by
        intro value hvalue
        obtain ⟨reason, -, rfl⟩ := Option.map_eq_some_iff.mp hvalue
        exact reason.value_mem }

end AtlasPay
