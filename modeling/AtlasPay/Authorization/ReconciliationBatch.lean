import AtlasPay.Authorization.Decisions
import AtlasPay.Library.Chunks

/-!
# `ReconciliationBatchConfiguration`

The reconciliation job of the Java service, on the tables of migration 006. The cursor of the reader
answers with the rows that are pending when it is opened, and each chunk is written in a transaction
of its own. A text that was read from a column fits the column of the same type that it is written
to. The instants at which items are processed are not determined.
-/

namespace AtlasPay

/-! ## The tables -/

/-- A row of `reconciliation_items`. -/
structure ReconciliationItemRow where
  itemId : Uuid
  paymentId : Varchar 128
  expectedStatus : Varchar 32
  observedStatus : Option (Varchar 32)
  amountMinor : { n : ℤ // n < 2 ^ 63 }
  createdAt : Timestamp
  processedAt : Option Timestamp
  deriving DecidableEq

/-- A row of `reconciliation_results`. -/
structure ReconciliationResultRow where
  itemId : Uuid
  paymentId : Varchar 128
  matchStatus : Varchar 32
  deltaMinor : { n : ℤ // n < 2 ^ 63 }
  processedAt : Timestamp
  deriving DecidableEq

/-- The two tables, of which the second refers to the first. -/
structure ReconciliationTables where
  items : Table ReconciliationItemRow.itemId
  results : Table ReconciliationResultRow.itemId
  references : ∀ row ∈ results.rows, (items.find? row.itemId).isSome

namespace ReconciliationBatch

/-- `ReconciliationItem`. -/
structure ReconciliationItem where
  itemId : Uuid
  paymentId : Varchar 128
  expectedStatus : Varchar 32
  observedStatus : Option (Varchar 32)
  amountMinor : { n : ℤ // n < 2 ^ 63 }
  deriving DecidableEq

/-- `ReconciliationResult`. -/
structure ReconciliationResult where
  itemId : Uuid
  paymentId : Varchar 128
  matchStatus : Varchar 32
  deltaMinor : { n : ℤ // n < 2 ^ 63 }
  processedAt : Timestamp
  deriving DecidableEq

/-! ## The beans -/

/-- `processed_at is null`. -/
def isPending (row : ReconciliationItemRow) : Bool := row.processedAt.isNone

/-- `order by created_at,item_id`. -/
def inOrder (a b : ReconciliationItemRow) : Prop :=
  a.createdAt < b.createdAt ∨ a.createdAt = b.createdAt ∧ a.itemId ≤ b.itemId

instance : DecidableRel inOrder := fun _ _ => inferInstanceAs (Decidable (_ ∨ _))

/-- The mapper of the rows of `reconciliationReader`. -/
def rowMapper (row : ReconciliationItemRow) : ReconciliationItem :=
  ⟨row.itemId, row.paymentId, row.expectedStatus, row.observedStatus, row.amountMinor⟩

/-- `reconciliationReader`: what its cursor answers with. -/
def reconciliationReader (tables : ReconciliationTables) : List ReconciliationItem :=
  ((tables.items.rows.filter isPending).insertionSort inOrder).map rowMapper

/-- The status of a match: a null observed status equals none. -/
def matchStatus (item : ReconciliationItem) : Varchar 32 :=
  if some item.expectedStatus = item.observedStatus then ⟨"MATCHED", by decide⟩
  else ⟨"MISMATCH", by decide⟩

/-- A `BIGINT` column holds zero. -/
theorem zero_bigint : (0 : ℤ) < 2 ^ 63 := by decide

/-- `reconciliationProcessor`, at an instant. -/
def reconciliationProcessor (item : ReconciliationItem) (now : Timestamp) : ReconciliationResult :=
  ⟨item.itemId, item.paymentId, matchStatus item, ⟨0, zero_bigint⟩, now⟩

/-- The row of a result. -/
def ReconciliationResult.row (result : ReconciliationResult) : ReconciliationResultRow :=
  ⟨result.itemId, result.paymentId, result.matchStatus, result.deltaMinor, result.processedAt⟩

/-- `do update set`: the payment of the row stays. -/
def ReconciliationResult.update (result : ReconciliationResult) (row : ReconciliationResultRow) :
    ReconciliationResultRow :=
  { row with
    matchStatus := result.matchStatus
    deltaMinor := result.deltaMinor
    processedAt := result.processedAt }

/-- `reconciliationWriter`, for one result: it is inserted, or updates the row with its key. -/
def reconciliationWriter (result : ReconciliationResult) (tables : ReconciliationTables) :
    Except DbError ReconciliationTables :=
  if hitem : (tables.items.find? result.itemId).isSome then
    pure
      { items := tables.items
        results := tables.results.upsert result.row result.update fun _ => rfl
        references := fun row hrow => by
          rcases Table.key_eq_or_mem_of_mem_upsert hrow with hkey | hrow
          · rw [hkey]
            exact hitem
          · exact tables.references row hrow }
  else throw .foreignKey

/-- `reconciliationStep`. -/
def reconciliationStep :
    ChunkStep ReconciliationItem ReconciliationResult ReconciliationTables DbError where
  size := 100
  processes item result := ∃ now, result = reconciliationProcessor item now
  write := reconciliationWriter

/-- `reconciliationJob`, launched on some tables. -/
def reconciliationJob (tables : ReconciliationTables) :
    Lts (StepExecution ReconciliationItem ReconciliationTables) (StepLabel ReconciliationResult) :=
  reconciliationStep.execution (reconciliationReader tables) tables

end ReconciliationBatch

end AtlasPay
