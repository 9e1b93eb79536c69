import AtlasPay.Payments.Inspection

/-!
# Replayed operations and operations that raise

The operation of a call that returned stays under its idempotency key (`Recorded`), whatever is
called afterwards. So the same request with the key returns it again, and another one raises the
conflict. A call that raises leaves the tables as they were.
-/

namespace AtlasPay

open Database

/-- Two calls are the same request, whatever their keys are and what they draw. -/
structure OperationCall.SameRequest (call made : OperationCall) : Prop where
  paymentId : call.paymentId = made.paymentId
  operation : call.operation = made.operation
  sourceAccountId : call.sourceAccountId = made.sourceAccountId
  destinationAccountId : call.destinationAccountId = made.destinationAccountId

namespace ServiceCall

variable {hashtext : String → ℤ} {sha256 : String → Digest} {db : Database}
  {changes : List Change} {held : List Lock}

/-- What is recorded under a key stays. -/
theorem findBy_after {call : ServiceCall}
    (h : Returns hashtext db (body sha256 call) ⟨⟩ changes held) {key : String}
    {row : PaymentOperationRow}
    (hrow : db.paymentOperations.findBy PaymentOperationRow.idempotencyKey key = some row) :
    (after changes db).paymentOperations.findBy PaymentOperationRow.idempotencyKey key =
      some row := by
  rcases operations_after h with hsame | ⟨made, other, -, -, hnew, hput⟩
  · rw [hsame, hrow]
  · rw [hput, Table.findBy_put (operationExists_eq_false.mp hnew).1, hrow, Option.some_or]

end ServiceCall

namespace PaymentOperations

variable {hashtext : String → ℤ} {sha256 : String → Digest} {db db' : Database}
  {call made : OperationCall} {first : OperationResult}

/-- The error of a key that was used for another request. -/
def conflictError : ServiceError :=
  .operationIdempotencyConflict
    "Operation idempotency key was already used with a different request"

/-- The operation of a call that returned is there, under its key. -/
structure Recorded (sha256 : String → Digest) (made : OperationCall) (first : OperationResult)
    (db : Database) : Prop where
  notBlank : isNotBlank made.idempotencyKey = true
  storable : Storable made.idempotencyKey
  distinct : made.sourceAccountId ≠ made.destinationAccountId
  found : ∃ row, db.paymentOperations.findBy PaymentOperationRow.idempotencyKey
      made.idempotencyKey = some row ∧
    row.requestFingerprint = fingerprint sha256 made ∧
    resultFromRow row true = .ok { first with replayed := true }

/-- A call that returned had a key that can be stored, and two accounts. -/
theorem guards_of_returns {changes : List Change} {held : List Lock}
    (h : Returns hashtext db (execute sha256 made) first changes held) :
    isNotBlank made.idempotencyKey = true ∧ Storable made.idempotencyKey ∧
      made.sourceAccountId ≠ made.destinationAccountId := by
  unfold execute at h
  dsimp only at h
  split_ifs at h with hkey hdistinct
  · exact absurd h Engine.executes_fail
  · obtain ⟨hstorable, -⟩ := returns_advisoryXactLock.mp h
    exact ⟨hkey, hstorable, hdistinct⟩
  · exact absurd h Engine.executes_fail

/-- What is read from a row that was recorded: the result of the call, replayed. -/
theorem resultFromRow_operationRow (call : OperationCall) (fingerprint : Digest)
    (current : PaymentStatus) :
    resultFromRow (operationRow call fingerprint current) true =
      .ok ⟨call.operationId, call.paymentId, call.operation, current,
        call.operation.transition.2, call.journalId, true⟩ := by
  unfold resultFromRow operationRow
  simp only [PaymentOperation.ofValue?_value, PaymentStatus.ofValue?_value]
  rfl

/-- A call that returned is recorded. -/
theorem recorded_of_returns {changes : List Change} {held : List Lock}
    (h : Returns hashtext db (execute sha256 made) first changes held) :
    Recorded sha256 made first (after changes db) := by
  obtain ⟨hkey, hstorable, hdistinct⟩ := guards_of_returns h
  refine ⟨hkey, hstorable, hdistinct, ?_⟩
  cases executes_of_returns h with
  | replayed existing hexisting hsame hresult =>
    -- A replay is of an operation that was recorded before.
    have hreplayed : first.replayed = true := by
      unfold resultFromRow at hresult
      split at hresult
      · cases hresult
        rfl
      · cases hresult
    refine ⟨existing, hexisting, hsame, ?_⟩
    rw [hresult, ← hreplayed]
  | recorded payment journal debit credit event hdistinct hpayment hstatus hjournal hjournalNew
      hdebit hcredit hnew =>
    refine ⟨_, ?_, rfl, resultFromRow_operationRow _ _ _⟩
    obtain ⟨hid, hfree, -⟩ := operationExists_eq_false.mp hnew
    change (db.paymentOperations.put _).findBy _ _ = _
    have hnone : db.paymentOperations.findBy PaymentOperationRow.idempotencyKey
        made.idempotencyKey = none := hfree
    rw [Table.findBy_put hid, hnone, Option.none_or]
    exact if_pos rfl

/-- What is recorded stays so, whatever is called. -/
theorem Recorded.of_steps (h : Recorded sha256 made first db)
    {log : List (ServiceCall × Outcome DbError ServiceError PUnit)}
    (hsteps : (ServiceCall.serial hashtext sha256).Steps db log db') :
    Recorded sha256 made first db' := by
  refine hsteps.preserves (P := Recorded sha256 made first) ?_ h
  intro db label db' hdb hstep
  refine Engine.serial_step_preserves (fun db call _ changes held hbefore hexec _ => ?_) hdb hstep
  obtain ⟨row, hrow, hrest⟩ := hbefore.found
  exact ⟨hbefore.notBlank, hbefore.storable, hbefore.distinct, row,
    ServiceCall.findBy_after hexec hrow, hrest⟩

/-- The same request with the key returns the operation again. -/
theorem transact_of_same (h : Recorded sha256 made first db)
    (hkey : call.idempotencyKey = made.idempotencyKey) (hsame : call.SameRequest made) :
    (postgres hashtext).transact db (execute sha256 call) =
      (.returned { first with replayed := true }, db) := by
  obtain ⟨row, hrow, hfingerprint, hresult⟩ := h.found
  have hsameFingerprint : fingerprint sha256 call = fingerprint sha256 made := by
    unfold fingerprint
    rw [hsame.paymentId, hsame.operation, hsame.sourceAccountId, hsame.destinationAccountId]
  have hdistinct : call.sourceAccountId ≠ call.destinationAccountId := by
    rw [hsame.sourceAccountId, hsame.destinationAccountId]
    exact h.distinct
  have hreplay : replay (fingerprint sha256 made) row =
      .done { first with replayed := true } := by
    unfold replay
    rw [if_neg (not_not.mpr hfingerprint), hresult]
  -- The lock, and the operation under the key: the fingerprints are equal.
  have hreturns : Returns hashtext db (execute sha256 call) { first with replayed := true } []
      [.advisory (hashtext made.idempotencyKey)] := by
    unfold execute
    dsimp only
    rw [hkey, if_neg (not_not.mpr h.notBlank), if_neg hdistinct, hsameFingerprint]
    refine returns_advisoryXactLock.mpr ⟨h.storable, [], returns_selectOperation.mpr
      ⟨h.storable, ?_⟩, rfl⟩
    simp only [hrow, hreplay]
    exact Engine.executes_done.mpr ⟨rfl, rfl, rfl⟩
  exact Engine.transact_of_executes hreturns rfl

/-- Another request with the key raises the conflict. -/
theorem transact_of_conflict (h : Recorded sha256 made first db)
    (hkey : call.idempotencyKey = made.idempotencyKey)
    (hdiffers : fingerprint sha256 call ≠ fingerprint sha256 made)
    (hdistinct : call.sourceAccountId ≠ call.destinationAccountId) :
    (postgres hashtext).transact db (execute sha256 call) = (.raised conflictError, db) := by
  obtain ⟨row, hrow, hfingerprint, -⟩ := h.found
  have hreplay : replay (fingerprint sha256 call) row = .fail conflictError := by
    unfold replay
    rw [if_pos (by rw [hfingerprint]; exact hdiffers.symm)]
    rfl
  refine Engine.transact_of_raised ?_
  unfold execute
  dsimp only
  rw [hkey, if_neg (not_not.mpr h.notBlank), if_neg hdistinct]
  have hlocked : (Statement.advisoryXactLock made.idempotencyKey).run db = .ok ((), []) :=
    advisoryXactLock_eq_ok.mpr ⟨h.storable, rfl⟩
  have hselected : (Statement.selectOperation made.idempotencyKey).run db = .ok (some row, []) :=
    selectOperation_eq_ok.mpr ⟨h.storable, hrow.symm, rfl⟩
  have hlock : (postgres hashtext).run (.advisoryXactLock made.idempotencyKey) db =
      .ok ((), []) := hlocked
  have hselect : (postgres hashtext).run (.selectOperation made.idempotencyKey) db =
      .ok (some row, []) := hselected
  rw [Engine.outcome_exec_call hlock, Engine.after_nil, Engine.outcome_exec_call hselect,
    Engine.after_nil]
  simp only [hreplay]
  rfl

/-! ## Replays and rollbacks in every run -/

/-- On the way to the tables, a call of `execute` committed and returned a result. -/
def Committed (hashtext : String → ℤ) (sha256 : String → Digest) (made : OperationCall)
    (first : OperationResult) (db : Database) : Prop :=
  ∃ before db₁ db₂ later, (ServiceCall.serial hashtext sha256).Run before db₁ ∧
    (postgres hashtext).transact db₁ (execute sha256 made) = (.returned first, db₂) ∧
    (ServiceCall.serial hashtext sha256).Steps db₂ later db

/-- A call that committed is recorded. -/
theorem Committed.recorded (h : Committed hashtext sha256 made first db) :
    Recorded sha256 made first db := by
  obtain ⟨before, db₁, db₂, later, -, hmade, hlater⟩ := h
  obtain ⟨changes, held, hreturns, -, rfl⟩ := Engine.transact_eq_returned.mp hmade
  exact (recorded_of_returns hreturns).of_steps hlater

/-- A call with the key of one that committed returns its result again, replayed, or raises the
conflict, as it is the same request or another one. A call that does not return leaves the tables,
and so its key, as they were. Different requests have different fingerprints. -/
theorem replay_and_rollback (hashtext : String → ℤ) (sha256 : String → Digest) (db : Database)
    (call : OperationCall) :
    (∀ made first, Committed hashtext sha256 made first db →
      call.idempotencyKey = made.idempotencyKey →
      (fingerprint sha256 call = fingerprint sha256 made → call.SameRequest made) →
        (call.SameRequest made →
          (postgres hashtext).transact db (execute sha256 call) =
            (.returned { first with replayed := true }, db)) ∧
        (¬call.SameRequest made → call.sourceAccountId ≠ call.destinationAccountId →
          (postgres hashtext).transact db (execute sha256 call) =
            (.raised conflictError, db))) ∧
    ∀ outcome db', (postgres hashtext).transact db (execute sha256 call) = (outcome, db') →
      (∀ result, outcome ≠ .returned result) → db' = db := by
  constructor
  · intro made first hcommitted hkey hfingerprint
    have hrecorded := hcommitted.recorded
    refine ⟨transact_of_same hrecorded hkey, fun hdiffers hdistinct => ?_⟩
    exact transact_of_conflict hrecorded hkey (fun heq => hdiffers (hfingerprint heq)) hdistinct
  · intro outcome db' h hfails
    rcases Engine.transact_cases h with ⟨hsame, -⟩ | ⟨result, changes, held, hreturned, -⟩
    · exact hsame
    · exact absurd hreturned (hfails result)

/-- The capture of the payment, and calls with its key: for the same request, and for another
account. -/
def captureCall (destinationAccountId operationId : String) : OperationCall :=
  ⟨"pay_1", .capture, "acct_cash", destinationAccountId, "capture-1", operationId, "jrn_1",
    "evt_1", 1⟩

/-- After a capture and a refund, the capture is replayed with its key, and another request with
the key raises the conflict. -/
theorem replay_and_rollback_capture : ∃ db,
    Committed Reconciler.hashes Reconciler.digests (captureCall "acct_merchant" "op_1")
      ⟨"op_1", "pay_1", .capture, .authorized, .captured, "jrn_1", false⟩ db ∧
    (postgres Reconciler.hashes).transact db
        (execute Reconciler.digests (captureCall "acct_merchant" "op_3")) =
      (.returned ⟨"op_1", "pay_1", .capture, .authorized, .captured, "jrn_1", true⟩, db) ∧
    ∃ db', (postgres Reconciler.hashes).transact db
        (execute Reconciler.digests (captureCall "acct_cash_2" "op_3")) =
      (.raised conflictError, db') ∧ db' = db := by
  open Reconciler in
  have hcommitted : Committed hashes digests (captureCall "acct_merchant" "op_1")
      ⟨"op_1", "pay_1", .capture, .authorized, .captured, "jrn_1", false⟩
      (leaves (setUp ++ [capture, refund])).2 :=
    ⟨_, _, _, [(refund, .returned ⟨⟩)], run_leaves setUp, rfl, .cons rfl (.nil _)⟩
  have hconflict := ((replay_and_rollback hashes digests _ (captureCall "acct_cash_2" "op_3")).1
    _ _ hcommitted rfl fun h => absurd h (by decide)).2 (fun h => absurd
      h.destinationAccountId (by decide)) (by decide)
  exact ⟨_, hcommitted,
    ((replay_and_rollback hashes digests _ (captureCall "acct_merchant" "op_3")).1
      _ _ hcommitted rfl fun _ => ⟨rfl, rfl, rfl, rfl⟩).1 ⟨rfl, rfl, rfl, rfl⟩,
    _, hconflict, (replay_and_rollback hashes digests _ (captureCall "acct_cash_2" "op_3")).2
      _ _ hconflict fun result => by simp⟩

end PaymentOperations

end AtlasPay
