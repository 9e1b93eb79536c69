import AtlasPay.Payments.Concurrency

/-!
# Payments that are created once for each key

Calls of `create_payment` with keys, in sessions whose statements come in any order that PostgreSQL
admits. What is committed is that of whole calls one after the other, so it is enough to say how a
call ends on what earlier calls have left (`Ends`), and that each of these ends keeps `Idempotent`.
-/

namespace AtlasPay

open Database PaymentRepository

/-- A call of `create_payment` with a key, and what it draws. -/
structure CreateCall where
  request : CreatePaymentRequest
  idempotencyKey : String
  id : String
  now : Timestamp
  idempotencyKey_ne : idempotencyKey ≠ ""
  deriving DecidableEq

namespace CreateCall

/-- What ends a call: it returns a payment or raises, after its transaction or in it, or the
database refuses it. -/
abbrev End := Outcome DbError ServiceError (Except ServiceError Payment)

/-- The candidate of a call. -/
def payment (call : CreateCall) : Payment := Payment.new call.request call.id call.now

/-- The fingerprint of its request. -/
def fingerprint (sha256 : String → Digest) (call : CreateCall) : Digest :=
  requestFingerprint sha256 call.request

/-- The transaction of a call, with what it returns or raises afterwards. -/
def body (sha256 : String → Digest) (call : CreateCall) : Service (Except ServiceError Payment) :=
  createPayment sha256 call.request (some call.idempotencyKey) call.id call.now

/-- The sessions, from the migrated database. -/
def sessions (hashtext : String → ℤ) (sha256 : String → Digest) :
    Lts (Engine.Sessions Statement.Answer Database Change Lock ServiceError
      (Except ServiceError Payment) CreateCall) (Option (CreateCall × End)) :=
  (postgres hashtext).interleaved (body sha256) (· = migrated)

/-- The columns of `payments` can hold the candidate. -/
def Fits (call : CreateCall) : Prop :=
  Storable call.id ∧ Storable call.request.currency ∧ Storable call.request.merchantReference ∧
    call.request.amount < 2 ^ 63 ∧ ∀ c ∈ call.request.currency.toList.drop 3, c = ' '

/-- Each key points to one payment, built from the request whose fingerprint is stored; each payment
is pointed to by a key; each call that returned has returned the payment of its key; and none has
found its claim or its payment missing. -/
structure Idempotent (sha256 : String → Digest) (log : List (CreateCall × End)) (db : Database) :
    Prop where
  keys : ∀ row ∈ db.idempotencyKeys.rows, ∃ ended ∈ log, ended.1.idempotencyKey = row.key ∧
    ended.1.fingerprint sha256 = row.requestFingerprint ∧ ended.1.id = row.paymentId ∧
    ∃ payment, db.payments.find? row.paymentId = some payment ∧
      paymentRow ended.1.payment = .ok payment
  payments : ∀ payment ∈ db.payments.rows, ∃ row ∈ db.idempotencyKeys.rows,
    row.paymentId = payment.id
  returned : ∀ call payment, (call, .returned (.ok payment)) ∈ log →
    ∃ row, db.idempotencyKeys.find? call.idempotencyKey = some row ∧ row.paymentId = payment.id ∧
      row.requestFingerprint = call.fingerprint sha256
  errors : ∀ ended ∈ log, ∀ message, ended.2 ≠ .raised (.runtimeError message) ∧
    ended.2 ≠ .returned (.error (.runtimeError message))

/-- And nothing but payments and keys is stored. -/
structure Kept (sha256 : String → Digest) (log : List (CreateCall × End)) (db : Database) : Prop
    extends Idempotent sha256 log db where
  storable : ∀ row ∈ db.idempotencyKeys.rows, Storable row.key
  operations : db.paymentOperations.rows = []

variable {hashtext : String → ℤ} {sha256 : String → Digest} {db db' : Database} {call : CreateCall}
  {log : List (CreateCall × End)} {row : PaymentRow}

/-! ## How a call ends -/

/-- A candidate that fits has a row. -/
theorem fits_iff : call.Fits ↔ ∃ row, paymentRow call.payment = .ok row := by
  unfold Fits paymentRow
  simp only [bind_eq_ok, text_eq_ok]
  constructor
  · rintro ⟨hid, hcurrency, hreference, hamount, hpadding⟩
    -- The checks of the request are those that the columns ask for besides.
    have hpositive := call.request.amount_gt
    have hbigint : bigint call.request.amount = .ok ⟨call.request.amount, hamount⟩ :=
      bigint_eq_ok.mpr ⟨by omega, rfl⟩
    have hpadded : ∃ padded, bpchar 3 call.request.currency = .ok padded := by
      unfold bpchar
      rw [if_pos (List.all_eq_true.mpr fun c hc => decide_eq_true (hpadding c hc))]
      exact ⟨_, rfl⟩
    obtain ⟨padded, hpadded⟩ := hpadded
    exact ⟨_, (), hid, (), hcurrency, (), hreference, _, hbigint, padded, hpadded, _,
      varchar_of_length call.request.merchantReference_max, dif_pos hpositive⟩
  · rintro ⟨row, -, hid, -, hcurrency, -, hreference, amount, hamount, padded, hpadded, -⟩
    refine ⟨hid, hcurrency, hreference, ?_, fun c hc => ?_⟩
    · have hsame : amount.1 = call.request.amount := (bigint_eq_ok.mp hamount).2
      rw [← hsame]
      exact amount.2
    · have hpadded : bpchar 3 call.request.currency = .ok padded := hpadded
      unfold bpchar at hpadded
      split at hpadded
      · next hall => exact of_decide_eq_true (List.all_eq_true.mp hall c hc)
      · exact absurd hpadded throw_ne_ok

/-- The program of a call, from its first statement on. -/
theorem body_eq (sha256 : String → Digest) (call : CreateCall) : body sha256 call =
    (createPaymentTransaction call.payment (call.fingerprint sha256) call.idempotencyKey).bind
      fun left => .done (conclude left) := by
  unfold body createPayment
  split
  · next h => cases h
  · next h => exact absurd (Option.some.inj h) call.idempotencyKey_ne
  · next key _ h =>
    cases h
    rfl

/-- A call whose key is new claims it. -/
theorem returns_of_unclaimed (hrow : paymentRow call.payment = .ok row)
    (habsent : db.payments.find? call.id = none) (hkey : Storable call.idempotencyKey)
    (hunclaimed : db.idempotencyKeys.find? call.idempotencyKey = none) :
    ∃ held, Returns hashtext db (body sha256 call) (.ok call.payment)
      [.insertPayment row,
        .insertIdempotencyKey ⟨call.idempotencyKey, call.fingerprint sha256, call.id⟩] held := by
  have hrowId : row.id = call.id := (paymentRow_eq_ok hrow).1
  have hid : Storable call.id := (fits_iff.mpr ⟨row, hrow⟩).1
  have hthere : ((db.apply (.insertPayment row)).payments.find? call.id).isSome := by
    rw [apply, Table.find?_put, if_pos hrowId]
    rfl
  refine ⟨[.payment call.id, .idempotencyKey call.idempotencyKey], ?_⟩
  rw [body_eq]
  exact returns_insertPayment.mpr ⟨row, _, _, hrow, habsent, returns_claimIdempotencyKey.mpr
    ⟨hkey, hid, .inr ⟨hunclaimed, hthere, [], [], Engine.executes_done.mpr ⟨rfl, rfl, rfl⟩, rfl,
      rfl⟩⟩, rfl, rfl⟩

/-- What is read of a key that is there. -/
theorem returns_readClaimed {existing : IdempotencyKeyRow} {fingerprint : Digest}
    {result : Except ServiceError Payment} (hpayment : Storable existing.paymentId)
    (hfinds : FindsClaimed db fingerprint existing result) :
    Returns hashtext db ((readClaimed fingerprint (some existing)).bind fun left =>
      .done (conclude left)) result [] [] := by
  cases hfinds with
  | conflicting hdiffers =>
    rw [readClaimed, if_pos hdiffers]
    exact Engine.executes_done.mpr ⟨rfl, rfl, rfl⟩
  | replayed found result hsame hfound hresult =>
    rw [readClaimed, if_neg (not_not.mpr hsame)]
    refine returns_selectPayment.mpr ⟨hpayment, ?_⟩
    rw [hfound]
    simp only [hresult]
    exact Engine.executes_done.mpr ⟨rfl, rfl, rfl⟩

/-- A call whose key is there deletes its candidate and reads the key. -/
theorem returns_of_claimed {existing : IdempotencyKeyRow} {result : Except ServiceError Payment}
    (hrow : paymentRow call.payment = .ok row) (habsent : db.payments.find? call.id = none)
    (hkey : Storable call.idempotencyKey) (hfree : ¬db.Referenced call.id)
    (hexisting : db.idempotencyKeys.find? call.idempotencyKey = some existing)
    (hpayment : Storable existing.paymentId)
    (hfinds : FindsClaimed db (call.fingerprint sha256) existing result) :
    ∃ held, Returns hashtext db (body sha256 call) result
      [.insertPayment row, .deletePayment call.id] held := by
  have hrowId : row.id = call.id := (paymentRow_eq_ok hrow).1
  have hid : Storable call.id := (fits_iff.mpr ⟨row, hrow⟩).1
  have hthere : ((db.apply (.insertPayment row)).payments.find? call.id).isSome := by
    rw [apply, Table.find?_put, if_pos hrowId]
    rfl
  -- The candidate goes as it came.
  have hsame : (db.apply (.insertPayment row)).apply (.deletePayment call.id) = db := by
    rw [← hrowId]
    exact apply_insert_delete (by rwa [hrowId])
  have hclaimed : (db.idempotencyKeys.find? call.idempotencyKey).isSome := by
    rw [hexisting]
    rfl
  refine ⟨[.payment call.id, .payment call.id], ?_⟩
  rw [body_eq]
  refine returns_insertPayment.mpr ⟨row, [.deletePayment call.id], _, hrow, habsent,
    returns_claimIdempotencyKey.mpr ⟨hkey, hid, .inl ⟨hclaimed, ?_⟩⟩, rfl, rfl⟩
  refine (returns_deletePayment hthere).mpr ⟨hid, hfree, [], _, ?_, rfl, rfl⟩
  rw [hsame]
  refine returns_selectIdempotencyKey.mpr ⟨hkey, ?_⟩
  rw [hexisting]
  exact returns_readClaimed hpayment hfinds

/-- A call whose key is there leaves the tables as they are. -/
theorem transact_of_claimed {existing : IdempotencyKeyRow} {result : Except ServiceError Payment}
    (hrow : paymentRow call.payment = .ok row) (habsent : db.payments.find? call.id = none)
    (hkey : Storable call.idempotencyKey) (hfree : ¬db.Referenced call.id)
    (hexisting : db.idempotencyKeys.find? call.idempotencyKey = some existing)
    (hpayment : Storable existing.paymentId)
    (hfinds : FindsClaimed db (call.fingerprint sha256) existing result) :
    (postgres hashtext).transact db (body sha256 call) = (.returned result, db) := by
  obtain ⟨held, hreturns⟩ : ∃ held, Returns hashtext db (body sha256 call) result
      [.insertPayment row, .deletePayment call.id] held :=
    returns_of_claimed hrow habsent hkey hfree hexisting hpayment hfinds
  have hrowId : row.id = call.id := (paymentRow_eq_ok hrow).1
  -- The candidate is deleted again, so nothing is left of it.
  have hsame : (postgres hashtext).after [.insertPayment row, .deletePayment call.id] db = db := by
    change (db.apply (.insertPayment row)).apply (.deletePayment call.id) = db
    rw [← hrowId]
    exact apply_insert_delete (by rwa [hrowId])
  have hcommits := Engine.transact_of_executes hreturns rfl
  rwa [hsame] at hcommits

/-- A candidate that does not fit is refused. -/
theorem transact_of_not_fits (hfits : ¬call.Fits) :
    ∃ r, (postgres hashtext).transact db (body sha256 call) = (.refused r, db) := by
  cases hrow : paymentRow call.payment with
  | ok row => exact absurd (fits_iff.mpr ⟨row, hrow⟩) hfits
  | error r =>
    refine ⟨r, ?_⟩
    rw [body_eq]
    refine Engine.transact_call_of_error ?_
    change db.insertPayment call.payment = .error r
    unfold insertPayment
    rw [hrow]
    rfl

/-- A key that cannot be stored is refused, after the candidate. -/
theorem transact_of_not_storable (hrow : paymentRow call.payment = .ok row)
    (habsent : db.payments.find? call.id = none) (hkey : ¬Storable call.idempotencyKey) :
    (postgres hashtext).transact db (body sha256 call) = (.refused .data, db) := by
  have hrowId : row.id = call.id := (paymentRow_eq_ok hrow).1
  have hinsert : (postgres hashtext).run (.insertPayment call.payment) db =
      .ok ((), [.insertPayment row]) :=
    insertPayment_eq_ok.mpr ⟨row, hrow, by rwa [hrowId], rfl⟩
  have hclaim : ∀ db, (postgres hashtext).run
      (.claimIdempotencyKey call.idempotencyKey (call.fingerprint sha256) call.id) db =
        .error .data := by
    intro db
    change db.claimIdempotencyKey _ _ _ = _
    unfold claimIdempotencyKey text
    rw [if_pos hkey]
    rfl
  refine Engine.transact_of_refused ?_
  rw [body_eq]
  refine (Engine.outcome_exec_call hinsert).trans ?_
  rw [Program.call_bind, Engine.exec]
  erw [hclaim]

/-- The ends of a call: it is refused for its values, it claims its key, or it finds what the key
was claimed for. -/
inductive Ends (sha256 : String → Digest) (db : Database) (call : CreateCall) :
    End → Database → Prop where
  | refused (r : DbError) (hvalues : ¬(call.Fits ∧ Storable call.idempotencyKey)) :
      Ends sha256 db call (.refused r) db
  | claimed (row : PaymentRow) (hrow : paymentRow call.payment = .ok row)
      (hkey : Storable call.idempotencyKey)
      (hunclaimed : db.idempotencyKeys.find? call.idempotencyKey = none) :
      Ends sha256 db call (.returned (.ok call.payment))
        (after [.insertPayment row,
          .insertIdempotencyKey ⟨call.idempotencyKey, call.fingerprint sha256, call.id⟩] db)
  | found (existing : IdempotencyKeyRow) (result : Except ServiceError Payment)
      (hfits : call.Fits)
      (hexisting : db.idempotencyKeys.find? call.idempotencyKey = some existing)
      (hfinds : FindsClaimed db (call.fingerprint sha256) existing result) :
      Ends sha256 db call (.returned result) db

namespace Kept

/-- The id of a new call is that of no payment, and nothing refers to it. -/
theorem fresh (h : Kept sha256 log db) (hfresh : ∀ ended ∈ log, ended.1.id ≠ call.id) :
    db.payments.find? call.id = none ∧ ¬db.Referenced call.id := by
  have hkeys : ∀ row ∈ db.idempotencyKeys.rows, row.paymentId ≠ call.id := by
    intro row hrow
    obtain ⟨ended, hended, -, -, hid, -⟩ := h.keys row hrow
    rw [← hid]
    exact hfresh ended hended
  constructor
  · refine Table.find?_eq_none_iff.mpr fun payment hpayment => ?_
    obtain ⟨row, hrow, hid⟩ := h.payments payment hpayment
    rw [← hid]
    exact hkeys row hrow
  · rintro (⟨row, hrow, hid⟩ | ⟨row, hrow, -⟩)
    · exact hkeys row hrow hid
    · rw [h.operations] at hrow
      cases hrow

/-- The payment of a key can be read. -/
theorem readable (h : Kept sha256 log db) {existing : IdempotencyKeyRow}
    (hexisting : existing ∈ db.idempotencyKeys.rows) :
    Storable existing.paymentId ∧ ∃ found result,
      db.payments.find? existing.paymentId = some found ∧ rowToPayment found = .ok result := by
  obtain ⟨ended, -, -, -, hid, found, hfound, hrow⟩ := h.keys existing hexisting
  rw [← hid]
  refine ⟨(fits_iff.mpr ⟨found, hrow⟩).1, found, ?_⟩
  obtain ⟨-, -, hstatus, -⟩ := paymentRow_eq_ok hrow
  unfold rowToPayment
  rw [hstatus, PaymentStatus.ofValue?_value, hid]
  exact ⟨_, hfound, rfl⟩

/-- How a call with a fresh id ends. -/
theorem ends_of_transact (h : Kept sha256 log db)
    (hfresh : ∀ ended ∈ log, ended.1.id ≠ call.id) {outcome : End}
    (htransact : (postgres hashtext).transact db (body sha256 call) = (outcome, db')) :
    Ends sha256 db call outcome db' := by
  obtain ⟨habsent, hfree⟩ := h.fresh hfresh
  by_cases hfits : call.Fits
  swap
  · obtain ⟨r, hr⟩ : ∃ r, (postgres hashtext).transact db (body sha256 call) = (.refused r, db) :=
      transact_of_not_fits hfits
    -- The candidate is inserted first, so the values are refused before the key is looked at.
    cases hr.symm.trans htransact
    exact .refused r fun hvalues => hfits hvalues.1
  obtain ⟨row, hrow⟩ := fits_iff.mp hfits
  by_cases hkey : Storable call.idempotencyKey
  swap
  · have hr : (postgres hashtext).transact db (body sha256 call) = (.refused .data, db) :=
      transact_of_not_storable hrow habsent hkey
    cases hr.symm.trans htransact
    exact .refused .data fun hvalues => hkey hvalues.2
  cases hexisting : db.idempotencyKeys.find? call.idempotencyKey with
  | none =>
    -- The key is free: payment and key are inserted.
    obtain ⟨held, hreturns⟩ : ∃ held, Returns hashtext db (body sha256 call) (.ok call.payment)
        [.insertPayment row,
          .insertIdempotencyKey ⟨call.idempotencyKey, call.fingerprint sha256, call.id⟩] held :=
      returns_of_unclaimed hrow habsent hkey hexisting
    cases (Engine.transact_of_executes hreturns rfl).symm.trans htransact
    exact .claimed row hrow hkey hexisting
  | some existing =>
    -- The key is claimed: its payment is there, so it is replayed or the fingerprints differ.
    have hmem := (Table.find?_eq_some_iff.mp hexisting).1
    obtain ⟨hpayment, found, payment, hfound, hresult⟩ := h.readable hmem
    obtain ⟨result, hfinds⟩ :
        ∃ result, FindsClaimed db (call.fingerprint sha256) existing result := by
      by_cases hsame : existing.requestFingerprint = call.fingerprint sha256
      · exact ⟨_, .replayed found payment hsame hfound hresult⟩
      · exact ⟨_, .conflicting hsame⟩
    have hcommits : (postgres hashtext).transact db (body sha256 call) = (.returned result, db) :=
      transact_of_claimed hrow habsent hkey hfree hexisting hpayment hfinds
    cases hcommits.symm.trans htransact
    exact .found existing result hfits hexisting hfinds

/-- A call that leaves the tables as they are: what it returned is all that is new. -/
theorem unchanged (h : Kept sha256 log db) {outcome : End}
    (hreturned : ∀ payment, outcome = .returned (.ok payment) →
      ∃ row, db.idempotencyKeys.find? call.idempotencyKey = some row ∧
        row.paymentId = payment.id ∧ row.requestFingerprint = call.fingerprint sha256)
    (herrors : ∀ message, outcome ≠ .raised (.runtimeError message) ∧
      outcome ≠ .returned (.error (.runtimeError message))) :
    Kept sha256 (log ++ [(call, outcome)]) db := by
  refine ⟨⟨fun row hrow => ?_, h.payments, fun made payment hmade => ?_, fun ended hended => ?_⟩,
    h.storable, h.operations⟩
  · obtain ⟨ended, hended, hall⟩ := h.keys row hrow
    exact ⟨ended, List.mem_append_left _ hended, hall⟩
  · rcases List.mem_append.mp hmade with hmade | hmade
    · exact h.returned made payment hmade
    · cases List.mem_singleton.mp hmade
      exact hreturned payment rfl
  · rcases List.mem_append.mp hended with hended | hended
    · exact h.errors ended hended
    · rw [List.mem_singleton.mp hended]
      exact herrors

/-- A call that finds what its key was claimed for returns the payment of the key, or the
conflict. -/
theorem found (h : Kept sha256 log db) {existing : IdempotencyKeyRow}
    {result : Except ServiceError Payment}
    (hexisting : db.idempotencyKeys.find? call.idempotencyKey = some existing)
    (hfinds : FindsClaimed db (call.fingerprint sha256) existing result) :
    Kept sha256 (log ++ [(call, .returned result)]) db := by
  refine h.unchanged (fun payment heq => ?_) fun message => ?_
  · cases heq
    cases hfinds with
    | replayed found payment hsame hfound hresult =>
      refine ⟨existing, hexisting, ?_, hsame⟩
      have hid : payment.id = found.id := by
        unfold rowToPayment at hresult
        split at hresult
        · cases hresult
          rfl
        · cases hresult
      rw [hid, (Table.find?_eq_some_iff.mp hfound).2]
  · cases hfinds <;> simp [conflictError]

/-- A call that claims its key adds its payment and the key. -/
theorem claimed (h : Kept sha256 log db) (hfresh : ∀ ended ∈ log, ended.1.id ≠ call.id)
    (hrow : paymentRow call.payment = .ok row) (hkey : Storable call.idempotencyKey)
    (hunclaimed : db.idempotencyKeys.find? call.idempotencyKey = none) :
    Kept sha256 (log ++ [(call, .returned (.ok call.payment))])
      (after [.insertPayment row,
        .insertIdempotencyKey ⟨call.idempotencyKey, call.fingerprint sha256, call.id⟩] db) := by
  obtain ⟨habsent, -⟩ := h.fresh hfresh
  have hrowId : row.id = call.id := (paymentRow_eq_ok hrow).1
  have hpayments : (db.payments.put row).rows = db.payments.rows ++ [row] :=
    Table.rows_put_of_absent (by rwa [hrowId])
  have hkeys : (db.idempotencyKeys.put
      ⟨call.idempotencyKey, call.fingerprint sha256, call.id⟩).rows =
      db.idempotencyKeys.rows ++ [⟨call.idempotencyKey, call.fingerprint sha256, call.id⟩] :=
    Table.rows_put_of_absent hunclaimed
  have hfound : (db.payments.put row).find? call.id = some row := by
    rw [Table.find?_put, if_pos hrowId]
  refine ⟨⟨fun stored hstored => ?_, fun payment hpayment => ?_, fun made payment hmade => ?_,
    fun ended hended => ?_⟩, fun stored hstored => ?_, h.operations⟩
  · -- The payments of the keys that were there have other ids.
    rw [after_cons, after_cons, after_nil, apply, apply, hkeys, List.mem_append,
      List.mem_singleton] at hstored
    rcases hstored with hstored | rfl
    · obtain ⟨ended, hended, hkey', hfingerprint, hid, found, hfound, hrow'⟩ :=
        h.keys stored hstored
      refine ⟨ended, List.mem_append_left _ hended, hkey', hfingerprint, hid, found, ?_, hrow'⟩
      have hne : row.id ≠ stored.paymentId := by
        rw [hrowId, ← hid]
        exact (hfresh ended hended).symm
      change (db.payments.put row).find? stored.paymentId = some found
      rw [Table.find?_put, if_neg hne, hfound]
    · exact ⟨_, List.mem_append_right _ (List.mem_singleton_self _), rfl, rfl, rfl, row, hfound,
        hrow⟩
  · rw [after_cons, after_cons, after_nil, apply, apply, hpayments, List.mem_append,
      List.mem_singleton] at hpayment
    change ∃ stored ∈ (db.idempotencyKeys.put _).rows, _
    rw [hkeys]
    rcases hpayment with hpayment | rfl
    · -- Each payment has its key, the new one with the new one.
      obtain ⟨stored, hstored, hid⟩ := h.payments payment hpayment
      exact ⟨stored, List.mem_append_left _ hstored, hid⟩
    · exact ⟨_, List.mem_append_right _ (List.mem_singleton_self _), hrowId.symm⟩
  · -- The calls that returned before have other keys, since theirs are claimed.
    change ∃ stored, (db.idempotencyKeys.put _).find? _ = _ ∧ _
    rcases List.mem_append.mp hmade with hmade | hmade
    · obtain ⟨stored, hstored, hid⟩ := h.returned made payment hmade
      have hne : call.idempotencyKey ≠ made.idempotencyKey := by
        intro heq
        rw [heq, hstored] at hunclaimed
        cases hunclaimed
      exact ⟨stored, by rw [Table.find?_put, if_neg hne, hstored], hid⟩
    · cases List.mem_singleton.mp hmade
      exact ⟨_, by rw [Table.find?_put, if_pos rfl], rfl, rfl⟩
  · rcases List.mem_append.mp hended with hended | hended
    · exact h.errors ended hended
    · rw [List.mem_singleton.mp hended]
      simp
  · rw [after_cons, after_cons, after_nil, apply, apply, hkeys, List.mem_append,
      List.mem_singleton] at hstored
    rcases hstored with hstored | rfl
    · exact h.storable stored hstored
    · exact hkey

/-- What is kept is kept by every end of a call with a fresh id. -/
theorem step (h : Kept sha256 log db) (hfresh : ∀ ended ∈ log, ended.1.id ≠ call.id)
    {outcome : End} (hends : Ends sha256 db call outcome db') :
    Kept sha256 (log ++ [(call, outcome)]) db' := by
  cases hends with
  | refused r hvalues => exact h.unchanged (fun _ heq => by cases heq) fun _ => by simp
  | claimed row hrow hkey hunclaimed => exact h.claimed hfresh hrow hkey hunclaimed
  | found existing result hfits hexisting hfinds => exact h.found hexisting hfinds

end Kept

/-! ## Runs -/

/-- Every call is steady: no payment changes. -/
theorem steady_body (call : CreateCall) :
    Steady hashtext (· = ·) (· = ·) [] db (body sha256 call) := by
  have hsteady :
      Steady hashtext (· = ·) (· = ·) [] db
        ((body sha256 call).bind fun result => .done result) :=
    steady_createPayment (fun _ => rfl) fun row row' result hsame hresult =>
      ⟨result, by rw [← hsame, hresult], rfl⟩
  rwa [Program.bind_done] at hsteady

/-- What a call commits leaves what others have locked. -/
theorem rely_after {result : Except ServiceError Payment} {changes : List Change}
    {held : List Lock} (h : Returns hashtext db (body sha256 call) result changes held)
    {locks : Set Lock} (hfree : ∀ lock ∈ held, lock ∉ locks) :
    Rely hashtext (· = ·) locks db (after changes db) :=
  rely_of_creates (fun _ => rfl) (fun _ _ _ => Eq.trans) (creates_of_returns h) hfree

/-- The locks of the calls cover what these rely on. -/
theorem covers : (postgres hashtext).Covers (body sha256) (Rely hashtext (· = ·)) (· = ·) where
  refl _ := rfl
  trans _ _ _ := Eq.trans
  steady _ call := steady_body call
  guarantee _ _ _ _ _ hexec _ _ hfree := rely_after hexec hfree

/-- The calls that have ended, one after the other. -/
theorem serial_of_sessions {log : List (Option (CreateCall × End))}
    {s : Engine.Sessions Statement.Answer Database Change Lock ServiceError
      (Except ServiceError Payment) CreateCall}
    (h : (sessions hashtext sha256).Run log s) :
    ((postgres hashtext).serial (· = migrated) (body sha256)).Run log.reduceOption s.committed :=
  Engine.serial_of_run covers h

/-- What is kept holds in every run of calls with different ids. -/
theorem kept_of_serial
    (h : ((postgres hashtext).serial (· = migrated) (body sha256)).Run log db)
    (hids : (log.map fun ended => ended.1.id).Nodup) : Kept sha256 log db := by
  induction log using List.reverseRecOn generalizing db with
  | nil =>
    obtain ⟨db₀, rfl, hnil⟩ := h
    rw [Lts.steps_nil_iff.mp hnil]
    exact ⟨⟨by simp [migrated, Table.empty], by simp [migrated, Table.empty], by simp, by simp⟩,
      by simp [migrated, Table.empty], rfl⟩
  | append_singleton log ended ih =>
    obtain ⟨before, hbefore, hstep⟩ := Lts.run_concat_iff.mp h
    rw [List.map_append, List.map_singleton, ← List.concat_eq_append,
      List.nodup_concat] at hids
    have hfresh : ∀ other ∈ log, other.1.id ≠ ended.1.id := fun other hother heq =>
      hids.1 (heq ▸ List.mem_map_of_mem hother)
    have hkept := ih hbefore hids.2
    exact hkept.step hfresh (hkept.ends_of_transact hfresh hstep)

/-- In every run of concurrent calls that draw different ids, what is committed is idempotent,
whatever is still open. A call that ends on a key with another fingerprint changes nothing, and it
raises the conflict exactly when the columns can hold its candidate, which it inserts first. -/
theorem idempotent_of_run {log : List (Option (CreateCall × End))}
    {s : Engine.Sessions Statement.Answer Database Change Lock ServiceError
      (Except ServiceError Payment) CreateCall}
    (h : (sessions hashtext sha256).Run log s)
    (hids : (log.reduceOption.map fun ended => ended.1.id).Nodup) :
    Idempotent sha256 log.reduceOption s.committed ∧
      ∀ call outcome s', (sessions hashtext sha256).step s (some (call, outcome)) s' →
        (∀ ended ∈ log.reduceOption, ended.1.id ≠ call.id) →
        ∀ row, s.committed.idempotencyKeys.find? call.idempotencyKey = some row →
          row.requestFingerprint ≠ call.fingerprint sha256 →
          s'.committed = s.committed ∧
            (outcome = .returned (.error conflictError) ↔ call.Fits) := by
  have hserial := serial_of_sessions h
  have hkept := kept_of_serial hserial hids
  refine ⟨hkept.toIdempotent, fun call outcome s' hstep hfresh row hrow hdiffers => ?_⟩
  -- The next call that ends does so as a transaction on what is committed.
  obtain ⟨outcome', htransact, hbecomes⟩ := Engine.transact_of_step covers h hstep
  obtain rfl := Outcome.eq_of_becomes hbecomes
  have hends := hkept.ends_of_transact hfresh htransact
  generalize s'.committed = db' at hends ⊢
  cases hends with
  | refused r hvalues =>
    obtain ⟨hmem, hkey⟩ := Table.find?_eq_some_iff.mp hrow
    have hstorable : Storable call.idempotencyKey := by
      rw [← hkey]
      exact hkept.storable row hmem
    exact ⟨rfl, iff_of_false (by simp) fun hfits => hvalues ⟨hfits, hstorable⟩⟩
  | claimed candidate hcandidate hkey hunclaimed =>
    rw [hrow] at hunclaimed
    cases hunclaimed
  | found existing result hfits hexisting hfinds =>
    cases hrow.symm.trans hexisting
    cases hfinds with
    | conflicting => exact ⟨rfl, fun _ => hfits, fun _ => rfl⟩
    | replayed found payment hsame => exact absurd hsame hdiffers

/-! ## Three calls with one key -/

/-- The digests of the requests below. -/
def digests (payload : String) : Digest :=
  if payload = "\x7b\"amount\":100,\"currency\":\"MAD\",\"merchant_reference\":\"order-1\"\x7d" then
    ⟨"f66e4e321cc6b69d37fa3a1cc65dc4f00f1f3a73f0abd85d4c8dfb304532e0f9", rfl⟩
  else if payload =
      "\x7b\"amount\":200,\"currency\":\"MAD\",\"merchant_reference\":\"order-2\"\x7d" then
    ⟨"d7526d4fa7c1152fd631f721c2a552f8c22e71f01a886b84a1ef2117d0e2f95c", rfl⟩
  else ⟨"34723c4f1c12e6046284793efad28969e85d13fb4917140e53f3c3d529671cc8", rfl⟩

/-- A request for another amount. -/
def otherOrder (amount : ℤ) (hamount : 0 < amount) : CreatePaymentRequest :=
  ⟨amount, "MAD", "order-2", hamount, sampleOrder.currency_normalized, by decide, by decide⟩

/-- A call with the key. -/
def keyed (request : CreatePaymentRequest) (id : String) : CreateCall :=
  ⟨request, "key-1", id, 0, by decide⟩

/-- The same request twice, at once: the second waits for the key of the first, and finds it. -/
def together : List (Engine.Move CreateCall) :=
  [.begin 0 (keyed sampleOrder "pay_1"),
   .begin 1 (keyed sampleOrder "pay_2"),
   .statement 0, .statement 1, .statement 0, .commit 0,
   .statement 1, .statement 1, .statement 1, .statement 1, .commit 1]

/-- Another request with the key. -/
def conflicting : CreateCall := keyed (otherOrder 200 (by decide)) "pay_3"

/-- Another request with the key, for an amount that is too large for its column. -/
def excessive : CreateCall := keyed (otherOrder (2 ^ 63) (by decide)) "pay_4"

/-- The sessions after the moves, with how the calls ended. -/
def played (moves : List (Engine.Move CreateCall)) : Option
    (Engine.Sessions Statement.Answer Database Change Lock ServiceError
      (Except ServiceError Payment) CreateCall × List (Option (CreateCall × End))) :=
  Lts.play ((postgres fun _ => 0).advance (body digests)) ⟨migrated, ∅⟩ moves

/-- What is played is a run. -/
theorem run_of_played {moves : List (Engine.Move CreateCall)}
    {s : Engine.Sessions Statement.Answer Database Change Lock ServiceError
      (Except ServiceError Payment) CreateCall} {log : List (Option (CreateCall × End))}
    (h : played moves = some (s, log)) : (sessions (fun _ => 0) digests).Run log s :=
  ⟨⟨migrated, ∅⟩, ⟨rfl, rfl⟩, Lts.steps_of_play h⟩

/-- Two calls that run together return one payment, and a third one raises the conflict. -/
theorem idempotent_together : ∃ s log,
    played (together ++ [.begin 2 conflicting] ++ List.replicate 4 (.statement 2)) = some (s, log) ∧
    (log.reduceOption.map fun ended => ended.2) =
      List.replicate 2 (.returned (.ok (Payment.mk "pay_1" 100 "MAD" "order-1" .pending 0))) ∧
    Idempotent digests log.reduceOption s.committed ∧
    ∃ s', (sessions (fun _ => 0) digests).step s
        (some (conflicting, .returned (.error conflictError))) s' ∧
      s'.committed = s.committed := by
  obtain ⟨⟨s, log⟩, hresult, hshown⟩ := Option.map_eq_some_iff.mp (show
    (played (together ++ [.begin 2 conflicting] ++ List.replicate 4 (.statement 2))).map
      (fun result => (result.2.reduceOption.map (fun ended => ended.2),
        result.2.reduceOption.map (fun ended => ended.1.id),
        result.1.committed.idempotencyKeys.find? "key-1",
        ((postgres fun _ => 0).advance (body digests) result.1 (.commit 2)).map Prod.snd)) =
      some (List.replicate 2
          (.returned (.ok (Payment.mk "pay_1" 100 "MAD" "order-1" .pending 0))), ["pay_1", "pay_2"],
        some ⟨"key-1",
          ⟨"f66e4e321cc6b69d37fa3a1cc65dc4f00f1f3a73f0abd85d4c8dfb304532e0f9", rfl⟩, "pay_1"⟩,
        some (some (conflicting, .returned (.error conflictError)))) from rfl)
  simp only [Prod.mk.injEq] at hshown
  obtain ⟨houtcomes, hids, hrow, hended⟩ := hshown
  obtain ⟨⟨s', label⟩, hadvance, rfl⟩ := Option.map_eq_some_iff.mp hended
  have hnodup : (log.reduceOption.map fun ended => ended.1.id).Nodup := by
    rw [hids]
    decide
  obtain ⟨hidempotent, hconflict⟩ := idempotent_of_run (run_of_played hresult) hnodup
  have hfresh : ∀ ended ∈ log.reduceOption, ended.1.id ≠ conflicting.id := by
    intro ended hended
    have hmem : ended.1.id ∈ ["pay_1", "pay_2"] := hids ▸ List.mem_map_of_mem hended
    rcases List.mem_cons.mp hmem with heq | heq
    · rw [heq]
      decide
    · rw [List.mem_singleton.mp heq]
      decide
  have hstep : (sessions (fun _ => 0) digests).step s
      (some (conflicting, .returned (.error conflictError))) s' := ⟨.commit 2, hadvance⟩
  exact ⟨s, log, hresult, houtcomes, hidempotent, s', hstep,
    (hconflict conflicting _ s' hstep hfresh _ hrow (by decide)).1⟩

/-- A call with the key of another request is refused for its amount, and no conflict is raised. -/
theorem refused_excessive : ∃ log s s' row,
    (sessions (fun _ => 0) digests).Run log s ∧
    (log.reduceOption.map fun ended => ended.1.id) = ["pay_1", "pay_2"] ∧
    (sessions (fun _ => 0) digests).step s (some (excessive, .refused .data)) s' ∧
    s.committed.idempotencyKeys.find? excessive.idempotencyKey = some row ∧
    row.requestFingerprint ≠ excessive.fingerprint digests := by
  obtain ⟨⟨s, log⟩, hresult, hshown⟩ := Option.map_eq_some_iff.mp (show
    (played (together ++ [.begin 2 excessive])).map
      (fun result => (result.2.reduceOption.map (fun ended => ended.1.id),
        result.1.committed.idempotencyKeys.find? "key-1",
        ((postgres fun _ => 0).advance (body digests) result.1 (.statement 2)).map Prod.snd)) =
      some (["pay_1", "pay_2"],
        some ⟨"key-1",
          ⟨"f66e4e321cc6b69d37fa3a1cc65dc4f00f1f3a73f0abd85d4c8dfb304532e0f9", rfl⟩, "pay_1"⟩,
        some (some (excessive, .refused .data))) from rfl)
  simp only [Prod.mk.injEq] at hshown
  obtain ⟨hids, hrow, hended⟩ := hshown
  obtain ⟨⟨s', label⟩, hadvance, rfl⟩ := Option.map_eq_some_iff.mp hended
  exact ⟨log, s, s', _, run_of_played hresult, hids, ⟨.statement 2, hadvance⟩, hrow, by decide⟩

end CreateCall

end AtlasPay
