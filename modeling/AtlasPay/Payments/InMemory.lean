import AtlasPay.Payments.Idempotency

/-!
# The two payment repositories

`InMemoryPaymentRepository` of `app/repository.py`, and that nothing tells it from
`PostgresPaymentRepository`: one looks a key up and then creates, the other creates, claims the key,
and deletes its candidate when the key is there. `Alike` relates two dictionaries to two tables; a
call keeps it and is answered alike (`Alike.step`), and so are calls one after the other.
-/

namespace AtlasPay

open Database

/-! ## The repository in memory -/

/-- `InMemoryPaymentRepository`: `_payments` and `_idempotency`. The payment of a key is there. -/
structure InMemoryPaymentRepository where
  payments : AList fun _ : String => Payment
  idempotency : AList fun _ : String => Digest × String
  mem_payments : ∀ key claimed, idempotency.lookup key = some claimed → claimed.2 ∈ payments

namespace InMemoryPaymentRepository

/-- `InMemoryPaymentRepository()`. -/
def new : InMemoryPaymentRepository where
  payments := ∅
  idempotency := ∅
  mem_payments := by simp

/-- `self._payments[payment.id] = payment`. -/
def setPayment (repository : InMemoryPaymentRepository) (payment : Payment) :
    InMemoryPaymentRepository where
  payments := repository.payments.insert payment.id payment
  idempotency := repository.idempotency
  mem_payments := fun key claimed h =>
    (AList.mem_insert _).mpr (.inr (repository.mem_payments key claimed h))

/-- `self._idempotency[key] = claimed`, for a payment that is there. -/
def setKey (repository : InMemoryPaymentRepository) (key : String) (claimed : Digest × String)
    (hclaimed : claimed.2 ∈ repository.payments) : InMemoryPaymentRepository where
  payments := repository.payments
  idempotency := repository.idempotency.insert key claimed
  mem_payments := by
    intro key' claimed' h
    rcases AList.lookup_insert_eq_some.mp h with ⟨-, rfl⟩ | ⟨-, h⟩
    · exact hclaimed
    · exact repository.mem_payments key' claimed' h

/-- `create_payment` with a key: the payment of the key, or a new one. -/
def createKeyed (repository : InMemoryPaymentRepository) (fingerprint : Digest)
    (payment : Payment) (key : String) :
    Except ServiceError Payment × InMemoryPaymentRepository :=
  match hexisting : repository.idempotency.lookup key with
  | some existing =>
    if existing.1 ≠ fingerprint then (.error PaymentRepository.conflictError, repository)
    else
      (.ok ((repository.payments.lookup existing.2).get
        (AList.lookup_isSome.mpr (repository.mem_payments key existing hexisting))), repository)
  | none =>
    (.ok payment, (repository.setPayment payment).setKey key (fingerprint, payment.id)
      ((AList.mem_insert _).mpr (.inl rfl)))

/-- `create_payment`. The id and the time are those that a new payment draws. -/
def createPayment (sha256 : String → Digest) (repository : InMemoryPaymentRepository)
    (request : CreatePaymentRequest) (idempotencyKey : Option String) (id : String)
    (now : Timestamp) : Except ServiceError Payment × InMemoryPaymentRepository :=
  let payment := Payment.new request id now
  match idempotencyKey with
  | none | some "" => (.ok payment, repository.setPayment payment)
  | some key => repository.createKeyed (requestFingerprint sha256 request) payment key

/-- `get`. -/
def get (repository : InMemoryPaymentRepository) (paymentId : String) : Option Payment :=
  repository.payments.lookup paymentId

variable {sha256 : String → Digest} {repository : InMemoryPaymentRepository}
  {request : CreatePaymentRequest} {id key : String} {now : Timestamp} {fingerprint : Digest}
  {payment : Payment} {existing : Digest × String}

/-- A call without a key, or with an empty one. -/
theorem createPayment_unkeyed {idempotencyKey : Option String}
    (hkey : idempotencyKey = none ∨ idempotencyKey = some "") :
    createPayment sha256 repository request idempotencyKey id now =
      (.ok (Payment.new request id now), repository.setPayment (Payment.new request id now)) := by
  rcases hkey with rfl | rfl <;> rfl

/-- A call with a key. -/
theorem createPayment_keyed (hkey : key ≠ "") :
    createPayment sha256 repository request (some key) id now =
      repository.createKeyed (requestFingerprint sha256 request) (Payment.new request id now)
        key := by
  unfold createPayment
  split
  · next h => cases h
  · next h => exact absurd (Option.some.inj h) hkey
  · next h =>
    cases h
    rfl

/-- The key is new. -/
theorem createKeyed_of_unclaimed (hunclaimed : repository.idempotency.lookup key = none) :
    repository.createKeyed fingerprint payment key =
      (.ok payment, (repository.setPayment payment).setKey key (fingerprint, payment.id)
        ((AList.mem_insert _).mpr (.inl rfl))) := by
  unfold createKeyed
  split
  · next hexisting => cases hunclaimed.symm.trans hexisting
  · rfl

/-- The key was used for another request. -/
theorem createKeyed_of_conflict (hexisting : repository.idempotency.lookup key = some existing)
    (hdiffers : existing.1 ≠ fingerprint) :
    repository.createKeyed fingerprint payment key =
      (.error PaymentRepository.conflictError, repository) := by
  unfold createKeyed
  split
  · next hsome =>
    cases hexisting.symm.trans hsome
    exact if_pos hdiffers
  · next hnone => cases hnone.symm.trans hexisting

/-- The key was used for the same request. -/
theorem createKeyed_of_replay (hexisting : repository.idempotency.lookup key = some existing)
    (hsame : existing.1 = fingerprint) {found : Payment}
    (hfound : repository.payments.lookup existing.2 = some found) :
    repository.createKeyed fingerprint payment key = (.ok found, repository) := by
  unfold createKeyed
  split
  · next hsome =>
    cases hexisting.symm.trans hsome
    simp only [hsame, ne_eq, not_true_eq_false, if_false, hfound, Option.get_some]
  · next hnone => cases hnone.symm.trans hexisting

end InMemoryPaymentRepository

namespace PaymentRepository

/-! ## The calls -/

/-- `get`. -/
def get (paymentId : String) : Service (Option Payment) :=
  .call (.selectPayment paymentId) fun
    | none => .done none
    | some row =>
      match rowToPayment row with
      | .ok payment => .done (some payment)
      | .error e => .fail e

/-- A call of a repository, with what a new payment draws. In memory nothing is drawn where the
payment of the key is returned. -/
inductive Call where
  | createPayment (request : CreatePaymentRequest) (idempotencyKey : Option String) (id : String)
      (now : Timestamp)
  | get (paymentId : String)

/-- How a call ends: it returns a payment or `None`, or raises. -/
abbrev Answer := Except ServiceError (Option Payment)

/-- The payment under another id. -/
def renamePayment (σ : String → String) (payment : Payment) : Payment :=
  { payment with id := σ payment.id }

/-- The answer, with the payment under another id. -/
def Answer.rename (σ : String → String) (answer : Answer) : Answer :=
  answer.map fun found => found.map (renamePayment σ)

/-- The answer to a call that creates a payment, under another id. -/
theorem rename_created (σ : String → String) (created : Except ServiceError Payment) :
    Answer.rename σ (created.map some) = (created.map (renamePayment σ)).map some := by
  cases created <;> rfl

namespace Call

/-- The same call with other ids: of the payment that it would create, or that it asks for. -/
def rename (σ : String → String) : Call → Call
  | createPayment request idempotencyKey id now => createPayment request idempotencyKey (σ id) now
  | get paymentId => get (σ paymentId)

/-- The id of the payment that the call would create. -/
def drawn : Call → Option String
  | createPayment _ _ id _ => some id
  | get _ => none

/-- The columns of `payments` and `idempotency_keys` hold the values of the call as they are. -/
def Fits : Call → Prop
  | createPayment request idempotencyKey id _ =>
    Storable id ∧ request.amount < 2 ^ 63 ∧ request.currency.length = 3 ∧
      Storable request.currency ∧ Storable request.merchantReference ∧
      ∀ key ∈ idempotencyKey, Storable key
  | get paymentId => Storable paymentId

instance : DecidablePred Fits
  | createPayment _ _ _ _ => inferInstanceAs (Decidable (_ ∧ _))
  | get _ => inferInstanceAs (Decidable (Storable _))

/-- The call in memory. -/
def inMemory (sha256 : String → Digest) (repository : InMemoryPaymentRepository) :
    Call → Answer × InMemoryPaymentRepository
  | createPayment request idempotencyKey id now =>
    let created := repository.createPayment sha256 request idempotencyKey id now
    (created.1.map some, created.2)
  | get paymentId => (.ok (repository.get paymentId), repository)

/-- Calls in memory, one after the other, with their answers. -/
def inMemoryAll (sha256 : String → Digest) (repository : InMemoryPaymentRepository) :
    List Call → List Answer × InMemoryPaymentRepository
  | [] => ([], repository)
  | call :: calls =>
    let first := call.inMemory sha256 repository
    let rest := inMemoryAll sha256 first.2 calls
    (first.1 :: rest.1, rest.2)

/-- The call on PostgreSQL. -/
def body (sha256 : String → Digest) : Call → Service Answer
  | createPayment request idempotencyKey id now =>
    (PaymentRepository.createPayment sha256 request idempotencyKey id now).bind fun created =>
      .done (created.map some)
  | get paymentId => (PaymentRepository.get paymentId).bind fun found => .done (.ok found)

end Call

/-! ## Two dictionaries and two tables -/

/-- The dictionaries and the tables hold the same payments, under ids that are renamed, and the same
keys. -/
structure Alike (σ : String → String) (repository : InMemoryPaymentRepository) (db : Database) :
    Prop where
  payments : ∀ id, (db.payments.find? (σ id)).map rowToPayment =
    (repository.payments.lookup id).map fun payment => .ok (renamePayment σ payment)
  keys : ∀ key, db.idempotencyKeys.find? key =
    (repository.idempotency.lookup key).map fun claimed => ⟨key, claimed.1, σ claimed.2⟩
  storable : ∀ key claimed, repository.idempotency.lookup key = some claimed →
    Storable (σ claimed.2)
  operations : db.paymentOperations.rows = []

variable {hashtext : String → ℤ} {sha256 : String → Digest} {db : Database}
  {repository : InMemoryPaymentRepository} {σ : String → String} {id : String}

/-- A candidate that fits has a row, and is read back from it as it was. -/
theorem paymentRow_of_fits {request : CreatePaymentRequest} {now : Timestamp}
    (hid : Storable id) (hamount : request.amount < 2 ^ 63)
    (hlength : request.currency.length = 3) (hcurrency : Storable request.currency)
    (hreference : Storable request.merchantReference) :
    ∃ row, paymentRow (Payment.new request id now) = .ok row ∧ row.id = id ∧
      rowToPayment row = .ok (Payment.new request id now) := by
  have hpositive := request.amount_gt
  have hbigint : bigint request.amount = .ok ⟨request.amount, hamount⟩ :=
    bigint_eq_ok.mpr ⟨by omega, rfl⟩
  have hrow : ∃ row, paymentRow (Payment.new request id now) = .ok row := by
    unfold paymentRow
    simp only [bind_eq_ok, text_eq_ok]
    exact ⟨_, (), hid, (), hcurrency, (), hreference, _, hbigint, _, bpchar_of_length hlength, _,
      varchar_of_length request.merchantReference_max, dif_pos hpositive⟩
  obtain ⟨row, hrow⟩ := hrow
  obtain ⟨hrowId, hrowAmount, hstatus, hcreated, ⟨currency, hpadded, hrowCurrency⟩, reference,
    hkept, hrowReference⟩ := paymentRow_eq_ok hrow
  -- The currency and the reference have lengths that are neither padded nor cut.
  have hpadded : bpchar 3 request.currency = .ok currency := hpadded
  have hkept : varchar 128 request.merchantReference = .ok reference := hkept
  cases (bpchar_of_length hlength).symm.trans hpadded
  cases (varchar_of_length request.merchantReference_max).symm.trans hkept
  refine ⟨row, hrow, hrowId, ?_⟩
  unfold rowToPayment
  rw [hstatus, PaymentStatus.ofValue?_value, hrowId, hrowAmount, hrowCurrency, hrowReference,
    hcreated]
  rfl

/-- A call without a key inserts its payment. -/
theorem returns_unkeyed {request : CreatePaymentRequest} {idempotencyKey : Option String}
    {now : Timestamp} {row : PaymentRow} (hkey : idempotencyKey = none ∨ idempotencyKey = some "")
    (hrow : paymentRow (Payment.new request id now) = .ok row)
    (habsent : db.payments.find? id = none) :
    Returns hashtext db (createPayment sha256 request idempotencyKey id now)
      (.ok (Payment.new request id now)) [.insertPayment row] [.payment id] := by
  have hinsert : Returns hashtext db
      (.call (.insertPayment (Payment.new request id now)) fun _ =>
        .done (.ok (Payment.new request id now)) : Service (Except ServiceError Payment))
      (.ok (Payment.new request id now)) [.insertPayment row] [.payment id] :=
    returns_insertPayment.mpr ⟨row, [], [], hrow, habsent, Engine.executes_done.mpr ⟨rfl, rfl, rfl⟩,
      rfl, rfl⟩
  -- `if not idempotency_key`: both are tested alike.
  rcases hkey with rfl | rfl <;> exact hinsert

namespace Alike

/-- Nothing is stored. -/
theorem new (σ : String → String) : Alike σ .new migrated where
  payments := fun _ => rfl
  keys := fun _ => rfl
  storable := by simp [InMemoryPaymentRepository.new]
  operations := rfl

/-- What is not found in the dictionary is not found in the table. -/
theorem absent (h : Alike σ repository db) (hid : repository.payments.lookup id = none) :
    db.payments.find? (σ id) = none := by
  have hnone := h.payments id
  rw [hid, Option.map_none, Option.map_eq_none_iff] at hnone
  exact hnone

/-- A payment that is not in the dictionary is not in the table, and nothing refers to it. -/
theorem fresh (hσ : Function.Injective σ) (h : Alike σ repository db)
    (hid : id ∉ repository.payments) :
    db.payments.find? (σ id) = none ∧ ¬db.Referenced (σ id) := by
  constructor
  · exact h.absent (AList.lookup_eq_none.mpr hid)
  · rintro (⟨row, hrow, hrefers⟩ | ⟨row, hrow, -⟩)
    · -- The key is in the other dictionary too, and there its payment is in the first.
      have hfound := h.keys row.key
      rw [Table.find?_eq_some_iff.mpr ⟨hrow, rfl⟩] at hfound
      obtain ⟨claimed, hclaimed, hrow⟩ := Option.map_eq_some_iff.mp hfound.symm
      rw [← hrow] at hrefers
      have hsame : claimed.2 = id := hσ hrefers
      exact hid (hsame ▸ repository.mem_payments _ claimed hclaimed)
    · rw [h.operations] at hrow
      cases hrow

/-- What is found in the dictionary is found in the table. -/
theorem found (h : Alike σ repository db) {payment : Payment}
    (hpayment : repository.payments.lookup id = some payment) :
    ∃ row, db.payments.find? (σ id) = some row ∧
      rowToPayment row = .ok (renamePayment σ payment) := by
  have hfound := h.payments id
  rw [hpayment, Option.map_some] at hfound
  exact Option.map_eq_some_iff.mp hfound

/-- A payment is added on both sides. -/
theorem setPayment (hσ : Function.Injective σ) (h : Alike σ repository db) {payment : Payment}
    {row : PaymentRow} (hid : row.id = σ payment.id)
    (hrow : rowToPayment row = .ok (renamePayment σ payment)) :
    Alike σ (repository.setPayment payment) (db.apply (.insertPayment row)) where
  payments := by
    intro id
    change ((db.payments.put row).find? (σ id)).map _ =
      ((repository.payments.insert payment.id payment).lookup id).map _
    rw [Table.find?_put, hid]
    by_cases hsame : payment.id = id
    · rw [hsame, if_pos rfl, AList.lookup_insert, Option.map_some, Option.map_some, hrow]
    · rw [if_neg fun heq => hsame (hσ heq), AList.lookup_insert_ne (Ne.symm hsame)]
      exact h.payments id
  keys := h.keys
  storable := h.storable
  operations := h.operations

/-- A key is claimed on both sides. -/
theorem setKey (h : Alike σ repository db) {key : String} {claimed : Digest × String}
    (hclaimed : claimed.2 ∈ repository.payments) (hid : Storable (σ claimed.2)) :
    Alike σ (repository.setKey key claimed hclaimed)
      (db.apply (.insertIdempotencyKey ⟨key, claimed.1, σ claimed.2⟩)) where
  payments := h.payments
  keys := by
    intro key'
    change (db.idempotencyKeys.put _).find? key' =
      ((repository.idempotency.insert key claimed).lookup key').map _
    rw [Table.find?_put]
    by_cases hsame : key = key'
    · rw [hsame, if_pos rfl, AList.lookup_insert, Option.map_some]
    · rw [if_neg hsame, AList.lookup_insert_ne (Ne.symm hsame)]
      exact h.keys key'
  storable := by
    intro key' claimed' hlookup
    rcases AList.lookup_insert_eq_some.mp hlookup with ⟨-, rfl⟩ | ⟨-, hlookup⟩
    · exact hid
    · exact h.storable key' claimed' hlookup
  operations := h.operations

/-- A payment is created alike. -/
theorem createPayment (hσ : Function.Injective σ) (h : Alike σ repository db)
    {request : CreatePaymentRequest} {idempotencyKey : Option String} {now : Timestamp}
    (hid : id ∉ repository.payments)
    (hfits : (Call.createPayment request idempotencyKey (σ id) now).Fits) :
    ∃ db', (postgres hashtext).transact db
        (PaymentRepository.createPayment sha256 request idempotencyKey (σ id) now) =
          (.returned ((repository.createPayment sha256 request idempotencyKey id now).1.map
            (renamePayment σ)), db') ∧
      Alike σ (repository.createPayment sha256 request idempotencyKey id now).2 db' := by
  obtain ⟨hstorable, hamount, hlength, hcurrency, hreference, hkeys⟩ := hfits
  obtain ⟨habsent, hfree⟩ := h.fresh hσ hid
  obtain ⟨row, hrow, hrowId, hread⟩ : ∃ row, paymentRow (Payment.new request (σ id) now) = .ok row ∧
      row.id = σ id ∧ rowToPayment row = .ok (Payment.new request (σ id) now) :=
    paymentRow_of_fits hstorable hamount hlength hcurrency hreference
  have hset : Alike σ (repository.setPayment (Payment.new request id now))
      (db.apply (.insertPayment row)) := h.setPayment hσ hrowId hread
  by_cases hunkeyed : idempotencyKey = none ∨ idempotencyKey = some ""
  · rw [InMemoryPaymentRepository.createPayment_unkeyed hunkeyed]
    refine ⟨db.apply (.insertPayment row), ?_, hset⟩
    exact Engine.transact_of_executes (returns_unkeyed hunkeyed hrow habsent) rfl
  · obtain ⟨key, rfl, hkey⟩ : ∃ key, idempotencyKey = some key ∧ key ≠ "" := by
      cases idempotencyKey with
      | none => exact absurd (.inl rfl) hunkeyed
      | some key => exact ⟨key, rfl, fun heq => hunkeyed (.inr (congrArg some heq))⟩
    rw [InMemoryPaymentRepository.createPayment_keyed hkey]
    have hexisting := h.keys key
    -- Where the key is there, PostgreSQL is back where it was once the candidate is deleted.
    have hclaimed : ∀ {existing : IdempotencyKeyRow} {result : Except ServiceError Payment},
        db.idempotencyKeys.find? key = some existing → Storable existing.paymentId →
          FindsClaimed db (requestFingerprint sha256 request) existing result →
            (postgres hashtext).transact db (PaymentRepository.createPayment sha256 request
              (some key) (σ id) now) = (.returned result, db) :=
      fun hexisting hpayment hfinds =>
        @CreateCall.transact_of_claimed hashtext sha256 db ⟨request, key, σ id, now, hkey⟩ row _ _
          hrow habsent (hkeys key rfl) hfree hexisting hpayment hfinds
    cases hlookup : repository.idempotency.lookup key with
    | none =>
      rw [hlookup, Option.map_none] at hexisting
      rw [InMemoryPaymentRepository.createKeyed_of_unclaimed hlookup]
      refine ⟨_, ?_, hset.setKey ((AList.mem_insert _).mpr (.inl rfl)) hstorable⟩
      obtain ⟨held, hreturns⟩ := @CreateCall.returns_of_unclaimed hashtext sha256 db
        ⟨request, key, σ id, now, hkey⟩ row hrow habsent (hkeys key rfl) hexisting
      exact Engine.transact_of_executes hreturns rfl
    | some existing =>
      rw [hlookup, Option.map_some] at hexisting
      have hpayment : Storable (σ existing.2) := h.storable key existing hlookup
      -- Both compare the same fingerprints.
      by_cases hsame : existing.1 = requestFingerprint sha256 request
      · obtain ⟨payment, hfound⟩ := Option.isSome_iff_exists.mp
          (AList.lookup_isSome.mpr (repository.mem_payments key existing hlookup))
        obtain ⟨stored, hstored, hresult⟩ := h.found hfound
        rw [InMemoryPaymentRepository.createKeyed_of_replay hlookup hsame hfound]
        exact ⟨db, hclaimed hexisting hpayment (.replayed stored _ hsame hstored hresult), h⟩
      · rw [InMemoryPaymentRepository.createKeyed_of_conflict hlookup hsame]
        exact ⟨db, hclaimed hexisting hpayment (.conflicting hsame), h⟩

/-- A payment is got alike. -/
theorem get (h : Alike σ repository db) (hid : Storable (σ id)) :
    (postgres hashtext).transact db (PaymentRepository.get (σ id)) =
      (.returned ((repository.get id).map (renamePayment σ)), db) := by
  have hreturns : Returns hashtext db (PaymentRepository.get (σ id))
      ((repository.get id).map (renamePayment σ)) [] [] := by
    refine returns_selectPayment.mpr ⟨hid, ?_⟩
    cases hlookup : repository.payments.lookup id with
    | none =>
      rw [h.absent hlookup, InMemoryPaymentRepository.get, hlookup]
      exact Engine.executes_done.mpr ⟨rfl, rfl, rfl⟩
    | some payment =>
      obtain ⟨row, hrow, hread⟩ := h.found hlookup
      rw [hrow, InMemoryPaymentRepository.get, hlookup]
      simp only [hread]
      exact Engine.executes_done.mpr ⟨rfl, rfl, rfl⟩
  exact Engine.transact_of_executes hreturns rfl

/-- A call is answered alike, and leaves the repositories alike. -/
theorem step (hσ : Function.Injective σ) (h : Alike σ repository db) {call : Call}
    (hfresh : ∀ id ∈ call.drawn, id ∉ repository.payments) (hfits : (call.rename σ).Fits) :
    ∃ db', (postgres hashtext).transact db ((call.rename σ).body sha256) =
        (.returned ((call.inMemory sha256 repository).1.rename σ), db') ∧
      Alike σ (call.inMemory sha256 repository).2 db' := by
  cases call with
  | createPayment request idempotencyKey id now =>
    obtain ⟨db', htransact, halike⟩ : ∃ db', (postgres hashtext).transact db
        (PaymentRepository.createPayment sha256 request idempotencyKey (σ id) now) =
          (.returned ((repository.createPayment sha256 request idempotencyKey id now).1.map
            (renamePayment σ)), db') ∧
        Alike σ (repository.createPayment sha256 request idempotencyKey id now).2 db' :=
      h.createPayment hσ (hfresh id rfl) hfits
    refine ⟨db', ?_, halike⟩
    refine (Engine.transact_bind_done _ _ _).trans ?_
    rw [htransact]
    exact congrArg (fun answer => (Outcome.returned answer, db'))
      (rename_created σ (repository.createPayment sha256 request idempotencyKey id now).1).symm
  | get paymentId =>
    refine ⟨db, ?_, h⟩
    refine (Engine.transact_bind_done _ _ _).trans ?_
    rw [h.get hfits]
    rfl

end Alike

/-! ## Calls one after the other -/

/-- A payment that is there after a call was there, or is the one that the call would create. -/
theorem mem_payments_inMemory {call : Call}
    (h : id ∈ (call.inMemory sha256 repository).2.payments) :
    id ∈ repository.payments ∨ id ∈ call.drawn := by
  cases call with
  | get paymentId => exact .inl h
  | createPayment request idempotencyKey drawn now =>
    have hset : ∀ {payment : Payment}, payment.id = drawn →
        id ∈ (repository.setPayment payment).payments → id ∈ repository.payments ∨ drawn = id := by
      rintro payment rfl hid
      exact ((AList.mem_insert _).mp hid).symm.imp_right Eq.symm
    rw [Call.drawn, Option.mem_def, Option.some.injEq]
    change id ∈ (repository.createPayment sha256 request idempotencyKey drawn now).2.payments at h
    unfold InMemoryPaymentRepository.createPayment at h
    split at h
    · exact hset rfl h
    · exact hset rfl h
    · unfold InMemoryPaymentRepository.createKeyed at h
      split at h
      · split at h <;> exact .inl h
      · exact hset rfl h

/-- Repositories that are alike answer the same calls alike, whose new payments have ids of their
own. -/
theorem Alike.answers (hσ : Function.Injective σ) {calls : List Call} (h : Alike σ repository db)
    (hfresh : ∀ call ∈ calls, ∀ id ∈ call.drawn, id ∉ repository.payments)
    (hdistinct : (calls.filterMap Call.drawn).Nodup)
    (hfits : ∀ call ∈ calls, (call.rename σ).Fits) :
    ((postgres hashtext).transactAll (Call.body sha256) db (calls.map (Call.rename σ))).1.map
        Prod.snd =
      (Call.inMemoryAll sha256 repository calls).1.map fun answer =>
        .returned (answer.rename σ) := by
  induction calls generalizing repository db with
  | nil => rfl
  | cons call calls ih =>
    obtain ⟨hfirst, hrest⟩ := List.forall_mem_cons.mp hfresh
    obtain ⟨hfit, hfits⟩ := List.forall_mem_cons.mp hfits
    obtain ⟨db', htransact, halike⟩ : ∃ db', (postgres hashtext).transact db
          ((call.rename σ).body sha256) =
          (.returned ((call.inMemory sha256 repository).1.rename σ), db') ∧
        Alike σ (call.inMemory sha256 repository).2 db' := h.step hσ hfirst hfit
    -- What is stored after the first call was there before, or has the id of that call.
    have hnext : ∀ other ∈ calls, ∀ id ∈ other.drawn,
        id ∉ (call.inMemory sha256 repository).2.payments := by
      intro other hother id hid hmem
      rcases mem_payments_inMemory hmem with hthere | hdrawn
      · exact hrest other hother id hid hthere
      · -- The ids of two calls differ.
        rw [List.filterMap_cons_some hdrawn, List.nodup_cons] at hdistinct
        exact hdistinct.1 (List.mem_filterMap.mpr ⟨other, hother, hid⟩)
    have htail : (calls.filterMap Call.drawn).Nodup := by
      refine hdistinct.sublist ?_
      rw [List.filterMap_cons]
      split
      · exact List.Sublist.refl _
      · exact List.sublist_cons_self _ _
    rw [List.map_cons, Engine.transactAll, Call.inMemoryAll, htransact]
    exact congrArg _ (ih halike hnext htail hfits)

/-- The two repositories cannot be told apart: calls one after the other, whose new payments have
ids of their own, and whose values the columns hold, have the same answers from both, up to the ids
of the payments. -/
theorem answers_alike (hashtext : String → ℤ) (sha256 : String → Digest)
    {σ : String → String} (hσ : Function.Injective σ) {calls : List Call}
    (hdistinct : (calls.filterMap Call.drawn).Nodup)
    (hfits : ∀ call ∈ calls, (call.rename σ).Fits) :
    ((postgres hashtext).transactAll (Call.body sha256) migrated
        (calls.map (Call.rename σ))).1.map Prod.snd =
      (Call.inMemoryAll sha256 .new calls).1.map fun answer => .returned (answer.rename σ) :=
  Alike.answers hσ (.new σ) (fun _ _ _ _ => AList.notMem_empty _) hdistinct hfits

/-- The ids of the payments on PostgreSQL. -/
def sampleIds (id : String) : String := "pg_" ++ id

/-- A key that is new, replayed and used for another request; no key, and an empty one; and a
payment that is there, and one that is not. -/
def sampleCalls : List Call :=
  [.createPayment sampleOrder (some "key-1") "pay_1" 0,
   .createPayment sampleOrder (some "key-1") "pay_2" 1,
   .createPayment CreateCall.conflicting.request (some "key-1") "pay_3" 2,
   .createPayment sampleOrder none "pay_4" 3, .createPayment sampleOrder (some "") "pay_5" 4,
   .get "pay_1", .get "pay_2"]

/-- Their answers on PostgreSQL. -/
theorem answers_alike_sample :
    ((postgres fun _ => 0).transactAll (Call.body CreateCall.digests) migrated
        (sampleCalls.map (Call.rename sampleIds))).1.map Prod.snd =
      [.returned (.ok (some ⟨"pg_pay_1", 100, "MAD", "order-1", .pending, 0⟩)),
       .returned (.ok (some ⟨"pg_pay_1", 100, "MAD", "order-1", .pending, 0⟩)),
       .returned (.error conflictError),
       .returned (.ok (some ⟨"pg_pay_4", 100, "MAD", "order-1", .pending, 3⟩)),
       .returned (.ok (some ⟨"pg_pay_5", 100, "MAD", "order-1", .pending, 4⟩)),
       .returned (.ok (some ⟨"pg_pay_1", 100, "MAD", "order-1", .pending, 0⟩)),
       .returned (.ok none)] := by
  have hids : Function.Injective sampleIds := by
    intro id id' h
    have hlist := congrArg String.toList h
    simp only [sampleIds, String.toList_append, List.append_cancel_left_eq] at hlist
    exact String.toList_inj.mp hlist
  exact (answers_alike (fun _ => 0) CreateCall.digests hids (by decide) (by decide)).trans rfl

end PaymentRepository

end AtlasPay
