import AtlasPay.Api.Runs

/-!
# What clients of the API see

Who was told of a payment finds it from then on, with a status to which the one that was told
moves, and nobody finds one that nobody was told of. A payment that is answered is new, or that of
an earlier request with the same key and the same fingerprint; a conflict has an earlier request
with the same key and another fingerprint (`Contract`). The proof follows the calls one after the
other: what clients would be told then is what is committed (`Recorded`), and what they are told
becomes it.
-/

namespace AtlasPay

open Database
open Relation (ReflTransGen)

namespace Api

/-! ## What clients were told -/

/-- A request to create a payment was answered with one. -/
def Told (log : List (Call × Ended)) (request : CreatePaymentRequest) (key : Option String)
    (told : Payment) : Prop :=
  ∃ id now outcome, (Call.createPayment request key id now, outcome) ∈ log ∧
    answerOf outcome = some (.ok told)

/-- What is shown of a payment after one was told of it: its currency as the column pads it, and a
status to which the one that was told moves. -/
structure Shown (told shown : Payment) : Prop where
  id : shown.id = told.id
  amount : shown.amount = told.amount
  merchantReference : shown.merchantReference = told.merchantReference
  createdAt : shown.createdAt = told.createdAt
  currency : ∃ padded, bpchar 3 told.currency = .ok padded ∧ shown.currency = padded.1
  status : ReflTransGen StatusMove told.status.value shown.status.value

/-- The payment of which a client was told is stored, and can be read. -/
def Readable (db : Database) (told : Payment) : Prop :=
  Storable told.id ∧ ∃ row payment, db.payments.find? told.id = some row ∧
    PaymentRepository.rowToPayment row = .ok payment ∧ Shown told payment

/-- What clients were told is what is committed: the payments, and which key names which one. -/
structure Recorded (sha256 : String → Digest) (log : List (Call × Ended)) (db : Database) :
    Prop where
  readable : ∀ request key told, Told log request key told → Readable db told
  told : ∀ id row, db.payments.find? id = some row →
    ∃ request key told, Told log request key told ∧ told.id = id
  keyed : ∀ request key told, Told log request (some key) told → key ≠ "" →
    db.idempotencyKeys.find? key = some ⟨key, requestFingerprint sha256 request, told.id⟩
  claimed : ∀ key row, db.idempotencyKeys.find? key = some row →
    ∃ request told, Told log request (some key) told ∧
      row = ⟨key, requestFingerprint sha256 request, told.id⟩

/-- What the clients of the API can rely on. -/
structure Contract {α : Type} (sha256 : String → Digest) (token : Option String)
    (log : List (Event α)) : Prop where
  /-- Who was told of a payment finds it, with a status to which the one that was told moves. -/
  kept : ∀ before after id answer request key told, log = before ++ .got id answer :: after →
    Told (calls before) request key told → told.id = id →
      ∃ payment, answer = .ok payment ∧ Shown told payment
  /-- A payment that is found is one that somebody was told of. -/
  found : ∀ before after id payment, log = before ++ .got id (.ok payment) :: after →
    ∃ request key told, Told (calls before) request key told ∧ told.id = id ∧ Shown told payment
  /-- A payment that is found is found from then on, with a status that the first one moves to. -/
  onward : ∀ before between after id payment answer,
    log = before ++ .got id (.ok payment) :: between ++ .got id answer :: after →
      ∃ payment', answer = .ok payment' ∧ Later payment payment'
  /-- A payment that is answered is new, and so is its key, or it is that of an earlier request
  with the same key and the same fingerprint: both are told of what is stored by then, or of what it
  was before. -/
  answered : ∀ before after request key id now outcome told,
    log = before ++ .session (some (.createPayment request key id now, outcome)) :: after →
    answerOf outcome = some (.ok told) →
      told = Payment.new request id now ∧
        (∀ request' key' told', Told (calls before) request' key' told' →
          told'.id ≠ id ∧ (key' = key → key = none ∨ key = some "")) ∨
      ∃ key' request' told' stored, key = some key' ∧ key' ≠ "" ∧
        Told (calls before) request' key told' ∧
        requestFingerprint sha256 request' = requestFingerprint sha256 request ∧
        Shown told' stored ∧ Later told stored
  /-- A request that conflicts does so with an earlier one that has the same key and another
  fingerprint. -/
  conflicting : ∀ before after request key id now outcome answer,
    log = before ++ .session (some (.createPayment request key id now, outcome)) :: after →
    answerOf outcome = some answer → statusCode 201 answer = 409 →
      ∃ key' request' told', key = some key' ∧ key' ≠ "" ∧ Told (calls before) request' key told' ∧
        requestFingerprint sha256 request' ≠ requestFingerprint sha256 request
  /-- A snapshot that is let out is the one that was read, to a request that has the token. -/
  guarded : ∀ authorization read snapshot, .asked authorization read (.ok snapshot) ∈ log →
    read = .ok snapshot ∧ ∃ expected header scheme, token = some expected ∧ expected ≠ "" ∧
      authorization = some header ∧
      header.text.toList = scheme ++ ' ' :: expected.toList ∧ lower scheme = "bearer".toList

variable {hashtext : String → ℤ} {sha256 : String → Digest} {db db' : Database}
  {changes : List Change} {held : List Lock} {token : Option String}
  {request request' : CreatePaymentRequest} {key : Option String} {id : String} {now : Timestamp}
  {told : Payment} {outcome outcome' : Ended} {log serial : List (Call × Ended)} {α : Type}

/-- A client is answered with a payment when the call has committed and returned it. -/
theorem answerOf_eq_ok :
    answerOf outcome = some (.ok told) ↔ outcome = .returned (some (.ok told)) := by
  constructor
  · intro h
    match outcome with
    | .returned (some (.ok told')) =>
      cases h
      rfl
    | .returned (some (.error e)) => cases e <;> cases h
    | .raised e => cases e <;> cases h
  · rintro rfl
    rfl

/-- A client is answered a conflict when the call raises it. -/
theorem conflict_of_answerOf {answer : Except Raised Payment}
    (h : answerOf outcome = some answer) (hstatus : statusCode 201 answer = 409) :
    ∃ message, outcome = .returned (some (.error (.idempotencyConflict message))) ∨
      outcome = .raised (.idempotencyConflict message) := by
  cases outcome with
  | returned created =>
    obtain ⟨created, rfl, rfl⟩ := Option.map_eq_some_iff.mp h
    obtain ⟨message, rfl⟩ := conflict_of_statusCode hstatus
    exact ⟨message, .inl rfl⟩
  | raised e =>
    cases Option.some.inj h
    obtain ⟨message, hraised⟩ := conflict_of_statusCode hstatus
    exact ⟨message, .inr (congrArg _ (Except.error.inj hraised))⟩
  | refused r =>
    cases Option.some.inj h
    obtain ⟨message, hraised⟩ := conflict_of_statusCode hstatus
    cases hraised

/-- An answer with a payment is one with the payment later. -/
theorem exists_later_of_becomes
    (h : (Outcome.returned (some (.ok told)) : Ended).Becomes AnswerLater outcome') :
    ∃ told', outcome' = .returned (some (.ok told')) ∧ Later told told' := by
  cases h with
  | returned h =>
    cases h with
    | same => exact ⟨told, rfl, .refl told⟩
    | later h => exact ⟨_, rfl, h⟩

/-- An answer with a payment is one with the payment earlier. -/
theorem exists_earlier_of_becomes
    (h : outcome.Becomes AnswerLater (.returned (some (.ok told)))) :
    ∃ told', outcome = .returned (some (.ok told')) ∧ Later told' told := by
  cases h with
  | returned h =>
    cases h with
    | same => exact ⟨told, rfl, .refl told⟩
    | later h => exact ⟨_, rfl, h⟩

/-- A conflict is one at any time. -/
theorem eq_of_conflict {answer : Except Raised Payment} (h : answerOf outcome = some answer)
    (hstatus : statusCode 201 answer = 409) (hbecomes : outcome.Becomes AnswerLater outcome') :
    outcome' = outcome := by
  obtain ⟨message, rfl | rfl⟩ := conflict_of_answerOf h hstatus
  · cases hbecomes with
    | returned hlater =>
      cases hlater
      rfl
  · cases hbecomes
    rfl

/-- No status moves to pending, so a payment that is pending was so before. -/
theorem Later.eq_of_pending {payment : Payment} (h : Later told payment)
    (hpending : payment.status = .pending) : told = payment := by
  have hstatus := h.status
  rw [hpending] at hstatus
  have hsame : told.status = .pending := by
    rcases hstatus.cases_tail with heq | ⟨status, -, hmove⟩
    · exact PaymentStatus.value_injective heq.symm
    · generalize htarget : PaymentStatus.pending.value = target at hmove
      cases hmove with
      | authorized => cases PaymentStatus.value_injective htarget
      | operation operation =>
        have hbad := PaymentStatus.value_injective htarget
        cases operation <;> cases hbad
  rw [h.same, hpending, ← hsame]

/-- What clients were told stays told. -/
theorem Told.append (h : Told log request key told) (later : List (Call × Ended)) :
    Told (log ++ later) request key told := by
  obtain ⟨id, now, outcome, hmem, hanswer⟩ := h
  exact ⟨id, now, outcome, List.mem_append_left _ hmem, hanswer⟩

/-- Of what clients were told, one call is the last to tell. -/
theorem told_concat_iff {ended : Call × Ended} :
    Told (log ++ [ended]) request key told ↔ Told log request key told ∨
      ∃ id now, ended = (.createPayment request key id now, .returned (some (.ok told))) := by
  constructor
  · rintro ⟨id, now, outcome, hmem, hanswer⟩
    rcases List.mem_append.mp hmem with hold | hnew
    · exact .inl ⟨id, now, outcome, hold, hanswer⟩
    · rw [answerOf_eq_ok.mp hanswer] at hnew
      exact .inr ⟨id, now, (List.mem_singleton.mp hnew).symm⟩
  · rintro (hold | ⟨id, now, rfl⟩)
    · exact hold.append _
    · exact ⟨id, now, _, List.mem_append_right _ List.mem_cons_self, answerOf_eq_ok.mpr rfl⟩

/-! ## What stays -/

/-- What is shown of a payment is shown later. -/
theorem Shown.later {payment payment' : Payment} (h : Shown told payment)
    (hlater : Later payment payment') : Shown told payment' := by
  obtain ⟨padded, hpadded, hcurrency⟩ := h.currency
  have hstatus := h.status.trans hlater.status
  rw [hlater.same]
  exact ⟨h.id, h.amount, h.merchantReference, h.createdAt, ⟨padded, hpadded, hcurrency⟩, hstatus⟩

/-- What is shown of a payment later is shown of it as it was told. -/
theorem Later.shown {told' payment : Payment} (h : Later told told') (hshown : Shown told' payment) :
    Shown told payment := by
  have hstatus := h.status.trans hshown.status
  rw [h.same] at hshown
  exact { hshown with status := hstatus }

/-- A payment that can be read can be read later. -/
theorem Readable.later (h : Readable db told) (hlater : Extends db db') : Readable db' told := by
  obtain ⟨hstorable, row, payment, hrow, hpayment, hshown⟩ := h
  obtain ⟨hmem, hid⟩ := Table.find?_eq_some_iff.mp hrow
  obtain ⟨row', hmem', hcontinues⟩ := hlater.payments.exists_mem hmem
  obtain ⟨payment', hpayment', hlaterPayment⟩ := later_of_continues hcontinues hpayment
  have hrow' : db'.payments.find? told.id = some row' :=
    Table.find?_eq_some_iff.mpr ⟨hmem', hcontinues.id.trans hid⟩
  exact ⟨hstorable, row', payment', hrow', hpayment', hshown.later hlaterPayment⟩

/-- A key that is stored stays. -/
theorem key_later {k : String} {row : IdempotencyKeyRow}
    (h : db.idempotencyKeys.find? k = some row) (hlater : Extends db db') :
    db'.idempotencyKeys.find? k = some row := by
  obtain ⟨hmem, hkey⟩ := Table.find?_eq_some_iff.mp h
  exact Table.find?_eq_some_iff.mpr ⟨hlater.keys.prefix_of_eq.subset hmem, hkey⟩

/-- A change neither creates nor removes a payment, nor a key. -/
def StaysAside : Change → Prop
  | .insertPayment _ | .deletePayment _ | .insertIdempotencyKey _ => False
  | _ => True

variable (db) in
/-- Changes that neither create nor remove a payment, nor a key. -/
theorem aside_after (h : ∀ change ∈ changes, StaysAside change) :
    (after changes db).idempotencyKeys = db.idempotencyKeys ∧
      ∀ id, ((after changes db).payments.find? id).isSome = (db.payments.find? id).isSome := by
  induction changes generalizing db with
  | nil => exact ⟨rfl, fun _ => rfl⟩
  | cons change changes ih =>
    obtain ⟨hfirst, hrest⟩ := List.forall_mem_cons.mp h
    obtain ⟨hkeys, hpayments⟩ := ih (db.apply change) hrest
    rw [after_cons]
    cases change with
    | insertPayment | deletePayment | insertIdempotencyKey => cases hfirst
    | setPaymentStatus id status =>
      refine ⟨hkeys, fun id' => (hpayments id').trans ?_⟩
      rw [apply, Table.find?_modify, Option.isSome_map]
    | insertLedgerAccount | insertLedgerTransaction | insertLedgerEntry | insertPaymentOperation
      | insertOutboxEvent | updateOutboxEvents => exact ⟨hkeys, hpayments⟩

/-- Calls of the services other than for new payments neither create nor remove one, nor a key. -/
theorem aside_of_writes {call : ServiceCall}
    (hcall : ∀ request key id now, call ≠ .createPayment request key id now)
    (h : ServiceCall.Writes hashtext sha256 db call changes held) :
    ∀ change ∈ changes, StaysAside change := by
  intro change hchange
  cases h with
  | created => exact absurd rfl (hcall _ _ _ _)
  | authorized | opened | updated =>
    rw [List.mem_singleton.mp hchange]
    trivial
  | executed hexecutes =>
    cases hexecutes with
    | replayed => cases hchange
    | recorded =>
      simp only [List.mem_cons, List.not_mem_nil, or_false] at hchange
      rcases hchange with rfl | rfl | rfl | rfl | rfl | rfl <;> trivial
  | posted journal entries =>
    rcases List.mem_cons.mp hchange with rfl | hentry
    · trivial
    · obtain ⟨entry, -, rfl⟩ := List.mem_map.mp hentry
      trivial
  | nothing => cases hchange

/-- The calls behind the API neither create nor remove a payment, nor a key. -/
theorem aside_of_returns {call : Call} {answer : Answer}
    (hcall : ∀ request key id now, call ≠ .createPayment request key id now)
    (h : Returns hashtext db (call.body sha256) answer changes held) :
    ∀ change ∈ changes, StaysAside change := by
  refine aside_of_writes (fun request key id now heq => ?_)
    (ServiceCall.writes_of_returns (returns_toServiceCall h))
  cases call with
  | createPayment request' key' id' now' => exact hcall _ _ _ _ rfl
  | authorize | createAccount | execute | post => cases heq

/-! ## One call -/

namespace Recorded

/-- A call that tells nobody of a payment, and neither creates nor removes one. -/
theorem silent (h : Recorded sha256 log db) {ended : Call × Ended}
    (huntold : ∀ request key id now told,
      ended ≠ (.createPayment request key id now, .returned (some (.ok told))))
    (hlater : Extends db db') (hkeys : db'.idempotencyKeys = db.idempotencyKeys)
    (hpayments : ∀ id, (db'.payments.find? id).isSome = (db.payments.find? id).isSome) :
    Recorded sha256 (log ++ [ended]) db' := by
  have htold : ∀ {request key told}, Told (log ++ [ended]) request key told →
      Told log request key told := by
    intro request key told htold
    rcases told_concat_iff.mp htold with hold | ⟨id, now, hlast⟩
    · exact hold
    · exact absurd hlast (huntold request key id now told)
  refine ⟨fun request key told hnow => (h.readable request key told (htold hnow)).later hlater, ?_,
    fun request key told hnow hkey => ?_, fun key row hrow => ?_⟩
  · intro id row hrow
    have hsome : (db.payments.find? id).isSome := by
      rw [← hpayments, hrow]
      rfl
    obtain ⟨row₀, hrow₀⟩ := Option.isSome_iff_exists.mp hsome
    obtain ⟨request, key, told, hold, hid⟩ := h.told id row₀ hrow₀
    exact ⟨request, key, told, hold.append _, hid⟩
  · rw [hkeys]
    exact h.keyed request key told (htold hnow) hkey
  · rw [hkeys] at hrow
    obtain ⟨request, told, hold, hrow⟩ := h.claimed key row hrow
    exact ⟨request, told, hold.append _, hrow⟩

/-- A new payment is stored as it is answered. -/
theorem readable_new {row : PaymentRow}
    (hrow : paymentRow (Payment.new request id now) = .ok row)
    (hpayments : db.payments.find? id = some row) :
    Readable db (Payment.new request id now) := by
  have hstorable : Storable id := (storable_of_paymentRow hrow).1
  obtain ⟨hid, hamount, hstatus, hcreatedAt, ⟨currency, hpadded, hcurrency⟩, reference, hkept,
    hreference⟩ := paymentRow_eq_ok hrow
  have hkept : varchar 128 request.merchantReference = .ok reference := hkept
  cases (varchar_of_length request.merchantReference_max).symm.trans hkept
  have hpending : PaymentStatus.ofValue? row.status = some .pending := by
    rw [hstatus]
    exact PaymentStatus.ofValue?_value _
  exact ⟨hstorable, row, _, hpayments, rowToPayment_eq_ok.mpr ⟨.pending, hpending, rfl⟩,
    hid, hamount, hreference, hcreatedAt, ⟨currency, hpadded, hcurrency⟩, .refl⟩

/-- A new payment, without a key or with one that is claimed. -/
theorem fresh (h : Recorded sha256 log db) {row : PaymentRow}
    (hrow : paymentRow (Payment.new request id now) = .ok row) (hlater : Extends db db')
    (hpayments : db'.payments = db.payments.put row)
    (hkeys : (key = none ∨ key = some "") ∧ db'.idempotencyKeys = db.idempotencyKeys ∨
      ∃ k, key = some k ∧ k ≠ "" ∧ db.idempotencyKeys.find? k = none ∧
        db'.idempotencyKeys = db.idempotencyKeys.put ⟨k, requestFingerprint sha256 request, id⟩) :
    Recorded sha256 (log ++ [(.createPayment request key id now,
      .returned (some (.ok (Payment.new request id now))))]) db' := by
  have hid : row.id = id := (paymentRow_eq_ok hrow).1
  have hnow : Told (log ++ [(Call.createPayment request key id now,
      .returned (some (.ok (Payment.new request id now))))]) request key
      (Payment.new request id now) := told_concat_iff.mpr (.inr ⟨id, now, rfl⟩)
  -- In the order of `Recorded`: who was told reads it, what is there was told, a key that was told
  -- is claimed, and a key that is claimed was told.
  refine ⟨fun request' key' told htold => ?_, fun id' row' hrow' => ?_,
    fun request' k' told htold hk' => ?_, fun k' row' hrow' => ?_⟩
  · rcases told_concat_iff.mp htold with hold | ⟨id', now', hlast⟩
    · exact (h.readable request' key' told hold).later hlater
    · cases hlast
      refine readable_new hrow ?_
      rw [hpayments, Table.find?_put, if_pos hid]
  · rw [hpayments, Table.find?_put] at hrow'
    split at hrow'
    case isTrue heq => exact ⟨request, key, _, hnow, hid.symm.trans heq⟩
    case isFalse =>
      obtain ⟨request', key', told, hold, hsame⟩ := h.told id' row' hrow'
      exact ⟨request', key', told, hold.append _, hsame⟩
  · rcases told_concat_iff.mp htold with hold | ⟨id', now', hlast⟩
    · exact key_later (h.keyed request' k' told hold hk') hlater
    · cases hlast
      rcases hkeys with ⟨hempty | hempty, -⟩ | ⟨k, hkey, -, -, hput⟩
      · cases hempty
      · cases hempty
        -- A payment without a key claims none.
        exact absurd rfl hk'
      · cases hkey
        rw [hput, Table.find?_put, if_pos rfl]
        rfl
  · rcases hkeys with ⟨-, hsame⟩ | ⟨k, rfl, hk, hunclaimed, hput⟩
    · rw [hsame] at hrow'
      obtain ⟨request', told, hold, hrow'⟩ := h.claimed k' row' hrow'
      exact ⟨request', told, hold.append _, hrow'⟩
    · rw [hput, Table.find?_put] at hrow'
      split at hrow'
      case isTrue heq =>
        cases heq
        cases hrow'
        exact ⟨request, _, hnow, rfl⟩
      case isFalse =>
        obtain ⟨request', told, hold, hrow'⟩ := h.claimed k' row' hrow'
        exact ⟨request', told, hold.append _, hrow'⟩

/-- A payment of an earlier call with the key. -/
theorem replayed (h : Recorded sha256 log db) {k : String} {existing : IdempotencyKeyRow}
    {row : PaymentRow} {payment : Payment}
    (hexisting : db.idempotencyKeys.find? k = some existing)
    (hsame : existing.requestFingerprint = requestFingerprint sha256 request)
    (hrow : db.payments.find? existing.paymentId = some row)
    (hpayment : PaymentRepository.rowToPayment row = .ok payment) :
    Recorded sha256 (log ++ [(.createPayment request (some k) id now,
      .returned (some (.ok payment)))]) db := by
  obtain ⟨request₀, told₀, hold₀, rfl⟩ := h.claimed k existing hexisting
  obtain ⟨hstorable, row₀, payment₀, hrow₀, hpayment₀, hshown⟩ := h.readable _ _ _ hold₀
  -- The row of the key is that of the earlier payment.
  cases hrow₀.symm.trans hrow
  cases hpayment₀.symm.trans hpayment
  have hid : payment.id = told₀.id := hshown.id
  -- What is read of a row is shown as it is.
  have hreadable : Readable db payment := by
    obtain ⟨status, hstatus, hstored'⟩ := rowToPayment_eq_ok.mp hpayment
    have hcurrency : payment.currency = row.currency := by rw [hstored']
    refine ⟨?_, row, payment, ?_, hpayment, rfl, rfl, rfl, rfl, ?_, .refl⟩
    · show Storable payment.id
      rwa [hid]
    · show db.payments.find? payment.id = some row
      rwa [hid]
    · refine ⟨⟨row.currency, row.currency_char⟩, ?_, hcurrency⟩
      show bpchar 3 payment.currency = _
      rw [hcurrency]
      exact bpchar_of_length row.currency_char
  refine ⟨fun request' key' told htold => ?_, fun id' row' hrow' => ?_,
    fun request' k' told htold hk' => ?_, fun k' row' hrow' => ?_⟩
  · rcases told_concat_iff.mp htold with hold | ⟨id', now', hlast⟩
    · exact h.readable request' key' told hold
    · cases hlast
      exact hreadable
  · obtain ⟨request', key', told, hold, hsame'⟩ := h.told id' row' hrow'
    exact ⟨request', key', told, hold.append _, hsame'⟩
  · rcases told_concat_iff.mp htold with hold | ⟨id', now', hlast⟩
    · exact h.keyed request' k' told hold hk'
    · cases hlast
      rw [hexisting, ← hsame]
      exact congrArg (fun id => some (IdempotencyKeyRow.mk k _ id)) hid.symm
  · obtain ⟨request', told, hold, hrow'⟩ := h.claimed k' row' hrow'
    exact ⟨request', told, hold.append _, hrow'⟩

/-- A call keeps what clients were told. -/
theorem step (h : Recorded sha256 log db) {call : Call}
    (hstep : (postgres hashtext).transact db (call.body sha256) = (outcome, db')) :
    Recorded sha256 (log ++ [(call, outcome)]) db' := by
  rcases Engine.transact_cases hstep with ⟨rfl, hended⟩ | ⟨answer, changes, held, rfl, hexec, -, rfl⟩
  · refine h.silent (fun request key id now told heq => ?_) (.refl _) rfl fun _ => rfl
    exact hended _ (congrArg Prod.snd heq)
  have hlater : Extends db (after changes db) :=
    ServiceCall.extends_after (returns_toServiceCall hexec)
  by_cases hcall : ∀ request key id now, call ≠ .createPayment request key id now
  · obtain ⟨hkeys, hpayments⟩ := aside_after db (aside_of_returns hcall hexec)
    refine h.silent (fun request key id now told heq => ?_) hlater hkeys hpayments
    exact hcall request key id now (congrArg Prod.fst heq)
  push Not at hcall
  obtain ⟨request, key, id, now, rfl⟩ := hcall
  obtain ⟨created, hcreated, rfl⟩ := Engine.executes_bind_done.mp hexec
  cases PaymentRepository.creates_of_returns hcreated with
  | unkeyed row hkey hrow habsent =>
    exact h.fresh hrow hlater rfl (.inl ⟨hkey, rfl⟩)
  | @claimed k _ row hkey hrow habsent hunclaimed =>
    exact h.fresh hrow hlater rfl (.inr ⟨k, rfl, hkey, hunclaimed, rfl⟩)
  | found row existing hkey hrow habsent hexisting hresult =>
    show Recorded _ _ (after _ db)
    rw [PaymentRepository.after_insert_delete hrow habsent]
    cases hresult with
    | conflicting hdiffers =>
      exact h.silent (fun _ _ _ _ _ heq => nomatch heq) (.refl db) rfl fun _ => rfl
    | replayed stored payment hsame hstored hpayment =>
      exact h.replayed hexisting hsame hstored hpayment

end Recorded

/-- In every run of calls one after the other, what clients were told is what is committed. -/
theorem recorded_of_serial
    (h : ((postgres hashtext).serial (· = migrated) (Call.body sha256)).Run log db) :
    Recorded sha256 log db := by
  refine h.log_invariant (P := Recorded sha256) ?_ fun log db ended db' _ ih hstep => ih.step hstep
  rintro db rfl
  refine ⟨?_, fun id row hrow => ?_, ?_, fun key row hrow => ?_⟩
  · rintro request key told ⟨id, now, outcome, hmem, -⟩
    cases hmem
  · cases hrow
  · rintro request key told ⟨id, now, outcome, hmem, -⟩
    cases hmem
  · cases hrow

/-! ## One request -/

/-- A payment whose row is stored is got. -/
theorem returns_get {row : PaymentRow} {payment : Payment} (hstorable : Storable id)
    (hrow : db.payments.find? id = some row)
    (hpayment : PaymentRepository.rowToPayment row = .ok payment) :
    Returns hashtext db (PaymentRepository.get id) (some payment) [] [] := by
  refine returns_selectPayment.mpr ⟨hstorable, ?_⟩
  simp only [hrow, hpayment]
  exact Engine.executes_done.mpr ⟨rfl, rfl, rfl⟩

/-- What a client is answered that asks for a payment of which somebody was told. -/
theorem getPayment_of_readable (h : Readable db told) :
    ∃ payment, getPayment
        (ended ((postgres hashtext).transact db (PaymentRepository.get told.id)).1) = .ok payment ∧
      Shown told payment := by
  obtain ⟨hstorable, row, payment, hrow, hpayment, hshown⟩ := h
  rw [Engine.transact_of_executes (returns_get hstorable hrow hpayment) rfl]
  exact ⟨payment, rfl, hshown⟩

/-- A payment is answered when its row is stored, and read from it. -/
theorem row_of_getPayment {payment : Payment} (h : getPayment
    (ended ((postgres hashtext).transact db (PaymentRepository.get id)).1) = .ok payment) :
    Storable id ∧ ∃ row, db.payments.find? id = some row ∧
      PaymentRepository.rowToPayment row = .ok payment := by
  generalize hended : (postgres hashtext).transact db (PaymentRepository.get id) = result at h
  obtain ⟨outcome, db'⟩ := result
  rcases Engine.transact_cases hended with ⟨-, hnot⟩ | ⟨found, changes, held, rfl, hexec, -⟩
  · cases outcome with
    | returned found => exact absurd rfl (hnot found)
    | raised e => cases h
    | refused r => cases h
  obtain ⟨hstorable, hnext⟩ := returns_selectPayment.mp hexec
  cases hrow : db.payments.find? id with
  | none =>
    rw [hrow] at hnext
    obtain ⟨rfl, -⟩ := Engine.executes_done.mp hnext
    cases h
  | some row =>
    simp only [hrow] at hnext
    cases hpayment : PaymentRepository.rowToPayment row with
    | error e =>
      rw [hpayment] at hnext
      exact absurd hnext Engine.executes_fail
    | ok payment' =>
      rw [hpayment] at hnext
      obtain ⟨rfl, -⟩ := Engine.executes_done.mp hnext
      cases h
      exact ⟨hstorable, row, rfl, hpayment⟩

/-- A payment that is answered is answered later, with a status that the first one moves to. -/
theorem getPayment_later {payment : Payment} (hlater : Extends db db')
    (h : getPayment (ended
      ((postgres hashtext).transact db (PaymentRepository.get id)).1) = .ok payment) :
    ∃ payment', getPayment (ended
        ((postgres hashtext).transact db' (PaymentRepository.get id)).1) = .ok payment' ∧
      Later payment payment' := by
  obtain ⟨hstorable, row, hrow, hpayment⟩ := row_of_getPayment h
  obtain ⟨hmem, hid⟩ := Table.find?_eq_some_iff.mp hrow
  obtain ⟨row', hmem', hcontinues⟩ := hlater.payments.exists_mem hmem
  obtain ⟨payment', hpayment', hlaterPayment⟩ := later_of_continues hcontinues hpayment
  have hrow' : db'.payments.find? id = some row' :=
    Table.find?_eq_some_iff.mpr ⟨hmem', hcontinues.id.trans hid⟩
  rw [Engine.transact_of_executes (returns_get hstorable hrow' hpayment') rfl]
  exact ⟨payment', rfl, hlaterPayment⟩

/-- What a request to create a payment finds that is answered with one. -/
theorem answered_of_transact (h : Recorded sha256 log db)
    (hstep : (postgres hashtext).transact db
      ((Call.createPayment request key id now).body sha256) = (outcome, db'))
    (hanswer : answerOf outcome = some (.ok told)) :
    told = Payment.new request id now ∧
        (∀ request' key' told', Told log request' key' told' →
          told'.id ≠ id ∧ (key' = key → key = none ∨ key = some "")) ∨
      ∃ k request' told', key = some k ∧ k ≠ "" ∧ Told log request' key told' ∧
        requestFingerprint sha256 request' = requestFingerprint sha256 request ∧
        Shown told' told := by
  rw [answerOf_eq_ok.mp hanswer] at hstep
  obtain ⟨changes, held, hexec, -, -⟩ := Engine.transact_eq_returned.mp hstep
  obtain ⟨created, hcreated, hsome⟩ := Engine.executes_bind_done.mp hexec
  -- Everyone who was told has a payment in the table, and the id was not in it.
  have hnew : db.payments.find? id = none → ∀ request' key' told', Told log request' key' told' →
      told'.id ≠ id := by
    rintro habsent request' key' told' htold rfl
    obtain ⟨-, row, -, hrow, -⟩ := h.readable request' key' told' htold
    rw [habsent] at hrow
    cases hrow
  cases PaymentRepository.creates_of_returns hcreated with
  | unkeyed row hkey hrow habsent =>
    cases hsome
    exact .inl ⟨rfl, fun request' key' told' htold =>
      ⟨hnew habsent request' key' told' htold, fun _ => hkey⟩⟩
  | @claimed k _ row hkey hrow habsent hunclaimed =>
    cases hsome
    refine .inl ⟨rfl, fun request' key' told' htold =>
      ⟨hnew habsent request' key' told' htold, fun heq => ?_⟩⟩
    rw [heq] at htold
    -- An earlier payment with this key would have claimed it.
    have hclaimed := h.keyed request' k told' htold hkey
    rw [hunclaimed] at hclaimed
    cases hclaimed
  | @found k _ _ row existing hkey hrow habsent hexisting hresult =>
    cases hresult with
    | conflicting => cases hsome
    | replayed stored payment hsame hstored hpayment =>
      cases hsome
      obtain ⟨request', told', htold, rfl⟩ := h.claimed k existing hexisting
      obtain ⟨-, row', payment', hrow', hpayment', hshown⟩ := h.readable _ _ _ htold
      cases hrow'.symm.trans hstored
      cases hpayment'.symm.trans hpayment
      exact .inr ⟨k, request', told', rfl, hkey, htold, hsame, hshown⟩

/-- Reading what a key points to raises no conflict. -/
theorem raises_readClaimed (fingerprint : Digest) (existing : Option IdempotencyKeyRow) :
    (PaymentRepository.readClaimed fingerprint existing).Raises
      fun e => ∀ message, e ≠ .idempotencyConflict message := by
  cases existing with
  | none =>
    intro message heq
    cases heq
  | some existing =>
    rw [PaymentRepository.readClaimed]
    split
    · trivial
    · intro found
      cases found with
      | none =>
        intro message heq
        cases heq
      | some row =>
        dsimp only
        unfold PaymentRepository.rowToPayment
        cases PaymentStatus.ofValue? row.status with
        | none =>
          intro message heq
          cases heq
        | some status => trivial

/-- The transaction of `create_payment` raises no conflict: it is raised once it has committed. -/
theorem raises_createPayment :
    ((Call.createPayment request key id now).body sha256).Raises
      fun e => ∀ message, e ≠ .idempotencyConflict message := by
  refine Program.raises_bind_done _ ?_
  unfold PaymentRepository.createPayment
  split
  · exact fun _ => trivial
  · exact fun _ => trivial
  · refine Program.raises_bind_done _ fun _ claimed => ?_
    cases claimed with
    | some _ => trivial
    | none => exact fun _ existing => raises_readClaimed _ existing

/-- What a request to create a payment finds that is answered a conflict. -/
theorem conflicting_of_transact (h : Recorded sha256 log db)
    (hstep : (postgres hashtext).transact db
      ((Call.createPayment request key id now).body sha256) = (outcome, db'))
    {answer : Except Raised Payment} (hanswer : answerOf outcome = some answer)
    (hstatus : statusCode 201 answer = 409) :
    ∃ k request' told', key = some k ∧ k ≠ "" ∧ Told log request' key told' ∧
      requestFingerprint sha256 request' ≠ requestFingerprint sha256 request := by
  obtain ⟨message, rfl | rfl⟩ := conflict_of_answerOf hanswer hstatus
  case inr => exact absurd rfl (Engine.raises_of_transact raises_createPayment hstep message)
  obtain ⟨changes, held, hexec, -, -⟩ := Engine.transact_eq_returned.mp hstep
  obtain ⟨created, hcreated, hsome⟩ := Engine.executes_bind_done.mp hexec
  cases PaymentRepository.creates_of_returns hcreated with
  | unkeyed => cases hsome
  | claimed => cases hsome
  | @found k _ _ row existing hkey hrow habsent hexisting hresult =>
    cases hresult with
    | replayed => cases hsome
    | conflicting hdiffers =>
      obtain ⟨request', told', htold, rfl⟩ := h.claimed k existing hexisting
      exact ⟨k, request', told', rfl, hkey, htold, hdiffers⟩

/-! ## Runs -/

/-- What clients were told they would be told later, one call after the other. -/
theorem Told.exists_later (h : List.Forall₂ (Outcome.EndBecomes AnswerLater) log serial)
    (htold : Told log request key told) :
    ∃ told', Told serial request key told' ∧ Later told told' := by
  obtain ⟨id, now, outcome, hmem, hanswer⟩ := htold
  obtain rfl := answerOf_eq_ok.mp hanswer
  obtain ⟨⟨call, outcome'⟩, hmem', rfl, hbecomes⟩ :=
    Grows.exists_mem ⟨serial, h, List.prefix_rfl⟩ hmem
  obtain ⟨told', rfl, hlater⟩ := exists_later_of_becomes hbecomes
  exact ⟨told', ⟨id, now, _, hmem', answerOf_eq_ok.mpr rfl⟩, hlater⟩

/-- What clients would be told later they were told, one call after the other. -/
theorem Told.exists_earlier (h : List.Forall₂ (Outcome.EndBecomes AnswerLater) log serial)
    (htold : Told serial request key told) :
    ∃ told', Told log request key told' ∧ Later told' told := by
  obtain ⟨id, now, outcome, hmem, hanswer⟩ := htold
  obtain rfl := answerOf_eq_ok.mp hanswer
  obtain ⟨⟨call, outcome'⟩, hmem', hcall, hbecomes⟩ :=
    Grows.exists_mem ⟨log, List.Forall₂.flip h, List.prefix_rfl⟩ hmem
  obtain rfl : call = .createPayment request key id now := hcall
  obtain ⟨told', rfl, hlater⟩ := exists_earlier_of_becomes hbecomes
  exact ⟨told', ⟨id, now, _, hmem', answerOf_eq_ok.mpr rfl⟩, hlater⟩

/-- What clients were told is what is committed, when what they would be told later is. -/
theorem Recorded.of_later (h : Recorded sha256 serial db)
    (hlater : List.Forall₂ (Outcome.EndBecomes AnswerLater) log serial) :
    Recorded sha256 log db where
  readable request key told htold := by
    obtain ⟨told', htold', hlater⟩ := htold.exists_later hlater
    obtain ⟨hstorable, row, payment, hrow, hpayment, hshown⟩ := h.readable request key told' htold'
    have hid : told'.id = told.id := by rw [hlater.same]
    rw [hid] at hstorable hrow
    exact ⟨hstorable, row, payment, hrow, hpayment, hlater.shown hshown⟩
  told id row hrow := by
    obtain ⟨request, key, told', htold', rfl⟩ := h.told id row hrow
    obtain ⟨told, htold, hlater⟩ := htold'.exists_earlier hlater
    exact ⟨request, key, told, htold, by rw [hlater.same]⟩
  keyed request key told htold hkey := by
    obtain ⟨told', htold', hlater⟩ := htold.exists_later hlater
    rw [h.keyed request key told' htold' hkey, hlater.same]
  claimed key row hrow := by
    obtain ⟨request, told', htold', rfl⟩ := h.claimed key row hrow
    obtain ⟨told, htold, hlater⟩ := htold'.exists_earlier hlater
    exact ⟨request, told, htold, by rw [hlater.same]⟩

/-- In every run, what clients were told is what is committed. -/
theorem recorded_of_run {log : List (Event α)} {s : Sessions}
    (h : (server hashtext sha256 token α).Run log s) :
    Recorded sha256 (calls log) s.committed := by
  obtain ⟨serial, hserial, hlater⟩ := exists_serial_of_run h
  exact (recorded_of_serial hserial).of_later hlater

/-- What is committed later in a run is later. -/
theorem extends_of_run {log later : List (Event α)} {s s' : Sessions}
    (h : (server hashtext sha256 token α).Run log s)
    (h' : (server hashtext sha256 token α).Run (log ++ later) s') :
    Extends s.committed s'.committed := by
  have hall := interleaved_of_run h'
  unfold labels at hall
  rw [List.filterMap_append] at hall
  obtain ⟨serial, hsteps, -⟩ :=
    Engine.exists_serial_steps_of_run covers (interleaved_of_run h) hall
  exact Engine.serial_steps_preserve (P := Extends s.committed)
    (fun _ _ _ _ _ hbefore hexec _ =>
      hbefore.trans (ServiceCall.extends_after (returns_toServiceCall hexec))) (.refl _) hsteps

/-- A call that ends does so as a transaction on what is committed, with what its answer becomes. -/
theorem transact_of_step {log : List (Event α)} {s s' : Sessions} {call : Call}
    (h : (server hashtext sha256 token α).Run log s)
    (hstep : (server hashtext sha256 token α).step s (.session (some (call, outcome))) s') :
    ∃ outcome', (postgres hashtext).transact s.committed (call.body sha256) =
      (outcome', s'.committed) ∧ outcome.Becomes AnswerLater outcome' :=
  Engine.transact_of_step covers (interleaved_of_run h) hstep

/-- What clients of the API can rely on, in every run of their requests and of what goes on behind
them: they find what they were told of, and a key names one payment. -/
theorem contract_of_run {log : List (Event α)} {s : Sessions}
    (h : (server hashtext sha256 token α).Run log s) : Contract sha256 token log where
  kept := by
    rintro before after id answer request key told rfl htold rfl
    obtain ⟨s₁, s₂, hbefore, ⟨-, rfl⟩, -⟩ := Lts.run_split h
    exact getPayment_of_readable ((recorded_of_run hbefore).readable request key told htold)
  found := by
    rintro before after id payment rfl
    obtain ⟨s₁, s₂, hbefore, ⟨-, hanswer⟩, -⟩ := Lts.run_split h
    have hrecorded := recorded_of_run hbefore
    obtain ⟨-, row, hrow, hpayment⟩ := row_of_getPayment hanswer.symm
    obtain ⟨request, key, told, htold, rfl⟩ := hrecorded.told id row hrow
    obtain ⟨-, row', payment', hrow', hpayment', hshown⟩ := hrecorded.readable _ _ _ htold
    cases hrow'.symm.trans hrow
    cases hpayment'.symm.trans hpayment
    exact ⟨request, key, told, htold, rfl, hshown⟩
  onward := by
    rintro before between after id payment answer rfl
    obtain ⟨s₃, s₄, hearlier, ⟨-, rfl⟩, -⟩ := Lts.run_split h
    obtain ⟨s₁, s₂, hbefore, ⟨-, hanswer⟩, -⟩ := Lts.run_split hearlier
    -- What is committed when the second one looks is later than when the first one did.
    exact getPayment_later (extends_of_run hbefore hearlier) hanswer.symm
  answered := by
    rintro before after request key id now outcome told rfl hanswer
    obtain ⟨s₁, s₂, hbefore, hstep, -⟩ := Lts.run_split h
    -- The payment was read in the transaction, and may have moved before it ended.
    obtain ⟨outcome', htransact, hbecomes⟩ := transact_of_step hbefore hstep
    obtain rfl := answerOf_eq_ok.mp hanswer
    obtain ⟨stored, rfl, hlater⟩ := exists_later_of_becomes hbecomes
    rcases answered_of_transact (recorded_of_run hbefore) htransact (answerOf_eq_ok.mpr rfl) with
      ⟨rfl, hnew⟩ | ⟨k, request', told', hkey, hne, htold, hsame, hshown⟩
    · exact .inl ⟨hlater.eq_of_pending rfl, hnew⟩
    · exact .inr ⟨k, request', told', stored, hkey, hne, htold, hsame, hshown, hlater⟩
  conflicting := by
    rintro before after request key id now outcome answer rfl hanswer hstatus
    obtain ⟨s₁, s₂, hbefore, hstep, -⟩ := Lts.run_split h
    obtain ⟨outcome', htransact, hbecomes⟩ := transact_of_step hbefore hstep
    -- A conflict does not become anything else.
    obtain rfl := eq_of_conflict hanswer hstatus hbecomes
    exact conflicting_of_transact (recorded_of_run hbefore) htransact hanswer hstatus
  guarded := by
    intro authorization read snapshot hmem
    obtain ⟨before, after, rfl⟩ := List.append_of_mem hmem
    obtain ⟨s₁, s₂, -, ⟨-, hanswer⟩, -⟩ := Lts.run_split h
    obtain ⟨hread, expected, header, scheme, htoken, hne, -, hauthorization, htext, -, hbearer⟩ :=
      getOperationalSnapshot_eq_ok.mp hanswer.symm
    exact ⟨hread, expected, header, scheme, htoken, hne, hauthorization, htext, hbearer⟩

/-- Steps of the transactions are steps of the API. -/
theorem steps_of_interleaved {s s' : Sessions} {log : List (Option (Call × Ended))}
    (h : ((postgres hashtext).interleaved (Call.body sha256) (· = migrated)).Steps s log s') :
    (server hashtext sha256 token α).Steps s (log.map .session) s' := by
  induction h with
  | nil s => exact .nil s
  | cons head _ ih => exact .cons head ih

/-- The characters of the header below are Latin-1. -/
theorem latin1_bearer : ∀ c ∈ "Bearer secret".toList, c.toNat < 256 := by simp

/-- The header with which an operator asks. -/
def bearer : HeaderValue := ⟨"Bearer secret", latin1_bearer⟩

/-- The same request with a key twice, at once; then its payment and the snapshot are asked for. -/
theorem contract_together : ∃ log payment,
    (calls log).map Prod.snd = List.replicate 2 (.returned (some (.ok payment))) ∧
    payment.id = "pay_1" ∧
    Contract CreateCall.digests (some "secret")
      (log ++ [.got "pay_1" (.ok payment), .asked (some bearer) (.ok "healthy") (.ok "healthy")]) := by
  let moves : List (Engine.Move Call) :=
    [.begin 0 (.createPayment sampleOrder (some "key-1") "pay_1" 0),
     .begin 1 (.createPayment sampleOrder (some "key-1") "pay_2" 0),
     .statement 0, .statement 1, .statement 0, .commit 0,
     .statement 1, .statement 1, .statement 1, .statement 1, .commit 1]
  obtain ⟨⟨s, log⟩, hplay, hshown⟩ := Option.map_eq_some_iff.mp (show
    (Lts.play ((postgres fun _ => 0).advance (Call.body CreateCall.digests)) ⟨migrated, ∅⟩
        moves).map
      (fun result => (result.2.reduceOption.map Prod.snd,
        getPayment (ended ((postgres fun _ => 0).transact result.1.committed
          (PaymentRepository.get "pay_1")).1))) =
      some (List.replicate 2 (.returned (some (.ok ⟨"pay_1", 100, "MAD", "order-1", .pending, 0⟩))),
        .ok ⟨"pay_1", 100, "MAD", "order-1", .pending, 0⟩) from rfl)
  simp only [Prod.mk.injEq] at hshown
  obtain ⟨houtcomes, hgot⟩ := hshown
  have hrun : (server (fun _ => 0) CreateCall.digests (some "secret") String).Run
      (log.map .session) s :=
    ⟨⟨migrated, ∅⟩, ⟨rfl, rfl⟩, steps_of_interleaved (Lts.steps_of_play hplay)⟩
  have hlabels : labels (log.map .session : List (Event String)) = log := by
    unfold labels
    rw [List.filterMap_map]
    exact List.filterMap_some
  have hasked : getOperationalSnapshot (some "secret") (some bearer) (.ok "healthy") =
      .ok "healthy" := by rfl
  refine ⟨log.map .session, ⟨"pay_1", 100, "MAD", "order-1", .pending, 0⟩, ?_, rfl,
    contract_of_run (Lts.run_append_iff.mpr ⟨s, hrun, .cons ⟨rfl, hgot.symm⟩
      (.cons ⟨rfl, hasked.symm⟩ (.nil s))⟩)⟩
  unfold calls
  rw [hlabels]
  exact houtcomes

end Api

end AtlasPay
