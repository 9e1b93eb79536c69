import AtlasPay.Codec.Iso8583

/-!
# The transport boundary

The model of `app/network_transport.py`. A transport is outside of the service: what it answers to a
call is an input, and the adapter keeps the payloads that it has handed to it. The adapter encodes a
request, hands it over, and classifies the answer.
-/

namespace AtlasPay

/-- `TransportOutcome`. -/
inductive TransportOutcome where
  | response
  | timeout
  | failure
  deriving DecidableEq, Repr

/-- The value of the enumeration's member. -/
def TransportOutcome.value : TransportOutcome → String
  | .response => "response"
  | .timeout => "timeout"
  | .failure => "failure"

/-- `TransportExchange`, with the checks of `__post_init__` as fields. -/
structure TransportExchange where
  /-- What the transport reports. -/
  outcome : TransportOutcome
  /-- The bytes of a response. -/
  responsePayload : Option Bytes := none
  /-- The text of a timeout or failure. -/
  error : Option String := none
  /-- Whether the request may have been delivered. -/
  deliveryUnknown : Bool := false
  /-- A response has a payload and no failure metadata. -/
  response_valid : outcome = .response →
    responsePayload ≠ none ∧ error = none ∧ deliveryUnknown = false := by decide
  /-- A timeout has no payload and keeps delivery ambiguous. -/
  timeout_valid : outcome = .timeout →
    responsePayload = none ∧ deliveryUnknown = true := by decide
  /-- A failure has no payload and does not claim ambiguous delivery. -/
  failure_valid : outcome = .failure →
    responsePayload = none ∧ deliveryUnknown = false := by decide

/-- The constructor of `TransportExchange`. -/
def TransportExchange.new (outcome : TransportOutcome) (responsePayload : Option Bytes)
    (error : Option String) (deliveryUnknown : Bool) : Py TransportExchange :=
  match outcome with
  | .response =>
    if hpayload : responsePayload ≠ none then
      if hmetadata : error = none ∧ deliveryUnknown = false then
        pure ⟨.response, responsePayload, error, deliveryUnknown, fun _ => ⟨hpayload, hmetadata⟩,
          nofun, nofun⟩
      else throw (.valueError "response outcome cannot carry failure metadata")
    else throw (.valueError "response outcome requires response_payload")
  | .timeout =>
    if hpayload : responsePayload = none then
      if hunknown : deliveryUnknown = true then
        pure ⟨.timeout, responsePayload, error, deliveryUnknown, nofun,
          fun _ => ⟨hpayload, hunknown⟩, nofun⟩
      else throw (.valueError "timeout must preserve ambiguous external delivery")
    else throw (.valueError "timeout outcome cannot carry response_payload")
  | .failure =>
    if hpayload : responsePayload = none then
      if hunknown : deliveryUnknown = false then
        pure ⟨.failure, responsePayload, error, deliveryUnknown, nofun, nofun,
          fun _ => ⟨hpayload, hunknown⟩⟩
      else throw (.valueError "local transport failure must not claim ambiguous delivery")
    else throw (.valueError "failure outcome cannot carry response_payload")

/-- `ISO8583ExchangeResult`. -/
structure ISO8583ExchangeResult where
  /-- The classified outcome. -/
  outcome : TransportOutcome
  /-- The decoded response. -/
  response : Option ISO8583Message := none
  /-- The text of a timeout or failure. -/
  error : Option String := none
  /-- Whether the request may have been delivered. -/
  deliveryUnknown : Bool := false

/-- `ISO8583NetworkAdapter`: its codec, and the payloads that its transport has been handed. -/
structure ISO8583NetworkAdapter where
  /-- `_codec`. -/
  codec : ISO8583Codec
  /-- What `_transport` was handed, in the order of the calls. -/
  sent : List Bytes

/-- The part of `ISO8583NetworkAdapter.exchange` after the call of the transport. -/
def ISO8583Codec.classify (codec : ISO8583Codec) (exchange : TransportExchange) :
    Py ISO8583ExchangeResult :=
  match exchange.outcome with
  | .timeout =>
    pure { outcome := .timeout, error := exchange.error, deliveryUnknown := true }
  | .failure => pure { outcome := .failure, error := exchange.error }
  | .response =>
    match exchange.responsePayload with
    | none => throw .assertionError
    | some payload =>
      match codec.decode payload with
      | .ok response => pure { outcome := .response, response := some response }
      | .error (.iso8583CodecError message) =>
        pure { outcome := .failure, error := some s!"invalid ISO 8583 response: {message}" }
      | .error e => throw e

/-- `ISO8583NetworkAdapter.exchange`, when the transport gives `answer` if it is called. -/
def ISO8583NetworkAdapter.exchange {T : Type} [LinearOrder T] [Zero T]
    (self : ISO8583NetworkAdapter) (answer : Py TransportExchange) (request : ISO8583Message)
    (timeoutSeconds : T) : Py ISO8583ExchangeResult × ISO8583NetworkAdapter :=
  if timeoutSeconds ≤ 0 then
    (throw (.valueError "timeout_seconds must be greater than zero"), self)
  else
    match self.codec.encode request with
    | .error e => (throw e, self)
    | .ok payload =>
      (answer >>= self.codec.classify, { self with sent := self.sent ++ [payload] })

/-! ## What the adapter does -/

/-- The transport answered with bytes that the codec rejects. -/
def ISO8583Codec.Rejects (codec : ISO8583Codec) (exchange : TransportExchange) : Prop :=
  exchange.outcome = .response ∧ ∃ payload message, exchange.responsePayload = some payload ∧
    codec.decode payload = .error (.iso8583CodecError message)

/-- What the adapter may make of an answer of the transport. -/
inductive ISO8583Codec.Classifies (codec : ISO8583Codec) (exchange : TransportExchange) :
    Py ISO8583ExchangeResult → Prop where
  | timeout (h : exchange.outcome = .timeout) :
      Classifies codec exchange
        (.ok { outcome := .timeout, error := exchange.error, deliveryUnknown := true })
  | failure (h : exchange.outcome = .failure) :
      Classifies codec exchange (.ok { outcome := .failure, error := exchange.error })
  | rejected (h : codec.Rejects exchange) (error : String) :
      Classifies codec exchange (.ok { outcome := .failure, error := some error })
  | response (h : exchange.outcome = .response) {response : ISO8583Message}
      (hnot : ¬codec.Rejects exchange) :
      Classifies codec exchange (.ok { outcome := .response, response := some response })
  | raised (h : exchange.outcome = .response) (hnot : ¬codec.Rejects exchange) (e : PyError) :
      Classifies codec exchange (.error e)

/-- The classification is one of these. -/
theorem ISO8583Codec.classify_spec (codec : ISO8583Codec) (exchange : TransportExchange) :
    codec.Classifies exchange (codec.classify exchange) := by
  unfold classify
  split
  · next h => exact .timeout h
  · next h => exact .failure h
  · next h =>
    split
    · next hnone => exact absurd hnone (exchange.response_valid h).1
    · next payload hpayload =>
      have hrejects : ∀ {e}, codec.decode payload = e →
          (∀ message, e ≠ .error (.iso8583CodecError message)) → ¬codec.Rejects exchange := by
        rintro e he hne ⟨-, payload', message, hpayload', hdecode⟩
        rw [hpayload, Option.some.injEq] at hpayload'
        rw [← hpayload', he] at hdecode
        exact hne message hdecode
      split
      · next response hdecode => exact .response h (hrejects hdecode nofun)
      · next message hdecode => exact .rejected ⟨h, payload, message, hpayload, hdecode⟩ _
      · next e hne hdecode =>
        refine .raised h (hrejects hdecode fun message heq => ?_) e
        exact hne message (Except.error.inj heq)

/-- What `exchange` may do: nothing, when the timeout is invalid or the request does not encode, or
else hand the payload to the transport and classify the answer. -/
inductive ISO8583NetworkAdapter.Exchanges {T : Type} [LinearOrder T] [Zero T]
    (self : ISO8583NetworkAdapter) (answer : Py TransportExchange) (request : ISO8583Message)
    (timeoutSeconds : T) : Py ISO8583ExchangeResult × ISO8583NetworkAdapter → Prop where
  | invalid (h : timeoutSeconds ≤ 0) (e : PyError) :
      Exchanges self answer request timeoutSeconds (.error e, self)
  | unencodable {e : PyError} (h : self.codec.encode request = .error e) :
      Exchanges self answer request timeoutSeconds (.error e, self)
  | unanswered {payload : Bytes} (h : self.codec.encode request = .ok payload) {e : PyError}
      (hanswer : answer = .error e) :
      Exchanges self answer request timeoutSeconds
        (.error e, { self with sent := self.sent ++ [payload] })
  | answered {payload : Bytes} (h : self.codec.encode request = .ok payload)
      {exchange : TransportExchange} (hanswer : answer = .ok exchange)
      {outcome : Py ISO8583ExchangeResult} (houtcome : self.codec.Classifies exchange outcome) :
      Exchanges self answer request timeoutSeconds
        (outcome, { self with sent := self.sent ++ [payload] })

/-- `exchange` does what `Exchanges` says. -/
theorem ISO8583NetworkAdapter.exchange_spec {T : Type} [LinearOrder T] [Zero T]
    {self self' : ISO8583NetworkAdapter} {answer : Py TransportExchange}
    {request : ISO8583Message} {timeoutSeconds : T} {outcome : Py ISO8583ExchangeResult}
    (h : self.exchange answer request timeoutSeconds = (outcome, self')) :
    self.Exchanges answer request timeoutSeconds (outcome, self') := by
  rw [← h]
  unfold exchange
  split
  · next hle => exact .invalid hle _
  · split
    · next e he => exact .unencodable he
    · next payload hpayload =>
      cases hanswer : answer with
      | error e => exact .unanswered hpayload rfl
      | ok exchange => exact .answered hpayload rfl (self.codec.classify_spec exchange)

/-- A result that is a response has the decoded response. -/
theorem ISO8583NetworkAdapter.response_ne_none {T : Type} [LinearOrder T] [Zero T]
    {self self' : ISO8583NetworkAdapter} {answer : Py TransportExchange}
    {request : ISO8583Message} {timeoutSeconds : T} {result : ISO8583ExchangeResult}
    (h : self.exchange answer request timeoutSeconds = (.ok result, self'))
    (hresponse : result.outcome = .response) : result.response ≠ none := by
  cases exchange_spec h with
  | answered _ _ houtcome =>
    cases houtcome with
    | timeout _ | failure _ | rejected _ _ => cases hresponse
    | response _ _ => nofun

/-- A request that encodes is handed to the transport. -/
theorem ISO8583NetworkAdapter.exchange_of_encode {T : Type} [LinearOrder T] [Zero T]
    {self : ISO8583NetworkAdapter} {request : ISO8583Message} {timeoutSeconds : T}
    (answer : Py TransportExchange) {payload : Bytes} (htimeout : 0 < timeoutSeconds)
    (hencode : self.codec.encode request = .ok payload) :
    self.exchange answer request timeoutSeconds =
      (answer >>= self.codec.classify, { self with sent := self.sent ++ [payload] }) := by
  unfold exchange
  rw [if_neg (not_le.mpr htimeout), hencode]

/-- A timeout of the transport is classified as one. -/
theorem ISO8583Codec.classify_of_timeout {codec : ISO8583Codec} {exchange : TransportExchange}
    (h : exchange.outcome = .timeout) :
    codec.classify exchange =
      .ok { outcome := .timeout, error := exchange.error, deliveryUnknown := true } := by
  unfold classify
  rw [h]
  rfl

/-- An answer is classified as a failure when it is one, or when it is bytes that the codec
rejects. -/
theorem ISO8583Codec.classify_failure_iff (codec : ISO8583Codec) (exchange : TransportExchange) :
    (∃ result, codec.classify exchange = .ok result ∧ result.outcome = .failure) ↔
      exchange.outcome = .failure ∨ codec.Rejects exchange := by
  generalize hclassified : codec.classify exchange = classified
  have hspec := codec.classify_spec exchange
  rw [hclassified] at hspec
  cases hspec with
  | timeout h =>
    refine ⟨?_, ?_⟩
    · rintro ⟨_, ⟨⟩, hresult⟩
      cases hresult
    · rintro (hfailure | hrejects)
      · rw [h] at hfailure
        cases hfailure
      · have hresponse := hrejects.1
        rw [h] at hresponse
        cases hresponse
  | failure h => exact ⟨fun _ => Or.inl h, fun _ => ⟨_, rfl, rfl⟩⟩
  | rejected h error => exact ⟨fun _ => Or.inr h, fun _ => ⟨_, rfl, rfl⟩⟩
  | response h hnot =>
    refine ⟨?_, ?_⟩
    · rintro ⟨_, ⟨⟩, hresult⟩
      cases hresult
    · rintro (hfailure | hrejects)
      · rw [h] at hfailure
        cases hfailure
      · -- The codec has decoded these bytes.
        exact absurd hrejects hnot
  | raised h hnot e =>
    refine ⟨?_, ?_⟩
    · rintro ⟨_, ⟨⟩, -⟩
    · rintro (hfailure | hrejects)
      · rw [h] at hfailure
        cases hfailure
      · exact absurd hrejects hnot

end AtlasPay
