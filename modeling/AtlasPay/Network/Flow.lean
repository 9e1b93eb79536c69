import AtlasPay.Network.CoordinatorRuns
import AtlasPay.Network.Routing
import AtlasPay.Network.Transport

/-!
# The authorization network flow

The model of `app/network_flow.py`, with the records that it writes through
`app/network_history.py` and the metric labels of `app/network_observability.py`. A method takes the
flow and returns what the call returns or raises, and the flow as the call leaves it, also when it
raises. The transport, the provider of reversal correlations and the history writer are outside of
the service: what they answer to a call, if it asks them, is an input. Spans and the latency
histogram are left out, since they measure real time.

The times of a flow are a linear order. Not-a-number, which a `float` can be, is left out of the
runs of flows; those of the coordinator alone are of any times.
-/

namespace AtlasPay

/-- `NetworkAttempt`. -/
structure NetworkAttempt (T : Type) where
  /-- The route of the request. -/
  route : IssuerRoute
  /-- The request on the wire. -/
  request : ISO8583Message
  /-- Its correlation. -/
  correlation : NetworkCorrelation
  /-- The time of `start`. -/
  startedAt : T
  /-- The time from which it counts as timed out. -/
  deadline : T
  /-- The timeout that the transport is given. -/
  timeoutSeconds : T

/-- `NetworkFlowResult`. -/
structure NetworkFlowResult where
  /-- The route of the attempt. -/
  route : IssuerRoute
  /-- The outcome that the adapter classified. -/
  transportOutcome : TransportOutcome
  /-- What the coordinator made of it. -/
  disposition : Option TransactionDisposition
  /-- Whether the request may have been delivered. -/
  deliveryUnknown : Bool
  /-- The planned reversal. -/
  reversal : Option ReversalLink := none
  /-- The text of a timeout or failure. -/
  error : Option String := none

/-- `NetworkObservation`, with the check of `__post_init__` as a field. -/
structure NetworkObservation (T : Type) [LE T] [Zero T] where
  /-- The route of the attempt. -/
  route : IssuerRoute
  /-- The outcome that the adapter classified. -/
  transportOutcome : TransportOutcome
  /-- What the coordinator made of it. -/
  disposition : Option TransactionDisposition
  /-- Whether the request may have been delivered. -/
  deliveryUnknown : Bool
  /-- The time since `start`, in milliseconds. -/
  latencyMs : T
  /-- Why a reversal was planned. -/
  reversalReason : Option ReversalReason := none
  /-- The latency must be non-negative. -/
  latencyMs_nonneg : 0 ≤ latencyMs

/-- The value of the enumeration's member. -/
def TransactionDisposition.value : TransactionDisposition → String
  | .accepted => "accepted"
  | .mismatched => "mismatched"
  | .timedOut => "timed_out"
  | .late => "late"
  | .duplicate => "duplicate"

/-- The labels of `atlaspay_network_outcomes_total`. -/
structure OutcomeLabels where
  route : String
  issuer : String
  transportOutcome : String
  disposition : String
  deliveryUnknown : String
  deriving DecidableEq, Repr

/-- `NetworkTelemetry`: the labels with which its counters were incremented. -/
structure NetworkTelemetry where
  /-- `_attempts`: route and issuer. -/
  attempts : List (String × String)
  /-- `_outcomes`. -/
  outcomes : List OutcomeLabels
  /-- `_reversals`: route, issuer and reason. -/
  reversals : List (String × String × String)

/-- `NetworkTelemetry.observe_exchange` around a call with this outcome. -/
def NetworkTelemetry.observeExchange (self : NetworkTelemetry) (route : IssuerRoute)
    (outcome : Py NetworkFlowResult) : NetworkTelemetry :=
  let transportOutcome := match outcome with
    | .ok result => result.transportOutcome
    | .error _ => .failure
  let disposition := match outcome with
    | .ok result => result.disposition
    | .error _ => none
  let deliveryUnknown := match outcome with
    | .ok result => result.deliveryUnknown
    | .error _ => false
  let reversal := match outcome with
    | .ok result => result.reversal
    | .error _ => none
  { attempts := self.attempts ++ [(route.name, route.issuerId)]
    outcomes := self.outcomes ++ [{
      route := route.name
      issuer := route.issuerId
      transportOutcome := transportOutcome.value
      disposition := match disposition with
        | some disposition => disposition.value
        | none => "none"
      deliveryUnknown := if deliveryUnknown then "true" else "false" }]
    reversals := match reversal with
      | some link => self.reversals ++ [(route.name, route.issuerId, link.reason.value)]
      | none => self.reversals }

/-- `NetworkTelemetry.record_late_response`. -/
def NetworkTelemetry.recordLateResponse (self : NetworkTelemetry) (route : IssuerRoute)
    (disposition : TransactionDisposition) : NetworkTelemetry :=
  { self with
    outcomes := self.outcomes ++ [{
      route := route.name
      issuer := route.issuerId
      transportOutcome := "async_response"
      disposition := disposition.value
      deliveryUnknown := "false" }] }

/-- What the collaborators of a flow answer during one call, if they are asked. -/
structure Answers where
  /-- The transport. -/
  transport : Py TransportExchange
  /-- The provider of reversal correlations. -/
  reversal : Py NetworkCorrelation
  /-- The history writer. -/
  history : Py Unit

/-- `AuthorizationNetworkFlow`. -/
structure AuthorizationNetworkFlow (T : Type) [LE T] [Zero T] where
  /-- `_router`. -/
  router : NetworkRouter
  /-- `_adapter`. -/
  adapter : ISO8583NetworkAdapter
  /-- `_coordinator`. -/
  coordinator : NetworkTransactionCoordinator T
  /-- `_reversals`. -/
  reversals : ReversalRegistry
  /-- What `_reversal_correlations` has returned. -/
  issued : List NetworkCorrelation
  /-- `_telemetry`. -/
  telemetry : Option NetworkTelemetry
  /-- `_history`: the observations that it has recorded. -/
  history : Option (List (NetworkObservation T))

namespace AuthorizationNetworkFlow

variable {T : Type} [LinearOrder T] [Zero T]

/-- `start`. -/
def start [Add T] (self : AuthorizationNetworkFlow T) (canonical : AuthorizationRequest)
    (request : ISO8583Message) (now timeoutSeconds : T) :
    Py (NetworkAttempt T) × AuthorizationNetworkFlow T :=
  match correlationKey request with
  | .error e => (throw e, self)
  | .ok wireCorrelation =>
    if wireCorrelation ≠ canonical.correlation then
      (throw (.valueError "canonical and ISO 8583 correlation must match"), self)
    else
      match self.router.route canonical with
      | .error e => (throw e, self)
      | .ok route =>
        match self.coordinator.register request now timeoutSeconds with
        | (.error e, coordinator) => (throw e, { self with coordinator })
        | (.ok correlation, coordinator) =>
          (pure {
            route, request, correlation, timeoutSeconds
            startedAt := now
            deadline := now + timeoutSeconds }, { self with coordinator })

/-- `_exchange`, after a local failure. -/
def settleFailure (self : AuthorizationNetworkFlow T) (attempt : NetworkAttempt T)
    (result : ISO8583ExchangeResult) : Py NetworkFlowResult × AuthorizationNetworkFlow T :=
  match self.coordinator.cancel attempt.request with
  | (.error e, coordinator) => (throw e, { self with coordinator })
  | (.ok false, coordinator) =>
    (throw (.valueError "local transport failure occurred after attempt left pending state"),
      { self with coordinator })
  | (.ok true, coordinator) =>
    (pure {
      route := attempt.route
      transportOutcome := .failure
      disposition := none
      deliveryUnknown := false
      error := result.error }, { self with coordinator })

/-- `_exchange`, after a timeout. -/
def settleTimeout (self : AuthorizationNetworkFlow T) (attempt : NetworkAttempt T)
    (completedAt : T) (reversal : Py NetworkCorrelation) (result : ISO8583ExchangeResult) :
    Py NetworkFlowResult × AuthorizationNetworkFlow T :=
  if completedAt < attempt.deadline then
    (throw (.valueError "transport timeout cannot complete before the registered deadline"), self)
  else
    match self.coordinator.expire completedAt with
    | (.error e, coordinator) => (throw e, { self with coordinator })
    | (.ok expired, coordinator) =>
      if attempt.correlation ∉ expired then
        (throw (.valueError "timed-out attempt was not pending at its registered deadline"),
          { self with coordinator })
      else
        match reversal with
        | .error e => (throw e, { self with coordinator })
        | .ok reversalCorrelation =>
          let issued := self.issued ++ [reversalCorrelation]
          match self.reversals.link attempt.correlation reversalCorrelation .timeout with
          | (.error e, reversals) => (throw e, { self with coordinator, issued, reversals })
          | (.ok link, reversals) =>
            (pure {
              route := attempt.route
              transportOutcome := .timeout
              disposition := some .timedOut
              deliveryUnknown := true
              reversal := some link
              error := result.error }, { self with coordinator, issued, reversals })

/-- `_exchange`, after a response. -/
def settleResponse (self : AuthorizationNetworkFlow T) (attempt : NetworkAttempt T)
    (completedAt : T) (response : ISO8583Message) :
    Py NetworkFlowResult × AuthorizationNetworkFlow T :=
  match
    if attempt.deadline ≤ completedAt then self.coordinator.expire completedAt
    else (pure [], self.coordinator) with
  | (.error e, coordinator) => (throw e, { self with coordinator })
  | (.ok _, coordinator) =>
    match coordinator.handleResponse attempt.request response completedAt with
    | (.error e, coordinator) => (throw e, { self with coordinator })
    | (.ok disposition, coordinator) =>
      (pure {
        route := attempt.route
        transportOutcome := .response
        disposition := some disposition
        deliveryUnknown := false }, { self with coordinator })

/-- `_exchange`. -/
def settle (self : AuthorizationNetworkFlow T) (attempt : NetworkAttempt T) (completedAt : T)
    (answers : Answers) : Py NetworkFlowResult × AuthorizationNetworkFlow T :=
  match self.adapter.exchange answers.transport attempt.request attempt.timeoutSeconds with
  | (.error e, adapter) => (throw e, { self with adapter })
  | (.ok result, adapter) =>
    match result.outcome, result.response with
    | .failure, _ => { self with adapter }.settleFailure attempt result
    | .timeout, _ => { self with adapter }.settleTimeout attempt completedAt answers.reversal result
    | .response, none => (throw .assertionError, { self with adapter })
    | .response, some response =>
      { self with adapter }.settleResponse attempt completedAt response

/-- `_record`. -/
def record [Sub T] [Mul T] [NatCast T] (self : AuthorizationNetworkFlow T)
    (attempt : NetworkAttempt T) (transportOutcome : TransportOutcome)
    (disposition : Option TransactionDisposition) (deliveryUnknown : Bool) (completedAt : T)
    (reversalReason : Option ReversalReason) (written : Py Unit) :
    Py Unit × AuthorizationNetworkFlow T :=
  match self.history with
  | none => (pure (), self)
  | some observations =>
    match written with
    | .error e => (throw e, self)
    | .ok () =>
      (pure (), { self with history := some (observations ++ [{
        route := attempt.route
        transportOutcome, disposition, deliveryUnknown, reversalReason
        latencyMs := max ((completedAt - attempt.startedAt) * ((1000 : ℕ) : T)) 0
        latencyMs_nonneg := le_max_right _ _ }]) })

/-- `exchange`. -/
def exchange [Sub T] [Mul T] [NatCast T] (self : AuthorizationNetworkFlow T)
    (attempt : NetworkAttempt T) (completedAt : T) (answers : Answers) :
    Py NetworkFlowResult × AuthorizationNetworkFlow T :=
  match self.settle attempt completedAt answers with
  | (outcome, settled) =>
    let observed := { settled with
      telemetry := settled.telemetry.map fun telemetry =>
        telemetry.observeExchange attempt.route outcome }
    match outcome with
    | .error e => (throw e, observed)
    | .ok result =>
      match observed.record attempt result.transportOutcome result.disposition
        result.deliveryUnknown completedAt (result.reversal.map ReversalLink.reason)
        answers.history with
      | (.error e, recorded) => (throw e, recorded)
      | (.ok (), recorded) => (pure result, recorded)

/-- `handle_late_response`. -/
def handleLateResponse [Sub T] [Mul T] [NatCast T] (self : AuthorizationNetworkFlow T)
    (attempt : NetworkAttempt T) (response : ISO8583Message) (now : T) (answers : Answers) :
    Py TransactionDisposition × AuthorizationNetworkFlow T :=
  match self.coordinator.handleResponse attempt.request response now with
  | (.error e, coordinator) => (throw e, { self with coordinator })
  | (.ok disposition, coordinator) =>
    let observed := { self with
      coordinator
      telemetry := self.telemetry.map fun telemetry =>
        NetworkTelemetry.recordLateResponse telemetry attempt.route disposition }
    match observed.record attempt .response (some disposition) false now none answers.history with
    | (.error e, recorded) => (throw e, recorded)
    | (.ok (), recorded) => (pure disposition, recorded)

/-! ## What an exchange does -/

/-- What `_exchange` may do, by what the adapter returns and by how far the call then gets. -/
inductive Settles (self : AuthorizationNetworkFlow T) (attempt : NetworkAttempt T)
    (completedAt : T) (answers : Answers) :
    Py NetworkFlowResult × AuthorizationNetworkFlow T → Prop where
  | raised {e : PyError} {adapter : ISO8583NetworkAdapter}
      (hadapter : self.adapter.exchange answers.transport attempt.request attempt.timeoutSeconds =
        (.error e, adapter)) :
      Settles self attempt completedAt answers (.error e, { self with adapter })
  | failed {result : ISO8583ExchangeResult} {adapter : ISO8583NetworkAdapter}
      (hadapter : self.adapter.exchange answers.transport attempt.request attempt.timeoutSeconds =
        (.ok result, adapter)) (hresult : result.outcome = .failure)
      {cancelled : Py Bool} {coordinator : NetworkTransactionCoordinator T}
      (hcancel : self.coordinator.cancel attempt.request = (cancelled, coordinator))
      {outcome : Py NetworkFlowResult}
      (houtcome : ∀ flowResult, outcome = .ok flowResult → cancelled = .ok true ∧ flowResult = {
          route := attempt.route
          transportOutcome := .failure
          disposition := none
          deliveryUnknown := false
          error := result.error }) :
      Settles self attempt completedAt answers (outcome, { self with adapter, coordinator })
  | early {result : ISO8583ExchangeResult} {adapter : ISO8583NetworkAdapter}
      (hadapter : self.adapter.exchange answers.transport attempt.request attempt.timeoutSeconds =
        (.ok result, adapter)) (hresult : result.outcome = .timeout)
      (hdeadline : completedAt < attempt.deadline) (e : PyError) :
      Settles self attempt completedAt answers (.error e, { self with adapter })
  | unswept {result : ISO8583ExchangeResult} {adapter : ISO8583NetworkAdapter}
      (hadapter : self.adapter.exchange answers.transport attempt.request attempt.timeoutSeconds =
        (.ok result, adapter)) (hresult : result.outcome = .timeout)
      (hdeadline : attempt.deadline ≤ completedAt)
      {expired : Py (List NetworkCorrelation)} {coordinator : NetworkTransactionCoordinator T}
      (hexpire : self.coordinator.expire completedAt = (expired, coordinator))
      (hexpired : ∀ keys, expired = .ok keys → attempt.correlation ∉ keys) (e : PyError) :
      Settles self attempt completedAt answers (.error e, { self with adapter, coordinator })
  | unplanned {result : ISO8583ExchangeResult} {adapter : ISO8583NetworkAdapter}
      (hadapter : self.adapter.exchange answers.transport attempt.request attempt.timeoutSeconds =
        (.ok result, adapter)) (hresult : result.outcome = .timeout)
      (hdeadline : attempt.deadline ≤ completedAt)
      {expired : List NetworkCorrelation} {coordinator : NetworkTransactionCoordinator T}
      (hexpire : self.coordinator.expire completedAt = (.ok expired, coordinator))
      (hexpired : attempt.correlation ∈ expired) {e : PyError}
      (hreversal : answers.reversal = .error e) :
      Settles self attempt completedAt answers (.error e, { self with adapter, coordinator })
  | planned {result : ISO8583ExchangeResult} {adapter : ISO8583NetworkAdapter}
      (hadapter : self.adapter.exchange answers.transport attempt.request attempt.timeoutSeconds =
        (.ok result, adapter)) (hresult : result.outcome = .timeout)
      (hdeadline : attempt.deadline ≤ completedAt)
      {expired : List NetworkCorrelation} {coordinator : NetworkTransactionCoordinator T}
      (hexpire : self.coordinator.expire completedAt = (.ok expired, coordinator))
      (hexpired : attempt.correlation ∈ expired) {reversal : NetworkCorrelation}
      (hreversal : answers.reversal = .ok reversal)
      {linked : Py ReversalLink} {reversals : ReversalRegistry}
      (hlink : self.reversals.link attempt.correlation reversal .timeout = (linked, reversals))
      {outcome : Py NetworkFlowResult}
      (houtcome : outcome = linked.map fun link => {
          route := attempt.route
          transportOutcome := .timeout
          disposition := some .timedOut
          deliveryUnknown := true
          reversal := some link
          error := result.error }) :
      Settles self attempt completedAt answers (outcome,
        { self with adapter, coordinator, reversals, issued := self.issued ++ [reversal] })
  | unhandled {result : ISO8583ExchangeResult} {adapter : ISO8583NetworkAdapter}
      (hadapter : self.adapter.exchange answers.transport attempt.request attempt.timeoutSeconds =
        (.ok result, adapter)) (hresult : result.outcome = .response)
      {e : PyError} {coordinator : NetworkTransactionCoordinator T}
      (hexpire : self.coordinator.expire completedAt = (.error e, coordinator)) :
      Settles self attempt completedAt answers (.error e, { self with adapter, coordinator })
  | handled {result : ISO8583ExchangeResult} {adapter : ISO8583NetworkAdapter}
      (hadapter : self.adapter.exchange answers.transport attempt.request attempt.timeoutSeconds =
        (.ok result, adapter)) (hresult : result.outcome = .response)
      {response : ISO8583Message} (hresponse : result.response = some response)
      {swept coordinator : NetworkTransactionCoordinator T}
      (hswept : swept = self.coordinator ∨
        ∃ expired, self.coordinator.expire completedAt = (.ok expired, swept))
      {handled : Py TransactionDisposition}
      (hhandle : swept.handleResponse attempt.request response completedAt =
        (handled, coordinator))
      {outcome : Py NetworkFlowResult}
      (houtcome : outcome = handled.map fun disposition => {
          route := attempt.route
          transportOutcome := .response
          disposition := some disposition
          deliveryUnknown := false }) :
      Settles self attempt completedAt answers (outcome, { self with adapter, coordinator })

/-- `_exchange` does what `Settles` says. -/
theorem settle_spec {self self' : AuthorizationNetworkFlow T} {attempt : NetworkAttempt T}
    {completedAt : T} {answers : Answers} {outcome : Py NetworkFlowResult}
    (h : self.settle attempt completedAt answers = (outcome, self')) :
    self.Settles attempt completedAt answers (outcome, self') := by
  rw [← h]
  unfold settle
  split
  · next e adapter hadapter => exact .raised hadapter
  · next result adapter hadapter =>
    split
    · next hfailure =>
      -- Only a cancellation that found the attempt pending returns a result.
      unfold settleFailure
      split
      · next e coordinator hcancel =>
        exact .failed hadapter hfailure hcancel fun _ hok => absurd hok throw_ne_ok
      · next coordinator hcancel =>
        exact .failed hadapter hfailure hcancel fun _ hok => absurd hok throw_ne_ok
      · next coordinator hcancel =>
        refine .failed hadapter hfailure hcancel ?_
        rintro _ ⟨⟩
        exact ⟨rfl, rfl⟩
    · next htimeout =>
      unfold settleTimeout
      split
      · next hearly => exact .early hadapter htimeout hearly _
      · next hdue =>
        split
        · next e coordinator hexpire =>
          exact .unswept hadapter htimeout (not_lt.mp hdue) hexpire nofun e
        · next expired coordinator hexpire =>
          split
          · next hnot =>
            refine .unswept hadapter htimeout (not_lt.mp hdue) hexpire ?_ _
            rintro _ ⟨⟩
            exact hnot
          · next hmem =>
            rw [not_not] at hmem
            split
            · next e hreversal =>
              exact .unplanned hadapter htimeout (not_lt.mp hdue) hexpire hmem hreversal
            · next reversal hreversal =>
              split
              · next e reversals hlink =>
                exact .planned hadapter htimeout (not_lt.mp hdue) hexpire hmem hreversal hlink rfl
              · next link reversals hlink =>
                exact .planned hadapter htimeout (not_lt.mp hdue) hexpire hmem hreversal hlink rfl
    · next hresponse hnone =>
      -- The assertion of the source: the adapter leaves no response outcome without a response.
      exact absurd hnone (ISO8583NetworkAdapter.response_ne_none hadapter hresponse)
    · next response hresponse hsome =>
      unfold settleResponse
      split
      · next e coordinator hexpire =>
        split at hexpire
        · exact .unhandled hadapter hresponse hexpire
        · cases hexpire
      · next expired swept hexpire =>
        have hswept : swept = self.coordinator ∨
            ∃ expired, self.coordinator.expire completedAt = (.ok expired, swept) := by
          split at hexpire
          · exact Or.inr ⟨_, hexpire⟩
          · exact Or.inl (Prod.mk.inj hexpire).2.symm
        split
        · next e coordinator hhandle =>
          exact .handled hadapter hresponse hsome hswept hhandle rfl
        · next disposition coordinator hhandle =>
          exact .handled hadapter hresponse hsome hswept hhandle rfl

end AuthorizationNetworkFlow

end AtlasPay
