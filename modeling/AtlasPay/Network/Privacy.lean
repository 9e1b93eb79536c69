import AtlasPay.Network.FlowRuns
import AtlasPay.Network.Renaming

/-!
# What history and telemetry reveal

Two runs that make the same calls, on messages that differ in their correlations, up to a renaming,
and in any other data elements, are recorded alike: what reaches the history and the labels are
routes, times, outcomes of the transport, dispositions and reasons, and none of these depends on a
correlation but through comparisons (`records_alike`).
-/

namespace AtlasPay

variable (ρ : NetworkCorrelation ↪ NetworkCorrelation)

/-- The second answer of the transport has the outcome of the first, and a payload that decodes when
the first one's does, to the renamed response. -/
structure TransportExchange.Renames (codec : ISO8583Codec) (exchange renamed : TransportExchange) :
    Prop where
  outcome : renamed.outcome = exchange.outcome
  response : ∀ payload payload', exchange.responsePayload = some payload →
    renamed.responsePayload = some payload' →
      Alike (ISO8583Message.Renames ρ) (codec.decode payload) (codec.decode payload')

/-- The second answers are renamed: those of the transport, and the correlation of the reversal. The
history writer raises with both or with none. -/
structure Answers.Renames (codec : ISO8583Codec) (answers renamed : Answers) : Prop where
  transport : Alike (TransportExchange.Renames ρ codec) answers.transport renamed.transport
  reversal : Alike (fun reversal reversal' => reversal' = ρ reversal) answers.reversal
    renamed.reversal
  history : Alike Eq answers.history renamed.history

/-- The second attempt has the request of the first, renamed, and the same route and times. -/
structure NetworkAttempt.Renames {T : Type} (codec : ISO8583Codec)
    (attempt renamed : NetworkAttempt T) : Prop where
  route : renamed.route = attempt.route
  request : attempt.request.Renames ρ renamed.request
  encodes : Alike (fun _ _ => True) (codec.encode attempt.request) (codec.encode renamed.request)
  correlation : renamed.correlation = ρ attempt.correlation
  startedAt : renamed.startedAt = attempt.startedAt
  deadline : renamed.deadline = attempt.deadline
  timeoutSeconds : renamed.timeoutSeconds = attempt.timeoutSeconds

/-- The second result has in it what is recorded of the first. -/
structure NetworkFlowResult.SameRecord (result result' : NetworkFlowResult) : Prop where
  transportOutcome : result'.transportOutcome = result.transportOutcome
  disposition : result'.disposition = result.disposition
  deliveryUnknown : result'.deliveryUnknown = result.deliveryUnknown
  reason : result'.reversal.map ReversalLink.reason = result.reversal.map ReversalLink.reason

variable {T : Type} [LinearOrder T] [Zero T]

/-- The second flow has the renamed correlations, and the records of the first. -/
structure AuthorizationNetworkFlow.Renames (router : NetworkRouter) (codec : ISO8583Codec)
    (flow renamed : AuthorizationNetworkFlow T) : Prop where
  router : flow.router = router ∧ renamed.router = router
  codec : flow.adapter.codec = codec ∧ renamed.adapter.codec = codec
  coordinator : flow.coordinator.Renames ρ renamed.coordinator
  reversals : flow.reversals.Renames ρ renamed.reversals
  telemetry : renamed.telemetry = flow.telemetry
  history : renamed.history = flow.history

variable {ρ} {router : NetworkRouter} {codec : ISO8583Codec}

/-! ## The adapter -/

/-- The adapter classifies renamed answers alike. -/
theorem ISO8583Codec.classify_renames {exchange exchange' : TransportExchange}
    (h : exchange.Renames ρ codec exchange') :
    Alike (fun result result' => result'.outcome = result.outcome ∧
        Option.Rel (ISO8583Message.Renames ρ) result.response result'.response)
      (codec.classify exchange) (codec.classify exchange') := by
  unfold classify
  rw [h.outcome]
  cases houtcome : exchange.outcome with
  | timeout => exact .ok ⟨rfl, .none⟩
  | failure => exact .ok ⟨rfl, .none⟩
  | response =>
    obtain ⟨payload, hpayload⟩ := Option.ne_none_iff_exists'.mp
      (exchange.response_valid houtcome).1
    obtain ⟨payload', hpayload'⟩ := Option.ne_none_iff_exists'.mp
      (exchange'.response_valid (h.outcome.trans houtcome)).1
    have hdecode := h.response payload payload' hpayload hpayload'
    have hraises := codec.raises_decode payload
    have hraises' := codec.raises_decode payload'
    simp only [hpayload, hpayload']
    generalize codec.decode payload = x, codec.decode payload' = x' at hdecode hraises hraises'
    cases hdecode with
    | ok hresponse => exact .ok ⟨rfl, .some hresponse⟩
    | error e e' =>
      -- Both are codec errors, and so both are failures.
      obtain ⟨message, rfl⟩ := hraises e rfl
      obtain ⟨message', rfl⟩ := hraises' e' rfl
      exact .ok ⟨rfl, .none⟩

/-- `exchange` of the adapter returns alike. -/
theorem ISO8583NetworkAdapter.exchange_renames {self self' : ISO8583NetworkAdapter}
    (hcodec : self.codec = codec ∧ self'.codec = codec) {answer answer' : Py TransportExchange}
    (hanswer : Alike (TransportExchange.Renames ρ codec) answer answer')
    {request request' : ISO8583Message}
    (hencodes : Alike (fun _ _ => True) (codec.encode request) (codec.encode request'))
    (timeoutSeconds : T) :
    Alike (fun result result' => result'.outcome = result.outcome ∧
        Option.Rel (ISO8583Message.Renames ρ) result.response result'.response)
      (self.exchange answer request timeoutSeconds).1
      (self'.exchange answer' request' timeoutSeconds).1 ∧
    (self.exchange answer request timeoutSeconds).2.codec = codec ∧
    (self'.exchange answer' request' timeoutSeconds).2.codec = codec := by
  unfold exchange
  rw [hcodec.1, hcodec.2]
  by_cases htimeout : timeoutSeconds ≤ 0
  · simp only [if_pos htimeout]
    exact ⟨.error _ _, hcodec⟩
  simp only [if_neg htimeout]
  generalize codec.encode request = x, codec.encode request' = x' at hencodes
  cases hencodes with
  | error e e' => exact ⟨.error e e', hcodec⟩
  | ok _ =>
    refine ⟨?_, rfl, rfl⟩
    cases hanswer with
    | error e e' => exact .error e e'
    | ok hexchange => exact codec.classify_renames hexchange

namespace AuthorizationNetworkFlow

/-! ## The flow -/

section Updates

variable {self self' : AuthorizationNetworkFlow T} (h : self.Renames ρ router codec self')

include h

/-- The relation is kept by a change of the coordinators. -/
theorem Renames.with_coordinator {coordinator coordinator' : NetworkTransactionCoordinator T}
    (hcoordinator : coordinator.Renames ρ coordinator') :
    Renames ρ router codec { self with coordinator } { self' with coordinator := coordinator' } :=
  ⟨h.router, h.codec, hcoordinator, h.reversals, h.telemetry, h.history⟩

/-- The relation is kept by what the adapters send. -/
theorem Renames.with_adapter {adapter adapter' : ISO8583NetworkAdapter}
    (hadapter : adapter.codec = codec ∧ adapter'.codec = codec) :
    Renames ρ router codec { self with adapter } { self' with adapter := adapter' } :=
  ⟨h.router, hadapter, h.coordinator, h.reversals, h.telemetry, h.history⟩

/-- The relation is kept by a change of the registries. -/
theorem Renames.with_reversals {reversals reversals' : ReversalRegistry}
    (hreversals : reversals.Renames ρ reversals') (issued issued' : List NetworkCorrelation) :
    Renames ρ router codec { self with reversals, issued }
      { self' with reversals := reversals', issued := issued' } :=
  ⟨h.router, h.codec, h.coordinator, hreversals, h.telemetry, h.history⟩

/-- The relation is kept by a change of the telemetry that is the same for both. -/
theorem Renames.with_telemetry (telemetry : Option NetworkTelemetry) :
    Renames ρ router codec { self with telemetry } { self' with telemetry } :=
  ⟨h.router, h.codec, h.coordinator, h.reversals, rfl, h.history⟩

end Updates

/-- Two calls on a flow return alike, and leave related flows. -/
def CallsAlike {α β : Type} (ρ : NetworkCorrelation ↪ NetworkCorrelation) (router : NetworkRouter)
    (codec : ISO8583Codec) (R : α → β → Prop) (call : Py α × AuthorizationNetworkFlow T)
    (call' : Py β × AuthorizationNetworkFlow T) : Prop :=
  Alike R call.1 call'.1 ∧ call.2.Renames ρ router codec call'.2

variable {self self' : AuthorizationNetworkFlow T} {attempt attempt' : NetworkAttempt T}
  (h : self.Renames ρ router codec self') (hattempt : attempt.Renames ρ codec attempt')

include h hattempt

/-- Failures end alike. -/
theorem settleFailure_renames (result result' : ISO8583ExchangeResult) :
    CallsAlike ρ router codec NetworkFlowResult.SameRecord (self.settleFailure attempt result)
      (self'.settleFailure attempt' result') := by
  obtain ⟨houtcome, hstate⟩ := NetworkTransactionCoordinator.cancel_renames h.coordinator
    hattempt.request
  unfold settleFailure
  generalize self.coordinator.cancel attempt.request = cancelled,
    self'.coordinator.cancel attempt'.request = cancelled' at houtcome hstate
  obtain ⟨outcome, coordinator⟩ := cancelled
  obtain ⟨outcome', coordinator'⟩ := cancelled'
  cases houtcome with
  | error e e' => exact ⟨.error e e', h.with_coordinator hstate⟩
  | @ok held _ heq =>
    subst heq
    cases held with
    | false => exact ⟨.error _ _, h.with_coordinator hstate⟩
    | true => exact ⟨.ok ⟨rfl, rfl, rfl, rfl⟩, h.with_coordinator hstate⟩

/-- Timeouts end alike. -/
theorem settleTimeout_renames (completedAt : T) {reversal reversal' : Py NetworkCorrelation}
    (hreversal : Alike (fun reversal reversal' => reversal' = ρ reversal) reversal reversal')
    (result result' : ISO8583ExchangeResult) :
    CallsAlike ρ router codec NetworkFlowResult.SameRecord
      (self.settleTimeout attempt completedAt reversal result)
      (self'.settleTimeout attempt' completedAt reversal' result') := by
  unfold settleTimeout
  rw [hattempt.deadline]
  by_cases hearly : completedAt < attempt.deadline
  · simp only [if_pos hearly]
    exact ⟨.error _ _, h⟩
  simp only [if_neg hearly]
  obtain ⟨houtcome, hstate⟩ := NetworkTransactionCoordinator.expire_renames h.coordinator
    completedAt
  generalize self.coordinator.expire completedAt = swept,
    self'.coordinator.expire completedAt = swept' at houtcome hstate
  obtain ⟨outcome, coordinator⟩ := swept
  obtain ⟨outcome', coordinator'⟩ := swept'
  cases houtcome with
  | error e e' => exact ⟨.error e e', h.with_coordinator hstate⟩
  | @ok expired _ heq =>
    subst heq
    -- The renaming is injective, so the sweep finds the new name exactly when it finds the old one.
    simp only [hattempt.correlation, List.mem_map, ρ.injective.eq_iff, exists_eq_right]
    split
    · exact ⟨.error _ _, h.with_coordinator hstate⟩
    cases hreversal with
    | error e e' => exact ⟨.error e e', h.with_coordinator hstate⟩
    | @ok planned _ heq =>
      subst heq
      -- The registries are related, so that the link is refused in both or in neither.
      obtain ⟨hlinked, hregistry⟩ := ReversalRegistry.link_renames h.reversals
        attempt.correlation planned .timeout
      simp only
      generalize self.reversals.link attempt.correlation planned .timeout = link,
        self'.reversals.link (ρ attempt.correlation) (ρ planned) .timeout = link'
        at hlinked hregistry
      obtain ⟨linked, reversals⟩ := link
      obtain ⟨linked', reversals'⟩ := link'
      have hflow := (h.with_coordinator hstate).with_reversals hregistry
        (self.issued ++ [planned]) (self'.issued ++ [ρ planned])
      cases hlinked with
      | error e e' => exact ⟨.error e e', hflow⟩
      | ok hreason => exact ⟨.ok ⟨rfl, rfl, rfl, congrArg some hreason⟩, hflow⟩

/-- Responses end alike. -/
theorem settleResponse_renames (completedAt : T) {response response' : ISO8583Message}
    (hresponse : response.Renames ρ response') :
    CallsAlike ρ router codec NetworkFlowResult.SameRecord
      (self.settleResponse attempt completedAt response)
      (self'.settleResponse attempt' completedAt response') := by
  -- Whether there is a sweep is decided by the deadline, which both attempts share.
  have hswept : Alike (fun expired expired' => expired' = expired.map ρ)
      (if attempt.deadline ≤ completedAt then self.coordinator.expire completedAt
        else (pure [], self.coordinator)).1
      (if attempt.deadline ≤ completedAt then self'.coordinator.expire completedAt
        else (pure [], self'.coordinator)).1 ∧
      (if attempt.deadline ≤ completedAt then self.coordinator.expire completedAt
        else (pure [], self.coordinator)).2.Renames ρ
      (if attempt.deadline ≤ completedAt then self'.coordinator.expire completedAt
        else (pure [], self'.coordinator)).2 := by
    split
    · exact NetworkTransactionCoordinator.expire_renames h.coordinator completedAt
    · exact ⟨.ok rfl, h.coordinator⟩
  unfold settleResponse
  rw [hattempt.deadline]
  generalize (if attempt.deadline ≤ completedAt then self.coordinator.expire completedAt
      else (pure [], self.coordinator)) = swept,
    (if attempt.deadline ≤ completedAt then self'.coordinator.expire completedAt
      else (pure [], self'.coordinator)) = swept' at hswept
  obtain ⟨expired, coordinator⟩ := swept
  obtain ⟨expired', coordinator'⟩ := swept'
  obtain ⟨houtcome, hstate⟩ := hswept
  cases houtcome with
  | error e e' => exact ⟨.error e e', h.with_coordinator hstate⟩
  | ok _ =>
    obtain ⟨hanswer, hafter⟩ := NetworkTransactionCoordinator.handleResponse_renames hstate
      hattempt.request hresponse completedAt
    simp only
    generalize coordinator.handleResponse attempt.request response completedAt = handled,
      coordinator'.handleResponse attempt'.request response' completedAt = handled'
      at hanswer hafter
    obtain ⟨answer, after⟩ := handled
    obtain ⟨answer', after'⟩ := handled'
    cases hanswer with
    | error e e' => exact ⟨.error e e', h.with_coordinator hafter⟩
    | ok heq => exact ⟨.ok ⟨rfl, congrArg some heq.symm, rfl, rfl⟩, h.with_coordinator hafter⟩

/-- `_exchange` ends alike. -/
theorem settle_renames (completedAt : T) {answers answers' : Answers}
    (hanswers : answers.Renames ρ codec answers') :
    CallsAlike ρ router codec NetworkFlowResult.SameRecord (self.settle attempt completedAt answers)
      (self'.settle attempt' completedAt answers') := by
  obtain ⟨houtcome, hadapter⟩ := ISO8583NetworkAdapter.exchange_renames h.codec hanswers.transport
    hattempt.encodes attempt.timeoutSeconds
  unfold settle
  rw [hattempt.timeoutSeconds]
  generalize self.adapter.exchange answers.transport attempt.request attempt.timeoutSeconds =
      exchanged,
    self'.adapter.exchange answers'.transport attempt'.request attempt.timeoutSeconds = exchanged'
    at houtcome hadapter
  obtain ⟨outcome, adapter⟩ := exchanged
  obtain ⟨outcome', adapter'⟩ := exchanged'
  have hflow := h.with_adapter hadapter
  cases houtcome with
  | error e e' => exact ⟨.error e e', hflow⟩
  | @ok result result' hresult =>
    obtain ⟨hsame, hresponse⟩ := hresult
    simp only [hsame]
    cases result.outcome with
    | failure => exact settleFailure_renames hflow hattempt result result'
    | timeout =>
      exact settleTimeout_renames hflow hattempt completedAt hanswers.reversal result result'
    | response =>
      generalize result.response = response, result'.response = response' at hresponse
      cases hresponse with
      | none => exact ⟨.error _ _, hflow⟩
      | some hresponse => exact settleResponse_renames hflow hattempt completedAt hresponse

omit h hattempt in
/-- The labels of an exchange are those of another with the same record. -/
theorem observeExchange_congr (telemetry : NetworkTelemetry) (route : IssuerRoute)
    {outcome outcome' : Py NetworkFlowResult}
    (houtcome : Alike NetworkFlowResult.SameRecord outcome outcome') :
    telemetry.observeExchange route outcome' = telemetry.observeExchange route outcome := by
  cases houtcome with
  | error e e' => rfl
  | @ok result result' hsame =>
    have hreason := hsame.reason
    simp only [NetworkTelemetry.observeExchange, hsame.transportOutcome, hsame.disposition,
      hsame.deliveryUnknown]
    cases hreversal : result.reversal with
    | none =>
      rw [hreversal, Option.map_none, Option.map_eq_none_iff] at hreason
      rw [hreason]
    | some link =>
      rw [hreversal, Option.map_some, Option.map_eq_some_iff] at hreason
      obtain ⟨link', hlink', heq⟩ := hreason
      rw [hlink']
      simp only [heq]

variable [Sub T] [Mul T] [NatCast T]

/-- `_record` writes the same. -/
theorem record_renames (transportOutcome : TransportOutcome)
    (disposition : Option TransactionDisposition) (deliveryUnknown : Bool) (completedAt : T)
    (reason : Option ReversalReason) {written written' : Py Unit}
    (hwritten : Alike Eq written written') :
    CallsAlike ρ router codec Eq
      (self.record attempt transportOutcome disposition deliveryUnknown completedAt reason written)
      (self'.record attempt' transportOutcome disposition deliveryUnknown completedAt reason
        written') := by
  unfold record
  rw [h.history]
  cases self.history with
  | none => exact ⟨.ok rfl, h⟩
  | some observations =>
    cases hwritten with
    | error e e' => exact ⟨.error e e', h⟩
    | ok _ =>
      refine ⟨.ok rfl, h.router, h.codec, h.coordinator, h.reversals, h.telemetry, ?_⟩
      simp only [hattempt.route, hattempt.startedAt]

/-- `exchange` returns and records alike. -/
theorem exchange_renames (completedAt : T) {answers answers' : Answers}
    (hanswers : answers.Renames ρ codec answers') :
    CallsAlike ρ router codec NetworkFlowResult.SameRecord
      (self.exchange attempt completedAt answers)
      (self'.exchange attempt' completedAt answers') := by
  obtain ⟨houtcome, hsettled⟩ := settle_renames h hattempt completedAt hanswers
  unfold exchange
  generalize self.settle attempt completedAt answers = settled,
    self'.settle attempt' completedAt answers' = settled' at houtcome hsettled
  obtain ⟨outcome, flow⟩ := settled
  obtain ⟨outcome', flow'⟩ := settled'
  -- The labels read the outcome alone, so both flows observe the same.
  have hlabels : (fun telemetry : NetworkTelemetry =>
      telemetry.observeExchange attempt.route outcome') =
      fun telemetry => telemetry.observeExchange attempt.route outcome :=
    funext fun telemetry => observeExchange_congr telemetry attempt.route houtcome
  have htelemetry : flow'.telemetry = flow.telemetry := hsettled.telemetry
  simp only [htelemetry, hattempt.route, hlabels]
  have hobserved := hsettled.with_telemetry
    (flow.telemetry.map fun telemetry => telemetry.observeExchange attempt.route outcome)
  cases houtcome with
  | error e e' => exact ⟨.error e e', hobserved⟩
  | @ok result result' hsame =>
    obtain ⟨hwritten, hrecorded⟩ := record_renames hobserved hattempt result.transportOutcome
      result.disposition result.deliveryUnknown completedAt
      (result.reversal.map ReversalLink.reason) hanswers.history
    simp only [hsame.transportOutcome, hsame.disposition, hsame.deliveryUnknown, hsame.reason]
    generalize record _ attempt _ _ _ _ _ _ = recorded, record _ attempt' _ _ _ _ _ _ = recorded'
      at hwritten hrecorded
    obtain ⟨written, after⟩ := recorded
    obtain ⟨written', after'⟩ := recorded'
    cases hwritten with
    | error e e' => exact ⟨.error e e', hrecorded⟩
    | ok _ => exact ⟨.ok hsame, hrecorded⟩

/-- `handle_late_response` returns and records alike. -/
theorem handleLateResponse_renames {response response' : ISO8583Message}
    (hresponse : response.Renames ρ response') (now : T) {answers answers' : Answers}
    (hhistory : Alike Eq answers.history answers'.history) :
    CallsAlike ρ router codec Eq (self.handleLateResponse attempt response now answers)
      (self'.handleLateResponse attempt' response' now answers') := by
  obtain ⟨houtcome, hstate⟩ := NetworkTransactionCoordinator.handleResponse_renames h.coordinator
    hattempt.request hresponse now
  unfold handleLateResponse
  generalize self.coordinator.handleResponse attempt.request response now = handled,
    self'.coordinator.handleResponse attempt'.request response' now = handled' at houtcome hstate
  obtain ⟨outcome, coordinator⟩ := handled
  obtain ⟨outcome', coordinator'⟩ := handled'
  cases houtcome with
  | error e e' => exact ⟨.error e e', h.with_coordinator hstate⟩
  | @ok disposition _ heq =>
    subst heq
    have hobserved := (h.with_coordinator hstate).with_telemetry (self.telemetry.map
      fun telemetry => NetworkTelemetry.recordLateResponse telemetry attempt.route disposition)
    obtain ⟨hwritten, hrecorded⟩ := record_renames hobserved hattempt .response (some disposition)
      false now none hhistory
    simp only [h.telemetry, hattempt.route]
    generalize record _ attempt _ _ _ _ _ _ = recorded, record _ attempt' _ _ _ _ _ _ = recorded'
      at hwritten hrecorded
    obtain ⟨written, after⟩ := recorded
    obtain ⟨written', after'⟩ := recorded'
    cases hwritten with
    | error e e' => exact ⟨.error e e', hrecorded⟩
    | ok _ => exact ⟨.ok rfl, hrecorded⟩

omit hattempt [Sub T] [Mul T] [NatCast T] in
/-- `start` returns related attempts. -/
theorem start_renames [Add T] {canonical canonical' : AuthorizationRequest}
    {request request' : ISO8583Message} (now timeoutSeconds : T)
    (hroute : Alike Eq (router.route canonical) (router.route canonical'))
    (hcanonical : canonical'.correlation = ρ canonical.correlation)
    (hrequest : request.Renames ρ request')
    (hencodes : Alike (fun _ _ => True) (codec.encode request) (codec.encode request')) :
    CallsAlike ρ router codec (NetworkAttempt.Renames ρ codec)
      (self.start canonical request now timeoutSeconds)
      (self'.start canonical' request' now timeoutSeconds) := by
  obtain ⟨hregistered, hstate⟩ := NetworkTransactionCoordinator.register_renames h.coordinator
    hrequest now timeoutSeconds
  have hkey := hrequest.key
  have hrouted : Alike Eq (self.router.route canonical) (self'.router.route canonical') := by
    rwa [h.router.1, h.router.2]
  unfold start
  rw [hcanonical]
  generalize correlationKey request = key, correlationKey request' = key' at hkey
  cases hkey with
  | error e e' => exact ⟨.error e e', h⟩
  | @ok wireCorrelation _ heq =>
    subst heq
    -- The message has the canonical correlation before the renaming exactly when it has it after.
    simp only [ρ.injective.ne_iff]
    split
    · exact ⟨.error _ _, h⟩
    generalize self.router.route canonical = route, self'.router.route canonical' = route'
      at hrouted
    cases hrouted with
    | error e e' => exact ⟨.error e e', h⟩
    | @ok route _ heq =>
      subst heq
      simp only
      generalize self.coordinator.register request now timeoutSeconds = registered,
        self'.coordinator.register request' now timeoutSeconds = registered' at hregistered hstate
      obtain ⟨outcome, coordinator⟩ := registered
      obtain ⟨outcome', coordinator'⟩ := registered'
      cases hregistered with
      | error e e' => exact ⟨.error e e', h.with_coordinator hstate⟩
      | ok heq =>
        exact ⟨.ok ⟨rfl, hrequest, hencodes, heq, rfl, rfl, rfl⟩, h.with_coordinator hstate⟩

/-! ## Runs as calls -/

omit h hattempt

/-- A call on a flow. An attempt is given by its number, in the order in which `start` returned
them. -/
inductive Call (T : Type) where
  | start (canonical : AuthorizationRequest) (request : ISO8583Message) (now timeoutSeconds : T)
  | exchange (n : ℕ) (completedAt : T) (answers : Answers)
  | lateResponse (n : ℕ) (response : ISO8583Message) (now : T) (answers : Answers)

variable [Add T]

/-- What a call makes of a session, when it has the attempt. -/
def advance (session : Session T) : Call T → Option (Session T × Event T)
  | .start canonical request now timeoutSeconds =>
    match session.flow.start canonical request now timeoutSeconds with
    | (outcome, flow) =>
      some (⟨flow, match outcome with
        | .ok attempt => session.attempts ++ [attempt]
        | .error _ => session.attempts⟩, .start canonical request now timeoutSeconds outcome)
  | .exchange n completedAt answers =>
    session.attempts[n]?.map fun attempt =>
      match session.flow.exchange attempt completedAt answers with
      | (outcome, flow) => ({ session with flow }, .exchange attempt completedAt answers outcome)
  | .lateResponse n response now answers =>
    session.attempts[n]?.map fun attempt =>
      match session.flow.handleLateResponse attempt response now answers with
      | (outcome, flow) =>
        ({ session with flow }, .lateResponse attempt response now answers outcome)

/-- A call of a session is a step of it. -/
theorem step_of_advance {session session' : Session T} {call : Call T} {event : Event T}
    (hadvance : advance session call = some (session', event)) :
    (lts T).step session event session' := by
  cases call with
  | start canonical request now timeoutSeconds =>
    cases hadvance
    exact ⟨rfl, rfl⟩
  | exchange n completedAt answers =>
    obtain ⟨attempt, hattempt, heq⟩ := Option.map_eq_some_iff.mp hadvance
    cases heq
    exact ⟨List.mem_of_getElem? hattempt, rfl, rfl⟩
  | lateResponse n response now answers =>
    obtain ⟨attempt, hattempt, heq⟩ := Option.map_eq_some_iff.mp hadvance
    cases heq
    exact ⟨List.mem_of_getElem? hattempt, rfl, rfl⟩

/-- A step of a session is a call of it. -/
theorem advance_of_step {session session' : Session T} {event : Event T}
    (hstep : (lts T).step session event session') :
    ∃ call, advance session call = some (session', event) := by
  obtain ⟨flow', attempts'⟩ := session'
  cases event with
  | start canonical request now timeoutSeconds outcome =>
    obtain ⟨hstart, rfl⟩ := hstep
    refine ⟨.start canonical request now timeoutSeconds, ?_⟩
    rw [advance]
    generalize session.flow.start canonical request now timeoutSeconds = started at hstart ⊢
    subst hstart
    rfl
  | exchange attempt completedAt answers outcome =>
    obtain ⟨hmem, hexchange, rfl⟩ := hstep
    obtain ⟨n, hn⟩ := List.getElem?_of_mem hmem
    refine ⟨.exchange n completedAt answers, ?_⟩
    simp only [advance, hn, Option.map_some, hexchange]
  | lateResponse attempt response now answers outcome =>
    obtain ⟨hmem, hlate, rfl⟩ := hstep
    obtain ⟨n, hn⟩ := List.getElem?_of_mem hmem
    refine ⟨.lateResponse n response now answers, ?_⟩
    simp only [advance, hn, Option.map_some, hlate]

/-- The runs are what calls on a new flow play. -/
theorem run_iff_play {log : List (Event T)} {session : Session T} :
    (lts T).Run log session ↔ ∃ router codec observed recorded calls,
      Lts.play advance ⟨new router codec observed recorded, []⟩ calls = some (session, log) := by
  constructor
  · rintro ⟨_, ⟨router, codec, observed, recorded, rfl⟩, hsteps⟩
    obtain ⟨calls, hcalls⟩ := Lts.play_of_steps (fun _ _ _ => advance_of_step) hsteps
    exact ⟨router, codec, observed, recorded, calls, hcalls⟩
  · rintro ⟨router, codec, observed, recorded, calls, hcalls⟩
    exact ⟨_, ⟨router, codec, observed, recorded, rfl⟩,
      Lts.steps_of_play_of_advance (fun _ _ _ _ => step_of_advance) hcalls⟩

/-! ## Two runs -/

/-- The second call is the first one on renamed data: the requests have the correlations renamed and
the same route, they both encode or both do not, and what the collaborators answer is renamed. -/
inductive Call.Renames (ρ : NetworkCorrelation ↪ NetworkCorrelation) (router : NetworkRouter)
    (codec : ISO8583Codec) : Call T → Call T → Prop where
  | start {canonical canonical' : AuthorizationRequest} {request request' : ISO8583Message}
      (hroute : Alike Eq (router.route canonical) (router.route canonical'))
      (hcanonical : canonical'.correlation = ρ canonical.correlation)
      (hrequest : request.Renames ρ request')
      (hencodes : Alike (fun _ _ => True) (codec.encode request) (codec.encode request'))
      (now timeoutSeconds : T) :
      Renames ρ router codec (.start canonical request now timeoutSeconds)
        (.start canonical' request' now timeoutSeconds)
  | exchange (n : ℕ) (completedAt : T) {answers answers' : Answers}
      (hanswers : answers.Renames ρ codec answers') :
      Renames ρ router codec (.exchange n completedAt answers) (.exchange n completedAt answers')
  | lateResponse (n : ℕ) {response response' : ISO8583Message}
      (hresponse : response.Renames ρ response') (now : T) {answers answers' : Answers}
      (hhistory : Alike Eq answers.history answers'.history) :
      Renames ρ router codec (.lateResponse n response now answers)
        (.lateResponse n response' now answers')

/-- The second session has the flow and the attempts of the first, renamed. -/
structure Session.Renames (ρ : NetworkCorrelation ↪ NetworkCorrelation) (router : NetworkRouter)
    (codec : ISO8583Codec) (session renamed : Session T) : Prop where
  flow : session.flow.Renames ρ router codec renamed.flow
  attempts : List.Forall₂ (NetworkAttempt.Renames ρ codec) session.attempts renamed.attempts

omit [Sub T] [Mul T] [NatCast T] [Add T] in
/-- New flows are related. -/
theorem renames_new (observed recorded : Bool) :
    (new router codec observed recorded : AuthorizationNetworkFlow T).Renames ρ router codec
      (new router codec observed recorded) :=
  ⟨⟨rfl, rfl⟩, ⟨rfl, rfl⟩, NetworkTransactionCoordinator.renames_new, ReversalRegistry.renames_new,
    rfl, rfl⟩

/-- The call raises. -/
def raised : Event T → Bool
  | .start _ _ _ _ (.error _) | .exchange _ _ _ (.error _) | .lateResponse _ _ _ _ (.error _) =>
    true
  | _ => false

omit [LinearOrder T] [Zero T] [Sub T] [Mul T] [NatCast T] [Add T] in
/-- Related lists have related members at each place. -/
theorem rel_getElem? {α β : Type*} {R : α → β → Prop} {xs : List α} {ys : List β}
    (h : List.Forall₂ R xs ys) (n : ℕ) : Option.Rel R xs[n]? ys[n]? := by
  induction h generalizing n with
  | nil => exact .none
  | cons hhead _ ih =>
    cases n with
    | zero => exact .some hhead
    | succ n => exact ih n

/-- Related calls of related sessions both raise or both return, and leave related sessions. -/
theorem advance_renames {session session' : Session T} {call call' : Call T}
    (hsession : session.Renames ρ router codec session')
    (hcall : call.Renames ρ router codec call') :
    Option.Rel (fun p q => p.1.Renames ρ router codec q.1 ∧ raised p.2 = raised q.2)
      (advance session call) (advance session' call') := by
  cases hcall with
  | @start canonical canonical' request request' hroute hcanonical hrequest hencodes now
      timeoutSeconds =>
    -- A call is alike when the flows and the attempts that it uses are.
    obtain ⟨houtcome, hflow⟩ := start_renames hsession.flow now timeoutSeconds hroute hcanonical
      hrequest hencodes
    simp only [advance]
    generalize session.flow.start canonical request now timeoutSeconds = started,
      session'.flow.start canonical' request' now timeoutSeconds = started' at houtcome hflow
    obtain ⟨outcome, flow⟩ := started
    obtain ⟨outcome', flow'⟩ := started'
    cases houtcome with
    | error e e' => exact .some ⟨⟨hflow, hsession.attempts⟩, rfl⟩
    | ok hattempt =>
      exact .some ⟨⟨hflow, List.rel_append hsession.attempts (.cons hattempt .nil)⟩, rfl⟩
  | @exchange n completedAt answers answers' hanswers =>
    -- Related sessions have as many attempts, so that both or neither have this one.
    have hattempts := rel_getElem? hsession.attempts n
    simp only [advance]
    generalize session.attempts[n]? = attempt, session'.attempts[n]? = attempt' at hattempts
    cases hattempts with
    | none => exact .none
    | @some attempt attempt' hattempt =>
      obtain ⟨houtcome, hflow⟩ := exchange_renames hsession.flow hattempt completedAt hanswers
      simp only [Option.map_some]
      generalize session.flow.exchange attempt completedAt answers = exchanged,
        session'.flow.exchange attempt' completedAt answers' = exchanged' at houtcome hflow
      obtain ⟨outcome, flow⟩ := exchanged
      obtain ⟨outcome', flow'⟩ := exchanged'
      cases houtcome with
      | error _ _ | ok _ => exact .some ⟨⟨hflow, hsession.attempts⟩, rfl⟩
  | @lateResponse n response response' hresponse now answers answers' hhistory =>
    have hattempts := rel_getElem? hsession.attempts n
    simp only [advance]
    generalize session.attempts[n]? = attempt, session'.attempts[n]? = attempt' at hattempts
    cases hattempts with
    | none => exact .none
    | @some attempt attempt' hattempt =>
      obtain ⟨houtcome, hflow⟩ := handleLateResponse_renames hsession.flow hattempt hresponse now
        hhistory
      simp only [Option.map_some]
      generalize session.flow.handleLateResponse attempt response now answers = handled,
        session'.flow.handleLateResponse attempt' response' now answers' = handled'
        at houtcome hflow
      obtain ⟨outcome, flow⟩ := handled
      obtain ⟨outcome', flow'⟩ := handled'
      cases houtcome with
      | error _ _ | ok _ => exact .some ⟨⟨hflow, hsession.attempts⟩, rfl⟩

/-- When a second run makes the calls of a first one on renamed data, the two record the same
observations and the same labels, and raise at the same calls. -/
theorem records_alike {observed recorded : Bool} {calls calls' : List (Call T)}
    (hcalls : List.Forall₂ (Call.Renames ρ router codec) calls calls') {session : Session T}
    {log : List (Event T)}
    (hplay : Lts.play advance ⟨new router codec observed recorded, []⟩ calls =
      some (session, log)) :
    ∃ session' log', Lts.play advance ⟨new router codec observed recorded, []⟩ calls' =
        some (session', log') ∧
      session'.flow.history = session.flow.history ∧
      session'.flow.telemetry = session.flow.telemetry ∧ log'.map raised = log.map raised := by
  have hnew : Session.Renames ρ router codec
      (⟨new router codec observed recorded, []⟩ : Session T)
      ⟨new router codec observed recorded, []⟩ :=
    ⟨renames_new observed recorded, .nil⟩
  have hadvance : ∀ (session session' : Session T) (call call' : Call T),
      session.Renames ρ router codec session' → call.Renames ρ router codec call' →
      Option.Rel (fun p q => p.1.Renames ρ router codec q.1 ∧ raised p.2 = raised q.2)
        (advance session call) (advance session' call') := fun _ _ _ _ => advance_renames
  -- The relation of the sessions is kept by each call, and so by the calls together.
  have hrel := Lts.play_rel (E := fun event event' => raised event = raised event') hadvance hcalls
    hnew
  rw [hplay] at hrel
  generalize Lts.play advance ⟨new router codec observed recorded, []⟩ calls' = played at hrel
  cases hrel with
  | @some _ played hboth =>
    obtain ⟨hsession, hraised⟩ := hboth
    refine ⟨played.1, played.2, rfl, hsession.flow.history, hsession.flow.telemetry, ?_⟩
    exact (List.forall₂_eq_eq_eq ▸ List.forall₂_map_left_iff.mpr
      (List.forall₂_map_right_iff.mpr hraised)).symm

/-! ## A timeout and a late response, twice -/

/-- The renaming that swaps two correlations. -/
def sampleRenaming : NetworkCorrelation ↪ NetworkCorrelation :=
  (Equiv.swap sampleCorrelation otherCorrelation).toEmbedding

/-- The request of another card holder: another correlation, and an amount. -/
def otherPurchase : ISO8583Message :=
  ⟨"0200", otherRequest.fields.insert 4 (.text "000000000099")⟩

/-- A request that times out at its deadline, and is answered later. -/
def lateCalls (correlation : NetworkCorrelation) (request response : ISO8583Message) :
    List (Call ℤ) :=
  let answers := timesOutWith (.ok sampleReversal)
  [.start (sampleCanonical correlation) request 0 5, .exchange 0 5 answers,
    .lateResponse 0 response 6 answers]

/-- The calls for the other card holder are those for the first one, renamed. -/
theorem lateCalls_renames : List.Forall₂
    (Call.Renames sampleRenaming sampleRouter defaultCodec)
    (lateCalls sampleCorrelation sampleRequest sampleResponse)
    (lateCalls otherCorrelation otherPurchase otherResponse) := by
  have hname : otherCorrelation = sampleRenaming sampleCorrelation :=
    (Equiv.swap_apply_left _ _).symm
  -- The reversal is neither of the two, and keeps its name.
  have hreversal : sampleReversal = sampleRenaming sampleReversal :=
    (Equiv.swap_apply_of_ne_of_ne (by decide) (by decide)).symm
  have hrequest : sampleRequest.Renames sampleRenaming otherPurchase := ⟨rfl, .ok hname⟩
  have hresponse : sampleResponse.Renames sampleRenaming otherResponse := ⟨rfl, .ok hname⟩
  have hencodes : Alike (fun _ _ => True) (defaultCodec.encode sampleRequest)
      (defaultCodec.encode otherPurchase) := .ok trivial
  refine .cons (.start (.ok rfl) hname hrequest hencodes 0 5) (.cons ?_ (.cons ?_ .nil))
  · exact .exchange 0 5 ⟨.ok ⟨rfl, nofun⟩, .ok hreversal, .ok rfl⟩
  · exact .lateResponse 0 hresponse 6 (.ok rfl)

/-- Both card holders leave the same two observations. -/
theorem records_alike_late :
    ∃ observations session session' log log', observations ≠ [] ∧
      Lts.play advance ⟨new sampleRouter defaultCodec true true, []⟩
        (lateCalls sampleCorrelation sampleRequest sampleResponse) = some (session, log) ∧
      Lts.play advance ⟨new sampleRouter defaultCodec true true, []⟩
        (lateCalls otherCorrelation otherPurchase otherResponse) = some (session', log') ∧
      session.flow.history = some observations ∧ session'.flow.history = some observations := by
  obtain ⟨played, hplayed⟩ : ∃ played, Lts.play advance
      ⟨new sampleRouter defaultCodec true true, []⟩
      (lateCalls sampleCorrelation sampleRequest sampleResponse) = some played := ⟨_, rfl⟩
  obtain ⟨session', log', hplayed', hhistory, -, -⟩ := records_alike lateCalls_renames hplayed
  have hsession : ∃ first second, played.1.flow.history = some [first, second] := by
    cases hplayed
    exact ⟨_, _, rfl⟩
  obtain ⟨first, second, hobservations⟩ := hsession
  exact ⟨_, played.1, session', played.2, log', List.cons_ne_nil first [second], hplayed, hplayed',
    hobservations, hhistory.trans hobservations⟩

end AuthorizationNetworkFlow

end AtlasPay
