import AtlasPay.Network.Ends
import AtlasPay.Network.FlowRuns

/-!
# Injected faults

The model of `app/network_faults.py`. A transport has a state of its own, which a call may change
also when it raises. `FaultInjectingTransport` wraps one and replaces a single call of it.
-/

namespace AtlasPay

/-- A transport: what `exchange` returns or raises, and its state after the call. -/
abbrev NetworkTransport (σ T : Type) := σ → Bytes → T → Py TransportExchange × σ

/-- Some calls of a transport, one after the other. -/
def NetworkTransport.exchanges {σ T : Type} (transport : NetworkTransport σ T) (s : σ) :
    List (Bytes × T) → List (Py TransportExchange) × σ
  | [] => ([], s)
  | (payload, timeoutSeconds) :: requests =>
    let first := transport s payload timeoutSeconds
    let rest := transport.exchanges first.2 requests
    (first.1 :: rest.1, rest.2)

/-- `FaultMode`. -/
inductive FaultMode where
  | none
  | localFailure
  | timeout
  | malformedResponse
  deriving DecidableEq, Repr

/-- `FaultRule`, with the check of `__post_init__` as a field. -/
structure FaultRule where
  mode : FaultMode
  triggerOnCall : ℕ := 1
  triggerOnCall_pos : 0 < triggerOnCall := by decide

/-- `b"fault-injected-invalid-iso8583"`. -/
def malformedPayload : Bytes :=
  "fault-injected-invalid-iso8583".toList.map fun c => UInt8.ofNat c.toNat

/-- The injected timeout keeps delivery ambiguous. -/
theorem injectedTimeout_ambiguous :
    TransportOutcome.timeout = .timeout → (none : Option Bytes) = none ∧ true = true :=
  fun _ => ⟨rfl, rfl⟩

/-- The injected timeout is no failure. -/
theorem injectedTimeout_not_failure :
    TransportOutcome.timeout = .failure → (none : Option Bytes) = none ∧ true = false :=
  fun h => absurd h (by decide)

/-- What `FaultInjectingTransport.exchange` returns on the call that it replaces. -/
def FaultMode.inject : FaultMode → Py TransportExchange
  | .localFailure =>
    pure {
      outcome := .failure
      error := some "fault injection: local transport failure before response"
      response_valid := nofun
      timeout_valid := nofun
      failure_valid := fun _ => ⟨rfl, rfl⟩ }
  | .timeout =>
    pure {
      outcome := .timeout
      error := some "fault injection: response deadline exceeded"
      deliveryUnknown := true
      response_valid := nofun
      timeout_valid := injectedTimeout_ambiguous
      failure_valid := injectedTimeout_not_failure }
  | .malformedResponse =>
    pure {
      outcome := .response
      responsePayload := some malformedPayload
      response_valid := fun _ => ⟨Option.some_ne_none _, rfl, rfl⟩
      timeout_valid := nofun
      failure_valid := nofun }
  | .none => throw .assertionError

/-- `FaultInjectingTransport`, with the state of its inner transport. -/
structure FaultInjectingTransport (σ T : Type) where
  inner : NetworkTransport σ T
  innerState : σ
  rule : FaultRule
  calls : ℕ

namespace FaultInjectingTransport

variable {σ T : Type}

/-- `FaultInjectingTransport(inner, rule)`. -/
def new (inner : NetworkTransport σ T) (innerState : σ) (rule : FaultRule) :
    FaultInjectingTransport σ T :=
  ⟨inner, innerState, rule, 0⟩

/-- `exchange`. -/
def exchange : NetworkTransport (FaultInjectingTransport σ T) T :=
  fun self payload timeoutSeconds =>
    let calls := self.calls + 1
    if calls ≠ self.rule.triggerOnCall ∨ self.rule.mode = .none then
      match self.inner self.innerState payload timeoutSeconds with
      | (answer, innerState) => (answer, { self with calls, innerState })
    else (self.rule.mode.inject, { self with calls })

end FaultInjectingTransport

namespace NetworkTransport

variable {σ T : Type}

/-- Calls along two lists are calls along the first, and from there along the second. -/
theorem exchanges_append (transport : NetworkTransport σ T) (s : σ)
    (requests requests' : List (Bytes × T)) :
    transport.exchanges s (requests ++ requests') =
      ((transport.exchanges s requests).1 ++
          (transport.exchanges (transport.exchanges s requests).2 requests').1,
        (transport.exchanges (transport.exchanges s requests).2 requests').2) := by
  induction requests generalizing s with
  | nil => rfl
  | cons request requests ih =>
    simp only [List.cons_append, exchanges, ih]

/-- Every call is answered. -/
theorem length_exchanges (transport : NetworkTransport σ T) (s : σ) (requests : List (Bytes × T)) :
    (transport.exchanges s requests).1.length = requests.length := by
  induction requests generalizing s with
  | nil => rfl
  | cons request requests ih => simp only [exchanges, List.length_cons, ih]

end NetworkTransport

namespace FaultInjectingTransport

variable {σ T : Type}

/-- The wrapper of a transport after some calls that were handed on. -/
def handedOn (self : FaultInjectingTransport σ T) (requests : List (Bytes × T)) :
    FaultInjectingTransport σ T :=
  { self with
    innerState := (self.inner.exchanges self.innerState requests).2
    calls := self.calls + requests.length }

/-- As long as the call to replace does not come, or when none is replaced, calls are answered by
the inner transport. -/
theorem exchanges_handedOn (self : FaultInjectingTransport σ T) (requests : List (Bytes × T))
    (h : self.rule.mode = .none ∨ self.rule.triggerOnCall ≤ self.calls ∨
      self.calls + requests.length < self.rule.triggerOnCall) :
    exchange.exchanges self requests =
      ((self.inner.exchanges self.innerState requests).1, self.handedOn requests) := by
  induction requests generalizing self with
  | nil => rfl
  | cons request requests ih =>
    obtain ⟨payload, timeoutSeconds⟩ := request
    rw [List.length_cons] at h
    -- The first call is none to replace; the hypothesis goes on with the counter.
    have hthrough : self.calls + 1 ≠ self.rule.triggerOnCall ∨ self.rule.mode = .none := by
      rcases h with hnone | hover | hbefore
      · exact .inr hnone
      · exact .inl (by omega)
      · exact .inl (by omega)
    have hfirst : exchange self payload timeoutSeconds =
        ((self.inner self.innerState payload timeoutSeconds).1,
          self.handedOn [(payload, timeoutSeconds)]) := by
      unfold exchange
      rw [if_pos hthrough]
      rfl
    have hrest := ih (self.handedOn [(payload, timeoutSeconds)]) (by
      rcases h with hnone | hover | hbefore
      · exact .inl hnone
      · exact .inr (.inl (Nat.le_succ_of_le hover))
      · refine .inr (.inr ?_)
        change self.calls + 1 + requests.length < self.rule.triggerOnCall
        omega)
    rw [NetworkTransport.exchanges, hfirst, hrest]
    refine Prod.ext rfl ?_
    simp only [handedOn, NetworkTransport.exchanges, List.length_cons, List.length_nil]
    congr 1
    omega

/-- The calls that a wrapper has counted are those that were made. -/
theorem calls_exchanges (self : FaultInjectingTransport σ T) (requests : List (Bytes × T)) :
    (exchange.exchanges self requests).2.calls = self.calls + requests.length := by
  have hone : ∀ (self : FaultInjectingTransport σ T) (payload : Bytes) (timeoutSeconds : T),
      (exchange self payload timeoutSeconds).2.calls = self.calls + 1 := by
    intro self payload timeoutSeconds
    unfold exchange
    dsimp only
    split <;> rfl
  induction requests generalizing self with
  | nil => rfl
  | cons request requests ih =>
    rw [NetworkTransport.exchanges, ih, hone, List.length_cons]
    omega

/-- Of the calls of a new wrapper, the one that the rule names is answered with its fault, and the
inner transport is not called. All others are answered as the inner transport answers them when it
is called for them alone, and leave it in the same state. -/
theorem injects_once (inner : NetworkTransport σ T) (innerState : σ) (rule : FaultRule)
    (requests : List (Bytes × T)) :
    let run := exchange.exchanges (new inner innerState rule) requests
    run.2.calls = requests.length ∧
      if rule.mode ≠ .none ∧ rule.triggerOnCall ≤ requests.length then
        ∃ before request after answered answered', requests = before ++ request :: after ∧
          before.length + 1 = rule.triggerOnCall ∧ answered.length = before.length ∧
          run.1 = answered ++ rule.mode.inject :: answered' ∧
          inner.exchanges innerState (before ++ after) = (answered ++ answered', run.2.innerState)
      else inner.exchanges innerState requests = (run.1, run.2.innerState) := by
  intro run
  refine ⟨?_, ?_⟩
  · have hcalls := calls_exchanges (new inner innerState rule) requests
    rw [hcalls]
    exact Nat.zero_add _
  split
  · next h =>
    obtain ⟨hmode, hlength⟩ := h
    have hpos := rule.triggerOnCall_pos
    -- The calls before the one that is replaced, that call, and the calls after it.
    obtain ⟨before, request, after, rfl, hbefore⟩ :
        ∃ before request after, requests = before ++ request :: after ∧
          before.length + 1 = rule.triggerOnCall := by
      have hlt : rule.triggerOnCall - 1 < requests.length := by omega
      refine ⟨requests.take (rule.triggerOnCall - 1), requests[rule.triggerOnCall - 1],
        requests.drop (rule.triggerOnCall - 1 + 1), ?_, ?_⟩
      · rw [List.getElem_cons_drop, List.take_append_drop]
      · rw [List.length_take]
        omega
    have hfirst := exchanges_handedOn (new inner innerState rule) before
      (.inr (.inr (by
        change 0 + before.length < rule.triggerOnCall
        omega)))
    let waiting := (new inner innerState rule).handedOn before
    have hwaiting : waiting.calls = before.length := Nat.zero_add _
    have hreplaced : exchange waiting request.1 request.2 =
        (rule.mode.inject, { waiting with calls := waiting.calls + 1 }) := by
      unfold exchange
      rw [if_neg]
      · rfl
      · rw [not_or, not_not, hwaiting]
        exact ⟨hbefore, hmode⟩
    have hrest := exchanges_handedOn { waiting with calls := waiting.calls + 1 } after
      (.inr (.inl (by
        change rule.triggerOnCall ≤ waiting.calls + 1
        omega)))
    have hrun : run = ((inner.exchanges innerState before).1 ++ rule.mode.inject ::
        (inner.exchanges waiting.innerState after).1,
        { waiting with calls := waiting.calls + 1 }.handedOn after) := by
      change exchange.exchanges _ _ = _
      rw [NetworkTransport.exchanges_append, hfirst, NetworkTransport.exchanges, hreplaced, hrest]
      rfl
    refine ⟨before, request, after, _, _, rfl, hbefore, ?_, by rw [hrun], ?_⟩
    · exact inner.length_exchanges innerState before
    · rw [hrun, NetworkTransport.exchanges_append]
      rfl
  · next h =>
    have hall := exchanges_handedOn (new inner innerState rule) requests (by
      by_cases hmode : rule.mode = .none
      · exact .inl hmode
      · refine .inr (.inr ?_)
        change 0 + requests.length < rule.triggerOnCall
        have hlength : ¬rule.triggerOnCall ≤ requests.length := fun hle => h ⟨hmode, hle⟩
        omega)
    change _ = ((exchange.exchanges _ _).1, (exchange.exchanges _ _).2.innerState)
    rw [hall]
    rfl

end FaultInjectingTransport

/-! ## What a flow makes of the faults -/

/-- No codec decodes the malformed payload: it starts with letters. -/
theorem decode_malformedPayload (codec : ISO8583Codec) :
    codec.decode malformedPayload =
      .error (.iso8583CodecError "MTI must be exactly four ASCII digits") := by
  have hmti : decodeMti (slice malformedPayload 0 4) =
      .error (.iso8583CodecError "MTI must be exactly four ASCII digits") := by decide
  unfold ISO8583Codec.decode
  rw [if_neg (by decide), hmti]
  rfl

/-- A result without the text of its error. -/
def NetworkFlowResult.withoutError (result : NetworkFlowResult) : NetworkFlowResult :=
  { result with error := none }

namespace AuthorizationNetworkFlow

variable {T : Type} [LinearOrder T] [Zero T]

/-- Two calls leave the flow alike, and return or raise the same but for the text of an error. -/
def EqualButError (x y : Py NetworkFlowResult × AuthorizationNetworkFlow T) : Prop :=
  x.1.map NetworkFlowResult.withoutError = y.1.map NetworkFlowResult.withoutError ∧ x.2 = y.2

/-- Telemetry does not look at the text of an error. -/
theorem observeExchange_withoutError (telemetry : NetworkTelemetry) (route : IssuerRoute)
    {outcome outcome' : Py NetworkFlowResult}
    (h : outcome.map NetworkFlowResult.withoutError =
      outcome'.map NetworkFlowResult.withoutError) :
    telemetry.observeExchange route outcome = telemetry.observeExchange route outcome' := by
  cases outcome with
  | error e =>
    cases outcome' with
    | error e' => rfl
    | ok result' => cases h
  | ok result =>
    cases outcome' with
    | error e' => cases h
    | ok result' =>
      have hresults : result.withoutError = result'.withoutError := Except.ok.inj h
      have hobserved : ∀ result : NetworkFlowResult,
          telemetry.observeExchange route (.ok result) =
            telemetry.observeExchange route (.ok result.withoutError) := fun _ => rfl
      rw [hobserved, hresults, ← hobserved]

section Injected

variable (self : AuthorizationNetworkFlow T) (attempt : NetworkAttempt T) (completedAt : T)

/-- After a failure, the text of its error only goes into the result. -/
theorem alike_settleFailure (result result' : ISO8583ExchangeResult) :
    EqualButError (self.settleFailure attempt result) (self.settleFailure attempt result') := by
  unfold settleFailure
  split <;> exact ⟨rfl, rfl⟩

/-- What the adapter makes of an injected malformed response. -/
def malformedResult : ISO8583ExchangeResult where
  outcome := .failure
  error := some "invalid ISO 8583 response: MTI must be exactly four ASCII digits"

/-- What the adapter makes of an injected local failure. -/
def localFailureResult : ISO8583ExchangeResult where
  outcome := .failure
  error := some "fault injection: local transport failure before response"

/-- Under both faults `_exchange` raises what the adapter raises before it calls the transport, or
settles a failure after the request was handed to it. -/
theorem settle_injected (reversal : Py NetworkCorrelation) (history : Py Unit) :
    (∃ e, ∀ mode : FaultMode,
      self.settle attempt completedAt ⟨mode.inject, reversal, history⟩ = (.error e, self)) ∨
    ∃ adapter : ISO8583NetworkAdapter, adapter.sent.length = self.adapter.sent.length + 1 ∧
      self.settle attempt completedAt ⟨FaultMode.malformedResponse.inject, reversal, history⟩ =
        { self with adapter }.settleFailure attempt malformedResult ∧
      self.settle attempt completedAt ⟨FaultMode.localFailure.inject, reversal, history⟩ =
        { self with adapter }.settleFailure attempt localFailureResult := by
  unfold settle ISO8583NetworkAdapter.exchange
  split_ifs with htimeout
  · exact .inl ⟨_, fun _ => rfl⟩
  · cases hencode : self.adapter.codec.encode attempt.request with
    | error e => exact .inl ⟨e, fun _ => rfl⟩
    | ok payload =>
      have hmalformed : FaultMode.malformedResponse.inject >>= self.adapter.codec.classify =
          .ok malformedResult := by
        unfold FaultMode.inject ISO8583Codec.classify
        simp only [pure_bind, decode_malformedPayload]
        rfl
      have hfailed : FaultMode.localFailure.inject >>= self.adapter.codec.classify =
          .ok localFailureResult := rfl
      refine .inr ⟨{ self.adapter with sent := self.adapter.sent ++ [payload] }, by simp, ?_, ?_⟩
      · simp only [hmalformed]
        rfl
      · simp only [hfailed]
        rfl

/-- `_exchange` settles both faults alike. -/
theorem alike_settle (reversal : Py NetworkCorrelation) (history : Py Unit) :
    EqualButError
      (self.settle attempt completedAt ⟨FaultMode.malformedResponse.inject, reversal, history⟩)
      (self.settle attempt completedAt ⟨FaultMode.localFailure.inject, reversal, history⟩) := by
  rcases settle_injected self attempt completedAt reversal history with
    ⟨e, hraised⟩ | ⟨adapter, -, hmalformed, hfailed⟩
  · rw [hraised, hraised]
    exact ⟨rfl, rfl⟩
  · rw [hmalformed, hfailed]
    exact alike_settleFailure _ _ _ _

end Injected

variable [Sub T] [Mul T] [NatCast T]

/-- `exchange` treats both faults alike, also in what it reports and records. -/
theorem alike_exchange (self : AuthorizationNetworkFlow T) (attempt : NetworkAttempt T)
    (completedAt : T) (reversal : Py NetworkCorrelation) (history : Py Unit) :
    EqualButError
      (self.exchange attempt completedAt ⟨FaultMode.malformedResponse.inject, reversal, history⟩)
      (self.exchange attempt completedAt ⟨FaultMode.localFailure.inject, reversal, history⟩) := by
  have halike := alike_settle self attempt completedAt reversal history
  unfold exchange
  generalize self.settle attempt completedAt _ = malformed at halike ⊢
  generalize self.settle attempt completedAt _ = failed at halike ⊢
  obtain ⟨outcome, settled⟩ := malformed
  obtain ⟨outcome', settled'⟩ := failed
  obtain ⟨houtcome, rfl⟩ := halike
  -- The labels do not show the error.
  have hobserved : (fun telemetry : NetworkTelemetry =>
      telemetry.observeExchange attempt.route outcome) =
        fun telemetry => telemetry.observeExchange attempt.route outcome' :=
    funext fun telemetry => observeExchange_withoutError telemetry attempt.route houtcome
  simp only [hobserved]
  cases outcome with
  | error e =>
    cases outcome' with
    | error e' => exact ⟨houtcome, rfl⟩
    | ok result' => cases houtcome
  | ok result =>
    cases outcome' with
    | error e' => cases houtcome
    | ok result' =>
      -- The record is made of the fields that the two results share.
      have hresults : result.withoutError = result'.withoutError := Except.ok.inj houtcome
      obtain ⟨-, htransport, hdisposition, hunknown, hreversal, -⟩ :=
        NetworkFlowResult.mk.inj hresults
      simp only [htransport, hdisposition, hunknown, hreversal]
      split
      · exact ⟨rfl, rfl⟩
      · exact ⟨houtcome, rfl⟩

/-- A flow cannot tell an injected malformed response from an injected local failure: in any state,
for any attempt and at any time, `exchange` returns or raises the same but for the text of the
error, and leaves the same coordinator, registry, telemetry and history. So when it returns after a
malformed response, whose request was handed to the transport, delivery is reported as known, no
reversal is planned, and the correlation is free for another start. -/
theorem exchange_malformed (self : AuthorizationNetworkFlow T) (attempt : NetworkAttempt T)
    (completedAt : T) (reversal : Py NetworkCorrelation) (history : Py Unit) :
    let malformed := self.exchange attempt completedAt
      ⟨FaultMode.malformedResponse.inject, reversal, history⟩
    EqualButError malformed
      (self.exchange attempt completedAt ⟨FaultMode.localFailure.inject, reversal, history⟩) ∧
    ∀ result, malformed.1 = .ok result →
      result = {
        route := attempt.route
        transportOutcome := .failure
        disposition := none
        deliveryUnknown := false
        error := malformedResult.error } ∧
      malformed.2.adapter.sent.length = self.adapter.sent.length + 1 ∧
      malformed.2.reversals = self.reversals ∧
      ∃ key, correlationKey attempt.request = .ok key ∧ key ∈ self.coordinator.pending ∧
        malformed.2.coordinator =
          { self.coordinator with pending := self.coordinator.pending.erase key } := by
  intro malformed
  refine ⟨alike_exchange self attempt completedAt reversal history, fun result hresult => ?_⟩
  have hexchange : self.exchange attempt completedAt
      ⟨FaultMode.malformedResponse.inject, reversal, history⟩ = (malformed.1, malformed.2) := rfl
  obtain ⟨settledOutcome, settled, hsettle, hcore, hreturns⟩ := exchange_spec hexchange
  obtain ⟨hsettled, -⟩ := (hreturns result).mp hresult
  rw [hcore.adapter, hcore.reversals, hcore.coordinator]
  -- The result is that of a failure, whose attempt is cancelled if it is pending.
  rcases settle_injected self attempt completedAt reversal history with
    ⟨e, hraised⟩ | ⟨adapter, hsent, hmalformed, -⟩
  · rw [hraised] at hsettle
    cases hsettle
    cases hsettled
  · rw [hmalformed, hsettled] at hsettle
    unfold settleFailure NetworkTransactionCoordinator.cancel at hsettle
    cases hkey : correlationKey attempt.request with
    | error e =>
      simp only [hkey] at hsettle
      cases hsettle
    | ok key =>
      simp only [hkey] at hsettle
      by_cases hpending : key ∈ self.coordinator.pending
      · simp only [hpending, decide_true] at hsettle
        cases hsettle
        exact ⟨rfl, hsent, rfl, key, rfl, hpending, rfl⟩
      · simp only [hpending, decide_false] at hsettle
        cases hsettle

end AuthorizationNetworkFlow

end AtlasPay
