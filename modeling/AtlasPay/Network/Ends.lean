import AtlasPay.Network.Expiry
import AtlasPay.Network.FlowRuns

/-!
# How an exchange ends

What the transport answers decides which of its three ends `_exchange` takes, if any: a failure, a
timeout or a response (`settle_ends`). What happens at each end then depends on the coordinator and
the registry alone.
-/

namespace AtlasPay

/-- Only a response has a payload. -/
theorem TransportExchange.outcome_of_payload {exchange : TransportExchange} {payload : Bytes}
    (h : exchange.responsePayload = some payload) : exchange.outcome = .response := by
  cases houtcome : exchange.outcome with
  | response => rfl
  | timeout => simp [(exchange.timeout_valid houtcome).1] at h
  | failure => simp [(exchange.failure_valid houtcome).1] at h

namespace AuthorizationNetworkFlow

variable {T : Type} [LinearOrder T] [Zero T]

section Answers

variable (self : AuthorizationNetworkFlow T) (attempt : NetworkAttempt T) (answers : Answers)

/-- The request of the attempt can be handed to the transport. -/
def Encodes : Prop := ∃ payload, self.adapter.codec.encode attempt.request = .ok payload

/-- The transport reports a failure, or answers with bytes that the codec rejects. -/
def Fails : Prop :=
  self.Encodes attempt ∧ ∃ exchange, answers.transport = .ok exchange ∧
    (exchange.outcome = .failure ∨ self.adapter.codec.Rejects exchange)

/-- The transport reports a timeout. -/
def TimesOut : Prop :=
  self.Encodes attempt ∧ ∃ exchange, answers.transport = .ok exchange ∧ exchange.outcome = .timeout

/-- The transport answers with bytes that decode to the response. -/
def Responds (response : ISO8583Message) : Prop :=
  self.Encodes attempt ∧ ∃ exchange payload, answers.transport = .ok exchange ∧
    exchange.responsePayload = some payload ∧ self.adapter.codec.decode payload = .ok response

end Answers

variable {self : AuthorizationNetworkFlow T} {attempt : NetworkAttempt T} {completedAt : T}
  {answers : Answers}

/-- A failure is no timeout. -/
theorem Fails.not_timesOut (h : self.Fails attempt answers) : ¬self.TimesOut attempt answers := by
  rintro ⟨-, exchange, hanswer, htimeout⟩
  obtain ⟨-, exchange', hanswer', hfails⟩ := h
  cases hanswer.symm.trans hanswer'
  rcases hfails with hfailure | ⟨hresponse, -⟩
  · exact absurd (htimeout.symm.trans hfailure) (by decide)
  · exact absurd (htimeout.symm.trans hresponse) (by decide)

/-- A failure is no response. -/
theorem Fails.not_responds (h : self.Fails attempt answers) (response : ISO8583Message) :
    ¬self.Responds attempt answers response := by
  rintro ⟨-, exchange, payload, hanswer, hpayload, hdecode⟩
  obtain ⟨-, exchange', hanswer', hfails⟩ := h
  cases hanswer.symm.trans hanswer'
  rcases hfails with hfailure | ⟨-, payload', message, hpayload', hrejects⟩
  · exact absurd ((TransportExchange.outcome_of_payload hpayload).symm.trans hfailure) (by decide)
  · cases hpayload.symm.trans hpayload'
    cases hdecode.symm.trans hrejects

/-- A timeout is no response. -/
theorem TimesOut.not_responds (h : self.TimesOut attempt answers) (response : ISO8583Message) :
    ¬self.Responds attempt answers response := by
  rintro ⟨-, exchange, payload, hanswer, hpayload, -⟩
  obtain ⟨-, exchange', hanswer', htimeout⟩ := h
  cases hanswer.symm.trans hanswer'
  exact absurd ((TransportExchange.outcome_of_payload hpayload).symm.trans htimeout) (by decide)

/-- There is one response. -/
theorem Responds.eq {response response' : ISO8583Message}
    (h : self.Responds attempt answers response) (h' : self.Responds attempt answers response') :
    response = response' := by
  obtain ⟨-, exchange, payload, hanswer, hpayload, hdecode⟩ := h
  obtain ⟨-, exchange', payload', hanswer', hpayload', hdecode'⟩ := h'
  cases hanswer.symm.trans hanswer'
  cases hpayload.symm.trans hpayload'
  cases hdecode.symm.trans hdecode'
  rfl

/-- Which end `_exchange` takes. -/
inductive Ends (self : AuthorizationNetworkFlow T) (attempt : NetworkAttempt T) (completedAt : T)
    (answers : Answers) : Py NetworkFlowResult × AuthorizationNetworkFlow T → Prop where
  | raised (hfails : ¬self.Fails attempt answers) (htimesOut : ¬self.TimesOut attempt answers)
      (hresponds : ∀ response, ¬self.Responds attempt answers response) (e : PyError)
      (adapter : ISO8583NetworkAdapter) :
      Ends self attempt completedAt answers (.error e, { self with adapter })
  | failure (hfails : self.Fails attempt answers) (adapter : ISO8583NetworkAdapter)
      (result : ISO8583ExchangeResult) :
      Ends self attempt completedAt answers ({ self with adapter }.settleFailure attempt result)
  | timeout (htimesOut : self.TimesOut attempt answers) (adapter : ISO8583NetworkAdapter)
      (result : ISO8583ExchangeResult) :
      Ends self attempt completedAt answers
        ({ self with adapter }.settleTimeout attempt completedAt answers.reversal result)
  | response {response : ISO8583Message} (hresponds : self.Responds attempt answers response)
      (adapter : ISO8583NetworkAdapter) :
      Ends self attempt completedAt answers
        ({ self with adapter }.settleResponse attempt completedAt response)

variable (self completedAt answers) in
/-- `_exchange` takes the end that the transport's answer asks for. -/
theorem settle_ends (htimeoutSeconds : 0 < attempt.timeoutSeconds) :
    self.Ends attempt completedAt answers (self.settle attempt completedAt answers) := by
  unfold settle
  cases hencode : self.adapter.codec.encode attempt.request with
  | error e =>
    have hnot : ¬self.Encodes attempt := by
      rintro ⟨payload, hok⟩
      rw [hencode] at hok
      cases hok
    -- The encoder raises before anything is sent, so the answer of the transport is never asked
    -- for.
    have hadapter : self.adapter.exchange answers.transport attempt.request
        attempt.timeoutSeconds = (.error e, self.adapter) := by
      unfold ISO8583NetworkAdapter.exchange
      rw [if_neg (not_le.mpr htimeoutSeconds), hencode]
      rfl
    rw [hadapter]
    exact .raised (fun h => hnot h.1) (fun h => hnot h.1) (fun _ h => hnot h.1) _ _
  | ok payload =>
    have hencodes : self.Encodes attempt := ⟨payload, hencode⟩
    rw [ISO8583NetworkAdapter.exchange_of_encode _ htimeoutSeconds hencode]
    cases hanswer : answers.transport with
    | error e =>
      refine .raised ?_ ?_ ?_ _ _
      · rintro ⟨-, exchange, hok, -⟩
        cases hanswer.symm.trans hok
      · rintro ⟨-, exchange, hok, -⟩
        cases hanswer.symm.trans hok
      · rintro response ⟨-, exchange, payload, hok, -⟩
        cases hanswer.symm.trans hok
    | ok exchange =>
      simp only [bind, Except.bind]
      unfold ISO8583Codec.classify
      cases houtcome : exchange.outcome with
      | timeout => exact .timeout ⟨hencodes, exchange, hanswer, houtcome⟩ _ _
      | failure => exact .failure ⟨hencodes, exchange, hanswer, Or.inl houtcome⟩ _ _
      | response =>
        cases hpayload : exchange.responsePayload with
        | none => exact absurd hpayload (exchange.response_valid houtcome).1
        | some raw =>
          cases hdecode : self.adapter.codec.decode raw with
          | ok response =>
            simp only [hdecode]
            exact .response ⟨hencodes, exchange, raw, hanswer, hpayload, hdecode⟩ _
          | error e =>
            -- Only a codec error is taken as a failure of the exchange; `classify` lets the others
            -- through.
            have hraised : (∀ message, e ≠ .iso8583CodecError message) →
                ∀ adapter : ISO8583NetworkAdapter,
                  self.Ends attempt completedAt answers (.error e, { self with adapter }) := by
              intro hne adapter
              refine .raised ?_ ?_ ?_ e adapter
              · rintro ⟨-, exchange', hok, hfails⟩
                cases hanswer.symm.trans hok
                rcases hfails with hfailure | ⟨-, raw', message, hraw', hrejects⟩
                · exact absurd (houtcome.symm.trans hfailure) (by decide)
                · cases hpayload.symm.trans hraw'
                  exact hne message (Except.error.inj (hdecode.symm.trans hrejects))
              · rintro ⟨-, exchange', hok, htimeout⟩
                cases hanswer.symm.trans hok
                exact absurd (houtcome.symm.trans htimeout) (by decide)
              · rintro response ⟨-, exchange', raw', hok, hraw', hok'⟩
                cases hanswer.symm.trans hok
                cases hpayload.symm.trans hraw'
                cases hdecode.symm.trans hok'
            simp only [hdecode]
            cases e with
            | iso8583CodecError message =>
              exact .failure ⟨hencodes, exchange, hanswer,
                Or.inr ⟨houtcome, raw, message, hpayload, hdecode⟩⟩ _ _
            | _ => exact hraised nofun _

/-! ## The three ends -/

/-- What `_exchange` returns after a response. -/
def responseResult (attempt : NetworkAttempt T) (disposition : TransactionDisposition) :
    NetworkFlowResult where
  route := attempt.route
  transportOutcome := .response
  disposition := some disposition
  deliveryUnknown := false

section Ends

variable (self) (result : ISO8583ExchangeResult) {response : ISO8583Message}
  {coordinator swept : NetworkTransactionCoordinator T}

/-- A failure cancels a pending attempt. -/
theorem settleFailure_of_pending (hkey : correlationKey attempt.request = .ok attempt.correlation)
    (hpending : attempt.correlation ∈ self.coordinator.pending) :
    ∃ flowResult, self.settleFailure attempt result = (.ok flowResult, { self with
      coordinator := { self.coordinator with
        pending := self.coordinator.pending.erase attempt.correlation } }) := by
  simp only [settleFailure, NetworkTransactionCoordinator.cancel, hkey, decide_eq_true hpending]
  exact ⟨_, rfl⟩

/-- A failure raises for an attempt that is not pending, and changes nothing. -/
theorem settleFailure_of_not_pending
    (hkey : correlationKey attempt.request = .ok attempt.correlation)
    (hnot : attempt.correlation ∉ self.coordinator.pending) :
    ∃ e, self.settleFailure attempt result = (.error e, self) := by
  -- `cancel` pops from the pending ones before it is known whether there was anything to pop.
  have herase : self.coordinator.pending.erase attempt.correlation = self.coordinator.pending :=
    AList.ext (List.kerase_of_notMem_keys hnot)
  simp only [settleFailure, NetworkTransactionCoordinator.cancel, hkey, decide_eq_false hnot,
    herase]
  exact ⟨_, rfl⟩

/-- A timeout before the deadline raises and changes nothing. -/
theorem settleTimeout_of_early (hearly : completedAt < attempt.deadline)
    (reversal : Py NetworkCorrelation) :
    ∃ e, self.settleTimeout attempt completedAt reversal result = (.error e, self) := by
  simp only [settleTimeout, if_pos hearly]
  exact ⟨_, rfl⟩

/-- A timeout raises when the sweep does. -/
theorem settleTimeout_of_raised {e : PyError} (hdue : attempt.deadline ≤ completedAt)
    (hexpire : self.coordinator.expire completedAt = (.error e, coordinator))
    (reversal : Py NetworkCorrelation) :
    ∃ e, self.settleTimeout attempt completedAt reversal result =
      (.error e, { self with coordinator }) := by
  simp only [settleTimeout, if_neg (not_lt.mpr hdue), hexpire]
  exact ⟨_, rfl⟩

/-- A timeout raises when the sweep does not find the attempt. -/
theorem settleTimeout_of_unswept {expired : List NetworkCorrelation}
    (hdue : attempt.deadline ≤ completedAt)
    (hexpire : self.coordinator.expire completedAt = (.ok expired, swept))
    (hnot : attempt.correlation ∉ expired) (reversal : Py NetworkCorrelation) :
    ∃ e, self.settleTimeout attempt completedAt reversal result =
      (.error e, { self with coordinator := swept }) := by
  simp only [settleTimeout, if_neg (not_lt.mpr hdue), hexpire, if_pos hnot]
  exact ⟨_, rfl⟩

/-- A timeout raises when the provider of reversals does. -/
theorem settleTimeout_of_unplanned {expired : List NetworkCorrelation}
    (hdue : attempt.deadline ≤ completedAt)
    (hexpire : self.coordinator.expire completedAt = (.ok expired, swept))
    (hmem : attempt.correlation ∈ expired) (e : PyError) :
    ∃ e', self.settleTimeout attempt completedAt (.error e) result =
      (.error e', { self with coordinator := swept }) := by
  simp only [settleTimeout, if_neg (not_lt.mpr hdue), hexpire, if_neg (not_not.mpr hmem)]
  exact ⟨_, rfl⟩

/-- A timeout raises when the link cannot be made. -/
theorem settleTimeout_of_unlinked {expired : List NetworkCorrelation} {e : PyError}
    {reversal : NetworkCorrelation} {reversals : ReversalRegistry}
    (hdue : attempt.deadline ≤ completedAt)
    (hexpire : self.coordinator.expire completedAt = (.ok expired, swept))
    (hmem : attempt.correlation ∈ expired)
    (hlink : self.reversals.link attempt.correlation reversal .timeout = (.error e, reversals)) :
    ∃ e', self.settleTimeout attempt completedAt (.ok reversal) result =
      (.error e', { self with
        coordinator := swept, reversals, issued := self.issued ++ [reversal] }) := by
  simp only [settleTimeout, if_neg (not_lt.mpr hdue), hexpire, if_neg (not_not.mpr hmem), hlink]
  exact ⟨_, rfl⟩

/-- A timeout that is planned returns. -/
theorem settleTimeout_of_linked {expired : List NetworkCorrelation} {link : ReversalLink}
    {reversal : NetworkCorrelation} {reversals : ReversalRegistry}
    (hdue : attempt.deadline ≤ completedAt)
    (hexpire : self.coordinator.expire completedAt = (.ok expired, swept))
    (hmem : attempt.correlation ∈ expired)
    (hlink : self.reversals.link attempt.correlation reversal .timeout = (.ok link, reversals)) :
    ∃ flowResult, self.settleTimeout attempt completedAt (.ok reversal) result =
        (.ok flowResult, { self with
          coordinator := swept, reversals, issued := self.issued ++ [reversal] }) ∧
      flowResult.disposition = some .timedOut ∧ flowResult.deliveryUnknown = true := by
  simp only [settleTimeout, if_neg (not_lt.mpr hdue), hexpire, if_neg (not_not.mpr hmem), hlink]
  exact ⟨_, rfl, rfl, rfl⟩

/-- A response before the deadline is handled. -/
theorem settleResponse_of_early {handled : Py TransactionDisposition}
    (hearly : completedAt < attempt.deadline)
    (hhandle : self.coordinator.handleResponse attempt.request response completedAt =
      (handled, coordinator)) :
    self.settleResponse attempt completedAt response =
      (handled.map (responseResult attempt), { self with coordinator }) := by
  simp only [settleResponse, if_neg (not_le.mpr hearly), pure, Except.pure, hhandle]
  cases handled <;> rfl

/-- A response at or after the deadline is handled after the sweep. -/
theorem settleResponse_of_swept {expired : List NetworkCorrelation}
    {handled : Py TransactionDisposition} (hdue : attempt.deadline ≤ completedAt)
    (hexpire : self.coordinator.expire completedAt = (.ok expired, swept))
    (hhandle : swept.handleResponse attempt.request response completedAt =
      (handled, coordinator)) :
    self.settleResponse attempt completedAt response =
      (handled.map (responseResult attempt), { self with coordinator }) := by
  simp only [settleResponse, if_pos hdue, hexpire, hhandle]
  cases handled <;> rfl

/-- A response raises when the sweep does. -/
theorem settleResponse_of_raised {e : PyError} (hdue : attempt.deadline ≤ completedAt)
    (hexpire : self.coordinator.expire completedAt = (.error e, coordinator)) :
    self.settleResponse attempt completedAt response =
      (.error e, { self with coordinator }) := by
  simp only [settleResponse, if_pos hdue, hexpire]
  rfl

end Ends

end AuthorizationNetworkFlow

end AtlasPay
