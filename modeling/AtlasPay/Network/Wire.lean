import AtlasPay.Network.Responses
import AtlasPay.Network.Sending

/-!
# What the issuer reads

`start` is given a canonical request with the message for it, and compares no more of the two than
their correlations. In every run of a flow the transport is handed the bytes of what was exchanged,
in the order of the calls, and nothing else (`sent_of_run`). Who decodes them reads the message with
which the attempt was started: its correlation is that of the canonical request, and where the
message is the one that `authorization_to_iso8583` makes, what is read is the canonical request
(`conveys_of_run`).
-/

namespace AtlasPay

/-- Equal messages have the same key. -/
theorem correlationKey_congr {message message' : ISO8583Message} {key : NetworkCorrelation}
    (h : correlationKey message = .ok key) (hsame : message'.Same message) :
    correlationKey message' = .ok key := by
  obtain ⟨-, hlookup⟩ := hsame
  obtain ⟨hstan, hrrn⟩ := correlationKey_eq_ok.mp h
  exact correlationKey_eq_ok.mpr ⟨(hlookup 11).trans hstan, (hlookup 37).trans hrrn⟩

namespace AuthorizationNetworkFlow

variable {T : Type} [LinearOrder T] [Zero T]

/-- What a call hands to the transport: the bytes of the request that it exchanges, if it has an
encoding. -/
def handsOver (codec : ISO8583Codec) : Event T → Option Bytes
  | .exchange attempt _ _ _ => (codec.encode attempt.request).toOption
  | _ => none

/-- What the transport was handed in a run, and what the issuer reads from it. -/
structure Session.Conveys (session : Session T) (log : List (Event T)) : Prop where
  /-- The requests that were exchanged are handed over as bytes, in the order of the calls. -/
  sent : session.flow.adapter.sent = log.filterMap (handsOver session.flow.adapter.codec)
  /-- They were started for a canonical request. -/
  started : ∀ attempt ∈ log.filterMap exchanged, ∃ canonical now timeoutSeconds,
    .start canonical attempt.request now timeoutSeconds (.ok attempt) ∈ log
  /-- What is read has the correlation of each canonical request for which the attempt was started,
  and is this request if the message was made from it. -/
  read : ∀ canonical request now timeoutSeconds attempt payload,
    .start canonical request now timeoutSeconds (.ok attempt) ∈ log →
    session.flow.adapter.codec.encode attempt.request = .ok payload →
      ∃ decoded, session.flow.adapter.codec.decode payload = .ok decoded ∧
        decoded.Same request ∧ correlationKey decoded = .ok canonical.correlation ∧
        (authorizationToIso8583 canonical = .ok request →
          authorizationFromIso8583 decoded = .ok canonical)

/-- What the log says of the attempts: `start` returned them, for requests with the correlation of
the canonical one. -/
structure Session.Started (session : Session T) (log : List (Event T)) : Prop where
  attempts : ∀ attempt ∈ session.attempts, ∃ canonical now timeoutSeconds,
    .start canonical attempt.request now timeoutSeconds (.ok attempt) ∈ log
  correlation : ∀ canonical request now timeoutSeconds attempt,
    .start canonical request now timeoutSeconds (.ok attempt) ∈ log →
      correlationKey request = .ok canonical.correlation ∧ attempt.request = request

/-! ## One call -/

variable [Add T]

/-- `start` returns an attempt for a request with the correlation of the canonical one only. -/
theorem correlation_of_start {self self' : AuthorizationNetworkFlow T}
    {canonical : AuthorizationRequest} {request : ISO8583Message} {now timeoutSeconds : T}
    {attempt : NetworkAttempt T}
    (h : self.start canonical request now timeoutSeconds = (.ok attempt, self')) :
    correlationKey request = .ok canonical.correlation ∧ attempt.request = request := by
  have hrequest : attempt.request = request := by
    rcases start_spec h with ⟨e, houtcome, -⟩ | ⟨attempt', _, houtcome, -, -, hrequest, -⟩
    · cases houtcome
    · cases houtcome
      exact hrequest
  refine ⟨?_, hrequest⟩
  unfold start at h
  split at h
  · cases h
  · next wireCorrelation hkey =>
    -- The comparison comes before the route and the registration.
    split at h
    · cases h
    · next hcorrelation =>
      rw [hkey, not_not.mp hcorrelation]

variable [Sub T] [Mul T] [NatCast T]

/-- A call leaves the adapter as it was, but for what it hands to the transport. -/
theorem adapter_step {session session' : Session T} {event : Event T} (hwf : session.WellFormed)
    (hstep : (lts T).step session event session') :
    session'.flow.adapter = { session.flow.adapter with
      sent := session.flow.adapter.sent ++
        (handsOver session.flow.adapter.codec event).toList } := by
  cases event with
  | start canonical request now timeoutSeconds outcome =>
    obtain ⟨hstart, -⟩ := hstep
    rcases start_spec hstart with ⟨e, -, hflow⟩ | ⟨attempt, coordinator, -, hflow, -⟩
    · simp [hflow, handsOver]
    · simp [hflow, handsOver]
  | exchange attempt completedAt answers outcome =>
    obtain ⟨hmem, hexchange, -⟩ := hstep
    obtain ⟨settledOutcome, settled, hsettle, hsame, -⟩ := exchange_spec hexchange
    obtain ⟨result, hadapter⟩ := adapter_settle hsettle
    have hpositive := hwf.timeoutSeconds attempt hmem
    rw [hsame.adapter]
    generalize settled.adapter = adapter at hadapter
    cases ISO8583NetworkAdapter.exchange_spec hadapter with
    | invalid hle _ => exact absurd hle (not_le.mpr hpositive)
    | unencodable hencode => simp [handsOver, hencode, Except.toOption]
    | unanswered hencode _ | answered hencode _ _ => simp [handsOver, hencode, Except.toOption]
  | lateResponse attempt response now answers outcome =>
    obtain ⟨-, hlate, -⟩ := hstep
    obtain ⟨handled, coordinator, -, hsame⟩ := handleLateResponse_spec hlate
    simp [hsame.adapter, handsOver]

/-! ## Runs -/

/-- In every run the transport is handed the bytes of what was exchanged. -/
theorem sent_of_run {log : List (Event T)} {session : Session T} (h : (lts T).Run log session) :
    session.flow.adapter.sent = log.filterMap (handsOver session.flow.adapter.codec) := by
  refine Lts.Run.log_invariant (P := fun log session =>
    session.flow.adapter.sent = log.filterMap (handsOver session.flow.adapter.codec)) ?_ ?_ h
  · rintro _ ⟨router, codec, observed, recorded, rfl⟩
    rfl
  · rintro log session event session' hrun ih hstep
    rw [adapter_step (wellFormed_of_run hrun) hstep, List.filterMap_append, ← ih]
    cases hevent : handsOver session.flow.adapter.codec event <;> simp [hevent]

/-- In every run the attempts are those that `start` returned. -/
theorem started_of_run {log : List (Event T)} {session : Session T} (h : (lts T).Run log session) :
    session.Started log := by
  refine Lts.Run.log_invariant (P := fun log session => Session.Started session log) ?_ ?_ h
  · rintro _ ⟨router, codec, observed, recorded, rfl⟩
    exact ⟨by simp, by simp⟩
  · rintro log session event session' - ⟨hstarted, hcorrelated⟩ hstep
    -- An attempt that was started stays so.
    have hkept : ∀ attempt ∈ session.attempts, ∃ canonical now timeoutSeconds,
        .start canonical attempt.request now timeoutSeconds (.ok attempt) ∈ log ++ [event] := by
      intro attempt hattempt
      obtain ⟨canonical, now, timeoutSeconds, hmem⟩ := hstarted attempt hattempt
      exact ⟨canonical, now, timeoutSeconds, List.mem_append_left _ hmem⟩
    cases event with
    | start canonical request now timeoutSeconds outcome =>
      obtain ⟨hstart, hattempts⟩ := hstep
      refine ⟨?_, ?_⟩
      · rw [hattempts]
        cases outcome with
        | error e => exact hkept
        | ok attempt =>
          intro attempt' hattempt'
          rcases List.mem_append.mp hattempt' with hattempt' | hattempt'
          · exact hkept attempt' hattempt'
          · obtain rfl := List.mem_singleton.mp hattempt'
            rw [(correlation_of_start hstart).2]
            exact ⟨canonical, now, timeoutSeconds,
              List.mem_append_right _ (List.mem_singleton_self _)⟩
      · intro canonical' request' now' timeoutSeconds' attempt' hmem
        rcases List.mem_append.mp hmem with hmem | hmem
        · exact hcorrelated _ _ _ _ _ hmem
        · cases List.mem_singleton.mp hmem
          exact correlation_of_start hstart
    | exchange attempt completedAt answers outcome =>
      obtain ⟨-, -, hattempts⟩ := hstep
      -- This starts nothing.
      refine ⟨hattempts ▸ hkept, ?_⟩
      intro canonical request now timeoutSeconds attempt' hmem
      exact hcorrelated canonical request now timeoutSeconds attempt' (by simpa using hmem)
    | lateResponse attempt response now answers outcome =>
      obtain ⟨-, -, hattempts⟩ := hstep
      refine ⟨hattempts ▸ hkept, ?_⟩
      intro canonical request now' timeoutSeconds attempt' hmem
      exact hcorrelated canonical request now' timeoutSeconds attempt' (by simpa using hmem)

/-- In every run of a flow, the transport is handed exactly the requests that were exchanged, and
the issuer reads from each the canonical request for which it was started, or at least its
correlation if the message was not made from it. -/
theorem conveys_of_run {log : List (Event T)} {session : Session T}
    (h : (lts T).Run log session) : session.Conveys log := by
  obtain ⟨hstarted, hcorrelated⟩ := started_of_run h
  refine ⟨sent_of_run h, ?_, ?_⟩
  · intro attempt hattempt
    exact hstarted attempt ((accounts_of_run h).started attempt hattempt)
  · intro canonical request now timeoutSeconds attempt payload hstart hencode
    obtain ⟨hkey, rfl⟩ := hcorrelated _ _ _ _ _ hstart
    obtain ⟨elements, hdecode, hsorted, hperm⟩ := ISO8583Codec.decode_of_encode hencode
    have hsame := ISO8583Codec.same_insertAll hsorted hperm
    refine ⟨_, hdecode, hsame, correlationKey_congr hkey hsame, fun hto => ?_⟩
    have hrepresents := (represents_of_authorizationToIso8583 hto).congr hsame
    exact authorizationFromIso8583_eq_ok.mpr hrepresents

/-- The message of the canonical request of the tests. -/
def purchaseRequest : ISO8583Message :=
  ⟨"0200", fieldsOf [(2, .text "4111111111111111"), (3, .text "000000"),
    (4, .text "000000012500"), (11, .text "123456"), (37, .text "ABC123456789"),
    (41, .text "TERM0001"), (42, .text "MERCHANT0000001"), (49, .text "504")]⟩

/-- An authorization is started, exchanged, and read by the issuer although the exchange times
out. -/
theorem conveys_authorization :
    ∃ (log : List (Event ℤ)) (session : Session ℤ) (payload : Bytes) (decoded : ISO8583Message),
      (lts ℤ).Run log session ∧ session.flow.adapter.sent = [payload] ∧
      defaultCodec.decode payload = .ok decoded ∧
      authorizationFromIso8583 decoded = .ok (sampleCanonical sampleCorrelation) := by
  let attempt : NetworkAttempt ℤ := ⟨sampleRoute, purchaseRequest, sampleCorrelation, 0, 5, 5⟩
  let answers := timesOutWith (.ok sampleReversal)
  let started := sampleFlow.start (sampleCanonical sampleCorrelation) purchaseRequest 0 5
  let exchanged := started.2.exchange attempt 5 answers
  have hto : authorizationToIso8583 (sampleCanonical sampleCorrelation) = .ok purchaseRequest :=
    rfl
  have hstart : (lts ℤ).step ⟨sampleFlow, []⟩
      (.start (sampleCanonical sampleCorrelation) purchaseRequest 0 5 (.ok attempt))
      ⟨started.2, [attempt]⟩ := ⟨rfl, rfl⟩
  have hexchange : (lts ℤ).step ⟨started.2, [attempt]⟩ (.exchange attempt 5 answers exchanged.1)
      ⟨exchanged.2, [attempt]⟩ := ⟨List.mem_singleton_self _, rfl, rfl⟩
  have hrunStart : (lts ℤ).Run _ ⟨started.2, [attempt]⟩ :=
    ⟨⟨sampleFlow, []⟩, ⟨_, _, _, _, rfl⟩, .cons hstart (.nil _)⟩
  have hrun := Lts.run_concat_iff.mpr ⟨_, hrunStart, hexchange⟩
  obtain ⟨payload, hencode⟩ : ∃ payload, defaultCodec.encode purchaseRequest = .ok payload :=
    ⟨_, rfl⟩
  have hstarted : started.2.adapter = ⟨defaultCodec, []⟩ := rfl
  -- The bytes follow from the call, without computing it.
  have hadapter : exchanged.2.adapter = ⟨defaultCodec, [payload]⟩ := by
    have hstep := adapter_step (wellFormed_of_run hrunStart) hexchange
    simp only [hstarted, handsOver] at hstep
    rw [hstep, hencode]
    rfl
  obtain ⟨decoded, hdecode, -, -, hread⟩ :=
    (conveys_of_run hrun).read _ _ _ _ attempt payload List.mem_cons_self (by rwa [hadapter])
  rw [hadapter] at hdecode
  exact ⟨_, _, payload, decoded, hrun, congrArg _ hadapter, hdecode, hread hto⟩

end AuthorizationNetworkFlow

end AtlasPay
