import AtlasPay.Payments.Publishing

/-!
# How often an event is published

The ceiling of attempts is tested when an event is claimed, and an attempt is counted when it has
been recorded. In between, the lease may expire, since the worker is slow or has crashed, and the
event may be claimed again: then the callback is invoked for an attempt that was not counted yet.
`tally` counts such claims along a run, and they are all that the bound on the invocations loses.
The bound on the attempts loses less: since the ceiling was above them at the latest claim, they
pass it only with records that come after the first one since then (`bounded_of_run`).
-/

namespace AtlasPay

open Database

namespace Publishers

/-- What a step is for an event. -/
inductive Touch where
  | claim
  | invoke
  | record
  | reset
  | none
  deriving DecidableEq

/-- What a step is for an event: a claim that returns it, an invocation of the callback for it, an
acknowledgement or a failure that is recorded, or a reset that is done. -/
def touch (eventId : String) : PublisherStep → Touch
  | .claimed _ eventIds => if eventId ∈ eventIds then .claim else .none
  | .invoked _ id => if id = eventId then .invoke else .none
  | .acknowledged _ id done => if done && id = eventId then .record else .none
  | .failed _ id done => if done && id = eventId then .record else .none
  | .reset id done => if done && id = eventId then .reset else .none
  | _ => .none

/-- The account of an event: how often it was claimed and recorded, how often the callback was
invoked for it since its last reset, whether it is claimed and not recorded since, and the slack:
the claims since its last reset that took the event over from another one, and those that had been
taken over before and were not recorded when it was reset. Late are the records since its latest
claim or reset that came when it was not claimed any more. -/
structure Tally where
  claims : ℕ
  records : ℕ
  invocations : ℕ
  held : Bool
  slack : ℕ
  late : ℕ
  deriving DecidableEq

/-- The account after one more step. -/
def Tally.next (t : Tally) : Touch → Tally
  | .claim =>
    { t with claims := t.claims + 1, held := true,
             slack := if t.held then t.slack + 1 else t.slack, late := 0 }
  | .invoke => { t with invocations := t.invocations + 1 }
  | .record =>
    { t with records := t.records + 1, held := false,
             late := if t.held then t.late else t.late + 1 }
  | .reset => { t with invocations := 0, slack := t.claims - t.records - t.held.toNat, late := 0 }
  | .none => t

/-- The account of an event along a log. -/
def tally (eventId : String) (log : List PublisherStep) : Tally :=
  log.foldl (fun t step => t.next (touch eventId step)) ⟨0, 0, 0, false, 0, 0⟩

/-- How often a log has one kind of step for an event. -/
def occurrences (kind : Touch) (eventId : String) (log : List PublisherStep) : ℕ :=
  (log.map fun step => if touch eventId step = kind then 1 else 0).sum

/-- The claims of an event in a batch for which the callback was not invoked yet. -/
def pending (eventId : String) : Batch → ℕ
  | .idle => 0
  | .next events _ => (events.map OutboxEvent.id).count eventId
  | .calling _ rest _ => (rest.map OutboxEvent.id).count eventId
  | .recording _ _ rest _ => (rest.map OutboxEvent.id).count eventId

/-- The callback was invoked for the event in a batch, and this was not recorded yet. -/
def busy (eventId : String) : Batch → ℕ
  | .calling event _ _ => if event.id = eventId then 1 else 0
  | .recording event _ _ _ => if event.id = eventId then 1 else 0
  | _ => 0

variable {hashtext : String → ℤ} {maxAttempts : ℤ} {s s' : Publishers} {step : PublisherStep}
  {log : List PublisherStep} {row row' : OutboxEventRow} {eventId : String}

/-! ## What the workers have in hand -/

/-- One more step of a kind, or none. -/
theorem occurrences_concat (kind : Touch) (eventId : String) (log : List PublisherStep)
    (step : PublisherStep) : occurrences kind eventId (log ++ [step]) =
      occurrences kind eventId log + if touch eventId step = kind then 1 else 0 := by
  unfold occurrences
  rw [List.map_append, List.sum_append, List.map_singleton, List.sum_singleton]

/-- The account after one more step. -/
theorem tally_concat (eventId : String) (log : List PublisherStep) (step : PublisherStep) :
    tally eventId (log ++ [step]) = (tally eventId log).next (touch eventId step) := by
  unfold tally
  rw [List.foldl_concat]

/-- A kind of step for an event, in the part of a worker. -/
def part (kind : Touch) (eventId : String) (worker : ℕ) (step : PublisherStep) : ℕ :=
  if party step = some worker then if touch eventId step = kind then 1 else 0 else 0

/-- What is pending and busy grows by what is claimed and invoked, at most. -/
theorem Happens.handled (h : Happens maxAttempts s step s') (eventId : String) (worker : ℕ) :
    part .invoke eventId worker step + pending eventId (s'.batches worker) ≤
        pending eventId (s.batches worker) + part .claim eventId worker step ∧
      part .record eventId worker step + busy eventId (s'.batches worker) ≤
        busy eventId (s.batches worker) + part .invoke eventId worker step := by
  by_cases hparty : party step = some worker
  swap
  · -- It is not the worker's, whose batch it leaves.
    simp [part, hparty, h.batches_eq hparty]
  cases h with
  | claimed other events now leaseSeconds hidle hattempts hnodup =>
    cases hparty
    -- A batch has each event once.
    by_cases hmem : eventId ∈ events.map OutboxEvent.id
    · simp [part, party, touch, hmem, pending, busy, hidle, List.count_eq_one_of_mem hnodup hmem]
    · simp [part, party, touch, hmem, pending, busy, hidle, List.count_eq_zero_of_not_mem hmem]
  | invoked other event rest count hbatch =>
    cases hparty
    -- An invocation takes the event from what is pending to what is busy, and a record takes it
    -- away.
    by_cases hid : event.id = eventId <;>
      simp [part, party, touch, pending, busy, hbatch, hid, Nat.add_comm]
  | answered other event raised rest count hbatch =>
    cases hparty
    simp [part, party, touch, pending, busy, hbatch]
  | acknowledged other event rest count now hbatch =>
    cases hparty
    by_cases hid : event.id = eventId <;> cases s.database.isUnpublished event.id <;>
      simp [part, party, touch, pending, busy, hbatch, hid]
  | failed other event error stored rest count hbatch =>
    cases hparty
    by_cases hid : event.id = eventId <;> cases s.database.isUnpublished event.id <;>
      simp [part, party, touch, pending, busy, hbatch, hid]
  | finished other count hbatch =>
    cases hparty
    simp [part, party, touch, pending, busy, hbatch]
  | dropped other =>
    cases hparty
    simp [part, party, touch, pending, busy]
  | reset => cases hparty

/-- What the account of an event says of its row. Its claims are recorded, but for the slack, less
the late records, and the one that holds the lease; its attempts are below the ceiling while it is
claimed, and pass it by late records only; they count the records since it was last reset, when it
had been invoked at least as often as it had been recorded. -/
structure Accounted (maxAttempts : ℤ) (log : List PublisherStep) (row : OutboxEventRow) : Prop where
  attempts_nonneg : 0 ≤ row.attempts
  held : (tally row.id log).held = row.lockedAt.isSome
  late_of_held : (tally row.id log).held → (tally row.id log).late = 0
  claims_le : (tally row.id log).late + (tally row.id log).claims ≤
    (tally row.id log).records + (tally row.id log).slack + (tally row.id log).held.toNat
  claimed_le : row.attempts + (tally row.id log).claims ≤
    maxAttempts + (tally row.id log).slack + (tally row.id log).records
  attempts_le : row.attempts + (tally row.id log).held.toNat ≤
    maxAttempts + (tally row.id log).late
  since : ∃ invoked recorded : ℕ, recorded ≤ invoked ∧
    (tally row.id log).invocations + invoked = occurrences .invoke row.id log ∧
    row.attempts + recorded = (tally row.id log).records

/-- What a step is for an event whose row it leaves. -/
theorem touch_of_untouched (h : touches eventId step = false) :
    touch eventId step = .invoke ∨ touch eventId step = .none := by
  cases step with
  | claimed worker eventIds => exact .inr (if_neg (of_decide_eq_false h))
  | invoked worker id =>
    by_cases heq : id = eventId
    · exact .inl (if_pos heq)
    · exact .inr (if_neg heq)
  | acknowledged worker id done =>
    rw [touches] at h
    exact .inr (by rw [touch, h]; rfl)
  | failed worker id done =>
    rw [touches] at h
    exact .inr (by rw [touch, h]; rfl)
  | reset id done =>
    rw [touches] at h
    exact .inr (by rw [touch, h]; rfl)
  | answered => exact .inr rfl
  | finished => exact .inr rfl
  | dropped => exact .inr rfl

/-- The account of a row for which an acknowledgement or a failure is recorded. -/
theorem Accounted.record (h : Accounted maxAttempts log row) (htouch : touch row.id step = .record)
    (hid : row'.id = row.id) (hcounted : row'.attempts = row.attempts + 1)
    (hunlocked : row'.lockedAt = none) : Accounted maxAttempts (log ++ [step]) row' := by
  obtain ⟨hnonneg, hheld, hlate, hclaims, hclaimed, hattempts, invoked, recorded, hle, hinvoked,
    hrecorded⟩ := h
  have hnext : tally row'.id (log ++ [step]) = (tally row.id log).next .record := by
    rw [hid, tally_concat, htouch]
  have hcount : occurrences .invoke row.id (log ++ [step]) = occurrences .invoke row.id log := by
    rw [occurrences_concat, htouch]
    rfl
  generalize tally row.id log = t at *
  refine ⟨by omega, ?_, ?_, ?_, ?_, ?_, invoked, recorded, hle, ?_, ?_⟩ <;> rw [hnext] <;>
    simp only [Tally.next]
  · rw [hunlocked]
    rfl
  · exact nofun
  -- The record releases the lease, or is late.
  · cases hcase : t.held <;> simp only [hcase, Bool.toNat_true, Bool.toNat_false, reduceIte,
      Bool.false_eq_true] at hclaims ⊢ <;> omega
  · push_cast
    omega
  · cases hcase : t.held <;> simp only [hcase, Bool.toNat_true, Bool.toNat_false, reduceIte,
      Bool.false_eq_true] at hattempts ⊢ <;> push_cast at hattempts ⊢ <;> omega
  · rw [hid, hcount]
    exact hinvoked
  · push_cast
    omega

/-- The account of a row that is claimed: the claim holds the lease, or takes it over from another
one, which adds to the slack. -/
theorem Accounted.claim (h : Accounted maxAttempts log row) (htouch : touch row.id step = .claim)
    (hid : row'.id = row.id) (hsame : row'.attempts = row.attempts)
    (hlocked : row'.lockedAt.isSome = true) (hlt : row.attempts < maxAttempts) :
    Accounted maxAttempts (log ++ [step]) row' := by
  obtain ⟨hnonneg, -, -, hclaims, hclaimed, -, invoked, recorded, hle, hinvoked, hrecorded⟩ := h
  have hnext : tally row'.id (log ++ [step]) = (tally row.id log).next .claim := by
    rw [hid, tally_concat, htouch]
  have hcount : occurrences .invoke row.id (log ++ [step]) = occurrences .invoke row.id log := by
    rw [occurrences_concat, htouch]
    rfl
  generalize tally row.id log = t at *
  refine ⟨hsame ▸ hnonneg, ?_, ?_, ?_, ?_, ?_, invoked, recorded, hle, ?_, ?_⟩ <;> rw [hnext] <;>
    simp only [Tally.next]
  · exact hlocked.symm
  · exact fun _ => trivial
  · cases hcase : t.held <;> simp [hcase] at hclaims ⊢ <;> omega
  · cases hcase : t.held <;> simp [hcase] at hclaims ⊢ <;> omega
  -- Where it is claimed, the ceiling is above the attempts.
  · rw [Bool.toNat_true, hsame]
    push_cast
    omega
  · rw [hid, hcount]
    exact hinvoked
  · rw [hsame]
    exact hrecorded

/-- The account of a row that is reset: what was claimed and not recorded becomes the slack, but for
the claim that holds the lease. -/
theorem Accounted.reset (h : Accounted maxAttempts log row) (htouch : touch row.id step = .reset)
    (hid : row'.id = row.id) (hzero : row'.attempts = 0) (hsame : row'.lockedAt = row.lockedAt)
    (hpositive : 0 < maxAttempts)
    (hrecords : (tally row.id log).records ≤ occurrences .invoke row.id log) :
    Accounted maxAttempts (log ++ [step]) row' := by
  obtain ⟨-, hheld, -, hclaims, hclaimed, -, -⟩ := h
  have hnext : tally row'.id (log ++ [step]) = (tally row.id log).next .reset := by
    rw [hid, tally_concat, htouch]
  have hcount : occurrences .invoke row.id (log ++ [step]) = occurrences .invoke row.id log := by
    rw [occurrences_concat, htouch]
    rfl
  generalize tally row.id log = t at *
  have hheldLe := Bool.toNat_le t.held
  refine ⟨hzero.ge, ?_, ?_, ?_, ?_, ?_, occurrences .invoke row.id log, t.records, hrecords, ?_,
    ?_⟩ <;> rw [hnext] <;> simp only [Tally.next, hzero]
  · rw [hsame]
    exact hheld
  · exact fun _ => trivial
  · omega
  · omega
  · push_cast
    omega
  · rw [hid, hcount, Nat.zero_add]
  · rw [zero_add]

/-- The account of a row that a step leaves. -/
theorem Accounted.stays (h : Accounted maxAttempts log row) (hstays : touches row.id step = false) :
    Accounted maxAttempts (log ++ [step]) row := by
  obtain ⟨hnonneg, hheld, hlate, hclaims, hclaimed, hattempts, invoked, recorded, hle, hinvoked,
    hrecorded⟩ := h
  -- At most an invocation is counted.
  obtain ⟨n, hnext, hcount⟩ : ∃ n,
      tally row.id (log ++ [step]) =
        { tally row.id log with invocations := (tally row.id log).invocations + n } ∧
      occurrences .invoke row.id (log ++ [step]) = occurrences .invoke row.id log + n := by
    rcases touch_of_untouched hstays with htouch | htouch
    · exact ⟨1, by rw [tally_concat, htouch]; rfl, by rw [occurrences_concat, htouch]; rfl⟩
    · exact ⟨0, by rw [tally_concat, htouch]; rfl, by rw [occurrences_concat, htouch]; rfl⟩
  refine ⟨hnonneg, ?_, ?_, ?_, ?_, ?_, invoked, recorded, hle, ?_, ?_⟩ <;> rw [hnext]
  · exact hheld
  · exact hlate
  · exact hclaims
  · exact hclaimed
  · exact hattempts
  · rw [hcount, ← hinvoked]
    exact Nat.add_right_comm _ n invoked
  · exact hrecorded

/-- The account of a row is kept by what a step does to it. -/
theorem Accounted.concat (h : Accounted maxAttempts log row)
    (hmoves : RowMoves maxAttempts row step row') (hpositive : 0 < maxAttempts)
    (hrecords : (tally row.id log).records ≤ occurrences .invoke row.id log) :
    Accounted maxAttempts (log ++ [step]) row' := by
  cases hmoves with
  | claimed worker eventIds now leaseSeconds hmem hmay =>
    have htouch : touch row.id (.claimed worker eventIds) = .claim := if_pos hmem
    exact h.claim htouch rfl rfl rfl (claimable_iff.mp hmay).2.1
  | acknowledged worker now hunpublished =>
    have htouch : touch row.id (.acknowledged worker row.id true) = .record := by simp [touch]
    exact h.record htouch rfl rfl rfl
  | failed worker error hunpublished =>
    have htouch : touch row.id (.failed worker row.id true) = .record := by simp [touch]
    exact h.record htouch rfl rfl rfl
  | reset hunpublished =>
    have htouch : touch row.id (.reset row.id true) = .reset := by simp [touch]
    exact h.reset htouch rfl rfl rfl hpositive hrecords
  | stays step huntouched => exact h.stays huntouched

/-! ## Runs -/

end Publishers

end AtlasPay
