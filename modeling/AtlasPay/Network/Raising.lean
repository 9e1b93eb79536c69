import AtlasPay.Network.Ends
import AtlasPay.Network.Sending

/-!
# What a call leaves when it raises

`exchange` undoes nothing. What it does before it raises depends on the end that it takes: a failure
cancels its attempt, a timeout sweeps before the reversal is planned, a response may follow a sweep
and moves its own transaction, and the history is written last. `Strands` lists the calls that raise
after such a change; every other call that raises leaves the coordinator and the registry as they
were (`unchanged_iff`).
-/

namespace AtlasPay

namespace NetworkTransactionCoordinator

variable {T : Type} [LE T] [DecidableLE T] {self self' : NetworkTransactionCoordinator T} {now : T}

/-- A response raises exactly when it has no correlation. -/
theorem handleResponse_raises_iff {request response : ISO8583Message}
    {outcome : Py TransactionDisposition}
    (h : self.handleResponse request response now = (outcome, self')) :
    (∃ e, outcome = .error e) ↔ ∀ key, correlationKey response ≠ .ok key := by
  cases handleResponse_spec h with
  | raised hkey => exact iff_of_true ⟨_, rfl⟩ fun key hok => nomatch hkey.symm.trans hok
  | uncorrelated hkey _ | duplicate hkey _ _ | unknown hkey _ _ _ _ | late hkey _ _ _
  | timedOut hkey _ _ _ _ _ | accepted hkey _ _ _ _ _ =>
    exact iff_of_false nofun fun hnone => hnone _ hkey

/-- A response leaves the collections as they are, unless it correlates and its transaction is
pending or timed out. -/
theorem handleResponse_unchanged_iff (hwf : self.WellFormed) {request response : ISO8583Message}
    {key : NetworkCorrelation} (hrequest : correlationKey request = .ok key)
    {outcome : Py TransactionDisposition}
    (h : self.handleResponse request response now = (outcome, self')) :
    self' = self ↔
      ¬(correlatesResponse request response = .ok true ∧
        (key ∈ self.pending ∨ key ∈ self.timedOut)) := by
  -- A response that correlates has the key of the request.
  have hsame : ∀ {responseKey}, correlationKey response = .ok responseKey →
      correlatesResponse request response = .ok true → responseKey = key := by
    intro responseKey hresponse hcorrelates
    obtain ⟨shared, hrequest', hresponse'⟩ := correlationKey_of_correlatesResponse hcorrelates
    cases hrequest.symm.trans hrequest'
    exact Except.ok.inj (hresponse.symm.trans hresponse')
  cases handleResponse_spec h with
  | raised hkey =>
    refine iff_of_true rfl fun hmoves => ?_
    obtain ⟨shared, -, hresponse⟩ := correlationKey_of_correlatesResponse hmoves.1
    cases hkey.symm.trans hresponse
  | uncorrelated _ hcorrelates =>
    exact iff_of_true rfl fun hmoves => nomatch hcorrelates.symm.trans hmoves.1
  | duplicate hkey hcorrelates hcompleted =>
    cases hsame hkey hcorrelates
    refine iff_of_true rfl ?_
    rintro ⟨-, hpending | htimedOut⟩
    · -- The collections have no key in common.
      exact hwf.pending_completed key hpending hcompleted
    · exact hwf.completed_timedOut key hcompleted htimedOut
  | unknown hkey hcorrelates _ htimedOut hnone =>
    cases hsame hkey hcorrelates
    refine iff_of_true rfl ?_
    rintro ⟨-, hpending | htimedOut'⟩
    · exact AList.lookup_eq_none.mp hnone hpending
    · exact htimedOut htimedOut'
  | late hkey hcorrelates hcompleted htimedOut =>
    cases hsame hkey hcorrelates
    refine iff_of_false (fun heq => hcompleted ?_) (not_not.mpr ⟨hcorrelates, Or.inr htimedOut⟩)
    -- The key is completed now, and was not before.
    rw [← heq]
    exact Finset.mem_insert_self _ _
  | timedOut hkey hcorrelates _ htimedOut hlookup _ =>
    cases hsame hkey hcorrelates
    have hpending : key ∈ self.pending := AList.lookup_isSome.mp (by simp [hlookup])
    refine iff_of_false (fun heq => htimedOut ?_) (not_not.mpr ⟨hcorrelates, Or.inl hpending⟩)
    rw [← heq]
    exact Finset.mem_insert_self _ _
  | accepted hkey hcorrelates hcompleted _ hlookup _ =>
    cases hsame hkey hcorrelates
    have hpending : key ∈ self.pending := AList.lookup_isSome.mp (by simp [hlookup])
    refine iff_of_false (fun heq => hcompleted ?_) (not_not.mpr ⟨hcorrelates, Or.inl hpending⟩)
    rw [← heq]
    exact Finset.mem_insert_self _ _

/-- The correlation that a sweep has moved is not pending any more, whatever response follows. -/
theorem not_pending_of_swept {key : NetworkCorrelation} {expired : List NetworkCorrelation}
    {swept : NetworkTransactionCoordinator T} (hexpire : self.expire now = (.ok expired, swept))
    (hmem : key ∈ expired) : key ∈ self.pending ∧ key ∉ swept.pending := by
  rcases expire_eq_ok hexpire with ⟨rfl, -, -⟩ | ⟨only, rfl, rfl, honly⟩
  · cases hmem
  · cases List.mem_singleton.mp hmem
    obtain ⟨transaction, hlookup, -⟩ := (honly key).mpr rfl
    refine ⟨AList.lookup_isSome.mp (by simp [hlookup]), fun hkey => ?_⟩
    exact (AList.mem_erase.mp hkey).1 rfl

end NetworkTransactionCoordinator

namespace AuthorizationNetworkFlow

variable {T : Type} [LinearOrder T] [Zero T]

section Strands

variable (self : AuthorizationNetworkFlow T) (attempt : NetworkAttempt T) (completedAt : T)
  (answers : Answers)

/-- There is a history, and its writer raises if it is asked. -/
def WriterRaises : Prop := self.history ≠ none ∧ answers.history ≠ .ok ()

/-- The provider returns a correlation to which the attempt can be linked. -/
def CanLink : Prop :=
  ∃ reversal, answers.reversal = .ok reversal ∧ attempt.correlation ≠ reversal ∧
    attempt.correlation ∉ self.reversals.byOriginal ∧ reversal ∉ self.reversals.reversalKeys

/-- The call raises, after it has changed the coordinator. -/
inductive Strands : Prop where
  | cancelled (hfails : self.Fails attempt answers)
      (hpending : attempt.correlation ∈ self.coordinator.pending)
      (hwriter : self.WriterRaises answers)
  | expired (htimesOut : self.TimesOut attempt answers) (hdue : attempt.deadline ≤ completedAt)
      {key : NetworkCorrelation}
      (honly : ∀ other, self.coordinator.Overdue completedAt other ↔ other = key)
      (hraises : attempt.correlation ≠ key ∨ ¬self.CanLink attempt answers ∨
        self.WriterRaises answers)
  | swept {response : ISO8583Message} (hresponds : self.Responds attempt answers response)
      (hdue : attempt.deadline ≤ completedAt) {key : NetworkCorrelation}
      (honly : ∀ other, self.coordinator.Overdue completedAt other ↔ other = key)
      (hraises : (∀ responseKey, correlationKey response ≠ .ok responseKey) ∨
        self.WriterRaises answers)
  | handled {response : ISO8583Message} (hresponds : self.Responds attempt answers response)
      (hcorrelates : correlatesResponse attempt.request response = .ok true)
      (hheld : attempt.correlation ∈ self.coordinator.pending ∨
        attempt.correlation ∈ self.coordinator.timedOut)
      (hsweeps : attempt.deadline ≤ completedAt →
        {key | self.coordinator.Overdue completedAt key}.Subsingleton)
      (hwriter : self.WriterRaises answers)

end Strands

/-- The coordinator and the registry are as before. -/
structure Unchanged (before after : AuthorizationNetworkFlow T) : Prop where
  coordinator : after.coordinator = before.coordinator
  reversals : after.reversals = before.reversals

/-- What `_exchange` does is stranded when the call raises, then or when it writes the history, and
something is not as before. -/
def Stranded {α : Type} (before : AuthorizationNetworkFlow T) (writerRaises : Prop)
    (settled : Py α × AuthorizationNetworkFlow T) : Prop :=
  ((∃ e, settled.1 = .error e) ∨ writerRaises) ∧ ¬before.Unchanged settled.2

variable {self : AuthorizationNetworkFlow T} {attempt : NetworkAttempt T} {completedAt : T}
  {answers : Answers} {writerRaises : Prop}

/-! ## The three ends -/

variable (self) in
/-- The end of a failure is stranded when it has cancelled the attempt. -/
theorem stranded_settleFailure_iff (hkey : correlationKey attempt.request = .ok attempt.correlation)
    (result : ISO8583ExchangeResult) :
    self.Stranded writerRaises (self.settleFailure attempt result) ↔
      attempt.correlation ∈ self.coordinator.pending ∧ writerRaises := by
  by_cases hpending : attempt.correlation ∈ self.coordinator.pending
  · obtain ⟨flowResult, hsettle⟩ := settleFailure_of_pending self result hkey hpending
    have hchanged : ¬self.Unchanged (self.settleFailure attempt result).2 := by
      rintro ⟨hcoordinator, -⟩
      rw [hsettle] at hcoordinator
      have hsame := congrArg NetworkTransactionCoordinator.pending hcoordinator
      rw [← hsame] at hpending
      exact (AList.mem_erase.mp hpending).1 rfl
    rw [Stranded, and_iff_left hchanged, hsettle, and_iff_right hpending]
    exact or_iff_right nofun
  · obtain ⟨e, hsettle⟩ := settleFailure_of_not_pending self result hkey hpending
    rw [hsettle]
    exact iff_of_false (fun h => h.2 ⟨rfl, rfl⟩) fun h => hpending h.1

/-- The provider answers, and the link is made, when it can be. -/
theorem canLink_iff {self : AuthorizationNetworkFlow T} :
    self.CanLink attempt answers ↔ ∃ reversal link reversals, answers.reversal = .ok reversal ∧
      self.reversals.link attempt.correlation reversal .timeout = (.ok link, reversals) := by
  refine exists_congr fun reversal => ?_
  constructor
  · rintro ⟨hreversal, hne, horiginal, hkeys⟩
    rcases hlink : self.reversals.link attempt.correlation reversal .timeout with
      ⟨outcome, reversals⟩
    cases ReversalRegistry.link_spec hlink with
    | raised _ hor => exact absurd hor (by simp [hne, horiginal, hkeys])
    | linked _ _ _ => exact ⟨_, _, hreversal, rfl⟩
  · rintro ⟨link, reversals, hreversal, hlink⟩
    cases ReversalRegistry.link_spec hlink with
    | linked hne horiginal hkeys => exact ⟨hreversal, hne, horiginal, hkeys⟩

variable (answers) in
/-- The end of a timeout raises after its sweep unless this has found the attempt and a reversal can
be planned. -/
theorem settleTimeout_raises_iff (hdue : attempt.deadline ≤ completedAt)
    {expired : List NetworkCorrelation} {swept : NetworkTransactionCoordinator T}
    (hexpire : self.coordinator.expire completedAt = (.ok expired, swept))
    (result : ISO8583ExchangeResult) :
    ((self.settleTimeout attempt completedAt answers.reversal result).2.coordinator = swept) ∧
      ((∃ e, (self.settleTimeout attempt completedAt answers.reversal result).1 = .error e) ↔
        attempt.correlation ∉ expired ∨ ¬self.CanLink attempt answers) := by
  by_cases hmem : attempt.correlation ∈ expired
  swap
  · -- The attempt was not in the sweep.
    obtain ⟨e, hsettle⟩ := settleTimeout_of_unswept self result hdue hexpire hmem
      answers.reversal
    rw [hsettle]
    exact ⟨rfl, iff_of_true ⟨e, rfl⟩ (Or.inl hmem)⟩
  rw [or_iff_right (not_not.mpr hmem), canLink_iff]
  cases hreversal : answers.reversal with
  | error e =>
    obtain ⟨e', hsettle⟩ := settleTimeout_of_unplanned self result hdue hexpire hmem e
    rw [hsettle]
    exact ⟨rfl, iff_of_true ⟨e', rfl⟩ (by simp)⟩
  | ok reversal =>
    rcases hlink : self.reversals.link attempt.correlation reversal .timeout with
      ⟨e | link, reversals⟩
    · obtain ⟨e', hsettle⟩ := settleTimeout_of_unlinked self result hdue hexpire hmem hlink
      rw [hsettle]
      refine ⟨rfl, iff_of_true ⟨e', rfl⟩ ?_⟩
      -- The link is a function of the registry, so it cannot be refused and made.
      rintro ⟨_, link, reversals', ⟨⟩, hlink'⟩
      cases hlink.symm.trans hlink'
    · obtain ⟨flowResult, hsettle, -⟩ := settleTimeout_of_linked self result hdue hexpire
        hmem hlink
      rw [hsettle]
      refine ⟨rfl, iff_of_false nofun (not_not.mpr ⟨reversal, link, reversals, rfl, hlink⟩)⟩

/-- What a sweep that moves a correlation does is a change, whatever becomes of the other pending
transactions. -/
theorem not_unchanged_of_swept {after : AuthorizationNetworkFlow T} {key : NetworkCorrelation}
    {expired : List NetworkCorrelation} {swept : NetworkTransactionCoordinator T}
    (hexpire : self.coordinator.expire completedAt = (.ok expired, swept)) (hmem : key ∈ expired)
    (hpending : ∀ other ∈ after.coordinator.pending, other ∈ swept.pending) :
    ¬self.Unchanged after := by
  rintro ⟨hcoordinator, -⟩
  obtain ⟨hbefore, hafter⟩ := NetworkTransactionCoordinator.not_pending_of_swept hexpire hmem
  refine hafter (hpending key ?_)
  rwa [hcoordinator]

variable (self) in
/-- The end of a timeout is stranded when its sweep has moved one transaction, and this is not the
attempt's, or its reversal cannot be planned, or the history cannot be written. -/
theorem stranded_settleTimeout_iff (result : ISO8583ExchangeResult) :
    self.Stranded writerRaises (self.settleTimeout attempt completedAt answers.reversal result) ↔
      attempt.deadline ≤ completedAt ∧ ∃ key,
        (∀ other, self.coordinator.Overdue completedAt other ↔ other = key) ∧
          (attempt.correlation ≠ key ∨ ¬self.CanLink attempt answers ∨ writerRaises) := by
  rcases lt_or_ge completedAt attempt.deadline with hearly | hdue
  · obtain ⟨e, hsettle⟩ := settleTimeout_of_early self result hearly answers.reversal
    rw [hsettle]
    exact iff_of_false (fun h => h.2 ⟨rfl, rfl⟩) fun h => not_le.mpr hearly h.1
  rw [and_iff_right hdue]
  rcases hexpire : self.coordinator.expire completedAt with ⟨e | expired, swept⟩
  · obtain ⟨e', hsettle⟩ := settleTimeout_of_raised self result hdue hexpire answers.reversal
    rw [hsettle]
    -- A sweep that raises has found several transactions, and moved none.
    cases NetworkTransactionCoordinator.expire_spec hexpire with
    | raised _ hlength =>
      refine iff_of_false (fun h => h.2 ⟨rfl, rfl⟩) ?_
      rintro ⟨key, honly, -⟩
      rw [NetworkTransactionCoordinator.overdue_eq_singleton_iff.mpr honly] at hlength
      exact absurd hlength (Nat.lt_irrefl 1)
  · obtain ⟨hcoordinator, hraises⟩ := settleTimeout_raises_iff answers hdue hexpire result
    rcases NetworkTransactionCoordinator.expire_eq_ok hexpire with ⟨rfl, rfl, hnone⟩ |
      ⟨only, rfl, -, honly⟩
    · -- Nothing is due, so the attempt is not in the sweep, and nothing has moved.
      obtain ⟨e, hsettle⟩ := settleTimeout_of_unswept self result hdue hexpire
        List.not_mem_nil answers.reversal
      rw [hsettle]
      refine iff_of_false (fun h => h.2 ⟨rfl, rfl⟩) ?_
      rintro ⟨key, honly, -⟩
      exact hnone key ((honly key).mpr rfl)
    · -- The sweep has moved one transaction: what counts now is whether the rest raises.
      have hchanged : ¬self.Unchanged
          (self.settleTimeout attempt completedAt answers.reversal result).2 :=
        not_unchanged_of_swept hexpire (List.mem_singleton_self only) fun other hother =>
          hcoordinator ▸ hother
      rw [Stranded, and_iff_left hchanged, hraises, List.mem_singleton, or_assoc]
      constructor
      · exact fun hor => ⟨only, honly, hor⟩
      · rintro ⟨key, honly', hor⟩
        cases (honly key).mp ((honly' key).mpr rfl)
        exact hor

/-- A response that no sweep has preceded is stranded when it has moved its transaction. -/
theorem stranded_handled_iff (hwf : self.coordinator.WellFormed)
    (hkey : correlationKey attempt.request = .ok attempt.correlation) {response : ISO8583Message}
    {handled : Py TransactionDisposition} {coordinator : NetworkTransactionCoordinator T}
    (hhandle : self.coordinator.handleResponse attempt.request response completedAt =
      (handled, coordinator)) :
    self.Stranded writerRaises (handled.map (responseResult attempt), { self with coordinator }) ↔
      correlatesResponse attempt.request response = .ok true ∧
        (attempt.correlation ∈ self.coordinator.pending ∨
          attempt.correlation ∈ self.coordinator.timedOut) ∧ writerRaises := by
  have hmoves := NetworkTransactionCoordinator.handleResponse_unchanged_iff hwf hkey hhandle
  constructor
  · rintro ⟨hraises, hchanged⟩
    have hmoved : correlatesResponse attempt.request response = .ok true ∧
        (attempt.correlation ∈ self.coordinator.pending ∨
          attempt.correlation ∈ self.coordinator.timedOut) := by
      by_contra hnot
      exact hchanged ⟨hmoves.mpr hnot, rfl⟩
    refine ⟨hmoved.1, hmoved.2, hraises.resolve_left ?_⟩
    -- A response that correlates is answered.
    obtain ⟨responseKey, -, hresponse⟩ := correlationKey_of_correlatesResponse hmoved.1
    obtain ⟨disposition, after, hanswered⟩ := NetworkTransactionCoordinator.handleResponse_isOk
      hresponse hmoved.1 self.coordinator completedAt
    cases hhandle.symm.trans hanswered
    exact nofun
  · rintro ⟨hcorrelates, hheld, hwriter⟩
    exact ⟨Or.inr hwriter, fun hsame => hmoves.mp hsame.coordinator ⟨hcorrelates, hheld⟩⟩

variable (self) in
/-- The end of a response is stranded when a sweep before it has moved a transaction, and the
response raises or the history cannot be written; or when the response has moved its own
transaction, and the history cannot be written. -/
theorem stranded_settleResponse_iff (hwf : self.coordinator.WellFormed)
    (hkey : correlationKey attempt.request = .ok attempt.correlation)
    (response : ISO8583Message) :
    self.Stranded writerRaises (self.settleResponse attempt completedAt response) ↔
      (attempt.deadline ≤ completedAt ∧ ∃ key,
        (∀ other, self.coordinator.Overdue completedAt other ↔ other = key) ∧
          ((∀ responseKey, correlationKey response ≠ .ok responseKey) ∨ writerRaises)) ∨
      (correlatesResponse attempt.request response = .ok true ∧
        (attempt.correlation ∈ self.coordinator.pending ∨
          attempt.correlation ∈ self.coordinator.timedOut) ∧
        (attempt.deadline ≤ completedAt →
          {key | self.coordinator.Overdue completedAt key}.Subsingleton) ∧ writerRaises) := by
  rcases lt_or_ge completedAt attempt.deadline with hearly | hdue
  · rcases hhandle : self.coordinator.handleResponse attempt.request response completedAt with
      ⟨handled, coordinator⟩
    rw [settleResponse_of_early self hearly hhandle, stranded_handled_iff hwf hkey hhandle]
    simp only [not_le.mpr hearly, false_and, false_or, false_imp_iff, true_and]
  simp only [hdue, true_and, true_imp_iff]
  rcases hexpire : self.coordinator.expire completedAt with ⟨e | expired, swept⟩
  · rw [settleResponse_of_raised self hdue hexpire]
    -- A sweep that raises has found several transactions, and moved none.
    cases NetworkTransactionCoordinator.expire_spec hexpire with
    | raised _ hlength =>
      refine iff_of_false (fun h => h.2 ⟨rfl, rfl⟩) ?_
      rintro (⟨key, honly, -⟩ | ⟨-, -, hsub, -⟩)
      · rw [NetworkTransactionCoordinator.overdue_eq_singleton_iff.mpr honly] at hlength
        exact absurd hlength (Nat.lt_irrefl 1)
      · exact absurd (NetworkTransactionCoordinator.length_overdue_le_one_iff.mpr hsub)
          (not_le.mpr hlength)
  rcases hhandle : swept.handleResponse attempt.request response completedAt with
    ⟨handled, coordinator⟩
  rw [settleResponse_of_swept self hdue hexpire hhandle]
  rcases NetworkTransactionCoordinator.expire_eq_ok hexpire with ⟨-, rfl, hnone⟩ |
    ⟨only, rfl, -, honly⟩
  · rw [stranded_handled_iff hwf hkey hhandle]
    constructor
    · rintro ⟨hcorrelates, hheld, hwriter⟩
      exact Or.inr ⟨hcorrelates, hheld, fun key hoverdue => absurd hoverdue (hnone key), hwriter⟩
    · rintro (⟨key, honly, -⟩ | ⟨hcorrelates, hheld, -, hwriter⟩)
      · exact absurd ((honly key).mpr rfl) (hnone key)
      · exact ⟨hcorrelates, hheld, hwriter⟩
  · have hchanged : ¬self.Unchanged { self with coordinator } :=
      not_unchanged_of_swept hexpire (List.mem_singleton_self only) fun other hother =>
        NetworkTransactionCoordinator.pending_of_handleResponse hhandle hother
    -- A swept coordinator raises exactly when the response has no key.
    have hraises : (∃ e, handled.map (responseResult attempt) = .error e) ↔
        ∀ responseKey, correlationKey response ≠ .ok responseKey := by
      rw [← NetworkTransactionCoordinator.handleResponse_raises_iff hhandle]
      cases handled with
      | error e => exact iff_of_true ⟨e, rfl⟩ ⟨e, rfl⟩
      | ok disposition => exact iff_of_false nofun nofun
    rw [Stranded, and_iff_left hchanged, hraises]
    constructor
    · exact fun hor => Or.inl ⟨only, honly, hor⟩
    · rintro (⟨-, -, hor⟩ | ⟨-, -, -, hwriter⟩)
      · exact hor
      · exact Or.inr hwriter

/-! ## The call -/

/-- What the adapter has sent is not among what has to be as before. -/
theorem stranded_adapter_iff {α : Type} (adapter : ISO8583NetworkAdapter)
    (settled : Py α × AuthorizationNetworkFlow T) :
    Stranded { self with adapter } writerRaises settled ↔ self.Stranded writerRaises settled := by
  refine and_congr_right fun _ => not_congr ?_
  exact ⟨fun h => ⟨h.coordinator, h.reversals⟩, fun h => ⟨h.coordinator, h.reversals⟩⟩

/-- `_exchange` is stranded exactly when `Strands` says so. -/
theorem stranded_settle_iff (hwf : self.coordinator.WellFormed)
    (hkey : correlationKey attempt.request = .ok attempt.correlation)
    (htimeoutSeconds : 0 < attempt.timeoutSeconds) :
    self.Stranded (self.WriterRaises answers) (self.settle attempt completedAt answers) ↔
      self.Strands attempt completedAt answers := by
  have hends := settle_ends self completedAt answers htimeoutSeconds
  -- One of four ends, each with a lemma of its own; the answers tell which of them it is.
  generalize self.settle attempt completedAt answers = settled at hends
  cases hends with
  | raised hfails htimesOut hresponds e adapter =>
    refine iff_of_false (fun h => h.2 ⟨rfl, rfl⟩) ?_
    rintro (⟨h, _, _⟩ | ⟨h, _, _, _⟩ | ⟨h, _, _, _⟩ | ⟨h, _, _, _, _⟩)
    · exact hfails h
    · exact htimesOut h
    · exact hresponds _ h
    · exact hresponds _ h
  | failure hfails adapter result =>
    rw [← stranded_adapter_iff adapter]
    refine (stranded_settleFailure_iff { self with adapter } hkey result).trans ?_
    constructor
    · exact fun ⟨hpending, hwriter⟩ => .cancelled hfails hpending hwriter
    · rintro (⟨_, hpending, hwriter⟩ | ⟨h, _, _, _⟩ | ⟨h, _, _, _⟩ | ⟨h, _, _, _, _⟩)
      · exact ⟨hpending, hwriter⟩
      · exact absurd h hfails.not_timesOut
      · exact absurd h (hfails.not_responds _)
      · exact absurd h (hfails.not_responds _)
  | timeout htimesOut adapter result =>
    rw [← stranded_adapter_iff adapter]
    refine (stranded_settleTimeout_iff { self with adapter } result).trans ?_
    constructor
    · exact fun ⟨hdue, key, honly, hraises⟩ => .expired htimesOut hdue honly hraises
    · rintro (⟨h, _, _⟩ | ⟨_, hdue, honly, hraises⟩ | ⟨h, _, _, _⟩ | ⟨h, _, _, _, _⟩)
      · exact absurd htimesOut h.not_timesOut
      · exact ⟨hdue, _, honly, hraises⟩
      · exact absurd h (htimesOut.not_responds _)
      · exact absurd h (htimesOut.not_responds _)
  | response hresponds adapter =>
    rw [← stranded_adapter_iff adapter]
    refine (stranded_settleResponse_iff { self with adapter } hwf hkey _).trans ?_
    constructor
    · rintro (⟨hdue, key, honly, hraises⟩ | ⟨hcorrelates, hheld, hsweeps, hwriter⟩)
      · exact .swept hresponds hdue honly hraises
      · exact .handled hresponds hcorrelates hheld hsweeps hwriter
    · rintro (⟨h, _, _⟩ | ⟨h, _, _, _⟩ | ⟨h, hdue, honly, hraises⟩ |
        ⟨h, hcorrelates, hheld, hsweeps, hwriter⟩)
      · exact absurd hresponds (h.not_responds _)
      · exact absurd hresponds (h.not_responds _)
      · cases hresponds.eq h
        exact Or.inl ⟨hdue, _, honly, hraises⟩
      · cases hresponds.eq h
        exact Or.inr ⟨hcorrelates, hheld, hsweeps, hwriter⟩

variable [Add T] [Sub T] [Mul T] [NatCast T]

/-- In every run, an `exchange` that raises leaves the coordinator and the registry as they were
exactly when it is none of the calls that `Strands` lists. -/
theorem unchanged_iff {log : List (Event T)} {session : Session T} (hrun : (lts T).Run log session)
    (hmem : attempt ∈ session.attempts) {outcome : Py NetworkFlowResult}
    {after : AuthorizationNetworkFlow T}
    (hexchange : session.flow.exchange attempt completedAt answers = (outcome, after)) :
    ((∃ e, outcome = .error e) → session.flow.Unchanged after) ↔
      ¬session.flow.Strands attempt completedAt answers := by
  have hwf := wellFormed_of_run hrun
  rw [← stranded_settle_iff hwf.coordinator (hwf.correlation attempt hmem)
    (hwf.timeoutSeconds attempt hmem)]
  obtain ⟨settledOutcome, settled, hsettle, hsame, hok⟩ := exchange_spec hexchange
  have hunchanged : session.flow.Unchanged after ↔ session.flow.Unchanged settled := by
    constructor
    · exact fun h => ⟨hsame.coordinator.symm.trans h.coordinator,
        hsame.reversals.symm.trans h.reversals⟩
    · exact fun h => ⟨hsame.coordinator.trans h.coordinator, hsame.reversals.trans h.reversals⟩
  have hraises : (∃ e, outcome = .error e) ↔
      (∃ e, settledOutcome = .error e) ∨ session.flow.WriterRaises answers := by
    cases outcome with
    | ok result =>
      obtain ⟨rfl, hwritten⟩ := (hok result).mp rfl
      refine iff_of_false nofun ?_
      rintro (⟨e, ⟨⟩⟩ | ⟨hhistory, hraised⟩)
      exact hwritten.elim hhistory hraised
    | error e =>
      refine iff_of_true ⟨e, rfl⟩ ?_
      cases settledOutcome with
      | error e' => exact Or.inl ⟨e', rfl⟩
      | ok result =>
        -- The writer has raised, since `_exchange` has not.
        refine Or.inr (not_or.mp fun hwritten => ?_)
        cases (hok result).mpr ⟨rfl, hwritten⟩
  rw [hunchanged, hraises, hsettle, Stranded, not_and_not_right]

/-! ## A timeout before the deadline, and one whose reversal cannot be planned -/

/-- A timeout before the deadline raises and leaves everything as it was. -/
theorem unchanged_early : ∃ e after,
    sampleSession.flow.exchange sampleAttempt 3 (timesOutWith (.ok sampleReversal)) =
      (.error e, after) ∧ sampleSession.flow.Unchanged after := by
  let answers := timesOutWith (.ok sampleReversal)
  have hexchange : sampleSession.flow.exchange sampleAttempt 3 answers =
      (.error (.valueError "transport timeout cannot complete before the registered deadline"),
        (sampleSession.flow.exchange sampleAttempt 3 answers).2) := rfl
  refine ⟨_, _, hexchange, (unchanged_iff run_sampleSession (List.mem_singleton_self _)
    hexchange).mpr ?_ ⟨_, rfl⟩⟩
  rintro (⟨-, -, hhistory, -⟩ | ⟨-, hdue, -, -⟩ | ⟨-, hdue, -, -⟩ | ⟨-, -, -, -, hhistory, -⟩)
  · exact hhistory rfl
  · exact absurd hdue (by decide)
  · exact absurd hdue (by decide)
  · exact hhistory rfl

/-- A timeout at the deadline whose reversal cannot be planned raises and leaves the attempt timed
out without a reversal; and it raises once more when it is called again, though the reversal could
be planned then. -/
theorem not_unchanged_unplanned :
    ∃ (log : List (Event ℤ)) (session : Session ℤ) (attempt : NetworkAttempt ℤ) (completedAt : ℤ)
      (answers : Answers) (e : PyError) (after : AuthorizationNetworkFlow ℤ),
      (lts ℤ).Run log session ∧ attempt ∈ session.attempts ∧
      session.flow.exchange attempt completedAt answers = (.error e, after) ∧
      ¬session.flow.Unchanged after ∧
      ∃ e', (after.exchange attempt completedAt (timesOutWith (.ok sampleReversal))).1 =
        .error e' := by
  refine ⟨_, sampleSession, sampleAttempt, 5, timesOutWith (.error .assertionError), _, _,
    run_sampleSession, List.mem_singleton_self _, rfl, fun h => ?_, _, rfl⟩
  have htimedOut := congrArg NetworkTransactionCoordinator.timedOut h.coordinator
  exact absurd htimedOut (by decide)

end AuthorizationNetworkFlow

end AtlasPay
