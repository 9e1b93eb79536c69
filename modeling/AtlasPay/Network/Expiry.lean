import AtlasPay.Network.CoordinatorRuns

/-!
# Expiry, and what is late

A sweep returns the overdue correlations and moves them, whenever there is at most one; it raises
when there are several (`sweeps_iff`). The rule of expiry stands in `handle_response` once more, for
the transaction of the response alone. Its answer there is that the transaction timed out, with the
state that a sweep of this transaction leaves; all other answers are the same before a sweep and
after it, and the sweep moves the same transactions before the response and after it
(`lateness_of_run`).
-/

namespace AtlasPay

namespace NetworkTransactionCoordinator

variable {T : Type}

/-- The correlation is pending, with a deadline that has come. -/
def Overdue [LE T] (self : NetworkTransactionCoordinator T) (now : T) (key : NetworkCorrelation) :
    Prop :=
  ∃ transaction, self.pending.lookup key = some transaction ∧ transaction.deadline ≤ now

variable [LE T] [DecidableLE T]

/-! ## The sweep -/

/-- What a sweep has to do: each overdue correlation is returned once and moves from the pending
ones to those that timed out, and it leaves nothing for a second sweep. -/
structure Sweeps (before : NetworkTransactionCoordinator T) (now : T)
    (expired : List NetworkCorrelation) (after : NetworkTransactionCoordinator T) : Prop where
  nodup : expired.Nodup
  overdue : ∀ key, key ∈ expired ↔ before.Overdue now key
  pending : ∀ key transaction, after.pending.lookup key = some transaction ↔
    before.pending.lookup key = some transaction ∧ ¬transaction.deadline ≤ now
  timedOut : after.timedOut = before.timedOut ∪ expired.toFinset
  gained : ∀ key ∈ expired, key ∉ before.timedOut
  completed : after.completed = before.completed
  again : after.expire now = (.ok [], after)

variable {self self' : NetworkTransactionCoordinator T} {now : T}

/-- The overdue correlations of the list are those of the predicate. -/
theorem mem_overdue_iff {key : NetworkCorrelation} :
    key ∈ self.overdue now ↔ self.Overdue now key :=
  mem_overdue

/-- Each correlation is in the list once. -/
theorem nodup_overdue (self : NetworkTransactionCoordinator T) (now : T) :
    (self.overdue now).Nodup := by
  unfold overdue
  refine List.Nodup.sublist (List.Sublist.map _ List.filter_sublist) ?_
  exact self.pending.nodupKeys

/-- The list has at most one element when at most one correlation is overdue. -/
theorem length_overdue_le_one_iff :
    (self.overdue now).length ≤ 1 ↔ {key | self.Overdue now key}.Subsingleton := by
  constructor
  · intro hlength key hkey key' hkey'
    have hmem : key ∈ self.overdue now := mem_overdue_iff.mpr hkey
    have hmem' : key' ∈ self.overdue now := mem_overdue_iff.mpr hkey'
    match hoverdue : self.overdue now with
    | [] =>
      rw [hoverdue] at hmem
      cases hmem
    | [only] =>
      rw [hoverdue, List.mem_singleton] at hmem hmem'
      rw [hmem, hmem']
    | _ :: _ :: _ => simp [hoverdue] at hlength
  · intro hsub
    have hnodup := nodup_overdue self now
    match hoverdue : self.overdue now with
    | [] => simp
    | [only] => simp
    | key :: key' :: rest =>
      rw [hoverdue, List.nodup_cons] at hnodup
      have hkey : self.Overdue now key := mem_overdue_iff.mp (by simp [hoverdue])
      have hkey' : self.Overdue now key' := mem_overdue_iff.mp (by simp [hoverdue])
      exact absurd (by simp [hsub hkey hkey']) hnodup.1

/-- A sweep that has nothing to move does nothing. -/
theorem expire_of_overdue_nil (h : self.overdue now = []) :
    self.expire now = (.ok [], self) := by
  simp only [expire, h]
  rfl

/-- A sweep moves the only overdue correlation. -/
theorem expire_of_overdue_singleton {key : NetworkCorrelation} (h : self.overdue now = [key]) :
    self.expire now = (.ok [key],
      { self with pending := self.pending.erase key, timedOut := insert key self.timedOut }) := by
  simp only [expire, h]
  rfl

/-- A sweep has no order in which to return several correlations. -/
theorem expire_of_length_overdue (h : 1 < (self.overdue now).length) :
    ∃ e, self.expire now = (.error e, self) := by
  match hoverdue : self.overdue now with
  | [] | [_] => simp [hoverdue] at h
  | _ :: _ :: _ =>
    simp only [expire, hoverdue]
    exact ⟨_, rfl⟩

/-- A sweep that returns does what it has to do. -/
theorem sweeps_of_expire (hwf : self.WellFormed) {expired : List NetworkCorrelation}
    (h : self.expire now = (.ok expired, self')) : self.Sweeps now expired self' := by
  cases expire_spec h with
  | nothing hoverdue =>
    have hnone : ∀ key, ¬self.Overdue now key := fun key hkey => by
      simpa [hoverdue] using mem_overdue_iff.mpr hkey
    refine ⟨List.nodup_nil, fun key => ?_, fun key transaction => ?_, by simp, by simp, rfl, h⟩
    · simp [hnone key]
    · refine ⟨fun hlookup => ⟨hlookup, ?_⟩, And.left⟩
      exact fun hle => hnone key ⟨transaction, hlookup, hle⟩
  | @expired only hoverdue =>
    have honly : ∀ key, self.Overdue now key ↔ key = only := fun key => by
      rw [← mem_overdue_iff, hoverdue, List.mem_singleton]
    obtain ⟨swept, hswept, hdue⟩ := (honly only).mpr rfl
    -- One key goes, and what it had was due; what the others have is not.
    have hpending : ∀ key transaction, (self.pending.erase only).lookup key = some transaction ↔
        self.pending.lookup key = some transaction ∧ ¬transaction.deadline ≤ now := by
      intro key transaction
      by_cases heq : key = only
      · subst heq
        rw [AList.lookup_erase, hswept]
        simp only [reduceCtorEq, Option.some.injEq, false_iff, not_and, not_not]
        rintro rfl
        exact hdue
      · rw [AList.lookup_erase_ne heq]
        refine ⟨fun hlookup => ⟨hlookup, fun hle => heq ?_⟩, And.left⟩
        exact (honly key).mp ⟨transaction, hlookup, hle⟩
    refine ⟨List.nodup_singleton only, fun key => ?_, hpending, ?_, ?_, rfl, ?_⟩
    · rw [List.mem_singleton, honly]
    · ext key
      simp
    · intro key hkey
      rw [List.mem_singleton] at hkey
      subst hkey
      exact hwf.pending_timedOut key (AList.lookup_isSome.mp (by simp [hswept]))
    -- What is pending after the sweep is not overdue.
    · refine expire_of_overdue_nil (List.eq_nil_iff_forall_not_mem.mpr fun key hkey => ?_)
      obtain ⟨transaction, hlookup, hle⟩ := mem_overdue.mp hkey
      exact ((hpending key transaction).mp hlookup).2 hle

/-- In every run, a sweep returns and does what it has to do exactly when at most one transaction is
overdue. -/
theorem sweeps_iff [Zero T] [Add T] {log : List (Event T)} (h : (lts T).Run log self) (now : T) :
    (∃ expired self', self.expire now = (.ok expired, self') ∧ self.Sweeps now expired self') ↔
      {key | self.Overdue now key}.Subsingleton := by
  rw [← length_overdue_le_one_iff]
  constructor
  · rintro ⟨expired, self', hexpire, -⟩
    refine not_lt.mp fun hmany => ?_
    obtain ⟨e, hraised⟩ := expire_of_length_overdue hmany
    rw [hexpire] at hraised
    cases hraised
  · intro hlength
    have hsweeps : ∀ {expired swept}, self.expire now = (.ok expired, swept) →
        self.Sweeps now expired swept := sweeps_of_expire (wellFormed_of_run h)
    -- `sorted` compares the keys when there are two.
    match hoverdue : self.overdue now with
    | [] =>
      have hexpire := expire_of_overdue_nil hoverdue
      exact ⟨_, _, hexpire, hsweeps hexpire⟩
    | [_] =>
      have hexpire := expire_of_overdue_singleton hoverdue
      exact ⟨_, _, hexpire, hsweeps hexpire⟩
    | _ :: _ :: _ => simp [hoverdue] at hlength

/-! ## The response before the sweep and after it -/

/-- One transaction is overdue when exactly its correlation is. -/
theorem overdue_eq_singleton_iff {key : NetworkCorrelation} :
    self.overdue now = [key] ↔ ∀ other, self.Overdue now other ↔ other = key := by
  constructor
  · intro hoverdue other
    rw [← mem_overdue_iff, hoverdue, List.mem_singleton]
  · intro honly
    refine List.perm_singleton.mp ((List.perm_ext_iff_of_nodup (nodup_overdue self now)
      (List.nodup_singleton key)).mpr fun other => ?_)
    rw [mem_overdue_iff, honly, List.mem_singleton]

/-- Nothing is overdue when no correlation is. -/
theorem overdue_eq_nil_iff : self.overdue now = [] ↔ ∀ key, ¬self.Overdue now key := by
  simp only [List.eq_nil_iff_forall_not_mem, mem_overdue_iff]

/-- A sweep that returns leaves no trace when nothing is overdue, and else moves one correlation. -/
theorem expire_eq_ok {expired : List NetworkCorrelation} {swept : NetworkTransactionCoordinator T}
    (h : self.expire now = (.ok expired, swept)) :
    (expired = [] ∧ swept = self ∧ ∀ key, ¬self.Overdue now key) ∨
      ∃ only, expired = [only] ∧
        swept = { self with
          pending := self.pending.erase only, timedOut := insert only self.timedOut } ∧
        ∀ key, self.Overdue now key ↔ key = only := by
  cases expire_spec h with
  | nothing hoverdue => exact Or.inl ⟨rfl, rfl, overdue_eq_nil_iff.mp hoverdue⟩
  | expired hoverdue => exact Or.inr ⟨_, rfl, rfl, overdue_eq_singleton_iff.mp hoverdue⟩

/-- A response for a transaction that is not overdue changes nothing in what is overdue. -/
theorem overdue_handleResponse {request response : ISO8583Message} {key : NetworkCorrelation}
    {outcome : Py TransactionDisposition} (hkey : correlationKey response = .ok key)
    (hoverdue : ¬self.Overdue now key)
    (h : self.handleResponse request response now = (outcome, self')) (other : NetworkCorrelation) :
    self'.Overdue now other ↔ self.Overdue now other := by
  cases handleResponse_spec h with
  | raised _ | uncorrelated _ _ | duplicate _ _ _ | unknown _ _ _ _ _ | late _ _ _ _ => rfl
  | timedOut hkey' _ _ _ hlookup hdue =>
    cases hkey.symm.trans hkey'
    exact absurd ⟨_, hlookup, hdue⟩ hoverdue
  | accepted hkey' _ _ _ hlookup hlater =>
    cases hkey.symm.trans hkey'
    -- The accepted transaction is no longer pending, but it was not overdue.
    by_cases heq : other = key
    · rw [heq]
      simp only [Overdue, AList.lookup_erase, reduceCtorEq, false_and, exists_false, false_iff]
      exact hoverdue
    · simp only [Overdue, AList.lookup_erase_ne heq]

section Correlated

variable {request response : ISO8583Message} {key : NetworkCorrelation}
  (hkey : correlationKey response = .ok key)
  (hcorrelates : correlatesResponse request response = .ok true)

include hkey hcorrelates

/-- A response for a timed-out correlation is late. -/
theorem handleResponse_of_timedOut (hcompleted : key ∉ self.completed)
    (htimedOut : key ∈ self.timedOut) :
    self.handleResponse request response now = (.ok .late,
      { self with timedOut := self.timedOut.erase key,
                  completed := insert key self.completed }) := by
  simp only [handleResponse, hkey, hcorrelates, if_neg hcompleted, if_pos htimedOut]
  rfl

/-- A response for a transaction that is overdue finds that it timed out. -/
theorem handleResponse_of_overdue (hcompleted : key ∉ self.completed)
    (htimedOut : key ∉ self.timedOut) (hoverdue : self.Overdue now key) :
    self.handleResponse request response now = (.ok .timedOut,
      { self with pending := self.pending.erase key, timedOut := insert key self.timedOut }) := by
  obtain ⟨transaction, hlookup, hle⟩ := hoverdue
  simp only [handleResponse, hkey, hcorrelates, if_neg hcompleted, if_neg htimedOut, hlookup,
    if_pos hle]
  rfl

/-- A response is accepted as long as the deadline has not come. -/
theorem handleResponse_of_pending (hcompleted : key ∉ self.completed)
    (htimedOut : key ∉ self.timedOut) {transaction : PendingTransaction T}
    (hpending : self.pending.lookup key = some transaction)
    (hdeadline : ¬transaction.deadline ≤ now) :
    self.handleResponse request response now = (.ok .accepted,
      { self with pending := self.pending.erase key, completed := insert key self.completed }) := by
  simp only [handleResponse, hkey, hcorrelates, if_neg hcompleted, if_neg htimedOut, hpending,
    if_neg hdeadline]
  rfl

/-- A response for an unknown correlation is mismatched. -/
theorem handleResponse_of_unknown (hcompleted : key ∉ self.completed)
    (htimedOut : key ∉ self.timedOut) (hpending : self.pending.lookup key = none) :
    self.handleResponse request response now = (.ok .mismatched, self) := by
  simp only [handleResponse, hkey, hcorrelates, if_neg hcompleted, if_neg htimedOut, hpending]
  rfl

/-- A correlated response is answered. -/
theorem handleResponse_isOk (self : NetworkTransactionCoordinator T) (now : T) :
    ∃ disposition after, self.handleResponse request response now = (.ok disposition, after) := by
  rcases hhandle : self.handleResponse request response now with ⟨outcome, after⟩
  cases handleResponse_spec hhandle with
  | raised he =>
    rw [hkey] at he
    cases he
  | uncorrelated _ hnot =>
    rw [hcorrelates] at hnot
    cases hnot
  | duplicate _ _ _ | unknown _ _ _ _ _ | late _ _ _ _ | timedOut _ _ _ _ _ _
  | accepted _ _ _ _ _ _ => exact ⟨_, _, rfl⟩

/-- When the transaction of a response is not overdue, the response is answered the same before the
sweep and after it, and the sweep moves the same before the response and after it. -/
theorem handleResponse_expire_comm (hoverdue : ¬self.Overdue now key)
    {expired : List NetworkCorrelation} {swept : NetworkTransactionCoordinator T}
    (h : self.expire now = (.ok expired, swept)) :
    ∃ disposition after after',
      self.handleResponse request response now = (.ok disposition, after) ∧
      swept.handleResponse request response now = (.ok disposition, after') ∧
      after.expire now = (.ok expired, after') := by
  obtain ⟨disposition, after, hhandle⟩ := handleResponse_isOk hkey hcorrelates self now
  have hsame := overdue_handleResponse hkey hoverdue hhandle
  rcases expire_eq_ok h with ⟨rfl, rfl, hnone⟩ | ⟨only, rfl, hswept, honly⟩
  · exact ⟨disposition, after, after, hhandle, hhandle, expire_of_overdue_nil
      (overdue_eq_nil_iff.mpr fun other => (hsame other).not.mpr (hnone other))⟩
  have hne : key ≠ only := fun heq => hoverdue ((honly key).mpr heq)
  have hexpire : after.expire now = (.ok [only], { after with
      pending := after.pending.erase only, timedOut := insert only after.timedOut }) :=
    expire_of_overdue_singleton
      (overdue_eq_singleton_iff.mpr fun other => (hsame other).trans (honly other))
  refine ⟨disposition, after, _, hhandle, ?_, hexpire⟩
  -- The sweep has moved another correlation, so each branch is the one taken without it.
  have hcompletedEq : swept.completed = self.completed := by rw [hswept]
  have hlookup : swept.pending.lookup key = self.pending.lookup key := by
    rw [hswept]
    exact AList.lookup_erase_ne hne
  have htimedOut : key ∈ swept.timedOut ↔ key ∈ self.timedOut := by
    rw [hswept]
    exact Finset.mem_insert.trans (or_iff_right hne)
  cases handleResponse_spec hhandle with
  | uncorrelated _ hnot =>
    rw [hcorrelates] at hnot
    cases hnot
  | duplicate hkey' _ hcompleted =>
    cases hkey.symm.trans hkey'
    rw [← hcompletedEq] at hcompleted
    rw [handleResponse_of_completed now hkey hcorrelates hcompleted, hswept]
  | late hkey' _ hcompleted hlate =>
    cases hkey.symm.trans hkey'
    rw [← hcompletedEq] at hcompleted
    rw [handleResponse_of_timedOut hkey hcorrelates hcompleted (htimedOut.mpr hlate), hswept]
    simp only [Finset.erase_insert_of_ne hne.symm]
  | unknown hkey' _ hcompleted hnot hnone =>
    cases hkey.symm.trans hkey'
    rw [← hcompletedEq] at hcompleted
    rw [handleResponse_of_unknown hkey hcorrelates hcompleted (htimedOut.not.mpr hnot)
      (hlookup.trans hnone), hswept]
  | timedOut hkey' _ _ _ hsome hdue =>
    cases hkey.symm.trans hkey'
    exact absurd ⟨_, hsome, hdue⟩ hoverdue
  | accepted hkey' _ hcompleted hnot hsome hlater =>
    cases hkey.symm.trans hkey'
    rw [← hcompletedEq] at hcompleted
    rw [handleResponse_of_pending hkey hcorrelates hcompleted (htimedOut.not.mpr hnot)
      (hlookup.trans hsome) hlater, hswept]
    simp only [AList.erase_erase only key]

/-- When the transaction of a response is overdue, the response does the sweep, and is late only
once it is done. -/
theorem handleResponse_of_expire (hwf : self.WellFormed) (hoverdue : self.Overdue now key)
    {expired : List NetworkCorrelation} {swept : NetworkTransactionCoordinator T}
    (h : self.expire now = (.ok expired, swept)) :
    self.handleResponse request response now = (.ok .timedOut, swept) ∧
      (swept.handleResponse request response now).1 = .ok .late := by
  obtain ⟨transaction, hlookup, -⟩ := id hoverdue
  have hpending : key ∈ self.pending := AList.lookup_isSome.mp (by simp [hlookup])
  have hcompleted := hwf.pending_completed key hpending
  rcases expire_eq_ok h with ⟨-, -, hnone⟩ | ⟨only, -, hswept, honly⟩
  · exact absurd hoverdue (hnone key)
  cases (honly key).mp hoverdue
  have htimedOut : key ∈ swept.timedOut := by
    rw [hswept]
    exact Finset.mem_insert_self _ _
  have hcompleted' : key ∉ swept.completed := by rwa [hswept]
  constructor
  · rw [handleResponse_of_overdue hkey hcorrelates hcompleted
      (hwf.pending_timedOut key hpending) hoverdue, hswept]
  · rw [handleResponse_of_timedOut hkey hcorrelates hcompleted' htimedOut]

end Correlated

/-- A sweep keeps the collections apart. -/
theorem WellFormed.sweep (h : self.WellFormed) {expired : List NetworkCorrelation}
    {swept : NetworkTransactionCoordinator T} (hexpire : self.expire now = (.ok expired, swept)) :
    swept.WellFormed := by
  rcases expire_eq_ok hexpire with ⟨-, rfl, -⟩ | ⟨only, -, rfl, honly⟩
  · exact h
  · obtain ⟨transaction, hlookup, -⟩ := (honly only).mpr rfl
    exact h.time_out (h.pending_completed only (AList.lookup_isSome.mp (by simp [hlookup])))

/-- After a sweep nothing is overdue. -/
theorem not_overdue_of_expire (hwf : self.WellFormed) {expired : List NetworkCorrelation}
    {swept : NetworkTransactionCoordinator T} (h : self.expire now = (.ok expired, swept))
    (key : NetworkCorrelation) : ¬swept.Overdue now key := by
  rintro ⟨transaction, hlookup, hle⟩
  exact ((((sweeps_of_expire hwf h).pending key transaction).mp hlookup).2) hle

/-- The answer is that the transaction timed out exactly for a correlated response whose transaction
is overdue. -/
theorem handleResponse_timedOut_iff (hwf : self.WellFormed) {request : ISO8583Message}
    {key : NetworkCorrelation} (hkey : correlationKey request = .ok key)
    (response : ISO8583Message) (now : T) :
    (self.handleResponse request response now).1 = .ok .timedOut ↔
      correlatesResponse request response = .ok true ∧ self.Overdue now key := by
  constructor
  · intro h
    rcases hhandle : self.handleResponse request response now with ⟨outcome, after⟩
    rw [hhandle] at h
    cases handleResponse_spec hhandle with
    | raised _ | uncorrelated _ _ | duplicate _ _ _ | unknown _ _ _ _ _ | late _ _ _ _
    | accepted _ _ _ _ _ _ => cases h
    | timedOut hkey' hcorrelates _ _ hlookup hdue =>
      obtain ⟨requestKey, hrequest, hresponse⟩ := correlationKey_of_correlatesResponse hcorrelates
      cases hkey.symm.trans hrequest
      cases hkey'.symm.trans hresponse
      exact ⟨hcorrelates, _, hlookup, hdue⟩
  · rintro ⟨hcorrelates, hoverdue⟩
    obtain ⟨requestKey, hrequest, hresponse⟩ := correlationKey_of_correlatesResponse hcorrelates
    cases hkey.symm.trans hrequest
    obtain ⟨transaction, hlookup, -⟩ := id hoverdue
    have hpending : key ∈ self.pending := AList.lookup_isSome.mp (by simp [hlookup])
    rw [handleResponse_of_overdue hresponse hcorrelates (hwf.pending_completed key hpending)
      (hwf.pending_timedOut key hpending) hoverdue]

/-! ## The same response once more -/

/-- A timed-out correlation stays timed out until an event settles it. -/
theorem timedOut_step [Zero T] [Add T] {event : Event T} {key : NetworkCorrelation}
    (hstep : (lts T).step self event self') (h : key ∈ self.timedOut) :
    if settles key event = true then key ∈ self'.completed else key ∈ self'.timedOut := by
  split
  · next hsettles => exact (settles_step hstep hsettles).2
  · next hsettles =>
    cases event with
    | register request now timeout outcome => cases register_spec hstep <;> exact h
    | cancel request outcome => cases cancel_spec hstep <;> exact h
    | expire now outcome =>
      cases expire_spec hstep with
      | raised _ _ | nothing _ => exact h
      | expired _ => exact Finset.mem_insert_of_mem h
    | handleResponse request response now outcome =>
      cases handleResponse_spec hstep with
      | raised _ | uncorrelated _ _ | duplicate _ _ _ | unknown _ _ _ _ _
      | accepted _ _ _ _ _ _ => exact h
      | timedOut _ _ _ _ _ _ => exact Finset.mem_insert_of_mem h
      | late hkey _ _ _ =>
        -- A late response of this key would have settled it.
        refine Finset.mem_erase.mpr ⟨fun heq => hsettles ?_, h⟩
        rw [settles, hkey, heq, decide_eq_true_eq]

/-- A timed-out correlation stays timed out as long as no event settles it, and is completed from
then on. -/
theorem timedOut_steps [Zero T] [Add T] {log : List (Event T)} {key : NetworkCorrelation}
    (hsteps : (lts T).Steps self log self') (h : key ∈ self.timedOut) :
    if log.any (settles key) = true then key ∈ self'.completed else key ∈ self'.timedOut := by
  induction hsteps with
  | nil _ => exact h
  | @cons s₁ s₂ s₃ event log head tail ih =>
    have hnext := timedOut_step head h
    by_cases hsettles : settles key event = true
    · rw [if_pos hsettles] at hnext
      rw [if_pos (by simp [hsettles])]
      exact tail.preserves (fun _ _ _ hs hstep => completed_step hstep hs) hnext
    · rw [if_neg hsettles] at hnext
      rw [Bool.not_eq_true] at hsettles
      rw [List.any_cons, hsettles, Bool.false_or]
      exact ih hnext

/-- What becomes of the correlation of a response that is not mismatched: it is completed, or it is
timed out when this is the answer. -/
theorem collected_of_handleResponse {request response : ISO8583Message} {key : NetworkCorrelation}
    {disposition : TransactionDisposition} (hkey : correlationKey response = .ok key)
    (h : self.handleResponse request response now = (.ok disposition, self'))
    (hne : disposition ≠ .mismatched) :
    if disposition = .timedOut then key ∈ self'.timedOut else key ∈ self'.completed := by
  cases handleResponse_spec h with
  | uncorrelated _ _ | unknown _ _ _ _ _ => exact absurd rfl hne
  | duplicate hkey' _ hcompleted =>
    cases hkey.symm.trans hkey'
    exact hcompleted
  | late hkey' _ _ _ | timedOut hkey' _ _ _ _ _ | accepted hkey' _ _ _ _ _ =>
    cases hkey.symm.trans hkey'
    exact Finset.mem_insert_self _ _

/-- An identical response, at any later time, is a duplicate; or it is late, when the answer was
that the transaction timed out and nothing has settled it since. -/
theorem handleResponse_again [Zero T] [Add T] {request response : ISO8583Message}
    {key : NetworkCorrelation} {disposition : TransactionDisposition} {log : List (Event T)}
    {later : NetworkTransactionCoordinator T} (hwf : self.WellFormed)
    (hkey : correlationKey response = .ok key)
    (hcorrelates : correlatesResponse request response = .ok true)
    (h : self.handleResponse request response now = (.ok disposition, self'))
    (hne : disposition ≠ .mismatched) (hsteps : (lts T).Steps self' log later) (now' : T) :
    (later.handleResponse request response now').1 = .ok
      (if disposition = .timedOut ∧ log.any (settles key) = false then .late else .duplicate) := by
  have hcollected := collected_of_handleResponse hkey h hne
  have hwf' : self'.WellFormed :=
    hwf.step (show (lts T).step self (.handleResponse request response now _) self' from h)
  have hwfLater : later.WellFormed :=
    hsteps.preserves (fun _ _ _ hs hstep => hs.step hstep) hwf'
  -- Once the key is completed, it stays so, and the answer is a duplicate.
  have hduplicate : key ∈ later.completed →
      (later.handleResponse request response now').1 = .ok .duplicate := fun hcompleted => by
    rw [handleResponse_of_completed now' hkey hcorrelates hcompleted]
  by_cases htimedOut : disposition = .timedOut
  · rw [if_pos htimedOut] at hcollected
    have hlater := timedOut_steps hsteps hcollected
    by_cases hsettled : log.any (settles key) = true
    · rw [if_pos hsettled] at hlater
      rw [if_neg (by simp [hsettled])]
      exact hduplicate hlater
    · rw [if_neg hsettled] at hlater
      rw [if_pos ⟨htimedOut, by simpa using hsettled⟩]
      -- Nothing has settled it, so the key is timed out still.
      have hcompleted : key ∉ later.completed := fun hmem =>
        hwfLater.completed_timedOut key hmem hlater
      rw [handleResponse_of_timedOut hkey hcorrelates hcompleted hlater]
  · rw [if_neg htimedOut] at hcollected
    rw [if_neg fun hboth => htimedOut hboth.1]
    exact hduplicate
      (hsteps.preserves (fun _ _ _ hs hstep => completed_step hstep hs) hcollected)

/-- In every run, when a sweep returns: a response whose transaction is not overdue is answered the
same before the sweep and after it, and the sweep may as well follow the response; a response whose
transaction is overdue does the sweep and says that the transaction timed out, and is late only once
the sweep is done. In both cases, after an answer other than that it is mismatched, the same
response is a duplicate at any later time, but that it is late first when the transaction has timed
out. -/
theorem lateness_of_run [Zero T] [Add T] {log : List (Event T)} (h : (lts T).Run log self)
    {request response : ISO8583Message} {expired : List NetworkCorrelation}
    {swept : NetworkTransactionCoordinator T} (hexpire : self.expire now = (.ok expired, swept))
    (hcorrelates : correlatesResponse request response = .ok true) :
    ∃ key, correlationKey response = .ok key ∧
      (¬self.Overdue now key → ∃ disposition after after',
        self.handleResponse request response now = (.ok disposition, after) ∧
        swept.handleResponse request response now = (.ok disposition, after') ∧
        after.expire now = (.ok expired, after')) ∧
      (self.Overdue now key →
        self.handleResponse request response now = (.ok .timedOut, swept) ∧
        (swept.handleResponse request response now).1 = .ok .late) ∧
      ∀ before, before = self ∨ before = swept → ∀ disposition after,
        before.handleResponse request response now = (.ok disposition, after) →
          disposition ≠ .mismatched → ∀ log' later now', (lts T).Steps after log' later →
            (later.handleResponse request response now').1 = .ok
              (if disposition = .timedOut ∧ log'.any (settles key) = false then .late
                else .duplicate) := by
  obtain ⟨key, -, hkey⟩ := correlationKey_of_correlatesResponse hcorrelates
  have hwf := wellFormed_of_run h
  refine ⟨key, hkey, fun hoverdue => handleResponse_expire_comm hkey hcorrelates hoverdue hexpire,
    fun hoverdue => handleResponse_of_expire hkey hcorrelates hwf hoverdue hexpire, ?_⟩
  intro before hbefore disposition after hhandle hne log' later now' hsteps
  have hwfBefore : before.WellFormed := by
    rcases hbefore with rfl | rfl
    · exact hwf
    · exact hwf.sweep hexpire
  exact handleResponse_again hwfBefore hkey hcorrelates hhandle hne hsteps now'

/-! ## One overdue transaction, and two -/

/-- A coordinator with two, of one deadline. -/
def pendingTwo : NetworkTransactionCoordinator ℤ := (pendingOne.register otherRequest 0 5).2

/-- The run that registers both. -/
theorem run_pendingTwo :
    (lts ℤ).Run [.register sampleRequest 0 5 (.ok sampleCorrelation),
      .register otherRequest 0 5 (.ok otherCorrelation)] pendingTwo := by
  obtain ⟨start, hnew, hsteps⟩ := run_pendingOne
  exact ⟨start, hnew, hsteps.append
    (.cons (show (lts ℤ).step pendingOne _ pendingTwo from rfl) (.nil _))⟩

/-- A transaction that is overdue alone is swept. -/
theorem sweeps_alone : ∃ expired self',
    pendingOne.expire 5 = (.ok expired, self') ∧ pendingOne.Sweeps 5 expired self' :=
  (sweeps_iff run_pendingOne 5).mpr (length_overdue_le_one_iff.mp (by decide))

/-- The sweep of two transactions that are overdue at once raises. -/
theorem not_sweeps_together :
    ∃ (log : List (Event ℤ)) (self : NetworkTransactionCoordinator ℤ) (now : ℤ),
      (lts ℤ).Run log self ∧ ¬∃ expired self',
        self.expire now = (.ok expired, self') ∧ self.Sweeps now expired self' := by
  refine ⟨_, pendingTwo, 5, run_pendingTwo, ?_⟩
  rintro ⟨expired, self', hexpire, -⟩
  obtain ⟨e, hraised⟩ := expire_of_length_overdue
    (show 1 < (pendingTwo.overdue 5).length by decide)
  rw [hexpire] at hraised
  cases hraised

/-- A coordinator with two pending transactions, the second with a later deadline. -/
def pendingLater : NetworkTransactionCoordinator ℤ := (pendingOne.register otherRequest 0 9).2

/-- The run that registers both. -/
theorem run_pendingLater :
    (lts ℤ).Run [.register sampleRequest 0 5 (.ok sampleCorrelation),
      .register otherRequest 0 9 (.ok otherCorrelation)] pendingLater := by
  obtain ⟨start, hnew, hsteps⟩ := run_pendingOne
  exact ⟨start, hnew, hsteps.append
    (.cons (show (lts ℤ).step pendingOne _ pendingLater from rfl) (.nil _))⟩

/-- A response before its deadline is accepted, and the sweep of the other transaction may follow
it. -/
theorem lateness_accepted :
    ∃ after after', pendingLater.handleResponse otherRequest otherResponse 5 =
      (.ok .accepted, after) ∧ after.expire 5 = (.ok [sampleCorrelation], after') := by
  have hexpire : pendingLater.expire 5 = (.ok [sampleCorrelation], (pendingLater.expire 5).2) := rfl
  obtain ⟨key, hkey, hbefore, -, -⟩ := lateness_of_run run_pendingLater hexpire
    (show correlatesResponse otherRequest otherResponse = .ok true from rfl)
  cases hkey
  obtain ⟨disposition, after, after', hhandle, -, hafter⟩ := hbefore (by
    rintro ⟨transaction, hlookup, hle⟩
    cases hlookup
    exact absurd hle (by decide))
  cases hhandle
  exact ⟨_, after', rfl, hafter⟩

/-- A response at the deadline is late after the sweep and not before it, and the same response is
late then and not a duplicate; and where the answer is the same, the final states may differ by what
the sweep has moved. -/
theorem lateness_at_deadline :
    (∃ log self expired swept after, (lts ℤ).Run log self ∧
      correlatesResponse sampleRequest sampleResponse = .ok true ∧
      self.expire 5 = (.ok expired, swept) ∧
      (swept.handleResponse sampleRequest sampleResponse 5).1 = .ok .late ∧
      self.handleResponse sampleRequest sampleResponse 5 = (.ok .timedOut, after) ∧
      (after.handleResponse sampleRequest sampleResponse 5).1 = .ok .late) ∧
    ∃ log self expired swept, (lts ℤ).Run log self ∧
      correlatesResponse otherRequest otherResponse = .ok true ∧
      self.expire 5 = (.ok expired, swept) ∧
      (self.handleResponse otherRequest otherResponse 5).1 =
        (swept.handleResponse otherRequest otherResponse 5).1 ∧
      (self.handleResponse otherRequest otherResponse 5).2.timedOut ≠
        (swept.handleResponse otherRequest otherResponse 5).2.timedOut := by
  refine ⟨⟨_, pendingOne, [sampleCorrelation], (pendingOne.expire 5).2, _, run_pendingOne, rfl, rfl,
    rfl, rfl, rfl⟩, ⟨_, pendingLater, [sampleCorrelation], (pendingLater.expire 5).2,
    run_pendingLater, rfl, rfl, rfl, ?_⟩⟩
  decide

end NetworkTransactionCoordinator

end AtlasPay
