import AtlasPay.Authorization.Decisions

/-!
# Keys and requests of `AuthorizationService`

`authorize` looks a decision up by its key, and compares nothing else. So a key that was used before
returns the stored decision for any other request, as long as the key has at most 128 characters: of
a longer one, of which the rest are spaces, the column keeps the first 128, the lookup does not find
it, and the unique constraint refuses the decision (`authorize_of_used`). A key is bound to its
request exactly in the runs that reuse no key, but for those (`bindsKeys_iff`).
-/

namespace AtlasPay

open AuthorizationController (AuthorizationResponse)

namespace AuthorizationService

variable {tables tables' : AuthorizationTables} {call : AuthorizeCall}

/-- Calls one after the other, on the migrated tables. -/
def serial : Lts AuthorizationTables (AuthorizeCall × Ended) :=
  authorizationPostgres.serial (· = .migrated) authorize

/-- The values of a call fit its columns. -/
def Fits (call : AuthorizeCall) : Prop :=
  ∃ row, AuthorizationTables.decisionRow call.decisionId call.key call.request
    (status call.request) (reason (status call.request)) = .ok row

/-! ## What a call does -/

/-- Nothing is refused for a unique key. -/
def NeverUnique {α : Type} (x : Except DbError α) : Prop := ∀ e, x = .error e → e ≠ .unique

/-- One thing after the other. -/
theorem NeverUnique.bind {α β : Type} {x : Except DbError α} {f : α → Except DbError β}
    (hx : NeverUnique x) (hf : ∀ a, NeverUnique (f a)) : NeverUnique (x >>= f) := by
  intro e h
  cases x with
  | error refusal =>
    cases h
    exact hx e rfl
  | ok a => exact hf a e h

/-- A value or its refusal. -/
theorem neverUnique_ite {α : Type} {c : Prop} [Decidable c] {x : Except DbError α} {e : DbError}
    (he : e ≠ .unique) (hx : NeverUnique x) : NeverUnique (if c then throw e else x) := by
  intro e' h
  split at h
  · cases h
    exact he
  · exact hx e' h

/-- The row of a decision is refused for its values only. -/
theorem neverUnique_decisionRow {decisionId : Uuid} {key status reason : String}
    {request : AuthorizationController.AuthorizationRequest} :
    NeverUnique (AuthorizationTables.decisionRow decisionId key request status reason) := by
  have hpure : ∀ {α : Type} (a : α), NeverUnique (pure a) := by
    intro α a e h
    cases h
  have htext : ∀ s, NeverUnique (text s) := fun s => neverUnique_ite (by decide) (hpure ())
  have hvarchar : ∀ n s, NeverUnique (varchar n s) := by
    intro n s e h
    unfold varchar at h
    split at h <;> cases h
    decide
  have hbpchar : ∀ n s, NeverUnique (bpchar n s) := by
    intro n s e h
    unfold bpchar at h
    split at h <;> cases h
    decide
  have hbigint : ∀ n, NeverUnique (bigint n) := by
    intro n e h
    unfold bigint at h
    split at h <;> cases h
    decide
  -- Text by text, and column by column.
  unfold AuthorizationTables.decisionRow
  refine (htext _).bind fun _ => (htext _).bind fun _ => (htext _).bind fun _ => ?_
  refine (htext _).bind fun _ => (htext _).bind fun _ => (htext _).bind fun _ => ?_
  refine (hvarchar _ _).bind fun _ => (hvarchar _ _).bind fun _ => (hvarchar _ _).bind fun _ => ?_
  refine (hbigint _).bind fun _ => (hbpchar _ _).bind fun _ => ?_
  refine (hvarchar _ _).bind fun _ => (hvarchar _ _).bind fun _ => ?_
  exact neverUnique_ite (by decide) (hpure _)

/-- A key of at most 128 characters that is there returns a stored decision, whatever the request
is. -/
theorem transact_of_hasKey (hkey : Storable call.key) (hthere : tables.HasKey call.key) :
    ∃ row ∈ tables.decisions.rows, row.key = call.key ∧
      authorizationPostgres.transact tables (authorize call) =
        (.returned row.response, tables) := by
  obtain ⟨row, hrow, hrowKey⟩ := hthere
  have hmem : row ∈ tables.decisions.rows.filter fun row => row.key = call.key :=
    List.mem_filter.mpr ⟨hrow, by simpa using hrowKey⟩
  cases hfound : tables.decisions.rows.filter fun row => row.key = call.key with
  | nil =>
    rw [hfound] at hmem
    cases hmem
  | cons first others =>
    have hfirst : first ∈ tables.decisions.rows.filter fun row => row.key = call.key := by
      rw [hfound]
      exact List.mem_cons_self
    obtain ⟨hfirstRow, hfirstKey⟩ := List.mem_filter.mp hfirst
    -- The select finds the first of the rows with the key, and nothing is inserted.
    have hrun : tables.selectDecisions call.key = .ok ((first :: others).map
        AuthorizationDecisionRow.response, []) :=
      AuthorizationTables.selectDecisions_eq_ok.mpr ⟨hkey, rfl, by rw [hfound]⟩
    have hexec : authorizationPostgres.Executes tables (authorize call) first.response [] [] := by
      refine Engine.executes_call.mpr ⟨_, _, [], [], hrun, ?_, rfl, rfl⟩
      exact Engine.executes_done.mpr ⟨rfl, rfl, rfl⟩
    exact ⟨first, hfirstRow, by simpa using hfirstKey, Engine.transact_of_executes hexec rfl⟩

/-- A key that is not there, but of which the column keeps one that is, is refused: for its values,
or as a duplicate. -/
theorem transact_of_keptText (hkey : Storable call.key) (habsent : ¬tables.HasKey call.key)
    (hkept : tables.HasKey (keptText 128 call.key)) :
    ∃ e, authorizationPostgres.transact tables (authorize call) = (.refused e, tables) ∧
      (e = .unique ↔ Fits call) := by
  have hnone : tables.decisions.rows.filter (fun row => row.key = call.key) = [] := by
    refine List.filter_eq_nil_iff.mpr fun row hrow hrowKey => habsent ⟨row, hrow, ?_⟩
    simpa using hrowKey
  have hselect : tables.selectDecisions call.key = .ok ([], []) :=
    AuthorizationTables.selectDecisions_eq_ok.mpr ⟨hkey, rfl, by rw [hnone]; rfl⟩
  -- After the empty answer, the insert is refused.
  have hrefused : ∃ e, tables.insertDecision call.decisionId call.key call.request
      (status call.request) (reason (status call.request)) = .error e ∧
        (e = .unique ↔ Fits call) := by
    unfold AuthorizationTables.insertDecision
    cases hrow : AuthorizationTables.decisionRow call.decisionId call.key call.request
        (status call.request) (reason (status call.request)) with
    | error e =>
      have hne : e ≠ .unique := neverUnique_decisionRow e hrow
      refine ⟨e, rfl, iff_of_false hne ?_⟩
      rintro ⟨row, hok⟩
      rw [hrow] at hok
      cases hok
    | ok row =>
      -- The key of the row is what the column keeps, which is taken.
      have hexists : tables.decisionExists row = true := by
        rw [← Bool.not_eq_false, AuthorizationTables.decisionExists_eq_false]
        rintro ⟨-, hnew⟩
        rw [(AuthorizationTables.decisionRow_eq_ok hrow).2.1] at hnew
        exact hnew hkept
      refine ⟨.unique, ?_, iff_of_true rfl ⟨row, hrow⟩⟩
      change (if tables.decisionExists row = true then throw DbError.unique else _) = _
      rw [if_pos hexists]
      rfl
  obtain ⟨e, hinsert, hunique⟩ := hrefused
  refine ⟨e, Engine.transact_of_refused ?_, hunique⟩
  have hrest : (authorizationPostgres.exec tables (recordDecision call)).outcome = .refused e := by
    unfold recordDecision Engine.exec
    have hrun : authorizationPostgres.run (.insertDecision call.decisionId call.key call.request
        (status call.request) (reason (status call.request))) tables = .error e := hinsert
    rw [hrun]
  have hstep : authorizationPostgres.run (.selectDecisions call.key) tables = .ok ([], []) :=
    hselect
  unfold authorize
  rw [Engine.outcome_exec_call hstep]
  exact hrest

/-! ## Runs -/

/-- The request of a call that returned for a key. -/
def requestFor (key : String) (entry : AuthorizeCall × Ended) :
    Option AuthorizationController.AuthorizationRequest :=
  match entry.2 with
  | .returned _ => if entry.1.key = key then some entry.1.request else none
  | _ => none

/-- The request that a key was first used with, by a call that returned. -/
def firstRequest (log : List (AuthorizeCall × Ended)) (key : String) :
    Option AuthorizationController.AuthorizationRequest :=
  log.findSome? (requestFor key)

/-- Every call whose key was first used with another request is refused as a duplicate. -/
def BindsKeys (log : List (AuthorizeCall × Ended)) : Prop :=
  ∀ earlier call outcome later first, log = earlier ++ (call, outcome) :: later →
    firstRequest earlier call.key = some first → first ≠ call.request →
      outcome = .refused .unique

/-- No key is used again with another request, but for those of more than 128 characters, in calls
whose values fit. -/
def ReusesLongKeysOnly (log : List (AuthorizeCall × Ended)) : Prop :=
  ∀ earlier call outcome later first, log = earlier ++ (call, outcome) :: later →
    firstRequest earlier call.key = some first → first ≠ call.request →
      128 < call.key.length ∧ Fits call

/-- A key that was used is stored, as far as the column keeps it. -/
theorem hasKey_of_firstRequest {log : List (AuthorizeCall × Ended)} (h : serial.Run log tables)
    {key : String} {first : AuthorizationController.AuthorizationRequest}
    (hfirst : firstRequest log key = some first) :
    Storable key ∧ tables.HasKey (keptText 128 key) := by
  have hused : ∀ key, (firstRequest log key).isSome →
      Storable key ∧ tables.HasKey (keptText 128 key) := by
    refine h.log_invariant (P := fun log tables => ∀ key, (firstRequest log key).isSome →
      Storable key ∧ tables.HasKey (keptText 128 key)) ?_ ?_
    · intro tables _ key hsome
      cases hsome
    · intro log tables label tables' _ hbefore hstep key hsome
      unfold firstRequest at hsome
      rw [List.findSome?_append, List.findSome?_singleton, Option.isSome_or,
        Bool.or_eq_true] at hsome
      rcases Engine.transact_cases hstep with ⟨rfl, hfailed⟩ |
        ⟨response, changes, held, houtcome, hexec, -, rfl⟩
      · -- A call that did not return uses no key.
        have hnone : requestFor key label = none := by
          unfold requestFor
          split
          · next houtcome => exact absurd houtcome (hfailed _)
          · rfl
        rw [hnone] at hsome
        exact hbefore key (hsome.resolve_right (by simp))
      · obtain ⟨hstorable, hauthorizes⟩ := authorizes_of_executes hexec
        have hnow : (requestFor key label).isSome → label.1.key = key := by
          intro hlabel
          unfold requestFor at hlabel
          rw [houtcome] at hlabel
          by_contra hne
          simp [hne] at hlabel
        cases hauthorizes with
        | found row hrow hkey =>
          rcases hsome with hold | hlabel
          · exact hbefore key hold
          · have hthere : tables.HasKey key := ⟨row, hrow, hkey.trans (hnow hlabel)⟩
            rw [keptText_of_length hthere.length_le]
            exact ⟨hnow hlabel ▸ hstorable, hthere⟩
        | decided row event hdecides hnew heventNew =>
          obtain ⟨habsent, -⟩ := AuthorizationTables.decisionExists_eq_false.mp hnew
          have hkeys : ∀ other, (authorizationPostgres.after
              [.insertDecision row, .insertOutboxEvent event] tables).HasKey other ↔
                tables.HasKey other ∨ row.key = other :=
            AuthorizationTables.hasKey_insertDecision habsent
          -- The new row has its key as far as the column keeps it.
          rw [hkeys]
          rcases hsome with hold | hlabel
          · exact ⟨(hbefore key hold).1, .inl (hbefore key hold).2⟩
          · have hrowKey := (AuthorizationTables.decisionRow_eq_ok hdecides.row_eq).2.1
            rw [hnow hlabel] at hrowKey hstorable
            exact ⟨hstorable, .inr hrowKey⟩
  exact hused key (by rw [hfirst]; rfl)

/-- A call whose key was used before is refused as a duplicate exactly when its key is too long to
be found, and its values fit. -/
theorem refused_unique_iff {log : List (AuthorizeCall × Ended)} {outcome : Ended}
    (h : serial.Run log tables) (hstep : serial.step tables (call, outcome) tables')
    {first : AuthorizationController.AuthorizationRequest}
    (hfirst : firstRequest log call.key = some first) :
    outcome = .refused .unique ↔ 128 < call.key.length ∧ Fits call := by
  obtain ⟨hstorable, hkept⟩ := hasKey_of_firstRequest h hfirst
  have hstep : authorizationPostgres.transact tables (authorize call) = (outcome, tables') := hstep
  -- A key that the column keeps whole is found, and its decision is returned.
  by_cases hlength : call.key.length ≤ 128
  · rw [keptText_of_length hlength] at hkept
    obtain ⟨row, -, -, htransact⟩ := transact_of_hasKey hstorable hkept
    rw [htransact] at hstep
    have houtcome : outcome = .returned row.response := (congrArg Prod.fst hstep).symm
    rw [houtcome]
    exact iff_of_false (by simp) fun hlong => by omega
  · have habsent : ¬tables.HasKey call.key := fun hthere => hlength hthere.length_le
    obtain ⟨e, htransact, hunique⟩ := transact_of_keptText hstorable habsent hkept
    rw [htransact] at hstep
    have houtcome : outcome = .refused e := (congrArg Prod.fst hstep).symm
    have hlong : 128 < call.key.length := by omega
    rw [houtcome, ← hunique]
    simp [hlong]

/-- In every run, keys are bound to their requests exactly when none is used again with another
request, but for long ones. -/
theorem bindsKeys_iff {log : List (AuthorizeCall × Ended)} (h : serial.Run log tables) :
    BindsKeys log ↔ ReusesLongKeysOnly log := by
  have hiff : ∀ earlier call outcome later first, log = earlier ++ (call, outcome) :: later →
      firstRequest earlier call.key = some first →
      (outcome = .refused .unique ↔ 128 < call.key.length ∧ Fits call) := by
    intro earlier call outcome later first hlog hfirst
    rw [hlog] at h
    obtain ⟨before, after, hearlier, hstep, -⟩ := Lts.run_split h
    exact refused_unique_iff hearlier hstep hfirst
  constructor
  · intro hbinds earlier call outcome later first hlog hfirst hne
    exact (hiff earlier call outcome later first hlog hfirst).mp
      (hbinds earlier call outcome later first hlog hfirst hne)
  · intro hreuses earlier call outcome later first hlog hfirst hne
    exact (hiff earlier call outcome later first hlog hfirst).mpr
      (hreuses earlier call outcome later first hlog hfirst hne)

/-- A request of ten euros. -/
def sampleRequest (paymentId : String) : AuthorizationController.AuthorizationRequest :=
  ⟨paymentId, "issuer-1", 1000, "EUR"⟩

/-- The outcomes of some calls, one after the other. -/
def outcomes (calls : List AuthorizeCall) : List (AuthorizeCall × Ended) :=
  (authorizationPostgres.transactAll authorize .migrated calls).1

/-- Some calls are a run. -/
theorem run_outcomes (calls : List AuthorizeCall) :
    ∃ tables, serial.Run (outcomes calls) tables :=
  ⟨(authorizationPostgres.transactAll authorize .migrated calls).2,
    Engine.run_transactAll (· = AuthorizationTables.migrated) authorize rfl calls⟩

/-- A call and its retry. -/
def retried : List AuthorizeCall :=
  [⟨"idem-1", sampleRequest "pay-1", 1, "evt-1", 0⟩,
   ⟨"idem-1", sampleRequest "pay-1", 2, "evt-2", 1⟩]

/-- A call, and another one with its key. -/
def reused : List AuthorizeCall :=
  [⟨"idem-1", sampleRequest "pay-1", 1, "evt-1", 0⟩,
   ⟨"idem-1", sampleRequest "pay-2", 2, "evt-2", 1⟩]

/-- A retry returns the decision of the first call, and binds its key. -/
theorem bindsKeys_retried :
    (outcomes retried).map Prod.snd =
      List.replicate 2 (.returned ⟨1, "pay-1", "approved", "issuer_approved"⟩) ∧
    (BindsKeys (outcomes retried) ↔ ReusesLongKeysOnly (outcomes retried)) := by
  obtain ⟨tables, hrun⟩ := run_outcomes retried
  exact ⟨by decide, bindsKeys_iff hrun⟩

/-- A key that is used again, for another payment, returns the decision on the first payment. -/
theorem not_bindsKeys_reused : ¬∀ log tables, serial.Run log tables → BindsKeys log := by
  intro h
  obtain ⟨tables, hrun⟩ := run_outcomes reused
  have hbinds := h _ _ hrun
  have hsecond := hbinds _ _ _ [] (sampleRequest "pay-1")
    (show outcomes reused = [(⟨"idem-1", sampleRequest "pay-1", 1, "evt-1", 0⟩,
        .returned ⟨1, "pay-1", "approved", "issuer_approved"⟩)] ++
      [(⟨"idem-1", sampleRequest "pay-2", 2, "evt-2", 1⟩,
        .returned ⟨1, "pay-1", "approved", "issuer_approved"⟩)] by decide)
    (by decide) (by decide)
  cases hsecond

end AuthorizationService

end AtlasPay
