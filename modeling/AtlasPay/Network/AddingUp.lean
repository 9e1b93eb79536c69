import AtlasPay.Network.FlowRuns
import AtlasPay.Network.Snapshot

/-!
# How the network section adds up

`_measure_database` asks for the totals, the dispositions and the routes in three statements. What
is recorded between them is counted by the later ones only. So the routes sum to the totals and what
was recorded between these two statements, and to the totals alone exactly when nothing was
(`sum_routes_of_run`).
-/

namespace AtlasPay

open ReadingLabel SnapshotStatement

variable {T : Type} [LinearOrder T] [Zero T] {server : Server T} {maxAttempts : ℤ}

/-- One call of `_measure_database` while others commit, from any tables. -/
def measuring (server : Server T) (maxAttempts : ℤ) :
    Lts (Reading (Answer T) (ObservedTables T) Empty (DatabaseMeasurements T))
      (ReadingLabel SnapshotStatement (ObservedCommit T)) :=
  reading (answer server) ObservedCommit.apply (measureDatabase maxAttempts)

/-- The rows that are recorded after one statement started and before another. -/
def recordedBetween (s t : SnapshotStatement)
    (log : List (ReadingLabel SnapshotStatement (ObservedCommit T))) :
    List (NetworkObservationRow T) :=
  (between s t log).filterMap ObservedCommit.row?

/-- The routes sum to the totals, and the dispositions to no more. -/
structure DatabaseMeasurements.AddsUp (m : DatabaseMeasurements T) : Prop where
  observations :
    (m.networkRoutes.map RouteNetworkSummary.observations).sum = m.networkObservations
  timeouts : (m.networkRoutes.map RouteNetworkSummary.timeouts).sum = m.networkTimeouts
  lateResponses :
    (m.networkRoutes.map RouteNetworkSummary.lateResponses).sum = m.networkLateResponses
  dispositions : (m.networkDispositionCounts.map Prod.snd).sum ≤ m.networkObservations

/-! ## One statement -/

/-- What is counted in each route sums to what is counted in the table. -/
theorem sum_networkRoutes (field : RouteNetworkSummary T → ℕ) (p : NetworkObservationRow T → Bool)
    (hfield : ∀ group x, field { routeRow server group with p95LatencyMs := x } = group.2.countP p)
    (c : ObservedTables T) :
    (((answer server .networkRoutes c).map fun row =>
      { row with p95LatencyMs := max row.p95LatencyMs 0 }).map field).sum =
      c.networkObservations.countP p := by
  rw [← sum_countP_groups route (inRouteOrder server.collate) p c.networkObservations]
  unfold answer
  rw [List.map_map, List.map_map]
  exact congrArg List.sum (List.map_congr_left fun group _ => hfield group _)

/-- The dispositions count the rows that have one. -/
theorem sum_networkDispositions (c : ObservedTables T) :
    ((answer server .networkDispositions c).map Prod.snd).sum =
      c.networkObservations.countP fun row => row.disposition.isSome := by
  have hgroups := sum_countP_groups id server.collate (fun _ => true)
    (c.networkObservations.filterMap NetworkObservationRow.disposition)
  simp only [List.countP_true] at hgroups
  unfold answer
  rw [List.map_map]
  exact hgroups.trans (List.length_filterMap_eq_countP)

/-! ## Runs -/

/-- The statements, in their order. -/
theorem asks_measureDatabase (maxAttempts : ℤ) :
    (measureDatabase (T := T) maxAttempts).Asks [.paymentStatuses, .paymentOperations,
      .outboxEvents maxAttempts, .networkTotals, .networkDispositions, .networkRoutes] :=
  .call fun _ => .call fun _ => .call fun _ => .call fun _ => .call fun _ => .call fun _ => .done _

/-- What others commit adds the rows that they record. -/
theorem networkObservations_foldl (commits : List (ObservedCommit T)) (c : ObservedTables T) :
    (commits.foldl (fun c commit => commit.apply c) c).networkObservations =
      c.networkObservations ++ commits.filterMap ObservedCommit.row? := by
  induction commits generalizing c with
  | nil => exact (List.append_nil _).symm
  | cons commit commits ih =>
    have hcommit : (commit.apply c).networkObservations =
        c.networkObservations ++ commit.row?.toList := by
      cases commit with
      | record observation => rfl
      | change tables => exact (List.append_nil _).symm
    rw [List.foldl_cons, ih, hcommit, List.append_assoc]
    cases hrow : commit.row? with
    | none => rw [List.filterMap_cons_none hrow]; rfl
    | some row => rw [List.filterMap_cons_some hrow]; rfl

/-- The network section counts the rows that its three statements saw. -/
structure DatabaseMeasurements.Counts (m : DatabaseMeasurements T)
    (totals dispositions routes : List (NetworkObservationRow T)) : Prop where
  observations : m.networkObservations = totals.length
  timeouts : m.networkTimeouts = totals.countP isTimeout
  lateResponses : m.networkLateResponses = totals.countP isLate
  dispositions : (m.networkDispositionCounts.map Prod.snd).sum =
    dispositions.countP fun row => row.disposition.isSome
  routeObservations :
    (m.networkRoutes.map RouteNetworkSummary.observations).sum = routes.length
  routeTimeouts : (m.networkRoutes.map RouteNetworkSummary.timeouts).sum = routes.countP isTimeout
  routeLateResponses :
    (m.networkRoutes.map RouteNetworkSummary.lateResponses).sum = routes.countP isLate

variable {log : List (ReadingLabel SnapshotStatement (ObservedCommit T))}

/-- A later statement sees the rows of an earlier one, and those that were recorded since. -/
theorem viewed_networkObservations {s t : SnapshotStatement} (before : List SnapshotStatement)
    {after : List SnapshotStatement} (hasked : asked log = before ++ s :: after) (hne : s ≠ t)
    (hbefore : t ∉ before) (c : ObservedTables T) :
    (viewed ObservedCommit.apply t log c).networkObservations =
      (viewed ObservedCommit.apply s log c).networkObservations ++ recordedBetween s t log := by
  rw [viewed_eq_between hasked hne hbefore, networkObservations_foldl, recordedBetween]

/-- The rows that the statements saw, each with what was recorded since the one before. -/
theorem counts_of_run {final : ObservedTables T} {m : DatabaseMeasurements T}
    (h : (measuring server maxAttempts).Run log ⟨final, .done m⟩) :
    ∃ totals dispositions routes : List (NetworkObservationRow T),
      m.Counts totals dispositions routes ∧
      dispositions = totals ++ recordedBetween .networkTotals .networkDispositions log ∧
      routes = dispositions ++ recordedBetween .networkDispositions .networkRoutes log ∧
      routes = totals ++ recordedBetween .networkTotals .networkRoutes log := by
  obtain ⟨⟨start, program⟩, rfl, hsteps⟩ := h
  obtain ⟨hasked, hresult⟩ := reads_of_steps (asks_measureDatabase maxAttempts) (by simp) hsteps
  cases hresult
  have hlength : ∀ rows : List (NetworkObservationRow T),
      rows.countP (fun _ => true) = rows.length := fun rows => congrFun List.countP_true rows
  -- Three statements come before that of the totals.
  let before : List SnapshotStatement :=
    [.paymentStatuses, .paymentOperations, .outboxEvents maxAttempts]
  refine ⟨_, _, _, ⟨rfl, rfl, rfl, sum_networkDispositions _, ?_,
    sum_networkRoutes RouteNetworkSummary.timeouts isTimeout (fun _ _ => rfl) _,
    sum_networkRoutes RouteNetworkSummary.lateResponses isLate (fun _ _ => rfl) _⟩, ?_, ?_, ?_⟩
  · exact (sum_networkRoutes RouteNetworkSummary.observations (fun _ => true)
      (fun group _ => (hlength group.2).symm) _).trans (hlength _)
  · exact viewed_networkObservations (s := .networkTotals) (t := .networkDispositions) before hasked
      (by decide) (by simp [before]) _
  · exact viewed_networkObservations (s := .networkDispositions) (t := .networkRoutes)
      (before ++ [.networkTotals]) hasked (by decide) (by simp [before]) _
  · exact viewed_networkObservations (s := .networkTotals) (t := .networkRoutes) before hasked
      (by decide) (by simp [before]) _

/-- In any interleaving, the routes sum to the totals and what was recorded between the two
statements, and the dispositions to no more than the routes. So the section adds up exactly when
nothing was recorded between the statements of the totals and of the routes. -/
theorem sum_routes_of_run {final : ObservedTables T} {m : DatabaseMeasurements T}
    (h : (measuring server maxAttempts).Run log ⟨final, .done m⟩) :
    (m.networkRoutes.map RouteNetworkSummary.observations).sum =
        m.networkObservations + (recordedBetween .networkTotals .networkRoutes log).length ∧
      (m.networkRoutes.map RouteNetworkSummary.timeouts).sum =
        m.networkTimeouts + (recordedBetween .networkTotals .networkRoutes log).countP isTimeout ∧
      (m.networkRoutes.map RouteNetworkSummary.lateResponses).sum =
        m.networkLateResponses + (recordedBetween .networkTotals .networkRoutes log).countP isLate ∧
      (m.networkDispositionCounts.map Prod.snd).sum ≤
        m.networkObservations +
          (recordedBetween .networkTotals .networkDispositions log).length ∧
      (m.networkDispositionCounts.map Prod.snd).sum ≤
        (m.networkRoutes.map RouteNetworkSummary.observations).sum ∧
      (m.AddsUp ↔ recordedBetween .networkTotals .networkRoutes log = []) := by
  obtain ⟨totals, dispositions, routes, hcounts, hdispositions, hroutes, htotals⟩ :=
    counts_of_run h
  -- What the later statement counts is what the first one counted, and what came in between.
  have hobservations : (m.networkRoutes.map RouteNetworkSummary.observations).sum =
      m.networkObservations + (recordedBetween .networkTotals .networkRoutes log).length := by
    rw [hcounts.routeObservations, hcounts.observations, htotals, List.length_append]
  have htimeouts : (m.networkRoutes.map RouteNetworkSummary.timeouts).sum =
      m.networkTimeouts + (recordedBetween .networkTotals .networkRoutes log).countP isTimeout := by
    rw [hcounts.routeTimeouts, hcounts.timeouts, htotals, List.countP_append]
  have hlate : (m.networkRoutes.map RouteNetworkSummary.lateResponses).sum =
      m.networkLateResponses +
        (recordedBetween .networkTotals .networkRoutes log).countP isLate := by
    rw [hcounts.routeLateResponses, hcounts.lateResponses, htotals, List.countP_append]
  have hsome : (m.networkDispositionCounts.map Prod.snd).sum ≤ dispositions.length :=
    hcounts.dispositions.trans_le List.countP_le_length
  have hall : (m.networkDispositionCounts.map Prod.snd).sum ≤
      (m.networkRoutes.map RouteNetworkSummary.observations).sum := by
    rw [hcounts.routeObservations, hroutes, List.length_append]
    omega
  refine ⟨hobservations, htimeouts, hlate, ?_, hall, ?_⟩
  · rw [hcounts.observations, ← List.length_append, ← hdispositions]
    exact hsome
  constructor
  · intro hadds
    rw [hadds.observations] at hobservations
    exact List.length_eq_zero_iff.mp (by omega)
  · intro hnone
    rw [hnone] at hobservations htimeouts hlate
    exact ⟨hobservations, htimeouts, hlate, hall.trans_eq hobservations⟩

/-- A server that computes exactly. -/
def exactServer : Server ℚ where
  collate a b := a ≤ b
  now := 0
  epoch age := age / 1000000
  percentile95 values :=
    match values.insertionSort (· ≤ ·) with
    | [] => none
    | low :: rest =>
      let position := 95 * rest.length
      let before := (low :: rest).getD (position / 100) low
      let next := (low :: rest).getD (position / 100 + 1) before
      some (before + (next - before) * (position % 100 : ℕ) / 100)

/-- The observation of an exchange that was answered. -/
def answered : NetworkObservation ℚ where
  route := AuthorizationNetworkFlow.sampleRoute
  transportOutcome := .response
  disposition := some .accepted
  deliveryUnknown := false
  latencyMs := 40
  latencyMs_nonneg := by norm_num

/-- It is recorded when the totals have been read, and before the rest is. -/
def interrupted : List (ReadingLabel SnapshotStatement (ObservedCommit ℚ)) := [
  .read .paymentStatuses, .read .paymentOperations, .read (.outboxEvents 5), .read .networkTotals,
  .commit (.record answered), .read .networkDispositions, .read .networkRoutes]

/-- It is a run of a call from the migrated tables, whose routes count one row more than its
totals. -/
theorem exists_run_interrupted :
    ∃ final m, (measuring exactServer 5).Run interrupted ⟨final, .done m⟩ ∧
      (m.networkRoutes.map RouteNetworkSummary.observations).sum = 1 ∧
      m.networkObservations = 0 := by
  refine ⟨_, _, ⟨⟨⟨.migrated, []⟩, _⟩, rfl, .cons ⟨_, rfl, rfl⟩ (.cons ⟨_, rfl, rfl⟩
    (.cons ⟨_, rfl, rfl⟩ (.cons ⟨_, rfl, rfl⟩ (.cons rfl (.cons ⟨_, rfl, rfl⟩
      (.cons ⟨_, rfl, rfl⟩ (.nil _)))))))⟩, by decide, by decide⟩

/-- The routes count it, the totals do not. -/
theorem sum_routes_interrupted :
    ∃ final m, (measuring exactServer 5).Run interrupted ⟨final, .done m⟩ ∧
      (m.networkRoutes.map RouteNetworkSummary.observations).sum = m.networkObservations + 1 := by
  obtain ⟨final, m, hrun, -⟩ := exists_run_interrupted
  exact ⟨final, m, hrun, (sum_routes_of_run hrun).1⟩

/-- So the section does not add up in every run. -/
theorem not_addsUp_interrupted :
    ¬∀ log final m, (measuring exactServer 5).Run log ⟨final, .done m⟩ → m.AddsUp := by
  intro h
  obtain ⟨final, m, hrun, hroutes, htotal⟩ := exists_run_interrupted
  have hsum := (h interrupted final m hrun).observations
  rw [hroutes, htotal] at hsum
  exact absurd hsum (by decide)

end AtlasPay
