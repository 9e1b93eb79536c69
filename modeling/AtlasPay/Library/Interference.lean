import AtlasPay.Library.ReadCommitted

/-!
# Transactions that do not interfere

A rule for concurrent sessions whose statements may answer differently when they run later, so that
their runs are not runs of whole transactions. It asks for an assertion `P` on the log and on what
is committed, and for an assertion `Q` on every open transaction: what it has read and written so
far agrees with what is committed. A session that commits must keep the assertions of the others,
whose locks are none of its own. Then all of them hold in every run (`InterferenceFree.holds`).
-/

universe u

namespace Engine

variable {S : Type u} {R : S → Type u} {Store Change Lock ρ ε α Call : Type u}

/-- The assertions hold of what is committed and of every open transaction, and no lock is held
twice. -/
structure Holds (P : List (Option (Call × Outcome ρ ε α)) → Store → Prop)
    (Q : Store → Session R Change Lock ε α Call → Prop)
    (log : List (Option (Call × Outcome ρ ε α)))
    (s : Sessions R Store Change Lock ε α Call) : Prop where
  committed : P log s.committed
  sessions : ∀ i session, s.active.lookup i = some session → Q s.committed session
  exclusive : ∀ i j session session', s.active.lookup i = some session →
    s.active.lookup j = some session' → i ≠ j → List.Disjoint session.held session'.held

/-- Every move of a session keeps its own assertion, and a commit, where it is allowed, also that of
what is committed and those of the sessions that hold other locks. -/
structure InterferenceFree (E : Engine R Store Change Lock ρ) (body : Call → Program R ε α)
    (init : Store → Prop) (allowed : Store → Option (Call × Outcome ρ ε α) → Prop)
    (P : List (Option (Call × Outcome ρ ε α)) → Store → Prop)
    (Q : Store → Session R Change Lock ε α Call → Prop) : Prop where
  start : ∀ c, init c → P [] c
  skip : ∀ log c label, P log c → (∀ call a, label ≠ some (call, .returned a)) →
    P (log ++ [label]) c
  begin : ∀ c call, Q c ⟨call, body call, [], []⟩
  statement : ∀ log c call s next changes held answer more, P log c →
    Q c ⟨call, .call s next, changes, held⟩ → E.run s (E.after changes c) = .ok (answer, more) →
      Q c ⟨call, next answer, changes ++ more, held ++ E.takes s (E.after changes c)⟩
  commit : ∀ log c call a changes held, P log c → Q c ⟨call, .done a, changes, held⟩ →
    (E.settle c changes).isOk → allowed c (some (call, .returned a)) →
      P (log ++ [some (call, .returned a)]) (E.after changes c)
  others : ∀ log c call a changes held session, P log c → Q c ⟨call, .done a, changes, held⟩ →
    Q c session → List.Disjoint held session.held → Q (E.after changes c) session

namespace Holds

variable {P : List (Option (Call × Outcome ρ ε α)) → Store → Prop}
  {Q : Store → Session R Change Lock ε α Call → Prop}
  {log : List (Option (Call × Outcome ρ ε α))} {s : Sessions R Store Change Lock ε α Call}

/-- A session that is dropped takes its assertion with it. -/
theorem erase (h : Holds P Q log s) (i : ℕ) {label : Option (Call × Outcome ρ ε α)} {c : Store}
    (hcommitted : P (log ++ [label]) c)
    (hothers : ∀ j session, j ≠ i → s.active.lookup j = some session → Q c session) :
    Holds P Q (log ++ [label]) ⟨c, s.active.erase i⟩ := by
  refine ⟨hcommitted, fun j session hj => ?_, fun j k session session' hj hk hne => ?_⟩
  · obtain ⟨hji, hj⟩ := AList.lookup_erase_eq_some.mp hj
    exact hothers j session hji hj
  · exact h.exclusive j k session session' (AList.lookup_erase_eq_some.mp hj).2
      (AList.lookup_erase_eq_some.mp hk).2 hne

/-- A session that goes on keeps its assertion, and takes locks that were free. -/
theorem insert (h : Holds P Q log s) {i : ℕ} {session : Session R Change Lock ε α Call}
    {label : Option (Call × Outcome ρ ε α)} (hcommitted : P (log ++ [label]) s.committed)
    (hsession : Q s.committed session)
    (hexclusive : ∀ j other, j ≠ i → s.active.lookup j = some other →
      List.Disjoint session.held other.held) :
    Holds P Q (log ++ [label]) ⟨s.committed, s.active.insert i session⟩ := by
  refine ⟨hcommitted, fun j other hj => ?_, fun j k other other' hj hk hne => ?_⟩
  · rcases AList.lookup_insert_eq_some.mp hj with ⟨-, rfl⟩ | ⟨-, hj⟩
    · exact hsession
    · exact h.sessions j other hj
  · rcases AList.lookup_insert_eq_some.mp hj with ⟨hji, rfl⟩ | ⟨hji, hother⟩
    · -- The other one is not the session that goes on.
      rcases AList.lookup_insert_eq_some.mp hk with ⟨hki, -⟩ | ⟨hki, hother'⟩
      · exact absurd (hji.trans hki.symm) hne
      · exact hexclusive k other' hki hother'
    · rcases AList.lookup_insert_eq_some.mp hk with ⟨-, rfl⟩ | ⟨-, hother'⟩
      · exact List.disjoint_symm (hexclusive j other hji hother)
      · exact h.exclusive j k other other' hother hother' hne

end Holds

variable [DecidableEq Lock] {E : Engine R Store Change Lock ρ} {body : Call → Program R ε α}
  {init : Store → Prop} {allowed : Store → Option (Call × Outcome ρ ε α) → Prop}
  {P : List (Option (Call × Outcome ρ ε α)) → Store → Prop}
  {Q : Store → Session R Change Lock ε α Call → Prop}

namespace InterferenceFree

omit [DecidableEq Lock] in
/-- A session that goes on or raises. -/
theorem proceed (h : InterferenceFree E body init allowed P Q)
    {log : List (Option (Call × Outcome ρ ε α))} {s s' : Sessions R Store Change Lock ε α Call}
    {label : Option (Call × Outcome ρ ε α)} (hholds : Holds P Q log s) {i : ℕ}
    {session : Session R Change Lock ε α Call} (hsession : Q s.committed session)
    (hexclusive : ∀ j other, j ≠ i → s.active.lookup j = some other →
      List.Disjoint session.held other.held)
    (hs' : s.proceed i session = (s', label)) : Holds P Q (log ++ [label]) s' := by
  have hskip := h.skip log s.committed label hholds.committed
  unfold Sessions.proceed at hs'
  split at hs'
  · cases hs'
    exact hholds.erase i (hskip (by simp)) fun j other _ hj => hholds.sessions j other hj
  · cases hs'
    exact hholds.insert (hskip (by simp)) hsession hexclusive

/-- What one move preserves. -/
theorem step (h : InterferenceFree E body init allowed P Q)
    {log : List (Option (Call × Outcome ρ ε α))} {s s' : Sessions R Store Change Lock ε α Call}
    {label : Option (Call × Outcome ρ ε α)} (hholds : Holds P Q log s)
    (hstep : (E.interleaved body init).step s label s') (hallowed : allowed s.committed label) :
    Holds P Q (log ++ [label]) s' := by
  have hskip := h.skip log s.committed label hholds.committed
  have hstays : ∀ i j session, j ≠ i → s.active.lookup j = some session → Q s.committed session :=
    fun _ j session _ hj => hholds.sessions j session hj
  cases moves_of_step hstep with
  | begun i call hproceed =>
    exact h.proceed hholds (h.begin s.committed call) (fun _ _ _ _ => List.disjoint_nil_left _)
      hproceed
  | @answered i call statement next changes more held answer label s' hi hfree hrun hproceed =>
    have hnext := h.statement log s.committed call statement next changes held answer more
      hholds.committed (hholds.sessions i _ hi) hrun
    refine h.proceed hholds hnext (fun j other hne hj => ?_) hproceed
    -- The locks that it held are not those of another session, and the new ones were free.
    have hheld := hholds.exclusive i j _ other hi hj (Ne.symm hne)
    have htaken := disjoint_of_isFree hfree hj hne
    exact List.disjoint_append_left.mpr ⟨hheld,
      List.disjoint_of_subset_left (E.takes_subset _ _) htaken⟩
  | refused i hi hrun => exact hholds.erase i (hskip (by simp)) (hstays i)
  | @committed i call a changes held hi hok =>
    have hsession := hholds.sessions i _ hi
    refine hholds.erase i (h.commit log s.committed call a changes held hholds.committed
      hsession hok hallowed) fun j other hne hj => ?_
    have hdisjoint := hholds.exclusive i j _ other hi hj (Ne.symm hne)
    exact h.others log s.committed call a changes held other hholds.committed hsession
      (hholds.sessions j other hj) hdisjoint
  | unsettled i hi hsettle => exact hholds.erase i (hskip (by simp)) (hstays i)
  | crashed i => exact hholds.erase i (hskip (by simp)) (hstays i)

/-- In every run of the sessions whose commits are allowed, the assertions hold. -/
theorem holds (h : InterferenceFree E body init allowed P Q)
    {log : List (Option (Call × Outcome ρ ε α))} {s : Sessions R Store Change Lock ε α Call}
    (hrun : ((E.interleaved body init).restrict fun s label => allowed s.committed label).Run
      log s) : Holds P Q log s := by
  refine hrun.log_invariant (P := fun log s => Holds P Q log s) ?_ ?_
  swap
  · rintro log s label s' - hholds ⟨hstep, hallowed⟩
    exact h.step hholds hstep hallowed
  rintro s ⟨hinit, hactive⟩
  have hnone : ∀ i, s.active.lookup i = none := by
    intro i
    rw [hactive]
    rfl
  refine ⟨h.start s.committed hinit, fun i session hi => ?_, fun i j session session' hi => ?_⟩
  · rw [hnone] at hi
    cases hi
  · rw [hnone] at hi
    cases hi

end InterferenceFree

end Engine
