import Mathlib.Algebra.BigOperators.Group.Finset.Piecewise
import Mathlib.Algebra.GroupWithZero.Nat
import Mathlib.Algebra.Order.BigOperators.Group.Finset
import Mathlib.Data.List.Induction
import Mathlib.Order.Basic

/-!
# Labelled transition systems and what their runs preserve

A system has initial states and steps, each step labelled with what can be seen of it. A run is the
list of labels from an initial state. The rules here take a fact about one step to a fact about all
runs: invariants, with or without the log of the labels, relations that every step respects, and
labels that occur at most once because the first occurrence uses something up.
-/

/-- A labelled transition system. -/
structure Lts (σ ε : Type*) where
  /-- The states that a run may start in. -/
  init : σ → Prop
  /-- A step from one state to another, with its label. -/
  step : σ → ε → σ → Prop

namespace Lts

variable {σ ε : Type*} (L : Lts σ ε)

/-- The labels lead from one state to another. -/
inductive Steps : σ → List ε → σ → Prop where
  | nil (s : σ) : Steps s [] s
  | cons {s s' s'' : σ} {e : ε} {log : List ε} (head : L.step s e s') (tail : Steps s' log s'') :
      Steps s (e :: log) s''

/-- The labels lead from an initial state to a state. -/
def Run (log : List ε) (s : σ) : Prop := ∃ s₀, L.init s₀ ∧ L.Steps s₀ log s

/-- The same system, of whose steps only those are left that meet a condition. -/
def restrict (condition : σ → ε → Prop) : Lts σ ε where
  init := L.init
  step s e s' := L.step s e s' ∧ condition s e

/-- A machine that says what each move does, where it is possible, as a system. -/
def ofMoves {μ : Type*} (init : σ → Prop) (advance : σ → μ → Option (σ × ε)) : Lts σ ε where
  init := init
  step s e s' := ∃ move, advance s move = some (s', e)

/-- Moves of a machine one after the other. -/
def play {μ : Type*} (advance : σ → μ → Option (σ × ε)) (s : σ) : List μ → Option (σ × List ε)
  | [] => some (s, [])
  | move :: moves =>
    match advance s move with
    | none => none
    | some (s', e) => (play advance s' moves).map fun played => (played.1, e :: played.2)

variable {L}

/-- What is played is steps of a system that has each move of the machine as a step. -/
theorem steps_of_play_of_advance {μ : Type*} {advance : σ → μ → Option (σ × ε)}
    (hadvance : ∀ s move s' e, advance s move = some (s', e) → L.step s e s')
    {moves : List μ} {s s' : σ} {log : List ε} (h : play advance s moves = some (s', log)) :
    L.Steps s log s' := by
  induction moves generalizing s log with
  | nil =>
    cases h
    exact Steps.nil _
  | cons move moves ih =>
    unfold play at h
    cases hmove : advance s move with
    | none => simp [hmove] at h
    | some result =>
      simp only [hmove] at h
      obtain ⟨⟨t, rest⟩, hrest, heq⟩ := Option.map_eq_some_iff.mp h
      cases heq
      exact Steps.cons (hadvance s move _ _ hmove) (ih hrest)

/-- What is played is steps. -/
theorem steps_of_play {μ : Type*} {init : σ → Prop} {advance : σ → μ → Option (σ × ε)}
    {moves : List μ} {s s' : σ} {log : List ε} (h : play advance s moves = some (s', log)) :
    (ofMoves init advance).Steps s log s' :=
  steps_of_play_of_advance (L := ofMoves init advance) (fun _ move _ _ hmove => ⟨move, hmove⟩) h

/-- Steps of a system are played by a machine that has each of them as a move. -/
theorem play_of_steps {μ : Type*} {advance : σ → μ → Option (σ × ε)}
    (hadvance : ∀ s e s', L.step s e s' → ∃ move, advance s move = some (s', e)) {s s' : σ}
    {log : List ε} (h : L.Steps s log s') : ∃ moves, play advance s moves = some (s', log) := by
  induction h with
  | nil s => exact ⟨[], rfl⟩
  | cons head _ ih =>
    obtain ⟨move, hmove⟩ := hadvance _ _ _ head
    obtain ⟨moves, hmoves⟩ := ih
    refine ⟨move :: moves, ?_⟩
    simp only [play, hmove, hmoves, Option.map_some]

/-- Two machines whose moves keep a relation of their states, and have related labels, keep it when
they play related moves one after the other. -/
theorem play_rel {τ μ ν δ : Type*} {R : σ → τ → Prop} {C : μ → ν → Prop} {E : ε → δ → Prop}
    {advance : σ → μ → Option (σ × ε)} {advance' : τ → ν → Option (τ × δ)}
    (hadvance : ∀ s t move move', R s t → C move move' →
      Option.Rel (fun p q => R p.1 q.1 ∧ E p.2 q.2) (advance s move) (advance' t move'))
    {moves : List μ} {moves' : List ν} (hmoves : List.Forall₂ C moves moves') {s : σ} {t : τ}
    (h : R s t) :
    Option.Rel (fun p q => R p.1 q.1 ∧ List.Forall₂ E p.2 q.2) (play advance s moves)
      (play advance' t moves') := by
  induction hmoves generalizing s t with
  | nil => exact .some ⟨h, .nil⟩
  | @cons move move' moves moves' hmove _ ih =>
    have hnext := hadvance s t move move' h hmove
    unfold play
    generalize advance s move = next, advance' t move' = next' at hnext
    cases hnext with
    | none => exact .none
    | @some p q hboth =>
      have hrest := ih hboth.1
      generalize hplay : play advance p.1 moves = rest, hplay' : play advance' q.1 moves' = rest'
        at hrest
      simp only [hplay, hplay']
      cases hrest with
      | none => exact .none
      | some hrest => exact .some ⟨hrest.1, .cons hboth.2 hrest.2⟩

/-- Steps compose. -/
theorem Steps.append {s s' s'' : σ} {log log' : List ε} (h : L.Steps s log s')
    (h' : L.Steps s' log' s'') : L.Steps s (log ++ log') s'' := by
  induction h with
  | nil _ => exact h'
  | cons head _ ih => exact Steps.cons head (ih h')

/-- Steps along two lists pass through a state between them. -/
theorem steps_append_iff {s s'' : σ} {log log' : List ε} :
    L.Steps s (log ++ log') s'' ↔ ∃ s', L.Steps s log s' ∧ L.Steps s' log' s'' := by
  constructor
  · intro h
    induction log generalizing s with
    | nil => exact ⟨s, Steps.nil s, h⟩
    | cons e log ih =>
      cases h with
      | cons head tail =>
        obtain ⟨s', hs', htail⟩ := ih tail
        exact ⟨s', Steps.cons head hs', htail⟩
  · rintro ⟨s', hs', htail⟩
    exact hs'.append htail

/-- Steps along a list with a first label start with it. -/
theorem steps_cons_iff {s s'' : σ} {e : ε} {log : List ε} :
    L.Steps s (e :: log) s'' ↔ ∃ s', L.step s e s' ∧ L.Steps s' log s'' := by
  constructor
  · rintro (_ | ⟨head, tail⟩)
    exact ⟨_, head, tail⟩
  · rintro ⟨s', head, tail⟩
    exact Steps.cons head tail

/-- No labels lead nowhere else. -/
theorem steps_nil_iff {s s' : σ} : L.Steps s [] s' ↔ s' = s := by
  constructor
  · rintro ⟨⟩
    rfl
  · rintro rfl
    exact Steps.nil _

/-- A run is a run up to a state, and steps from there. -/
theorem run_append_iff {s : σ} {log log' : List ε} :
    L.Run (log ++ log') s ↔ ∃ s', L.Run log s' ∧ L.Steps s' log' s := by
  constructor
  · rintro ⟨s₀, hinit, h⟩
    obtain ⟨s', hs', htail⟩ := steps_append_iff.mp h
    exact ⟨s', ⟨s₀, hinit, hs'⟩, htail⟩
  · rintro ⟨s', ⟨s₀, hinit, hs'⟩, htail⟩
    exact ⟨s₀, hinit, hs'.append htail⟩

/-- A run is a run up to its last step, and that step. -/
theorem run_concat_iff {s : σ} {log : List ε} {e : ε} :
    L.Run (log ++ [e]) s ↔ ∃ s', L.Run log s' ∧ L.step s' e s := by
  rw [run_append_iff]
  refine exists_congr fun s' => and_congr_right fun _ => ?_
  rw [steps_cons_iff]
  constructor
  · rintro ⟨t, hstep, hnil⟩
    rw [steps_nil_iff.mp hnil]
    exact hstep
  · exact fun hstep => ⟨s, hstep, Steps.nil s⟩

/-- A run passes through a label from one state to the next. -/
theorem run_split {s : σ} {before after : List ε} {e : ε} (h : L.Run (before ++ e :: after) s) :
    ∃ s₁ s₂, L.Run before s₁ ∧ L.step s₁ e s₂ ∧ L.Steps s₂ after s := by
  obtain ⟨s₁, hbefore, hrest⟩ := run_append_iff.mp h
  obtain ⟨s₂, hstep, hafter⟩ := steps_cons_iff.mp hrest
  exact ⟨s₁, s₂, hbefore, hstep, hafter⟩

variable (L) in
/-- A run passes through a step. -/
def Passes (log : List ε) (final s : σ) (e : ε) (s' : σ) : Prop :=
  ∃ before after, log = before ++ e :: after ∧ L.Run before s ∧ L.step s e s' ∧
    L.Steps s' after final

/-- What comes to the same for each step from a state that a run reaches, comes to the same for all
the steps that a run passes through. -/
theorem forall_passes_congr {P Q : σ → ε → σ → Prop}
    (hiff : ∀ before s e s', L.Run before s → L.step s e s' → (P s e s' ↔ Q s e s'))
    (log : List ε) (final : σ) :
    (∀ s e s', L.Passes log final s e s' → P s e s') ↔
      ∀ s e s', L.Passes log final s e s' → Q s e s' := by
  refine forall_congr' fun s => forall_congr' fun e => forall_congr' fun s' =>
    forall_congr' fun hpasses => ?_
  obtain ⟨before, after, -, hbefore, hstep, -⟩ := hpasses
  exact hiff before s e s' hbefore hstep

/-- What holds initially of the empty log, and is preserved when a step extends the log, holds of
every run. -/
theorem Run.log_invariant {P : List ε → σ → Prop} (hinit : ∀ s, L.init s → P [] s)
    (hstep : ∀ log s e s', L.Run log s → P log s → L.step s e s' → P (log ++ [e]) s')
    {log : List ε} {s : σ} (h : L.Run log s) : P log s := by
  induction log using List.reverseRecOn generalizing s with
  | nil =>
    obtain ⟨s₀, hs₀, hnil⟩ := h
    rw [steps_nil_iff.mp hnil]
    exact hinit s₀ hs₀
  | append_singleton log e ih =>
    obtain ⟨s', hs', hlast⟩ := run_concat_iff.mp h
    exact hstep log s' e s hs' (ih hs') hlast

/-- What holds initially and is preserved by every step holds in every state of every run. -/
theorem Run.invariant {P : σ → Prop} (hinit : ∀ s, L.init s → P s)
    (hstep : ∀ s e s', P s → L.step s e s' → P s') {log : List ε} {s : σ} (h : L.Run log s) :
    P s :=
  Run.log_invariant (fun s => hinit s) (fun _ s e s' _ => hstep s e s') h

/-- What holds initially and is preserved by the steps that meet a condition holds at the end of a
run that passes through such steps alone. -/
theorem Run.invariant_of_passes {P : σ → Prop} {Q : σ → ε → σ → Prop} (hinit : ∀ s, L.init s → P s)
    (hstep : ∀ s e s', P s → L.step s e s' → Q s e s' → P s') {log : List ε} {s : σ}
    (h : L.Run log s) (hall : ∀ t e t', L.Passes log s t e t' → Q t e t') : P s := by
  revert hall
  refine Run.log_invariant (P := fun log s =>
    (∀ t e t', L.Passes log s t e t' → Q t e t') → P s) (fun s hs _ => hinit s hs) ?_ h
  intro log s e s' hrun ih hlast hall
  have hbefore : ∀ t e t', L.Passes log s t e t' → Q t e t' := by
    rintro t e' t' ⟨before, after, rfl, hrun', hpass, hafter⟩
    refine hall t e' t' ⟨before, after ++ [e], by simp, hrun', hpass, ?_⟩
    exact hafter.append (.cons hlast (.nil s'))
  exact hstep s e s' (ih hbefore) hlast (hall s e s' ⟨log, [], rfl, hrun, hlast, .nil s'⟩)

/-- A run of a system is one of any system that has its initial states and its steps. -/
theorem Run.mono {L' : Lts σ ε} (hinit : ∀ s, L.init s → L'.init s)
    (hstep : ∀ s e s', L.step s e s' → L'.step s e s') {log : List ε} {s : σ}
    (h : L.Run log s) : L'.Run log s := by
  obtain ⟨s₀, hs₀, hsteps⟩ := h
  refine ⟨s₀, hinit s₀ hs₀, ?_⟩
  clear hs₀
  induction hsteps with
  | nil s => exact .nil s
  | cons head _ ih => exact .cons (hstep _ _ _ head) ih

/-- What every step preserves, steps preserve. -/
theorem Steps.preserves {P : σ → Prop} (hstep : ∀ s e s', P s → L.step s e s' → P s') {s s' : σ}
    {log : List ε} (h : L.Steps s log s') (hs : P s) : P s' := by
  induction h with
  | nil _ => exact hs
  | cons head _ ih => exact ih (hstep _ _ _ hs head)

/-- Steps whose labels meet the condition wherever they are taken are steps of the restriction. -/
theorem Steps.restrict {condition : σ → ε → Prop} {s s' : σ} {log : List ε}
    (h : L.Steps s log s') (hlog : ∀ e ∈ log, ∀ s, condition s e) :
    (L.restrict condition).Steps s log s' := by
  induction h with
  | nil s => exact .nil s
  | cons head _ ih =>
    obtain ⟨hfirst, hrest⟩ := List.forall_mem_cons.mp hlog
    exact .cons ⟨head, hfirst _⟩ (ih hrest)

/-- Labels that need something unspent and spend it occur at most once, and never once it is
spent. -/
theorem Steps.countP_le {hit : ε → Bool} {spent : σ → Prop}
    (hhit : ∀ s e s', L.step s e s' → hit e = true → ¬spent s ∧ spent s')
    (hspent : ∀ s e s', spent s → L.step s e s' → spent s') {s s' : σ} {log : List ε}
    (h : L.Steps s log s') : log.countP hit ≤ 1 ∧ (spent s → log.countP hit = 0) := by
  induction h with
  | nil _ => simp
  | @cons s₁ s₂ _ e log head _ ih =>
    by_cases he : hit e = true
    · obtain ⟨hfresh, hnow⟩ := hhit _ _ _ head he
      rw [List.countP_cons_of_pos he, ih.2 hnow]
      exact ⟨Nat.le_refl 1, fun hs => absurd hs hfresh⟩
    · rw [List.countP_cons_of_neg he]
      exact ⟨ih.1, fun hs => ih.2 (hspent _ _ _ hs head)⟩

/-! ## Counting along a log -/

/-- A sum along a log is that of its parts, one for each of the parties to which its labels
belong. -/
theorem sum_eq_sum_parties {κ : Type*} [DecidableEq κ] (party : ε → κ) (f : ε → ℕ) (log : List ε)
    {parties : Finset κ} (h : ∀ e ∈ log, party e ∈ parties) :
    (log.map f).sum = ∑ k ∈ parties, (log.map fun e => if party e = k then f e else 0).sum := by
  induction log with
  | nil => simp
  | cons e log ih =>
    have hmem : party e ∈ parties := h e List.mem_cons_self
    have hrest := ih fun e' he' => h e' (List.mem_cons_of_mem e he')
    simp only [List.map_cons, List.sum_cons, Finset.sum_add_distrib, ← hrest]
    rw [Finset.sum_ite_eq, if_pos hmem]

/-- What is bounded for each party is bounded for all of them together. -/
theorem sum_le_sum_of_parties {κ : Type*} [DecidableEq κ] (party : ε → κ) {f g : ε → ℕ}
    {log : List ε}
    (h : ∀ k, (log.map fun e => if party e = k then f e else 0).sum ≤
      (log.map fun e => if party e = k then g e else 0).sum) :
    (log.map f).sum ≤ (log.map g).sum := by
  have hmem : ∀ e ∈ log, party e ∈ (log.map party).toFinset := fun e he =>
    List.mem_toFinset.mpr (List.mem_map_of_mem he)
  rw [sum_eq_sum_parties party f log hmem, sum_eq_sum_parties party g log hmem]
  exact Finset.sum_le_sum fun k _ => h k

end Lts
