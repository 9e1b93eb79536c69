import Mathlib.Init

/-!
# Computations that log events

A computation logs events and then returns or raises. `Logged.bind` hands the rest of a computation
the equation for what the first part returned, so that a recursion through it can be justified.
Forgetting the log is a homomorphism to `Except` (`result_bind`), and `Logged.Safe` is what holds of
all events and of what is raised, with a rule for each way to build a computation.
-/

/-- The events that a computation logs, and what it returns or raises. -/
structure Logged (ι ε α : Type) where
  /-- The events, the first one first. -/
  log : List ι
  /-- What is returned or raised. -/
  result : Except ε α

namespace Logged

variable {ι ε α β : Type}

/-- Log nothing, and return. -/
def ret (a : α) : Logged ι ε α := ⟨[], .ok a⟩

/-- Log nothing, and raise. -/
def raise (e : ε) : Logged ι ε α := ⟨[], .error e⟩

/-- Log an event. -/
def note (event : ι) : Logged ι ε Unit := ⟨[event], .ok ()⟩

/-- One computation after another, which knows what the first one returned. -/
def bind (x : Logged ι ε α) (f : ∀ a, x.result = .ok a → Logged ι ε β) : Logged ι ε β :=
  match h : x.result with
  | .error e => ⟨x.log, .error e⟩
  | .ok a => ⟨x.log ++ (f a h).log, (f a h).result⟩

instance : Monad (Logged ι ε) where
  pure := ret
  bind x f := x.bind fun a _ => f a

/-! ## Forgetting the log -/

/-- What is returned is returned. -/
@[simp]
theorem result_ret (a : α) : (ret a : Logged ι ε α).result = .ok a := rfl

/-- What is raised is raised. -/
@[simp]
theorem result_raise (e : ε) : (raise e : Logged ι ε α).result = .error e := rfl

/-- The rest is done after what the first part returned. -/
theorem result_bind {x : Logged ι ε α} {f : ∀ a, x.result = .ok a → Logged ι ε β}
    {y : Except ε α} {g : α → Except ε β} (hx : x.result = y)
    (hf : ∀ a h, (f a h).result = g a) : (x.bind f).result = y >>= g := by
  subst hx
  unfold bind
  -- Either side does what the first part decides.
  split
  · next e he =>
    rw [he]
    rfl
  · next a ha =>
    have hrest : x.result >>= g = g a := by
      rw [ha]
      rfl
    rw [hrest]
    exact hf a ha

/-- A branch returns or raises what its sides do. -/
theorem result_ite {c : Prop} [Decidable c] {x y : Logged ι ε α} {x' y' : Except ε α}
    (hx : c → x.result = x') (hy : ¬c → y.result = y') :
    (if c then x else y).result = if c then x' else y' := by
  by_cases h : c
  · rw [if_pos h, if_pos h]
    exact hx h
  · rw [if_neg h, if_neg h]
    exact hy h

/-! ## What holds of all events -/

/-- The events satisfy one property, and what is raised, if anything is, another one. -/
structure Safe (P : ι → Prop) (Q : ε → Prop) (x : Logged ι ε α) : Prop where
  /-- Of each event. -/
  log : ∀ event ∈ x.log, P event
  /-- Of what is raised. -/
  raised : ∀ e, x.result = .error e → Q e

namespace Safe

variable {P : ι → Prop} {Q : ε → Prop}

/-- Returning is safe. -/
theorem ret (a : α) : Safe P Q (ret a : Logged ι ε α) :=
  ⟨fun _ hnil => absurd hnil List.not_mem_nil, nofun⟩

/-- Raising is safe when what is raised is. -/
theorem raise {e : ε} (h : Q e) : Safe P Q (raise e : Logged ι ε α) := by
  refine ⟨fun _ hnil => absurd hnil List.not_mem_nil, ?_⟩
  rintro _ ⟨⟩
  exact h

/-- An event is safe when it satisfies the property. -/
theorem note {event : ι} (h : P event) : Safe P Q (note event : Logged ι ε Unit) := by
  refine ⟨fun event' hmem => ?_, nofun⟩
  rw [List.mem_singleton.mp hmem]
  exact h

/-- Two computations after each other are safe. -/
theorem bind {x : Logged ι ε α} {f : ∀ a, x.result = .ok a → Logged ι ε β} (hx : Safe P Q x)
    (hf : ∀ a h, Safe P Q (f a h)) : Safe P Q (x.bind f) := by
  unfold Logged.bind
  split
  · next e he =>
    refine ⟨hx.log, ?_⟩
    rintro _ ⟨⟩
    exact hx.raised e he
  · next a ha =>
    refine ⟨fun event hmem => ?_, (hf a ha).raised⟩
    rcases List.mem_append.mp hmem with hmem | hmem
    · exact hx.log event hmem
    · exact (hf a ha).log event hmem

/-- A branch is safe when its sides are. -/
theorem ite {c : Prop} [Decidable c] {x y : Logged ι ε α} (hx : c → Safe P Q x)
    (hy : ¬c → Safe P Q y) : Safe P Q (if c then x else y) := by
  by_cases h : c
  · rw [if_pos h]
    exact hx h
  · rw [if_neg h]
    exact hy h

end Safe

end Logged
