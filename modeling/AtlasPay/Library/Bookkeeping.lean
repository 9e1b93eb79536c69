import Mathlib.Algebra.BigOperators.Group.Finset.Piecewise
import Mathlib.Algebra.BigOperators.Group.List.Basic

/-!
# Entries on accounts

Entries are amounts of a commutative group on accounts. What they come to on each of the accounts
adds up to what they come to in all; entries that come to nothing in all move amounts between the
accounts.
-/

namespace Bookkeeping

variable {ι M : Type*} [DecidableEq ι] [AddCommGroup M]

/-- What entries come to on an account. -/
def balance (entries : List (ι × M)) (i : ι) : M :=
  ((entries.filter fun entry => entry.1 = i).map Prod.snd).sum

/-- An amount is moved from the second account to the first. -/
def transfer (i j : ι) (a : M) : List (ι × M) := [(i, a), (j, -a)]

@[simp]
theorem balance_nil (i : ι) : balance ([] : List (ι × M)) i = 0 := rfl

/-- One entry before others. -/
theorem balance_cons (entry : ι × M) (entries : List (ι × M)) (i : ι) :
    balance (entry :: entries) i = (if entry.1 = i then entry.2 else 0) + balance entries i := by
  unfold balance
  by_cases hi : entry.1 = i
  · rw [List.filter_cons_of_pos (by simpa using hi), List.map_cons, List.sum_cons, if_pos hi]
  · rw [List.filter_cons_of_neg (by simpa using hi), if_neg hi, zero_add]

/-- Entries after entries. -/
theorem balance_append (entries entries' : List (ι × M)) (i : ι) :
    balance (entries ++ entries') i = balance entries i + balance entries' i := by
  unfold balance
  rw [List.filter_append, List.map_append, List.sum_append]

/-- The accounts together have what the entries come to. -/
theorem sum_balance {entries : List (ι × M)} {accounts : Finset ι}
    (h : ∀ entry ∈ entries, entry.1 ∈ accounts) :
    ∑ i ∈ accounts, balance entries i = (entries.map Prod.snd).sum := by
  induction entries with
  | nil => simp
  | cons entry entries ih =>
    obtain ⟨hfirst, hrest⟩ := List.forall_mem_cons.mp h
    calc ∑ i ∈ accounts, balance (entry :: entries) i
        = ∑ i ∈ accounts, ((if entry.1 = i then entry.2 else 0) + balance entries i) :=
          Finset.sum_congr rfl fun i _ => balance_cons entry entries i
      _ = entry.2 + (entries.map Prod.snd).sum := by
          rw [Finset.sum_add_distrib, Finset.sum_ite_eq, if_pos hfirst, ih hrest]
      _ = ((entry :: entries).map Prod.snd).sum := by rw [List.map_cons, List.sum_cons]

omit [DecidableEq ι] in
/-- A transfer comes to nothing in all. -/
theorem sum_transfer (i j : ι) (a : M) : ((transfer i j a).map Prod.snd).sum = 0 := by
  show a + (-a + 0) = 0
  rw [add_zero, add_neg_cancel]

end Bookkeeping
