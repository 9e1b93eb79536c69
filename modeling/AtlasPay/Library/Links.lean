import Mathlib.Logic.Relation
import Mathlib.Logic.Relator

/-!
# Links that are added one at a time

A relation of links, to which one link after another is added. That no thing has two links in either
direction is checked at the two ends of the new link alone. That following links never leads back is
not: the new link closes a cycle exactly when links already lead from its end to its start
(`acyclic_adds_iff`).
-/

namespace Links

open Relation (TransGen ReflTransGen)

variable {α : Type*} {R S : α → α → Prop} {a b : α}

/-- Following links from anywhere never leads back. -/
def Acyclic (R : α → α → Prop) : Prop := ∀ x, ¬TransGen R x x

/-- The links and one more. -/
def adds (R : α → α → Prop) (a b : α) (x y : α) : Prop := R x y ∨ x = a ∧ y = b

/-- Where there are no links, none leads back. -/
theorem acyclic_of_forall_not (h : ∀ x y, ¬R x y) : Acyclic R := by
  intro x hpath
  obtain ⟨y, hlink, -⟩ := TransGen.head'_iff.mp hpath
  exact h x y hlink

/-- Fewer links have no more cycles. -/
theorem Acyclic.mono (h : Acyclic S) (hsub : R ≤ S) : Acyclic R :=
  fun x hpath => h x (TransGen.mono hsub _ _ hpath)

/-- A link between two things that have none in its direction leaves each thing one at most. -/
theorem biUnique_adds (h : Relator.BiUnique R) (ha : ∀ y, ¬R a y) (hb : ∀ x, ¬R x b) :
    Relator.BiUnique (adds R a b) := by
  constructor
  · rintro x y z (hxz | ⟨rfl, rfl⟩) (hyz | ⟨rfl, hz⟩)
    · exact h.1 hxz hyz
    · exact absurd (hz ▸ hxz) (hb x)
    · exact absurd hyz (hb y)
    · rfl
  · rintro x y z (hxy | ⟨rfl, rfl⟩) (hxz | ⟨hx, rfl⟩)
    · exact h.2 hxy hxz
    · exact absurd (hx ▸ hxy) (ha y)
    · exact absurd hxz (ha z)
    · rfl

/-- Links lead where they did, and through the new one. -/
theorem transGen_adds_iff {x y : α} : TransGen (adds R a b) x y ↔
    TransGen R x y ∨ ReflTransGen R x a ∧ ReflTransGen R b y := by
  constructor
  · intro hpath
    induction hpath with
    | single hlink =>
      rcases hlink with hold | ⟨rfl, rfl⟩
      · exact Or.inl (.single hold)
      · exact Or.inr ⟨.refl, .refl⟩
    | tail _ hlink ih =>
      rcases hlink with hold | ⟨rfl, rfl⟩
      · rcases ih with hpath | ⟨hto, hfrom⟩
        · exact Or.inl (hpath.tail hold)
        · exact Or.inr ⟨hto, hfrom.tail hold⟩
      -- The last link is the new one: the path to it is an old one, or it passes through `a`.
      · rcases ih with hpath | ⟨hto, -⟩
        · exact Or.inr ⟨hpath.to_reflTransGen, .refl⟩
        · exact Or.inr ⟨hto, .refl⟩
  · have hsub : R ≤ adds R a b := fun _ _ => Or.inl
    rintro (hpath | ⟨hto, hfrom⟩)
    · exact TransGen.mono hsub _ _ hpath
    · have hnew : TransGen (adds R a b) x b :=
        TransGen.tail' (ReflTransGen.mono hsub _ _ hto) (Or.inr ⟨rfl, rfl⟩)
      exact hnew.trans_left (ReflTransGen.mono hsub _ _ hfrom)

/-- A new link closes a cycle exactly when links lead from its end to its start. -/
theorem acyclic_adds_iff : Acyclic (adds R a b) ↔ Acyclic R ∧ ¬ReflTransGen R b a := by
  unfold Acyclic
  simp only [transGen_adds_iff, not_or, not_and]
  constructor
  · intro h
    exact ⟨fun x => (h x).1, fun hback => (h a).2 .refl hback⟩
  · rintro ⟨hacyclic, hnot⟩ x
    exact ⟨hacyclic x, fun hto hfrom => hnot (hfrom.trans hto)⟩

end Links
