import AtlasPay.Library.Links
import AtlasPay.Library.Lts
import AtlasPay.Network.Adapter
import AtlasPay.Network.Routing

/-!
# What a registry of reversals links

`link` looks at the two ends of a new link, each in a collection of its own: the original must have
no reversal, and the reversal must be none. So each correlation has one link at most in either
direction, and none is ever dropped. Whether the reversal already leads back to the original is not
looked at, and the links form no cycle in those runs alone in which it never does
(`formsPairs_iff`).
-/

namespace AtlasPay

open Relation (ReflTransGen)

namespace ReversalRegistry

/-! ## The links of a registry -/

/-- `_by_original.values()`. -/
def links (self : ReversalRegistry) : List ReversalLink := self.byOriginal.entries.map Sigma.snd

/-- A link leads from the original to the reversal. -/
def Linked (self : ReversalRegistry) (original reversal : NetworkCorrelation) : Prop :=
  ∃ link ∈ self.links, link.original = original ∧ link.reversal = reversal

/-- The two collections hold the same links: by their originals, and the keys of their reversals. -/
structure WellFormed (registry : ReversalRegistry) : Prop where
  original : ∀ entry ∈ registry.byOriginal.entries, entry.2.original = entry.1
  reversalKeys : ∀ key, key ∈ registry.reversalKeys ↔ ∃ link ∈ registry.links, link.reversal = key
  linked : Relator.BiUnique registry.Linked

/-- `link` lets a pair pass. -/
def Admits (self : ReversalRegistry) (original reversal : NetworkCorrelation) : Prop :=
  original ≠ reversal ∧ original ∉ self.byOriginal ∧ reversal ∉ self.reversalKeys

variable {self self' : ReversalRegistry} {original reversal : NetworkCorrelation}
  {link : ReversalLink}

/-- A link is stored under its original. -/
theorem WellFormed.mem_links_iff (h : self.WellFormed) :
    link ∈ self.links ↔ ⟨link.original, link⟩ ∈ self.byOriginal.entries := by
  unfold links
  rw [List.mem_map]
  constructor
  · rintro ⟨entry, hentry, rfl⟩
    have hkey := h.original entry hentry
    obtain ⟨key, link⟩ := entry
    rw [show key = link.original from hkey.symm] at hentry
    exact hentry
  · exact fun hentry => ⟨_, hentry, rfl⟩

/-- `for_original` returns the links. -/
theorem WellFormed.forOriginal_eq_some_iff (h : self.WellFormed) :
    self.forOriginal original = some link ↔ link ∈ self.links ∧ link.original = original := by
  unfold forOriginal
  rw [h.mem_links_iff, ← Option.mem_def, AList.mem_lookup_iff]
  constructor
  · intro hentry
    have hkey : link.original = original := h.original _ hentry
    rw [hkey]
    exact ⟨hentry, rfl⟩
  · rintro ⟨hentry, rfl⟩
    exact hentry

/-- What a correlation is linked to is in the registry. -/
theorem WellFormed.mem_byOriginal_of_linked (h : self.WellFormed) (hlinked : self.Linked original
    reversal) : original ∈ self.byOriginal ∧ reversal ∈ self.reversalKeys := by
  obtain ⟨link, hlink, rfl, rfl⟩ := hlinked
  have hfound := h.forOriginal_eq_some_iff.mpr ⟨hlink, rfl⟩
  refine ⟨AList.lookup_isSome.mp ?_, (h.reversalKeys _).mpr ⟨link, hlink, rfl⟩⟩
  unfold forOriginal at hfound
  rw [hfound]
  rfl

/-! ## One call -/

/-- A call of `link`. -/
structure LinkCall where
  original : NetworkCorrelation
  reversal : NetworkCorrelation
  reason : ReversalReason

/-- The link that a call makes. -/
def LinkCall.made (call : LinkCall) : ReversalLink := ⟨call.original, call.reversal, call.reason⟩

/-- A registry that is called again and again. The label of a call is what it returned or raised. -/
def lts : Lts ReversalRegistry (LinkCall × Py ReversalLink) where
  init self := self = new
  step self event self' :=
    self.link event.1.original event.1.reversal event.1.reason = (event.2, self')

/-- A call raises and changes nothing, or it makes its link. -/
theorem step_cases {event : LinkCall × Py ReversalLink} (h : lts.step self event self') :
    ((∃ e, event.2 = .error e) ∧ self' = self ∧
        ¬self.Admits event.1.original event.1.reversal) ∨
      event.2 = .ok event.1.made ∧ self.Admits event.1.original event.1.reversal ∧
        self'.links = event.1.made :: self.links ∧
        self'.byOriginal.entries = ⟨event.1.original, event.1.made⟩ :: self.byOriginal.entries ∧
        self'.reversalKeys = insert event.1.reversal self.reversalKeys := by
  obtain ⟨⟨original, reversal, reason⟩, outcome⟩ := event
  change self.link original reversal reason = (outcome, self') at h
  cases link_spec h with
  | raised e hguard =>
    -- The guard that raises names the part of `Admits` that fails.
    refine Or.inl ⟨⟨e, rfl⟩, rfl, ?_⟩
    rintro ⟨hne, horiginal, hreversal⟩
    rcases hguard with h | h | h
    · exact hne h
    · exact horiginal h
    · exact hreversal h
  | linked hne horiginal hreversal =>
    have hentries := AList.entries_insert_of_notMem (b := (⟨original, reversal, reason⟩ :
      ReversalLink)) horiginal
    refine Or.inr ⟨rfl, ⟨hne, horiginal, hreversal⟩, ?_, hentries, rfl⟩
    unfold links
    rw [hentries]
    rfl

/-- A link that is made is added to the links. -/
theorem linked_of_links {made : ReversalLink} (h : self'.links = made :: self.links) :
    self'.Linked = Links.adds self.Linked made.original made.reversal := by
  funext x y
  refine propext ?_
  unfold Linked Links.adds
  simp only [h, List.mem_cons, exists_eq_or_imp]
  constructor
  · rintro (⟨rfl, rfl⟩ | hold)
    · exact Or.inr ⟨rfl, rfl⟩
    · exact Or.inl hold
  · rintro (hold | ⟨rfl, rfl⟩)
    · exact Or.inr hold
    · exact Or.inl ⟨rfl, rfl⟩

/-- A new registry has no links. -/
theorem not_linked_new : ¬new.Linked original reversal := by
  rintro ⟨link, hlink, -⟩
  cases hlink

/-- A new registry is well formed. -/
theorem wellFormed_new : new.WellFormed where
  original _ h := by cases h
  reversalKeys key := by
    refine iff_of_false (Finset.notMem_empty key) ?_
    rintro ⟨link, hlink, -⟩
    cases hlink
  linked := ⟨fun _ _ _ h => absurd h not_linked_new, fun _ _ _ h => absurd h not_linked_new⟩

/-- A call keeps the registry well formed. -/
theorem WellFormed.step (h : self.WellFormed) {event : LinkCall × Py ReversalLink}
    (hstep : lts.step self event self') : self'.WellFormed := by
  rcases step_cases hstep with ⟨-, rfl, -⟩ | ⟨-, ⟨-, horiginal, hreversal⟩, hlinks, hentries, hkeys⟩
  · exact h
  constructor
  case original =>
    intro entry hentry
    rw [hentries] at hentry
    rcases List.mem_cons.mp hentry with rfl | hentry
    · rfl
    · exact h.original entry hentry
  case reversalKeys =>
    intro key
    rw [hkeys, hlinks, Finset.mem_insert, h.reversalKeys]
    simp only [List.mem_cons, exists_eq_or_imp, LinkCall.made, eq_comm]
  case linked =>
    rw [linked_of_links hlinks]
    -- Both ends are free: that is what the guards look for.
    exact Links.biUnique_adds h.linked
      (fun _ hlinked => horiginal (h.mem_byOriginal_of_linked hlinked).1)
      fun _ hlinked => hreversal (h.mem_byOriginal_of_linked hlinked).2

/-- A call drops no link. -/
theorem links_subset_of_step {event : LinkCall × Py ReversalLink}
    (hstep : lts.step self event self') : self.links ⊆ self'.links := by
  rcases step_cases hstep with ⟨-, rfl, -⟩ | ⟨-, -, hlinks, -⟩
  · exact List.Subset.refl _
  · rw [hlinks]
    exact List.subset_cons_self _ _

/-- Calls drop no link. -/
theorem links_subset_of_steps {log : List (LinkCall × Py ReversalLink)}
    (hsteps : lts.Steps self log self') : self.links ⊆ self'.links :=
  hsteps.preserves (P := fun registry => self.links ⊆ registry.links)
    (fun _ _ _ hsub hstep => List.Subset.trans hsub (links_subset_of_step hstep))
    (List.Subset.refl _)

/-! ## Runs -/

/-- A registry is well formed after any calls. -/
theorem wellFormed_of_run {log : List (LinkCall × Py ReversalLink)} {registry : ReversalRegistry}
    (h : lts.Run log registry) : registry.WellFormed :=
  h.invariant (fun _ hnew => hnew ▸ wellFormed_new) fun _ _ _ hwf => hwf.step

/-- What is to hold of the links after any calls. -/
structure FormsPairs (log : List (LinkCall × Py ReversalLink)) (registry : ReversalRegistry) :
    Prop where
  /-- Each correlation is the original of one link at most. -/
  original : ∀ link ∈ registry.links, ∀ link' ∈ registry.links,
    link.original = link'.original → link = link'
  /-- Each correlation is the reversal of one link at most. -/
  reversal : ∀ link ∈ registry.links, ∀ link' ∈ registry.links,
    link.reversal = link'.reversal → link = link'
  /-- `for_original` returns the links. -/
  forOriginal : ∀ link ∈ registry.links, registry.forOriginal link.original = some link
  /-- Links that a call has made are kept as they are. -/
  kept : ∀ s event s', lts.Passes log registry s event s' →
    s.links ⊆ registry.links ∧ ∀ link, event.2 = .ok link → link = event.1.made ∧
      link ∈ registry.links
  /-- A call that raises changes nothing. -/
  raised : ∀ s event s', lts.Passes log registry s event s' → ∀ e, event.2 = .error e → s' = s
  /-- Following links from any correlation never leads back to it. -/
  acyclic : Links.Acyclic registry.Linked

/-- A call passes the guards although links lead from its reversal to its original. -/
def Closes (self : ReversalRegistry) (call : LinkCall) : Prop :=
  self.Admits call.original call.reversal ∧ ReflTransGen self.Linked call.reversal call.original

/-- There is no cycle exactly when no call has closed one. -/
theorem acyclic_iff {log : List (LinkCall × Py ReversalLink)} {registry : ReversalRegistry}
    (h : lts.Run log registry) : Links.Acyclic registry.Linked ↔
      ∀ s event s', lts.Passes log registry s event s' → ¬s.Closes event.1 := by
  constructor
  · rintro hacyclic s event s' ⟨before, after, -, -, hstep, hafter⟩ ⟨hadmits, hleads⟩
    rcases step_cases hstep with ⟨-, -, hnot⟩ | ⟨-, -, hlinks, -⟩
    · exact hnot hadmits
    -- No link is dropped later, so the cycle is still there at the end.
    have hsub : s'.Linked ≤ registry.Linked := by
      rintro x y ⟨link, hlink, hends⟩
      exact ⟨link, links_subset_of_steps hafter hlink, hends⟩
    have hclosed : Links.Acyclic s'.Linked := hacyclic.mono hsub
    rw [linked_of_links hlinks, Links.acyclic_adds_iff] at hclosed
    exact hclosed.2 hleads
  · refine h.invariant_of_passes (P := fun registry => Links.Acyclic registry.Linked)
      (Q := fun s event _ => ¬s.Closes event.1) ?_ ?_
    · rintro _ rfl
      exact Links.acyclic_of_forall_not fun _ _ => not_linked_new
    · intro s event s' hacyclic hstep hnot
      rcases step_cases hstep with ⟨-, rfl, -⟩ | ⟨-, hadmits, hlinks, -⟩
      · exact hacyclic
      · rw [linked_of_links hlinks, Links.acyclic_adds_iff]
        exact ⟨hacyclic, fun hleads => hnot ⟨hadmits, hleads⟩⟩

/-- After any calls, succeeding or raising, the links are pairs without cycles exactly when no call
that passes the guards is for a reversal from which links lead to the original. -/
theorem formsPairs_iff {log : List (LinkCall × Py ReversalLink)} {registry : ReversalRegistry}
    (h : lts.Run log registry) : FormsPairs log registry ↔
      ∀ s event s', lts.Passes log registry s event s' → ¬s.Closes event.1 := by
  rw [← acyclic_iff h]
  refine ⟨FormsPairs.acyclic, fun hacyclic => ?_⟩
  -- All but the last part holds after any calls.
  have hwf := wellFormed_of_run h
  have hoffer : ∀ link ∈ registry.links, registry.forOriginal link.original = some link :=
    fun link hlink => hwf.forOriginal_eq_some_iff.mpr ⟨hlink, rfl⟩
  have horiginal : ∀ link ∈ registry.links, ∀ link' ∈ registry.links,
      link.original = link'.original → link = link' := by
    intro link hlink link' hlink' heq
    have hfound := hoffer link hlink
    rw [heq, hoffer link' hlink', Option.some.injEq] at hfound
    exact hfound.symm
  refine ⟨horiginal, ?_, hoffer, ?_, ?_, hacyclic⟩
  -- Links with one reversal have one original, and there is one link for that.
  · intro link hlink link' hlink' heq
    have hsame := hwf.linked.1 ⟨link, hlink, rfl, rfl⟩ ⟨link', hlink', rfl, heq.symm⟩
    exact horiginal link hlink link' hlink' hsame
  · rintro s event s' ⟨before, after, -, -, hstep, hafter⟩
    have hkept := links_subset_of_steps hafter
    refine ⟨List.Subset.trans (links_subset_of_step hstep) hkept, fun link hlink => ?_⟩
    rcases step_cases hstep with ⟨⟨e, hraised⟩, -⟩ | ⟨hok, -, hlinks, -⟩
    · cases hraised.symm.trans hlink
    · cases hok.symm.trans hlink
      refine ⟨rfl, hkept ?_⟩
      rw [hlinks]
      exact List.mem_cons_self
  · rintro s event s' ⟨before, after, -, -, hstep, -⟩ e hraised
    rcases step_cases hstep with ⟨-, hsame, -⟩ | ⟨hok, -⟩
    · exact hsame
    · cases hok.symm.trans hraised

/-- The call that links a correlation to its reversal. -/
def sampleCall : LinkCall := ⟨sampleCorrelation, sampleReversal, .timeout⟩

/-- The call that links the reversal back. -/
def backCall : LinkCall := ⟨sampleReversal, sampleCorrelation, .operator⟩

/-- The registry after some calls, with what each returned or raised. -/
def linkAll (self : ReversalRegistry) :
    List LinkCall → List (LinkCall × Py ReversalLink) × ReversalRegistry
  | [] => ([], self)
  | call :: calls =>
    let first := self.link call.original call.reversal call.reason
    let rest := linkAll first.2 calls
    ((call, first.1) :: rest.1, rest.2)

/-- Calls one after the other are steps. -/
theorem steps_linkAll (self : ReversalRegistry) (calls : List LinkCall) :
    lts.Steps self (self.linkAll calls).1 (self.linkAll calls).2 := by
  induction calls generalizing self with
  | nil => exact .nil self
  | cons call calls ih => exact .cons rfl (ih _)

/-- Some calls on a new registry are a run. -/
theorem run_linkAll (calls : List LinkCall) :
    lts.Run (new.linkAll calls).1 (new.linkAll calls).2 :=
  ⟨new, rfl, steps_linkAll new calls⟩

/-- One link forms a pair. -/
theorem formsPairs_sample :
    FormsPairs (new.linkAll [sampleCall]).1 (new.linkAll [sampleCall]).2 ∧
      (new.linkAll [sampleCall]).2.links = [sampleCall.made] := by
  refine ⟨(formsPairs_iff (run_linkAll [sampleCall])).mpr ?_, rfl⟩
  rintro s event s' ⟨before, after, hlog, ⟨_, rfl, hsteps⟩, -, -⟩ ⟨⟨hne, -, -⟩, hleads⟩
  -- The only call is made on the new registry, from which nothing leads anywhere.
  have hbefore : before = [] := by
    cases before with
    | nil => rfl
    | cons _ before =>
      have hnil : [] = before ++ event :: after := (List.cons.inj hlog).2
      simp at hnil
  subst hbefore
  rw [Lts.steps_nil_iff.mp hsteps] at hleads
  rcases hleads.cases_head with heq | ⟨_, hlinked, -⟩
  · exact hne heq.symm
  · exact not_linked_new hlinked

/-- A correlation and its reversal, each linked to the other, form a cycle. -/
theorem not_formsPairs_back :
    ¬∀ log registry, lts.Run log registry → FormsPairs log registry := by
  intro h
  have hpairs := h _ _ (run_linkAll [sampleCall, backCall])
  have hthere : (new.linkAll [sampleCall, backCall]).2.Linked sampleCorrelation sampleReversal :=
    ⟨sampleCall.made, List.mem_cons_of_mem _ List.mem_cons_self, rfl, rfl⟩
  have hback : (new.linkAll [sampleCall, backCall]).2.Linked sampleReversal sampleCorrelation :=
    ⟨backCall.made, List.mem_cons_self, rfl, rfl⟩
  exact hpairs.acyclic sampleCorrelation (.tail (.single hthere) hback)

end ReversalRegistry

end AtlasPay
