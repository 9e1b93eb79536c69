import AtlasPay.Library.Argmax
import AtlasPay.Network.Routing

/-!
# The most specific route

`route` looks for the longest prefix among the routes that serve a request. It returns a route
exactly when all other entries of the table that serve the request have shorter prefixes, and raises
`NetworkRoutingError` otherwise; the order of the table decides nothing, and neither do entries that
do not serve the request (`route_mostSpecific`).
-/

namespace AtlasPay

open Argmax (members members_perm members_eq_singleton_iff)

/-- The route supports the currency, and its prefix is one of the card number. -/
def IssuerRoute.Serves (route : IssuerRoute) (request : AuthorizationRequest) : Prop :=
  request.currency ∈ route.currencies ∧
    route.panPrefix.toList <+: request.instrument.pan.toList

/-- The test of the source is for this. -/
theorem IssuerRoute.serves_iff {route : IssuerRoute} {request : AuthorizationRequest} :
    route.serves request = true ↔ route.Serves request := by
  unfold serves Serves
  rw [Bool.and_eq_true, List.isPrefixOf_iff_prefix, decide_eq_true_eq, and_comm]

/-- The route stands at one place of a table, and all routes at other places that serve the request
have shorter prefixes. -/
def MostSpecific (routes : List IssuerRoute) (request : AuthorizationRequest)
    (route : IssuerRoute) : Prop :=
  ∃ before after, routes = before ++ route :: after ∧ route.Serves request ∧
    ∀ other ∈ before ++ after, other.Serves request →
      other.panPrefix.length < route.panPrefix.length

namespace NetworkRouter

/-- The routes that `route` chooses from. -/
def candidates (self : NetworkRouter) (request : AuthorizationRequest) : List IssuerRoute :=
  self.routes.filter fun route => route.serves request

/-- `most_specific`. -/
def mostSpecific (self : NetworkRouter) (request : AuthorizationRequest) : List IssuerRoute :=
  members (fun route => route.panPrefix.length) (self.candidates request)

variable {self : NetworkRouter} {request : AuthorizationRequest} {route : IssuerRoute}

/-- One route is left exactly when it is more specific than those at all other places. -/
theorem mostSpecific_eq_singleton_iff : self.mostSpecific request = [route] ↔
    MostSpecific self.routes request route := by
  unfold mostSpecific MostSpecific
  rw [members_eq_singleton_iff]
  constructor
  · rintro ⟨before, after, hsplit, hshorter⟩
    -- The routes around it serve the request where they are among those around it there.
    obtain ⟨before', rest, hroutes, hbefore, hrest⟩ := List.filter_eq_append_iff.mp hsplit
    obtain ⟨skipped, after', rfl, hskipped, hserves, hafter⟩ := List.filter_eq_cons_iff.mp hrest
    refine ⟨before' ++ skipped, after', by rw [hroutes, List.append_assoc],
      IssuerRoute.serves_iff.mp hserves, fun other hother hother' => hshorter other ?_⟩
    have hother'' := IssuerRoute.serves_iff.mpr hother'
    rw [List.append_assoc, List.mem_append, List.mem_append] at hother
    rw [List.mem_append, ← hbefore, ← hafter, List.mem_filter, List.mem_filter]
    rcases hother with h | h | h
    · exact Or.inl ⟨h, hother''⟩
    · exact absurd hother'' (hskipped other h)
    · exact Or.inr ⟨h, hother''⟩
  · rintro ⟨before, after, hroutes, hserves, hshorter⟩
    refine ⟨before.filter fun other => other.serves request,
      after.filter fun other => other.serves request, ?_, fun other hother => ?_⟩
    · unfold candidates
      have hkept : route.serves request = true := IssuerRoute.serves_iff.mpr hserves
      rw [hroutes, List.filter_append, List.filter_cons, if_pos hkept]
    · rw [← List.filter_append, List.mem_filter, IssuerRoute.serves_iff] at hother
      exact hshorter other hother.1 hother.2

/-- `route` returns what is left, if it is one route, and raises otherwise. -/
theorem route_cases (self : NetworkRouter) (request : AuthorizationRequest) :
    (∃ route, self.mostSpecific request = [route] ∧ self.route request = .ok route) ∨
      (∀ route, self.mostSpecific request ≠ [route]) ∧
        ∃ text, self.route request = .error (.networkRoutingError text) := by
  unfold NetworkRouter.route mostSpecific candidates members
  by_cases hnone : (self.routes.filter fun route => route.serves request) = []
  · rw [if_pos hnone, hnone]
    exact Or.inr ⟨nofun, _, rfl⟩
  · rw [if_neg hnone]
    dsimp only
    split
    · next route hone => exact Or.inl ⟨route, hone, rfl⟩
    · next hmany => exact Or.inr ⟨hmany, _, rfl⟩

/-- `route` returns the most specific route. -/
theorem route_eq_ok_iff : self.route request = .ok route ↔
    MostSpecific self.routes request route := by
  rw [← mostSpecific_eq_singleton_iff]
  rcases route_cases self request with ⟨found, hone, hreturns⟩ | ⟨hmany, text, hraises⟩
  · rw [hone, hreturns, Except.ok.injEq, List.cons.injEq, and_iff_left rfl]
  · rw [hraises]
    exact iff_of_false nofun (hmany route)

/-- Names in another order are sorted to the same list. -/
theorem sorted_names_eq {routes routes' : List IssuerRoute} (h : routes.Perm routes') :
    (routes.map IssuerRoute.name).insertionSort (· ≤ ·) =
      (routes'.map IssuerRoute.name).insertionSort (· ≤ ·) := by
  have hperm : ((routes.map IssuerRoute.name).insertionSort (· ≤ ·)).Perm
      ((routes'.map IssuerRoute.name).insertionSort (· ≤ ·)) :=
    ((List.perm_insertionSort _ _).trans (h.map _)).trans (List.perm_insertionSort _ _).symm
  exact hperm.eq_of_pairwise (fun _ _ _ _ => String.le_antisymm)
    (List.pairwise_insertionSort (· ≤ ·) _) (List.pairwise_insertionSort (· ≤ ·) _)

/-- What `route` returns or raises depends only on which routes are candidates, and how often. -/
theorem route_congr {router : NetworkRouter}
    (h : (router.candidates request).Perm (self.candidates request)) :
    router.route request = self.route request := by
  have hleft : (router.mostSpecific request).Perm (self.mostSpecific request) := members_perm _ h
  have hempty : router.candidates request = [] ↔ self.candidates request = [] := by
    rw [← List.length_eq_zero_iff, ← List.length_eq_zero_iff, h.length_eq]
  have hnames := sorted_names_eq hleft
  -- The candidates are none in both tables, or the same are left of them.
  unfold mostSpecific members candidates at hleft hnames
  unfold candidates at hempty
  unfold NetworkRouter.route
  by_cases hnone : (self.routes.filter fun route => route.serves request) = []
  · rw [if_pos hnone, if_pos (hempty.mpr hnone)]
  · rw [if_neg hnone, if_neg (mt hempty.mp hnone)]
    dsimp only
    generalize (List.filter _ (List.filter _ router.routes)) = left at hleft hnames
    generalize (List.filter _ (List.filter _ self.routes)) = left' at hleft hnames
    split
    · next route =>
      rw [← List.singleton_perm.mp hleft]
    · next hmany =>
      split
      · next route => exact absurd (List.perm_singleton.mp hleft) (hmany route)
      · rw [hnames]

/-- `route` returns a route exactly when it serves the request and every other entry that does has a
strictly shorter prefix, and raises `NetworkRoutingError` otherwise. It does the same on every
permutation of the table, and with an entry more that does not serve the request; and it returns the
same route with an entry more that has a shorter prefix. -/
theorem route_mostSpecific (self : NetworkRouter) (request : AuthorizationRequest) :
    (∀ route, self.route request = .ok route ↔ MostSpecific self.routes request route) ∧
    ((¬∃ route, MostSpecific self.routes request route) →
      ∃ text, self.route request = .error (.networkRoutingError text)) ∧
    (∀ permuted : NetworkRouter, permuted.routes.Perm self.routes →
      permuted.route request = self.route request) ∧
    ∀ (added : IssuerRoute) (extended : NetworkRouter),
      extended.routes.Perm (added :: self.routes) →
        (¬added.Serves request → extended.route request = self.route request) ∧
        ∀ route, self.route request = .ok route →
          added.panPrefix.length < route.panPrefix.length →
            extended.route request = .ok route := by
  refine ⟨fun route => route_eq_ok_iff, ?_, fun permuted hperm => ?_, ?_⟩
  · intro hnone
    rcases route_cases self request with ⟨route, hone, -⟩ | ⟨-, hraises⟩
    · exact absurd ⟨route, mostSpecific_eq_singleton_iff.mp hone⟩ hnone
    · exact hraises
  · exact route_congr (hperm.filter _)
  · intro added extended hperm
    constructor
    · intro hnot
      refine route_congr ((hperm.filter _).trans ?_)
      rw [List.filter_cons, if_neg (mt IssuerRoute.serves_iff.mp hnot)]
      exact List.Perm.refl _
    · intro route hroute hshorter
      -- The new entry is one more at another place, with a shorter prefix.
      obtain ⟨before, after, hroutes, hserves, hall⟩ := route_eq_ok_iff.mp hroute
      have hsorted : extended.route request =
          (NetworkRouter.mk (added :: self.routes) (List.cons_ne_nil _ _)).route request :=
        route_congr (hperm.filter _)
      rw [hsorted, route_eq_ok_iff]
      refine ⟨added :: before, after, by rw [hroutes]; rfl, hserves, fun other hother => ?_⟩
      rcases List.mem_cons.mp hother with rfl | hother
      · exact fun _ => hshorter
      · exact hall other hother

end NetworkRouter

end AtlasPay
