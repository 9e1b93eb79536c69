import AtlasPay.Network.Canonical
import Mathlib.Data.Finset.Basic
import Mathlib.Data.List.AList
import Mathlib.Data.List.Sort

/-!
# Routes and reversal links

The model of `app/network_routing.py`. A router picks the route with the longest prefix of the card
number among those that support the currency. A registry keeps one reversal for each original
correlation.
-/

namespace AtlasPay

/-- `IssuerRoute`, with the checks of `__post_init__` as fields. -/
structure IssuerRoute where
  /-- The name of the route. -/
  name : String
  /-- The acquirer. -/
  acquirerId : String
  /-- The issuer. -/
  issuerId : String
  /-- The leading digits of the card numbers that it serves. -/
  panPrefix : String
  /-- The currencies that it supports. -/
  currencies : Finset String
  /-- The route name must not be empty. -/
  name_ne : isNotBlank name = true
  /-- The acquirer and the issuer must not be empty. -/
  ids_ne : isNotBlank acquirerId = true ∧ isNotBlank issuerId = true
  /-- The prefix must contain only digits. -/
  panPrefix_digits : isDigit panPrefix = true
  /-- The route must support at least one currency. -/
  currencies_ne : currencies.Nonempty
  /-- Route currencies must be upper-case. -/
  currencies_upper : ∀ currency ∈ currencies, upper currency = currency

/-- `NetworkRouter`. -/
structure NetworkRouter where
  /-- `_routes`. -/
  routes : List IssuerRoute
  /-- At least one issuer route is required. -/
  routes_ne : routes ≠ []

/-- The condition under which a route is among the `matches` of `route`. -/
def IssuerRoute.serves (route : IssuerRoute) (request : AuthorizationRequest) : Bool :=
  route.panPrefix.toList.isPrefixOf request.instrument.pan.toList &&
    decide (request.currency ∈ route.currencies)

/-- `NetworkRouter.route`. -/
def NetworkRouter.route (self : NetworkRouter) (request : AuthorizationRequest) :
    Py IssuerRoute :=
  let candidates := self.routes.filter fun route => route.serves request
  if candidates = [] then
    throw (.networkRoutingError
      s!"no route for PAN prefix/currency combination ({request.currency})")
  else
    let longestPrefix := (candidates.map fun route => route.panPrefix.length).foldl max 0
    match candidates.filter fun route => route.panPrefix.length = longestPrefix with
    | [route] => pure route
    | mostSpecific =>
      let names := ", ".intercalate ((mostSpecific.map IssuerRoute.name).insertionSort (· ≤ ·))
      throw (.networkRoutingError s!"ambiguous issuer routing between: {names}")

/-- `ReversalReason`. -/
inductive ReversalReason where
  | timeout
  | lateResponse
  | operator
  deriving DecidableEq, Repr

/-- The value of the enumeration's member. -/
def ReversalReason.value : ReversalReason → String
  | .timeout => "timeout"
  | .lateResponse => "late_response"
  | .operator => "operator"

/-- `ReversalLink`. -/
structure ReversalLink where
  /-- The correlation of the transaction to reverse. -/
  original : NetworkCorrelation
  /-- The correlation of its reversal. -/
  reversal : NetworkCorrelation
  /-- Why it is reversed. -/
  reason : ReversalReason
  deriving DecidableEq

/-- `ReversalRegistry`. -/
structure ReversalRegistry where
  /-- `_by_original`. -/
  byOriginal : AList fun _ : NetworkCorrelation => ReversalLink
  /-- `_reversal_keys`. -/
  reversalKeys : Finset NetworkCorrelation

namespace ReversalRegistry

/-- A new registry. -/
def new : ReversalRegistry := ⟨∅, ∅⟩

/-- `link`: what the call returns or raises, and the registry as it leaves it. -/
def link (self : ReversalRegistry) (original reversal : NetworkCorrelation)
    (reason : ReversalReason) : Py ReversalLink × ReversalRegistry :=
  if original = reversal then
    (throw (.valueError "reversal correlation must differ from the original"), self)
  else if original ∈ self.byOriginal then
    (throw (.valueError "original transaction already has a reversal"), self)
  else if reversal ∈ self.reversalKeys then
    (throw (.valueError "reversal correlation is already linked"), self)
  else
    (pure ⟨original, reversal, reason⟩,
      { byOriginal := self.byOriginal.insert original ⟨original, reversal, reason⟩
        reversalKeys := insert reversal self.reversalKeys })

/-- `for_original`. -/
def forOriginal (self : ReversalRegistry) (original : NetworkCorrelation) : Option ReversalLink :=
  self.byOriginal.lookup original

/-- What `link` may do: it raises and changes nothing, or it links two correlations of which the
first has no reversal and the second is no reversal. -/
inductive Links (self : ReversalRegistry) (original reversal : NetworkCorrelation)
    (reason : ReversalReason) : Py ReversalLink × ReversalRegistry → Prop where
  | raised (e : PyError)
      (h : original = reversal ∨ original ∈ self.byOriginal ∨ reversal ∈ self.reversalKeys) :
      Links self original reversal reason (.error e, self)
  | linked (hne : original ≠ reversal) (horiginal : original ∉ self.byOriginal)
      (hreversal : reversal ∉ self.reversalKeys) :
      Links self original reversal reason (.ok ⟨original, reversal, reason⟩,
        { byOriginal := self.byOriginal.insert original ⟨original, reversal, reason⟩
          reversalKeys := insert reversal self.reversalKeys })

/-- `link` does what `Links` says. -/
theorem link_spec {self self' : ReversalRegistry} {original reversal : NetworkCorrelation}
    {reason : ReversalReason} {outcome : Py ReversalLink}
    (h : self.link original reversal reason = (outcome, self')) :
    self.Links original reversal reason (outcome, self') := by
  rw [← h]
  unfold link
  split
  · next heq => exact .raised _ (Or.inl heq)
  · next hne =>
    split
    · next horiginal => exact .raised _ (Or.inr (Or.inl horiginal))
    · next horiginal =>
      split
      · next hreversal => exact .raised _ (Or.inr (Or.inr hreversal))
      · next hreversal => exact .linked hne horiginal hreversal

end ReversalRegistry

end AtlasPay
