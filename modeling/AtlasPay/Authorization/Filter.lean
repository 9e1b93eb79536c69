import AtlasPay.Library.Uri

/-!
# `InternalServiceAuthFilter`

The filter of the Java service compares the raw request URI with two prefixes; the dispatcher of
Spring splits the URI at its slashes, drops the parameters of each segment, decodes it, and compares
the result with the patterns of the controllers. A route is behind the filter exactly for those of
its URIs that spell out the prefix (`guards_iff`).

A Java string is taken as its characters. Neither a header nor a variable of the environment has
unpaired surrogates.
-/

namespace AtlasPay

open Uri (Spells Plain pathSegments withoutParameters utf8)

namespace InternalServiceAuthFilter

/-! ## The filter -/

/-- `PROTECTED_PREFIXES`. -/
def protectedPrefixes : List String := ["/v1/authorizations", "/reconciliation"]

/-- `isProtectedPath`. -/
def isProtectedPath (path : String) : Bool :=
  protectedPrefixes.any fun pathPrefix => pathPrefix.toList.isPrefixOf path.toList

/-- `Character.isWhitespace`. The no-break spaces are not among them. -/
def isWhitespace (c : Char) : Bool :=
  let n := c.toNat
  (9 ≤ n && n ≤ 13) || (28 ≤ n && n ≤ 32) || n = 0x1680 || (0x2000 ≤ n && n ≤ 0x2006) ||
    (0x2008 ≤ n && n ≤ 0x200A) || n = 0x2028 || n = 0x2029 || n = 0x205F || n = 0x3000

/-- `String.isBlank`. -/
def isBlank (s : String) : Bool := s.toList.all isWhitespace

/-- `"bearer".equalsIgnoreCase`. No character outside of ASCII has one of these letters as its upper
or lower case. -/
def isBearer (scheme : List Char) : Bool := scheme.map Char.toLower = "bearer".toList

/-- `String.trim`: nothing up to the space is left at either end. -/
def trim (s : List Char) : List Char :=
  ((s.dropWhile fun c => c.toNat ≤ 32).reverse.dropWhile fun c => c.toNat ≤ 32).reverse

/-- `bearerToken`. -/
def bearerToken (header : Option String) : Option String :=
  match header with
  | none => none
  | some header =>
    match header.toList.idxOf? ' ' with
    | none => none
    | some separator =>
      if separator = 0 ∨ ¬isBearer (header.toList.take separator) then none
      else
        let token := trim (header.toList.drop (separator + 1))
        if token.isEmpty then none else some (String.ofList token)

/-- `constantTimeEquals`. -/
def constantTimeEquals (supplied expected : String) : Bool :=
  supplied.toUTF8.data.toList = expected.toUTF8.data.toList

/-- Only equal texts have equal octets. -/
theorem constantTimeEquals_iff {supplied expected : String} :
    constantTimeEquals supplied expected = true ↔ supplied = expected := by
  unfold constantTimeEquals
  rw [decide_eq_true_iff]
  refine ⟨fun h => ?_, fun h => by rw [h]⟩
  have hdata : supplied.toUTF8.data = expected.toUTF8.data := Array.toList_inj.mp h
  exact String.toByteArray_inj.mp (ByteArray.ext hdata)

/-- What the filter does with a request. -/
inductive Filtered where
  /-- The rest of the chain is called. -/
  | doFilter
  /-- `writeError`, with the challenge that is set before it. -/
  | writeError (status : ℕ) (wwwAuthenticate : Option String) (body : String)
  deriving DecidableEq, Repr

/-- The body that `writeError` writes. -/
def errorBody (detail : String) : String := "\x7b\"detail\":\"" ++ detail ++ "\"\x7d"

/-- `doFilterInternal`, with the value of `ATLASPAY_INTERNAL_TOKEN`, if it is set, the raw request
URI and the `Authorization` header. -/
def doFilterInternal (environment : Option String) (requestUri : String)
    (header : Option String) : Filtered :=
  if ¬isProtectedPath requestUri then .doFilter
  else
    let expected := environment.getD ""
    if isBlank expected then
      .writeError 503 none (errorBody "Internal service authentication is not configured")
    else
      match bearerToken header with
      | none =>
        .writeError 401 (some "Bearer") (errorBody "Valid internal bearer credentials are required")
      | some supplied =>
        if ¬constantTimeEquals supplied expected then
          .writeError 401 (some "Bearer")
            (errorBody "Valid internal bearer credentials are required")
        else .doFilter

/-! ## The dispatcher -/

/-- The controllers behind the filter. -/
inductive Controller where
  | authorizationController
  | reconciliationController
  deriving DecidableEq, Repr

/-- The segments of the pattern of a controller's method. -/
def Controller.pattern : Controller → String × String
  | .authorizationController => ("v1", "authorizations")
  | .reconciliationController => ("reconciliation", "runs")

/-- The dispatcher routes the URI to the controller. -/
def Dispatches (requestUri : String) (controller : Controller) : Prop :=
  ∃ first second, pathSegments requestUri.toList = some [first, second] ∧
    Spells first controller.pattern.1.toList ∧ Spells second controller.pattern.2.toList

/-! ## What is behind the filter -/

/-- The token is configured, and the header carries exactly it. -/
def Authenticated (environment header : Option String) : Prop :=
  ∃ token scheme credentials, environment = some token ∧ isBlank token = false ∧
    header.map String.toList = some (scheme ++ ' ' :: credentials) ∧ ' ' ∉ scheme ∧
    isBearer scheme = true ∧ trim credentials = token.toList

/-- What the filter lets through for the URI is authenticated. -/
def Guards (requestUri : String) : Prop :=
  ∀ environment header, doFilterInternal environment requestUri header = .doFilter →
    Authenticated environment header

/-- The URI spells the protected prefix out: nothing of it is encoded, and no parameters are within
it. -/
def SpelledOut (requestUri : String) : Prop :=
  ∃ first second, pathSegments requestUri.toList = some [first, second] ∧
    ((first = "v1".toList ∧ withoutParameters second = "authorizations".toList) ∨
      withoutParameters first = "reconciliation".toList)

/-! ## The bearer token -/

/-- The first separator is behind the scheme. -/
theorem idxOf?_append {scheme : List Char} (h : ' ' ∉ scheme) (credentials : List Char) :
    (scheme ++ ' ' :: credentials).idxOf? ' ' = some scheme.length := by
  induction scheme with
  | nil => rw [List.nil_append, List.idxOf?_cons, if_pos (beq_self_eq_true ' ')]; rfl
  | cons c scheme ih =>
    simp only [List.mem_cons, not_or] at h
    rw [List.cons_append, List.idxOf?_cons, if_neg (by simpa using Ne.symm h.1), ih h.2]
    rfl

/-- The token of a header is what is left of the credentials, when the scheme is the bearer one. -/
theorem bearerToken_append {header : String} {scheme credentials : List Char}
    (hheader : header.toList = scheme ++ ' ' :: credentials) (hscheme : ' ' ∉ scheme) :
    bearerToken (some header) =
      if isBearer scheme ∧ trim credentials ≠ [] then some (String.ofList (trim credentials))
      else none := by
  have hcredentials : (scheme ++ ' ' :: credentials).drop (scheme.length + 1) = credentials := by
    rw [List.drop_append, List.drop_of_length_le (Nat.le_succ _), Nat.add_sub_cancel_left]
    rfl
  simp only [bearerToken, hheader, idxOf?_append hscheme, List.take_left, hcredentials]
  by_cases hbearer : isBearer scheme = true
  · have hne : scheme.length ≠ 0 := by
      rintro hnil
      rw [List.length_eq_zero_iff.mp hnil] at hbearer
      exact absurd hbearer (by decide)
    simp [hbearer, hne]
  · simp [hbearer]

/-- A header has a token exactly when it has the bearer scheme and credentials. -/
theorem bearerToken_eq_some_iff {header : Option String} {token : String} :
    bearerToken header = some token ↔ token ≠ "" ∧ ∃ scheme credentials,
      header.map String.toList = some (scheme ++ ' ' :: credentials) ∧ ' ' ∉ scheme ∧
        isBearer scheme = true ∧ trim credentials = token.toList := by
  cases header with
  | none => simp [bearerToken]
  | some header =>
    by_cases hspace : ' ' ∈ header.toList
    -- The filter splits at the first space, and so does `eq_append_cons_of_mem`.
    · obtain ⟨scheme, credentials, hheader, hscheme⟩ := List.eq_append_cons_of_mem hspace
      rw [bearerToken_append hheader hscheme]
      constructor
      · intro h
        split at h
        · next hboth =>
          cases h
          refine ⟨fun hempty => hboth.2 ?_, scheme, credentials, congrArg some hheader, hscheme,
            hboth.1, String.toList_ofList.symm⟩
          rw [← String.toList_ofList (l := trim credentials), hempty]
          rfl
        · cases h
      · rintro ⟨hne, scheme', credentials', hheader', hscheme', hbearer, htrim⟩
        rw [← bearerToken_append hheader hscheme,
          bearerToken_append (Option.some.inj hheader') hscheme', if_pos, htrim,
          String.ofList_toList]
        exact ⟨hbearer, fun hnil => hne (String.toList_eq_nil_iff.mp (htrim.symm.trans hnil))⟩
    · have hnone : header.toList.idxOf? ' ' = none := List.idxOf?_eq_none_iff.mpr hspace
      refine iff_of_false (by simp [bearerToken, hnone]) ?_
      rintro ⟨-, scheme, credentials, hheader, -⟩
      exact hspace (Option.some.inj hheader ▸ by simp)

/-- A blank token is none. -/
theorem ne_empty_of_isBlank {token : String} (h : isBlank token = false) : token ≠ "" := by
  rintro rfl
  exact absurd h (by decide)

/-! ## The filter before the dispatcher -/

/-- What is let through for a protected path is what is authenticated. -/
theorem doFilterInternal_of_protected {requestUri : String} (h : isProtectedPath requestUri = true)
    (environment header : Option String) :
    doFilterInternal environment requestUri header = .doFilter ↔
      Authenticated environment header := by
  unfold doFilterInternal
  rw [if_neg (not_not.mpr h)]
  cases environment with
  | none =>
    refine iff_of_false ?_ ?_
    -- Without the variable the filter answers 503 to everybody.
    · rw [Option.getD_none, if_pos (by decide)]
      nofun
    · rintro ⟨token, _, _, henvironment, -⟩
      cases henvironment
  | some token =>
    rw [Option.getD_some]
    cases hblank : isBlank token with
    -- A blank variable counts as no configuration: 503.
    | true =>
      rw [if_pos hblank]
      refine iff_of_false nofun ?_
      rintro ⟨_, _, _, ⟨⟩, hnot, -⟩
      rw [hblank] at hnot
      cases hnot
    | false =>
      have hsome := @bearerToken_eq_some_iff header token
      rw [and_iff_right (ne_empty_of_isBlank hblank)] at hsome
      have hauthenticated :
          Authenticated (some token) header ↔ bearerToken header = some token := by
        rw [hsome]
        constructor
        · rintro ⟨_, scheme, credentials, ⟨⟩, -, hcarries⟩
          exact ⟨scheme, credentials, hcarries⟩
        · rintro ⟨scheme, credentials, hcarries⟩
          exact ⟨token, scheme, credentials, rfl, hblank, hcarries⟩
      rw [hauthenticated, if_neg (by simp [hblank])]
      cases bearerToken header with
      | none => simp
      | some supplied =>
        have hequal := @constantTimeEquals_iff supplied token
        by_cases heq : supplied = token
        · have hsame := hequal.mpr heq
          rw [heq] at hsame
          simp [heq, hsame]
        · simp [heq, mt hequal.mp heq]

/-- Of the URIs of the two controllers, those are protected that spell the prefix out. -/
theorem isProtectedPath_iff {requestUri : String} {controller : Controller}
    (h : Dispatches requestUri controller) :
    isProtectedPath requestUri = true ↔ SpelledOut requestUri := by
  obtain ⟨first, second, hsegments, hfirst, hsecond⟩ := h
  obtain ⟨huri, hslash, -⟩ := Uri.pathSegments_pair_iff.mp hsegments
  have hprotected : isProtectedPath requestUri = true ↔
      (first = "v1".toList ∧ "authorizations".toList <+: second) ∨
        "reconciliation".toList <+: first := by
    simp only [isProtectedPath, protectedPrefixes, List.any_cons, List.any_nil, Bool.or_false,
      Bool.or_eq_true, List.isPrefixOf_iff_prefix, huri]
    refine or_congr ?_ ?_
    · rw [show "/v1/authorizations".toList = '/' :: ("v1".toList ++ '/' :: "authorizations".toList)
        from by decide, List.cons_prefix_cons, and_iff_right rfl,
        Uri.slash_prefix_iff (by decide) hslash, eq_comm]
    · rw [show "/reconciliation".toList = '/' :: "reconciliation".toList from by decide,
        List.cons_prefix_cons, and_iff_right rfl, Uri.prefix_append_slash_iff (by decide)]
  have hspelled : SpelledOut requestUri ↔
      (first = "v1".toList ∧ withoutParameters second = "authorizations".toList) ∨
        withoutParameters first = "reconciliation".toList := by
    constructor
    · rintro ⟨first', second', hsegments', hor⟩
      cases hsegments.symm.trans hsegments'
      exact hor
    · exact fun hor => ⟨first, second, hsegments, hor⟩
  rw [hprotected, hspelled]
  cases controller with
  | authorizationController =>
    change Spells first "v1".toList at hfirst
    change Spells second "authorizations".toList at hsecond
    -- The first segment spells `v1`, so the other prefix does not match it.
    have hnot : ¬"reconciliation".toList <+: first := fun hstarts =>
      absurd (Uri.prefix_of_spells (by decide) hfirst hstarts) (by decide)
    have hnot' : withoutParameters first ≠ "reconciliation".toList := fun heq =>
      hnot (heq ▸ List.takeWhile_prefix _)
    rw [or_iff_left hnot, or_iff_left hnot', Uri.prefix_iff_of_spells (by decide) hsecond]
  | reconciliationController =>
    change Spells first "reconciliation".toList at hfirst
    have hnot : first ≠ "v1".toList := by
      rintro rfl
      exact absurd hfirst (by decide)
    rw [or_iff_right fun hboth => hnot hboth.1, or_iff_right fun hboth => hnot hboth.1,
      Uri.prefix_iff_of_spells (by decide) hfirst]

/-- A route is behind the filter exactly for those of its URIs that spell the prefix out. -/
theorem guards_iff {requestUri : String} {controller : Controller}
    (h : Dispatches requestUri controller) : Guards requestUri ↔ SpelledOut requestUri := by
  rw [← isProtectedPath_iff h]
  constructor
  · intro hguards
    -- Not protected, the URI is let through even where no token is configured.
    by_contra hnot
    obtain ⟨token, _, _, henvironment, -⟩ := hguards none none (if_pos hnot)
    cases henvironment
  · exact fun hprotected environment header hforward =>
      (doFilterInternal_of_protected hprotected environment header).mp hforward

/-- The URI of the tests is behind the filter. -/
theorem guards_literal : Guards "/v1/authorizations" := by
  have hsegments : pathSegments "/v1/authorizations".toList =
      some ["v1".toList, "authorizations".toList] := by decide +kernel
  have hroute : Dispatches "/v1/authorizations" .authorizationController :=
    ⟨_, _, hsegments, by decide +kernel, by decide +kernel⟩
  exact (guards_iff hroute).mpr ⟨_, _, hsegments, Or.inl ⟨rfl, by decide +kernel⟩⟩

/-- With one letter encoded, the dispatcher still routes the URI, and the filter lets a request
through that has no header, when no token is configured. -/
theorem not_guards_encoded : ∃ requestUri controller, Dispatches requestUri controller ∧
    doFilterInternal none requestUri none = .doFilter ∧ ¬Guards requestUri := by
  have hsegments : pathSegments "/v1/%61uthorizations".toList =
      some ["v1".toList, "%61uthorizations".toList] := by decide +kernel
  have hforward : doFilterInternal none "/v1/%61uthorizations" none = .doFilter := by
    decide +kernel
  refine ⟨"/v1/%61uthorizations", .authorizationController, ?_, hforward, fun h => ?_⟩
  · exact ⟨_, _, hsegments, by decide +kernel, by decide +kernel⟩
  · obtain ⟨token, _, _, henvironment, -⟩ := h none none hforward
    cases henvironment

end InternalServiceAuthFilter

end AtlasPay
