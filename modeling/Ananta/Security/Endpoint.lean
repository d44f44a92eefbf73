import Ananta.Security.Provider

/-! Canonical endpoint identities of providers. -/

namespace Ananta

open List

/-- What the URL and address parsers of the standard library make of an endpoint that they
accept. -/
structure EndpointParts where
  secure : Bool
  authority : Str
  path : Str

/-- The parsers, which return nothing where the endpoint is refused. -/
abbrev EndpointParser := (endpoint : Str) → Option EndpointParts

def pathSegments (path : Str) : List Str := path.splitOn (codePoint '/')

def canonicalPath (path : Str) : Str :=
  ((pathSegments path).filter (· ≠ [])).flatMap fun segment => codePoint '/' :: segment

/-- The path of the requests that a provider is called with, for the path of its endpoint. -/
def requestPath (provider path : Str) : Option Str :=
  if provider = "anthropic" then
    if path = [] ∨ path = "/v1" ∨ path = "/v1/messages" then some (text "/v1/messages") else none
  else if provider = "ollama" ∧ "/api/generate" <:+ path then
    if path = "/api/generate" then some path else none
  else if "/chat/completions" <:+ path then
    if "/v1/chat/completions" <:+ path then some path else none
  else if path = [] then some (text "/v1/chat/completions")
  else if "/v1" <:+ path then some (path ++ "/chat/completions") else none

/-- `build_provider_request_url`. -/
def normalizeProviderEndpointIdentity (parser : EndpointParser) : EndpointPolicy :=
  fun providerId endpointUrl =>
  let provider := lower (strip providerId)
  let rawEndpoint := strip endpointUrl
  if 1024 < rawEndpoint.length ∨ 0 ∈ rawEndpoint ∨ provider = [] then none
  else (parser rawEndpoint).bind fun parts =>
    if codePoint '\\' ∈ parts.path ∨ (∃ point ∈ parts.path, point.val < 32) ∨
        text "." ∈ pathSegments parts.path ∨ text ".." ∈ pathSegments parts.path then none
    else (requestPath provider (canonicalPath parts.path)).bind fun path =>
      let identity := text (if parts.secure then "https://" else "http://") ++ parts.authority ++
        path
      if 1024 < identity.length then none else some identity

/-- A text that neither begins nor ends with a blank is trimmed. -/
lemma strip_eq_self_of_ends {value : Str} (first : ∀ point ∈ value.head?, isSpace point = false)
    (last : ∀ point ∈ value.getLast?, isSpace point = false) : strip value = value := by
  have right : value.rdropWhile isSpace = value := by
    refine rdropWhile_eq_self_iff.mpr fun nonempty => ?_
    simp [last _ (getLast?_eq_getLast_of_ne_nil nonempty)]
  rw [strip, right]
  cases value with
  | nil => rfl
  | cons point rest => rw [dropWhile_cons, first point rfl, if_neg (by simp)]

/-- The paths of requests end with one of three names. -/
lemma suffix_requestPath {provider path requests : Str}
    (built : requestPath provider path = some requests) :
    "/v1/messages" <:+ requests ∨ "/api/generate" <:+ requests ∨
      "/chat/completions" <:+ requests := by
  unfold requestPath at built
  split at built
  · simp_all
  split at built
  · simp_all
  split at built
  · simp_all
  split at built
  · cases built
    exact .inr (.inr ⟨"/v1", by decide⟩)
  grind

lemma last_of_suffix {value ending : Str} (point : CodePoint) (ends : ending.getLast? = some point)
    (solid : isSpace point = false) (suffix : ending <:+ value) :
    ∀ last ∈ value.getLast?, isSpace last = false := by
  obtain ⟨front, rfl⟩ := suffix
  simp_all

/-- Canonical identities are trimmed. -/
lemma strip_normalized {parser : EndpointParser} {providerId endpointUrl identity : Str}
    (normalized : normalizeProviderEndpointIdentity parser providerId endpointUrl = some identity) :
    strip identity = identity := by
  unfold normalizeProviderEndpointIdentity at normalized
  dsimp only at normalized
  split at normalized
  · cases normalized
  obtain ⟨parts, _, built⟩ := Option.bind_eq_some_iff.mp normalized
  split at built
  · cases built
  obtain ⟨path, requests, made⟩ := Option.bind_eq_some_iff.mp built
  obtain ⟨_, rfl⟩ := (Option.ite_none_left_eq_some.mp made).imp_right Option.some.inj
  apply strip_eq_self_of_ends
  · -- An identity begins with the name of its scheme.
    cases parts.secure <;> (intro point found; cases found; decide)
  · rcases suffix_requestPath requests with suffix | suffix | suffix
    · exact last_of_suffix (codePoint 's') (by decide) (by decide)
        (suffix.trans (suffix_append _ _))
    · exact last_of_suffix (codePoint 'e') (by decide) (by decide)
        (suffix.trans (suffix_append _ _))
    · exact last_of_suffix (codePoint 's') (by decide) (by decide)
        (suffix.trans (suffix_append _ _))

end Ananta
