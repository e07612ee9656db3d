import GptLiveProxy.Origin

/-!
# Which Origin values an accepted request carries

`checkOrigin` decodes the first `Origin` value and reads no other, and a first value that does not
decode counts as absent. What an acceptance establishes about all the values follows from that.
-/

namespace GptLiveProxy
open CharText

variable {uris : UriParser} {headers : HeaderMap} {config : Config} {kind : RequestKind}

/-- A value the policy accepts for the host this request addresses. -/
def OriginVerified (uris : UriParser) (headers : HeaderMap) (config : Config) (value : HeaderValue) :
    Prop :=
  ∃ origin, value.toStr = some origin ∧
    originAllowed uris origin (requestHost uris headers) config = true

theorem checkOrigin_first (h : checkOrigin uris headers config kind = .ok ()) {value : HeaderValue}
    {rest : List HeaderValue} (hvalues : headers.getAll "origin" = value :: rest) {origin : Text}
    (hread : value.toStr = some origin) :
    originAllowed uris origin (requestHost uris headers) config = true := by
  have hget : headers.get "origin" = some value := by
    rw [OrderedMultimap.get_eq_head?, hvalues, List.head?_cons]
  unfold checkOrigin at h
  simp only [hget, Option.bind_some, hread] at h
  split_ifs at h with hhost hallowed
  exact hallowed

/-- The values of an accepted request are verified when the first one decodes and the others, which
the policy never reads, would each pass it. -/
theorem origin_values_verified_iff (h : checkOrigin uris headers config kind = .ok ()) :
    (∀ value ∈ headers.getAll "origin", OriginVerified uris headers config value) ↔
      (∀ value ∈ (headers.getAll "origin").head?, value.toStr.isSome = true) ∧
        ∀ value ∈ (headers.getAll "origin").tail, OriginVerified uris headers config value := by
  cases hvalues : headers.getAll "origin" with
  | nil => simp
  | cons first rest =>
    rw [List.forall_mem_cons, List.head?_cons, List.tail_cons]
    have hfirst : OriginVerified uris headers config first ↔ first.toStr.isSome = true := by
      constructor
      · rintro ⟨origin, hread, -⟩
        rw [hread]
        rfl
      · intro hsome
        obtain ⟨origin, hread⟩ := Option.isSome_iff_exists.mp hsome
        exact ⟨origin, hread, checkOrigin_first h hvalues hread⟩
    rw [hfirst]
    simp

section Instances

def localhostParser : UriParser where
  parseAuthority _ := none
  parseUri t :=
    if t = "http://localhost".toList then
      some ⟨some .http, some ⟨"localhost".toList, "localhost".toList, none⟩, "/".toList, none⟩
    else none

def publicClient : Config := .everyInterface (.apiKeyClient "https://api.openai.com".toList) "secret".toList

def localhostOrigin : HeaderMap := headersOf [("origin", "http://localhost".toList)]

/-- One byte that is legal in a header value and not readable as text. -/
def opaqueValue : HeaderValue := ⟨[0xff], false, List.all_eq_true.mp rfl⟩

def opaqueOrigin : HeaderMap := ⟨[("origin", opaqueValue)]⟩

theorem localhost_origin_values_verified : ∃ value ∈ localhostOrigin.getAll "origin",
    OriginVerified localhostParser localhostOrigin publicClient value := by
  have haccepted : checkOrigin localhostParser localhostOrigin publicClient .http = .ok () := rfl
  refine ⟨_, List.mem_singleton.mpr rfl, (origin_values_verified_iff haccepted).mpr ⟨?_, ?_⟩ _
    (List.mem_singleton.mpr rfl)⟩
  · decide
  · exact fun value hvalue => absurd hvalue List.not_mem_nil

theorem opaque_origin_accepted_unverified :
    checkOrigin localhostParser opaqueOrigin publicClient .http = .ok () ∧
      ¬∀ value ∈ opaqueOrigin.getAll "origin",
        OriginVerified localhostParser opaqueOrigin publicClient value := by
  refine ⟨rfl, fun hall => ?_⟩
  obtain ⟨origin, hread, -⟩ := hall opaqueValue (List.mem_singleton.mpr rfl)
  cases hread

end Instances

end GptLiveProxy
