import GptLiveProxy.HeaderMap
import Mathlib.Data.List.Lex
import Mathlib.Data.List.Sort

/-!
# Rendering headers without credentials

The renderer turns each header into one line, hides the value of a header whose name or mark makes
it a credential, and sorts the lines. The result is a function of the names and of what each value
may show, counted with multiplicity: neither a hidden value nor an order has any influence on it.
-/

namespace GptLiveProxy
open CharText

/-- Names whose values are never rendered, marked sensitive or not. -/
def CREDENTIAL_HEADERS : List Text :=
  ["authorization".toList, "chatgpt-account-id".toList, "cookie".toList, "idempotency-key".toList,
    "openai-organization".toList, "openai-project".toList, "openai-safety-identifier".toList,
    "proxy-authorization".toList, "sec-websocket-protocol".toList, "set-cookie".toList,
    "x-api-key".toList, "x-gpt-live-api-key".toList, "x-oai-attestation".toList]

def isCredential (name : HeaderName) (value : HeaderValue) : Bool :=
  value.sensitive || CREDENTIAL_HEADERS.any (eqIgnoreAsciiCase · name.toList)

def renderHeader (entry : HeaderName × HeaderValue) : Text :=
  if isCredential entry.1 entry.2 then entry.1.toList ++ ": <redacted>".toList
  else
    match entry.2.toStr with
    | some value => entry.1.toList ++ ": ".toList ++ value
    | none => entry.1.toList ++ ": <non-utf8>".toList

/-- What `HeaderMap::iter` yields: every entry once, in an order the map does not promise. -/
structure HeaderIteration (headers : HeaderMap) where
  items : List (HeaderName × HeaderValue)
  complete : items.Perm headers.entries

def sortKey (t : Text) : List Nat := (utf8 t).map UInt8.toNat

def redactedHeaders {headers : HeaderMap} (iteration : HeaderIteration headers) : Text :=
  let rendered := iteration.items.map renderHeader
  let rendered := rendered.insertionSort fun a b => sortKey a ≤ sortKey b
  "\x7b".toList ++ (", ".toList).intercalate rendered ++ "\x7d".toList

/-- What a header may show. -/
inductive EntryClass
  | secret
  | undecodable
  | visible (text : Text)
deriving DecidableEq

def entryClass (entry : HeaderName × HeaderValue) : EntryClass :=
  if isCredential entry.1 entry.2 then .secret
  else
    match entry.2.toStr with
    | some text => .visible text
    | none => .undecodable

def classEntries (headers : HeaderMap) : List (HeaderName × EntryClass) :=
  headers.entries.map fun entry => (entry.1, entryClass entry)

def renderClass (entry : HeaderName × EntryClass) : Text :=
  match entry.2 with
  | .secret => entry.1.toList ++ ": <redacted>".toList
  | .undecodable => entry.1.toList ++ ": <non-utf8>".toList
  | .visible text => entry.1.toList ++ ": ".toList ++ text

section Sorting
variable {α β : Type*} [LinearOrder β] {key : α → β}

/-- Sorting by a key that tells all values apart forgets the order of the list. -/
theorem insertionSort_eq_of_perm (hkey : Function.Injective key) {l l' : List α} (h : l.Perm l') :
    l.insertionSort (fun a b => key a ≤ key b) = l'.insertionSort fun a b => key a ≤ key b := by
  have htotal : Std.Total fun a b : α => key a ≤ key b := ⟨fun a b => le_total (key a) (key b)⟩
  have htrans : IsTrans α fun a b => key a ≤ key b := ⟨fun a b c => le_trans⟩
  have hsorted (l : List α) := List.pairwise_insertionSort (fun a b => key a ≤ key b) l
  have hperm (l : List α) := List.perm_insertionSort (fun a b => key a ≤ key b) l
  apply List.Perm.eq_of_pairwise ?_ (hsorted l) (hsorted l')
  · exact (hperm l).trans (h.trans (hperm l').symm)
  · intro a b _ _ hab hba
    exact hkey (le_antisymm hab hba)

end Sorting

theorem sortKey_injective : Function.Injective sortKey := by
  intro a b h
  exact utf8_injective (List.map_injective_iff.mpr (fun _ _ => UInt8.toNat_inj.mp) h)

/-- A line shows the name and the class of the value, nothing else. -/
theorem renderHeader_eq (entry : HeaderName × HeaderValue) :
    renderHeader entry = renderClass (entry.1, entryClass entry) := by
  unfold renderHeader entryClass
  split_ifs with hcredential
  · rfl
  · cases entry.2.toStr with
    | none => rfl
    | some text => rfl

theorem rendered_perm {headers : HeaderMap} (iteration : HeaderIteration headers) :
    (iteration.items.map renderHeader).Perm ((classEntries headers).map renderClass) := by
  have hlines : headers.entries.map renderHeader = (classEntries headers).map renderClass := by
    rw [classEntries, List.map_map]
    exact List.map_congr_left fun entry _ => renderHeader_eq entry
  rw [← hlines]
  exact iteration.complete.map renderHeader

/-- Two maps with the same names and classes, counted with multiplicity, render alike, whatever the
hidden values and whatever order either map is iterated in. -/
theorem redacted_headers_noninterference {a b : HeaderMap}
    (h : (classEntries a).Perm (classEntries b)) (iteration : HeaderIteration a)
    (iteration' : HeaderIteration b) : redactedHeaders iteration = redactedHeaders iteration' := by
  have hlines : (iteration.items.map renderHeader).Perm (iteration'.items.map renderHeader) :=
    (rendered_perm iteration).trans ((h.map renderClass).trans (rendered_perm iteration').symm)
  have hsorted := insertionSort_eq_of_perm sortKey_injective hlines
  simp only [redactedHeaders, hsorted]

section Instances

def firstLogin : HeaderMap :=
  headersOf [("authorization", "Bearer one".toList), ("openai-alpha", "quicksilver=v2".toList)]

def secondLogin : HeaderMap :=
  headersOf [("openai-alpha", "quicksilver=v2".toList), ("authorization", "Bearer two".toList)]

def inserted (headers : HeaderMap) : HeaderIteration headers := ⟨headers.entries, .rfl⟩

example : redactedHeaders (inserted firstLogin) =
    "\x7bauthorization: <redacted>, openai-alpha: quicksilver=v2\x7d".toList := by decide +kernel

theorem logins_render_alike :
    redactedHeaders (inserted firstLogin) = redactedHeaders (inserted secondLogin) :=
  redacted_headers_noninterference
    (show (classEntries firstLogin).Perm (classEntries secondLogin) by decide +kernel) _ _

end Instances

end GptLiveProxy
