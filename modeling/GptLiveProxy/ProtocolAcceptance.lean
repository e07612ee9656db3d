import GptLiveProxy.AsciiText
import GptLiveProxy.ProtocolTokens
import GptLiveProxy.TextPieces

/-!
# Which subprotocol lists are accepted

`Acceptable` is the acceptance condition on the fields as a whole: it bounds the raw and the
canonical length, and it asks of each token a class, a size, and an alphabet, of each class at most
one token, and of the credential that it is not the admission secret. The scan accepts exactly
these lists, and what it reports is a function of the tokens. The canonical header is therefore
accepted again, with the same report.
-/

namespace GptLiveProxy
open CharText OrderedMultimap

inductive TokenClass
  | realtime
  | credential
  | organization
  | project
deriving DecidableEq

namespace TokenClass

def marker : TokenClass → Text
  | realtime => REALTIME
  | credential => CREDENTIAL_PREFIX
  | organization => ORGANIZATION_PREFIX
  | project => PROJECT_PREFIX

/-- The token is `realtime`, or the marker of the class with something behind it. -/
def covers (kind : TokenClass) (token : Text) : Bool :=
  match kind with
  | realtime => token == REALTIME
  | kind => (token.dropPrefix? kind.marker).any fun suffix => !suffix.isEmpty

end TokenClass

/-- A token the scan may accept. -/
structure IsOffered (token : Text) : Prop where
  spelled : IsProtocolToken token
  short : byteLen token ≤ MAX_PROTOCOL_TOKEN_BYTES
  known : ∃ kind : TokenClass, kind.covers token = true

/-- The tokens of all readable fields, in wire order. -/
def fieldTokens (fields : List HeaderValue) : List Text :=
  (fields.filterMap HeaderValue.toStr).flatMap protocolTokens

def fieldLength (fields : List HeaderValue) : Nat :=
  byteLen (fields.filterMap HeaderValue.toStr).flatten

structure Acceptable (fields : List HeaderValue) (admission : Option BearerToken) : Prop where
  readable : ∀ field ∈ fields, ∃ raw, field.toStr = some raw
  aggregate : fieldLength fields ≤ MAX_PROTOCOL_AGGREGATE_BYTES
  offered : ∀ token ∈ fieldTokens fields, IsOffered token
  single : ∀ kind : TokenClass, (fieldTokens fields).countP kind.covers ≤ 1
  withheld : ∀ secret ∈ admission, CREDENTIAL_PREFIX ++ secret.raw ∉ fieldTokens fields
  realtime : ∀ token ∈ fieldTokens fields, token ≠ REALTIME → REALTIME ∈ fieldTokens fields
  canonical : byteLen (canonicalList (fieldTokens fields)) ≤ MAX_PROTOCOL_AGGREGATE_BYTES

def credentialValue (token : Text) : Option HeaderValue :=
  (credentialSuffix token).bind fun suffix =>
    (HeaderValue.fromStr suffix).map (HeaderValue.setSensitive · true)

def scanOf (aggregate : Nat) (tokens : List Text) : ProtocolScan where
  offered := tokens
  aggregate := aggregate
  hasRealtime := tokens.any TokenClass.realtime.covers
  credential := tokens.findSome? credentialValue
  hasOrganization := tokens.any TokenClass.organization.covers
  hasProject := tokens.any TokenClass.project.covers

/-- What the parser reports of a list of tokens. -/
def parsedOf (tokens : List Text) : ParsedProtocols where
  offered := tokens
  upstreamHeader :=
    if tokens = [] then none
    else (HeaderValue.fromStr (canonicalList tokens)).map (HeaderValue.setSensitive · true)
  browserCredential := tokens.findSome? credentialValue
  hasOrganization := tokens.any TokenClass.organization.covers
  hasProject := tokens.any TokenClass.project.covers

section Classes

theorem covers_realtime (kind : TokenClass) : kind.covers REALTIME = decide (kind = .realtime) := by
  cases kind <;> decide

theorem covers_of_ne {kind : TokenClass} (hkind : kind ≠ .realtime) (token : Text) :
    kind.covers token = (token.dropPrefix? kind.marker).any fun suffix => !suffix.isEmpty := by
  cases kind with
  | realtime => exact absurd rfl hkind
  | _ => rfl

/-- The markers tell the classes apart: none is the beginning of another. -/
theorem covers_marker {kind : TokenClass} (hkind : kind ≠ .realtime) (suffix : Text)
    (other : TokenClass) :
    other.covers (kind.marker ++ suffix) = (decide (other = kind) && !suffix.isEmpty) := by
  by_cases hother : other = kind
  · subst hother
    rw [covers_of_ne hkind, dropPrefix?_append, Option.any_some, decide_eq_true rfl, Bool.true_and]
  · rw [decide_eq_false hother, Bool.false_and]
    cases kind <;> cases other <;> first | rfl | exact absurd rfl hkind | exact absurd rfl hother

theorem covers_iff {token : Text} {kind : TokenClass} :
    kind.covers token = true ↔
      (kind = .realtime ∧ token = REALTIME) ∨
        (kind ≠ .realtime ∧ ∃ suffix, suffix ≠ [] ∧ token = kind.marker ++ suffix) := by
  constructor
  · intro h
    cases kind with
    | realtime => exact .inl ⟨rfl, beq_iff_eq.mp h⟩
    | _ =>
      obtain ⟨suffix, hsuffix, hne⟩ := (Option.any_eq_true _ _).mp h
      exact .inr ⟨by simp, suffix, by simpa using hne, dropPrefix?_eq_some.mp hsuffix⟩
  · rintro (⟨rfl, rfl⟩ | ⟨hkind, suffix, hne, rfl⟩)
    · rfl
    · rw [covers_marker hkind, decide_eq_true rfl, Bool.true_and]
      simpa using hne

theorem covers_unique {token : Text} {kind other : TokenClass} (h : kind.covers token = true)
    (hother : other.covers token = true) : other = kind := by
  rcases covers_iff.mp h with ⟨rfl, rfl⟩ | ⟨hkind, suffix, -, rfl⟩
  · rw [covers_realtime] at hother
    exact of_decide_eq_true hother
  · rw [covers_marker hkind, Bool.and_eq_true] at hother
    exact of_decide_eq_true hother.1

theorem covered_spelling {token : Text} (h : ∃ kind : TokenClass, kind.covers token = true) :
    token = REALTIME ∨ ∃ kind suffix, kind ≠ TokenClass.realtime ∧ suffix ≠ [] ∧
      token = TokenClass.marker kind ++ suffix := by
  obtain ⟨kind, hkind⟩ := h
  rcases covers_iff.mp hkind with ⟨-, htoken⟩ | ⟨hne, suffix, hsuffix, htoken⟩
  · exact .inl htoken
  · exact .inr ⟨kind, suffix, hne, hsuffix, htoken⟩

theorem dropPrefix?_of_not_covered {token : Text} (h : ¬ ∃ kind : TokenClass, kind.covers token = true)
    {kind : TokenClass} (hkind : kind ≠ .realtime) {suffix : Text}
    (hsuffix : token.dropPrefix? kind.marker = some suffix) : suffix = [] := by
  by_contra hne
  refine h ⟨kind, ?_⟩
  rw [covers_of_ne hkind, hsuffix, Option.any_some]
  simpa using hne

theorem credentialValue_isSome {token : Text} (htoken : IsOffered token) :
    (credentialValue token).isSome = TokenClass.credential.covers token := by
  have hvisible : ∀ c ∈ token, isVisibleChar c = true :=
    fun c hc => (isTokenChar_facts (htoken.spelled.2 c hc)).1
  rcases covered_spelling htoken.known with rfl | ⟨kind, suffix, hkind, hne, rfl⟩
  · decide
  cases kind with
  | realtime => exact absurd rfl hkind
  | credential =>
    obtain ⟨value, hvalue, -⟩ := HeaderValue.toStr_fromStr fun c hc =>
      hvisible c (List.mem_append_right _ hc)
    have hsuffix : credentialSuffix (CREDENTIAL_PREFIX ++ suffix) = some suffix :=
      dropPrefix?_append _ _
    rw [covers_marker hkind, credentialValue]
    change ((credentialSuffix (CREDENTIAL_PREFIX ++ suffix)).bind _).isSome = _
    rw [hsuffix, Option.bind_some, hvalue]
    simpa using hne
  | organization => rfl
  | project => rfl

end Classes

section Scan
variable {admission : Option BearerToken} {aggregate : Nat} {done : List Text} {token : Text}
  {scan : ProtocolScan}

/-- The token repeats no class of the tokens before it and is not the admission secret. -/
def FirstOfClass (admission : Option BearerToken) (done : List Text) (token : Text) : Prop :=
  (∀ kind : TokenClass, kind.covers token = true → done.any kind.covers = false) ∧
    ∀ secret ∈ admission, token ≠ CREDENTIAL_PREFIX ++ secret.raw

theorem scanOf_offered (tokens : List Text) : (scanOf aggregate tokens).offered = tokens := rfl

theorem scanOf_snoc : scanOf aggregate (done ++ [token]) =
    { offered := done ++ [token]
      aggregate := aggregate
      hasRealtime := done.any TokenClass.realtime.covers || TokenClass.realtime.covers token
      credential := (done.findSome? credentialValue).or (credentialValue token)
      hasOrganization :=
        done.any TokenClass.organization.covers || TokenClass.organization.covers token
      hasProject := done.any TokenClass.project.covers || TokenClass.project.covers token } := by
  simp [scanOf, List.findSome?_append]

theorem scanOf_credential_isSome (hdone : ∀ t ∈ done, IsOffered t) :
    (scanOf aggregate done).credential.isSome = done.any TokenClass.credential.covers := by
  induction done with
  | nil => rfl
  | cons t done ih =>
    obtain ⟨ht, hdone⟩ := List.forall_mem_cons.mp hdone
    have hhead := credentialValue_isSome ht
    have htail := ih hdone
    simp only [scanOf] at htail
    rw [List.any_cons, ← hhead, ← htail]
    simp only [scanOf, List.findSome?_cons]
    cases credentialValue t <;> rfl

theorem firstOfClass_iff {kind : TokenClass} (hkind : kind.covers token = true) :
    FirstOfClass admission done token ↔
      done.any kind.covers = false ∧ ∀ secret ∈ admission, token ≠ CREDENTIAL_PREFIX ++ secret.raw := by
  refine and_congr_left fun _ => ⟨fun h => h kind hkind, fun h other hother => ?_⟩
  rw [covers_unique hkind hother]
  exact h

theorem withheld_of_marker {kind : TokenClass} (hkind : kind ≠ .credential) {suffix : Text} :
    kind.covers (CREDENTIAL_PREFIX ++ suffix) = true → False := by
  intro h
  have hother : kind.covers (CREDENTIAL_PREFIX ++ suffix) = _ :=
    covers_marker (by simp : TokenClass.credential ≠ .realtime) suffix kind
  rw [h, decide_eq_false hkind, Bool.false_and] at hother
  cases hother

theorem marker_ne_realtime {kind : TokenClass} (hkind : kind ≠ .realtime) (suffix : Text) :
    kind.marker ++ suffix ≠ REALTIME := by
  have hcovers := covers_marker hkind suffix .realtime
  rw [decide_eq_false hkind.symm, Bool.false_and] at hcovers
  exact beq_eq_false_iff_ne.mp hcovers

theorem acceptClass_credential_marker (suffix : Text) :
    scan.acceptClass admission (CREDENTIAL_PREFIX ++ suffix) =
      scan.acceptCredential admission suffix := by
  have hne := marker_ne_realtime (by simp : TokenClass.credential ≠ .realtime) suffix
  change CREDENTIAL_PREFIX ++ suffix ≠ REALTIME at hne
  rw [ProtocolScan.acceptClass, if_neg hne, dropPrefix?_append]

theorem acceptClass_organization_marker {suffix : Text} (hsuffix : suffix ≠ []) :
    scan.acceptClass admission (ORGANIZATION_PREFIX ++ suffix) =
      if scan.hasOrganization = true then .error .invalidRealtimeSubprotocol
      else .ok { scan with hasOrganization := true } := by
  have hne := marker_ne_realtime (by simp : TokenClass.organization ≠ .realtime) suffix
  have hcredential : (ORGANIZATION_PREFIX ++ suffix).dropPrefix? CREDENTIAL_PREFIX = none := rfl
  change ORGANIZATION_PREFIX ++ suffix ≠ REALTIME at hne
  rw [ProtocolScan.acceptClass, if_neg hne, hcredential, dropPrefix?_append]
  simp only [hsuffix, false_or]

theorem acceptClass_project_marker {suffix : Text} (hsuffix : suffix ≠ []) :
    scan.acceptClass admission (PROJECT_PREFIX ++ suffix) =
      if scan.hasProject = true then .error .invalidRealtimeSubprotocol
      else .ok { scan with hasProject := true } := by
  have hne := marker_ne_realtime (by simp : TokenClass.project ≠ .realtime) suffix
  have hcredential : (PROJECT_PREFIX ++ suffix).dropPrefix? CREDENTIAL_PREFIX = none := rfl
  have horganization : (PROJECT_PREFIX ++ suffix).dropPrefix? ORGANIZATION_PREFIX = none := rfl
  change PROJECT_PREFIX ++ suffix ≠ REALTIME at hne
  rw [ProtocolScan.acceptClass, if_neg hne, hcredential, horganization, dropPrefix?_append]
  simp only [hsuffix, false_or]

theorem guarded_eq_ok {seen : Bool} {s t : ProtocolScan} (hst : s = t) :
    (if seen = true then (.error .invalidRealtimeSubprotocol : Except RelayError ProtocolScan)
      else .ok s) = .ok scan ↔ seen = false ∧ scan = t := by
  subst hst
  cases seen with
  | false => simp [eq_comm]
  | true => simp

theorem acceptCredential_eq_ok {start : ProtocolScan} {suffix : Text} (hne : suffix ≠ [])
    {value : HeaderValue} (hvalue : credentialValue (CREDENTIAL_PREFIX ++ suffix) = some value) :
    start.acceptCredential admission suffix = .ok scan ↔
      (start.credential.isSome = false ∧
        ∀ secret ∈ admission, CREDENTIAL_PREFIX ++ suffix ≠ CREDENTIAL_PREFIX ++ secret.raw) ∧
      scan = { start with credential := some value } := by
  have hsecret : admission.any (·.ctEq suffix) = true ↔
      ¬ ∀ secret ∈ admission, CREDENTIAL_PREFIX ++ suffix ≠ CREDENTIAL_PREFIX ++ secret.raw := by
    simp [Option.any_eq_true, BearerToken.ctEq_iff]
  have hsuffix : credentialSuffix (CREDENTIAL_PREFIX ++ suffix) = some suffix :=
    dropPrefix?_append _ _
  rw [credentialValue, hsuffix, Option.bind_some] at hvalue
  obtain ⟨raw, hraw, rfl⟩ := Option.map_eq_some_iff.mp hvalue
  unfold ProtocolScan.acceptCredential
  by_cases hseen : start.credential.isSome = true
  · rw [if_pos (Or.inr hseen), hseen]
    simp
  rw [if_neg (not_or.mpr ⟨hne, hseen⟩), Bool.eq_false_iff.mpr hseen]
  by_cases hadmission : admission.any (·.ctEq suffix) = true
  · rw [if_pos hadmission]
    constructor
    · intro h
      cases h
    · rintro ⟨⟨-, hwithheld⟩, -⟩
      exact absurd hwithheld (hsecret.mp hadmission)
  · rw [if_neg hadmission, and_iff_right ⟨rfl, not_not.mp (mt hsecret.mpr hadmission)⟩]
    simp only [hraw, Except.ok.injEq, eq_comm]

/-- The class of an offered token sets the flag the scan keeps for it. -/
theorem acceptClass_offered_iff (hdone : ∀ t ∈ done, IsOffered t) (htoken : IsOffered token) :
    (scanOf aggregate done).acceptClass admission token = .ok scan ↔
      FirstOfClass admission done token ∧
        scan = { scanOf aggregate (done ++ [token]) with offered := done } := by
  have hvalue := credentialValue_isSome htoken
  -- a token of another class leaves the credential of the scan as it is
  have hnone (h : TokenClass.credential.covers token = false) : credentialValue token = none :=
    Option.not_isSome_iff_eq_none.mp (by rw [hvalue, h]; simp)
  have hfree (kind : TokenClass) (hkind : kind ≠ .credential) (hcovers : kind.covers token = true) :
      ∀ secret ∈ admission, token ≠ CREDENTIAL_PREFIX ++ secret.raw :=
    fun secret _ heq => withheld_of_marker hkind (heq ▸ hcovers)
  rcases covered_spelling htoken.known with rfl | ⟨kind, suffix, hkind, hne, rfl⟩
  · have hclasses := covers_realtime
    have hself : TokenClass.realtime.covers REALTIME = true := rfl
    rw [firstOfClass_iff hself, and_iff_left (hfree .realtime (by simp) hself), scanOf_snoc,
      ProtocolScan.acceptClass, if_pos rfl]
    refine guarded_eq_ok ?_
    simp [scanOf, hclasses, hnone]
  have hclasses := covers_marker hkind suffix
  have hself : kind.covers (kind.marker ++ suffix) = true := by
    rw [hclasses, decide_eq_true rfl, Bool.true_and]
    simpa using hne
  rw [firstOfClass_iff hself, scanOf_snoc]
  cases kind with
  | realtime => exact absurd rfl hkind
  | credential =>
    have hseen : (scanOf aggregate done).credential.isSome = _ := scanOf_credential_isSome hdone
    obtain ⟨value, hsuffix⟩ := Option.isSome_iff_exists.mp (hvalue.trans hself)
    rw [TokenClass.marker] at hsuffix ⊢
    rw [acceptClass_credential_marker, acceptCredential_eq_ok hne hsuffix, hseen]
    refine and_congr_right fun ⟨hfirst, _⟩ => ?_
    have hempty : done.findSome? credentialValue = none := by
      rw [← hseen] at hfirst
      simpa [scanOf] using hfirst
    have hothers (other : TokenClass) (hother : other ≠ .credential) :
        other.covers (CREDENTIAL_PREFIX ++ suffix) = false := by
      have hcovers := hclasses other
      rwa [decide_eq_false hother, Bool.false_and] at hcovers
    simp [scanOf, hothers, hsuffix, hempty]
  | organization =>
    rw [and_iff_left (hfree .organization (by simp) hself)]
    rw [TokenClass.marker] at hclasses hnone ⊢
    rw [acceptClass_organization_marker hne]
    refine guarded_eq_ok ?_
    simp [scanOf, hclasses, hnone, hne]
  | project =>
    rw [and_iff_left (hfree .project (by simp) hself)]
    rw [TokenClass.marker] at hclasses hnone ⊢
    rw [acceptClass_project_marker hne]
    refine guarded_eq_ok ?_
    simp [scanOf, hclasses, hnone, hne]

theorem acceptClass_not_covered (h : ¬ ∃ kind : TokenClass, kind.covers token = true) :
    scan.acceptClass admission token = .error .invalidRealtimeSubprotocol := by
  have hrealtime : token ≠ REALTIME := by
    rintro rfl
    exact h ⟨.realtime, rfl⟩
  have hempty {kind : TokenClass} (hkind : kind ≠ .realtime) {suffix : Text}
      (hsuffix : token.dropPrefix? kind.marker = some suffix) : suffix = [] :=
    dropPrefix?_of_not_covered h hkind hsuffix
  rw [ProtocolScan.acceptClass, if_neg hrealtime]
  cases hcredential : token.dropPrefix? CREDENTIAL_PREFIX with
  | some suffix =>
    obtain rfl : suffix = [] := hempty (by simp : TokenClass.credential ≠ .realtime) hcredential
    exact if_pos (.inl rfl)
  | none =>
    cases horganization : token.dropPrefix? ORGANIZATION_PREFIX with
    | some suffix =>
      obtain rfl : suffix = [] :=
        hempty (by simp : TokenClass.organization ≠ .realtime) horganization
      exact if_pos (.inl rfl)
    | none =>
      cases hproject : token.dropPrefix? PROJECT_PREFIX with
      | some suffix =>
        obtain rfl : suffix = [] := hempty (by simp : TokenClass.project ≠ .realtime) hproject
        exact if_pos (.inl rfl)
      | none => rfl

/-- One token: its own conditions, and those against the tokens before it. -/
theorem acceptToken_iff (hdone : ∀ t ∈ done, IsOffered t) :
    ProtocolScan.acceptToken admission (scanOf aggregate done) token = .ok scan ↔
      (IsOffered token ∧ FirstOfClass admission done token) ∧
        scan = scanOf aggregate (done ++ [token]) := by
  unfold ProtocolScan.acceptToken
  by_cases hknown : ∃ kind : TokenClass, kind.covers token = true
  · constructor
    · intro h
      split_ifs at h with hreject
      obtain ⟨classed, hclass, h⟩ := Except.bind_eq_ok.mp h
      simp only [not_or, Nat.not_lt, Bool.not_eq_false] at hreject
      have htoken : IsOffered token :=
        ⟨⟨hreject.1, List.all_eq_true.mp hreject.2.2.1⟩, hreject.2.1, hknown⟩
      obtain ⟨hfirst, rfl⟩ := (acceptClass_offered_iff hdone htoken).mp hclass
      cases h
      exact ⟨⟨htoken, hfirst⟩, rfl⟩
    · rintro ⟨⟨htoken, hfirst⟩, rfl⟩
      -- a repeated token would repeat its class
      have hnew : token ∉ (scanOf aggregate done).offered := by
        intro hmem
        obtain ⟨kind, hkind⟩ := hknown
        exact List.any_eq_false.mp (hfirst.1 kind hkind) token hmem hkind
      have hreject : ¬ (token = [] ∨ byteLen token > MAX_PROTOCOL_TOKEN_BYTES ∨
          token.all isRfcTokenByte = false ∨ token ∈ (scanOf aggregate done).offered) := by
        simp only [not_or, Nat.not_lt, Bool.not_eq_false]
        exact ⟨htoken.spelled.1, htoken.short, List.all_eq_true.mpr htoken.spelled.2, hnew⟩
      rw [if_neg hreject, (acceptClass_offered_iff hdone htoken).mpr ⟨hfirst, rfl⟩]
      rfl
  · have hnot : ¬ IsOffered token := fun h => hknown h.known
    rw [acceptClass_not_covered hknown]
    simp only [hnot, false_and, iff_false]
    split_ifs
    · simp
    · simp

theorem acceptTokens_iff (hdone : ∀ t ∈ done, IsOffered t) {tokens : List Text} :
    tokens.foldlM (ProtocolScan.acceptToken admission) (scanOf aggregate done) = .ok scan ↔
      (∀ token ∈ tokens, IsOffered token) ∧ Except.AllAfter (FirstOfClass admission) done tokens ∧
        scan = scanOf aggregate (done ++ tokens) :=
  Except.foldlM_view (fun _ _ _ => acceptToken_iff) hdone

/-- A run over the fields keeps the raw length within the cap and takes the tokens of every field
as one list. -/
theorem acceptFields_iff {fields : List HeaderValue} (hdone : ∀ t ∈ done, IsOffered t)
    (hcap : aggregate ≤ MAX_PROTOCOL_AGGREGATE_BYTES) :
    fields.foldlM (ProtocolScan.acceptField admission) (scanOf aggregate done) = .ok scan ↔
      (∀ field ∈ fields, ∃ raw, field.toStr = some raw) ∧
        aggregate + fieldLength fields ≤ MAX_PROTOCOL_AGGREGATE_BYTES ∧
        (∀ token ∈ fieldTokens fields, IsOffered token) ∧
        Except.AllAfter (FirstOfClass admission) done (fieldTokens fields) ∧
        scan = scanOf (aggregate + fieldLength fields) (done ++ fieldTokens fields) := by
  induction fields generalizing aggregate done with
  | nil =>
    change Except.ok (scanOf aggregate done) = Except.ok scan ↔ _
    have hempty : fieldLength [] = 0 := rfl
    simp [hempty, fieldTokens, Except.AllAfter, eq_comm, hcap]
  | cons field fields ih =>
    rw [List.foldlM_cons, Except.bind_eq_ok, List.forall_mem_cons]
    cases hraw : field.toStr with
    | none => simp [ProtocolScan.acceptField, hraw]
    | some raw =>
      have hlength : fieldLength (field :: fields) = byteLen raw + fieldLength fields := by
        simp [fieldLength, hraw, byteLen_append]
      have htokens : fieldTokens (field :: fields) = protocolTokens raw ++ fieldTokens fields := by
        simp [fieldTokens, hraw]
      have hfield (middle : ProtocolScan) :
          ProtocolScan.acceptField admission (scanOf aggregate done) field = .ok middle ↔
            aggregate + byteLen raw ≤ MAX_PROTOCOL_AGGREGATE_BYTES ∧
              (∀ token ∈ protocolTokens raw, IsOffered token) ∧
              Except.AllAfter (FirstOfClass admission) done (protocolTokens raw) ∧
              middle = scanOf (aggregate + byteLen raw) (done ++ protocolTokens raw) := by
        rw [← acceptTokens_iff hdone]
        simp only [ProtocolScan.acceptField, hraw]
        by_cases hle : aggregate + byteLen raw ≤ MAX_PROTOCOL_AGGREGATE_BYTES
        · have hfits : ¬ (scanOf aggregate done).aggregate + byteLen raw >
              MAX_PROTOCOL_AGGREGATE_BYTES := Nat.not_lt.mpr hle
          rw [if_neg hfits, and_iff_right hle]
          rfl
        · have hgt : (scanOf aggregate done).aggregate + byteLen raw > MAX_PROTOCOL_AGGREGATE_BYTES :=
            Nat.lt_of_not_le hle
          rw [if_pos hgt]
          simp [hle]
      rw [hlength, htokens, List.forall_mem_append, Except.allAfter_append, ← Nat.add_assoc,
        ← List.append_assoc]
      have hdone' (h : ∀ token ∈ protocolTokens raw, IsOffered token) :
          ∀ t ∈ done ++ protocolTokens raw, IsOffered t := List.forall_mem_append.mpr ⟨hdone, h⟩
      constructor
      · rintro ⟨middle, hmiddle, hrest⟩
        obtain ⟨hle, hoffered, hafter, rfl⟩ := (hfield middle).mp hmiddle
        obtain ⟨hread, htotal, hothers, hafters, rfl⟩ := (ih (hdone' hoffered) hle).mp hrest
        exact ⟨⟨⟨raw, rfl⟩, hread⟩, htotal, ⟨hoffered, hothers⟩, ⟨hafter, hafters⟩, rfl⟩
      · rintro ⟨⟨-, hread⟩, htotal, ⟨hoffered, hothers⟩, ⟨hafter, hafters⟩, rfl⟩
        have hle : aggregate + byteLen raw ≤ MAX_PROTOCOL_AGGREGATE_BYTES := by omega
        refine ⟨_, (hfield _).mpr ⟨hle, hoffered, hafter, rfl⟩, ?_⟩
        exact (ih (hdone' hoffered) hle).mpr ⟨hread, htotal, hothers, hafters, rfl⟩

theorem allAfter_firstOfClass {tokens : List Text}
    (hdone : ∀ kind : TokenClass, done.countP kind.covers ≤ 1) :
    Except.AllAfter (FirstOfClass admission) done tokens ↔
      (∀ kind : TokenClass, (done ++ tokens).countP kind.covers ≤ 1) ∧
        ∀ secret ∈ admission, CREDENTIAL_PREFIX ++ secret.raw ∉ tokens := by
  induction tokens generalizing done with
  | nil => simpa [Except.AllAfter] using hdone
  | cons token tokens ih =>
    have hassoc : done ++ token :: tokens = done ++ [token] ++ tokens := by simp
    have hcount (kind : TokenClass) : (done ++ [token]).countP kind.covers =
        done.countP kind.covers + if kind.covers token = true then 1 else 0 := by
      rw [List.countP_append, List.countP_singleton]
    rw [Except.AllAfter, hassoc]
    constructor
    · rintro ⟨⟨hfirst, hwithheld⟩, hrest⟩
      have hdone' (kind : TokenClass) : (done ++ [token]).countP kind.covers ≤ 1 := by
        rw [hcount]
        split_ifs with hkind
        · have hnone : done.countP kind.covers = 0 := by
            apply List.countP_eq_zero.mpr
            exact List.any_eq_false.mp (hfirst kind hkind)
          omega
        · exact hdone kind
      obtain ⟨hsingle, hothers⟩ := (ih hdone').mp hrest
      refine ⟨hsingle, fun secret hsecret hmem => ?_⟩
      rcases List.mem_cons.mp hmem with heq | hmem
      · exact hwithheld secret hsecret heq.symm
      · exact hothers secret hsecret hmem
    · rintro ⟨hsingle, hwithheld⟩
      have hdone' (kind : TokenClass) : (done ++ [token]).countP kind.covers ≤ 1 := by
        have htotal := hsingle kind
        rw [List.countP_append] at htotal
        omega
      refine ⟨⟨fun kind hkind => ?_, fun secret hsecret heq => ?_⟩, (ih hdone').mpr ⟨hsingle, ?_⟩⟩
      · have hle := hdone' kind
        rw [hcount, if_pos hkind] at hle
        have hnone : done.countP kind.covers = 0 := by omega
        exact List.any_eq_false.mpr (List.countP_eq_zero.mp hnone)
      · exact hwithheld secret hsecret (heq ▸ List.mem_cons_self)
      · exact fun secret hsecret hmem => hwithheld secret hsecret (List.mem_cons_of_mem _ hmem)

end Scan

section Canonical

theorem canonicalLen_eq (offered : List Text) :
    canonicalLen offered = byteLen (canonicalList offered) := by
  -- behind the first token, every token adds its own length and that of the separator
  have hrest (rest : List Text) (n length : Nat) (hn : n ≠ 0) :
      (rest.zipIdx n).foldl
          (fun length entry => length + (if entry.2 ≠ 0 then 2 else 0) + byteLen entry.1) length =
        length + (rest.map fun token => 2 + byteLen token).sum := by
    induction rest generalizing n length with
    | nil => rfl
    | cons token rest ih =>
      rw [List.zipIdx_cons, List.foldl_cons, ih _ _ (Nat.succ_ne_zero n), if_pos hn, List.map_cons,
        List.sum_cons]
      dsimp only
      omega
  have hlist (token : Text) (rest : List Text) : byteLen (canonicalList (token :: rest)) =
      byteLen token + (rest.map fun t => 2 + byteLen t).sum := by
    induction rest generalizing token with
    | nil => simp [canonicalList, List.intercalate]
    | cons token' rest ih =>
      have hcons : canonicalList (token :: token' :: rest) =
          token ++ (", ".toList ++ canonicalList (token' :: rest)) := by
        simp [canonicalList, List.intercalate]
      have hseparator : byteLen ", ".toList = 2 := rfl
      rw [hcons, byteLen_append, byteLen_append, hseparator, ih, List.map_cons, List.sum_cons]
      omega
  cases offered with
  | nil => rfl
  | cons token rest =>
    rw [canonicalLen, List.zipIdx_cons, List.foldl_cons, hrest _ _ _ (Nat.succ_ne_zero 0), hlist]
    simp

theorem canonicalHeader_offered {tokens : List Text} (htokens : ∀ t ∈ tokens, IsOffered t) :
    canonicalHeader tokens = .ok (parsedOf tokens).upstreamHeader := by
  have hvisible := visible_canonicalList fun t ht => (htokens t ht).spelled
  obtain ⟨value, hvalue, -⟩ := HeaderValue.toStr_fromStr hvisible
  unfold canonicalHeader parsedOf
  by_cases hempty : tokens = []
  · simp [hempty]
  · simp [hempty, hvalue]

end Canonical

section Acceptance
variable {headers : HeaderMap} {admission : Option BearerToken} {parsed : ParsedProtocols}

/-- The scan misses `realtime` exactly when a token of another class came without it. -/
theorem realtime_missing_iff {aggregate : Nat} {tokens : List Text}
    (htokens : ∀ t ∈ tokens, IsOffered t) :
    (((scanOf aggregate tokens).credential.isSome = true ∨
        (scanOf aggregate tokens).hasOrganization = true ∨
        (scanOf aggregate tokens).hasProject = true) ∧
      (scanOf aggregate tokens).hasRealtime = false) ↔
      ¬ ∀ token ∈ tokens, token ≠ REALTIME → REALTIME ∈ tokens := by
  have hrealtime : (scanOf aggregate tokens).hasRealtime = false ↔ REALTIME ∉ tokens := by
    change tokens.any TokenClass.realtime.covers = false ↔ _
    rw [List.any_eq_false]
    constructor
    · intro h hmem
      exact h REALTIME hmem rfl
    · intro h token htoken hcovers
      rcases covers_iff.mp hcovers with ⟨-, rfl⟩ | ⟨hne, -⟩
      · exact h htoken
      · exact hne rfl
  have hother : ((scanOf aggregate tokens).credential.isSome = true ∨
      (scanOf aggregate tokens).hasOrganization = true ∨
      (scanOf aggregate tokens).hasProject = true) ↔ ∃ token ∈ tokens, token ≠ REALTIME := by
    rw [scanOf_credential_isSome htokens]
    change tokens.any TokenClass.credential.covers = true ∨
      tokens.any TokenClass.organization.covers = true ∨
      tokens.any TokenClass.project.covers = true ↔ _
    have hclass {kind : TokenClass} (hkind : kind ≠ .realtime) :
        tokens.any kind.covers = true → ∃ token ∈ tokens, token ≠ REALTIME := by
      intro h
      obtain ⟨token, htoken, hcovers⟩ := List.any_eq_true.mp h
      refine ⟨token, htoken, ?_⟩
      rintro rfl
      rw [covers_realtime] at hcovers
      exact hkind (of_decide_eq_true hcovers)
    constructor
    · rintro (h | h | h)
      · exact hclass (by simp) h
      · exact hclass (by simp) h
      · exact hclass (by simp) h
    · rintro ⟨token, htoken, hne⟩
      obtain ⟨kind, hkind⟩ := (htokens token htoken).known
      have hany : tokens.any kind.covers = true := List.any_eq_true.mpr ⟨token, htoken, hkind⟩
      cases kind with
      | realtime => exact absurd (beq_iff_eq.mp hkind) hne
      | credential => exact .inl hany
      | organization => exact .inr (.inl hany)
      | project => exact .inr (.inr hany)
  rw [hrealtime, hother]
  constructor
  · rintro ⟨⟨token, htoken, hne⟩, habsent⟩ h
    exact habsent (h token htoken hne)
  · intro h
    simp only [not_forall] at h
    obtain ⟨token, htoken, hne, habsent⟩ := h
    exact ⟨⟨token, htoken, hne⟩, habsent⟩

/-- The parser accepts the acceptable lists and reports a function of their tokens. -/
theorem parseProtocols_iff :
    parseProtocols headers admission = .ok parsed ↔
      Acceptable (headers.getAll SEC_WEBSOCKET_PROTOCOL) admission ∧
        parsed = parsedOf (fieldTokens (headers.getAll SEC_WEBSOCKET_PROTOCOL)) := by
  generalize hfields : headers.getAll SEC_WEBSOCKET_PROTOCOL = fields
  have hfold (scan : ProtocolScan) :
      fields.foldlM (ProtocolScan.acceptField admission) .start = .ok scan ↔ _ :=
    acceptFields_iff (List.forall_mem_nil _) (Nat.zero_le _)
  have hempty (kind : TokenClass) : ([] : List Text).countP kind.covers ≤ 1 := Nat.zero_le 1
  simp only [List.nil_append, Nat.zero_add, allAfter_firstOfClass hempty] at hfold
  rw [parseProtocols, Except.bind_eq_ok, hfields]
  constructor
  · rintro ⟨scan, hscan, hrest⟩
    obtain ⟨hread, haggregate, hoffered, ⟨hsingle, hwithheld⟩, rfl⟩ := (hfold scan).mp hscan
    split_ifs at hrest with hrealtime hcanonical
    obtain ⟨header, hheader, hparsed⟩ := Except.bind_eq_ok.mp hrest
    refine ⟨⟨hread, haggregate, hoffered, hsingle, hwithheld, ?_, ?_⟩, ?_⟩
    · exact not_not.mp (mt (realtime_missing_iff hoffered).mpr hrealtime)
    · rw [← canonicalLen_eq]
      exact Nat.not_lt.mp hcanonical
    · rw [scanOf_offered, canonicalHeader_offered hoffered] at hheader
      cases hheader
      cases hparsed
      rfl
  · rintro ⟨h, rfl⟩
    refine ⟨_, (hfold _).mpr ⟨h.readable, h.aggregate, h.offered, ⟨h.single, h.withheld⟩, rfl⟩, ?_⟩
    have hcanonical : ¬ canonicalLen (fieldTokens fields) > MAX_PROTOCOL_AGGREGATE_BYTES := by
      rw [canonicalLen_eq]
      exact Nat.not_lt.mpr h.canonical
    rw [if_neg (mt (realtime_missing_iff h.offered).mp (not_not.mpr h.realtime)), scanOf_offered,
      if_neg hcanonical, canonicalHeader_offered h.offered]
    rfl

/-- The canonical header of an accepted list is one field that spells its tokens. -/
theorem parsedOf_upstreamHeader {tokens : List Text} (htokens : ∀ t ∈ tokens, IsOffered t)
    (hne : tokens ≠ []) : ∃ value, (parsedOf tokens).upstreamHeader = some value ∧
      value.toStr = some (canonicalList tokens) := by
  obtain ⟨value, hvalue, hread⟩ :=
    HeaderValue.toStr_fromStr (visible_canonicalList fun t ht => (htokens t ht).spelled)
  refine ⟨value.setSensitive true, ?_, hread⟩
  simp only [parsedOf, if_neg hne, hvalue, Option.map_some]

theorem fieldTokens_singleton {value : HeaderValue} {raw : Text} (hread : value.toStr = some raw) :
    fieldTokens [value] = protocolTokens raw := by
  simp [fieldTokens, hread]

theorem acceptable_canonical {fields : List HeaderValue} (h : Acceptable fields admission)
    {value : HeaderValue} (hread : value.toStr = some (canonicalList (fieldTokens fields)))
    (hne : fieldTokens fields ≠ []) :
    fieldTokens [value] = fieldTokens fields ∧ Acceptable [value] admission := by
  have htokens : fieldTokens [value] = fieldTokens fields := by
    rw [fieldTokens_singleton hread]
    exact protocolTokens_canonicalList hne fun t ht => (h.offered t ht).spelled
  have hlength : fieldLength [value] = byteLen (canonicalList (fieldTokens fields)) := by
    simp [fieldLength, hread]
  refine ⟨htokens, ?_, ?_, ?_, ?_, ?_, ?_, ?_⟩
  · exact List.forall_mem_singleton.mpr ⟨_, hread⟩
  · rw [hlength]
    exact h.canonical
  all_goals rw [htokens]
  · exact h.offered
  · exact h.single
  · exact h.withheld
  · exact h.realtime
  · exact h.canonical

/-- A selection the client did not offer is never reported. -/
theorem validateSelected_cases (upstream : HeaderMap) (parsed : ParsedProtocols) :
    validateSelected upstream parsed = .error .upstreamWebSocketProtocol ∨
      validateSelected upstream parsed = .ok none ∨
      (validateSelected upstream parsed = .ok (some REALTIME) ∧ REALTIME ∈ parsed.offered) := by
  unfold validateSelected
  cases upstream.getAll SEC_WEBSOCKET_PROTOCOL with
  | nil => exact .inr (.inl rfl)
  | cons value rest =>
    cases rest with
    | cons _ _ => exact .inl rfl
    | nil =>
      cases htoken : value.toStr.map (trimMatches isOws) with
      | none =>
        simp only [htoken]
        exact .inl trivial
      | some token =>
        simp only [htoken]
        split_ifs with hreject
        · exact .inl rfl
        · simp only [not_or, not_not] at hreject
          exact .inr (.inr ⟨rfl, hreject.1 ▸ hreject.2.2⟩)

end Acceptance

/-- The parser accepts exactly the acceptable lists, accepts its own canonical header with the same
report, and lets the upstream select nothing but an offered `realtime`. -/
theorem subprotocol_acceptance (headers : HeaderMap) (admission : Option BearerToken) :
    ((∃ parsed, parseProtocols headers admission = .ok parsed) ↔
        Acceptable (headers.getAll SEC_WEBSOCKET_PROTOCOL) admission) ∧
      ∀ parsed, parseProtocols headers admission = .ok parsed → parsed.offered ≠ [] →
        (∃ value, parsed.upstreamHeader = some value ∧
          ∀ canonical : HeaderMap, canonical.getAll SEC_WEBSOCKET_PROTOCOL = [value] →
            parseProtocols canonical admission = .ok parsed) ∧
        ∀ upstream : HeaderMap,
          validateSelected upstream parsed = .error .upstreamWebSocketProtocol ∨
            validateSelected upstream parsed = .ok none ∨
            (validateSelected upstream parsed = .ok (some REALTIME) ∧
              REALTIME ∈ parsed.offered) := by
  refine ⟨⟨?_, fun h => ⟨_, parseProtocols_iff.mpr ⟨h, rfl⟩⟩⟩, ?_⟩
  · rintro ⟨parsed, hparsed⟩
    exact (parseProtocols_iff.mp hparsed).1
  · intro parsed hparsed hne
    refine ⟨?_, fun upstream => validateSelected_cases upstream parsed⟩
    obtain ⟨h, rfl⟩ := parseProtocols_iff.mp hparsed
    obtain ⟨value, hvalue, hread⟩ := parsedOf_upstreamHeader h.offered hne
    obtain ⟨htokens, hcanonical⟩ := acceptable_canonical h hread hne
    refine ⟨value, hvalue, fun canonical hfields => parseProtocols_iff.mpr ?_⟩
    rw [hfields, htokens]
    exact ⟨hcanonical, rfl⟩

section Instances

def browserOffer : HeaderMap :=
  headersOf [("sec-websocket-protocol", "realtime,openai-organization.org_1".toList),
    ("sec-websocket-protocol", "\topenai-insecure-api-key.ek_1 ".toList)]

theorem browser_offer_is_stable : ∃ parsed value,
    parseProtocols browserOffer none = .ok parsed ∧ parsed.upstreamHeader = some value ∧
      parseProtocols ⟨[(SEC_WEBSOCKET_PROTOCOL, value)]⟩ none = .ok parsed := by
  obtain ⟨parsed, hparsed, hne⟩ := Outcome.exists_of_okAnd
    (show Outcome.okAnd (fun parsed => decide (parsed.offered ≠ []))
      (Outcome.ofExcept (parseProtocols browserOffer none)) = true by decide +kernel)
  have hok := Outcome.ofExcept_eq_ok.mp hparsed
  obtain ⟨⟨value, hvalue, hagain⟩, -⟩ :=
    (subprotocol_acceptance browserOffer none).2 parsed hok (of_decide_eq_true hne)
  exact ⟨parsed, value, hok, hvalue, hagain _ rfl⟩

end Instances

end GptLiveProxy
