import GptLiveProxy.Admission

/-!
# Which requests admission accepts

The first header name of the mode's list that carries anything decides alone. The decision is
restated over the values of that name, and two consequences follow: what stands behind the deciding
name does not matter, and in client mode `Authorization` is never read.
-/

namespace GptLiveProxy
open CharText

theorem mapM_eq_none {α β : Type} {f : α → Option β} {l : List α} :
    l.mapM f = none ↔ ∃ a ∈ l, f a = none := by
  induction l with
  | nil => simp
  | cons a l ih =>
    rw [List.mapM_cons]
    cases ha : f a with
    | none => simp [ha]
    | some b =>
      cases hl : l.mapM f with
      | none =>
        obtain ⟨c, hc, hnone⟩ := ih.mp hl
        simp only [Option.bind_eq_bind, Option.bind_some, Option.bind_none, true_iff]
        exact ⟨c, List.mem_cons_of_mem _ hc, hnone⟩
      | some bs =>
        have hnot : ¬∃ a ∈ l, f a = none := fun h => by simp [ih.mpr h] at hl
        simpa [ha] using hnot

theorem mem_of_mapM_eq_some {α β : Type} {f : α → Option β} {l : List α} {bs : List β}
    (h : l.mapM f = some bs) (b : β) : b ∈ bs ↔ ∃ a ∈ l, f a = some b := by
  induction l generalizing bs with
  | nil =>
    obtain rfl : [] = bs := by simpa using h
    simp
  | cons a l ih =>
    rw [List.mapM_cons] at h
    obtain ⟨c, hc, h⟩ := Option.bind_eq_some_iff.mp h
    obtain ⟨cs, hcs, h⟩ := Option.bind_eq_some_iff.mp h
    obtain rfl : c :: cs = bs := Option.some.inj h
    rw [List.mem_cons, ih hcs]
    simp [hc, eq_comm]

section Names
variable (headers : HeaderMap)

/-- The name has a value that does not decode, or one that is not empty once stripped. -/
def Decides (name : HeaderName) : Prop :=
  ∃ v ∈ headers.getAll name,
    v.toStr = none ∨ ∃ raw, v.toStr = some raw ∧ stripCredential name raw ≠ []

def AllDecodable (name : HeaderName) : Prop := ∀ v ∈ headers.getAll name, v.toStr ≠ none

def Presents (name : HeaderName) (t : Text) : Prop :=
  ∃ v ∈ headers.getAll name, ∃ raw, v.toStr = some raw ∧ stripCredential name raw = t

/-- The first name of the list that decides. -/
def DecidedBy (names : List HeaderName) (name : HeaderName) : Prop :=
  ∃ before after, names = before ++ name :: after ∧ Decides headers name ∧
    ∀ n ∈ before, ¬Decides headers n

variable {headers} {name n : HeaderName} {names : List HeaderName}

theorem decides_congr {headers' : HeaderMap} (h : headers'.getAll name = headers.getAll name) :
    Decides headers' name ↔ Decides headers name := by
  unfold Decides
  rw [h]

theorem decidedBy_cons_of_decides (h : Decides headers name) :
    DecidedBy headers (name :: names) n ↔ n = name := by
  constructor
  · rintro ⟨before, after, hnames, -, hbefore⟩
    cases before with
    | nil => exact (List.cons.inj hnames).1.symm
    | cons first before =>
      obtain rfl : name = first := (List.cons.inj hnames).1
      exact absurd h (hbefore name List.mem_cons_self)
  · rintro rfl
    exact ⟨[], names, rfl, h, by simp⟩

theorem decidedBy_cons_of_not (h : ¬Decides headers name) :
    DecidedBy headers (name :: names) n ↔ DecidedBy headers names n := by
  constructor
  · rintro ⟨before, after, hnames, hn, hbefore⟩
    cases before with
    | nil =>
      obtain rfl : name = n := (List.cons.inj hnames).1
      exact absurd hn h
    | cons first before =>
      refine ⟨before, after, (List.cons.inj hnames).2, hn, fun m hm => ?_⟩
      exact hbefore m (List.mem_cons_of_mem _ hm)
  · rintro ⟨before, after, rfl, hn, hbefore⟩
    refine ⟨name :: before, after, rfl, hn, ?_⟩
    exact List.forall_mem_cons.mpr ⟨h, hbefore⟩

theorem DecidedBy.mem (h : DecidedBy headers names n) : n ∈ names := by
  obtain ⟨before, after, rfl, -, -⟩ := h
  simp

theorem DecidedBy.unique {m : HeaderName} (hn : DecidedBy headers names n)
    (hm : DecidedBy headers names m) : n = m := by
  induction names with
  | nil => exact absurd hn.mem List.not_mem_nil
  | cons name names ih =>
    by_cases hname : Decides headers name
    · rw [(decidedBy_cons_of_decides hname).mp hn, (decidedBy_cons_of_decides hname).mp hm]
    · exact ih ((decidedBy_cons_of_not hname).mp hn) ((decidedBy_cons_of_not hname).mp hm)

theorem DecidedBy.congr {headers' : HeaderMap} (h : DecidedBy headers names n)
    (hsame : ∀ m ∈ names, headers'.getAll m = headers.getAll m) : DecidedBy headers' names n := by
  obtain ⟨before, after, rfl, hn, hbefore⟩ := h
  refine ⟨before, after, rfl, (decides_congr (hsame n (by simp))).mpr hn, fun m hm hdecides => ?_⟩
  exact hbefore m hm ((decides_congr (hsame m (by simp [hm]))).mp hdecides)

theorem presentedValues_of_undecodable (h : ¬AllDecodable headers name) :
    presentedValues headers name = .error .admissionRequired := by
  have hnone : (headers.getAll name).mapM HeaderValue.toStr = none := by
    simpa [mapM_eq_none, AllDecodable] using h
  rw [presentedValues, hnone]

theorem presentedValues_of_decodable (h : AllDecodable headers name) :
    ∃ found, presentedValues headers name = .ok found ∧
      ∀ t, t ∈ found ↔ t ≠ [] ∧ Presents headers name t := by
  cases hraws : (headers.getAll name).mapM HeaderValue.toStr with
  | none =>
    obtain ⟨v, hv, hnone⟩ := mapM_eq_none.mp hraws
    exact absurd hnone (h v hv)
  | some raws =>
    refine ⟨_, by rw [presentedValues, hraws], fun t => ?_⟩
    simp only [List.mem_filter, List.mem_map, mem_of_mapM_eq_some hraws, decide_eq_true_eq]
    constructor
    · rintro ⟨⟨raw, ⟨v, hv, hread⟩, hstrip⟩, hne⟩
      exact ⟨hne, v, hv, raw, hread, hstrip⟩
    · rintro ⟨hne, v, hv, raw, hread, hstrip⟩
      exact ⟨⟨raw, ⟨v, hv, hread⟩, hstrip⟩, hne⟩

theorem presented_any {token : BearerToken} :
    (∃ found, presented headers names = .ok (some found) ∧ found.any token.ctEq = true) ↔
      token.raw ≠ [] ∧ ∃ name, DecidedBy headers names name ∧ AllDecodable headers name ∧
        Presents headers name token.raw := by
  induction names with
  | nil => simp [presented, DecidedBy]
  | cons name names ih =>
    by_cases hdecodable : AllDecodable headers name
    · obtain ⟨found, hfound, hmem⟩ := presentedValues_of_decodable hdecodable
      have hany : found.any token.ctEq = true ↔ token.raw ≠ [] ∧ Presents headers name token.raw := by
        simp only [List.any_eq_true, BearerToken.ctEq_iff, exists_eq_right, hmem]
      by_cases hempty : found = []
      · have hnot : ¬Decides headers name := by
          rintro ⟨v, hv, hnone | ⟨raw, hread, hne⟩⟩
          · exact hdecodable v hv hnone
          · have hin := (hmem _).mpr ⟨hne, v, hv, raw, hread, rfl⟩
            rw [hempty] at hin
            exact absurd hin List.not_mem_nil
        have hnext : presented headers (name :: names) = presented headers names := by
          rw [presented, hfound]
          exact if_neg (not_not.mpr hempty)
        rw [hnext, ih]
        simp only [decidedBy_cons_of_not hnot]
      · have hdecides : Decides headers name := by
          obtain ⟨t, ht⟩ := List.exists_mem_of_ne_nil found hempty
          obtain ⟨hne, v, hv, raw, hread, rfl⟩ := (hmem t).mp ht
          exact ⟨v, hv, .inr ⟨raw, hread, hne⟩⟩
        have hnext : presented headers (name :: names) = .ok (some found) := by
          rw [presented, hfound]
          exact if_pos hempty
        rw [hnext]
        simp only [decidedBy_cons_of_decides hdecides, exists_eq_left, Except.ok.injEq,
          Option.some.injEq, exists_eq_left', hany, hdecodable, true_and]
    · have hnext : presented headers (name :: names) = .error .admissionRequired := by
        rw [presented, presentedValues_of_undecodable hdecodable]
        rfl
      have hdecides : Decides headers name := by
        simp only [AllDecodable, not_forall, not_not] at hdecodable
        obtain ⟨v, hv, hnone⟩ := hdecodable
        exact ⟨v, hv, .inl hnone⟩
      rw [hnext]
      simp [decidedBy_cons_of_decides hdecides, hdecodable]

end Names

variable {headers : HeaderMap} {config : Config}

theorem checkAdmission_eq_ok :
    checkAdmission headers config = .ok () ↔
      (headers.getAll "authorization").length ≤ 1 ∧
        (config.bind.ip.isLoopback = true ∨ ∃ token, config.admissionToken = some token ∧
          ∃ found, presented headers (admissionCandidates config.upstream.credentialMode) =
            .ok (some found) ∧ found.any token.ctEq = true) := by
  unfold checkAdmission
  by_cases hcount : (headers.getAll "authorization").length ≤ 1
  · rw [rejectAmbiguousAuthorization_eq_ok.mpr hcount]
    simp only [hcount, true_and, Config.requiresAdmissionAuth, Bool.not_not, Except.ok_bind]
    by_cases hloopback : config.bind.ip.isLoopback = true
    · simp [hloopback]
    · rw [if_neg hloopback]
      simp only [hloopback, false_or, Bool.false_eq_true]
      cases htoken : config.admissionToken with
      | none => simp
      | some token =>
        cases hpresented : presented headers (admissionCandidates config.upstream.credentialMode) with
        | error e => simp
        | ok found =>
          cases found with
          | none => simp
          | some found => simp
  · have hreject : rejectAmbiguousAuthorization headers = .error .ambiguousAuthorization :=
      if_pos (by omega)
    simp [hreject, hcount]

/-- The decision of admission: at most one `Authorization`, and then a loopback bind or a non-empty
token that the first deciding name presents, with every one of its values readable. -/
theorem checkAdmission_decision :
    checkAdmission headers config = .ok () ↔
      (headers.getAll "authorization").length ≤ 1 ∧
        (config.bind.ip.isLoopback = true ∨
          ∃ token, config.admissionToken = some token ∧ token.raw ≠ [] ∧
            ∃ name, DecidedBy headers (admissionCandidates config.upstream.credentialMode) name ∧
              AllDecodable headers name ∧ Presents headers name token.raw) := by
  simp only [checkAdmission_eq_ok, presented_any]

section Consequences
variable {headers' : HeaderMap}

/-- A rejection decided by one name stands whatever the names behind it carry. -/
theorem rejection_stands {before after : List HeaderName} {name : HeaderName}
    (hnames : admissionCandidates config.upstream.credentialMode = before ++ name :: after)
    (hdecides : Decides headers name) (hbefore : ∀ n ∈ before, ¬Decides headers n)
    (hsame : ∀ n ∈ before ++ [name], headers'.getAll n = headers.getAll n)
    (hguarded : config.bind.ip.isLoopback = false)
    (hcount : (headers.getAll "authorization").length ≤ 1)
    (hreject : checkAdmission headers config ≠ .ok ()) : checkAdmission headers' config ≠ .ok () := by
  intro haccept
  apply hreject
  obtain ⟨-, hdecision⟩ := checkAdmission_decision.mp haccept
  rcases hdecision with hloopback | ⟨token, htoken, hne, n, hn, hdecodable, hpresents⟩
  · rw [hguarded] at hloopback
    cases hloopback
  · have hsameName := hsame name (by simp)
    have hdecided : DecidedBy headers' (before ++ name :: after) name := by
      refine ⟨before, after, rfl, (decides_congr hsameName).mpr hdecides, fun m hm hm' => ?_⟩
      exact hbefore m hm ((decides_congr (hsame m (by simp [hm]))).mp hm')
    rw [hnames] at hn
    obtain rfl := hn.unique hdecided
    refine checkAdmission_decision.mpr ⟨hcount, .inr ⟨token, htoken, hne, n, ?_, ?_, ?_⟩⟩
    · rw [hnames]
      exact ⟨before, after, rfl, hdecides, hbefore⟩
    · intro v hv
      exact hdecodable v (hsameName ▸ hv)
    · obtain ⟨v, hv, raw, hread, hstrip⟩ := hpresents
      exact ⟨v, hsameName ▸ hv, raw, hread, hstrip⟩

theorem authorization_not_candidate {n : HeaderName} (h : n ∈ admissionCandidates .client) :
    n ≠ "authorization" := by
  rintro rfl
  simp [admissionCandidates, CLIENT_ADMISSION_HEADERS] at h

/-- In client mode an accepted request stays accepted without its `Authorization`. -/
theorem client_admission_ignores_authorization (hmode : config.upstream.credentialMode = .client)
    (haccept : checkAdmission headers config = .ok ()) :
    checkAdmission (headers.remove "authorization") config = .ok () := by
  obtain ⟨-, hdecision⟩ := checkAdmission_decision.mp haccept
  have hsame : ∀ n ∈ admissionCandidates config.upstream.credentialMode,
      (headers.remove "authorization").getAll n = headers.getAll n := by
    rw [hmode]
    intro n hn
    rw [OrderedMultimap.getAll_remove, if_neg (authorization_not_candidate hn).symm]
  have hcount : ((headers.remove "authorization").getAll "authorization").length ≤ 1 := by
    rw [OrderedMultimap.getAll_remove, if_pos rfl]
    simp
  refine checkAdmission_decision.mpr ⟨hcount, ?_⟩
  rcases hdecision with hloopback | ⟨token, htoken, hne, n, hn, hdecodable, hpresents⟩
  · exact .inl hloopback
  · have hsameName := hsame n hn.mem
    refine .inr ⟨token, htoken, hne, n, hn.congr hsame, ?_, ?_⟩
    · intro v hv
      exact hdecodable v (hsameName ▸ hv)
    · obtain ⟨v, hv, raw, hread, hstrip⟩ := hpresents
      exact ⟨v, hsameName.symm ▸ hv, raw, hread, hstrip⟩

end Consequences

/-- What admission accepts, that no header behind the deciding one can turn a rejection around, and
that `Authorization` admits nobody in client mode. -/
theorem admission_decided_by_first_name (headers : HeaderMap) (config : Config) :
    (checkAdmission headers config = .ok () ↔
      (headers.getAll "authorization").length ≤ 1 ∧
        (config.bind.ip.isLoopback = true ∨
          ∃ token, config.admissionToken = some token ∧ token.raw ≠ [] ∧
            ∃ name, DecidedBy headers (admissionCandidates config.upstream.credentialMode) name ∧
              AllDecodable headers name ∧ Presents headers name token.raw)) ∧
    (∀ headers' before name after,
      admissionCandidates config.upstream.credentialMode = before ++ name :: after →
      Decides headers name → (∀ n ∈ before, ¬Decides headers n) →
      (∀ n ∈ before ++ [name], OrderedMultimap.getAll headers' n = headers.getAll n) →
      config.bind.ip.isLoopback = false → (headers.getAll "authorization").length ≤ 1 →
      checkAdmission headers config ≠ .ok () → checkAdmission headers' config ≠ .ok ()) ∧
    (config.upstream.credentialMode = .client → checkAdmission headers config = .ok () →
      checkAdmission (headers.remove "authorization") config = .ok ()) :=
  ⟨checkAdmission_decision,
    fun _ _ _ _ hnames hdecides hbefore hsame hguarded hcount hreject =>
      rejection_stands hnames hdecides hbefore hsame hguarded hcount hreject,
    client_admission_ignores_authorization⟩

def keyAndBlank : HeaderMap :=
  headersOf [("x-gpt-live-api-key", "key".toList), ("x-gpt-live-api-key", [])]

/-- A token can be configured empty, and then an empty value equals it and still admits nobody. -/
theorem blank_token_admits_nobody : ∃ config : Config,
    config.admissionToken = some ⟨[]⟩ ∧ config.bind.ip.isLoopback = false ∧
    (keyAndBlank.getAll "authorization").length ≤ 1 ∧
    DecidedBy keyAndBlank (admissionCandidates config.upstream.credentialMode)
      "x-gpt-live-api-key" ∧
    AllDecodable keyAndBlank "x-gpt-live-api-key" ∧ Presents keyAndBlank "x-gpt-live-api-key" [] ∧
    checkAdmission keyAndBlank config = .error .admissionRequired := by
  refine ⟨.everyInterface (.apiKeyClient "https://api.openai.com".toList) [], rfl, rfl, ?_, ?_, ?_,
    ?_, rfl⟩
  · decide
  · refine ⟨[], ["x-api-key"], rfl, ⟨_, List.mem_cons_self, .inr ⟨_, rfl, ?_⟩⟩, by simp⟩
    decide
  · intro v hv
    have hread : (keyAndBlank.getAll "x-gpt-live-api-key").all (·.toStr.isSome) = true := rfl
    have hsome := List.all_eq_true.mp hread v hv
    exact Option.isSome_iff_ne_none.mp hsome
  · exact ⟨_, List.mem_cons_of_mem _ List.mem_cons_self, _, rfl, rfl⟩

end GptLiveProxy
