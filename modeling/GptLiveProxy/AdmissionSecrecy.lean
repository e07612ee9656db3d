import GptLiveProxy.CredentialDomain
import GptLiveProxy.Origin

/-!
# Where the admission token can go

Two parsers read a bearer credential. The guard strips `bearer` and one space; the header builder
splits at any ASCII whitespace. They agree on every spelling but one: a tab directly after the
scheme. On that spelling the guard does not recognize the token and the builder forwards it.
-/

namespace GptLiveProxy
open CharText

/-- The word `bearer` in any letter case, a tab, further blanks, and the token. -/
def TabSpelled (token raw : Text) : Prop :=
  ∃ scheme gap, trim raw = scheme ++ '\t' :: (gap ++ token) ∧
    eqIgnoreAsciiCase scheme "bearer".toList = true ∧ ∀ c ∈ gap, isOws c = true

def SpellsWithTab (headers : HeaderMap) (token : BearerToken) : Prop :=
  ∃ value ∈ headers.getAll "authorization", ∃ raw, value.toStr = some raw ∧ TabSpelled token.raw raw

def tokenWord (value : HeaderValue) : Option Text :=
  (value.toStr.map splitAsciiWhitespace).bind fun words => words[1]?

/-- Neither credential channel of an upstream map carries the token. -/
def Withheld (out : HeaderMap) (token : BearerToken) : Prop :=
  (∀ value ∈ out.getAll "authorization", tokenWord value ≠ some token.raw) ∧
    token.raw ∉ credentialTokens out

section Spelling

theorem isWhitespace_of_ascii {c : Char} (h : isAsciiWhitespace c = true) : isWhitespace c = true := by
  simp only [isAsciiWhitespace, Bool.or_eq_true, beq_iff_eq] at h
  rcases h with (((rfl | rfl) | rfl) | rfl) | rfl <;> decide

theorem visible_whitespace {c : Char} (h : isVisibleChar c = true) :
    isWhitespace c = isOws c ∧ isAsciiWhitespace c = isOws c := by
  have hlt := isVisibleChar_ascii h
  revert h
  exact forall_ascii (P := fun c => isVisibleChar c = true →
    isWhitespace c = isOws c ∧ isAsciiWhitespace c = isOws c) (by decide +kernel) hlt

theorem bearer_length {scheme : Text} (h : eqIgnoreAsciiCase scheme "bearer".toList = true) :
    scheme.length = 6 := by
  have hlength := congrArg List.length (beq_iff_eq.mp h)
  simpa [toAsciiLowercase] using hlength

theorem bearer_not_whitespace {scheme : Text}
    (h : eqIgnoreAsciiCase scheme "bearer".toList = true) :
    ∀ c ∈ scheme, isAsciiWhitespace c = false := by
  intro c hc
  have hlower : c.toLower ∈ toAsciiLowercase "bearer".toList := by
    rw [← beq_iff_eq.mp h]
    exact List.mem_map_of_mem hc
  cases hws : isAsciiWhitespace c with
  | false => rfl
  | true =>
    simp only [isAsciiWhitespace, Bool.or_eq_true, beq_iff_eq] at hws
    exfalso
    rcases hws with (((rfl | rfl) | rfl) | rfl) | rfl <;> revert hlower <;> decide

/-- A text of two words, between its paddings. -/
structure TwoWords (raw scheme gap token : Text) : Prop where
  trimmed : trim raw = scheme ++ gap ++ token
  gapBlank : gap ≠ [] ∧ ∀ c ∈ gap, isOws c = true
  tokenWord : token ≠ [] ∧ ∀ c ∈ token, isWhitespace c = false

theorem exists_twoWords {raw scheme token : Text} (hvisible : ∀ c ∈ raw, isVisibleChar c = true)
    (h : splitAsciiWhitespace raw = [scheme, token]) : ∃ gap, TwoWords raw scheme gap token := by
  obtain ⟨pre, rest, hraw, hpre, hscheme, hschemeWord, hwords, hhead⟩ :=
    exists_of_splitAsciiWhitespace_cons h
  obtain ⟨gap, post, hrest, hgap, htoken, htokenWord, hnil, -⟩ :=
    exists_of_splitAsciiWhitespace_cons hwords
  have hpost := splitAsciiWhitespace_eq_nil.mp hnil
  have hmem : ∀ c ∈ scheme ++ gap ++ token, isVisibleChar c = true := by
    intro c hc
    apply hvisible
    rw [hraw, hrest]
    simp only [List.mem_append] at hc ⊢
    tauto
  have hplain : ∀ c ∈ scheme ++ gap ++ token, isAsciiWhitespace c = false → isWhitespace c = false := by
    intro c hc hword
    obtain ⟨hunicode, hascii⟩ := visible_whitespace (hmem c hc)
    rw [hunicode, ← hascii, hword]
  have htokenPlain : ∀ c ∈ token, isWhitespace c = false := fun c hc =>
    hplain c (List.mem_append_right _ hc) (htokenWord c hc)
  refine ⟨gap, ?_, ⟨?_, fun c hc => ?_⟩, htoken, htokenPlain⟩
  · have hshape : raw = pre ++ (scheme ++ gap ++ token) ++ post := by
      rw [hraw, hrest]
      simp
    rw [trim, hshape]
    apply trimMatches_pad
    · exact fun c hc => isWhitespace_of_ascii (hpre c hc)
    · exact fun c hc => isWhitespace_of_ascii (hpost c hc)
    · intro c hc
      obtain ⟨d, tail, rfl⟩ := List.exists_cons_of_ne_nil hscheme
      obtain rfl : d = c := by simpa using hc
      exact hplain d (by simp) (hschemeWord d (by simp))
    · intro c hc
      have hlast : c ∈ token := by
        rw [List.getLast?_append_of_ne_nil _ htoken] at hc
        exact List.mem_of_mem_getLast? hc
      exact htokenPlain c hlast
  · -- the text after the scheme starts with whitespace, and the token does not
    rintro rfl
    obtain ⟨d, tail, rfl⟩ := List.exists_cons_of_ne_nil htoken
    have hws := hhead d (by simp [hrest])
    rw [htokenWord d (by simp)] at hws
    cases hws
  · rw [← (visible_whitespace (hmem c (by simp [hc]))).2]
    exact hgap c hc

/-- The guard reads the token when a space follows the scheme, and the whole text otherwise. -/
theorem stripBearer_twoWords {raw scheme gap token : Text} (h : TwoWords raw scheme gap token)
    (hbearer : eqIgnoreAsciiCase scheme "bearer".toList = true) :
    stripBearer raw = if gap.head? = some ' ' then token else scheme ++ gap ++ token := by
  have hlength := bearer_length hbearer
  obtain ⟨g, tail, hgap⟩ := List.exists_cons_of_ne_nil h.gapBlank.1
  have htake : (scheme ++ gap ++ token).take 7 = scheme ++ [g] := by
    simp [hgap, List.take_append, hlength, List.take_of_length_le]
  have hdrop : (scheme ++ gap ++ token).drop 7 = tail ++ token := by
    simp [hgap, List.drop_append, hlength]
  have hlong : 7 ≤ (scheme ++ gap ++ token).length := by
    simp only [hgap, List.length_append, List.length_cons, hlength]
    omega
  have hlower : toAsciiLowercase scheme = toAsciiLowercase "bearer".toList := beq_iff_eq.mp hbearer
  have hscheme : eqIgnoreAsciiCase (scheme ++ [g]) "bearer ".toList = true ↔ g = ' ' := by
    have hows : g = ' ' ∨ g = '\t' := by
      have hblank := h.gapBlank.2 g (by simp [hgap])
      simpa [isOws] using hblank
    have hsplit : toAsciiLowercase (scheme ++ [g]) = toAsciiLowercase "bearer".toList ++ [g.toLower] := by
      rw [← hlower]
      simp [toAsciiLowercase]
    unfold eqIgnoreAsciiCase
    rw [hsplit]
    rcases hows with rfl | rfl <;> decide
  unfold stripBearer
  simp only [h.trimmed, htake, hdrop, hlong, true_and, hscheme]
  rw [hgap]
  by_cases hspace : g = ' '
  · subst hspace
    have hpad : ∀ c ∈ tail, isWhitespace c = true := by
      intro c hc
      have hblank := h.gapBlank.2 c (by simp [hgap, hc])
      simp only [isOws, Bool.or_eq_true, beq_iff_eq] at hblank
      rcases hblank with rfl | rfl <;> decide
    rw [if_pos rfl, List.head?_cons, if_pos rfl, trim, trimMatches_append_left _ hpad]
    apply trimMatches_eq_self
    · exact fun c hc => h.tokenWord.2 c (List.mem_of_mem_head? hc)
    · exact fun c hc => h.tokenWord.2 c (List.mem_of_mem_getLast? hc)
  · rw [if_neg hspace, List.head?_cons, if_neg (fun heq => hspace (Option.some.inj heq))]

theorem words_of_trim {raw : Text} (hvisible : ∀ c ∈ raw, isVisibleChar c = true) :
    splitAsciiWhitespace (trim raw) = splitAsciiWhitespace raw := by
  obtain ⟨pre, post, hraw, hpre, hpost⟩ := exists_pad_of_trimMatches isWhitespace raw
  have hascii : ∀ c ∈ raw, isWhitespace c = true → isAsciiWhitespace c = true := by
    intro c hc hws
    obtain ⟨hunicode, hascii⟩ := visible_whitespace (hvisible c hc)
    rw [hascii, ← hunicode, hws]
  have hpreAscii : ∀ c ∈ pre, isAsciiWhitespace c = true := fun c hc =>
    hascii c (by rw [hraw]; simp [hc]) (hpre c hc)
  have hpostAscii : ∀ c ∈ post, isAsciiWhitespace c = true := fun c hc =>
    hascii c (by rw [hraw]; simp [hc]) (hpost c hc)
  have hwords : splitAsciiWhitespace raw = splitAsciiWhitespace (pre ++ (trim raw ++ post)) := by
    rw [← List.append_assoc]
    exact congrArg splitAsciiWhitespace hraw
  rw [hwords, splitAsciiWhitespace_append_ws hpreAscii, splitAsciiWhitespace_append_right hpostAscii]

theorem eq_word_of_trimmed {t word : Text} (htrim : trim t = t)
    (h : splitAsciiWhitespace t = [word]) : t = word := by
  obtain ⟨pre, rest, ht, hpre, -, -, hnil, -⟩ := exists_of_splitAsciiWhitespace_cons h
  have hrest := splitAsciiWhitespace_eq_nil.mp hnil
  have hhead := trimMatches_head isWhitespace (t := t)
  have hlast := trimMatches_getLast isWhitespace (t := t)
  change trimMatches isWhitespace t = t at htrim
  rw [htrim] at hhead hlast
  have hpreNil : pre = [] := by
    cases pre with
    | nil => rfl
    | cons c tail =>
      have hplain := hhead c (by simp [ht])
      rw [isWhitespace_of_ascii (hpre c (by simp))] at hplain
      cases hplain
  have hrestNil : rest = [] := by
    rcases List.eq_nil_or_concat rest with hnil | ⟨init, c, hrestEq⟩
    · exact hnil
    · have hplain := hlast c (by simp [ht, hrestEq])
      rw [isWhitespace_of_ascii (hrest c (by simp [hrestEq]))] at hplain
      cases hplain
  rw [ht, hpreNil, hrestNil]
  simp

/-- The builder's token is the secret the guard missed exactly when a tab follows the scheme. -/
theorem token_eq_iff_tabSpelled {secret raw scheme token : Text}
    (hvisible : ∀ c ∈ raw, isVisibleChar c = true)
    (hwords : splitAsciiWhitespace raw = [scheme, token])
    (hbearer : eqIgnoreAsciiCase scheme "bearer".toList = true) (hne : secret ≠ [])
    (htrim : trim secret = secret) (hmissed : stripBearer raw ≠ secret) :
    token = secret ↔ TabSpelled secret raw := by
  obtain ⟨gap, htwo⟩ := exists_twoWords hvisible hwords
  constructor
  · rintro rfl
    obtain ⟨g, tail, hgap⟩ := List.exists_cons_of_ne_nil htwo.gapBlank.1
    have hblank := htwo.gapBlank.2 g (by simp [hgap])
    simp only [isOws, Bool.or_eq_true, beq_iff_eq] at hblank
    rcases hblank with rfl | rfl
    · rw [stripBearer_twoWords htwo hbearer, hgap, List.head?_cons, if_pos rfl] at hmissed
      exact absurd rfl hmissed
    · refine ⟨scheme, tail, ?_, hbearer, fun c hc => htwo.gapBlank.2 c (by simp [hgap, hc])⟩
      rw [htwo.trimmed, hgap]
      simp
  · rintro ⟨scheme', gap', hshape, hbearer', hblank⟩
    have hscheme' : scheme' ≠ [] := by
      rintro rfl
      exact absurd (bearer_length hbearer') (by decide)
    have hgapWs : ∀ c ∈ gap', isAsciiWhitespace c = true := by
      intro c hc
      have hows := hblank c hc
      simp only [isOws, Bool.or_eq_true, beq_iff_eq] at hows
      rcases hows with rfl | rfl <;> decide
    have hsame : splitAsciiWhitespace (trim raw) = scheme' :: splitAsciiWhitespace secret := by
      rw [hshape, splitAsciiWhitespace_word_cons hscheme' (bearer_not_whitespace hbearer') (by decide),
        splitAsciiWhitespace_append_ws hgapWs]
    rw [words_of_trim hvisible, hwords] at hsame
    obtain ⟨-, hsecret⟩ := List.cons.inj hsame
    exact (eq_word_of_trimmed htrim hsecret.symm).symm

end Spelling

section Channels
variable {headers out : HeaderMap} {config : Config} {secret : BearerToken}

theorem validBearer_words {value : HeaderValue} (h : validBearer value = true) :
    ∃ raw scheme token, value.toStr = some raw ∧ splitAsciiWhitespace raw = [scheme, token] ∧
      eqIgnoreAsciiCase scheme "bearer".toList = true := by
  unfold validBearer at h
  cases hraw : value.toStr with
  | none => simp [hraw] at h
  | some raw =>
    rw [hraw, Option.map_some] at h
    split at h
    · rename_i scheme token hwords
      simp only [Bool.and_eq_true] at h
      exact ⟨raw, scheme, token, rfl, Option.some.inj hwords, h.1.1⟩
    · cases h

theorem withheld_of_copy {profile : UpstreamProfile} {policy : CredentialPolicy}
    (hpolicy : policy ≠ .managed) {value : HeaderValue}
    (hsecret : config.admissionToken = some secret) (hne : secret.raw ≠ [])
    (htrim : trim secret.raw = secret.raw)
    (hsingle : (headers.getAll "authorization").length ≤ 1)
    (hguard : rejectForwardedAdmissionSecret headers config = .ok ())
    (hvalue : authorization headers profile policy = .ok value)
    (hout : out.getAll "authorization" = [value]) (htokens : credentialTokens out = []) :
    Withheld out secret ↔ ¬SpellsWithTab headers secret := by
  obtain ⟨sent, hget, hvalid, rfl⟩ := authorization_client hpolicy hvalue
  have hsent := getAll_of_single hget hsingle
  obtain ⟨raw, scheme, token, hraw, hwords, hbearer⟩ := validBearer_words hvalid
  have hmissed : stripBearer raw ≠ secret.raw := by
    intro hstrip
    apply (rejectForwardedAdmissionSecret_eq_ok hsecret).mp hguard
    exact mem_values.mpr ⟨hne, sent, by rw [hsent]; simp, raw, hraw, hstrip⟩
  have hword : tokenWord (sent.setSensitive true) = some token := by
    simp [tokenWord, hraw, hwords]
  have hspelling := token_eq_iff_tabSpelled (HeaderValue.visible_of_toStr hraw) hwords hbearer hne
    htrim hmissed
  have hwithheld : Withheld out secret ↔ token ≠ secret.raw := by
    simp [Withheld, hout, htokens, hword]
  have hspells : SpellsWithTab headers secret ↔ TabSpelled secret.raw raw := by
    simp [SpellsWithTab, hsent, hraw]
  rw [hwithheld, hspells, ← hspelling]

end Channels

/-- The guard keeps the admission token out of both credential channels exactly when the request
does not spell it with a tab after the scheme. -/
theorem admission_token_withheld_iff {uris : UriParser} {headers : HeaderMap} {config : Config}
    {draining : Bool} {kind : RequestKind} {selection : ProtocolSelection} {secret : BearerToken}
    (hsecret : config.admissionToken = some secret) (hne : secret.raw ≠ [])
    (htrim : trim secret.raw = secret.raw) (hcredential : selection.credential ≠ .managed)
    (hguard : guard uris headers config draining kind = .ok ()) :
    (∀ profile out, buildUpstreamHeaders headers profile selection = .ok out →
      (Withheld out secret ↔ ¬SpellsWithTab headers secret)) ∧
    ∀ profile validated built,
      validateUpstreamWebsocketHeaders headers selection config.admissionToken = .ok validated →
        buildUpstreamWebsocketHeaders headers profile selection validated = .ok built →
          (Withheld built.headers secret ↔ ¬SpellsWithTab headers secret) := by
  obtain ⟨-, hadmission, hforwarded, -⟩ := guard_eq_ok.mp hguard
  have hsingle : (headers.getAll "authorization").length ≤ 1 := by
    unfold checkAdmission at hadmission
    obtain ⟨_, hambiguous, -⟩ := Except.bind_eq_ok.mp hadmission
    exact rejectAmbiguousAuthorization_eq_ok.mp hambiguous
  constructor
  · intro profile out hbuilt
    obtain ⟨value, hvalue, hcontents⟩ := buildUpstreamHeaders_eq_ok hbuilt
    refine withheld_of_copy hcredential hsecret hne htrim hsingle hforwarded hvalue
      (by rw [hcontents, if_pos rfl]) (credentialTokens_of_absent ?_)
    exact buildUpstreamHeaders_subprotocol hbuilt
  · intro profile validated built hvalidated hbuilt
    obtain ⟨hparsed, -, -, hbrowser⟩ := validateUpstreamWebsocketHeaders_eq_ok hvalidated
    obtain ⟨-, values, hvalues, hcontents⟩ := buildUpstreamWebsocketHeaders_eq_ok hbuilt
    have hauthorization : built.headers.getAll "authorization" = values := by
      rw [hcontents, if_neg (by decide), if_pos rfl]
    have htokens : credentialTokens built.headers = credentialTokens headers :=
      credentialTokens_of_canonical hparsed (by rw [hcontents, if_pos rfl])
    rcases hvalues with ⟨hsome, rfl⟩ | ⟨hnone, value, hvalue, hvalues⟩
    · -- a browser credential excludes `Authorization`, and the parser refused the secret as one
      have habsent : ¬SpellsWithTab headers secret := by
        rintro ⟨value, hvalue, -⟩
        rw [hbrowser hsome] at hvalue
        cases hvalue
      have hrefused := (parseProtocols_accepted hparsed).2.2 secret hsecret
      rw [← credentialTokens_of_parse hparsed, ← htokens] at hrefused
      have hwithheld : Withheld built.headers secret := by
        refine ⟨?_, hrefused⟩
        rw [hauthorization]
        simp
      exact iff_of_true hwithheld habsent
    · have hno : credentialTokens headers = [] := by
        rcases browserCredential_tokens hparsed with ⟨-, htoken⟩ | ⟨token, hsome, -⟩
        · exact htoken
        · simp [hnone] at hsome
      exact withheld_of_copy hcredential hsecret hne htrim hsingle hforwarded hvalue
        (hauthorization.trans hvalues) (htokens.trans hno)

section Instances

def noUris : UriParser := ⟨fun _ => none, fun _ => none⟩

def officialClient : ProtocolSelection := ⟨.officialGa, .http, .realtime, .clientBearer⟩

def admittedWith (authorization : String) : HeaderMap :=
  headersOf [("x-api-key", "secret".toList), ("authorization", authorization.toList)]

theorem client_key_forwarded_without_the_token :
    ∃ out, buildUpstreamHeaders (admittedWith "Bearer sk_1") clientKeys.upstream officialClient =
      .ok out ∧ Withheld out ⟨"secret".toList⟩ := by
  have hguard : guard noUris (admittedWith "Bearer sk_1") clientKeys false .http = .ok () := by
    decide +kernel
  obtain ⟨out, hbuilt, -⟩ := Outcome.exists_of_okAnd
    (show Outcome.okAnd (fun _ => true) (Outcome.ofExcept (buildUpstreamHeaders
      (admittedWith "Bearer sk_1") clientKeys.upstream officialClient)) = true by decide +kernel)
  rw [Outcome.ofExcept_eq_ok] at hbuilt
  have hsecrecy := @admission_token_withheld_iff noUris (admittedWith "Bearer sk_1") clientKeys false
    .http officialClient ⟨"secret".toList⟩ rfl (by decide) (by decide) (by decide) hguard
  refine ⟨out, hbuilt, (hsecrecy.1 clientKeys.upstream out hbuilt).mpr ?_⟩
  rintro ⟨value, hvalue, raw, hraw, scheme, gap, hshape, -⟩
  have htab : '\t' ∈ trim raw := by rw [hshape]; simp
  have hread : ∀ value ∈ (admittedWith "Bearer sk_1").getAll "authorization",
      ∀ raw ∈ value.toStr, '\t' ∉ trim raw := by decide +kernel
  exact hread value hvalue raw hraw htab

theorem tab_spelled_token_forwarded :
    guard noUris (admittedWith "Bearer\tsecret") clientKeys false .http = .ok () ∧
      ∃ out, buildUpstreamHeaders (admittedWith "Bearer\tsecret") clientKeys.upstream
        officialClient = .ok out ∧ ¬Withheld out ⟨"secret".toList⟩ := by
  refine ⟨by decide +kernel, ?_⟩
  obtain ⟨out, hbuilt, hword⟩ := Outcome.exists_of_okAnd
    (show Outcome.okAnd (fun out => (out.getAll "authorization").any fun value =>
        decide (tokenWord value = some "secret".toList)) (Outcome.ofExcept (buildUpstreamHeaders
      (admittedWith "Bearer\tsecret") clientKeys.upstream officialClient)) = true by decide +kernel)
  refine ⟨out, Outcome.ofExcept_eq_ok.mp hbuilt, fun hwithheld => ?_⟩
  obtain ⟨value, hvalue, htoken⟩ := List.any_eq_true.mp hword
  exact hwithheld.1 value hvalue (of_decide_eq_true htoken)

end Instances

end GptLiveProxy
