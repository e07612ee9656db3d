import GptLiveProxy.ConfigSound
import GptLiveProxy.OrderedQueries
import GptLiveProxy.UpstreamUrls
import GptLiveProxy.UrlExtension

/-!
# Queries of the private URLs

A base that passed its validator has no query and no fragment, so what follows the first question
mark of a private URL is what the builder wrote. The WebSocket builder writes an encoding of its
parameters, whatever the model is. The call-create builder decides by looking for the parameters
in the whole URL, where the path of a base can pass for a query.
-/

namespace GptLiveProxy
open CharText

/-- What follows the first question mark. -/
def queryOf (url : Text) : Option Text := (splitOnce '?' url).map Prod.snd

/-- The base spells both parameters of the AVAS query behind ampersands. -/
def SpellsAvas (base : Text) : Prop :=
  "&intent=".toList <:+: base ∧ "&architecture=".toList <:+: base

/-- The parameters of a private standalone connection. -/
def standaloneParameters (dialect : ApiDialect) (model : Text) : List (Text × Text) :=
  match dialect with
  | .quicksilverV1 => [("intent".toList, "quicksilver".toList), ("model".toList, model)]
  | _ => [("model".toList, model)]

section ValidatedBase

theorem undelimited_iff {t : Text} :
    (∀ c ∈ t, WebUrl.endsPath c = false) ↔ '?' ∉ t ∧ '#' ∉ t := by
  simp only [WebUrl.endsPath, Bool.or_eq_false_iff, beq_eq_false_iff_ne]
  constructor
  · intro h
    exact ⟨fun hmem => (h _ hmem).1 rfl, fun hmem => (h _ hmem).2 rfl⟩
  · rintro ⟨hmark, hhash⟩ c hc
    exact ⟨fun heq => hmark (heq ▸ hc), fun heq => hhash (heq ▸ hc)⟩

theorem mem_clean {input : Text} {c : Char} (hc : WebUrl.isControlOrSpace c = false)
    (h : c ∈ input) : c ∈ WebUrl.clean input := by
  obtain ⟨front, back, hinput, hfront, hback⟩ := exists_pad_of_trimMatches WebUrl.isControlOrSpace input
  have hmid : c ∈ trimMatches WebUrl.isControlOrSpace input := by
    rw [hinput] at h
    rcases List.mem_append.mp h with h | h
    · rcases List.mem_append.mp h with h | h
      · rw [hfront c h] at hc
        cases hc
      · exact h
    · rw [hback c h] at hc
      cases hc
  apply List.mem_filter.mpr
  refine ⟨hmid, ?_⟩
  have huntabbed := WebUrl.untabbed_eq_self (by simpa using hc : ∀ d ∈ [c], WebUrl.isControlOrSpace d = false)
  simpa [WebUrl.untabbed, List.filter_cons] using huntabbed

theorem scheme_spelling {input scheme rest : Text} (h : WebUrl.splitScheme input = some (scheme, rest)) :
    ∃ name, input = name ++ ':' :: rest ∧ ∀ c ∈ name, WebUrl.isSchemeChar c = true := by
  rw [WebUrl.splitScheme] at h
  split_ifs at h
  obtain ⟨parts, hparts, heq⟩ := Option.map_eq_some_iff.mp h
  obtain ⟨hsplit, hchars⟩ := Option.filter_eq_some_iff.mp hparts
  obtain ⟨-, rfl⟩ := Prod.mk.inj heq
  exact ⟨parts.1, (splitOnce_eq_some.mp hsplit).1, List.all_eq_true.mp hchars⟩

theorem schemeChar_not_endsPath {c : Char} (h : WebUrl.isSchemeChar c = true) :
    WebUrl.endsPath c = false := by
  rw [Bool.eq_false_iff]
  intro hends
  simp only [WebUrl.endsPath, Bool.or_eq_true, beq_iff_eq] at hends
  rcases hends with rfl | rfl <;> cases h

/-- A special URL without a query and a fragment spells neither of their delimiters. -/
theorem delimiters_of_parse {urls : WebUrl.Externals} {input : Text} {url : WebUrl.Url}
    (h : WebUrl.parse urls input = .ok url)
    (hscheme : url.scheme = "http".toList ∨ url.scheme = "https".toList)
    (hquery : url.query = none) (hfragment : url.fragment = none) :
    ∀ c ∈ input, WebUrl.endsPath c = false := by
  obtain ⟨rest, hsplit⟩ := WebUrl.parse_scheme h
  obtain ⟨port, hport⟩ : ∃ port, WebUrl.specialPort url.scheme = some port := by
    rcases hscheme with hhttp | hhttps
    · exact ⟨80, by rw [hhttp]; rfl⟩
    · exact ⟨443, by rw [hhttps]; rfl⟩
  simp only [WebUrl.parse, hsplit, hport] at h
  obtain ⟨authority, -, hurl⟩ := WebUrl.parseSpecial_eq_ok.mp h
  have htail := WebUrl.tail_of_plain (hurl ▸ hquery) (hurl ▸ hfragment)
  have hrest : ∀ c ∈ rest, WebUrl.endsPath c = false := by
    intro c hc
    rw [← List.takeWhile_append_dropWhile (p := WebUrl.isSlash) (l := rest)] at hc
    rcases List.mem_append.mp hc with hslash | hc
    · have hslash := List.mem_takeWhile_imp hslash
      rw [Bool.eq_false_iff]
      intro hends
      simp only [WebUrl.endsPath, Bool.or_eq_true, beq_iff_eq] at hends
      rcases hends with rfl | rfl <;> cases hslash
    · rw [← List.takeWhile_append_dropWhile (p := fun c => !WebUrl.endsAuthority c)
        (l := rest.dropWhile WebUrl.isSlash)] at hc
      rcases List.mem_append.mp hc with hauthority | hc
      · have hauthority := List.mem_takeWhile_imp hauthority
        exact WebUrl.endsPath_of_endsAuthority (by simpa using hauthority)
      · exact htail c hc
  intro c hc
  by_cases hcontrol : WebUrl.isControlOrSpace c = true
  · exact WebUrl.endsPath_of_endsAuthority (WebUrl.endsAuthority_control hcontrol)
  · have hclean := mem_clean (Bool.eq_false_iff.mpr hcontrol) hc
    obtain ⟨name, hname, hall⟩ := scheme_spelling hsplit
    rw [hname] at hclean
    rcases List.mem_append.mp hclean with hchar | hclean
    · exact schemeChar_not_endsPath (hall c hchar)
    · rcases List.mem_cons.mp hclean with rfl | hclean
      · rfl
      · exact hrest c hclean

theorem delimiters_of_validated {urls : WebUrl.Externals} {raw base : Text}
    (h : validateBaseUrl urls raw = .ok base) : '?' ∉ base ∧ '#' ∉ base := by
  obtain ⟨-, url, hurl, hbase⟩ := validateBaseUrl_eq_ok h
  exact undelimited_iff.mp (delimiters_of_parse hurl hbase.scheme hbase.query hbase.fragment)

end ValidatedBase

section CallCreate

theorem infix_append_iff {part base rest : Text} {last : Char} (hlast : part.getLast? = some last)
    (hrest : last ∉ rest) : part <:+: base ++ rest ↔ part <:+: base := by
  constructor
  · rintro ⟨front, back, h⟩
    rcases List.append_eq_append_iff.mp h with ⟨middle, hbase, -⟩ | ⟨overlap, hfront, hback⟩
    · exact ⟨front, middle, hbase.symm⟩
    · rcases List.eq_nil_or_concat overlap with rfl | ⟨start, c, rfl⟩
      · rw [List.append_nil] at hfront
        exact ⟨front, [], by rw [List.append_nil, hfront]⟩
      · have hend := congrArg List.getLast? hfront
        rw [List.getLast?_append, hlast] at hend
        have hc : last = c := by simpa using hend
        apply absurd _ hrest
        rw [hback, hc]
        simp
  · rintro ⟨front, back, rfl⟩
    exact ⟨front, back ++ rest, by simp⟩

theorem exists_stripV1Suffix (base : Text) :
    ∃ rest, base = stripV1Suffix base ++ rest ∧ ∀ c ∈ rest, c ∈ "/v1".toList := by
  obtain ⟨n, hn⟩ := exists_trimEnd '/' base
  have hslashes : ∀ c ∈ List.replicate n '/', c ∈ "/v1".toList := by
    intro c hc
    rw [List.eq_of_mem_replicate hc]
    decide
  by_cases hv1 : "/v1".toList <:+ trimEnd '/' base
  · obtain ⟨front, hfront⟩ := hv1
    refine ⟨"/v1".toList ++ List.replicate n '/', ?_, ?_⟩
    · rw [stripV1Suffix, ← hfront, removeSuffix_append, ← List.append_assoc, hfront, ← hn]
    · intro c hc
      exact (List.mem_append.mp hc).elim id (hslashes c)
  · refine ⟨List.replicate n '/', ?_, hslashes⟩
    rw [stripV1Suffix, removeSuffix_of_not_suffix hv1, ← hn]

theorem infix_delimited {key url : Text} {mark : Char} (hmark : mark ∉ url) :
    ¬ (mark :: key) <:+: url := by
  intro hfound
  exact hmark (hfound.subset List.mem_cons_self)

theorem withAvasQuery_of_base {base path : Text} (hmark : '?' ∉ base ++ path) (hpath : '=' ∉ path) :
    (SpellsAvas base → withAvasQuery (base ++ path) = base ++ path) ∧
      (¬ SpellsAvas base → withAvasQuery (base ++ path) = base ++ path ++ '?' :: AVAS_QUERY) := by
  have hquery (key : Text) : contains ('?' :: key) (base ++ path) = false :=
    decide_eq_false (infix_delimited hmark)
  have hspelled {key : Text} (hkey : key.getLast? = some '=') :
      contains key (base ++ path) = decide (key <:+: base) :=
    decide_eq_decide.mpr (infix_append_iff hkey hpath)
  have hcondition : ((contains "?intent=".toList (base ++ path) ||
      contains "&intent=".toList (base ++ path)) &&
        (contains "?architecture=".toList (base ++ path) ||
          contains "&architecture=".toList (base ++ path))) = true ↔ SpellsAvas base := by
    have hintent : contains "?intent=".toList (base ++ path) = false := hquery "intent=".toList
    have harchitecture : contains "?architecture=".toList (base ++ path) = false :=
      hquery "architecture=".toList
    have hintent' := @hspelled "&intent=".toList rfl
    have harchitecture' := @hspelled "&architecture=".toList rfl
    rw [hintent, harchitecture, hintent', harchitecture', SpellsAvas]
    simp only [Bool.false_or, Bool.and_eq_true, decide_eq_true_eq]
  constructor
  · intro hspells
    rw [withAvasQuery, if_pos (hcondition.mpr hspells)]
  · intro hspells
    have hcontains : (base ++ path).contains '?' = false := by simpa using hmark
    rw [withAvasQuery, if_neg (mt hcondition.mp hspells), hcontains]
    rfl

theorem queryOf_append {front rest : Text} (h : '?' ∉ front) : queryOf (front ++ '?' :: rest) = some rest := by
  rw [queryOf, splitOnce_eq_some.mpr ⟨rfl, h⟩, Option.map_some]

theorem queryOf_eq_none {url : Text} : queryOf url = none ↔ '?' ∉ url := by
  rw [queryOf, Option.map_eq_none_iff, splitOnce_eq_none]

/-- What is trimmed from the base has no equals sign, so the trimmed base spells what the base does. -/
theorem queryOf_withAvasQuery {base root rest path : Text} (hbase : base = root ++ rest)
    (hmark : '?' ∉ base) (hrest : '=' ∉ rest) (hpath : '?' ∉ path ∧ '=' ∉ path) :
    queryOf (withAvasQuery (root ++ path)) = some AVAS_QUERY ↔ ¬ SpellsAvas base := by
  have hurl : '?' ∉ root ++ path := by
    rw [hbase, List.mem_append, not_or] at hmark
    rw [List.mem_append, not_or]
    exact ⟨hmark.1, hpath.1⟩
  have hroot : SpellsAvas base ↔ SpellsAvas root := by
    rw [hbase]
    exact and_congr (infix_append_iff rfl hrest) (infix_append_iff rfl hrest)
  rw [hroot]
  obtain ⟨hspelled, hplain⟩ := withAvasQuery_of_base hurl hpath.2
  constructor
  · intro hquery hspells
    rw [hspelled hspells, queryOf_eq_none.mpr hurl] at hquery
    cases hquery
  · intro hspells
    rw [hplain hspells, queryOf_append hurl]

end CallCreate

theorem avas_query_iff {urls : WebUrl.Externals} {raw base : Text}
    (hbase : validateBaseUrl urls raw = .ok base) (debugAssertions backendShape : Bool)
    {dialect : ApiDialect} {adapter : WireAdapter} (hadapter : callAdapter dialect = some adapter) :
    ∃ url, privateCallCreateUrl debugAssertions base backendShape dialect = .ok url ∧
      (queryOf url = (if adapter.wantsAvasQuery backendShape then some AVAS_QUERY else none) ↔
        ¬ (adapter.wantsAvasQuery backendShape = true ∧ SpellsAvas base)) := by
  obtain ⟨hmark, -⟩ := delimiters_of_validated hbase
  obtain ⟨n, hslashes⟩ := exists_trimEnd '/' base
  obtain ⟨rest, hstripped, hrest⟩ := exists_stripV1Suffix base
  have hequals : '=' ∉ rest := fun hmem => absurd (hrest '=' hmem) (by decide)
  have hslash : '=' ∉ List.replicate n '/' := by simp
  have hprivate : dialect ≠ .officialGa := by
    rintro rfl
    cases hadapter
  cases backendShape with
  | true =>
    have hwants : adapter.wantsAvasQuery true = true := by
      cases dialect <;> cases hadapter <;> rfl
    refine ⟨withAvasQuery (trimEnd '/' base ++ "/realtime/calls".toList), ?_, ?_⟩
    · have hasserted : (Outcome.debugAssert debugAssertions (dialect ≠ .officialGa) :
          Outcome RelayError Unit) = .ok () := by
        cases debugAssertions <;> simp [Outcome.debugAssert, Outcome.assert, hprivate]
      simp only [privateCallCreateUrl, if_true, hasserted]
      rfl
    · rw [hwants, if_pos rfl, queryOf_withAvasQuery hslashes hmark hslash (by decide)]
      simp
  | false =>
    cases dialect with
    | officialGa => exact absurd rfl hprivate
    | quicksilverV1 =>
      cases hadapter
      refine ⟨_, rfl, ?_⟩
      change queryOf (withAvasQuery (stripV1Suffix base ++ "/v1/realtime/calls".toList)) =
        some AVAS_QUERY ↔ _
      rw [queryOf_withAvasQuery hstripped hmark hequals (by decide)]
      simp [WireAdapter.wantsAvasQuery]
    | frameless =>
      cases hadapter
      refine ⟨_, rfl, ?_⟩
      have hplain : '?' ∉ stripV1Suffix base ++ "/v1/live".toList := by
        rw [hstripped, List.mem_append, not_or] at hmark
        rw [List.mem_append, not_or]
        exact ⟨hmark.1, by decide⟩
      rw [queryOf_eq_none.mpr hplain]
      simp [WireAdapter.wantsAvasQuery]

/-- A base whose path spells the two parameters behind ampersands. -/
def spelledBase : Text := "https://h.test/a&intent=x&architecture=y".toList

theorem spelled_base_loses_avas_query :
    validateBaseUrl spelledHosts spelledBase = .ok spelledBase ∧
      callAdapter .quicksilverV1 = some .v1 ∧ WireAdapter.v1.wantsAvasQuery true = true ∧
        ∃ url, privateCallCreateUrl true spelledBase true .quicksilverV1 = .ok url ∧
          queryOf url = none :=
  ⟨by rfl, rfl, rfl, _, rfl, by decide +kernel⟩

theorem plain_base_gets_avas_query : ∃ url,
    privateCallCreateUrl true "https://h.test/a&intent=x".toList true .frameless = .ok url ∧
      queryOf url = some AVAS_QUERY := by
  have hvalidated : validateBaseUrl spelledHosts "https://h.test/a&intent=x".toList =
      .ok "https://h.test/a&intent=x".toList := by rfl
  obtain ⟨url, hurl, hquery⟩ :=
    avas_query_iff hvalidated true true (show callAdapter .frameless = some .framelessBidi from rfl)
  refine ⟨url, hurl, hquery.mpr ?_⟩
  rintro ⟨-, -, harchitecture⟩
  exact absurd harchitecture (by decide +kernel)

section Encoding

theorem queryLiteral_facts : ∀ b : UInt8, isQueryLiteral b = true →
    isLiteralByte false b = true ∧ utf8 [Char.ofNat b.toNat] = [b] := by
  apply HeaderValue.forall_byte
  decide +kernel

/-- The three bytes of an escape, whose digits have the value of the escaped byte. -/
def IsEscapeOf (b : UInt8) : List UInt8 → Bool
  | [percent, hi, lo] =>
    percent == 0x25 && isHexByte hi && isHexByte lo && hexByteValue hi * 16 + hexByteValue lo == b
  | _ => false

theorem escapeByte_spells : ∀ b : UInt8, IsEscapeOf b (utf8 (escapeByte b)) = true := by
  apply HeaderValue.forall_byte
  decide +kernel

theorem EncodesBytes.escaped {inKey : Bool} {b : UInt8} {escape bytes raw : List UInt8}
    (hescape : IsEscapeOf b escape = true) (h : EncodesBytes inKey bytes raw) :
    EncodesBytes inKey (b :: bytes) (escape ++ raw) := by
  unfold IsEscapeOf at hescape
  split at hescape
  · simp only [Bool.and_eq_true, beq_iff_eq] at hescape
    obtain ⟨⟨⟨rfl, hhi⟩, hlo⟩, rfl⟩ := hescape
    exact .escape hhi hlo h
  · cases hescape

/-- What the encoder writes is an encoding, of the value it was given. -/
theorem encodesComponent_encode (value : Text) :
    EncodesComponent false value (encodeQueryComponent value) := by
  rw [EncodesComponent, encodeQueryComponent]
  induction utf8 value with
  | nil => exact .nil
  | cons b bytes ih =>
    rw [List.flatMap_cons, utf8_append]
    split_ifs with hliteral
    · obtain ⟨hb, hspelled⟩ := queryLiteral_facts b hliteral
      rw [hspelled]
      exact .literal hb ih
    · exact .escaped (escapeByte_spells b) ih

theorem encodesComponent_self {inKey : Bool} {t : Text}
    (h : (utf8 t).all (isLiteralByte inKey) = true) : EncodesComponent inKey t t := by
  rw [EncodesComponent]
  generalize utf8 t = bytes at h ⊢
  induction bytes with
  | nil => exact .nil
  | cons b bytes ih =>
    rw [List.all_cons, Bool.and_eq_true] at h
    exact .literal h.1 (ih h.2)

/-- The query of a private standalone request encodes its parameters. -/
theorem privateRequest_standalone {dialect : ApiDialect} (hprivate : dialect ≠ .officialGa)
    (model : Text) : ∃ path query,
      privateRequest dialect (.standalone model) = .ok (path ++ '?' :: query) ∧
        (∀ c ∈ path, WebUrl.endsPath c = false) ∧
          EncodesQuery (standaloneParameters dialect model) query := by
  have hmodel : EncodesPair ("model".toList, model) ("model".toList ++ '=' :: encodeQueryComponent model) :=
    .separated (encodesComponent_self (by decide +kernel)) (encodesComponent_encode model)
  have hplain {path : Text} (h : path.all (fun c => !WebUrl.endsPath c) = true) :
      ∀ c ∈ path, WebUrl.endsPath c = false := fun c hc => by simpa using List.all_eq_true.mp h c hc
  cases dialect with
  | officialGa => exact absurd rfl hprivate
  | quicksilverV1 =>
    have hintent : EncodesPair ("intent".toList, "quicksilver".toList)
        ("intent".toList ++ '=' :: "quicksilver".toList) :=
      .separated (encodesComponent_self (by decide +kernel))
        (encodesComponent_self (by decide +kernel))
    have hrequest : "/realtime?intent=quicksilver&model=".toList =
        "/realtime".toList ++ '?' :: "intent=quicksilver&model=".toList := by decide +kernel
    refine ⟨"/realtime".toList, "intent=quicksilver&model=".toList ++ encodeQueryComponent model, ?_,
      hplain (by decide +kernel), ?_⟩
    · rw [privateRequest, hrequest, List.append_assoc, List.cons_append]
    · refine ⟨[_, _], List.cons_ne_nil _ _, .cons hintent (.cons hmodel .nil), ?_⟩
      simp [List.intercalate]
  | frameless =>
    have hrequest : "/live?model=".toList = "/live".toList ++ '?' :: "model=".toList := by
      decide +kernel
    refine ⟨"/live".toList, "model=".toList ++ encodeQueryComponent model, ?_,
      hplain (by decide +kernel), ?_⟩
    · rw [privateRequest, hrequest, List.append_assoc, List.cons_append]
    · refine ⟨[_], List.cons_ne_nil _ _, .cons hmodel .nil, ?_⟩
      simp [List.intercalate]

theorem privateRequest_no_fragment {dialect : ApiDialect} {model request : Text}
    (h : privateRequest dialect (.standalone model) = .ok request) : '#' ∉ request := by
  have hliteral : ∀ b : UInt8, isQueryLiteral b = true → (Char.ofNat b.toNat != '#') = true := by
    intro b hb
    rw [bne_iff_ne]
    intro heq
    have hbyte := (queryLiteral_facts b hb).2
    rw [heq] at hbyte
    obtain rfl : 0x23 = b := List.singleton_inj.mp hbyte
    cases hb
  have hencoded : '#' ∉ encodeQueryComponent model := by
    intro hmem
    cases forall_encodeQueryComponent (· != '#') hliteral rfl model '#' hmem
  cases dialect with
  | officialGa => cases h
  | quicksilverV1 =>
    cases h
    rw [List.mem_append, not_or]
    exact ⟨by decide +kernel, hencoded⟩
  | frameless =>
    cases h
    rw [List.mem_append, not_or]
    exact ⟨by decide +kernel, hencoded⟩

end Encoding

section JoinRoots

theorem mem_rewriteScheme {url : Text} {c : Char} (h : c ∈ rewriteScheme url) :
    c ∈ "ws://".toList ∨ c ∈ url := by
  have hsecure : "wss://".toList.all "ws://".toList.contains = true := rfl
  unfold rewriteScheme at h
  split at h
  · rename_i rest hrest
    rw [dropPrefix?_eq_some] at hrest
    rw [hrest]
    rcases List.mem_append.mp h with hc | hc
    · exact .inl (List.contains_iff_mem.mp (List.all_eq_true.mp hsecure c hc))
    · exact .inr (List.mem_append_right _ hc)
  · split at h
    · rename_i rest hrest
      rw [dropPrefix?_eq_some] at hrest
      rw [hrest]
      rcases List.mem_append.mp h with hc | hc
      · exact .inl hc
      · exact .inr (List.mem_append_right _ hc)
    · exact .inr h

/-- The root of a private WebSocket URL holds no delimiter that its base does not hold. -/
theorem mem_joinRoot {base : Text} {backendShape : Bool} {c : Char}
    (hc : c ∉ SIDEBAND_API_ROOT) (h : c ∈ joinRoot base backendShape) : c ∈ base := by
  cases backendShape with
  | true => exact absurd h hc
  | false =>
    have hv1 : "/v1".toList.all SIDEBAND_API_ROOT.contains = true := rfl
    obtain ⟨rest, hbase, -⟩ := exists_stripV1Suffix base
    rcases List.mem_append.mp h with hroot | hversion
    · rw [hbase]
      exact List.mem_append_left _ hroot
    · exact absurd (List.contains_iff_mem.mp (List.all_eq_true.mp hv1 c hversion)) hc

theorem joinRoot_version (base : Text) (backendShape : Bool) :
    ∃ front, joinRoot base backendShape = front ++ "/v1".toList := by
  cases backendShape with
  | true => exact ⟨"https://api.openai.com".toList, rfl⟩
  | false => exact ⟨_, rfl⟩

/-- A private WebSocket URL is a root without delimiters followed by the request. -/
theorem privateWebsocketUrl_root {base : Text} (hbase : ∀ c ∈ base, WebUrl.endsPath c = false)
    (backendShape : Bool) {classified : ClassifiedWebSocket} {request : Text}
    (h : privateRequest classified.selection.dialect classified.target = .ok request) :
    ∃ root, privateWebsocketUrl base backendShape classified = .ok (root ++ request) ∧
      ∀ c ∈ root, WebUrl.endsPath c = false := by
  obtain ⟨front, hfront⟩ := joinRoot_version base backendShape
  refine ⟨toWebsocketScheme (joinRoot base backendShape), ?_, ?_⟩
  · rw [privateWebsocketUrl_of_request h, hfront]
    exact congrArg Outcome.ok (rewriteScheme_append front request)
  · intro c hc
    rw [Bool.eq_false_iff]
    intro hends
    have hscheme : ∀ d ∈ "ws://".toList, (!WebUrl.endsPath d) = true := List.all_eq_true.mp rfl
    have hapi : ∀ d ∈ SIDEBAND_API_ROOT, (!WebUrl.endsPath d) = true := List.all_eq_true.mp rfl
    rcases mem_rewriteScheme hc with hws | hroot
    · have hnone := hscheme c hws
      rw [hends] at hnone
      cases hnone
    · have hin := mem_joinRoot (fun hmem => by
        have hnone := hapi c hmem
        rw [hends] at hnone
        cases hnone) hroot
      rw [hbase c hin] at hends
      cases hends

end JoinRoots

theorem standaloneParameters_model (dialect : ApiDialect) (model : Text) :
    selectorValues (standaloneParameters dialect model) "model".toList = [model] ∧
      selectorValues (standaloneParameters dialect model) "call_id".toList = [] := by
  cases dialect <;> exact ⟨rfl, rfl⟩

/-- A standalone target was selected by a single model that is not blank. -/
theorem classifyWebsocket_standalone {facts : RouteFacts} {classified : ClassifiedWebSocket}
    {model : Text} (h : classifyWebsocket facts = .ok classified)
    (htarget : classified.target = .standalone model) : trim model ≠ [] := by
  unfold classifyWebsocket at h
  split_ifs at h
  obtain ⟨⟨target, transport, sessionKind, dialect⟩, hselected, h⟩ := Except.bind_eq_ok.mp h
  cases h
  obtain rfl : target = .standalone model := htarget
  rcases classifyWebsocketTarget_cases hselected with
    ⟨_, htarget, -⟩ | ⟨_, htarget, -⟩ | ⟨_, htarget, -, -, hblank, -⟩
  · cases htarget
  · cases htarget
  · cases htarget
    exact hblank

theorem standalone_query_decodes (decoder : PercentDecoder) {base : Text}
    (hbase : '?' ∉ base ∧ '#' ∉ base) (backendShape : Bool) {classified : ClassifiedWebSocket}
    {model : Text} (htarget : classified.target = .standalone model)
    (hprivate : classified.selection.dialect ≠ .officialGa) :
    ∃ url query, privateWebsocketUrl base backendShape classified = .ok url ∧
      queryOf url = some query ∧ '#' ∉ url ∧
      decodeOrdered decoder (some query) =
        .ok (standaloneParameters classified.selection.dialect model) ∧
      ∀ facts, classifyWebsocket facts = .ok classified →
        ∀ facts', facts'.path = "/v1/realtime".toList → facts'.method = .get →
          facts'.query = standaloneParameters classified.selection.dialect model →
            ∃ again, classifyWebsocket facts' = .ok again ∧ again.target = .standalone model := by
  obtain ⟨path, query, hrequest, hpath, hencodes⟩ := privateRequest_standalone hprivate model
  have hhash := privateRequest_no_fragment hrequest
  rw [← htarget] at hrequest
  obtain ⟨root, hurl, hroot⟩ :=
    privateWebsocketUrl_root (undelimited_iff.mpr hbase) backendShape hrequest
  have hmark : '?' ∉ root ++ path := by
    rw [List.mem_append, not_or]
    exact ⟨(undelimited_iff.mp hroot).1, (undelimited_iff.mp hpath).1⟩
  refine ⟨root ++ (path ++ '?' :: query), query, hurl, ?_, ?_, decodeOrdered_eq_ok.mpr hencodes, ?_⟩
  · rw [← List.append_assoc, queryOf_append hmark]
  · rw [List.mem_append, not_or]
    exact ⟨(undelimited_iff.mp hroot).2, hhash⟩
  · intro facts hclassified facts' hroute hmethod hquery
    have hblank := classifyWebsocket_standalone hclassified htarget
    obtain ⟨hmodels, hcalls⟩ := standaloneParameters_model classified.selection.dialect model
    rw [← hquery] at hmodels hcalls
    have hselected : selectModel [model] = .ok model := selectModel_eq_ok.mpr ⟨rfl, hblank⟩
    refine ⟨⟨.standalone model, websocketSelection facts' .standaloneWebSocket .realtime
      ((privateDialect facts'.openaiAlpha).getD .officialGa)⟩, ?_, rfl⟩
    simp only [classifyWebsocket, classifyWebsocketTarget, hroute, hmethod, hmodels, hcalls, hselected]
    rfl

/-- A model that spells another parameter. -/
def injectingModel : Text := "a&call_id=b#%+ 한".toList

def injectingTarget : ClassifiedWebSocket :=
  ⟨.standalone injectingModel, ⟨.quicksilverV1, .standaloneWebSocket, .realtime, .managed⟩⟩

theorem injected_parameter_stays_in_the_model : ∃ url query,
    privateWebsocketUrl "https://h.test/".toList false injectingTarget = .ok url ∧
      queryOf url = some query ∧
        decodeOrdered .standard (some query) =
          .ok [("intent".toList, "quicksilver".toList), ("model".toList, injectingModel)] := by
  have hbase : '?' ∉ "https://h.test/".toList ∧ '#' ∉ "https://h.test/".toList := by decide
  have htarget : injectingTarget.target = .standalone injectingModel := rfl
  have hprivate : injectingTarget.selection.dialect ≠ .officialGa := by decide
  obtain ⟨url, query, hurl, hquery, -, hdecoded, -⟩ :=
    standalone_query_decodes .standard hbase false htarget hprivate
  exact ⟨url, query, hurl, hquery, hdecoded⟩

end GptLiveProxy
