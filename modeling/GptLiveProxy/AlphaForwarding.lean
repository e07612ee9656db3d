import GptLiveProxy.DialectSafety

/-!
# The negotiation value that is forwarded

The validators of the private routes compare the trimmed `openai-alpha` value with the literal of
the adapter; the merge forwards the value as it came and asserts that it is the literal. The two
agree exactly on values without surrounding blanks, the only ones that are forwarded literally.
-/

namespace GptLiveProxy
open CharText OrderedMultimap

def alphaText (headers : HeaderMap) : Option Text := (headers.get "openai-alpha").bind HeaderValue.toStr

/-- The negotiation value is written without surrounding blanks. -/
def AlphaUnpadded (client : HeaderMap) : Prop := ∀ text, alphaText client = some text → trim text = text

section Forwarding
variable {client out : HeaderMap} {profile : UpstreamProfile} {adapter : WireAdapter} {literal : Text}

theorem alphaText_congr {headers headers' : HeaderMap}
    (h : headers.getAll "openai-alpha" = headers'.getAll "openai-alpha") :
    alphaText headers = alphaText headers' := by
  rw [alphaText, alphaText, get_eq_head?, get_eq_head?, h]

/-- A value that is the literal when trimmed is not blank, so it is forwarded as it came. -/
theorem alphaText_forwarded (hne : literal ≠ []) (htrimmed : trimmedAlpha client = some literal) :
    ∃ text, alphaText client = some text ∧ trim text = literal ∧
      alphaText (clientProtocolHeaders client) = some text := by
  obtain ⟨text, htext, htrim⟩ := Option.map_eq_some_iff.mp htrimmed
  obtain ⟨value, hvalue, hread⟩ := Option.bind_eq_some_iff.mp htext
  refine ⟨text, htext, htrim, ?_⟩
  have hfilled : isEmpty value = false := by
    rw [isEmpty, hread, Option.any_some, htrim]
    simpa using hne
  have hsingle : singleNonEmpty client "openai-alpha" = some value :=
    singleNonEmpty_eq_some.mpr ⟨hvalue, hfilled⟩
  have hcopied : (clientProtocolHeaders client).getAll "openai-alpha" = [value] := by
    rw [clientProtocolHeaders_getAll, if_pos (by decide), protocolValues, hsingle]
    rfl
  rw [alphaText, get_eq_head?, hcopied]
  exact hread

theorem forwarded_iff_unpadded (hne : literal ≠ []) (htrimmed : trimmedAlpha client = some literal) :
    alphaText (clientProtocolHeaders client) = some literal ↔ AlphaUnpadded client := by
  obtain ⟨text, htext, htrim, hforwarded⟩ := alphaText_forwarded hne htrimmed
  rw [hforwarded, Option.some.injEq]
  constructor
  · rintro rfl text' htext'
    cases htext.symm.trans htext'
    exact htrim
  · intro hunpadded
    rw [← htrim, hunpadded text htext]

theorem alphaAgrees_iff (hliteral : adapter.openaiAlpha = some literal) (hne : literal ≠ [])
    (htrimmed : trimmedAlpha client = some literal) :
    alphaAgrees (clientProtocolHeaders client) (some adapter) = true ↔ AlphaUnpadded client := by
  obtain ⟨text, -, -, hforwarded⟩ := alphaText_forwarded hne htrimmed
  rw [← forwarded_iff_unpadded hne htrimmed, hforwarded]
  unfold alphaText at hforwarded
  simp only [alphaAgrees, hforwarded, hliteral, beq_iff_eq]

theorem mergeUpstreamHeaders_safe_iff (hliteral : adapter.openaiAlpha = some literal)
    (hne : literal ≠ []) (htrimmed : trimmedAlpha client = some literal) :
    (mergeUpstreamHeaders true client profile (some adapter)).Safe ↔ AlphaUnpadded client := by
  rw [← alphaAgrees_iff hliteral hne htrimmed]
  constructor
  · intro hsafe
    by_contra hdisagrees
    have hasserted := Outcome.Safe.of_bind hsafe
    rw [Bool.eq_false_iff.mpr hdisagrees] at hasserted
    exact hasserted rfl
  · intro hagrees
    exact mergeUpstreamHeaders_safe fun _ => hagrees

theorem mergeUpstreamHeaders_alpha {debugAssertions : Bool}
    (h : mergeUpstreamHeaders debugAssertions client profile (some adapter) = .ok out) :
    alphaText out = alphaText (clientProtocolHeaders client) := by
  obtain ⟨value, -, hall⟩ := mergeUpstreamHeaders_eq_ok h
  apply alphaText_congr
  rw [hall, clientProtocolHeaders_getAll, if_neg (by decide), if_neg (by decide)]

theorem callAdapter_literal {dialect : ApiDialect} (h : callAdapter dialect = some adapter) :
    ∃ literal, adapter.openaiAlpha = some literal ∧ literal ≠ [] := by
  cases dialect with
  | officialGa => cases h
  | quicksilverV1 => cases h; exact ⟨_, rfl, by decide⟩
  | frameless => cases h; exact ⟨_, rfl, by decide⟩

theorem targetAdapter_literal (target : SidebandTarget) :
    ∃ literal, target.adapter.openaiAlpha = some literal ∧ literal ≠ [] := by
  cases target with
  | framelessPath callId => exact ⟨_, rfl, by decide⟩
  | realtimeCallsPath callId => exact ⟨_, rfl, by decide⟩
  | realtimeQuery callId => exact ⟨_, rfl, by decide⟩

end Forwarding

theorem negotiated_alpha_forwarded_iff (client : HeaderMap) (profile : UpstreamProfile) :
    (∀ selection validated, validatePrivateCallHeaders client selection = .ok validated →
      ((buildPrivateCallHeaders true client profile validated).Safe ↔ AlphaUnpadded client) ∧
      (buildPrivateCallHeaders false client profile validated).Safe ∧
      ∀ debugAssertions out,
        buildPrivateCallHeaders debugAssertions client profile validated = .ok out →
          (alphaText out = validated.adapter.openaiAlpha ↔ AlphaUnpadded client)) ∧
    ∀ target adapter, privateAdapter client target = .ok adapter →
      validatePrivateSidebandHeaders client adapter = .ok () →
        ((mergeUpstreamHeaders true client profile (some adapter)).Safe ↔ AlphaUnpadded client) ∧
        (mergeUpstreamHeaders false client profile (some adapter)).Safe ∧
        ∀ debugAssertions out,
          mergeUpstreamHeaders debugAssertions client profile (some adapter) = .ok out →
            (alphaText out = adapter.openaiAlpha ↔ AlphaUnpadded client) := by
  constructor
  · intro selection validated hvalidated
    obtain ⟨hadapter, -, -, htrimmed⟩ := validatePrivateCallHeaders_eq_ok hvalidated
    obtain ⟨literal, hliteral, hne⟩ := callAdapter_literal hadapter
    rw [hliteral] at htrimmed
    refine ⟨⟨?_, ?_⟩, ?_, ?_⟩
    · intro hsafe
      exact (mergeUpstreamHeaders_safe_iff hliteral hne htrimmed).mp hsafe.of_bind
    · intro hunpadded
      have hagrees := (alphaAgrees_iff hliteral hne htrimmed).mpr hunpadded
      exact buildPrivateCallHeaders_safe hvalidated fun _ => hagrees
    · exact buildPrivateCallHeaders_safe hvalidated fun h => absurd h Bool.false_ne_true
    · intro debugAssertions out hout
      obtain ⟨merged, value, hmerged, -, hwrites⟩ := buildPrivateCallHeaders_eq_ok hout
      have hkept : out.getAll "openai-alpha" = merged.getAll "openai-alpha" := by
        rw [hwrites, if_neg (by decide)]
      rw [alphaText_congr hkept, mergeUpstreamHeaders_alpha hmerged, hliteral,
        forwarded_iff_unpadded hne htrimmed]
  · intro target adapter hadapter hvalidated
    obtain ⟨-, htrimmed⟩ := validatePrivateSidebandHeaders_eq_ok hvalidated
    obtain rfl := privateAdapter_eq_ok hadapter
    obtain ⟨literal, hliteral, hne⟩ := targetAdapter_literal target
    rw [hliteral] at htrimmed
    refine ⟨mergeUpstreamHeaders_safe_iff hliteral hne htrimmed, ?_, ?_⟩
    · exact mergeUpstreamHeaders_safe fun h => absurd h Bool.false_ne_true
    · intro debugAssertions out hout
      rw [mergeUpstreamHeaders_alpha hout, hliteral, forwarded_iff_unpadded hne htrimmed]

/-- A client that negotiates with the given text. -/
def negotiating (alpha : Text) : HeaderMap :=
  headersOf [("openai-alpha", alpha), ("content-type", "multipart/form-data; boundary=b".toList)]

def managedProfile : UpstreamProfile := .apiKeyManaged "https://h.test".toList ⟨"t".toList⟩

/-- A blank behind the negotiation value passes both validators and fails both assertions. -/
theorem padded_alpha_fails_assertion :
    validatePrivateCallHeaders (negotiating "quicksilver=v1 ".toList)
        ⟨.quicksilverV1, .webRtcCall, .opaqueSession, .managed⟩ = .ok ⟨.v1⟩ ∧
      buildPrivateCallHeaders true (negotiating "quicksilver=v1 ".toList) managedProfile ⟨.v1⟩ =
        .panicked ∧
      privateAdapter (negotiating "quicksilver=v1 ".toList) (.realtimeCallsPath "rtc_1".toList) =
        .ok .v1 ∧
      validatePrivateSidebandHeaders (negotiating "quicksilver=v1 ".toList) .v1 = .ok () ∧
      mergeUpstreamHeaders true (negotiating "quicksilver=v1 ".toList) managedProfile (some .v1) =
        .panicked :=
  ⟨by rfl, by rfl, by rfl, by rfl, by rfl⟩

theorem unpadded_alpha_passes_assertion :
    (buildPrivateCallHeaders true (negotiating "quicksilver=v1".toList) managedProfile ⟨.v1⟩).Safe := by
  have hvalidated : validatePrivateCallHeaders (negotiating "quicksilver=v1".toList)
      ⟨.quicksilverV1, .webRtcCall, .opaqueSession, .managed⟩ = .ok ⟨.v1⟩ := by rfl
  have hiff := ((negotiated_alpha_forwarded_iff _ managedProfile).1 _ _ hvalidated).1
  apply hiff.mpr
  intro text htext
  obtain rfl : text = "quicksilver=v1".toList :=
    (Option.some.inj (htext.symm.trans (by rfl : alphaText (negotiating "quicksilver=v1".toList) = _)))
  rfl

end GptLiveProxy
