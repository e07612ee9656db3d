import GptLiveProxy.LiveHeaders
import GptLiveProxy.SessionEvidence
import Mathlib.Algebra.BigOperators.Ring.List
import Mathlib.Algebra.Order.BigOperators.Group.List
import Mathlib.Algebra.Order.Ring.Nat

/-!
# Session shapes of the three adapters

Each shape is a record and the JSON value it serializes to. A frameless session has no `type`
field, so its body has no top-level `type`; a V1 session has one with a single value; a realtime
session passes a map of further members through, from which the reserved key is stripped first.
The initial items of a frameless session are within the documented limits by construction.
-/

namespace GptLiveProxy
open CharText Json

/-- Bytes for each estimated token, not characters. -/
def APPROX_BYTES_PER_TOKEN : Nat := 4

def MAX_INITIAL_ITEMS : Nat := 128

def MAX_ESTIMATED_TOKENS_PER_ITEM : Nat := 8192

def MAX_ESTIMATED_TOKENS_TOTAL : Nat := 8192

inductive SessionError
  | tooManyItems (count : Nat)
  | itemTooLarge
  | totalTooLarge
deriving DecidableEq

section Items

inductive Role
  | user
  | developer
  | assistant
deriving DecidableEq

def Role.asStr : Role → Text
  | .user => "user".toList
  | .developer => "developer".toList
  | .assistant => "assistant".toList

/-- `user` and `developer` are inputs; `assistant` is output. -/
def Role.contentType : Role → Text
  | .user | .developer => "input_text".toList
  | .assistant => "output_text".toList

structure InitialItemContent where
  contentType : Text
  text : Text

structure InitialItem where
  itemType : Text
  role : Text
  content : List InitialItemContent

def InitialItem.fromMessage (role : Role) (text : Text) : InitialItem where
  itemType := "message".toList
  role := role.asStr
  content := [⟨role.contentType, text⟩]

def InitialItemContent.estimatedTokens (content : InitialItemContent) : Nat :=
  (byteLen content.text + (APPROX_BYTES_PER_TOKEN - 1)) / APPROX_BYTES_PER_TOKEN

def InitialItem.estimatedTokens (item : InitialItem) : Nat :=
  (item.content.map InitialItemContent.estimatedTokens).sum

def estimatedTotal (items : List InitialItem) : Nat :=
  (items.map InitialItem.estimatedTokens).sum

/-- The bytes of all the texts of an item. -/
def InitialItem.textBytes (item : InitialItem) : Nat :=
  (item.content.map fun content => byteLen content.text).sum

def textBytes (items : List InitialItem) : Nat := (items.map InitialItem.textBytes).sum

/-- The loop over the items: each of them is checked, the total saturates. -/
def tallyItems (total : Nat) : List InitialItem → Except SessionError Nat
  | [] => .ok total
  | item :: items =>
    if item.estimatedTokens > MAX_ESTIMATED_TOKENS_PER_ITEM then .error .itemTooLarge
    else tallyItems (min (total + item.estimatedTokens) USIZE_MAX) items

/-- What the documented limits leave of a list that is serialized. -/
structure Limited (items : List InitialItem) : Prop where
  nonempty : items ≠ []
  count : items.length ≤ MAX_INITIAL_ITEMS
  total : estimatedTotal items ≤ MAX_ESTIMATED_TOKENS_TOTAL

abbrev InitialItems := {items : List InitialItem // Limited items}

theorem estimatedTotal_cons (item : InitialItem) (items : List InitialItem) :
    estimatedTotal (item :: items) = item.estimatedTokens + estimatedTotal items := by
  rw [estimatedTotal, estimatedTotal, List.map_cons, List.sum_cons]

theorem estimatedTokens_le_total {items : List InitialItem} {item : InitialItem}
    (h : item ∈ items) : item.estimatedTokens ≤ estimatedTotal items :=
  List.single_le_sum (fun _ _ => Nat.zero_le _) _ (List.mem_map_of_mem h)

/-- The loop fails at the first item over its limit, and counts them all otherwise. -/
theorem tallyItems_eq {total : Nat} (htotal : total ≤ USIZE_MAX) (items : List InitialItem) :
    tallyItems total items =
      if ∀ item ∈ items, item.estimatedTokens ≤ MAX_ESTIMATED_TOKENS_PER_ITEM then
        .ok (min (total + estimatedTotal items) USIZE_MAX)
      else .error .itemTooLarge := by
  induction items generalizing total with
  | nil =>
    have hmin : min total USIZE_MAX = total := Nat.min_eq_left htotal
    simp [tallyItems, estimatedTotal, hmin]
  | cons item items ih =>
    rw [tallyItems]
    by_cases hitem : item.estimatedTokens > MAX_ESTIMATED_TOKENS_PER_ITEM
    · have hsome : ¬∀ other ∈ item :: items,
          other.estimatedTokens ≤ MAX_ESTIMATED_TOKENS_PER_ITEM := by
        intro hall
        have := hall item List.mem_cons_self
        omega
      rw [if_pos hitem, if_neg hsome]
    · have hsum : min (min (total + item.estimatedTokens) USIZE_MAX + estimatedTotal items)
          USIZE_MAX = min (total + estimatedTotal (item :: items)) USIZE_MAX := by
        rw [estimatedTotal_cons]
        omega
      rw [if_neg hitem, ih (Nat.min_le_right _ _), hsum]
      have hcons : (∀ other ∈ item :: items,
          other.estimatedTokens ≤ MAX_ESTIMATED_TOKENS_PER_ITEM) ↔
          ∀ other ∈ items, other.estimatedTokens ≤ MAX_ESTIMATED_TOKENS_PER_ITEM := by
        rw [List.forall_mem_cons]
        exact and_iff_right (by omega)
      simp only [hcons]

/-- What passes the loop and the check after it was not cut off by the saturation. -/
theorem estimatedTotal_le_of_tally {items : List InitialItem} {total : Nat}
    (htally : tallyItems 0 items = .ok total) (h : ¬total > MAX_ESTIMATED_TOKENS_TOTAL) :
    estimatedTotal items ≤ MAX_ESTIMATED_TOKENS_TOTAL := by
  rw [tallyItems_eq (Nat.zero_le _)] at htally
  split at htally
  · have hmin : min (0 + estimatedTotal items) USIZE_MAX = total := Except.ok.inj htally
    have hroom : MAX_ESTIMATED_TOKENS_TOTAL < USIZE_MAX := by decide
    omega
  · cases htally

theorem InitialItemContent.byteLen_le (content : InitialItemContent) :
    byteLen content.text ≤ APPROX_BYTES_PER_TOKEN * content.estimatedTokens := by
  unfold estimatedTokens APPROX_BYTES_PER_TOKEN
  omega

theorem InitialItem.textBytes_le (item : InitialItem) :
    item.textBytes ≤ APPROX_BYTES_PER_TOKEN * item.estimatedTokens := by
  unfold textBytes estimatedTokens
  rw [← List.sum_map_mul_left]
  exact List.sum_le_sum fun content _ => content.byteLen_le

example : (InitialItem.fromMessage .user ['가', '가']).estimatedTokens = 2 := by decide

theorem textBytes_le (items : List InitialItem) :
    textBytes items ≤ APPROX_BYTES_PER_TOKEN * estimatedTotal items := by
  unfold textBytes estimatedTotal
  rw [← List.sum_map_mul_left]
  exact List.sum_le_sum fun item _ => item.textBytes_le

end Items

section Frameless

/-- This `type` lives inside `delegation`; it is not a session type. -/
structure Delegation where
  kind : Text

def Delegation.default : Delegation := ⟨"client".toList⟩

structure FramelessAudioOutput where
  voice : Text

structure FramelessAudio where
  output : FramelessAudioOutput

/-- There is no `type` field. -/
structure FramelessSession where
  audio : FramelessAudio
  delegation : Delegation
  instructions : Text
  model : Option Text
  initialItems : Option InitialItems

namespace FramelessSession

def new (instructions voice : Text) : FramelessSession where
  audio := ⟨⟨voice⟩⟩
  delegation := Delegation.default
  instructions := instructions
  model := none
  initialItems := none

def withModel (session : FramelessSession) (model : Text) : FramelessSession :=
  { session with model := some model }

/-- An empty list is left out, not serialized as an empty array. -/
def withInitialItems (session : FramelessSession) (items : List InitialItem) :
    Except SessionError FramelessSession :=
  if hempty : items = [] then .ok { session with initialItems := none }
  else if hcount : items.length > MAX_INITIAL_ITEMS then .error (.tooManyItems items.length)
  else
    match htally : tallyItems 0 items with
    | .error error => .error error
    | .ok total =>
      if htotal : total > MAX_ESTIMATED_TOKENS_TOTAL then .error .totalTooLarge
      else .ok { session with
        initialItems := some ⟨items, hempty, by omega, estimatedTotal_le_of_tally htally htotal⟩ }

end FramelessSession

/-- The list keeps every limit. -/
def WithinLimits (items : List InitialItem) : Prop :=
  items.length ≤ MAX_INITIAL_ITEMS ∧ estimatedTotal items ≤ MAX_ESTIMATED_TOKENS_TOTAL

/-- The limit that an error reports is the first one the list breaks. -/
def SessionError.Explains (items : List InitialItem) : SessionError → Prop
  | .tooManyItems count => count = items.length ∧ MAX_INITIAL_ITEMS < items.length
  | .itemTooLarge => items.length ≤ MAX_INITIAL_ITEMS ∧
      ∃ item ∈ items, MAX_ESTIMATED_TOKENS_PER_ITEM < item.estimatedTokens
  | .totalTooLarge => items.length ≤ MAX_INITIAL_ITEMS ∧
      (∀ item ∈ items, item.estimatedTokens ≤ MAX_ESTIMATED_TOKENS_PER_ITEM) ∧
      MAX_ESTIMATED_TOKENS_TOTAL < estimatedTotal items

/-- The session carries the items, and is the given one otherwise. -/
def FramelessSession.Carries (session given : FramelessSession) (items : List InitialItem) : Prop :=
  (session.initialItems.map Subtype.val).getD [] = items ∧
    session.initialItems.map Subtype.val ≠ some [] ∧
    { session with initialItems := given.initialItems } = given

/-- A list within the total is never refused for one of its items. -/
theorem WithinLimits.each {items : List InitialItem} (h : WithinLimits items) :
    ∀ item ∈ items, item.estimatedTokens ≤ MAX_ESTIMATED_TOKENS_PER_ITEM :=
  fun _ hmem => (estimatedTokens_le_total hmem).trans h.2

theorem SessionError.Explains.not_within {items : List InitialItem} {error : SessionError}
    (h : error.Explains items) : ¬WithinLimits items := by
  intro hwithin
  cases error with
  | tooManyItems count => exact absurd hwithin.1 (Nat.not_le.2 h.2)
  | itemTooLarge =>
    obtain ⟨item, hmem, hlarge⟩ := h.2
    exact absurd (hwithin.each item hmem) (Nat.not_le.2 hlarge)
  | totalTooLarge => exact absurd hwithin.2 (Nat.not_le.2 h.2.2)

/-- No two errors explain one refusal. -/
theorem SessionError.Explains.unique {items : List InitialItem} {error other : SessionError}
    (h : error.Explains items) (hother : other.Explains items) : error = other := by
  cases error with
  | tooManyItems count =>
    cases other with
    | tooManyItems other => rw [h.1, hother.1]
    | itemTooLarge => exact absurd hother.1 (Nat.not_le.2 h.2)
    | totalTooLarge => exact absurd hother.1 (Nat.not_le.2 h.2)
  | itemTooLarge =>
    obtain ⟨item, hmem, hlarge⟩ := h.2
    cases other with
    | tooManyItems other => exact absurd h.1 (Nat.not_le.2 hother.2)
    | itemTooLarge => rfl
    | totalTooLarge => exact absurd (hother.2.1 item hmem) (Nat.not_le.2 hlarge)
  | totalTooLarge =>
    cases other with
    | tooManyItems other => exact absurd h.1 (Nat.not_le.2 hother.2)
    | itemTooLarge =>
      obtain ⟨item, hmem, hlarge⟩ := hother.2
      exact absurd (h.2.1 item hmem) (Nat.not_le.2 hlarge)
    | totalTooLarge => rfl

/-- One of the two outcomes, each with what it says of the list. -/
theorem FramelessSession.withInitialItems_cases (session : FramelessSession)
    (items : List InitialItem) :
    (∃ built, session.withInitialItems items = .ok built ∧ WithinLimits items ∧
      built.Carries session items) ∨
    ∃ error, session.withInitialItems items = .error error ∧ error.Explains items := by
  unfold withInitialItems
  split
  · rename_i hempty
    subst hempty
    exact .inl ⟨_, rfl, ⟨Nat.zero_le _, Nat.zero_le _⟩, rfl, by simp, rfl⟩
  rename_i hempty
  split
  · rename_i hcount
    exact .inr ⟨_, rfl, rfl, hcount⟩
  rename_i hcount
  split
  · rename_i error htally
    rw [tallyItems_eq (Nat.zero_le _)] at htally
    split at htally
    · cases htally
    · rename_i hsome
      cases htally
      push Not at hsome
      exact .inr ⟨_, rfl, Nat.not_lt.1 hcount, hsome⟩
  rename_i total htally
  split
  · rename_i htotal
    rw [tallyItems_eq (Nat.zero_le _)] at htally
    split at htally
    · rename_i hall
      have hmin : min (0 + estimatedTotal items) USIZE_MAX = total := Except.ok.inj htally
      exact .inr ⟨_, rfl, Nat.not_lt.1 hcount, hall, by omega⟩
    · cases htally
  · rename_i htotal
    have hwithin := estimatedTotal_le_of_tally htally htotal
    exact .inl ⟨_, rfl, ⟨Nat.not_lt.1 hcount, hwithin⟩, rfl, by simpa using hempty, rfl⟩

/-- Initial items are attached exactly when the list keeps the limits on its length and on its
estimated tokens; the session then carries them, in at most four bytes of text a token, and no
session carries an empty list. A refusal reports the first limit that the list breaks. -/
theorem initial_items_are_limited (session : FramelessSession) (items : List InitialItem) :
    ((∃ built, session.withInitialItems items = .ok built) ↔ WithinLimits items) ∧
      (∀ built, session.withInitialItems items = .ok built → built.Carries session items ∧
        textBytes items ≤ APPROX_BYTES_PER_TOKEN * MAX_ESTIMATED_TOKENS_TOTAL) ∧
      ∀ error, session.withInitialItems items = .error error ↔ error.Explains items := by
  obtain ⟨built, hok, hwithin, hcarries⟩ | ⟨error, herror, hexplains⟩ :=
    session.withInitialItems_cases items
  · refine ⟨⟨fun _ => hwithin, fun _ => ⟨built, hok⟩⟩, ?_, ?_⟩
    · intro other hother
      cases hok.symm.trans hother
      exact ⟨hcarries, (textBytes_le items).trans (Nat.mul_le_mul_left _ hwithin.2)⟩
    · intro error
      constructor
      · intro herror
        cases hok.symm.trans herror
      · intro hexplains
        exact absurd hwithin hexplains.not_within
  · refine ⟨⟨?_, fun hwithin => absurd hwithin hexplains.not_within⟩, ?_, ?_⟩
    · rintro ⟨built, hok⟩
      cases herror.symm.trans hok
    · intro built hok
      cases herror.symm.trans hok
    · intro other
      constructor
      · intro hother
        cases herror.symm.trans hother
        exact hexplains
      · intro hother
        rw [herror, hexplains.unique hother]

end Frameless

section Adapters

/-- The only value is serialized as `quicksilver`. -/
inductive V1SessionType
  | quicksilver
deriving DecidableEq

def V1SessionType.asStr : V1SessionType → Text
  | .quicksilver => "quicksilver".toList

structure V1AudioFormat where
  formatType : Text
  rate : UInt32

structure V1AudioInput where
  format : V1AudioFormat

structure V1AudioOutput where
  format : Option V1AudioFormat
  voice : Text

structure V1Audio where
  input : V1AudioInput
  output : Option V1AudioOutput

def REALTIME_AUDIO_SAMPLE_RATE : UInt32 := 24000

structure V1Session where
  sessionType : V1SessionType
  id : Option Text
  model : Option Text
  instructions : Option Text
  outputModalities : Option (List Text)
  audio : V1Audio
  tools : Option (List Value)
  toolChoice : Option Value

def V1Session.new (instructions voice : Text) : V1Session where
  sessionType := .quicksilver
  id := none
  model := none
  instructions := some instructions
  outputModalities := none
  audio := ⟨⟨⟨"audio_pcm".toList, REALTIME_AUDIO_SAMPLE_RATE⟩⟩, some ⟨none, voice⟩⟩
  tools := none
  toolChoice := none

inductive RealtimeV2Type
  | realtime
  | transcription
deriving DecidableEq

def RealtimeV2Type.asStr : RealtimeV2Type → Text
  | .realtime => "realtime".toList
  | .transcription => "transcription".toList

/-- The keys that the passed map may not set. -/
def RESERVED_KEYS : List Text := ["type".toList]

/-- The type, and the members passed through beside it. -/
structure RealtimeV2Session where
  sessionType : RealtimeV2Type
  rest : Members Text Value
  unreserved : ∀ key ∈ RESERVED_KEYS, rest.get key = none

def RealtimeV2Session.new (sessionType : RealtimeV2Type) (rest : Members Text Value) :
    RealtimeV2Session :=
  ⟨sessionType, RESERVED_KEYS.foldl Members.remove rest,
    List.forall_mem_singleton.2 (rest.get_remove_self "type".toList)⟩

end Adapters

section Serialization

def InitialItemContent.toValue (content : InitialItemContent) : Value :=
  .object ((Members.empty.insert "type".toList (.string content.contentType)).insert
    "text".toList (.string content.text))

def InitialItem.toValue (item : InitialItem) : Value :=
  .object (((Members.empty.insert "type".toList (.string item.itemType)).insert
    "role".toList (.string item.role)).insert
    "content".toList (.array (item.content.map InitialItemContent.toValue)))

def Delegation.toValue (delegation : Delegation) : Value :=
  .object (Members.empty.insert "type".toList (.string delegation.kind))

def FramelessAudio.toValue (audio : FramelessAudio) : Value :=
  .object (Members.empty.insert "output".toList
    (.object (Members.empty.insert "voice".toList (.string audio.output.voice))))

def FramelessSession.members (session : FramelessSession) : Members Text Value :=
  ((((Members.empty.insert "audio".toList session.audio.toValue).insert
    "delegation".toList session.delegation.toValue).insert
    "instructions".toList (.string session.instructions)).insertSome
    "model".toList (session.model.map .string)).insertSome
    "initial_items".toList
      (session.initialItems.map fun items => .array (items.1.map InitialItem.toValue))

def V1AudioFormat.toValue (format : V1AudioFormat) : Value :=
  .object ((Members.empty.insert "type".toList (.string format.formatType)).insert
    "rate".toList (.number (.posInt format.rate.toUInt64)))

def V1AudioOutput.toValue (output : V1AudioOutput) : Value :=
  .object ((Members.empty.insertSome "format".toList (output.format.map V1AudioFormat.toValue)).insert
    "voice".toList (.string output.voice))

def V1Audio.toValue (audio : V1Audio) : Value :=
  .object ((Members.empty.insert "input".toList
    (.object (Members.empty.insert "format".toList audio.input.format.toValue))).insertSome
    "output".toList (audio.output.map V1AudioOutput.toValue))

def V1Session.members (session : V1Session) : Members Text Value :=
  (((((((Members.empty.insert "type".toList (.string session.sessionType.asStr)).insertSome
    "id".toList (session.id.map .string)).insertSome
    "model".toList (session.model.map .string)).insertSome
    "instructions".toList (session.instructions.map .string)).insertSome
    "output_modalities".toList
      (session.outputModalities.map fun modalities => .array (modalities.map .string))).insert
    "audio".toList session.audio.toValue).insertSome
    "tools".toList (session.tools.map .array)).insertSome
    "tool_choice".toList session.toolChoice

/-- The type is written first, the members of the map after it. -/
def RealtimeV2Session.members (session : RealtimeV2Session) : Members Text Value :=
  (Members.empty.insert "type".toList (.string session.sessionType.asStr)).extend session.rest

/-- The map cannot replace the type, and every other member of the body is the map's own. -/
theorem RealtimeV2Session.get_members (session : RealtimeV2Session) (key : Text) :
    session.members.get key =
      if key = "type".toList then some (.string session.sessionType.asStr)
      else session.rest.get key := by
  rw [members, Members.get_extend]
  by_cases hkey : key = "type".toList
  · have hfree := session.unreserved _ (List.mem_singleton_self "type".toList)
    rw [if_pos hkey, hkey, hfree, Option.none_or, Members.get_insert_self]
  · rw [if_neg hkey, Members.get_insert_of_ne _ "type".toList hkey, Members.get_empty,
      Option.or_none]

theorem FramelessSession.get_members_type (session : FramelessSession) :
    session.members.get "type".toList = none := by
  rw [members, Members.get_insertSome_of_ne _ _ (by decide),
    Members.get_insertSome_of_ne _ _ (by decide), Members.get_insert_of_ne _ _ (by decide),
    Members.get_insert_of_ne _ _ (by decide), Members.get_insert_of_ne _ _ (by decide),
    Members.get_empty]

theorem FramelessSession.get_members_delegation (session : FramelessSession) :
    session.members.get "delegation".toList = some session.delegation.toValue := by
  rw [members, Members.get_insertSome_of_ne _ _ (by decide),
    Members.get_insertSome_of_ne _ _ (by decide), Members.get_insert_of_ne _ _ (by decide),
    Members.get_insert_self]

theorem V1Session.get_members_type (session : V1Session) :
    session.members.get "type".toList = some (.string "quicksilver".toList) := by
  rw [members, Members.get_insertSome_of_ne _ _ (by decide),
    Members.get_insertSome_of_ne _ _ (by decide), Members.get_insert_of_ne _ _ (by decide),
    Members.get_insertSome_of_ne _ _ (by decide), Members.get_insertSome_of_ne _ _ (by decide),
    Members.get_insertSome_of_ne _ _ (by decide), Members.get_insertSome_of_ne _ _ (by decide),
    Members.get_insert_self]
  cases session.sessionType
  rfl

theorem V1Session.get_members_delegation (session : V1Session) :
    session.members.get "delegation".toList = none := by
  rw [members, Members.get_insertSome_of_ne _ _ (by decide),
    Members.get_insertSome_of_ne _ _ (by decide), Members.get_insert_of_ne _ _ (by decide),
    Members.get_insertSome_of_ne _ _ (by decide), Members.get_insertSome_of_ne _ _ (by decide),
    Members.get_insertSome_of_ne _ _ (by decide), Members.get_insertSome_of_ne _ _ (by decide),
    Members.get_insert_of_ne _ _ (by decide), Members.get_empty]

end Serialization

section Dialects

/-- A session of one of the adapters. -/
inductive AdapterSession
  | v1 (session : V1Session)
  | frameless (session : FramelessSession)
  | realtimeV2 (session : RealtimeV2Session)

def AdapterSession.members : AdapterSession → Members Text Value
  | .v1 session => session.members
  | .frameless session => session.members
  | .realtimeV2 session => session.members

/-- The adapter whose shape the session has. -/
def AdapterSession.adapter : AdapterSession → WireAdapter
  | .v1 _ => .v1
  | .frameless _ => .framelessBidi
  | .realtimeV2 _ => .realtimeV2

/-- A WebRTC call is made by the two private adapters only. -/
def WireAdapter.allowsWebrtc (adapter : WireAdapter) : Bool := adapter != .realtimeV2

def AdapterSession.toValue (session : AdapterSession) : Value := .object session.members

/-- The dialect of the calls a session is made for; an official one is made for no private call. -/
def AdapterSession.ownDialect : AdapterSession → Option ApiDialect
  | .v1 _ => some .quicksilverV1
  | .frameless _ => some .frameless
  | .realtimeV2 _ => none

/-- The delegation is the only marker of a frameless session, and only the client's is one. -/
def AdapterSession.Unmarked : AdapterSession → Prop
  | .v1 _ => False
  | .frameless session => session.delegation.kind ≠ "client".toList
  | .realtimeV2 _ => False

theorem FramelessSession.evidence (session : FramelessSession) :
    objectEvidence session.members =
      if session.delegation.kind = "client".toList then .frameless else .opaqueSession := by
  have hmarker : framelessMarker session.members =
      (some session.delegation.kind == some "client".toList) := by
    rw [framelessMarker, session.get_members_delegation]
    rfl
  have htype : session.members.containsKey "type".toList = false := by
    rw [← Members.isSome_get, session.get_members_type, Option.isSome_none]
  rw [objectEvidence, hmarker, htype, session.get_members_type]
  by_cases hclient : session.delegation.kind = "client".toList
  · rw [if_pos hclient, hclient, if_pos (beq_self_eq_true _)]
    rfl
  · rw [if_neg hclient, if_neg (by simpa using hclient)]
    rfl

theorem V1Session.evidence (session : V1Session) :
    objectEvidence session.members = .quicksilver := by
  have hmarker : framelessMarker session.members = false := by
    rw [framelessMarker, session.get_members_delegation]
    rfl
  rw [objectEvidence, hmarker, session.get_members_type]
  rfl

/-- With a client delegation among the members the official type makes the session contradictory. -/
theorem RealtimeV2Session.evidence (session : RealtimeV2Session) :
    objectEvidence session.members =
      if framelessMarker session.members then .contradictory
      else match session.sessionType with
        | .realtime => .officialRealtime
        | .transcription => .officialTranscription := by
  have htype : session.members.get "type".toList = some (.string session.sessionType.asStr) :=
    session.get_members "type".toList
  have hkey : session.members.containsKey "type".toList = true := by
    rw [← Members.isSome_get, htype, Option.isSome_some]
  rw [objectEvidence, hkey, htype]
  cases session.sessionType with
  | realtime => rfl
  | transcription => rfl

theorem AdapterSession.compatible_iff (session : AdapterSession) (dialect : ApiDialect) :
    (objectEvidence session.members).Compatible dialect ↔
      session.ownDialect = some dialect ∨ session.Unmarked := by
  cases session with
  | v1 session =>
    rw [members, session.evidence]
    cases dialect <;>
      simp [SessionEvidence.Compatible, SessionEvidence.ofDialect, ownDialect, Unmarked]
  | frameless session =>
    rw [members, session.evidence]
    by_cases hclient : session.delegation.kind = "client".toList
    · rw [if_pos hclient]
      cases dialect <;>
        simp [SessionEvidence.Compatible, SessionEvidence.ofDialect, ownDialect, Unmarked, hclient]
    · rw [if_neg hclient]
      exact ⟨fun _ => .inr hclient, fun _ => .inr (.inl rfl)⟩
  | realtimeV2 session =>
    have hforeign : ¬ (ownDialect (.realtimeV2 session) = some dialect ∨
        Unmarked (.realtimeV2 session)) := by simp [ownDialect, Unmarked]
    rw [members, session.evidence, iff_false_right hforeign]
    intro hcompatible
    obtain ⟨hrealtime, htranscription, hcontradictory, -⟩ := hcompatible.excluded
    split at hcontradictory
    · exact hcontradictory rfl
    · rename_i hmarker
      rw [if_neg hmarker] at hrealtime htranscription
      cases hkind : session.sessionType with
      | realtime => exact hrealtime (by rw [hkind])
      | transcription => exact htranscription (by rw [hkind])

/-- The two version axes meet again: what an adapter negotiates is the dialect of its sessions. -/
theorem AdapterSession.ownDialect_negotiated (session : AdapterSession) :
    (session.ownDialect = some ((privateDialect session.adapter.openaiAlpha).getD .officialGa) ∨
      session.Unmarked) ↔ session.adapter.allowsWebrtc = true := by
  cases session with
  | v1 session => exact ⟨fun _ => rfl, fun _ => .inl rfl⟩
  | frameless session => exact ⟨fun _ => rfl, fun _ => .inl rfl⟩
  | realtimeV2 session => simp [ownDialect, Unmarked, adapter, WireAdapter.allowsWebrtc]

/-- The session of a backend body, as its receiver reads it, is accepted in its own dialect and in
no other, whatever map a realtime session passes through and although the builder strips the `id`;
only a frameless session whose delegation is not the client's is accepted in every dialect. In the
dialect that the adapter itself negotiates by its `openai-alpha` value a session is accepted exactly
when the adapter may make WebRTC calls. -/
theorem sent_sessions_keep_their_dialect (session : AdapterSession) (sdp : Text) :
    (∀ dialect, validateSession dialect (classifySession
        ((backendJsonCallBody sdp (some session.toValue)).child (.key "session".toList))) = .ok () ↔
      session.ownDialect = some dialect ∨ session.Unmarked) ∧
      (validateSession ((privateDialect session.adapter.openaiAlpha).getD .officialGa)
        (classifySession
          ((backendJsonCallBody sdp (some session.toValue)).child (.key "session".toList))) =
            .ok () ↔
        session.adapter.allowsWebrtc = true) := by
  have hclassify : classifySession (some session.toValue) = objectEvidence session.members := rfl
  have hdialect (dialect : ApiDialect) : validateSession dialect (classifySession
      ((backendJsonCallBody sdp (some session.toValue)).child (.key "session".toList))) = .ok () ↔
        session.ownDialect = some dialect ∨ session.Unmarked := by
    rw [(backendJsonCallBody_child sdp _).2, classifySession_sanitized, validateSession_eq_ok,
      hclassify]
    exact session.compatible_iff dialect
  refine ⟨hdialect, ?_⟩
  rw [hdialect]
  exact session.ownDialect_negotiated

end Dialects

end GptLiveProxy
