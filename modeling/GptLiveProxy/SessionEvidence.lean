import GptLiveProxy.Contract
import GptLiveProxy.Json

/-!
# Session evidence of a private call

`classifySession` reads the markers of a session whose meaning is known; absent and unknown shapes
stay compatible with both private dialects. The body builders strip the top-level `id`, which is
not a marker: the verdict on the value that was parsed is the verdict on the value that is sent.
-/

namespace GptLiveProxy
open CharText Json

inductive SessionEvidence
  | absent
  | opaqueSession
  | quicksilver
  | frameless
  | officialRealtime
  | officialTranscription
  | contradictory
deriving DecidableEq

inductive SessionEvidenceError
  | invalidShape
  | officialRealtime
  | officialTranscription
deriving DecidableEq

section Classification

def framelessMarker (object : Members Text Value) : Bool :=
  ((((object.get "delegation".toList).bind Value.asObject).bind (·.get "type".toList)).bind
    Value.asStr) == some "client".toList

def typeEvidence (kind : Text) : SessionEvidence :=
  if kind = "quicksilver".toList then .quicksilver
  else if kind = "realtime".toList then .officialRealtime
  else if kind = "transcription".toList then .officialTranscription
  else .opaqueSession

/-- A frameless session has no top-level `type`, not even an unknown one. -/
def objectEvidence (object : Members Text Value) : SessionEvidence :=
  if framelessMarker object then
    if object.containsKey "type".toList then .contradictory else .frameless
  else ((object.get "type".toList).bind Value.asStr).elim .opaqueSession typeEvidence

def classifySession : Option Value → SessionEvidence
  | none => .absent
  | some session => session.asObject.elim .opaqueSession objectEvidence

def validateSession (dialect : ApiDialect) (evidence : SessionEvidence) :
    Except SessionEvidenceError Unit :=
  match evidence with
  | .absent | .opaqueSession => .ok ()
  | .quicksilver => if dialect = .quicksilverV1 then .ok () else .error .invalidShape
  | .frameless => if dialect = .frameless then .ok () else .error .invalidShape
  | .officialRealtime => .error .officialRealtime
  | .officialTranscription => .error .officialTranscription
  | .contradictory => .error .invalidShape

end Classification

section Rewriting

def stripSessionId : Value → Value
  | .object members => .object (members.remove "id".toList)
  | session => session

/-- The value that is sent; the caller's own is left alone. -/
def sanitized (session : Value) : Value := stripSessionId session

/-- The backend JSON body, as the value that is serialized. -/
def backendJsonCallBody (sdp : Text) (session : Option Value) : Value :=
  match session.map sanitized with
  | some session =>
    .object ((Members.empty.insert "sdp".toList (.string sdp)).insert "session".toList session)
  | none => .object (Members.empty.insert "sdp".toList (.string sdp))

end Rewriting

/-- The evidence that a session of the dialect itself carries. -/
def SessionEvidence.ofDialect : ApiDialect → Option SessionEvidence
  | .officialGa => none
  | .quicksilverV1 => some .quicksilver
  | .frameless => some .frameless

/-- No marker speaks against the dialect. -/
def SessionEvidence.Compatible (evidence : SessionEvidence) (dialect : ApiDialect) : Prop :=
  evidence = .absent ∨ evidence = .opaqueSession ∨ SessionEvidence.ofDialect dialect = some evidence

theorem validateSession_eq_ok {dialect : ApiDialect} {evidence : SessionEvidence} :
    validateSession dialect evidence = .ok () ↔ evidence.Compatible dialect := by
  cases evidence <;> cases dialect <;>
    simp [validateSession, SessionEvidence.Compatible, SessionEvidence.ofDialect]

theorem SessionEvidence.ofDialect_injective {evidence : SessionEvidence} {dialect other : ApiDialect}
    (h : ofDialect dialect = some evidence) (hother : ofDialect other = some evidence) :
    other = dialect := by
  cases dialect <;> cases other <;> cases h <;> first | rfl | cases hother

theorem SessionEvidence.Compatible.excluded {evidence : SessionEvidence} {dialect : ApiDialect}
    (h : evidence.Compatible dialect) :
    evidence ≠ .officialRealtime ∧ evidence ≠ .officialTranscription ∧ evidence ≠ .contradictory ∧
      ∀ other, other ≠ dialect → SessionEvidence.ofDialect other ≠ some evidence := by
  obtain rfl | rfl | hown := h
  · refine ⟨by simp, by simp, by simp, fun other _ hother => ?_⟩
    cases other <;> cases hother
  · refine ⟨by simp, by simp, by simp, fun other _ hother => ?_⟩
    cases other <;> cases hother
  · refine ⟨?_, ?_, ?_, fun other hne hother => hne (ofDialect_injective hown hother)⟩
    · rintro rfl
      cases dialect <;> cases hown
    · rintro rfl
      cases dialect <;> cases hown
    · rintro rfl
      cases dialect <;> cases hown

section Stripped

theorem sanitized_asObject (session : Value) :
    (sanitized session).asObject = session.asObject.map (·.remove "id".toList) := by
  cases session <;> rfl

theorem sanitized_child (session : Value) {step : Step} (h : step ≠ .key "id".toList) :
    (sanitized session).child step = session.child step := by
  cases session with
  | object members =>
    cases step with
    | key name => exact members.get_remove_of_ne _ fun hname => h (by rw [hname])
    | index i => rfl
  | _ => rfl

theorem sanitized_lookup (session : Value) {step : Step} (h : step ≠ .key "id".toList)
    (path : List Step) :
    (sanitized session).lookup (step :: path) = session.lookup (step :: path) := by
  rw [Value.lookup, Value.lookup, sanitized_child session h]

theorem sanitized_id (session : Value) : (sanitized session).child (.key "id".toList) = none := by
  cases session with
  | object members => exact members.get_remove_self _
  | _ => rfl

/-- All of a session but its top-level `id`. -/
structure LosesId (session sent : Value) : Prop where
  gone : sent.child (.key "id".toList) = none
  kept : ∀ step path, step ≠ .key "id".toList →
    sent.lookup (step :: path) = session.lookup (step :: path)
  shape : sent.asObject.isSome = session.asObject.isSome
  plain : session.asObject = none → sent = session

theorem sanitized_losesId (session : Value) : LosesId session (sanitized session) := by
  refine ⟨sanitized_id session, fun _ path hstep => sanitized_lookup session hstep path, ?_, ?_⟩
  · rw [sanitized_asObject, Option.isSome_map]
  · intro hplain
    cases session with
    | object members => cases hplain
    | _ => rfl

/-- Two values that keep the same of a session are one. -/
theorem LosesId.unique {session sent other : Value} (h : LosesId session sent)
    (hother : LosesId session other) : sent = other := by
  cases hobject : session.asObject with
  | none => rw [h.plain hobject, hother.plain hobject]
  | some members =>
    obtain ⟨sentMembers, hsent⟩ := Option.isSome_iff_exists.mp (h.shape.trans (by rw [hobject]; rfl))
    obtain ⟨otherMembers, hothers⟩ :=
      Option.isSome_iff_exists.mp (hother.shape.trans (by rw [hobject]; rfl))
    obtain rfl := Value.asObject_eq_some.mp hsent
    obtain rfl := Value.asObject_eq_some.mp hothers
    congr 1
    apply Members.eq_of_get
    intro key
    by_cases hkey : key = "id".toList
    · subst hkey
      exact h.gone.trans hother.gone.symm
    · have hstep : Step.key key ≠ .key "id".toList := fun heq => hkey (Step.key.inj heq)
      have hchild := (h.kept _ [] hstep).trans (hother.kept _ [] hstep).symm
      simpa [Value.lookup, Value.child] using hchild

def sessionWithId : Value := .object
  ((Members.empty.insert "id".toList (.string "s_1".toList)).insert "type".toList
    (.string "quicksilver".toList))

def quicksilverSession : Value :=
  .object (Members.empty.insert "type".toList (.string "quicksilver".toList))

theorem sanitized_sessionWithId : sanitized sessionWithId = quicksilverSession := by
  apply (sanitized_losesId sessionWithId).unique
  refine ⟨Members.get_insert_of_ne _ _ (by decide) _, ?_, rfl, fun hplain => by cases hplain⟩
  intro step path hstep
  have hchild : quicksilverSession.child step = sessionWithId.child step := by
    cases step with
    | index i => rfl
    | key name =>
      have hid : name ≠ "id".toList := fun hname => hstep (by rw [hname])
      change Members.get _ name = Members.get _ name
      by_cases htype : name = "type".toList
      · rw [htype, Members.get_insert_self, Members.get_insert_self]
      · rw [Members.get_insert_of_ne _ _ htype, Members.get_insert_of_ne _ _ htype,
          Members.get_insert_of_ne _ _ hid]
  rw [Value.lookup, Value.lookup, hchild]

theorem objectEvidence_remove_id (object : Members Text Value) :
    objectEvidence (object.remove "id".toList) = objectEvidence object := by
  have hdelegation : (object.remove "id".toList).get "delegation".toList =
      object.get "delegation".toList := object.get_remove_of_ne _ (by decide)
  have htype : (object.remove "id".toList).get "type".toList = object.get "type".toList :=
    object.get_remove_of_ne _ (by decide)
  have hkey : (object.remove "id".toList).containsKey "type".toList =
      object.containsKey "type".toList := object.containsKey_remove_of_ne _ (by decide)
  rw [objectEvidence, objectEvidence, framelessMarker, framelessMarker, hdelegation, htype, hkey]

theorem classifySession_sanitized (session : Option Value) :
    classifySession (session.map sanitized) = classifySession session := by
  cases session with
  | none => rfl
  | some session =>
    rw [Option.map_some, classifySession, classifySession, sanitized_asObject]
    cases session.asObject with
    | none => rfl
    | some object => exact objectEvidence_remove_id object

/-- The body has the offer, and the stripped session where there is one. -/
theorem backendJsonCallBody_child (sdp : Text) (session : Option Value) :
    (backendJsonCallBody sdp session).child (.key "sdp".toList) = some (.string sdp) ∧
      (backendJsonCallBody sdp session).child (.key "session".toList) = session.map sanitized := by
  unfold backendJsonCallBody
  cases session with
  | none =>
    refine ⟨Members.get_insert_self _ _ _, ?_⟩
    exact Members.get_insert_of_ne _ _ (by decide) _
  | some session =>
    refine ⟨?_, Members.get_insert_self _ _ _⟩
    refine (Members.get_insert_of_ne _ _ (by decide) _).trans ?_
    exact Members.get_insert_self _ _ _

end Stripped

end GptLiveProxy
