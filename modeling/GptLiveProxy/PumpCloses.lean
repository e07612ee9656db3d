import GptLiveProxy.PumpDelivery

/-!
# The close frames of the pump

A leg is handed at most one close frame, as its last frame, and every close frame says what the
outcome says. While the pump is active it neither sends nor keeps a close; an exit fixes what each
leg is told, and telling it only moves that into the trace.
-/

namespace GptLiveProxy
open PumpPhase

namespace Tell

/-- What the exit tells the leg, at whatever stage. -/
def parts : Tell → Option (UInt16 × String)
  | silent => none
  | pending code reason => some (code, reason)
  | sending code reason => some (code, reason)
  | told code reason => some (code, reason)

def handedOver : Tell → List Frame
  | silent => []
  | pending _ _ => []
  | sending code reason => [.close (some (code, reason))]
  | told code reason => [.close (some (code, reason))]

theorem handedOver_of_over {tell : Tell} (h : tell.isOver = true) :
    tell.handedOver = (tell.parts.map fun parts => Frame.close (some parts)).toList := by
  cases tell with
  | pending code reason | sending code reason => cases h
  | _ => rfl

end Tell

/-- What the upstream is told of a client that leaves, by the close frames read from it. -/
def clientCloseSpec (policy : ClosePolicy) (closes : List (Option (UInt16 × String))) :
    UInt16 × String :=
  match policy, closes with
  | .transparent, [some parts] => parts
  | .transparent, [none] => (1000, "")
  | _, _ => (1000, "client closed")

/-- The close that the upstream sent, as the downstream is told it. -/
def upstreamCloseSpec : Option (UInt16 × String) → UInt16 × String
  | some (code, reason) => (if code = 0 then 1000 else code, reason)
  | none => (1000, "")

/-- What the legs are told agrees with the outcome and the close frames read. -/
def Agrees (policy : PumpPolicy) (parts : Leg → Option (UInt16 × String)) (t : List PumpOutput) :
    PumpOutcome → Prop
  | .aborted code reason => ∀ leg told, parts leg = some told → told = (code, reason)
  | .upstreamClosed code reason =>
    parts .upstream = none ∧ parts .downstream = some (code, reason) ∧
      ∃ close, closesRead .upstream t = [close] ∧ (code, reason) = upstreamCloseSpec close
  | .clientClosed =>
    parts .downstream = none ∧
      (hasOpened t = true →
        parts .upstream = some (clientCloseSpec policy.closePolicy (closesRead .downstream t)))

/-- What holds of an active phase: no close has been sent, kept or read. -/
structure Unclosed (phase : PumpPhase) (t : List PumpOutput) : Prop where
  sent : ∀ leg parts, .send leg (.close parts) ∉ t
  kept : ∀ message ∈ phase.undelivered, message.view.isClose = false
  read : ∀ leg, closesRead leg t = []

structure Closing (policy : PumpPolicy) (tell : Leg → Tell) (outcome : PumpOutcome)
    (t : List PumpOutput) : Prop where
  sent : ∀ leg, ∃ frames, (∀ frame ∈ frames, frame.isClose = false) ∧
    framesSent leg t = frames ++ (tell leg).handedOver
  agrees : Agrees policy (fun leg => (tell leg).parts) t outcome

def Closes (policy : PumpPolicy) (s : Pump) (t : List PumpOutput) : Prop :=
  match s.phase with
  | .closing tell outcome => Closing policy tell outcome t
  | phase => Unclosed phase t

section Phases
variable {policy : PumpPolicy} {s : Pump} {t out : List PumpOutput}

theorem closes_active (h : s.phase.isActive = true) : Closes policy s t ↔ Unclosed s.phase t := by
  unfold Closes
  split
  · rename_i hphase
    rw [hphase] at h
    cases h
  · rfl

theorem closes_at {phase : PumpPhase} (hphase : s.phase = phase) (hactive : phase.isActive = true)
    (h : Closes policy s t) : Unclosed phase t := by
  rw [← hphase] at hactive ⊢
  exact (closes_active hactive).mp h

theorem closes_closing {tell : Leg → Tell} {outcome : PumpOutcome}
    (h : s.phase = .closing tell outcome) : Closes policy s t ↔ Closing policy tell outcome t := by
  unfold Closes
  rw [h]

theorem mem_framesSent {leg : Leg} {frame : Frame} :
    frame ∈ framesSent leg t ↔ .send leg frame ∈ t := by
  rw [framesSent, List.mem_filterMap]
  constructor
  · rintro ⟨o, ho, hsome⟩
    cases o with
    | send l sent =>
      obtain ⟨rfl, rfl⟩ : l = leg ∧ sent = frame := by simpa using hsome
      exact ho
    | _ => cases hsome
  · intro h
    exact ⟨_, h, if_pos rfl⟩

theorem framesSent_send (leg target : Leg) (frame : Frame) :
    framesSent target [.send leg frame] = if leg = target then [frame] else [] := by
  by_cases h : leg = target <;> simp [framesSent, h]

theorem Unclosed.extend {phase phase' : PumpPhase} (h : Unclosed phase t)
    (hsent : ∀ leg parts, .send leg (.close parts) ∉ out)
    (hkept : ∀ message ∈ phase'.undelivered, message.view.isClose = false)
    (hread : ∀ leg, closesRead leg out = []) : Unclosed phase' (t ++ out) where
  sent leg parts hmem := by
    rcases List.mem_append.mp hmem with hold | hnew
    · exact h.sent leg parts hold
    · exact hsent leg parts hnew
  kept := hkept
  read leg := by rw [closesRead_append, h.read, hread, List.append_nil]

theorem Unclosed.leaving {phase : PumpPhase} {tell : Leg → Tell} {outcome : PumpOutcome}
    (h : Unclosed phase t) (hsent : ∀ leg parts, .send leg (.close parts) ∉ out)
    (htell : ∀ leg, (tell leg).handedOver = [])
    (hagrees : Agrees policy (fun leg => (tell leg).parts) (t ++ out) outcome) :
    Closing policy tell outcome (t ++ out) where
  sent leg := by
    refine ⟨framesSent leg (t ++ out), fun frame hframe => ?_, by rw [htell, List.append_nil]⟩
    cases frame with
    | close parts =>
      rcases List.mem_append.mp (mem_framesSent.mp hframe) with hold | hnew
      · exact absurd hold (h.sent leg parts)
      · exact absurd hnew (hsent leg parts)
    | data _ | control => rfl
  agrees := hagrees

/-- A step of an exit reads nothing; it hands a leg what it is told, or nothing. -/
theorem Closing.extend {tell tell' : Leg → Tell} {outcome : PumpOutcome}
    (h : Closing policy tell outcome t) (hread : ∀ leg, closesRead leg out = [])
    (hopened : hasOpened out = false) (hparts : ∀ leg, (tell' leg).parts = (tell leg).parts)
    (hsent : ∀ leg, (tell leg).handedOver ++ framesSent leg out = (tell' leg).handedOver) :
    Closing policy tell' outcome (t ++ out) where
  sent leg := by
    obtain ⟨frames, hframes, hleg⟩ := h.sent leg
    refine ⟨frames, hframes, ?_⟩
    rw [framesSent_append, hleg, List.append_assoc, hsent]
  agrees := by
    have hagrees := h.agrees
    cases outcome with
    | aborted code reason =>
      intro leg told htold
      exact hagrees leg told ((hparts leg).symm.trans htold)
    | upstreamClosed code reason =>
      obtain ⟨hupstream, hdownstream, close, hclose, hsays⟩ := hagrees
      refine ⟨(hparts _).trans hupstream, (hparts _).trans hdownstream, close, ?_, hsays⟩
      rw [closesRead_append, hread, List.append_nil, hclose]
    | clientClosed =>
      obtain ⟨hdownstream, hupstream⟩ := hagrees
      refine ⟨(hparts _).trans hdownstream, fun hopen => (hparts _).trans ?_⟩
      rw [closesRead_append, hread, List.append_nil]
      rw [hasOpened_append, hopened, Bool.or_false] at hopen
      exact hupstream hopen

end Phases

section Step
variable {policy : PumpPolicy} {s s' : Pump} {e : PumpEvent} {t out : List PumpOutput}

theorem closes_quiet (h : Closes policy s t) (hphase : s'.phase = s.phase)
    (hsent : ∀ leg, framesSent leg out = []) (hread : ∀ leg, closesRead leg out = [])
    (hopened : hasOpened out = false) : Closes policy s' (t ++ out) := by
  cases hactive : s.phase.isActive with
  | true =>
    rw [closes_active (by rw [hphase, hactive]), hphase]
    have hunclosed := (closes_active hactive).mp h
    refine hunclosed.extend (fun leg parts hmem => ?_) hunclosed.kept hread
    have := mem_framesSent.mpr hmem
    rw [hsent] at this
    cases this
  | false =>
    cases hclosing : s.phase with
    | closing tell outcome =>
      refine (closes_closing (hphase.trans hclosing)).mpr ?_
      exact ((closes_closing hclosing).mp h).extend hread hopened (fun _ => rfl)
        fun leg => by rw [hsent, List.append_nil]
    | _ => simp [hclosing, isActive] at hactive

theorem clientCloseSpec_frame (frame : Option AxumClose) :
    clientCloseSpec policy.closePolicy [frame.map fun sent => (sent.code, sent.reason)] =
      clientCloseParts policy frame := by
  unfold clientCloseParts
  cases policy.closePolicy <;> cases frame <;> rfl

theorem clientCloseSpec_nil (closePolicy : ClosePolicy) :
    clientCloseSpec closePolicy [] = (CODE_NORMAL, CLOSE_CLIENT_CLOSED) := by
  cases closePolicy <;> rfl

theorem upstreamCloseSpec_frame (frame : Option TungClose) :
    upstreamCloseSpec (frame.map fun sent => (sent.code.toU16, sent.reason)) = closeParts frame := by
  cases frame <;> rfl

theorem kept_flush {queue : List TungMessage} {message : TungMessage}
    (h : ∀ kept ∈ message :: queue, kept.view.isClose = false) :
    ∀ kept ∈ (flush queue).undelivered, kept.view.isClose = false := by
  rw [undelivered_flush]
  exact fun kept hmem => h kept (List.mem_cons_of_mem _ hmem)

theorem closes_step (hstep : PumpStep policy s e s' out) (hordered : Ordered s t)
    (h : Closes policy s t) : Closes policy s' (t ++ out) := by
  cases hstep with
  | tick duration => exact closes_quiet h rfl (fun _ => rfl) (fun _ => rfl) rfl
  | arriveDownstream item | arriveUpstream item =>
    exact closes_quiet h rfl (fun _ => by cases item <;> rfl) (fun _ => by cases item <;> rfl)
      (by cases item <;> rfl)
  | enter hphase =>
    exact (closes_at hphase rfl h).extend (by simp) (List.forall_mem_nil _) (fun _ => rfl)
  | @connected queue queuedBytes hphase =>
    have hunclosed := closes_at hphase rfl h
    rw [closes_active (by cases queue <;> rfl)]
    refine hunclosed.extend (by simp) ?_ (fun _ => rfl)
    exact (undelivered_flush queue).symm ▸ hunclosed.kept
  | abort hactive hidle haborts hout =>
    obtain ⟨tell, code, reason, hclosing, -, htell⟩ := haborts
    refine (closes_closing hclosing).mpr (((closes_active hactive).mp h).leaving ?_ ?_ ?_)
    · rcases hout with rfl | ⟨-, _, _, rfl⟩ | ⟨_, _, _, -, rfl⟩ <;> simp
    · intro leg
      rcases htell leg with hsilent | hpending
      · rw [hsilent, Tell.handedOver]
      · rw [hpending, Tell.handedOver]
    · intro leg told htold
      rcases htell leg with hsilent | hpending
      · have hparts : (tell leg).parts = none := by rw [hsilent, Tell.parts]
        cases hparts.symm.trans htold
      · have hparts : (tell leg).parts = some (code, reason) := by rw [hpending, Tell.parts]
        exact (Option.some.inj (hparts.symm.trans htold)).symm
  | idle hphase hdeadline hdue =>
    have hunclosed := (closes_active (isActive_of_awaitsIdle hphase)).mp h
    refine (closes_closing rfl).mpr (hunclosed.leaving (by simp) (fun _ => rfl) ?_)
    intro leg told htold
    exact (Option.some.inj htold).symm
  | @leave queue queuedBytes arrival item rest hphase hinbox hclose =>
    have hopened := (ordered_at hphase rfl hordered).opened
    refine (closes_closing rfl).mpr ((closes_at hphase rfl h).leaving ?_ (fun _ => rfl) ?_)
    · cases item <;> simp [PumpItem.reads]
    · refine ⟨rfl, fun hopen => ?_⟩
      rw [hasOpened_append, hopened] at hopen
      cases item <;> cases hopen
  | skipQueueing hphase hinbox | skipDownstream hphase hinbox | skipUpstream hphase hinbox =>
    exact closes_quiet h rfl (fun _ => rfl) (fun leg => by cases leg <;> rfl) rfl
  | queue hphase hinbox hconverted haccept htotal =>
    have hunclosed := closes_at hphase rfl h
    refine hunclosed.extend (by simp) ?_ (fun leg => by cases leg <;> rfl)
    intro message hmem
    rcases List.mem_append.mp hmem with hold | hnew
    · exact hunclosed.kept message hold
    · rw [List.mem_singleton.mp hnew, hconverted]
      rfl
  | forwardUpstream hphase hinbox hconverted =>
    refine (closes_at hphase rfl h).extend (by simp) ?_ (fun leg => by cases leg <;> rfl)
    intro message hmem
    rw [List.mem_singleton.mp hmem, hconverted]
    rfl
  | forwardDownstream hphase hinbox hconverted =>
    exact (closes_at hphase rfl h).extend (by simp) (List.forall_mem_nil _) (fun leg => by cases leg <;> rfl)
  | @clientClosed arrival frame rest hphase hinbox =>
    have hunclosed := closes_at hphase rfl h
    refine (closes_closing rfl).mpr (hunclosed.leaving (by simp) (fun leg => by cases leg <;> rfl)
      ?_)
    refine ⟨rfl, fun _ => ?_⟩
    have hread : closesRead .downstream (t ++ [.read .downstream (AxumMessage.close frame).view]) =
        [frame.map fun sent => (sent.code, sent.reason)] := by
      rw [closesRead_append, hunclosed.read]
      rfl
    rw [hread, clientCloseSpec_frame]
    rfl
  | clientGone hphase hinbox hitem =>
    have hunclosed := closes_at hphase rfl h
    refine (closes_closing rfl).mpr (hunclosed.leaving (by simp) (fun leg => by cases leg <;> rfl)
      ?_)
    refine ⟨rfl, fun _ => ?_⟩
    rw [List.append_nil, hunclosed.read, clientCloseSpec_nil]
    rfl
  | @upstreamClosed arrival frame rest hphase hinbox =>
    have hunclosed := closes_at hphase rfl h
    refine (closes_closing rfl).mpr (hunclosed.leaving (by simp) (fun leg => by cases leg <;> rfl)
      ?_)
    refine ⟨rfl, rfl, frame.map fun sent => (sent.code.toU16, sent.reason), ?_, ?_⟩
    · rw [closesRead_append, hunclosed.read]
      rfl
    · exact (upstreamCloseSpec_frame frame).symm
  | @beginSend message queue hphase =>
    have hunclosed := closes_at hphase rfl h
    refine hunclosed.extend ?_ hunclosed.kept (fun _ => rfl)
    intro leg parts hmem
    have hkept := hunclosed.kept message List.mem_cons_self
    simp only [List.mem_singleton, PumpOutput.send.injEq] at hmem
    rw [← hmem.2] at hkept
    cases hkept
  | @sentQueued message queue started hphase =>
    have hunclosed := closes_at hphase rfl h
    rw [closes_active (by cases queue <;> rfl)]
    exact hunclosed.extend (by simp) (kept_flush hunclosed.kept) (fun _ => rfl)
  | sentUpstream hphase | sentDownstream hphase =>
    exact (closes_at hphase rfl h).extend (by simp) (List.forall_mem_nil _) (fun _ => rfl)
  | @beginClose closed tell outcome code reason hphase htell =>
    refine (closes_closing rfl).mpr (((closes_closing hphase).mp h).extend (fun _ => rfl) rfl ?_ ?_)
    · intro leg
      by_cases hleg : leg = closed
      · rw [hleg, Function.update_self, htell, Tell.parts, Tell.parts]
      · rw [Function.update_of_ne hleg]
    · intro leg
      by_cases hleg : leg = closed
      · rw [hleg, Function.update_self, htell, framesSent_send, if_pos rfl]
        rfl
      · rw [Function.update_of_ne hleg, framesSent_send, if_neg (Ne.symm hleg), List.append_nil]
  | @closeSent closed tell outcome code reason hphase htell =>
    refine (closes_closing rfl).mpr (((closes_closing hphase).mp h).extend (fun _ => rfl) rfl ?_ ?_)
    · intro leg
      by_cases hleg : leg = closed
      · rw [hleg, Function.update_self, htell, Tell.parts, Tell.parts]
      · rw [Function.update_of_ne hleg]
    · intro leg
      by_cases hleg : leg = closed
      · rw [hleg, Function.update_self, htell, Tell.handedOver, Tell.handedOver]
        rfl
      · rw [Function.update_of_ne hleg]
        exact List.append_nil _

end Step

section Run
variable {policy : PumpPolicy} {entry : Pump.Entry} {now : Nat} {es : List PumpEvent} {s : Pump}
  {t : List PumpOutput}

theorem closes_start (policy : PumpPolicy) (entry : Pump.Entry) (now : Nat) :
    Closes policy (Pump.start entry now) [] := by
  cases entry with
  | runPrivateWith => exact ⟨nofun, nofun, fun _ => rfl⟩
  | runConnected => exact ⟨nofun, nofun, fun _ => rfl⟩

theorem closes_run (hrun : (Pump.machine policy).run (Pump.start entry now) es = some (s, t)) :
    Closes policy s t := by
  refine ((Pump.machine policy).run_invariant (P := fun s t => Ordered s t ∧ Closes policy s t)
    ⟨ordered_start entry now, closes_start policy entry now⟩ ?_ hrun).2
  rintro s t e s' out ⟨hordered, h⟩ hstep
  have hkind := Pump.pumpStep_of_step hstep
  exact ⟨ordered_step hkind hordered, closes_step hkind hordered h⟩

theorem closesSent_of_frames {leg : Leg} {frames rest : List Frame}
    (hframes : ∀ frame ∈ frames, frame.isClose = false) (h : framesSent leg t = frames ++ rest) :
    closesSent leg t = rest.filterMap Frame.close? := by
  rw [closesSent, h, List.filterMap_append, List.filterMap_eq_nil_iff.mpr, List.nil_append]
  exact fun frame hmem => Frame.close?_of_not_close (hframes frame hmem)

/-- At the end of a run a leg has been told exactly what its exit had for it. -/
theorem Closing.closesSent {tell : Leg → Tell} {outcome : PumpOutcome}
    (h : Closing policy tell outcome t) {leg : Leg} (hover : (tell leg).isOver = true) :
    closesSent leg t = ((tell leg).parts.map some).toList := by
  obtain ⟨frames, hframes, hleg⟩ := h.sent leg
  rw [closesSent_of_frames hframes hleg, Tell.handedOver_of_over hover]
  cases (tell leg).parts <;> rfl

theorem last_frame_closes
    (hrun : (Pump.machine policy).run (Pump.start entry now) es = some (s, t)) (leg : Leg) :
    ∃ frames, (∀ frame ∈ frames, frame.isClose = false) ∧
      (framesSent leg t = frames ∨ ∃ parts, framesSent leg t = frames ++ [.close parts]) := by
  have hcloses := closes_run hrun
  cases hactive : s.phase.isActive with
  | true =>
    have hunclosed := (closes_active hactive).mp hcloses
    refine ⟨framesSent leg t, fun frame hframe => ?_, .inl rfl⟩
    cases frame with
    | close parts => exact absurd (mem_framesSent.mp hframe) (hunclosed.sent leg parts)
    | data _ | control => rfl
  | false =>
    cases hphase : s.phase with
    | closing tell outcome =>
      obtain ⟨frames, hframes, hleg⟩ := ((closes_closing hphase).mp hcloses).sent leg
      refine ⟨frames, hframes, ?_⟩
      rw [hleg]
      cases tell leg with
      | silent | pending _ _ => exact .inl (List.append_nil _)
      | sending code reason | told code reason => exact .inr ⟨_, rfl⟩
    | _ => simp [hphase, isActive] at hactive

/-- Each leg is handed at most one close frame, its last frame, and all of them agree with the
outcome and with the close frames read. -/
theorem close_frames_agree
    (hrun : (Pump.machine policy).run (Pump.start entry now) es = some (s, t)) :
    (∀ leg, ∃ frames, (∀ frame ∈ frames, frame.isClose = false) ∧
      (framesSent leg t = frames ∨ ∃ parts, framesSent leg t = frames ++ [.close parts])) ∧
    (∀ code reason, s.phase.returned = some (.aborted code reason) →
      ∀ leg, ∀ parts ∈ closesSent leg t, parts = some (code, reason)) ∧
    (∀ code reason, s.phase.returned = some (.upstreamClosed code reason) →
      closesSent .upstream t = [] ∧ closesSent .downstream t = [some (code, reason)] ∧
      ∃ close, closesRead .upstream t = [close] ∧ (code, reason) = upstreamCloseSpec close) ∧
    (s.phase.returned = some .clientClosed →
      closesSent .downstream t = [] ∧
      (hasOpened t = true → closesSent .upstream t =
        [some (clientCloseSpec policy.closePolicy (closesRead .downstream t))])) := by
  have hcloses := closes_run hrun
  refine ⟨last_frame_closes hrun, ?_, ?_, ?_⟩
  · intro code reason hreturned leg parts hparts
    obtain ⟨tell, hphase, hover⟩ := returned_eq_some hreturned
    have hclosing := (closes_closing hphase).mp hcloses
    rw [hclosing.closesSent (hover leg)] at hparts
    have hagrees := hclosing.agrees leg
    cases htold : (tell leg).parts with
    | none => simp [htold] at hparts
    | some told =>
      have htell := hagrees told htold
      simpa [htold, htell] using hparts
  · intro code reason hreturned
    obtain ⟨tell, hphase, hover⟩ := returned_eq_some hreturned
    have hclosing := (closes_closing hphase).mp hcloses
    obtain ⟨hupstream, hdownstream, hclose⟩ := hclosing.agrees
    refine ⟨?_, ?_, hclose⟩
    · rw [hclosing.closesSent (hover .upstream)]
      exact congrArg (fun parts => (parts.map some).toList) hupstream
    · rw [hclosing.closesSent (hover .downstream)]
      exact congrArg (fun parts => (parts.map some).toList) hdownstream
  · intro hreturned
    obtain ⟨tell, hphase, hover⟩ := returned_eq_some hreturned
    have hclosing := (closes_closing hphase).mp hcloses
    obtain ⟨hdownstream, hupstream⟩ := hclosing.agrees
    refine ⟨?_, fun hopened => ?_⟩
    · rw [hclosing.closesSent (hover .downstream)]
      exact congrArg (fun parts => (parts.map some).toList) hdownstream
    · rw [hclosing.closesSent (hover .upstream)]
      exact congrArg (fun parts => (parts.map some).toList) (hupstream hopened)

end Run

/-- An upstream close with code 0 keeps its own reason. -/
theorem code_zero_close_keeps_its_reason : ¬ ∀ policy entry now es s t,
    (Pump.machine policy).run (Pump.start entry now) es = some (s, t) →
      ∀ code reason, s.phase.returned = some (.upstreamClosed code reason) →
        ∀ own, closesRead .upstream t = [some (0, own)] → (code, reason) = (1000, "") := by
  intro h
  obtain ⟨s, hrun, hreturned⟩ := @TraceMachine.exists_run_of_observed _ _ _
    (Pump.machine ⟨1024, 50, 0, .transparent⟩) _ (·.phase.returned) (Pump.start .runConnected 0)
    [.enter, .arriveUpstream (.message (.close (some ⟨.ofU16 0, "bye"⟩))), .readUpstream,
      .beginClose .downstream, .closeSent .downstream]
    (some (.upstreamClosed 1000 "bye"))
    [.opened 0, .arrived .upstream 0, .read .upstream (.close (some (0, "bye"))),
      .send .downstream (.close (some (1000, "bye")))] (by decide +kernel)
  have := h _ _ _ _ _ _ hrun 1000 "bye" hreturned "bye" rfl
  simp at this

theorem transparent_client_close_agrees : ∃ es s t,
    (Pump.machine ⟨1024, 50, 0, .transparent⟩).run (Pump.start .runConnected 0) es = some (s, t) ∧
    s.phase.returned = some .clientClosed ∧
    closesRead .downstream t = [some (4321, "custom")] ∧
    closesSent .downstream t = [] ∧ closesSent .upstream t = [some (4321, "custom")] := by
  obtain ⟨s, hrun, hreturned⟩ := @TraceMachine.exists_run_of_observed _ _ _
    (Pump.machine ⟨1024, 50, 0, .transparent⟩) _ (·.phase.returned) (Pump.start .runConnected 0)
    [.enter, .arriveDownstream (.message (.close (some ⟨4321, "custom"⟩))), .readDownstream,
      .beginClose .upstream, .closeSent .upstream]
    (some .clientClosed)
    [.opened 0, .arrived .downstream 0, .read .downstream (.close (some (4321, "custom"))),
      .send .upstream (.close (some (4321, "custom")))] (by decide +kernel)
  obtain ⟨hdownstream, hupstream⟩ := (close_frames_agree hrun).2.2.2 hreturned
  exact ⟨_, s, _, hrun, hreturned, rfl, hdownstream, hupstream rfl⟩

end GptLiveProxy
