import GptLiveProxy.Pump

/-!
# What one step of the pump can do

The branches of the pump fall into few kinds. `PumpStep` lists them with what each leaves behind, and
every invariant of the pump is proved kind by kind.
-/

namespace GptLiveProxy
open PumpPhase

/-- An exit whose legs are told what its outcome says; the idle exit is not among these. -/
def Aborts (phase : PumpPhase) : Prop :=
  ∃ tell code reason, phase = .closing tell (.aborted code reason) ∧ code ≠ CODE_GOING_AWAY ∧
    ∀ leg, tell leg = .silent ∨ tell leg = .pending code reason

theorem aborts_abortBoth {code : UInt16} {reason : String} (h : code ≠ CODE_GOING_AWAY) :
    Aborts (abortBoth code reason) :=
  ⟨_, _, _, rfl, h, fun _ => .inr rfl⟩

theorem aborts_tellUpstream {code : UInt16} {reason : String} (h : code ≠ CODE_GOING_AWAY) :
    Aborts (tellUpstream code reason (.aborted code reason)) := by
  refine ⟨_, _, _, rfl, h, fun leg => ?_⟩
  cases leg with
  | downstream => exact .inl rfl
  | upstream => exact .inr rfl

theorem aborts_tellDownstream {code : UInt16} {reason : String} (h : code ≠ CODE_GOING_AWAY) :
    Aborts (tellDownstream code reason (.aborted code reason)) := by
  refine ⟨_, _, _, rfl, h, fun leg => ?_⟩
  cases leg with
  | downstream => exact .inr rfl
  | upstream => exact .inl rfl

theorem codePolicy_ne_goingAway : CODE_POLICY ≠ CODE_GOING_AWAY := by decide

theorem codeInternal_ne_goingAway : CODE_INTERNAL ≠ CODE_GOING_AWAY := by decide

/-- What the pump has written when it aborts: nothing, the frame it read, or the send that failed. -/
def AbortOutput (phase : PumpPhase) (out : List PumpOutput) : Prop :=
  out = [] ∨ (phase.isReading = true ∧ ∃ leg frame, out = [.read leg frame]) ∨
    ∃ leg frame result, result ≠ .ok ∧ out = [.sent leg frame result]

section Branches
variable (policy : PumpPolicy)

theorem upstreamSent_cases (next : PumpPhase) (result : SendResult) :
    (result = .ok ∧ upstreamSent next result = next) ∨
      (result ≠ .ok ∧ Aborts (upstreamSent next result)) := by
  cases result with
  | ok => exact .inl ⟨rfl, rfl⟩
  | failed => exact .inr ⟨nofun, aborts_tellDownstream codeInternal_ne_goingAway⟩
  | timedOut => exact .inr ⟨nofun, aborts_abortBoth codeInternal_ne_goingAway⟩

theorem downstreamSent_cases (result : SendResult) :
    (result = .ok ∧ downstreamSent result = .relaying) ∨
      (result ≠ .ok ∧ Aborts (downstreamSent result)) := by
  cases result with
  | ok => exact .inl ⟨rfl, rfl⟩
  | failed => exact .inr ⟨nofun, aborts_tellUpstream codeInternal_ne_goingAway⟩
  | timedOut => exact .inr ⟨nofun, aborts_abortBoth codeInternal_ne_goingAway⟩

theorem view_data_of_converted {message : AxumMessage} {converted : TungMessage}
    (h : axumToTungstenite message = some converted) (hclose : message.view.isClose = false) :
    ∃ frame, message.view = .data frame ∧ converted.view = .data frame := by
  rw [axumToTungstenite_view h]
  cases hview : message.view with
  | data frame => exact ⟨frame, rfl, rfl⟩
  | close parts => simp [hview, Frame.isClose] at hclose
  | control => simp [axumToTungstenite_eq_none.mpr hview] at h

theorem view_data_of_converted_back {message : TungMessage} {converted : AxumMessage}
    (h : tungsteniteToAxum message = some converted) (hclose : message.view.isClose = false) :
    ∃ frame, message.view = .data frame ∧ converted.view = .data frame := by
  rw [tungsteniteToAxum_view h]
  cases hview : message.view with
  | data frame => exact ⟨frame, rfl, rfl⟩
  | close parts => simp [hview, Frame.isClose] at hclose
  | control => simp [tungsteniteToAxum_eq_none.mpr hview] at h

theorem not_close_of_ne {message : AxumMessage} (h : ∀ frame, message ≠ .close frame) :
    message.view.isClose = false := by
  cases message with
  | close frame => exact absurd rfl (h frame)
  | _ => rfl

theorem not_close_of_ne_back {message : TungMessage} (h : ∀ frame, message ≠ .close frame) :
    message.view.isClose = false := by
  cases message with
  | close frame => exact absurd rfl (h frame)
  | _ => rfl

/-- While the upstream connects, the client's item ends the pump, is dropped or is queued. -/
theorem connectingInbound_cases {queue : List TungMessage} {queuedBytes : Nat}
    {item : PumpItem AxumMessage} {phase : PumpPhase}
    (h : connectingInbound policy queue queuedBytes item = phase) :
    Aborts phase ∨
    (phase = returning .clientClosed ∧
      ∀ message, item = .message message → message.view.isClose = true) ∨
    (phase = .connecting queue queuedBytes ∧
      ∃ message, item = .message message ∧ message.view = .control) ∨
    ∃ message converted total frame, item = .message message ∧
      message.view = .data frame ∧ converted.view = .data frame ∧
      acceptPending queue.length = true ∧
      queuedBytesAfter queuedBytes (messageBytesAxum message) policy.frameBytes = some total ∧
      phase = .connecting (queue ++ [converted]) total := by
  subst h
  unfold connectingInbound
  split
  · exact .inl (aborts_tellDownstream codePolicy_ne_goingAway)
  · refine .inr (.inl ⟨rfl, ?_⟩)
    rintro message ⟨⟩
    rfl
  · exact .inr (.inl ⟨rfl, nofun⟩)
  · exact .inr (.inl ⟨rfl, nofun⟩)
  · rename_i message hnotClose
    split
    · exact .inl (aborts_tellDownstream codePolicy_ne_goingAway)
    · split
      · rename_i hconverted
        exact .inr (.inr (.inl ⟨rfl, message, rfl, axumToTungstenite_eq_none.mp hconverted⟩))
      · rename_i converted hconverted
        obtain ⟨frame, hview, hconvertedView⟩ :=
          view_data_of_converted hconverted (not_close_of_ne hnotClose)
        split
        · exact .inl (aborts_tellDownstream codePolicy_ne_goingAway)
        · rename_i haccept
          split
          · exact .inl (aborts_tellDownstream codePolicy_ne_goingAway)
          · rename_i total htotal
            exact .inr (.inr (.inr ⟨message, converted, total, frame, rfl, hview, hconvertedView,
              by simpa using haccept, htotal, rfl⟩))

/-- The relay loop ends the pump, drops the client's item or sends it on. -/
theorem inbound_cases {s s' : Pump} {item : PumpItem AxumMessage}
    (h : s.inbound policy item = s') :
    Aborts s'.phase ∨
    (∃ frame, item = .message (.close frame) ∧
      s' = { s with
        phase := tellUpstream (clientCloseParts policy frame).1 (clientCloseParts policy frame).2
          .clientClosed }) ∨
    (item.isMessage = false ∧
      s' = { s with phase := tellUpstream CODE_NORMAL CLOSE_CLIENT_CLOSED .clientClosed }) ∨
    (s' = s.rearm policy ∧ ∃ message, item = .message message ∧ message.view = .control) ∨
    ∃ message converted frame, item = .message message ∧ message.view = .data frame ∧
      converted.view = .data frame ∧
      s' = { s.rearm policy with phase := .sendingUpstream converted s.now } := by
  subst h
  unfold Pump.inbound
  split
  · rename_i frame
    exact .inr (.inl ⟨frame, rfl, rfl⟩)
  · exact .inl (aborts_abortBoth codePolicy_ne_goingAway)
  · exact .inr (.inr (.inl ⟨rfl, rfl⟩))
  · exact .inr (.inr (.inl ⟨rfl, rfl⟩))
  · rename_i message hnotClose
    simp only
    split
    · exact .inl (aborts_abortBoth codePolicy_ne_goingAway)
    · split
      · rename_i hconverted
        exact .inr (.inr (.inr (.inl
          ⟨rfl, message, rfl, axumToTungstenite_eq_none.mp hconverted⟩)))
      · rename_i converted hconverted
        obtain ⟨frame, hview, hconvertedView⟩ :=
          view_data_of_converted hconverted (not_close_of_ne hnotClose)
        exact .inr (.inr (.inr (.inr
          ⟨message, converted, frame, rfl, hview, hconvertedView, rfl⟩)))

theorem outbound_cases {s s' : Pump} {item : PumpItem TungMessage}
    (h : s.outbound policy item = s') :
    Aborts s'.phase ∨
    (∃ frame, item = .message (.close frame) ∧
      s' = { s with
        phase := tellDownstream (closeParts frame).1 (closeParts frame).2
          (.upstreamClosed (closeParts frame).1 (closeParts frame).2) }) ∨
    (s' = s.rearm policy ∧ ∃ message, item = .message message ∧ message.view = .control) ∨
    ∃ message converted frame, item = .message message ∧ message.view = .data frame ∧
      converted.view = .data frame ∧
      s' = { s.rearm policy with phase := .sendingDownstream converted s.now } := by
  subst h
  unfold Pump.outbound
  split
  · rename_i frame
    exact .inr (.inl ⟨frame, rfl, rfl⟩)
  · rename_i message hnotClose
    simp only
    split
    · exact .inl (aborts_abortBoth codePolicy_ne_goingAway)
    · split
      · rename_i hconverted
        exact .inr (.inr (.inl ⟨rfl, message, rfl, tungsteniteToAxum_eq_none.mp hconverted⟩))
      · rename_i converted hconverted
        obtain ⟨frame, hview, hconvertedView⟩ :=
          view_data_of_converted_back hconverted (not_close_of_ne_back hnotClose)
        exact .inr (.inr (.inr ⟨message, converted, frame, rfl, hview, hconvertedView, rfl⟩))
  · exact .inl (aborts_abortBoth codePolicy_ne_goingAway)
  · exact .inl (aborts_tellDownstream codeInternal_ne_goingAway)
  · exact .inl (aborts_tellDownstream codeInternal_ne_goingAway)

end Branches

inductive PumpStep (policy : PumpPolicy) (s : Pump) : PumpEvent → Pump → List PumpOutput → Prop
  | tick (duration : Nat) : PumpStep policy s (.tick duration) { s with now := s.now + duration } []
  | arriveDownstream (item : PumpItem AxumMessage) :
    PumpStep policy s (.arriveDownstream item)
      { s with downstream := s.downstream ++ [(s.now, item)] } (item.arrivals .downstream s.now)
  | arriveUpstream (item : PumpItem TungMessage) :
    PumpStep policy s (.arriveUpstream item)
      { s with upstream := s.upstream ++ [(s.now, item)] } (item.arrivals .upstream s.now)
  | enter (hphase : s.phase = .entering) :
    PumpStep policy s .enter (s.opened policy .relaying) [.opened s.now]
  | connected {queue : List TungMessage} {queuedBytes : Nat}
      (hphase : s.phase = .connecting queue queuedBytes) :
    PumpStep policy s .connected (s.opened policy (flush queue)) [.opened s.now]
  | abort {e : PumpEvent} {s' : Pump} {out : List PumpOutput} (hactive : s.phase.isActive = true)
      (hidle : e ≠ .idle) (haborts : Aborts s'.phase) (hout : AbortOutput s.phase out) :
    PumpStep policy s e s' out
  | idle {deadline : Nat} (hphase : s.phase.awaitsIdle = true)
      (hdeadline : s.idleDeadline = some deadline) (hdue : deadline ≤ s.now) :
    PumpStep policy s .idle { s with phase := abortBoth CODE_GOING_AWAY CLOSE_IDLE_TIMEOUT } []
  | leave {queue : List TungMessage} {queuedBytes arrival : Nat} {item : PumpItem AxumMessage}
      {rest : List (Nat × PumpItem AxumMessage)} (hphase : s.phase = .connecting queue queuedBytes)
      (hinbox : s.downstream = (arrival, item) :: rest)
      (hclose : ∀ message, item = .message message → message.view.isClose = true) :
    PumpStep policy s .readDownstream { s with downstream := rest, phase := returning .clientClosed }
      (item.reads .downstream AxumMessage.view)
  | skipQueueing {queue : List TungMessage} {queuedBytes arrival : Nat} {message : AxumMessage}
      {rest : List (Nat × PumpItem AxumMessage)} (hphase : s.phase = .connecting queue queuedBytes)
      (hinbox : s.downstream = (arrival, .message message) :: rest) :
    PumpStep policy s .readDownstream { s with downstream := rest } [.read .downstream .control]
  | queue {queue : List TungMessage} {queuedBytes arrival : Nat} {message : AxumMessage}
      {rest : List (Nat × PumpItem AxumMessage)} {converted : TungMessage} {total : Nat}
      {frame : DataFrame} (hphase : s.phase = .connecting queue queuedBytes)
      (hinbox : s.downstream = (arrival, .message message) :: rest)
      (hconverted : converted.view = .data frame) (haccept : acceptPending queue.length = true)
      (htotal : queuedBytesAfter queuedBytes (messageBytesAxum message) policy.frameBytes =
        some total) :
    PumpStep policy s .readDownstream
      { s with downstream := rest, phase := .connecting (queue ++ [converted]) total }
      [.read .downstream (.data frame)]
  | skipDownstream {arrival : Nat} {message : AxumMessage}
      {rest : List (Nat × PumpItem AxumMessage)} (hphase : s.phase = .relaying)
      (hinbox : s.downstream = (arrival, .message message) :: rest) :
    PumpStep policy s .readDownstream ({ s with downstream := rest }.rearm policy)
      [.read .downstream .control]
  | skipUpstream {arrival : Nat} {message : TungMessage} {rest : List (Nat × PumpItem TungMessage)}
      (hphase : s.phase = .relaying)
      (hinbox : s.upstream = (arrival, .message message) :: rest) :
    PumpStep policy s .readUpstream ({ s with upstream := rest }.rearm policy)
      [.read .upstream .control]
  | forwardUpstream {arrival : Nat} {message : AxumMessage}
      {rest : List (Nat × PumpItem AxumMessage)} {converted : TungMessage} {frame : DataFrame}
      (hphase : s.phase = .relaying)
      (hinbox : s.downstream = (arrival, .message message) :: rest)
      (hconverted : converted.view = .data frame) :
    PumpStep policy s .readDownstream
      { { s with downstream := rest }.rearm policy with phase := .sendingUpstream converted s.now }
      [.read .downstream (.data frame), .send .upstream (.data frame)]
  | forwardDownstream {arrival : Nat} {message : TungMessage}
      {rest : List (Nat × PumpItem TungMessage)} {converted : AxumMessage} {frame : DataFrame}
      (hphase : s.phase = .relaying)
      (hinbox : s.upstream = (arrival, .message message) :: rest)
      (hconverted : converted.view = .data frame) :
    PumpStep policy s .readUpstream
      { { s with upstream := rest }.rearm policy with phase := .sendingDownstream converted s.now }
      [.read .upstream (.data frame), .send .downstream (.data frame)]
  | clientClosed {arrival : Nat} {frame : Option AxumClose}
      {rest : List (Nat × PumpItem AxumMessage)} (hphase : s.phase = .relaying)
      (hinbox : s.downstream = (arrival, .message (.close frame)) :: rest) :
    PumpStep policy s .readDownstream
      { s with
        downstream := rest
        phase := tellUpstream (clientCloseParts policy frame).1 (clientCloseParts policy frame).2
          .clientClosed }
      [.read .downstream (AxumMessage.close frame).view]
  | clientGone {arrival : Nat} {item : PumpItem AxumMessage}
      {rest : List (Nat × PumpItem AxumMessage)} (hphase : s.phase = .relaying)
      (hinbox : s.downstream = (arrival, item) :: rest) (hitem : item.isMessage = false) :
    PumpStep policy s .readDownstream
      { s with
        downstream := rest
        phase := tellUpstream CODE_NORMAL CLOSE_CLIENT_CLOSED .clientClosed } []
  | upstreamClosed {arrival : Nat} {frame : Option TungClose}
      {rest : List (Nat × PumpItem TungMessage)} (hphase : s.phase = .relaying)
      (hinbox : s.upstream = (arrival, .message (.close frame)) :: rest) :
    PumpStep policy s .readUpstream
      { s with
        upstream := rest
        phase := tellDownstream (closeParts frame).1 (closeParts frame).2
          (.upstreamClosed (closeParts frame).1 (closeParts frame).2) }
      [.read .upstream (TungMessage.close frame).view]
  | beginSend {message : TungMessage} {queue : List TungMessage}
      (hphase : s.phase = .flushing message queue none) :
    PumpStep policy s .beginSend { s with phase := .flushing message queue (some s.now) }
      [.send .upstream message.view]
  | sentQueued {message : TungMessage} {queue : List TungMessage} {started : Nat}
      (hphase : s.phase = .flushing message queue (some started)) :
    PumpStep policy s (.sent .ok) { s with phase := flush queue } [.sent .upstream message.view .ok]
  | sentUpstream {message : TungMessage} {started : Nat}
      (hphase : s.phase = .sendingUpstream message started) :
    PumpStep policy s (.sent .ok) { s with phase := .relaying } [.sent .upstream message.view .ok]
  | sentDownstream {message : AxumMessage} {started : Nat}
      (hphase : s.phase = .sendingDownstream message started) :
    PumpStep policy s (.sent .ok) { s with phase := .relaying } [.sent .downstream message.view .ok]
  | beginClose {leg : Leg} {tell : Leg → Tell} {outcome : PumpOutcome} {code : UInt16}
      {reason : String} (hphase : s.phase = .closing tell outcome)
      (htell : tell leg = .pending code reason) :
    PumpStep policy s (.beginClose leg)
      { s with phase := .closing (Function.update tell leg (.sending code reason)) outcome }
      [.send leg (.close (some (code, reason)))]
  | closeSent {leg : Leg} {tell : Leg → Tell} {outcome : PumpOutcome} {code : UInt16}
      {reason : String} (hphase : s.phase = .closing tell outcome)
      (htell : tell leg = .sending code reason) :
    PumpStep policy s (.closeSent leg)
      { s with phase := .closing (Function.update tell leg (.told code reason)) outcome } []

theorem abortOutput_reads {α : Type} {phase : PumpPhase} (h : phase.isReading = true) (leg : Leg)
    (view : α → Frame) (item : PumpItem α) : AbortOutput phase (item.reads leg view) := by
  cases item with
  | message value => exact .inr (.inl ⟨h, leg, view value, rfl⟩)
  | error tooLarge => exact .inl rfl
  | ended => exact .inl rfl

theorem attempt_aborts {phase : PumpPhase} (h : Aborts phase) : Pump.attempt phase = [] := by
  obtain ⟨tell, code, reason, rfl, -⟩ := h
  rfl

theorem returned_eq_some {phase : PumpPhase} {outcome : PumpOutcome}
    (h : phase.returned = some outcome) :
    ∃ tell, phase = .closing tell outcome ∧ ∀ leg, (tell leg).isOver = true := by
  cases phase with
  | closing tell ending =>
    simp only [returned, Option.ite_none_right_eq_some, Bool.and_eq_true, Option.some.injEq] at h
    obtain ⟨⟨hdownstream, hupstream⟩, rfl⟩ := h
    refine ⟨tell, rfl, fun leg => ?_⟩
    cases leg with
    | downstream => exact hdownstream
    | upstream => exact hupstream
  | _ => cases h

namespace Pump
variable {policy : PumpPolicy} {s s' : Pump} {e : PumpEvent} {out : List PumpOutput}

theorem readDownstream_step (h : s.step policy .readDownstream = some (s', out)) :
    PumpStep policy s .readDownstream s' out := by
  simp only [step] at h
  split at h
  · rename_i arrival item rest queue queuedBytes hinbox hphase
    cases h
    have hreading : s.phase.isReading = true := by
      rw [hphase]
      rfl
    have hactive : s.phase.isActive = true := by
      rw [hphase]
      rfl
    rcases @connectingInbound_cases policy queue queuedBytes item _ rfl with haborts |
      ⟨hreturn, hclose⟩ | ⟨hsame, message, rfl, hview⟩ |
      ⟨message, converted, total, frame, rfl, hview, hconverted, haccept, htotal, hqueued⟩
    · exact .abort hactive nofun haborts (abortOutput_reads hreading ..)
    · rw [hreturn]
      exact .leave hphase hinbox hclose
    · rw [hsame, ← hphase, PumpItem.reads, hview]
      exact .skipQueueing hphase hinbox
    · rw [hqueued, PumpItem.reads, hview]
      exact .queue hphase hinbox hconverted haccept htotal
  · rename_i arrival item rest hinbox hphase
    cases h
    have hreading : s.phase.isReading = true := by
      rw [hphase]
      rfl
    have hactive : s.phase.isActive = true := by
      rw [hphase]
      rfl
    rcases @inbound_cases policy { s with downstream := rest } _ item rfl with haborts |
      ⟨frame, rfl, hstep⟩ | ⟨hitem, hstep⟩ | ⟨hstep, message, rfl, hview⟩ |
      ⟨message, converted, frame, rfl, hview, hconverted, hstep⟩
    · rw [attempt_aborts haborts, List.append_nil]
      exact .abort hactive nofun haborts (abortOutput_reads hreading ..)
    · rw [hstep]
      exact .clientClosed hphase hinbox
    · rw [hstep]
      have hreads : item.reads .downstream AxumMessage.view = [] := by
        cases item with
        | message value => cases hitem
        | error tooLarge => rfl
        | ended => rfl
      rw [hreads]
      exact .clientGone hphase hinbox hitem
    · rw [hstep, PumpItem.reads, hview]
      have hattempt : attempt ({ s with downstream := rest }.rearm policy).phase = [] := by
        show attempt s.phase = []
        rw [hphase]
        rfl
      rw [hattempt]
      exact .skipDownstream hphase hinbox
    · rw [hstep, PumpItem.reads, hview, attempt, hconverted]
      exact .forwardUpstream hphase hinbox hconverted
  · cases h

theorem readUpstream_step (h : s.step policy .readUpstream = some (s', out)) :
    PumpStep policy s .readUpstream s' out := by
  simp only [step] at h
  split at h
  · rename_i arrival item rest hinbox hphase
    cases h
    have hreading : s.phase.isReading = true := by
      rw [hphase]
      rfl
    have hactive : s.phase.isActive = true := by
      rw [hphase]
      rfl
    rcases @outbound_cases policy { s with upstream := rest } _ item rfl with haborts |
      ⟨frame, rfl, hstep⟩ | ⟨hstep, message, rfl, hview⟩ |
      ⟨message, converted, frame, rfl, hview, hconverted, hstep⟩
    · rw [attempt_aborts haborts, List.append_nil]
      exact .abort hactive nofun haborts (abortOutput_reads hreading ..)
    · rw [hstep]
      exact .upstreamClosed hphase hinbox
    · rw [hstep, PumpItem.reads, hview]
      have hattempt : attempt ({ s with upstream := rest }.rearm policy).phase = [] := by
        show attempt s.phase = []
        rw [hphase]
        rfl
      rw [hattempt]
      exact .skipUpstream hphase hinbox
    · rw [hstep, PumpItem.reads, hview, attempt, hconverted]
      exact .forwardDownstream hphase hinbox hconverted
  · cases h

theorem sent_step {result : SendResult} (h : s.step policy (.sent result) = some (s', out)) :
    PumpStep policy s (.sent result) s' out := by
  simp only [step] at h
  split at h
  · rename_i message queue started hphase
    split at h
    · cases h
      rcases upstreamSent_cases (flush queue) result with ⟨rfl, hnext⟩ | ⟨hresult, haborts⟩
      · rw [hnext]
        exact .sentQueued hphase
      · exact .abort (by rw [hphase]; rfl) nofun haborts (.inr (.inr ⟨_, _, _, hresult, rfl⟩))
    · cases h
  · rename_i message started hphase
    split at h
    · cases h
      rcases upstreamSent_cases .relaying result with ⟨rfl, hnext⟩ | ⟨hresult, haborts⟩
      · rw [hnext]
        exact .sentUpstream hphase
      · exact .abort (by rw [hphase]; rfl) nofun haborts (.inr (.inr ⟨_, _, _, hresult, rfl⟩))
    · cases h
  · rename_i message started hphase
    split at h
    · cases h
      rcases downstreamSent_cases result with ⟨rfl, hnext⟩ | ⟨hresult, haborts⟩
      · rw [hnext]
        exact .sentDownstream hphase
      · exact .abort (by rw [hphase]; rfl) nofun haborts (.inr (.inr ⟨_, _, _, hresult, rfl⟩))
    · cases h
  · cases h

/-- Every step of the pump is one of the kinds. -/
theorem pumpStep_of_step (h : (machine policy).step s e = some (s', out)) :
    PumpStep policy s e s' out := by
  change s.step policy e = some (s', out) at h
  cases e with
  | readDownstream => exact readDownstream_step h
  | readUpstream => exact readUpstream_step h
  | sent result => exact sent_step h
  | tick duration =>
    cases h
    exact .tick duration
  | arriveDownstream item =>
    cases h
    exact .arriveDownstream item
  | arriveUpstream item =>
    cases h
    exact .arriveUpstream item
  | enter =>
    simp only [step] at h
    split at h
    · rename_i hphase
      cases h
      exact .enter hphase
    · cases h
  | connected =>
    simp only [step] at h
    split at h
    · rename_i queue queuedBytes hphase
      cases h
      exact .connected hphase
    · cases h
  | connectFailed =>
    simp only [step] at h
    split at h
    · rename_i queue queuedBytes hphase
      cases h
      exact .abort (by rw [hphase]; rfl) nofun (aborts_tellDownstream codeInternal_ne_goingAway)
        (.inl rfl)
    · cases h
  | idle =>
    simp only [step] at h
    split at h
    · rename_i deadline hdeadline
      split at h
      · rename_i hready
        cases h
        exact .idle hready.1 hdeadline hready.2
      · cases h
    · cases h
  | beginSend =>
    simp only [step] at h
    split at h
    · rename_i message queue hphase
      cases h
      exact .beginSend hphase
    · cases h
  | beginClose leg =>
    simp only [step] at h
    split at h
    · rename_i tell outcome hphase
      split at h
      · rename_i code reason htell
        cases h
        exact .beginClose hphase htell
      · cases h
    · cases h
  | closeSent leg =>
    simp only [step] at h
    split at h
    · rename_i tell outcome hphase
      split at h
      · rename_i code reason htell
        cases h
        exact .closeSent hphase htell
      · cases h
    · cases h

end Pump

end GptLiveProxy
