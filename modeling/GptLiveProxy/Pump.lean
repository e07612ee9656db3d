import GptLiveProxy.Config
import GptLiveProxy.FrameConversion
import GptLiveProxy.TraceMachine

/-!
# The WebSocket pump

One pump relays the frames of a downstream and an upstream stream. While the upstream connects it
queues what the client sends, then it flushes the queue, then it relays in both directions, and every
exit tells the legs its close code and reason. Time passes, items arrive and sends finish on their
own; what the pump does next is any of the branches that are ready.
-/

namespace GptLiveProxy

def MAX_PENDING_FRAMES : Nat := 32

def CLOSE_TOO_MANY_PENDING : String := "too many pending frames"
def CLOSE_QUEUED_FRAMES_TOO_LARGE : String := "queued frames too large"
def CLOSE_FRAME_TOO_LARGE : String := "frame too large"
def CLOSE_UPSTREAM_CONNECT_FAILED : String := "upstream connect failed"
def CLOSE_UPSTREAM_ERROR : String := "upstream error"
def CLOSE_UPSTREAM_SEND_FAILED : String := "upstream send failed"
def CLOSE_CLIENT_SEND_FAILED : String := "client send failed"
def CLOSE_UPSTREAM_SEND_TIMED_OUT : String := "upstream send timed out"
def CLOSE_DOWNSTREAM_SEND_TIMED_OUT : String := "downstream send timed out"
def CLOSE_CLIENT_CLOSED : String := "client closed"
def CLOSE_IDLE_TIMEOUT : String := "idle timeout"

def CODE_POLICY : UInt16 := 1009
def CODE_INTERNAL : UInt16 := 1011
def CODE_NORMAL : UInt16 := 1000
def CODE_GOING_AWAY : UInt16 := 1001

inductive ClosePolicy
  | transparent
  | privateNormalized
deriving DecidableEq

/-- Durations and instants are counted in one unit of time. -/
structure PumpPolicy where
  frameBytes : Nat
  sendTimeout : Nat
  idleTimeout : Nat
  closePolicy : ClosePolicy
deriving DecidableEq

inductive PumpOutcome
  | clientClosed
  | upstreamClosed (code : UInt16) (reason : String)
  | aborted (code : UInt16) (reason : String)
deriving DecidableEq

def acceptPending (queueLen : Nat) : Bool := queueLen < MAX_PENDING_FRAMES

def queuedBytesAfter (current next cap : Nat) : Option Nat :=
  (checkedAdd current next).filter (· ≤ cap)

inductive SendResult
  | ok
  | failed
  | timedOut
deriving DecidableEq

inductive Leg
  | downstream
  | upstream
deriving DecidableEq

/-- What `next` yields. -/
inductive PumpItem (α : Type)
  | message (message : α)
  | error (tooLarge : Bool)
  | ended
deriving DecidableEq

/-- The part of an exit that concerns one leg. -/
inductive Tell
  | silent
  | pending (code : UInt16) (reason : String)
  | sending (code : UInt16) (reason : String)
  | told (code : UInt16) (reason : String)
deriving DecidableEq

def Tell.isOver : Tell → Bool
  | .silent => true
  | .told _ _ => true
  | _ => false

/-- `started` is when a send was first polled. -/
inductive PumpPhase
  | connecting (queue : List TungMessage) (queuedBytes : Nat)
  | entering
  | flushing (message : TungMessage) (queue : List TungMessage) (started : Option Nat)
  | relaying
  | sendingUpstream (message : TungMessage) (started : Nat)
  | sendingDownstream (message : AxumMessage) (started : Nat)
  | closing (tell : Leg → Tell) (outcome : PumpOutcome)

namespace PumpPhase

def isActive : PumpPhase → Bool
  | closing _ _ => false
  | _ => true

/-- The two selects that have an idle branch. -/
def awaitsIdle : PumpPhase → Bool
  | flushing _ _ _ => true
  | relaying => true
  | _ => false

/-- The two selects that read. -/
def isReading : PumpPhase → Bool
  | connecting _ _ => true
  | relaying => true
  | _ => false

/-- The outcome the pump has returned. -/
def returned : PumpPhase → Option PumpOutcome
  | closing tell outcome =>
    if (tell .downstream).isOver && (tell .upstream).isOver then some outcome else none
  | _ => none

end PumpPhase

def returning (outcome : PumpOutcome) : PumpPhase := .closing (fun _ => .silent) outcome

def tellUpstream (code : UInt16) (reason : String) (outcome : PumpOutcome) : PumpPhase :=
  .closing (fun leg => if leg = .upstream then .pending code reason else .silent) outcome

def tellDownstream (code : UInt16) (reason : String) (outcome : PumpOutcome) : PumpPhase :=
  .closing (fun leg => if leg = .downstream then .pending code reason else .silent) outcome

def abortBoth (code : UInt16) (reason : String) : PumpPhase :=
  .closing (fun _ => .pending code reason) (.aborted code reason)

/-- Items wait in their stream, with the time at which they became readable. -/
structure Pump where
  now : Nat
  downstream : List (Nat × PumpItem AxumMessage)
  upstream : List (Nat × PumpItem TungMessage)
  idleDeadline : Option Nat
  phase : PumpPhase

inductive PumpEvent
  | tick (duration : Nat)
  | arriveDownstream (item : PumpItem AxumMessage)
  | arriveUpstream (item : PumpItem TungMessage)
  | enter
  | connected
  | connectFailed
  | readDownstream
  | readUpstream
  | idle
  | beginSend
  | sent (result : SendResult)
  | beginClose (leg : Leg)
  | closeSent (leg : Leg)
deriving DecidableEq

inductive PumpOutput
  | arrived (leg : Leg) (time : Nat)
  | opened (time : Nat)
  | read (leg : Leg) (frame : Frame)
  | send (leg : Leg) (frame : Frame)
  | sent (leg : Leg) (frame : Frame) (result : SendResult)
deriving DecidableEq

section Traces

def framesRead (leg : Leg) (t : List PumpOutput) : List Frame :=
  t.filterMap fun
    | .read l frame => if l = leg then some frame else none
    | _ => none

/-- The frames handed to a leg's sink, whatever became of them. -/
def framesSent (leg : Leg) (t : List PumpOutput) : List Frame :=
  t.filterMap fun
    | .send l frame => if l = leg then some frame else none
    | _ => none

def framesDelivered (leg : Leg) (t : List PumpOutput) : List Frame :=
  t.filterMap fun
    | .sent l frame .ok => if l = leg then some frame else none
    | _ => none

def dataRead (leg : Leg) (t : List PumpOutput) : List DataFrame :=
  (framesRead leg t).filterMap Frame.data?

def dataSent (leg : Leg) (t : List PumpOutput) : List DataFrame :=
  (framesSent leg t).filterMap Frame.data?

def dataDelivered (leg : Leg) (t : List PumpOutput) : List DataFrame :=
  (framesDelivered leg t).filterMap Frame.data?

def closesRead (leg : Leg) (t : List PumpOutput) : List (Option (UInt16 × String)) :=
  (framesRead leg t).filterMap Frame.close?

def closesSent (leg : Leg) (t : List PumpOutput) : List (Option (UInt16 × String)) :=
  (framesSent leg t).filterMap Frame.close?

def hasOpened (t : List PumpOutput) : Bool :=
  t.any fun
    | .opened _ => true
    | _ => false

variable (leg : Leg) (t u : List PumpOutput)

@[simp] theorem framesRead_append : framesRead leg (t ++ u) = framesRead leg t ++ framesRead leg u :=
  List.filterMap_append

@[simp] theorem framesSent_append : framesSent leg (t ++ u) = framesSent leg t ++ framesSent leg u :=
  List.filterMap_append

@[simp] theorem framesDelivered_append :
    framesDelivered leg (t ++ u) = framesDelivered leg t ++ framesDelivered leg u :=
  List.filterMap_append

@[simp] theorem dataRead_append : dataRead leg (t ++ u) = dataRead leg t ++ dataRead leg u := by
  simp [dataRead]

@[simp] theorem dataSent_append : dataSent leg (t ++ u) = dataSent leg t ++ dataSent leg u := by
  simp [dataSent]

@[simp] theorem dataDelivered_append :
    dataDelivered leg (t ++ u) = dataDelivered leg t ++ dataDelivered leg u := by
  simp [dataDelivered]

@[simp] theorem closesRead_append : closesRead leg (t ++ u) = closesRead leg t ++ closesRead leg u := by
  simp [closesRead]

@[simp] theorem closesSent_append : closesSent leg (t ++ u) = closesSent leg t ++ closesSent leg u := by
  simp [closesSent]

@[simp] theorem hasOpened_append : hasOpened (t ++ u) = (hasOpened t || hasOpened u) :=
  List.any_append

end Traces

namespace PumpItem
variable {α : Type}

def isMessage : PumpItem α → Bool
  | .message _ => true
  | _ => false

def arrivals (leg : Leg) (time : Nat) (item : PumpItem α) : List PumpOutput :=
  if item.isMessage then [.arrived leg time] else []

def reads (leg : Leg) (view : α → Frame) : PumpItem α → List PumpOutput
  | .message value => [.read leg (view value)]
  | _ => []

end PumpItem

/-- The connecting loop's answer to what the client sends. -/
def connectingInbound (policy : PumpPolicy) (queue : List TungMessage) (queuedBytes : Nat) :
    PumpItem AxumMessage → PumpPhase
  | .error true =>
    tellDownstream CODE_POLICY CLOSE_FRAME_TOO_LARGE (.aborted CODE_POLICY CLOSE_FRAME_TOO_LARGE)
  | .message (.close _) => returning .clientClosed
  | .error false => returning .clientClosed
  | .ended => returning .clientClosed
  | .message message =>
    if messageBytesAxum message > policy.frameBytes then
      tellDownstream CODE_POLICY CLOSE_FRAME_TOO_LARGE (.aborted CODE_POLICY CLOSE_FRAME_TOO_LARGE)
    else
      match axumToTungstenite message with
      | none => .connecting queue queuedBytes
      | some converted =>
        if !acceptPending queue.length then
          tellDownstream CODE_POLICY CLOSE_TOO_MANY_PENDING
            (.aborted CODE_POLICY CLOSE_TOO_MANY_PENDING)
        else
          match queuedBytesAfter queuedBytes (messageBytesAxum message) policy.frameBytes with
          | none =>
            tellDownstream CODE_POLICY CLOSE_QUEUED_FRAMES_TOO_LARGE
              (.aborted CODE_POLICY CLOSE_QUEUED_FRAMES_TOO_LARGE)
          | some total => .connecting (queue ++ [converted]) total

def idleDeadline (policy : PumpPolicy) (now : Nat) : Option Nat :=
  if policy.idleTimeout = 0 then none else some (now + policy.idleTimeout)

/-- The flush pops the next message, and the relay loop follows an empty queue. -/
def flush : List TungMessage → PumpPhase
  | [] => .relaying
  | message :: queue => .flushing message queue none

/-- What follows a send to the upstream, which continues with `next` when it succeeds. -/
def upstreamSent (next : PumpPhase) : SendResult → PumpPhase
  | .ok => next
  | .failed =>
    tellDownstream CODE_INTERNAL CLOSE_UPSTREAM_SEND_FAILED
      (.aborted CODE_INTERNAL CLOSE_UPSTREAM_SEND_FAILED)
  | .timedOut => abortBoth CODE_INTERNAL CLOSE_UPSTREAM_SEND_TIMED_OUT

def downstreamSent : SendResult → PumpPhase
  | .ok => .relaying
  | .failed =>
    tellUpstream CODE_INTERNAL CLOSE_CLIENT_SEND_FAILED
      (.aborted CODE_INTERNAL CLOSE_CLIENT_SEND_FAILED)
  | .timedOut => abortBoth CODE_INTERNAL CLOSE_DOWNSTREAM_SEND_TIMED_OUT

/-- The code and reason of the client's close frame, as the policy passes them on. -/
def clientCloseParts (policy : PumpPolicy) (frame : Option AxumClose) : UInt16 × String :=
  match policy.closePolicy with
  | .transparent =>
    match frame with
    | some frame => (frame.code, frame.reason)
    | none => (CODE_NORMAL, "")
  | .privateNormalized => (CODE_NORMAL, CLOSE_CLIENT_CLOSED)

namespace Pump

def opened (policy : PumpPolicy) (s : Pump) (phase : PumpPhase) : Pump :=
  { s with idleDeadline := GptLiveProxy.idleDeadline policy s.now, phase := phase }

def rearm (policy : PumpPolicy) (s : Pump) : Pump :=
  { s with idleDeadline := s.idleDeadline.map fun _ => s.now + policy.idleTimeout }

/-- The relay loop's answer to what the client sends. -/
def inbound (policy : PumpPolicy) (s : Pump) : PumpItem AxumMessage → Pump
  | .message (.close frame) =>
    let (code, reason) := clientCloseParts policy frame
    { s with phase := tellUpstream code reason .clientClosed }
  | .error true => { s with phase := abortBoth CODE_POLICY CLOSE_FRAME_TOO_LARGE }
  | .error false => { s with phase := tellUpstream CODE_NORMAL CLOSE_CLIENT_CLOSED .clientClosed }
  | .ended => { s with phase := tellUpstream CODE_NORMAL CLOSE_CLIENT_CLOSED .clientClosed }
  | .message message =>
    let s := s.rearm policy
    if messageBytesAxum message > policy.frameBytes then
      { s with phase := abortBoth CODE_POLICY CLOSE_FRAME_TOO_LARGE }
    else
      match axumToTungstenite message with
      | none => s
      | some converted => { s with phase := .sendingUpstream converted s.now }

/-- The relay loop's answer to what the upstream sends. -/
def outbound (policy : PumpPolicy) (s : Pump) : PumpItem TungMessage → Pump
  | .message (.close frame) =>
    let (code, reason) := closeParts frame
    { s with phase := tellDownstream code reason (.upstreamClosed code reason) }
  | .message message =>
    let s := s.rearm policy
    if messageBytesTungstenite message > policy.frameBytes then
      { s with phase := abortBoth CODE_POLICY CLOSE_FRAME_TOO_LARGE }
    else
      match tungsteniteToAxum message with
      | none => s
      | some converted => { s with phase := .sendingDownstream converted s.now }
  | .error true => { s with phase := abortBoth CODE_POLICY CLOSE_FRAME_TOO_LARGE }
  | .error false =>
    { s with
      phase := tellDownstream CODE_INTERNAL CLOSE_UPSTREAM_ERROR
        (.aborted CODE_INTERNAL CLOSE_UPSTREAM_ERROR) }
  | .ended =>
    { s with
      phase := tellDownstream CODE_INTERNAL CLOSE_UPSTREAM_ERROR
        (.aborted CODE_INTERNAL CLOSE_UPSTREAM_ERROR) }

/-- The two ways into the pump: the private entry connects by itself. -/
inductive Entry
  | runPrivateWith
  | runConnected
deriving DecidableEq

def start (entry : Entry) (now : Nat) : Pump where
  now := now
  downstream := []
  upstream := []
  idleDeadline := none
  phase :=
    match entry with
    | .runPrivateWith => .connecting [] 0
    | .runConnected => .entering

/-- A send times out only once `send_timeout` has passed since its first poll. -/
@[reducible] def Timely (policy : PumpPolicy) (s : Pump) (started : Nat) (result : SendResult) : Prop :=
  result = .timedOut → started + policy.sendTimeout ≤ s.now

/-- The attempt a read starts at once. -/
def attempt : PumpPhase → List PumpOutput
  | .sendingUpstream message _ => [.send .upstream message.view]
  | .sendingDownstream message _ => [.send .downstream message.view]
  | _ => []

def step (policy : PumpPolicy) (s : Pump) : PumpEvent → Option (Pump × List PumpOutput)
  | .tick duration => some ({ s with now := s.now + duration }, [])
  | .arriveDownstream item =>
    some ({ s with downstream := s.downstream ++ [(s.now, item)] }, item.arrivals .downstream s.now)
  | .arriveUpstream item =>
    some ({ s with upstream := s.upstream ++ [(s.now, item)] }, item.arrivals .upstream s.now)
  | .enter =>
    match s.phase with
    | .entering => some (s.opened policy .relaying, [.opened s.now])
    | _ => none
  | .connected =>
    match s.phase with
    | .connecting queue _ => some (s.opened policy (flush queue), [.opened s.now])
    | _ => none
  | .connectFailed =>
    match s.phase with
    | .connecting _ _ =>
      some
        ({ s with
          phase := tellDownstream CODE_INTERNAL CLOSE_UPSTREAM_CONNECT_FAILED
            (.aborted CODE_INTERNAL CLOSE_UPSTREAM_CONNECT_FAILED) }, [])
    | _ => none
  | .readDownstream =>
    match s.downstream, s.phase with
    | (_, item) :: rest, .connecting queue queuedBytes =>
      some ({ s with downstream := rest, phase := connectingInbound policy queue queuedBytes item },
        item.reads .downstream AxumMessage.view)
    | (_, item) :: rest, .relaying =>
      let s' := { s with downstream := rest }.inbound policy item
      some (s', item.reads .downstream AxumMessage.view ++ attempt s'.phase)
    | _, _ => none
  | .readUpstream =>
    match s.upstream, s.phase with
    | (_, item) :: rest, .relaying =>
      let s' := { s with upstream := rest }.outbound policy item
      some (s', item.reads .upstream TungMessage.view ++ attempt s'.phase)
    | _, _ => none
  | .idle =>
    match s.idleDeadline with
    | some deadline =>
      if s.phase.awaitsIdle = true ∧ deadline ≤ s.now then
        some ({ s with phase := abortBoth CODE_GOING_AWAY CLOSE_IDLE_TIMEOUT }, [])
      else none
    | none => none
  | .beginSend =>
    match s.phase with
    | .flushing message queue none =>
      some ({ s with phase := .flushing message queue (some s.now) }, [.send .upstream message.view])
    | _ => none
  | .sent result =>
    match s.phase with
    | .flushing message queue (some started) =>
      if s.Timely policy started result then
        some ({ s with phase := upstreamSent (flush queue) result },
          [.sent .upstream message.view result])
      else none
    | .sendingUpstream message started =>
      if s.Timely policy started result then
        some ({ s with phase := upstreamSent .relaying result },
          [.sent .upstream message.view result])
      else none
    | .sendingDownstream message started =>
      if s.Timely policy started result then
        some ({ s with phase := downstreamSent result }, [.sent .downstream message.view result])
      else none
    | _ => none
  | .beginClose leg =>
    match s.phase with
    | .closing tell outcome =>
      match tell leg with
      | .pending code reason =>
        some ({ s with phase := .closing (Function.update tell leg (.sending code reason)) outcome },
          [.send leg (.close (some (code, reason)))])
      | _ => none
    | _ => none
  | .closeSent leg =>
    match s.phase with
    | .closing tell outcome =>
      match tell leg with
      | .sending code reason =>
        some ({ s with phase := .closing (Function.update tell leg (.told code reason)) outcome }, [])
      | _ => none
    | _ => none

def machine (policy : PumpPolicy) : TraceMachine Pump PumpEvent PumpOutput where
  step s e := s.step policy e

end Pump

end GptLiveProxy
