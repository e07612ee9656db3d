import GptLiveProxy.Handshakes
import GptLiveProxy.PermitPool
import GptLiveProxy.Pump

/-!
# The life of one WebSocket connection

A connection begins when its handler has built everything the upstream handshake needs and asks for
a permit. A public socket contacts the upstream first and switches the client only after an accepted
handshake; a private socket switches first and connects from inside the pump. The permit moves from
the handler into the upgrade task and is given back where the last of its owners is left.
-/

namespace GptLiveProxy
open CharText

def pumpPolicy (limits : Limits) (closePolicy : ClosePolicy) : PumpPolicy where
  frameBytes := limits.websocketFrameBytes
  sendTimeout := limits.websocketSendTimeout
  idleTimeout := limits.websocketIdleTimeout
  closePolicy := closePolicy

namespace PumpOutcome

def label : PumpOutcome → String
  | clientClosed => "client_closed"
  | upstreamClosed _ _ => "upstream_closed"
  | aborted _ _ => "aborted"

def code : PumpOutcome → Option UInt16
  | clientClosed => some CODE_NORMAL
  | upstreamClosed code _ => some code
  | aborted code _ => some code

end PumpOutcome

/-- What a handler has prepared: the pump it will run, the upstream handshake, and the answer to the
client's. The request is the client's, canonicalized. -/
structure ConnectionPlan where
  entry : Pump.Entry
  url : Except RelayError Text
  headers : HeaderMap
  protocols : ParsedProtocols
  request : HeaderMap
  accept : HeaderValue

namespace ConnectionPlan

def policy (limits : Limits) (plan : ConnectionPlan) : PumpPolicy :=
  pumpPolicy limits
    (match plan.entry with
    | .runConnected => .transparent
    | .runPrivateWith => .privateNormalized)

end ConnectionPlan

/-- The connect future of a private pump: it contacts nobody before it is polled. -/
inductive DialPhase
  | unpolled
  | dialing (started : Nat)
  | settled
deriving DecidableEq

/-- The connect future of a public pump is settled before the pump starts. -/
def DialPhase.ofEntry : Pump.Entry → DialPhase
  | .runConnected => settled
  | .runPrivateWith => unpolled

/-- The handler up to `ready`, the upgrade task after it; `leaving` drops what is owned. -/
inductive ConnectionPhase
  | begun
  | prepared
  | connecting (started : Nat)
  | closingUpstream (error : RelayError) (started : Nat)
  | ready (selected : Option Text) (upstream : HeaderMap)
  | upgrading
  | pumping (dial : DialPhase) (pump : Pump)
  | leaving (answer : Option Response)
  | ended

namespace ConnectionPhase

def holdsPermit : ConnectionPhase → Bool
  | begun => false
  | ended => false
  | _ => true

def isHandshake : ConnectionPhase → Bool
  | prepared => true
  | connecting _ => true
  | closingUpstream _ _ => true
  | ready _ _ => true
  | _ => false

def isSwitched : ConnectionPhase → Bool
  | upgrading => true
  | pumping _ _ => true
  | _ => false

end ConnectionPhase

structure Connection where
  plan : ConnectionPlan
  now : Nat
  phase : ConnectionPhase

/-- `built` tells whether the library turns the URL into a request; the timeouts come with the
deadline they wait for. -/
inductive ConnectionEvent
  | tick (duration : Nat)
  | acquire (granted : Bool)
  | dial (built : Bool)
  | handshake (result : HandshakeResult)
  | connectTimedOut
  | closeFinished (timedOut : Bool)
  | proceed
  | disconnect
  | upgrade (succeeded : Bool)
  | pump (event : PumpEvent)
  | finish
  | crash
  | release

inductive ConnectionOutput
  | contact (url : Text) (headers : HeaderMap)
  | switch (response : Response)
  | respond (response : Response)
  | pump (output : PumpOutput)
  | recorded (label : String) (code : Option UInt16)

/-- The events that tell the pump how its connect future has ended. -/
def PumpEvent.isDialed : PumpEvent → Bool
  | .connected => true
  | .connectFailed => true
  | _ => false

/-- The events of the pump that are its own: time and the connect future reach it from outside. -/
def PumpEvent.isOwn : PumpEvent → Bool
  | .tick _ => false
  | e => !e.isDialed

namespace Connection

def start (plan : ConnectionPlan) : Connection := ⟨plan, 0, .begun⟩

def leave (x : Connection) (answer : Option Response) : Connection × List ConnectionOutput :=
  ({ x with phase := .leaving answer }, [])

def granted (x : Connection) : Connection × List ConnectionOutput :=
  match x.plan.entry with
  | .runConnected => ({ x with phase := .prepared }, [])
  | .runPrivateWith =>
    ({ x with phase := .upgrading }, [.switch (privateResponse x.plan.accept)])

def shaken (x : Connection) : HandshakeResult → Connection
  | .accepted upstream =>
    match validateSelected upstream x.plan.protocols with
    | .ok selected => { x with phase := .ready selected upstream }
    | .error error => { x with phase := .closingUpstream error x.now }
  | result => { x with phase := .leaving (connectErrorResponse result) }

def pumped (limits : Limits) (x : Connection) (dial : DialPhase) (pump : Pump) (e : PumpEvent) :
    Option (Connection × List ConnectionOutput) :=
  (pump.step (x.plan.policy limits) e).map fun next =>
    ({ x with phase := .pumping dial next.1 }, next.2.map .pump)

def dialEvent : HandshakeResult → PumpEvent
  | .accepted _ => .connected
  | _ => .connectFailed

def step (limits : Limits) (x : Connection) :
    ConnectionEvent → Option (Connection × List ConnectionOutput)
  | .tick duration =>
    match x.phase with
    | .pumping dial pump => x.pumped limits dial pump (.tick duration)
    | _ => some ({ x with now := x.now + duration }, [])
  | .acquire permitted =>
    match x.phase with
    | .begun =>
      if permitted then some x.granted
      else
        some ({ x with phase := .ended },
          [.respond RelayError.tooManyActiveRealtimeConnections.intoResponse])
    | _ => none
  | .dial built =>
    match x.phase with
    | .prepared =>
      match x.plan.url with
      | .error error => some (x.leave (some error.intoResponse))
      | .ok url =>
        if built then some ({ x with phase := .connecting x.now }, [.contact url x.plan.headers])
        else some (x.leave (some RelayError.realtimeWebSocketUpstreamFailed.intoResponse))
    | .pumping .unpolled pump =>
      match pump.phase, x.plan.url with
      | .connecting _ _, .ok url =>
        if built then
          some ({ x with phase := .pumping (.dialing pump.now) pump },
            [.contact url x.plan.headers])
        else x.pumped limits .settled pump .connectFailed
      | _, _ => x.pumped limits .settled pump .connectFailed
    | _ => none
  | .handshake result =>
    match x.phase with
    | .connecting _ => some (x.shaken result, [])
    | .pumping (.dialing _) pump => x.pumped limits .settled pump (dialEvent result)
    | _ => none
  | .connectTimedOut =>
    match x.phase with
    | .connecting started =>
      if started + limits.websocketConnectTimeout ≤ x.now then
        some (x.leave (some RelayError.realtimeWebSocketConnectTimeout.intoResponse))
      else none
    | .pumping (.dialing started) pump =>
      if started + limits.websocketConnectTimeout ≤ pump.now then
        x.pumped limits .settled pump .connectFailed
      else none
    | _ => none
  | .closeFinished timedOut =>
    match x.phase with
    | .closingUpstream error started =>
      if timedOut = true → started + limits.websocketSendTimeout ≤ x.now then
        some (x.leave (some error.intoResponse))
      else none
    | _ => none
  | .proceed =>
    match x.phase with
    | .ready selected upstream =>
      some ({ x with phase := .upgrading },
        [.switch (publicResponse x.plan.request x.plan.accept selected upstream)])
    | _ => none
  | .disconnect =>
    match x.phase with
    | .connecting _ => some (x.leave none)
    | .closingUpstream _ _ => some (x.leave none)
    | .ready _ _ => some (x.leave none)
    | _ => none
  | .upgrade succeeded =>
    match x.phase with
    | .upgrading =>
      if succeeded then
        some
          ({ x with
            phase := .pumping (.ofEntry x.plan.entry) (Pump.start x.plan.entry x.now) }, [])
      else some (x.leave none)
    | _ => none
  | .pump e =>
    match x.phase with
    | .pumping dial pump => if e.isOwn then x.pumped limits dial pump e else none
    | _ => none
  | .finish =>
    match x.phase with
    | .pumping _ pump =>
      match pump.phase.returned with
      | some outcome => some ({ x with phase := .leaving none }, [.recorded outcome.label outcome.code])
      | none => none
    | _ => none
  | .crash =>
    match x.phase with
    | .pumping _ _ => some (x.leave none)
    | _ => none
  | .release =>
    match x.phase with
    | .leaving answer => some ({ x with phase := .ended }, answer.toList.map .respond)
    | _ => none

def machine (limits : Limits) : TraceMachine Connection ConnectionEvent ConnectionOutput where
  step x e := x.step limits e

/-- Connections meet at the semaphore of `limits.active_connections` permits. -/
def user (limits : Limits) :
    PermitUser ConnectionPlan Connection ConnectionEvent ConnectionOutput where
  machine := machine limits
  start := start
  asks
    | .acquire permitted => some permitted
    | _ => none
  gives
    | .release => true
    | _ => false
  held x := x.phase.holdsPermit.toNat

end Connection

end GptLiveProxy
