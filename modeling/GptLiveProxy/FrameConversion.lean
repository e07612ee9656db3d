import Mathlib.Data.UInt

/-!
# Conversion between the two WebSocket message types

The downstream and the upstream library have message types of their own, and only the upstream one
has a raw frame. Both are viewed as the frame they stand for, which the conversions keep.
-/

namespace GptLiveProxy

/-- The upstream library's close code, which names every 16-bit code and gives it back. -/
structure CloseCode where
  ofU16 ::
  toU16 : UInt16
deriving DecidableEq

structure AxumClose where
  code : UInt16
  reason : String
deriving DecidableEq

structure TungClose where
  code : CloseCode
  reason : String
deriving DecidableEq

inductive AxumMessage
  | text (text : String)
  | binary (bytes : List UInt8)
  | ping (bytes : List UInt8)
  | pong (bytes : List UInt8)
  | close (frame : Option AxumClose)
deriving DecidableEq

inductive TungMessage
  | text (text : String)
  | binary (bytes : List UInt8)
  | ping (bytes : List UInt8)
  | pong (bytes : List UInt8)
  | close (frame : Option TungClose)
  | frame (bytes : List UInt8)
deriving DecidableEq

def DEFAULT_CLOSE_CODE : UInt16 := 1000

/-- Each leg answers its own keepalive. -/
def axumToTungstenite : AxumMessage → Option TungMessage
  | .text text => some (.text text)
  | .binary bytes => some (.binary bytes)
  | .close frame => some (.close (frame.map fun frame => ⟨.ofU16 frame.code, frame.reason⟩))
  | .ping _ => none
  | .pong _ => none

/-- A read never produces a raw frame. -/
def tungsteniteToAxum : TungMessage → Option AxumMessage
  | .text text => some (.text text)
  | .binary bytes => some (.binary bytes)
  | .close frame => some (.close (frame.map fun frame => ⟨frame.code.toU16, frame.reason⟩))
  | .ping _ => none
  | .pong _ => none
  | .frame _ => none

/-- What the downstream is told when the upstream closes. -/
def closeParts : Option TungClose → UInt16 × String
  | some frame =>
    let code := frame.code.toU16
    let code := if code = 0 then DEFAULT_CLOSE_CODE else code
    (code, frame.reason)
  | none => (DEFAULT_CLOSE_CODE, "")

def messageBytesAxum : AxumMessage → Nat
  | .text text => text.utf8ByteSize
  | .binary bytes => bytes.length
  | .ping _ => 0
  | .pong _ => 0
  | .close _ => 0

def messageBytesTungstenite : TungMessage → Nat
  | .text text => text.utf8ByteSize
  | .binary bytes => bytes.length
  | .ping _ => 0
  | .pong _ => 0
  | .close _ => 0
  | .frame _ => 0

/-- A frame that carries application data. -/
inductive DataFrame
  | text (text : String)
  | binary (bytes : List UInt8)
deriving DecidableEq

/-- What a message of either library stands for. -/
inductive Frame
  | data (frame : DataFrame)
  | close (parts : Option (UInt16 × String))
  | control
deriving DecidableEq

def Frame.isClose : Frame → Bool
  | .close _ => true
  | _ => false

def Frame.data? : Frame → Option DataFrame
  | .data frame => some frame
  | _ => none

def Frame.close? : Frame → Option (Option (UInt16 × String))
  | .close parts => some parts
  | _ => none

@[simp] theorem Frame.data?_data (frame : DataFrame) : (Frame.data frame).data? = some frame := rfl

@[simp] theorem Frame.data?_close (parts : Option (UInt16 × String)) :
    (Frame.close parts).data? = none := rfl

@[simp] theorem Frame.close?_close (parts : Option (UInt16 × String)) :
    (Frame.close parts).close? = some parts := rfl

theorem Frame.close?_of_not_close {frame : Frame} (h : frame.isClose = false) :
    frame.close? = none := by
  cases frame with
  | close parts => cases h
  | data frame => rfl
  | control => rfl

def AxumMessage.view : AxumMessage → Frame
  | .text value => .data (.text value)
  | .binary bytes => .data (.binary bytes)
  | .ping _ => .control
  | .pong _ => .control
  | .close parts => .close (parts.map fun sent => (sent.code, sent.reason))

def TungMessage.view : TungMessage → Frame
  | .text value => .data (.text value)
  | .binary bytes => .data (.binary bytes)
  | .ping _ => .control
  | .pong _ => .control
  | .frame _ => .control
  | .close parts => .close (parts.map fun sent => (sent.code.toU16, sent.reason))

theorem axumToTungstenite_view {message : AxumMessage} {converted : TungMessage}
    (h : axumToTungstenite message = some converted) : converted.view = message.view := by
  cases message with
  | close frame =>
    obtain rfl := Option.some.inj h
    cases frame <;> rfl
  | text | binary =>
    obtain rfl := Option.some.inj h
    rfl
  | ping | pong => cases h

theorem tungsteniteToAxum_view {message : TungMessage} {converted : AxumMessage}
    (h : tungsteniteToAxum message = some converted) : converted.view = message.view := by
  cases message with
  | close frame =>
    obtain rfl := Option.some.inj h
    cases frame <;> rfl
  | text | binary =>
    obtain rfl := Option.some.inj h
    rfl
  | ping | pong | frame => cases h

/-- Only keepalives and raw frames are dropped. -/
theorem axumToTungstenite_eq_none {message : AxumMessage} :
    axumToTungstenite message = none ↔ message.view = .control := by
  cases message <;> simp [axumToTungstenite, AxumMessage.view]

theorem tungsteniteToAxum_eq_none {message : TungMessage} :
    tungsteniteToAxum message = none ↔ message.view = .control := by
  cases message <;> simp [tungsteniteToAxum, TungMessage.view]

end GptLiveProxy
