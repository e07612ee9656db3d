import GptLiveProxy.TraceMachine

/-!
# The frame logger and its writer thread

The clones of a spawned logger share a channel to the writer thread and a slot with its join handle.
A call that drains a clone drops the clone's sender, takes the handle out of the slot, and polls the
thread until it ends or the deadline has passed. Each call runs in its own steps, interleaved with
the other clones and with the writer; the clock moves on its own.
-/

namespace GptLiveProxy

def WRITER_QUEUE_DEPTH : Nat := 1024

/-- How far a call of `drain_with_timeout` has got; `polling` and `checking` hold the lock. -/
inductive DrainCall
  | idle
  | locking (timeout : Nat)
  | polling (deadline : Nat)
  | checking (deadline : Nat)
deriving DecidableEq

/-- One clone: whether it still has its sender and its reference to the slot. -/
structure LoggerClone where
  alive : Bool
  sender : Bool
  writer : Bool
  call : DrainCall
deriving DecidableEq

/-- Where the join handle is; `absent` when no thread could be spawned. -/
inductive HandlePlace
  | absent
  | slot
  | held
  | joined
  | lost
deriving DecidableEq

inductive WriterThread (α : Type)
  | absent
  | receiving
  | appending (record : α)
  | finished
  | panicked
deriving DecidableEq

structure LogState (α : Type) where
  loggers : List LoggerClone
  handle : HandlePlace
  poisoned : Bool
  writer : WriterThread α
  queue : List α
  now : Nat

inductive LogEvent (α : Type)
  | log (logger : Nat) (record : α)
  | clone (logger : Nat)
  | drop (logger : Nat)
  | drain (logger timeout : Nat)
  | lock (logger : Nat)
  | poll (logger : Nat)
  | check (logger : Nat)
  | tick (duration : Nat)
  | receive
  | append
  | crash
  | close

inductive LogOutput (α : Type)
  | accepted (record : α)
  | refused (record : α)
  | inlined (record : α)
  | received (record : α)
  | appended (record : α)
  | returned (logger : Nat) (flushed : Bool)
  | unwound (logger : Nat)
deriving DecidableEq

section Traces
variable {α : Type} (t u : List (LogOutput α))

def acceptedOf : List α := t.filterMap fun
  | .accepted record => some record
  | _ => none

def receivedOf : List α := t.filterMap fun
  | .received record => some record
  | _ => none

/-- The records the writer has appended to the file, whether or not the file took them. -/
def appendedOf : List α := t.filterMap fun
  | .appended record => some record
  | _ => none

@[simp] theorem acceptedOf_append : acceptedOf (t ++ u) = acceptedOf t ++ acceptedOf u :=
  List.filterMap_append

@[simp] theorem receivedOf_append : receivedOf (t ++ u) = receivedOf t ++ receivedOf u :=
  List.filterMap_append

@[simp] theorem appendedOf_append : appendedOf (t ++ u) = appendedOf t ++ appendedOf u :=
  List.filterMap_append

end Traces

namespace WriterThread
variable {α : Type}

def hasReceiver : WriterThread α → Bool
  | receiving => true
  | appending _ => true
  | _ => false

/-- `JoinHandle::is_finished`. -/
def isFinished : WriterThread α → Bool
  | finished => true
  | panicked => true
  | _ => false

/-- `join().is_ok()`. -/
def joinIsOk : WriterThread α → Bool
  | finished => true
  | _ => false

def inHand : WriterThread α → List α
  | appending record => [record]
  | _ => []

end WriterThread

namespace LogState
variable {α : Type}

/-- `FrameLogger::spawn`; the receiver is gone when the thread could not be spawned. -/
def spawn (spawned : Bool) : LogState α where
  loggers := [⟨true, true, spawned, .idle⟩]
  handle := if spawned then .slot else .absent
  poisoned := false
  writer := if spawned then .receiving else .absent
  queue := []
  now := 0

def update (s : LogState α) (i : Nat) (logger : LoggerClone) : LogState α :=
  { s with loggers := s.loggers.set i logger }

def idle? (s : LogState α) (i : Nat) : Option LoggerClone :=
  s.loggers[i]?.filter fun logger => logger.alive && logger.call == .idle

def append (s : LogState α) (logger : LoggerClone) (record : α) :
    LogState α × List (LogOutput α) :=
  if logger.sender then
    if s.writer.hasReceiver && s.queue.length < WRITER_QUEUE_DEPTH then
      ({ s with queue := s.queue ++ [record] }, [.accepted record])
    else (s, [.refused record])
  else (s, [.inlined record])

def holdsSlot (logger : LoggerClone) : Bool :=
  logger.writer || match logger.call with
    | .locking _ => true
    | _ => false

def dropLogger (s : LogState α) (i : Nat) : LogState α :=
  let dropped := s.update i ⟨false, false, false, .idle⟩
  if s.handle = .slot ∧ dropped.loggers.any holdsSlot = false then { dropped with handle := .lost }
  else dropped

/-- `drain_with_timeout` up to the lock. -/
def beginDrain (s : LogState α) (i : Nat) (logger : LoggerClone) (timeout : Nat) :
    LogState α × List (LogOutput α) :=
  if logger.writer then
    (s.update i { logger with sender := false, writer := false, call := .locking timeout }, [])
  else (s.update i { logger with sender := false }, [.returned i true])

/-- The lock is free. The deadline must be an `Instant`, or the addition panics. -/
def lockSlot (maxInstant : Nat) (s : LogState α) (i : Nat) (logger : LoggerClone) (timeout : Nat) :
    LogState α × List (LogOutput α) :=
  let left := { logger with call := .idle }
  if s.poisoned then (s.update i left, [.returned i false])
  else if s.handle = .slot then
    if s.now + timeout ≤ maxInstant then
      ({ s.update i { logger with call := .polling (s.now + timeout) } with handle := .held }, [])
    else ({ s.update i left with handle := .lost, poisoned := true }, [.unwound i])
  else (s.update i left, [.returned i true])

def pollHandle (s : LogState α) (i : Nat) (logger : LoggerClone) (deadline : Nat) :
    LogState α × List (LogOutput α) :=
  if s.writer.isFinished then
    ({ s.update i { logger with call := .idle } with handle := .joined },
      [.returned i s.writer.joinIsOk])
  else (s.update i { logger with call := .checking deadline }, [])

def checkDeadline (s : LogState α) (i : Nat) (logger : LoggerClone) (deadline : Nat) :
    LogState α × List (LogOutput α) :=
  if deadline ≤ s.now then
    ({ s.update i { logger with call := .idle } with handle := .lost }, [.returned i false])
  else (s.update i { logger with call := .polling deadline }, [])

def writerStep (s : LogState α) : LogEvent α → Option (LogState α × List (LogOutput α))
  | .receive =>
    match s.writer, s.queue with
    | .receiving, record :: queue =>
      some ({ s with writer := .appending record, queue := queue }, [.received record])
    | _, _ => none
  | .append =>
    match s.writer with
    | .appending record => some ({ s with writer := .receiving }, [.appended record])
    | _ => none
  | .crash =>
    match s.writer with
    | .appending _ => some ({ s with writer := .panicked, queue := [] }, [])
    | _ => none
  | .close =>
    match s.writer, s.queue with
    | .receiving, [] =>
      if s.loggers.any LoggerClone.sender then none else some ({ s with writer := .finished }, [])
    | _, _ => none
  | _ => none

def step (maxInstant : Nat) (s : LogState α) :
    LogEvent α → Option (LogState α × List (LogOutput α))
  | .log i record => (s.idle? i).map fun logger => s.append logger record
  | .clone i => (s.idle? i).map fun logger => ({ s with loggers := s.loggers ++ [logger] }, [])
  | .drop i => (s.idle? i).map fun _ => (s.dropLogger i, [])
  | .drain i timeout => (s.idle? i).map fun logger => s.beginDrain i logger timeout
  | .lock i => s.loggers[i]?.bind fun logger =>
    match logger.call with
    | .locking timeout =>
      if s.handle = .held then none else some (s.lockSlot maxInstant i logger timeout)
    | _ => none
  | .poll i => s.loggers[i]?.bind fun logger =>
    match logger.call with
    | .polling deadline => some (s.pollHandle i logger deadline)
    | _ => none
  | .check i => s.loggers[i]?.bind fun logger =>
    match logger.call with
    | .checking deadline => some (s.checkDeadline i logger deadline)
    | _ => none
  | .tick duration => some ({ s with now := s.now + duration }, [])
  | e => s.writerStep e

end LogState

/-- The spawned logger; `maxInstant` is the largest time an `Instant` holds. -/
def frameLog (α : Type) (maxInstant : Nat) : TraceMachine (LogState α) (LogEvent α) (LogOutput α) :=
  ⟨LogState.step maxInstant⟩

end GptLiveProxy
