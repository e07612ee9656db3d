import GptLiveProxy.RelayError
import GptLiveProxy.TraceMachine

/-!
# The lifecycle of one HTTP exchange

The handler and the spawned upstream task share a terminal slot, which the first writer decides,
and a cancellation token. The guard the handler owns records `Canceled` when it is dropped and, if
that write was the first, cancels the token; the two are separate atomic steps. `Enabled` and
`next` list what each side can do next, at every await point and in every early return.
-/

namespace GptLiveProxy

structure OpaqueResponse where
  status : UInt16
  headers : HeaderMap
  body : List UInt8
deriving DecidableEq

abbrev ExchangeResult := Except RelayError OpaqueResponse

/-- The response body as the chunks arrive; every chunk is counted before it is kept. -/
def readResponse (responseCap : Nat) (body : List UInt8) :
    List (Except String (List UInt8)) → Except RelayError (List UInt8)
  | [] => .ok body
  | .error message :: _ => .error (.upstreamFailed message)
  | .ok chunk :: chunks =>
    if chunk = [] then readResponse responseCap body chunks
    else if min (body.length + chunk.length) USIZE_MAX > responseCap then
      .error (.responseTooLarge (min (body.length + chunk.length) USIZE_MAX))
    else readResponse responseCap (body ++ chunk) chunks

/-- The upstream answers with a status and headers, then with chunks; either may fail. -/
def executeCapped (responseCap : Nat) (head : Except String (UInt16 × HeaderMap))
    (chunks : List (Except String (List UInt8))) : ExchangeResult :=
  match head with
  | .error message => .error (.upstreamFailed message)
  | .ok (status, headers) => (readResponse responseCap [] chunks).map (⟨status, headers, ·⟩)

/-- The results the upstream work can have: a response, a transport failure, or the cap. -/
def isExecuted : ExchangeResult → Bool
  | .ok _ => true
  | .error (.upstreamFailed _) => true
  | .error (.responseTooLarge _) => true
  | .error _ => false

theorem readResponse_error {responseCap : Nat} {body : List UInt8}
    {chunks : List (Except String (List UInt8))} {error : RelayError}
    (h : readResponse responseCap body chunks = .error error) : isExecuted (.error error) = true := by
  induction chunks generalizing body with
  | nil => cases h
  | cons chunk chunks ih =>
    cases chunk with
    | error message =>
      cases h
      rfl
    | ok chunk =>
      simp only [readResponse] at h
      split_ifs at h with hempty hlarge
      · exact ih h
      · cases h
        rfl
      · exact ih h

theorem executeCapped_isExecuted (responseCap : Nat) (head : Except String (UInt16 × HeaderMap))
    (chunks : List (Except String (List UInt8))) :
    isExecuted (executeCapped responseCap head chunks) = true := by
  cases head with
  | error message => rfl
  | ok parts =>
    simp only [executeCapped]
    cases hread : readResponse responseCap [] chunks with
    | ok body => rfl
    | error error => exact readResponse_error hread

inductive ExchangeTerminal
  | inFlight
  | completed
  | failed
  | timedOut
  | canceled
deriving DecidableEq

/-- What the handler and the task share. -/
structure ExchangeLifecycle where
  terminal : ExchangeTerminal
  cancelled : Bool
deriving DecidableEq

namespace ExchangeLifecycle

def begin : ExchangeLifecycle := ⟨.inFlight, false⟩

/-- Records a terminal only while the exchange is in flight, and tells whether it did. -/
def finish (lifecycle : ExchangeLifecycle) (next : ExchangeTerminal) : ExchangeLifecycle × Bool :=
  if next = .inFlight then (lifecycle, false)
  else if lifecycle.terminal ≠ .inFlight then (lifecycle, false)
  else ({ lifecycle with terminal := next }, true)

def cancel (lifecycle : ExchangeLifecycle) : ExchangeLifecycle := { lifecycle with cancelled := true }

variable (lifecycle : ExchangeLifecycle) (next : ExchangeTerminal)

theorem finish_terminal :
    (lifecycle.finish next).1.terminal =
      if lifecycle.terminal = .inFlight then next else lifecycle.terminal := by
  unfold finish
  split_ifs with hnext hterminal <;> simp_all

@[simp] theorem finish_cancelled : (lifecycle.finish next).1.cancelled = lifecycle.cancelled := by
  unfold finish
  split_ifs <;> rfl

theorem finish_won (hnext : next ≠ .inFlight) :
    (lifecycle.finish next).2 = true ↔ lifecycle.terminal = .inFlight := by
  unfold finish
  rw [if_neg hnext]
  split_ifs with hterminal
  · simpa using hterminal
  · simpa using hterminal

theorem finish_stable (hterminal : lifecycle.terminal ≠ .inFlight) :
    (lifecycle.finish next).1 = lifecycle := by
  unfold finish
  split_ifs
  · rfl
  · rfl

end ExchangeLifecycle

def ExchangeTerminal.ofResult : ExchangeResult → ExchangeTerminal
  | .ok _ => .completed
  | .error .upstreamTimeout => .timedOut
  | .error .clientCanceled => .canceled
  | .error _ => .failed

/-- The terminal `finish_error` records. -/
def ExchangeTerminal.ofError : RelayError → ExchangeTerminal
  | .clientCanceled => .canceled
  | .realtimeRequestBodyTimeout => .timedOut
  | .upstreamTimeout => .timedOut
  | _ => .failed

theorem ofResult_ne_inFlight (result : ExchangeResult) :
    ExchangeTerminal.ofResult result ≠ .inFlight := by
  unfold ExchangeTerminal.ofResult
  split <;> simp

theorem ofResult_failed {error : RelayError} (htimeout : error ≠ .upstreamTimeout)
    (hcanceled : error ≠ .clientCanceled) : ExchangeTerminal.ofResult (.error error) = .failed := by
  unfold ExchangeTerminal.ofResult
  split <;> simp_all

/-- The official REST handler and the private call-create handler. -/
inductive HandlerKind
  | official
  | privateCall
deriving DecidableEq

inductive HandlerPhase
  | begun
  | reading
  | prepared
  | refusing (error : RelayError)
  | awaiting
  | received (result : ExchangeResult)
  | joinFailed
  | leaving
  | dropping (won : Bool)
  | gone
deriving DecidableEq

/-- `checked` is a poll of the select that has seen the token clear. -/
inductive TaskPhase
  | absent
  | working
  | checked
  | decided (result : ExchangeResult)
  | recorded (result : ExchangeResult)
  | returned (result : ExchangeResult)
  | crashed
deriving DecidableEq

namespace TaskPhase

def isRunning : TaskPhase → Bool
  | working => true
  | checked => true
  | _ => false

/-- No terminal has been written for the task's result. -/
def isUnrecorded : TaskPhase → Bool
  | working => true
  | checked => true
  | decided _ => true
  | _ => false

def isLive : TaskPhase → Bool
  | working => true
  | checked => true
  | decided _ => true
  | recorded _ => true
  | _ => false

theorem isUnrecorded_of_isRunning {task : TaskPhase} (h : task.isRunning = true) :
    task.isUnrecorded = true := by
  cases task <;> first | rfl | cases h

end TaskPhase

structure Exchange where
  kind : HandlerKind
  lifecycle : ExchangeLifecycle
  handler : HandlerPhase
  /-- The handler holds the permit, which a spawn moves into the task. -/
  permit : Bool
  task : TaskPhase
  /-- The answer of the `finish` call the task makes. -/
  taskWon : Bool
deriving DecidableEq

inductive ExchangeEvent
  | acquire (granted : Bool)
  | bodyRead
  | bodyFailed (error : RelayError)
  | bodyTimedOut
  | rejected (error : RelayError)
  | spawn
  | recordError (error : RelayError)
  | receive (result : ExchangeResult)
  | respond (result : ExchangeResult)
  | joinError
  | recordJoinError (message : String)
  | disconnect
  | releasePermit
  | dropGuard
  | finishDrop (won : Bool)
  | observeCancellation
  | pollWork
  | workPending
  | workDone (result : ExchangeResult)
  | workTimedOut
  | record (result : ExchangeResult)
  | taskReturn (result : ExchangeResult)
  | taskCrash
deriving DecidableEq

/-- What a step does to the semaphore. -/
inductive PermitEffect
  | keep
  | take
  | give
deriving DecidableEq

inductive ExchangeOutput
  | readBody
  | contactUpstream
  | respond (result : ExchangeResult)
deriving DecidableEq

def joinErrorResponse (kind : HandlerKind) (message : String) : RelayError :=
  match kind with
  | .official => .upstreamFailed ("upstream exchange task failed: " ++ message)
  | .privateCall => .clientCanceled

namespace Exchange

def start (kind : HandlerKind) : Exchange := ⟨kind, .begin, .begun, false, .absent, false⟩

/-- The handler can be dropped where it awaits; only the private one awaits between body and spawn. -/
def atAwaitPoint (x : Exchange) : Bool :=
  x.handler = .reading || x.handler = .awaiting || (x.handler = .prepared && x.kind = .privateCall)

@[reducible] def Enabled (x : Exchange) : ExchangeEvent → Prop
  | .acquire _ => x.handler = .begun
  | .bodyRead => x.handler = .reading
  | .bodyFailed _ => x.handler = .reading
  | .bodyTimedOut => x.handler = .reading
  | .rejected _ => x.handler = .prepared
  | .spawn => x.handler = .prepared
  | .recordError error => x.handler = .refusing error
  | .receive result => x.handler = .awaiting ∧ x.task = .returned result
  | .respond result => x.handler = .received result
  | .joinError => x.handler = .awaiting ∧ x.task = .crashed
  | .recordJoinError _ => x.handler = .joinFailed
  | .disconnect => x.atAwaitPoint = true
  | .releasePermit => x.handler = .leaving ∧ x.permit = true
  | .dropGuard => x.handler = .leaving ∧ x.permit = false
  | .finishDrop won => x.handler = .dropping won
  | .observeCancellation => x.task = .working ∧ x.lifecycle.cancelled = true
  | .pollWork => x.task = .working ∧ x.lifecycle.cancelled = false
  | .workPending => x.task = .checked
  | .workDone result => x.task = .checked ∧ isExecuted result = true
  | .workTimedOut => x.task = .checked
  | .record result => x.task = .decided result
  | .taskReturn result => x.task = .recorded result
  | .taskCrash => x.task.isLive = true

instance (x : Exchange) (e : ExchangeEvent) : Decidable (x.Enabled e) := by
  cases e <;> infer_instance

def next (x : Exchange) : ExchangeEvent → Exchange
  | .acquire true => { x with handler := .reading, permit := true }
  | .acquire false => { x with handler := .refusing .tooManyActiveRealtimeRequests }
  | .bodyRead => { x with handler := .prepared }
  | .bodyFailed error => { x with handler := .refusing error }
  | .bodyTimedOut => { x with handler := .refusing .realtimeRequestBodyTimeout }
  | .rejected error => { x with handler := .refusing error }
  | .spawn => { x with handler := .awaiting, permit := false, task := .working }
  | .recordError error =>
    { x with lifecycle := (x.lifecycle.finish (.ofError error)).1, handler := .leaving }
  | .receive result => { x with handler := .received result }
  | .respond _ => { x with handler := .leaving }
  | .joinError => { x with handler := .joinFailed }
  | .recordJoinError _ =>
    { x with lifecycle := (x.lifecycle.finish .failed).1, handler := .leaving }
  | .disconnect => { x with handler := .leaving }
  | .releasePermit => { x with permit := false }
  | .dropGuard =>
    { x with
      lifecycle := (x.lifecycle.finish .canceled).1
      handler := .dropping (x.lifecycle.finish .canceled).2 }
  | .finishDrop won =>
    { x with lifecycle := if won then x.lifecycle.cancel else x.lifecycle, handler := .gone }
  | .observeCancellation => { x with task := .decided (.error .clientCanceled) }
  | .pollWork => { x with task := .checked }
  | .workPending => { x with task := .working }
  | .workDone result => { x with task := .decided result }
  | .workTimedOut => { x with task := .decided (.error .upstreamTimeout) }
  | .record result =>
    { x with
      lifecycle := (x.lifecycle.finish (.ofResult result)).1
      task := .recorded result
      taskWon := (x.lifecycle.finish (.ofResult result)).2 }
  | .taskReturn result => { x with task := .returned result }
  | .taskCrash => { x with task := .crashed }

def effect : ExchangeEvent → PermitEffect
  | .acquire true => .take
  | .releasePermit => .give
  | .taskReturn _ => .give
  | .taskCrash => .give
  | _ => .keep

def outputs (x : Exchange) : ExchangeEvent → List ExchangeOutput
  | .acquire true => [.readBody]
  | .spawn => [.contactUpstream]
  | .recordError error => [.respond (.error error)]
  | .respond result => [.respond result]
  | .recordJoinError message => [.respond (.error (joinErrorResponse x.kind message))]
  | _ => []

/-- One exchange on its own, with any answers from the semaphore. -/
def machine : TraceMachine Exchange ExchangeEvent ExchangeOutput where
  step x e := if x.Enabled e then some (x.next e, x.outputs e) else none

theorem machine_step {x x' : Exchange} {e : ExchangeEvent} {out : List ExchangeOutput} :
    machine.step x e = some (x', out) ↔ x.Enabled e ∧ x' = x.next e ∧ out = x.outputs e := by
  simp only [machine]
  split_ifs with henabled
  · simp [henabled, eq_comm]
  · simp [henabled]

section Invariant

def isEarly : HandlerPhase → Bool
  | .begun => true
  | .reading => true
  | .prepared => true
  | .refusing _ => true
  | _ => false

def guardDropped : HandlerPhase → Bool
  | .dropping _ => true
  | .gone => true
  | _ => false

/-- The permit is the handler's between the semaphore and the spawn. -/
structure Held (x : Exchange) : Prop where
  early : isEarly x.handler = true → x.task = .absent
  unpermitted : x.handler = .begun → x.permit = false
  permitted : x.handler = .reading ∨ x.handler = .prepared → x.permit = true
  unspawned : x.permit = true → x.task = .absent
  released : guardDropped x.handler = true → x.permit = false

/-- The slot is open until the side that comes first writes it. -/
structure Recorded (x : Exchange) : Prop where
  early : isEarly x.handler = true → x.lifecycle.terminal = .inFlight
  openSlot : x.task.isUnrecorded = true → guardDropped x.handler = false →
    x.lifecycle.terminal = .inFlight
  closedSlot : guardDropped x.handler = true → x.lifecycle.terminal ≠ .inFlight
  exposed : ∀ result, x.handler = .awaiting →
    x.task = .recorded result ∨ x.task = .returned result →
      x.lifecycle.terminal = .ofResult result
  received : ∀ result, x.handler = .received result →
    x.task = .returned result ∧ x.lifecycle.terminal = .ofResult result
  joined : x.handler = .joinFailed → x.task = .crashed
  once : x.taskWon = true →
    x.task ≠ .absent ∧ x.task.isUnrecorded = false ∧ x.lifecycle.terminal ≠ .inFlight

/-- The token is cancelled by a guard that finds the slot open, and by nothing else. -/
structure Cancels (x : Exchange) : Prop where
  winning : x.handler = .dropping true → x.taskWon = false
  losing : x.handler = .dropping false → x.task.isUnrecorded = false
  uncancelled : x.handler ≠ .gone → x.lifecycle.cancelled = false
  abandoned : x.handler = .gone → x.task.isRunning = true → x.lifecycle.cancelled = true
  own : x.taskWon = true → x.lifecycle.cancelled = false

structure Coherent (x : Exchange) : Prop where
  held : x.Held
  recorded : x.Recorded
  cancels : x.Cancels

attribute [local grind] isEarly guardDropped TaskPhase.isUnrecorded TaskPhase.isRunning
  TaskPhase.isLive ExchangeLifecycle.cancel

theorem coherent_start (kind : HandlerKind) : (start kind).Coherent := by
  refine ⟨?_, ?_, ?_⟩ <;> constructor <;>
    simp [start, ExchangeLifecycle.begin, isEarly, guardDropped, TaskPhase.isUnrecorded]

section Step
variable {x : Exchange} {e : ExchangeEvent}

theorem held_next (h : x.Held) (he : x.Enabled e) : (x.next e).Held := by
  obtain ⟨early, unpermitted, permitted, unspawned, released⟩ := h
  cases e with
  | acquire granted =>
    simp only [Enabled] at he
    cases granted <;> simp only [next] <;> constructor <;> grind -ring -linarith
  | disconnect =>
    simp only [Enabled, next, atAwaitPoint] at he ⊢
    constructor <;> grind -ring -linarith
  | _ =>
    simp only [Enabled, next] at he ⊢
    constructor <;> grind -ring -linarith

/-- The slot is written by the steps that call `finish`; every other step moves one side on. -/
theorem recorded_next (held : x.Held) (h : x.Recorded) (he : x.Enabled e) :
    (x.next e).Recorded := by
  have absent := held.early
  obtain ⟨early, openSlot, closedSlot, exposed, received, joined, once⟩ := h
  cases e with
  | record result =>
    have hne := ofResult_ne_inFlight result
    have hterminal := x.lifecycle.finish_terminal (.ofResult result)
    have hwon := x.lifecycle.finish_won (.ofResult result) hne
    simp only [Enabled, next] at he ⊢
    constructor <;> grind -ring -linarith
  | dropGuard =>
    have hterminal := x.lifecycle.finish_terminal .canceled
    simp only [Enabled, next] at he ⊢
    constructor <;> grind -ring -linarith
  | finishDrop won =>
    simp only [Enabled] at he
    cases won <;> simp only [next] <;> constructor <;> grind -ring -linarith
  | recordError error =>
    have hterminal := x.lifecycle.finish_terminal (.ofError error)
    simp only [Enabled, next] at he ⊢
    constructor <;> grind -ring -linarith
  | recordJoinError message =>
    have hterminal := x.lifecycle.finish_terminal .failed
    simp only [Enabled, next] at he ⊢
    constructor <;> grind -ring -linarith
  | acquire granted =>
    simp only [Enabled] at he
    cases granted <;> simp only [next] <;> constructor <;> grind -ring -linarith
  | disconnect =>
    simp only [Enabled, next, atAwaitPoint] at he ⊢
    constructor <;> grind -ring -linarith
  | _ =>
    simp only [Enabled, next] at he ⊢
    constructor <;> grind -ring -linarith

/-- The token follows the slot: the guard that cancels has found it open, so no result of the task
was recorded, and a guard that finds it closed leaves no work running. -/
theorem cancels_next (held : x.Held) (recorded : x.Recorded) (h : x.Cancels) (he : x.Enabled e) :
    (x.next e).Cancels := by
  have absent := held.early
  have openSlot := recorded.openSlot
  have closedSlot := recorded.closedSlot
  have once := recorded.once
  have hrunning := @TaskPhase.isUnrecorded_of_isRunning x.task
  obtain ⟨winning, losing, uncancelled, abandoned, own⟩ := h
  cases e with
  | record result =>
    have hwon := x.lifecycle.finish_won (.ofResult result) (ofResult_ne_inFlight result)
    have hcancelled := x.lifecycle.finish_cancelled (.ofResult result)
    simp only [Enabled, next] at he ⊢
    constructor <;> grind -ring -linarith
  | dropGuard =>
    have hwon := x.lifecycle.finish_won .canceled (by simp)
    have hcancelled := x.lifecycle.finish_cancelled .canceled
    simp only [Enabled, next] at he ⊢
    constructor <;> grind -ring -linarith
  | finishDrop won =>
    simp only [Enabled] at he
    cases won <;> simp only [next] <;> constructor <;> grind -ring -linarith
  | recordError error =>
    have hcancelled := x.lifecycle.finish_cancelled (.ofError error)
    simp only [Enabled, next] at he ⊢
    constructor <;> grind -ring -linarith
  | recordJoinError message =>
    have hcancelled := x.lifecycle.finish_cancelled .failed
    simp only [Enabled, next] at he ⊢
    constructor <;> grind -ring -linarith
  | acquire granted =>
    simp only [Enabled] at he
    cases granted <;> simp only [next] <;> constructor <;> grind -ring -linarith
  | disconnect =>
    simp only [Enabled, next, atAwaitPoint] at he ⊢
    constructor <;> grind -ring -linarith
  | _ =>
    simp only [Enabled, next] at he ⊢
    constructor <;> grind -ring -linarith

theorem coherent_next (h : x.Coherent) (he : x.Enabled e) : (x.next e).Coherent where
  held := held_next h.held he
  recorded := recorded_next h.held h.recorded he
  cancels := cancels_next h.held h.recorded h.cancels he

end Step

end Invariant

theorem coherent_run {x x' : Exchange} {es : List ExchangeEvent} {t : List ExchangeOutput}
    (hrun : machine.run x es = some (x', t)) (h : x.Coherent) : x'.Coherent := by
  refine machine.run_preserves ?_ hrun h
  intro y e y' out hy hstep
  obtain ⟨henabled, rfl, -⟩ := machine_step.mp hstep
  exact coherent_next hy henabled

theorem terminal_next {x : Exchange} {e : ExchangeEvent} (h : x.lifecycle.terminal ≠ .inFlight) :
    (x.next e).lifecycle.terminal = x.lifecycle.terminal := by
  cases e with
  | recordError error => exact congrArg _ (x.lifecycle.finish_stable (.ofError error) h)
  | recordJoinError message => exact congrArg _ (x.lifecycle.finish_stable .failed h)
  | dropGuard => exact congrArg _ (x.lifecycle.finish_stable .canceled h)
  | record result => exact congrArg _ (x.lifecycle.finish_stable (.ofResult result) h)
  | finishDrop won => cases won <;> rfl
  | acquire granted => cases granted <;> rfl
  | _ => rfl

theorem terminal_run {x x' : Exchange} {es : List ExchangeEvent} {t : List ExchangeOutput}
    (hrun : machine.run x es = some (x', t)) (h : x.lifecycle.terminal ≠ .inFlight) :
    x'.lifecycle.terminal = x.lifecycle.terminal := by
  refine machine.run_preserves (P := fun y => y.lifecycle.terminal = x.lifecycle.terminal)
    ?_ hrun rfl
  intro y e y' out hy hstep
  obtain ⟨-, rfl, -⟩ := machine_step.mp hstep
  rw [terminal_next (by rwa [hy]), hy]

theorem taskWon_next {x : Exchange} {e : ExchangeEvent} (h : x.Coherent) (he : x.Enabled e)
    (hwon : x.taskWon = true) : (x.next e).taskWon = true := by
  cases e with
  | record result =>
    have hdecided : x.task = .decided result := he
    have hrecorded := (h.recorded.once hwon).2.1
    rw [hdecided] at hrecorded
    cases hrecorded
  | finishDrop won => cases won <;> exact hwon
  | acquire granted => cases granted <;> exact hwon
  | _ => exact hwon

theorem taskWon_run {x x' : Exchange} {es : List ExchangeEvent} {t : List ExchangeOutput}
    (hrun : machine.run x es = some (x', t)) (h : x.Coherent) (hwon : x.taskWon = true) :
    x'.taskWon = true := by
  refine (machine.run_preserves (P := fun y => y.Coherent ∧ y.taskWon = true) ?_ hrun
    ⟨h, hwon⟩).2
  rintro y e y' out ⟨hy, hywon⟩ hstep
  obtain ⟨henabled, rfl, -⟩ := machine_step.mp hstep
  exact ⟨coherent_next hy henabled, taskWon_next hy henabled hywon⟩

/-- The exchange protocol, over every interleaving of the handler and the task: `s₁` is any state a
run reaches and `s₂` any state it reaches from there. -/
theorem exchange_protocol {kind : HandlerKind} {es fs : List ExchangeEvent} {s₁ s₂ : Exchange}
    {t₁ t₂ : List ExchangeOutput} (h₁ : machine.run (start kind) es = some (s₁, t₁))
    (h₂ : machine.run s₁ fs = some (s₂, t₂)) :
    (s₁.lifecycle.terminal ≠ .inFlight → s₂.lifecycle.terminal = s₁.lifecycle.terminal) ∧
    (s₂.handler = .gone → s₂.task.isRunning = true → s₂.lifecycle.cancelled = true) ∧
    (s₁.taskWon = true → s₂.lifecycle.cancelled = false) ∧
    (∀ response, s₂.handler = .received (.ok response) → s₂.lifecycle.terminal = .completed) ∧
    (s₂.handler = .received (.error .upstreamTimeout) → s₂.lifecycle.terminal = .timedOut) ∧
    (s₂.handler = .received (.error .clientCanceled) → s₂.lifecycle.terminal = .canceled) ∧
    ∀ error, s₂.handler = .received (.error error) → error ≠ .upstreamTimeout →
      error ≠ .clientCanceled → s₂.lifecycle.terminal = .failed := by
  have hs₁ : s₁.Coherent := coherent_run h₁ (coherent_start kind)
  have hs₂ : s₂.Coherent := coherent_run h₂ hs₁
  refine ⟨fun hterminal => terminal_run h₂ hterminal, hs₂.cancels.abandoned,
    fun hwon => hs₂.cancels.own (taskWon_run h₂ hs₁ hwon), ?_, ?_, ?_, ?_⟩
  · intro response hreceived
    exact (hs₂.recorded.received _ hreceived).2
  · intro hreceived
    exact (hs₂.recorded.received _ hreceived).2
  · intro hreceived
    exact (hs₂.recorded.received _ hreceived).2
  · intro error hreceived htimeout hcanceled
    rw [(hs₂.recorded.received _ hreceived).2]
    exact ofResult_failed htimeout hcanceled

theorem timed_out_exchange_protocol : ∃ s₁ s₂ t₁ t₂,
    machine.run (start .official) [.acquire true, .bodyRead, .spawn, .pollWork, .workTimedOut,
      .record (.error .upstreamTimeout)] = some (s₁, t₁) ∧
    machine.run s₁ [.taskReturn (.error .upstreamTimeout), .receive (.error .upstreamTimeout)] =
      some (s₂, t₂) ∧
    s₂.lifecycle.terminal = s₁.lifecycle.terminal ∧ s₂.lifecycle.terminal = .timedOut ∧
    s₂.lifecycle.cancelled = false := by
  refine ⟨_, _, _, _, rfl, rfl, ?_⟩
  obtain ⟨hstable, -, hown, -, htimeout, -⟩ := @exchange_protocol .official
    [.acquire true, .bodyRead, .spawn, .pollWork, .workTimedOut, .record (.error .upstreamTimeout)]
    [.taskReturn (.error .upstreamTimeout), .receive (.error .upstreamTimeout)] _ _ _ _ rfl rfl
  exact ⟨hstable nofun, htimeout rfl, hown rfl⟩

end Exchange

end GptLiveProxy
