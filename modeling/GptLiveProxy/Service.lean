import GptLiveProxy.Connections
import GptLiveProxy.Dispatch
import GptLiveProxy.RestCalls

/-!
# The service as a whole

Requests arrive at any time and pass the boundary in two steps, since the drain flag is read twice;
what the boundary admits is dispatched, answered, or put into one of the two pools, whose members
then take their steps in any order. A drain begins at any time and is never taken back.
-/

namespace GptLiveProxy
open CharText PermitUser

/-- `callers` and `clients` are the requests of the calls and of the sockets, by position; a request
waits between the two reads of the flag. -/
structure Service where
  draining : Bool
  waiting : List Inbound
  calls : RestCalls
  callers : List Inbound
  sockets : Connections
  clients : List Inbound

/-- A request arrives at the first read of the flag and enters at the second. -/
inductive ServiceEvent
  | drain
  | arrive (request : Inbound)
  | enter (i : Nat) (clientRequest : ClientRequest)
  | call (i : Nat) (event : RestEvent)
  | socket (i : Nat) (event : ConnectionEvent)

inductive ServiceOutput
  | drained
  | answered (request : Inbound) (response : Response)
  | admitted (request : Inbound)
  | crashed (request : Inbound)
  | call (i : Nat) (output : RestOutput)
  | socket (i : Nat) (output : ConnectionOutput)

/-- Readiness is stricter than liveness: a service that drains, or one of whose pools is fully
occupied, should receive no new traffic. -/
def readyzStatus (draining : Bool) (requests connections : Nat) : Nat :=
  if !draining && decide (0 < requests) && decide (0 < connections) then 200 else 503

namespace Service

def start (limits : Limits) : Service :=
  ⟨false, [], startPool limits.activeRequests, [], startPool limits.activeConnections, []⟩

def answer (d : Deployment) (r : Inbound) (response : Response) : ServiceOutput :=
  .answered r (applyCors d.uris d.config r.headers response)

def addCall (s : Service) (r : Inbound) (plan : RestPlan) : Service :=
  { s with
    calls := ⟨s.calls.available, s.calls.members ++ [.start plan]⟩
    callers := s.callers ++ [r] }

def addSocket (s : Service) (r : Inbound) (plan : ConnectionPlan) : Service :=
  { s with
    sockets := ⟨s.sockets.available, s.sockets.members ++ [.start plan]⟩
    clients := s.clients ++ [r] }

/-- A panic drops the request without an answer. -/
def handle (d : Deployment) (s : Service) (r : Inbound) :
    Outcome RelayError Dispatched → Service × List ServiceOutput
  | .ok (.answer response) => (s, [.admitted r, answer d r response])
  | .ok (.call plan) => (s.addCall r plan, [.admitted r])
  | .ok (.socket plan) => (s.addSocket r plan, [.admitted r])
  | .error error => (s, [.admitted r, answer d r error.intoResponse])
  | .panicked => (s, [.admitted r, .crashed r])

def step (d : Deployment) (s : Service) : ServiceEvent → Option (Service × List ServiceOutput)
  | .drain => some ({ s with draining := true }, [.drained])
  | .arrive r =>
    if r.isProbe then none
    else if s.draining then some (s, [answer d r RelayError.draining.intoResponse])
    else if r.method = .options then
      some (s, [answer d r ⟨preflightStatus d.uris r.headers d.config, .empty, .empty⟩])
    else some ({ s with waiting := s.waiting ++ [r] }, [])
  | .enter i clientRequest =>
    s.waiting[i]?.map fun r =>
      match guard d.uris r.headers d.config s.draining r.kind with
      | .error error =>
        ({ s with waiting := s.waiting.eraseIdx i }, [answer d r error.intoResponse])
      | .ok () => handle d { s with waiting := s.waiting.eraseIdx i } r (dispatch d clientRequest r)
  | .call i e =>
    ((restCallsMachine d).step s.calls (.act i e)).map fun next =>
      ({ s with calls := next.1 }, next.2.map fun o => .call o.1 o.2)
  | .socket i e =>
    ((connectionsMachine d.config.limits).step s.sockets (.act i e)).map fun next =>
      ({ s with sockets := next.1 }, next.2.map fun o => .socket o.1 o.2)

def machine (d : Deployment) : TraceMachine Service ServiceEvent ServiceOutput where
  step s e := s.step d e

end Service

def handlerAnswer : Outcome RelayError Dispatched → Option Response
  | .ok (.answer response) => some response
  | .error error => some error.intoResponse
  | _ => none

/-- The requests the boundary lets through: those it has looked at before any drain. -/
structure Cleared (d : Deployment) (s : Service) (r : Inbound) : Prop where
  undrained : s.draining = false
  guarded : guard d.uris r.headers d.config false r.kind = .ok ()

/-- Everything a step of the service can be. -/
inductive ServiceStep (d : Deployment) (s : Service) :
    ServiceEvent → Service → List ServiceOutput → Prop
  | drain : ServiceStep d s .drain { s with draining := true } [.drained]
  | refuse {r : Inbound} {response : Response} (hprobe : r.isProbe = false)
      (hboundary : ∀ after, boundaryAnswer d.uris d.config ⟨s.draining, after⟩ r.method r.headers
        r.kind = some response) :
    ServiceStep d s (.arrive r) s [Service.answer d r response]
  | wait {r : Inbound} (hprobe : r.isProbe = false) (hdraining : s.draining = false)
      (hmethod : r.method ≠ .options) :
    ServiceStep d s (.arrive r) { s with waiting := s.waiting ++ [r] } []
  | reject {i : Nat} {clientRequest : ClientRequest} {r : Inbound} {error : RelayError}
      (hwaiting : s.waiting[i]? = some r)
      (hguard : guard d.uris r.headers d.config s.draining r.kind = .error error) :
    ServiceStep d s (.enter i clientRequest) { s with waiting := s.waiting.eraseIdx i }
      [Service.answer d r error.intoResponse]
  | reply {i : Nat} {clientRequest : ClientRequest} {r : Inbound} {response : Response}
      (hwaiting : s.waiting[i]? = some r) (hcleared : Cleared d s r)
      (hanswer : handlerAnswer (dispatch d clientRequest r) = some response) :
    ServiceStep d s (.enter i clientRequest) { s with waiting := s.waiting.eraseIdx i }
      [.admitted r, Service.answer d r response]
  | crash {i : Nat} {clientRequest : ClientRequest} {r : Inbound}
      (hwaiting : s.waiting[i]? = some r) (hcleared : Cleared d s r)
      (hpanic : dispatch d clientRequest r = .panicked) :
    ServiceStep d s (.enter i clientRequest) { s with waiting := s.waiting.eraseIdx i }
      [.admitted r, .crashed r]
  | startCall {i : Nat} {clientRequest : ClientRequest} {r : Inbound} {plan : RestPlan}
      (hwaiting : s.waiting[i]? = some r) (hcleared : Cleared d s r)
      (hdispatch : dispatch d clientRequest r = .ok (.call plan)) :
    ServiceStep d s (.enter i clientRequest)
      (Service.addCall { s with waiting := s.waiting.eraseIdx i } r plan) [.admitted r]
  | startSocket {i : Nat} {clientRequest : ClientRequest} {r : Inbound} {plan : ConnectionPlan}
      (hwaiting : s.waiting[i]? = some r) (hcleared : Cleared d s r)
      (hdispatch : dispatch d clientRequest r = .ok (.socket plan)) :
    ServiceStep d s (.enter i clientRequest)
      (Service.addSocket { s with waiting := s.waiting.eraseIdx i } r plan) [.admitted r]
  | call {i : Nat} {e : RestEvent} {calls : RestCalls} {out : List (Nat × RestOutput)}
      (hstep : (restCallsMachine d).step s.calls (.act i e) = some (calls, out)) :
    ServiceStep d s (.call i e) { s with calls := calls } (out.map fun o => .call o.1 o.2)
  | socket {i : Nat} {e : ConnectionEvent} {sockets : Connections}
      {out : List (Nat × ConnectionOutput)}
      (hstep : (connectionsMachine d.config.limits).step s.sockets (.act i e) =
        some (sockets, out)) :
    ServiceStep d s (.socket i e) { s with sockets := sockets } (out.map fun o => .socket o.1 o.2)

namespace Service
variable {d : Deployment} {s s' : Service} {e : ServiceEvent} {out : List ServiceOutput}

theorem cleared_of_guard {r : Inbound}
    (h : guard d.uris r.headers d.config s.draining r.kind = .ok ()) : Cleared d s r := by
  have hundrained := (guard_eq_ok.mp h).1
  rw [hundrained] at h
  exact ⟨hundrained, h⟩

theorem serviceStep_of_step (h : s.step d e = some (s', out)) : ServiceStep d s e s' out := by
  cases e with
  | drain =>
    cases h
    exact .drain
  | arrive r =>
    simp only [step] at h
    split_ifs at h with hprobe hdraining hmethod
    · cases h
      exact .refuse (by simpa using hprobe) fun after => if_pos hdraining
    · cases h
      refine .refuse (by simpa using hprobe) fun after => ?_
      rw [boundaryAnswer, if_neg hdraining, if_pos hmethod]
    · cases h
      exact .wait (by simpa using hprobe) (by simpa using hdraining) hmethod
  | enter i clientRequest =>
    obtain ⟨r, hwaiting, h⟩ := Option.map_eq_some_iff.mp h
    cases hguard : guard d.uris r.headers d.config s.draining r.kind with
    | error error =>
      rw [hguard] at h
      cases h
      exact .reject hwaiting hguard
    | ok u =>
      rw [hguard] at h
      have hcleared := cleared_of_guard hguard
      cases hdispatch : dispatch d clientRequest r with
      | ok dispatched =>
        rw [hdispatch] at h
        cases dispatched with
        | answer response =>
          cases h
          exact .reply hwaiting hcleared (by rw [hdispatch, handlerAnswer])
        | call plan =>
          cases h
          exact .startCall hwaiting hcleared hdispatch
        | socket plan =>
          cases h
          exact .startSocket hwaiting hcleared hdispatch
      | error error =>
        rw [hdispatch] at h
        cases h
        exact .reply hwaiting hcleared (by rw [hdispatch, handlerAnswer])
      | panicked =>
        rw [hdispatch] at h
        cases h
        exact .crash hwaiting hcleared hdispatch
  | call i e =>
    obtain ⟨⟨calls, o⟩, hstep, h⟩ := Option.map_eq_some_iff.mp h
    cases h
    exact .call hstep
  | socket i e =>
    obtain ⟨⟨sockets, o⟩, hstep, h⟩ := Option.map_eq_some_iff.mp h
    cases h
    exact .socket hstep

end Service

end GptLiveProxy
