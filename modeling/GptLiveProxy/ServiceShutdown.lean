import GptLiveProxy.ConnectionProgress
import GptLiveProxy.RestProgress
import GptLiveProxy.ServiceRuns

/-!
# Capacity, drain and shutdown

The readiness probe tells whether the service takes on work: it looks at the drain flag and at what
is left in both pools. A drain lets nothing new in, and from every state the service can reach there
is a way to its end in which no client and no upstream takes part.
-/

namespace GptLiveProxy
open TraceMachine PermitUser

namespace Service
variable {d : Deployment} {es : List ServiceEvent} {s s' : Service} {e : ServiceEvent}
  {t out : List ServiceOutput}

section Capacity

/-- The permits of both pools, free ones and held ones. -/
structure Capacity (d : Deployment) (s : Service) : Prop where
  calls : s.calls.available + s.calls.requests.holding + s.calls.requests.running =
    d.config.limits.activeRequests
  sockets : s.sockets.available + s.sockets.members.countP (·.phase.holdsPermit) =
    d.config.limits.activeConnections

theorem Sound.capacity (h : Sound d es s t) : Capacity d s := by
  obtain ⟨es, hcalls, -⟩ := h.calls
  obtain ⟨fs, hsockets, -⟩ := h.sockets
  exact ⟨(calls_conserved hcalls).total, permits_add_up hsockets⟩

theorem readyzStatus_eq_ok {draining : Bool} {requests connections : Nat} :
    readyzStatus draining requests connections = 200 ↔
      draining = false ∧ 0 < requests ∧ 0 < connections := by
  unfold readyzStatus
  split_ifs with hready
  · simp only [Bool.and_eq_true, Bool.not_eq_true', decide_eq_true_eq] at hready
    exact iff_of_true rfl ⟨hready.1.1, hready.1.2, hready.2⟩
  · refine iff_of_false (by decide) ?_
    rintro ⟨rfl, hrequests, hconnections⟩
    simp [hrequests, hconnections] at hready

theorem granted_call {i : Nat} {permitted : Bool}
    (hstep : s.step d (.call i (.exchange (.acquire permitted))) = some (s', out)) :
    permitted = decide (0 < s.calls.available) := by
  obtain ⟨next, hact, -⟩ := Option.map_eq_some_iff.mp hstep
  obtain ⟨x, x', o, -, -, hanswers, -, -⟩ := (RestCall.user d).pool_act.mp hact
  simpa [Answers, RestCall.user] using hanswers

theorem granted_socket {i : Nat} {permitted : Bool}
    (hstep : s.step d (.socket i (.acquire permitted)) = some (s', out)) :
    permitted = decide (0 < s.sockets.available) := by
  obtain ⟨next, hact, -⟩ := Option.map_eq_some_iff.mp hstep
  obtain ⟨x, x', o, -, -, hanswers, -, -⟩ := (Connection.user d.config.limits).pool_act.mp hact
  simpa [Answers, Connection.user] using hanswers

end Capacity

section Drain

/-- What is left unchanged while a drain goes on: nothing is let in, and what is answered at once is
answered with the refusal. -/
structure Closed (d : Deployment) (s : Service) (s' : Service) (u : List ServiceOutput) : Prop where
  draining : s'.draining = true
  callers : s'.callers = s.callers
  clients : s'.clients = s.clients
  admitted : ∀ r, .admitted r ∉ u
  answered : ∀ r response, .answered r response ∈ u →
    response = applyCors d.uris d.config r.headers RelayError.draining.intoResponse

theorem guard_draining {r : Inbound} {error : RelayError} (hdraining : s.draining = true)
    (h : guard d.uris r.headers d.config s.draining r.kind = .error error) : error = .draining := by
  rw [hdraining] at h
  exact (Except.error.inj h).symm

theorem closed_step (hdraining : s.draining = true) (hstep : ServiceStep d s e s' out) :
    Closed d s s' out := by
  have hopen {r : Inbound} (hcleared : Cleared d s r) : False := by
    rw [hcleared.undrained] at hdraining
    cases hdraining
  cases hstep with
  | drain => exact ⟨rfl, rfl, rfl, by simp, by simp⟩
  | @refuse r response hprobe hboundary =>
    have hresponse : response = RelayError.draining.intoResponse := by
      have h := hboundary true
      rw [boundaryAnswer, if_pos hdraining] at h
      exact (Option.some.inj h).symm
    refine ⟨hdraining, rfl, rfl, by simp [answer], ?_⟩
    intro q answered hmem
    obtain ⟨rfl, rfl⟩ : q = r ∧ answered = applyCors d.uris d.config r.headers response := by
      simpa [answer] using hmem
    rw [hresponse]
  | wait hprobe hundrained hmethod =>
    rw [hundrained] at hdraining
    cases hdraining
  | @reject i clientRequest r error hwaiting hguard =>
    obtain rfl := guard_draining hdraining hguard
    refine ⟨hdraining, rfl, rfl, by simp [answer], ?_⟩
    intro q answered hmem
    obtain ⟨rfl, rfl⟩ : q = r ∧ answered =
        applyCors d.uris d.config r.headers RelayError.draining.intoResponse := by
      simpa [answer] using hmem
    rfl
  | reply hwaiting hcleared hanswer => exact (hopen hcleared).elim
  | crash hwaiting hcleared hpanic => exact (hopen hcleared).elim
  | startCall hwaiting hcleared hdispatch => exact (hopen hcleared).elim
  | startSocket hwaiting hcleared hdispatch => exact (hopen hcleared).elim
  | call hstep => exact ⟨hdraining, rfl, rfl, by simp, by simp⟩
  | socket hstep => exact ⟨hdraining, rfl, rfl, by simp, by simp⟩

theorem closed_run (hdraining : s.draining = true) {es : List ServiceEvent}
    (hmore : (machine d).run s es = some (s', out)) : Closed d s s' out := by
  refine (machine d).run_invariant (P := Closed d s)
    ⟨hdraining, rfl, rfl, by simp, by simp⟩ ?_ hmore
  intro q u e q' o h hstep
  have hnext := closed_step h.draining (serviceStep_of_step hstep)
  refine ⟨hnext.draining, hnext.callers.trans h.callers, hnext.clients.trans h.clients, ?_, ?_⟩
  · intro r hmem
    rcases List.mem_append.mp hmem with hold | hnew
    · exact h.admitted r hold
    · exact hnext.admitted r hnew
  · intro r response hmem
    rcases List.mem_append.mp hmem with hold | hnew
    · exact h.answered r response hold
    · exact hnext.answered r response hnew

end Drain

section Shutdown

/-- The events in which no client and no upstream takes part. -/
def Unaided (d : Deployment) : ServiceEvent → Prop
  | .drain => True
  | .arrive _ => False
  | .enter _ _ => True
  | .call _ e => e.isUnaided = true ∨ ((RestCall.user d).asks e).isSome = true
  | .socket _ e => e.isUnaided = true ∨ ((Connection.user d.config.limits).asks e).isSome = true

/-- The service has stopped: nobody waits, nothing runs, and every permit is back. -/
structure Stopped (d : Deployment) (s : Service) : Prop where
  draining : s.draining = true
  waiting : s.waiting = []
  calls : s.calls.available = d.config.limits.activeRequests ∧
    ∀ x ∈ s.calls.members, x.isOver = true
  sockets : s.sockets.available = d.config.limits.activeConnections ∧
    ∀ x ∈ s.sockets.members, x.isEnded = true

def noClient : ClientRequest := ⟨fun _ => .empty, fun _ _ h => absurd rfl h⟩

theorem canReach_unattended (hdraining : s.draining = true) :
    (machine d).CanReach (Unaided d) (fun s' => s' = { s with waiting := [] }) s := by
  refine canReach_of_rank
    (P := fun q => q.draining = true ∧ { q with waiting := [] } = { s with waiting := [] })
    (fun q => q.waiting.length) ?_ ⟨hdraining, rfl⟩
  intro q hq
  obtain ⟨hdraining, hsame⟩ := hq
  cases hwaiting : q.waiting with
  | nil =>
    refine .inl ?_
    rw [← hsame, ← hwaiting]
  | cons r rest =>
    have hstep : (machine d).step q (.enter 0 noClient) =
        some ({ q with waiting := rest }, [answer d r RelayError.draining.intoResponse]) := by
      simp only [machine, step, hwaiting, guard, hdraining]
      rfl
    refine .inr ⟨.enter 0 noClient, _, _, trivial, hstep, ⟨hdraining, hsame⟩, ?_⟩
    simp only [List.length_cons]
    omega

/-- What the calls can reach, the service can reach through them alone. -/
theorem canReach_calls {allowed : PoolEvent RestPlan RestEvent → Prop} {goal : RestCalls → Prop}
    (hallowed : ∀ e, allowed e → ∃ i f, e = .act i f ∧ Unaided d (.call i f))
    (h : (restCallsMachine d).CanReach allowed goal s.calls) :
    (machine d).CanReach (Unaided d) (fun s' => ∃ calls, goal calls ∧ s' = { s with calls := calls })
      s := by
  refine h.simulate (R := fun calls q => q = { s with calls := calls }) ?_ ?_ rfl
  · rintro calls q e calls' o rfl he hstep
    obtain ⟨i, f, rfl, hunaided⟩ := hallowed e he
    have hnext : (machine d).step { s with calls := calls } (.call i f) =
        some ({ s with calls := calls' }, o.map fun p => .call p.1 p.2) := by
      simp only [machine, step, hstep, Option.map_some]
    exact ⟨_, _, _, hunaided, hnext, rfl⟩
  · rintro calls q rfl hgoal
    exact .of_goal ⟨calls, hgoal, rfl⟩

theorem canReach_sockets {allowed : PoolEvent ConnectionPlan ConnectionEvent → Prop}
    {goal : Connections → Prop}
    (hallowed : ∀ e, allowed e → ∃ i f, e = .act i f ∧ Unaided d (.socket i f))
    (h : (connectionsMachine d.config.limits).CanReach allowed goal s.sockets) :
    (machine d).CanReach (Unaided d)
      (fun s' => ∃ sockets, goal sockets ∧ s' = { s with sockets := sockets }) s := by
  refine h.simulate (R := fun sockets q => q = { s with sockets := sockets }) ?_ ?_ rfl
  · rintro sockets q e sockets' o rfl he hstep
    obtain ⟨i, f, rfl, hunaided⟩ := hallowed e he
    have hnext : (machine d).step { s with sockets := sockets } (.socket i f) =
        some ({ s with sockets := sockets' }, o.map fun p => .socket p.1 p.2) := by
      simp only [machine, step, hstep, Option.map_some]
    exact ⟨_, _, _, hunaided, hnext, rfl⟩
  · rintro sockets q rfl hgoal
    exact .of_goal ⟨sockets, hgoal, rfl⟩

theorem canReach_stopped (hidle : 0 < d.config.limits.websocketIdleTimeout) (h : Sound d es s t) :
    (machine d).CanReach (Unaided d)
      (fun s' => Stopped d s' ∧ s'.callers = s.callers ∧ s'.clients = s.clients) s := by
  obtain ⟨es, hcalls, -⟩ := h.calls
  obtain ⟨fs, hsockets, -⟩ := h.sockets
  have hdrain : (machine d).step s .drain = some ({ s with draining := true }, [.drained]) := rfl
  let drained : Service := { s with draining := true, waiting := [] }
  have hover := canReach_calls (s := drained) (fun e he => he) (calls_can_end hcalls)
  refine .step (e := .drain) trivial hdrain ((canReach_unattended rfl).trans ?_)
  rintro q rfl
  refine hover.trans ?_
  rintro q ⟨calls, hover, rfl⟩
  have hended := canReach_sockets (s := { drained with calls := calls }) (fun e he => he)
    (connections_can_end hidle hsockets)
  refine hended.mono (fun _ he => he) ?_
  rintro q ⟨sockets, hended, rfl⟩
  exact ⟨⟨rfl, rfl, hover, hended⟩, rfl, rfl⟩

end Shutdown

end Service

section Runs
variable {d : Deployment} {es fs : List ServiceEvent} {s s' : Service} {t u : List ServiceOutput}

/-- In every state the permits of both pools add up, and the probe says ready exactly when no drain
has begun and both pools have a permit left; a ready service refuses no permit. -/
theorem readiness_tells_capacity
    (hrun : (Service.machine d).run (Service.start d.config.limits) es = some (s, t)) :
    Service.Capacity d s ∧
    (readyzStatus s.draining s.calls.available s.sockets.available = 200 ↔
      .drained ∉ t ∧
        s.calls.requests.holding + s.calls.requests.running < d.config.limits.activeRequests ∧
        s.sockets.members.countP (·.phase.holdsPermit) < d.config.limits.activeConnections) ∧
    (readyzStatus s.draining s.calls.available s.sockets.available = 200 →
      (∀ i permitted next, (Service.machine d).step s (.call i (.exchange (.acquire permitted))) =
        some next → permitted = true) ∧
      ∀ i permitted next, (Service.machine d).step s (.socket i (.acquire permitted)) = some next →
        permitted = true) := by
  have hsound := Service.sound_run hrun
  have hcapacity := hsound.capacity
  refine ⟨hcapacity, ?_, ?_⟩
  · rw [Service.readyzStatus_eq_ok, ← hsound.drained, Bool.not_eq_true]
    have hcalls := hcapacity.calls
    have hsockets := hcapacity.sockets
    refine and_congr_right fun _ => ?_
    constructor
    · intro hleft
      omega
    · intro hheld
      omega
  · intro hready
    obtain ⟨-, hcalls, hsockets⟩ := Service.readyzStatus_eq_ok.mp hready
    constructor
    · intro i permitted next hstep
      rw [Service.granted_call hstep]
      exact decide_eq_true hcalls
    · intro i permitted next hstep
      rw [Service.granted_socket hstep]
      exact decide_eq_true hsockets

theorem sample_day_readiness : ∃ s t,
    (Service.machine sampleDeployment).run (Service.start sampleDeployment.config.limits)
        (sampleDay.take 10) = some (s, t) ∧
      Service.Capacity sampleDeployment s ∧
      readyzStatus s.draining s.calls.available s.sockets.available = 200 := by
  obtain ⟨s, t, hrun, hready⟩ := TraceMachine.exists_run_of_any
    (show ((Service.machine sampleDeployment).run (Service.start sampleDeployment.config.limits)
      (sampleDay.take 10)).any (fun r => readyzStatus r.1.draining r.1.calls.available
        r.1.sockets.available == 200) = true by decide +kernel)
  exact ⟨s, t, hrun, (readiness_tells_capacity hrun).1, eq_of_beq hready⟩

/-- Once a drain has begun, whatever happens next lets nothing in: no request is admitted, no call
and no socket is added, everything answered at once is refused, those included that have passed the
first read of the flag, and the service is never ready again. -/
theorem draining_admits_nothing
    (hrun : (Service.machine d).run (Service.start d.config.limits) es = some (s, t))
    (hdrained : .drained ∈ t) (hmore : (Service.machine d).run s fs = some (s', u)) :
    (∀ r, .admitted r ∉ u) ∧
      s'.calls.members.length = s.calls.members.length ∧
      s'.sockets.members.length = s.sockets.members.length ∧
      (∀ r response, .answered r response ∈ u →
        response = applyCors d.uris d.config r.headers RelayError.draining.intoResponse) ∧
      readyzStatus s'.draining s'.calls.available s'.sockets.available = 503 := by
  have hsound := Service.sound_run hrun
  have hsound' := Service.sound_run
    ((Service.machine d).run_append_iff.mpr ⟨s, t, u, hrun, hmore, rfl⟩)
  have hclosed := Service.closed_run (hsound.drained.mpr hdrained) hmore
  refine ⟨hclosed.admitted, ?_, ?_, hclosed.answered, ?_⟩
  · rw [← hsound'.calls.length_eq, hclosed.callers, hsound.calls.length_eq]
  · rw [← hsound'.sockets.length_eq, hclosed.clients, hsound.sockets.length_eq]
  · rw [hclosed.draining]
    rfl

theorem sample_drain_admits_nothing : ∃ s t s' u,
    (Service.machine sampleDeployment).run (Service.start sampleDeployment.config.limits)
        (sampleDay.take 12) = some (s, t) ∧
      (Service.machine sampleDeployment).run s (sampleDay.drop 12) = some (s', u) ∧
      (Service.answeredOf u).length = 2 ∧ ∀ r, .admitted r ∉ u := by
  obtain ⟨s, t, hrun, hmore⟩ := TraceMachine.exists_run_of_any
    (show ((Service.machine sampleDeployment).run (Service.start sampleDeployment.config.limits)
      (sampleDay.take 12)).any (fun r => r.1.draining &&
        ((Service.machine sampleDeployment).run r.1 (sampleDay.drop 12)).any
          (fun q => (Service.answeredOf q.2).length == 2)) = true by decide +kernel)
  obtain ⟨hdraining, hmore⟩ := Bool.and_eq_true_iff.mp hmore
  obtain ⟨s', u, hmore, hanswered⟩ := TraceMachine.exists_run_of_any hmore
  have hdrained := (Service.sound_run hrun).drained.mp hdraining
  exact ⟨s, t, s', u, hrun, hmore, eq_of_beq hanswered,
    (draining_admits_nothing hrun hdrained hmore).1⟩

/-- With an idle timeout configured, the service can stop from every state it can reach, with no
help from any client or upstream: a drain, the refusal of those who wait, and the service's own
timers and closes end every call and every socket, and all permits are back. -/
theorem service_can_shut_down (hidle : 0 < d.config.limits.websocketIdleTimeout)
    (hrun : (Service.machine d).run (Service.start d.config.limits) es = some (s, t)) :
    (Service.machine d).CanReach (Service.Unaided d)
      (fun s' => Service.Stopped d s' ∧ s'.callers = s.callers ∧ s'.clients = s.clients) s :=
  Service.canReach_stopped hidle (Service.sound_run hrun)

def idlingDeployment : Deployment :=
  { sampleDeployment with
    config := { publicManaged with
      limits := { publicManaged.limits with websocketIdleTimeout := 60000 } } }

theorem sample_day_can_shut_down : ∃ s t,
    (Service.machine idlingDeployment).run (Service.start idlingDeployment.config.limits)
        (sampleDay.take 11) = some (s, t) ∧
      s.waiting.length = 1 ∧
      (Service.machine idlingDeployment).CanReach (Service.Unaided idlingDeployment)
        (fun s' => Service.Stopped idlingDeployment s' ∧ s'.callers = s.callers ∧
          s'.clients = s.clients) s := by
  obtain ⟨s, t, hrun, hwaiting⟩ := TraceMachine.exists_run_of_any
    (show ((Service.machine idlingDeployment).run (Service.start idlingDeployment.config.limits)
      (sampleDay.take 11)).any (fun r => r.1.waiting.length == 1) = true by decide +kernel)
  exact ⟨s, t, hrun, eq_of_beq hwaiting, service_can_shut_down (by decide) hrun⟩

end Runs

end GptLiveProxy
