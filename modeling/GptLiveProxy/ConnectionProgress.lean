import GptLiveProxy.Connections
import GptLiveProxy.Permits
import GptLiveProxy.PumpProgress

/-!
# Every connection can end

From wherever a connection has got to, its own timers and closes lead to its end: the handshake, the
close of a misselected upstream, the connect future and each send have a timeout, and the relay has
the idle deadline, if one is configured. No peer has to take part, and no other connection.
-/

namespace GptLiveProxy
open TraceMachine PumpPhase PermitUser

/-- The events in which neither peer takes part; an upgrade that succeeds has more to wait for. -/
def ConnectionEvent.isUnaided : ConnectionEvent → Bool
  | .tick _ => true
  | .dial _ => true
  | .connectTimedOut => true
  | .closeFinished true => true
  | .proceed => true
  | .upgrade true => true
  | .pump e => e.isUnaided
  | .finish => true
  | .release => true
  | _ => false

/-- The connection can end by unaided events. -/
def Connection.CanEnd (limits : Limits) (x : Connection) : Prop :=
  (Connection.machine limits).CanReach (fun e => e.isUnaided = true) (·.phase = .ended) x

section Dialed
variable {policy : PumpPolicy} {s s' : Pump} {e : PumpEvent} {out : List PumpOutput}

theorem isConnecting_flush (queue : List TungMessage) : (flush queue).isConnecting = false := by
  cases queue <;> rfl

/-- The connecting loop is never entered again, and the end of the connect future ends it. -/
theorem isConnecting_step (hstep : PumpStep policy s e s' out)
    (hconnecting : s'.phase.isConnecting = true) :
    s.phase.isConnecting = true ∧ e.isDialed = false := by
  cases hstep with
  | tick duration => exact ⟨hconnecting, rfl⟩
  | arriveDownstream item => exact ⟨hconnecting, rfl⟩
  | arriveUpstream item => exact ⟨hconnecting, rfl⟩
  | skipQueueing hphase hinbox => exact ⟨hconnecting, rfl⟩
  | queue hphase hinbox hconverted haccept htotal => exact ⟨by rw [hphase]; rfl, rfl⟩
  | abort hactive hidle haborts hout =>
    obtain ⟨tell, code, reason, hphase, -⟩ := haborts
    rw [hphase] at hconnecting
    cases hconnecting
  | connected hphase =>
    rw [Pump.opened, isConnecting_flush] at hconnecting
    cases hconnecting
  | sentQueued hphase =>
    rw [isConnecting_flush] at hconnecting
    cases hconnecting
  | skipDownstream hphase hinbox | skipUpstream hphase hinbox =>
    rw [Pump.rearm, hphase] at hconnecting
    cases hconnecting
  | _ => cases hconnecting

/-- A pump that waits for its upstream has a connect future to wait for, and its deadline is armed
once it relays. -/
def Connection.Pending (limits : Limits) (x : Connection) : Prop :=
  ∀ dial pump, x.phase = .pumping dial pump →
    pump.Armed (x.plan.policy limits) ∧ (pump.phase.isConnecting = true → dial ≠ .settled)

variable {limits : Limits} {x x' : Connection} {event : ConnectionEvent}
  {o : List ConnectionOutput}

theorem dialing_step (hstep : ConnectionStep limits x event x' o) (h : x.Pending limits) :
    x'.Pending limits := by
  intro dial pump hpumping
  cases hstep with
  | wait duration => exact h dial pump hpumping
  | upgraded hphase =>
    cases hpumping
    refine ⟨armed_start _ _ _, ?_⟩
    cases x.plan.entry with
    | runConnected =>
      intro hconnecting
      cases hconnecting
    | runPrivateWith =>
      intro _ hsettled
      cases hsettled
  | contactLater hphase hurl =>
    cases hpumping
    refine ⟨(h _ _ hphase).1, ?_⟩
    intro _ hsettled
    cases hsettled
  | relay hphase he hdial hown hpump =>
    cases hpumping
    obtain ⟨harmed, hdialing⟩ := h _ _ hphase
    have hkind := Pump.pumpStep_of_step hpump
    refine ⟨armed_step hkind harmed, ?_⟩
    intro hconnecting
    obtain ⟨hbefore, hundialed⟩ := isConnecting_step hkind hconnecting
    rcases hdial with rfl | ⟨-, hdialed⟩
    · exact hdialing hbefore
    · rw [hundialed] at hdialed
      cases hdialed
  | refuse | prepare | switchFirst | contactFirst | accept | misselect | abandon | proceed | drop
  | finish | release => cases hpumping

theorem dialing_start (limits : Limits) (plan : ConnectionPlan) :
    (Connection.start plan).Pending limits := by
  intro dial pump hpumping
  cases hpumping

end Dialed

section Ends
variable {limits : Limits} {x : Connection}

theorem canEnd_of_leaving {answer : Option Response} (hphase : x.phase = .leaving answer) :
    x.CanEnd limits := by
  have hrelease : (Connection.machine limits).step x .release =
      some ({ x with phase := .ended }, answer.toList.map .respond) := by
    simp only [Connection.machine, Connection.step, hphase]
  exact .step rfl hrelease (.of_goal rfl)

theorem canEnd_of_returned {dial : DialPhase} {pump : Pump}
    (hphase : x.phase = .pumping dial pump) (hreturned : pump.HasReturned) : x.CanEnd limits := by
  obtain ⟨outcome, houtcome⟩ := Option.isSome_iff_exists.mp hreturned
  have hfinish : (Connection.machine limits).step x .finish =
      some ({ x with phase := .leaving none }, [.recorded outcome.label outcome.code]) := by
    simp only [Connection.machine, Connection.step, hphase, houtcome]
  exact .step rfl hfinish (canEnd_of_leaving rfl)

theorem isOwn_of_isUnaided {e : PumpEvent} (h : e.isUnaided = true) :
    (∃ duration, e = .tick duration) ∨ e.isOwn = true := by
  cases e with
  | tick duration => exact .inl ⟨duration, rfl⟩
  | connected => cases h
  | connectFailed => cases h
  | _ => exact .inr rfl

/-- The connection follows the unaided events of its pump. -/
theorem unaided_step {dial : DialPhase} {pump pump' : Pump} {e : PumpEvent} {out : List PumpOutput}
    (hphase : x.phase = .pumping dial pump) (he : e.isUnaided = true)
    (hstep : pump.step (x.plan.policy limits) e = some (pump', out)) :
    ∃ d, d.isUnaided = true ∧ (Connection.machine limits).step x d =
      some ({ x with phase := .pumping dial pump' }, out.map .pump) := by
  have hpumped : x.pumped limits dial pump e =
      some ({ x with phase := .pumping dial pump' }, out.map .pump) := by
    rw [Connection.pumped, hstep]
    rfl
  rcases isOwn_of_isUnaided he with ⟨duration, rfl⟩ | hown
  · refine ⟨.tick duration, rfl, ?_⟩
    simp only [Connection.machine, Connection.step, hphase, hpumped]
  · refine ⟨.pump e, he, ?_⟩
    simp only [Connection.machine, Connection.step, hphase, hown, if_true, hpumped]

theorem canEnd_of_canReturn {dial : DialPhase} {pump : Pump} (hphase : x.phase = .pumping dial pump)
    (h : pump.CanReturn (x.plan.policy limits)) : x.CanEnd limits := by
  refine h.simulate (R := fun p y => y.plan = x.plan ∧ y.phase = .pumping dial p) ?_ ?_
    ⟨rfl, hphase⟩
  · intro p y e p' out hy he hstep
    obtain ⟨hplan, hpumping⟩ := hy
    rw [← hplan] at hstep
    obtain ⟨d, hd, hnext⟩ := unaided_step hpumping he hstep
    exact ⟨d, _, _, hd, hnext, hplan, rfl⟩
  · intro p y hy hreturned
    exact canEnd_of_returned hy.2 hreturned

theorem connectFailed_step {policy : PumpPolicy} {pump : Pump} {queue : List TungMessage}
    {queuedBytes : Nat} (hphase : pump.phase = .connecting queue queuedBytes) :
    ∃ tell outcome, pump.step policy .connectFailed =
      some ({ pump with phase := .closing tell outcome }, []) := by
  have hfailed : pump.step policy .connectFailed = some ({ pump with
      phase := tellDownstream CODE_INTERNAL CLOSE_UPSTREAM_CONNECT_FAILED
        (.aborted CODE_INTERNAL CLOSE_UPSTREAM_CONNECT_FAILED) }, []) := by
    simp only [Pump.step, hphase]
  exact ⟨_, _, hfailed⟩

/-- A failed connect future ends the pump. -/
theorem canEnd_of_connectFailed {pump : Pump} {queue : List TungMessage} {queuedBytes : Nat}
    {d : ConnectionEvent}
    (hconnecting : pump.phase = .connecting queue queuedBytes) (hd : d.isUnaided = true)
    (hstep : x.step limits d = x.pumped limits .settled pump .connectFailed) : x.CanEnd limits := by
  obtain ⟨tell, outcome, hfailed⟩ :=
    @connectFailed_step (x.plan.policy limits) pump queue queuedBytes hconnecting
  have hnext : (Connection.machine limits).step x d = some ({ x with
      phase := .pumping .settled { pump with phase := .closing tell outcome } }, []) := by
    change x.step limits d = _
    rw [hstep, Connection.pumped, hfailed]
    rfl
  exact .step hd hnext (canEnd_of_canReturn rfl (canReturn_of_closing rfl))

theorem canEnd_of_dialing {started : Nat} {pump : Pump} {queue : List TungMessage}
    {queuedBytes : Nat} (hphase : x.phase = .pumping (.dialing started) pump)
    (hconnecting : pump.phase = .connecting queue queuedBytes) : x.CanEnd limits := by
  let duration := started + limits.websocketConnectTimeout
  have htick : (Connection.machine limits).step x (.tick duration) = some ({ x with
      phase := .pumping (.dialing started) { pump with now := pump.now + duration } }, []) := by
    simp only [Connection.machine, Connection.step, hphase]
    rfl
  have hlater : ({ pump with now := pump.now + duration } : Pump).phase =
      .connecting queue queuedBytes := hconnecting
  refine .step rfl htick (@canEnd_of_connectFailed _ _ _ _ _ .connectTimedOut hlater rfl ?_)
  have hdue : started + limits.websocketConnectTimeout ≤ pump.now + duration := by
    simp only [duration]
    omega
  simp only [Connection.step]
  exact if_pos hdue

theorem canEnd_of_pumping {dial : DialPhase} {pump : Pump} (hidle : 0 < limits.websocketIdleTimeout)
    (hphase : x.phase = .pumping dial pump) (hpending : x.Pending limits) : x.CanEnd limits := by
  obtain ⟨harmed, hdialing⟩ := hpending dial pump hphase
  cases hconnecting : pump.phase with
  | connecting queue queuedBytes =>
    cases dial with
    | settled => exact absurd rfl (hdialing (by rw [hconnecting]; rfl))
    | dialing started => exact canEnd_of_dialing hphase hconnecting
    | unpolled =>
      cases hurl : x.plan.url with
      | error error =>
        refine @canEnd_of_connectFailed _ _ _ _ _ (.dial true) hconnecting rfl ?_
        simp only [Connection.step, hphase, hconnecting, hurl]
      | ok url =>
        have hcontact : (Connection.machine limits).step x (.dial true) = some ({ x with
            phase := .pumping (.dialing pump.now) pump }, [.contact url x.plan.headers]) := by
          simp only [Connection.machine, Connection.step, hphase, hconnecting, hurl]
          rfl
        exact .step rfl hcontact (canEnd_of_dialing rfl hconnecting)
  | _ =>
    refine canEnd_of_canReturn hphase (canReturn_of_armed hidle harmed ?_)
    rw [hconnecting]
    rfl

theorem canEnd_of_upgrading (hidle : 0 < limits.websocketIdleTimeout)
    (hphase : x.phase = .upgrading) : x.CanEnd limits := by
  have hupgrade : (Connection.machine limits).step x (.upgrade true) = some ({ x with
      phase := .pumping (.ofEntry x.plan.entry) (Pump.start x.plan.entry x.now) }, []) := by
    simp only [Connection.machine, Connection.step, hphase]
    rfl
  have hpending : Connection.Pending limits { x with
      phase := .pumping (.ofEntry x.plan.entry) (Pump.start x.plan.entry x.now) } := by
    refine dialing_step (.upgraded hphase) ?_
    intro dial pump hpumping
    rw [hphase] at hpumping
    cases hpumping
  exact .step rfl hupgrade (canEnd_of_pumping hidle rfl hpending)

theorem canEnd_of_connecting {started : Nat} (hphase : x.phase = .connecting started) :
    x.CanEnd limits := by
  let duration := started + limits.websocketConnectTimeout
  have htick : (Connection.machine limits).step x (.tick duration) =
      some ({ x with now := x.now + duration }, []) := by
    simp only [Connection.machine, Connection.step, hphase]
  have htimeout : (Connection.machine limits).step { x with now := x.now + duration }
      .connectTimedOut = some ({ x with
        now := x.now + duration
        phase := .leaving (some RelayError.realtimeWebSocketConnectTimeout.intoResponse) }, []) := by
    have hdue : started + limits.websocketConnectTimeout ≤ x.now + duration := by
      simp only [duration]
      omega
    simp only [Connection.machine, Connection.step, hphase]
    exact if_pos hdue
  exact .step rfl htick (.step rfl htimeout (canEnd_of_leaving rfl))

theorem canEnd_of_closingUpstream {error : RelayError} {started : Nat}
    (hphase : x.phase = .closingUpstream error started) : x.CanEnd limits := by
  let duration := started + limits.websocketSendTimeout
  have htick : (Connection.machine limits).step x (.tick duration) =
      some ({ x with now := x.now + duration }, []) := by
    simp only [Connection.machine, Connection.step, hphase]
  have hclosed : (Connection.machine limits).step { x with now := x.now + duration }
      (.closeFinished true) = some ({ x with
        now := x.now + duration
        phase := .leaving (some error.intoResponse) }, []) := by
    have hdue : started + limits.websocketSendTimeout ≤ x.now + duration := by
      simp only [duration]
      omega
    simp only [Connection.machine, Connection.step, hphase]
    exact if_pos fun _ => hdue
  exact .step rfl htick (.step rfl hclosed (canEnd_of_leaving rfl))

theorem canEnd_of_prepared (hphase : x.phase = .prepared) : x.CanEnd limits := by
  cases hurl : x.plan.url with
  | error error =>
    have hfailed : (Connection.machine limits).step x (.dial true) =
        some ({ x with phase := .leaving (some error.intoResponse) }, []) := by
      simp only [Connection.machine, Connection.step, hphase, hurl]
      rfl
    exact .step rfl hfailed (canEnd_of_leaving rfl)
  | ok url =>
    have hcontact : (Connection.machine limits).step x (.dial true) =
        some ({ x with phase := .connecting x.now }, [.contact url x.plan.headers]) := by
      simp only [Connection.machine, Connection.step, hphase, hurl]
      rfl
    exact .step rfl hcontact (canEnd_of_connecting rfl)

theorem canEnd_of_ready {selected : Option CharText.Text} {upstream : HeaderMap}
    (hidle : 0 < limits.websocketIdleTimeout) (hphase : x.phase = .ready selected upstream) :
    x.CanEnd limits := by
  have hproceed : (Connection.machine limits).step x .proceed = some ({ x with
      phase := .upgrading },
      [.switch (publicResponse x.plan.request x.plan.accept selected upstream)]) := by
    simp only [Connection.machine, Connection.step, hphase]
  exact .step rfl hproceed (canEnd_of_upgrading hidle rfl)

/-- Whatever holds a permit can end. -/
theorem canEnd_of_holdsPermit (hidle : 0 < limits.websocketIdleTimeout)
    (hpending : x.Pending limits) (hholds : x.phase.holdsPermit = true) : x.CanEnd limits := by
  cases hphase : x.phase with
  | begun =>
    rw [hphase] at hholds
    cases hholds
  | prepared => exact canEnd_of_prepared hphase
  | connecting started => exact canEnd_of_connecting hphase
  | closingUpstream error started => exact canEnd_of_closingUpstream hphase
  | ready selected upstream => exact canEnd_of_ready hidle hphase
  | upgrading => exact canEnd_of_upgrading hidle hphase
  | pumping dial pump => exact canEnd_of_pumping hidle hphase hpending
  | leaving answer => exact canEnd_of_leaving hphase
  | ended => exact .of_goal hphase

end Ends

section Pool
variable {limits : Limits}

def Connection.isEnded (x : Connection) : Bool :=
  match x.phase with
  | .ended => true
  | _ => false

theorem Connection.isEnded_iff {x : Connection} : x.isEnded = true ↔ x.phase = .ended := by
  unfold Connection.isEnded
  split
  next hphase => simp [hphase]
  next hother => exact iff_of_false Bool.false_ne_true hother

theorem held_of_isEnded {x : Connection} (h : x.isEnded = true) :
    (Connection.user limits).held x = 0 := by
  change x.phase.holdsPermit.toNat = 0
  rw [Connection.isEnded_iff.mp h]
  rfl

theorem Connection.CanEnd.isEnded {x : Connection} (h : x.CanEnd limits) :
    (machine limits).CanReach (fun e => e.isUnaided = true) (fun x => x.isEnded = true) x :=
  h.mono (fun _ he => he) fun _ hended => isEnded_iff.mpr hended

/-- A connection that has just begun ends with its permit or with the refusal. -/
theorem asksFirst_of_begun (hidle : 0 < limits.websocketIdleTimeout) {x : Connection}
    (hphase : x.phase = .begun) :
    (Connection.user limits).AsksFirst (fun e => e.isUnaided = true) Connection.isEnded x := by
  intro granted
  cases granted with
  | false =>
    refine ⟨.acquire false, { x with phase := .ended },
      [.respond RelayError.tooManyActiveRealtimeConnections.intoResponse], rfl, ?_, .of_goal rfl⟩
    change x.step limits (.acquire false) = _
    simp only [Connection.step, hphase]
    rfl
  | true =>
    have hgranted : (Connection.machine limits).step x (.acquire true) = some x.granted := by
      simp only [Connection.machine, Connection.step, hphase, if_true]
    cases hentry : x.plan.entry with
    | runConnected =>
      have hprepared : x.granted = ({ x with phase := .prepared }, []) := by
        rw [Connection.granted, hentry]
      exact ⟨.acquire true, _, _, rfl, hgranted.trans (congrArg some hprepared),
        (canEnd_of_prepared rfl).isEnded⟩
    | runPrivateWith =>
      have hswitched : x.granted = ({ x with phase := .upgrading },
          [.switch (privateResponse x.plan.accept)]) := by
        rw [Connection.granted, hentry]
      exact ⟨.acquire true, _, _, rfl, hgranted.trans (congrArg some hswitched),
        (canEnd_of_upgrading hidle rfl).isEnded⟩

theorem pending_run {plan : ConnectionPlan} {es : List ConnectionEvent} {x : Connection}
    {t : List ConnectionOutput}
    (hrun : (Connection.machine limits).run (Connection.start plan) es = some (x, t)) :
    x.Pending limits := by
  refine (Connection.machine limits).run_preserves ?_ hrun (dialing_start limits plan)
  intro x e x' out h hstep
  exact dialing_step (Connection.connectionStep_of_step hstep) h

theorem connection_ends (hidle : 0 < limits.websocketIdleTimeout) {plan : ConnectionPlan}
    {es : List ConnectionEvent} {x : Connection} {t : List ConnectionOutput}
    (hrun : (Connection.machine limits).run (Connection.start plan) es = some (x, t)) :
    (Connection.machine limits).CanReach (fun e => e.isUnaided = true) (fun x => x.isEnded = true) x ∨
      (Connection.user limits).AsksFirst (fun e => e.isUnaided = true) Connection.isEnded x := by
  cases hholds : x.phase.holdsPermit with
  | true => exact .inl (canEnd_of_holdsPermit hidle (pending_run hrun) hholds).isEnded
  | false =>
    cases hphase : x.phase with
    | begun => exact .inr (asksFirst_of_begun hidle hphase)
    | ended => exact .inl (.of_goal (Connection.isEnded_iff.mpr hphase))
    | _ =>
      rw [hphase] at hholds
      cases hholds

theorem asks_unaided (e : ConnectionEvent) (h : e.isUnaided = true) :
    (Connection.user limits).asks e = none := by
  cases e with
  | acquire permitted => cases h
  | _ => rfl

end Pool

/-- An event of one connection in which neither of its peers takes part. -/
def UnaidedAt (limits : Limits) (e : PoolEvent ConnectionPlan ConnectionEvent) : Prop :=
  ∃ i d, e = .act i d ∧ (d.isUnaided = true ∨ ((Connection.user limits).asks d).isSome = true)

/-- From every state the connections can reach, all of them can end without any peer: with an idle
timeout configured, their timers, their closes and the semaphore are enough. All permits are back
then. -/
theorem connections_can_end {limits : Limits} (hidle : 0 < limits.websocketIdleTimeout)
    {permits : Nat} {es : List (PoolEvent ConnectionPlan ConnectionEvent)} {s : Connections}
    {t : List (Nat × ConnectionOutput)}
    (hrun : (connectionsMachine limits).run (startPool permits) es = some (s, t)) :
    (connectionsMachine limits).CanReach (UnaidedAt limits)
      (fun s' => s'.available = permits ∧ ∀ x ∈ s'.members, x.isEnded = true) s := by
  refine canReach_all_done (Connection.balanced limits) ?_ asks_unaided ?_ hrun
  · intro x _ hended
    exact held_of_isEnded hended
  · intro plan fs x u hfs
    exact connection_ends hidle hfs

end GptLiveProxy
