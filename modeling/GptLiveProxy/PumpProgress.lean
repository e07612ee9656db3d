import GptLiveProxy.PumpIdle
import GptLiveProxy.TraceRefinement

/-!
# A pump can always come to its end

Once the upstream has opened, the pump needs neither of its peers to return: a send that does not
finish is cut by its timeout, a relay that hears nothing is cut by the idle deadline, and the two
closes of an exit end by themselves. The idle deadline has to be configured for this.
-/

namespace GptLiveProxy
open PumpPhase

/-- The events in which neither peer takes part. -/
def PumpEvent.isUnaided : PumpEvent → Bool
  | .tick _ => true
  | .enter => true
  | .idle => true
  | .beginSend => true
  | .sent .timedOut => true
  | .beginClose _ => true
  | .closeSent _ => true
  | _ => false

def PumpPhase.isConnecting : PumpPhase → Bool
  | connecting _ _ => true
  | _ => false

def Pump.HasReturned (s : Pump) : Prop := s.phase.returned.isSome = true

def Pump.CanReturn (policy : PumpPolicy) (s : Pump) : Prop :=
  (Pump.machine policy).CanReach (fun e => e.isUnaided = true) Pump.HasReturned s

section Closing

/-- The steps left before a leg is told. -/
def Tell.weight : Tell → Nat
  | pending _ _ => 2
  | sending _ _ => 1
  | _ => 0

def PumpPhase.closeRank : PumpPhase → Nat
  | closing tell _ => (tell .downstream).weight + (tell .upstream).weight
  | _ => 0

theorem weight_update (tell : Leg → Tell) (leg : Leg) (next : Tell)
    (h : next.weight < (tell leg).weight) (outcome : PumpOutcome) :
    (closing (Function.update tell leg next) outcome).closeRank <
      (closing tell outcome).closeRank := by
  cases leg with
  | downstream =>
    have hother : Function.update tell .downstream next .upstream = tell .upstream :=
      Function.update_of_ne (by decide) ..
    simp only [closeRank, Function.update_self, hother]
    omega
  | upstream =>
    have hother : Function.update tell .upstream next .downstream = tell .downstream :=
      Function.update_of_ne (by decide) ..
    simp only [closeRank, Function.update_self, hother]
    omega

variable {policy : PumpPolicy} {s : Pump}

theorem close_leg (policy : PumpPolicy) {tell : Leg → Tell} {outcome : PumpOutcome}
    (hphase : s.phase = .closing tell outcome) {leg : Leg} (hleg : (tell leg).isOver = false) :
    ∃ e tell' out, e.isUnaided = true ∧
      (Pump.machine policy).step s e = some ({ s with phase := .closing tell' outcome }, out) ∧
      (closing tell' outcome).closeRank < (closing tell outcome).closeRank := by
  cases htell : tell leg with
  | silent => simp [htell, Tell.isOver] at hleg
  | told code reason => simp [htell, Tell.isOver] at hleg
  | pending code reason =>
    have hlower : (Tell.sending code reason).weight < (tell leg).weight := by
      rw [htell]
      exact Nat.lt_succ_self 1
    refine ⟨.beginClose leg, _, [.send leg (.close (some (code, reason)))], rfl, ?_,
      weight_update tell leg _ hlower outcome⟩
    simp only [Pump.machine, Pump.step, hphase, htell]
  | sending code reason =>
    have hlower : (Tell.told code reason).weight < (tell leg).weight := by
      rw [htell]
      exact Nat.lt_succ_self 0
    refine ⟨.closeSent leg, _, [], rfl, ?_, weight_update tell leg _ hlower outcome⟩
    simp only [Pump.machine, Pump.step, hphase, htell]

theorem canReturn_of_closing {tell : Leg → Tell} {outcome : PumpOutcome}
    (hphase : s.phase = .closing tell outcome) : s.CanReturn policy := by
  refine TraceMachine.canReach_of_rank
    (P := fun s => ∃ tell outcome, s.phase = .closing tell outcome)
    (fun s => s.phase.closeRank) ?_ ⟨tell, outcome, hphase⟩
  rintro s ⟨tell, outcome, hphase⟩
  by_cases hover : ∀ leg, (tell leg).isOver = true
  · refine .inl ?_
    rw [Pump.HasReturned, hphase]
    simp [returned, hover]
  · obtain ⟨leg, hleg⟩ := not_forall.mp hover
    obtain ⟨e, tell', out, he, hstep, hrank⟩ :=
      close_leg policy hphase (Bool.not_eq_true _ ▸ hleg)
    exact .inr ⟨e, _, out, he, hstep, ⟨tell', outcome, rfl⟩, by rw [hphase]; exact hrank⟩

end Closing

section Armed
variable {policy : PumpPolicy} {s s' : Pump} {e : PumpEvent} {out : List PumpOutput}

/-- Where the pump relays, the idle deadline runs if one is configured. -/
def Pump.Armed (policy : PumpPolicy) (s : Pump) : Prop :=
  s.phase.isActive = true → s.phase.isOpen = true → 0 < policy.idleTimeout →
    s.idleDeadline.isSome = true

theorem idleDeadline_isSome (hidle : 0 < policy.idleTimeout) (now : Nat) :
    (idleDeadline policy now).isSome = true := by
  rw [idleDeadline, if_neg (by omega)]
  rfl

theorem armed_step (hstep : PumpStep policy s e s' out) (h : s.Armed policy) :
    s'.Armed policy := by
  intro hactive hopen hidle
  have hkept (hphase : s.phase.isActive = true ∧ s.phase.isOpen = true) :
      s.idleDeadline.isSome = true := h hphase.1 hphase.2 hidle
  have hrearmed (hphase : s.phase = .relaying) :
      (s.idleDeadline.map fun _ => s.now + policy.idleTimeout).isSome = true := by
    rw [Option.isSome_map]
    exact hkept (by rw [hphase]; exact ⟨rfl, rfl⟩)
  cases hstep with
  | tick duration => exact hkept ⟨hactive, hopen⟩
  | arriveDownstream item => exact hkept ⟨hactive, hopen⟩
  | arriveUpstream item => exact hkept ⟨hactive, hopen⟩
  | enter hphase => exact idleDeadline_isSome hidle s.now
  | connected hphase => exact idleDeadline_isSome hidle s.now
  | abort hbefore hidle' haborts hout =>
    obtain ⟨tell, code, reason, hphase, -⟩ := haborts
    rw [hphase] at hactive
    cases hactive
  | idle hphase hdeadline hdue => cases hactive
  | leave hphase hinbox hclose => cases hactive
  | skipQueueing hphase hinbox =>
    dsimp only at hopen
    rw [hphase] at hopen
    cases hopen
  | queue hphase hinbox hconverted haccept htotal => cases hopen
  | skipDownstream hphase hinbox => exact hrearmed hphase
  | skipUpstream hphase hinbox => exact hrearmed hphase
  | forwardUpstream hphase hinbox hconverted => exact hrearmed hphase
  | forwardDownstream hphase hinbox hconverted => exact hrearmed hphase
  | clientClosed hphase hinbox => cases hactive
  | clientGone hphase hinbox hitem => cases hactive
  | upstreamClosed hphase hinbox => cases hactive
  | beginSend hphase | sentQueued hphase | sentUpstream hphase | sentDownstream hphase =>
    exact hkept (by rw [hphase]; exact ⟨rfl, rfl⟩)
  | beginClose hphase htell => cases hactive
  | closeSent hphase htell => cases hactive

theorem armed_start (policy : PumpPolicy) (entry : Pump.Entry) (now : Nat) :
    (Pump.start entry now).Armed policy := by
  intro hactive hopen hidle
  cases entry with
  | runPrivateWith => cases hopen
  | runConnected => cases hopen

end Armed

section Progress
variable {policy : PumpPolicy} {s : Pump}

/-- Time passes, and the event that waits for it ends in an exit. -/
theorem canReturn_after {e : PumpEvent} {tell : Leg → Tell} {outcome : PumpOutcome}
    {out : List PumpOutput} (duration : Nat) (he : e.isUnaided = true)
    (hstep : (Pump.machine policy).step { s with now := s.now + duration } e =
      some ({ s with now := s.now + duration, phase := .closing tell outcome }, out)) :
    s.CanReturn policy := by
  have htick : (Pump.machine policy).step s (.tick duration) =
      some ({ s with now := s.now + duration }, []) := rfl
  exact .step rfl htick (.step he hstep (canReturn_of_closing rfl))

theorem canReturn_of_deadline {deadline : Nat} (hphase : s.phase = .relaying)
    (hdeadline : s.idleDeadline = some deadline) : s.CanReturn policy := by
  apply @canReturn_after policy s .idle _ _ _ (deadline - s.now) rfl
  have hdue : deadline ≤ s.now + (deadline - s.now) := by omega
  simp only [Pump.machine, Pump.step, hdeadline, hphase]
  exact if_pos ⟨rfl, hdue⟩

theorem timely_after (started : Nat) (result : SendResult) :
    ({ s with now := s.now + (started + policy.sendTimeout) } : Pump).Timely policy started
      result := by
  intro _
  dsimp only
  omega

theorem canReturn_of_sendingUpstream {message : TungMessage} {started : Nat}
    (hphase : s.phase = .sendingUpstream message started) : s.CanReturn policy := by
  apply @canReturn_after policy s (.sent .timedOut) _ _ _ (started + policy.sendTimeout) rfl
  simp only [Pump.machine, Pump.step, hphase]
  exact if_pos (timely_after started .timedOut)

theorem canReturn_of_sendingDownstream {message : AxumMessage} {started : Nat}
    (hphase : s.phase = .sendingDownstream message started) : s.CanReturn policy := by
  apply @canReturn_after policy s (.sent .timedOut) _ _ _ (started + policy.sendTimeout) rfl
  simp only [Pump.machine, Pump.step, hphase]
  exact if_pos (timely_after started .timedOut)

theorem canReturn_of_flushing {message : TungMessage} {queue : List TungMessage} {started : Nat}
    (hphase : s.phase = .flushing message queue (some started)) : s.CanReturn policy := by
  apply @canReturn_after policy s (.sent .timedOut) _ _ _ (started + policy.sendTimeout) rfl
  simp only [Pump.machine, Pump.step, hphase]
  exact if_pos (timely_after started .timedOut)

/-- Past the connecting loop, the pump can return whatever its peers do. -/
theorem canReturn_of_armed (hidle : 0 < policy.idleTimeout) (harmed : s.Armed policy)
    (hphase : s.phase.isConnecting = false) : s.CanReturn policy := by
  cases h : s.phase with
  | connecting queue queuedBytes =>
    rw [h] at hphase
    cases hphase
  | entering =>
    have henter : (Pump.machine policy).step s .enter =
        some (s.opened policy .relaying, [.opened s.now]) := by
      simp only [Pump.machine, Pump.step, h]
    obtain ⟨deadline, hdeadline⟩ := Option.isSome_iff_exists.mp (idleDeadline_isSome hidle s.now)
    exact .step rfl henter (canReturn_of_deadline rfl hdeadline)
  | flushing message queue started =>
    cases started with
    | some started => exact canReturn_of_flushing h
    | none =>
      have hbegin : (Pump.machine policy).step s .beginSend =
          some ({ s with phase := .flushing message queue (some s.now) },
            [.send .upstream message.view]) := by
        simp only [Pump.machine, Pump.step, h]
      exact .step rfl hbegin (canReturn_of_flushing rfl)
  | relaying =>
    obtain ⟨deadline, hdeadline⟩ :=
      Option.isSome_iff_exists.mp (harmed (by rw [h]; rfl) (by rw [h]; rfl) hidle)
    exact canReturn_of_deadline h hdeadline
  | sendingUpstream message started => exact canReturn_of_sendingUpstream h
  | sendingDownstream message started => exact canReturn_of_sendingDownstream h
  | closing tell outcome => exact canReturn_of_closing h

end Progress

end GptLiveProxy
