import GptLiveProxy.Connection

/-!
# What one step of a connection can do

The kinds of steps, each with what it takes and what it leaves. The events of the pump fall under one
kind, whichever of them it is, and so do the ways out of the handler and of the upgrade task.
-/

namespace GptLiveProxy
open ConnectionPhase

/-- The two events that touch the semaphore. -/
def ConnectionEvent.isSemaphore : ConnectionEvent → Bool
  | .acquire _ => true
  | .release => true
  | _ => false

/-- The event that is handed to the pump. -/
def ConnectionEvent.toPump : ConnectionEvent → Option PumpEvent
  | .pump event => some event
  | _ => none

inductive ConnectionStep (limits : Limits) (x : Connection) :
    ConnectionEvent → Connection → List ConnectionOutput → Prop
  | wait (duration : Nat) :
    ConnectionStep limits x (.tick duration) { x with now := x.now + duration } []
  | refuse (hphase : x.phase = .begun) :
    ConnectionStep limits x (.acquire false) { x with phase := .ended }
      [.respond RelayError.tooManyActiveRealtimeConnections.intoResponse]
  | prepare (hphase : x.phase = .begun) (hentry : x.plan.entry = .runConnected) :
    ConnectionStep limits x (.acquire true) { x with phase := .prepared } []
  | switchFirst (hphase : x.phase = .begun) (hentry : x.plan.entry = .runPrivateWith) :
    ConnectionStep limits x (.acquire true) { x with phase := .upgrading }
      [.switch (privateResponse x.plan.accept)]
  | contactFirst {url : CharText.Text} (hphase : x.phase = .prepared) (hurl : x.plan.url = .ok url) :
    ConnectionStep limits x (.dial true) { x with phase := .connecting x.now }
      [.contact url x.plan.headers]
  | accept {started : Nat} {upstream : HeaderMap} {selected : Option CharText.Text}
      (hphase : x.phase = .connecting started)
      (hselected : validateSelected upstream x.plan.protocols = .ok selected) :
    ConnectionStep limits x (.handshake (.accepted upstream))
      { x with phase := .ready selected upstream } []
  | misselect {started : Nat} {upstream : HeaderMap} {error : RelayError}
      (hphase : x.phase = .connecting started)
      (hselected : validateSelected upstream x.plan.protocols = .error error) :
    ConnectionStep limits x (.handshake (.accepted upstream))
      { x with phase := .closingUpstream error x.now } []
  | abandon {e : ConnectionEvent} (hphase : x.phase.isHandshake = true)
      (he : e.isSemaphore = false) (hsilent : e.toPump = none) (answer : Option Response) :
    ConnectionStep limits x e { x with phase := .leaving answer } []
  | proceed {upstream : HeaderMap} {selected : Option CharText.Text}
      (hphase : x.phase = .ready selected upstream) :
    ConnectionStep limits x .proceed { x with phase := .upgrading }
      [.switch (publicResponse x.plan.request x.plan.accept selected upstream)]
  | upgraded (hphase : x.phase = .upgrading) :
    ConnectionStep limits x (.upgrade true)
      { x with phase := .pumping (.ofEntry x.plan.entry) (Pump.start x.plan.entry x.now) } []
  | drop {e : ConnectionEvent} (hphase : x.phase.isSwitched = true) (he : e.isSemaphore = false)
      (hsilent : e.toPump = none) :
    ConnectionStep limits x e { x with phase := .leaving none } []
  | contactLater {pump : Pump} {url : CharText.Text} (hphase : x.phase = .pumping .unpolled pump)
      (hurl : x.plan.url = .ok url) :
    ConnectionStep limits x (.dial true) { x with phase := .pumping (.dialing pump.now) pump }
      [.contact url x.plan.headers]
  | relay {e : ConnectionEvent} {dial dial' : DialPhase} {pump pump' : Pump} {event : PumpEvent}
      {out : List PumpOutput} (hphase : x.phase = .pumping dial pump) (he : e.isSemaphore = false)
      (hdial : dial' = dial ∨ dial' = .settled ∧ event.isDialed = true)
      (hown : e.toPump.toList = [event].filter PumpEvent.isOwn)
      (hstep : pump.step (x.plan.policy limits) event = some (pump', out)) :
    ConnectionStep limits x e { x with phase := .pumping dial' pump' } (out.map .pump)
  | finish {dial : DialPhase} {pump : Pump} {outcome : PumpOutcome}
      (hphase : x.phase = .pumping dial pump) (hreturned : pump.phase.returned = some outcome) :
    ConnectionStep limits x .finish { x with phase := .leaving none }
      [.recorded outcome.label outcome.code]
  | release {answer : Option Response} (hphase : x.phase = .leaving answer) :
    ConnectionStep limits x .release { x with phase := .ended } (answer.toList.map .respond)

namespace Connection
variable {limits : Limits} {x x' : Connection} {e : ConnectionEvent} {out : List ConnectionOutput}

theorem relay_of_pumped {dial dial' : DialPhase} {pump : Pump} {event : PumpEvent}
    (hphase : x.phase = .pumping dial pump) (he : e.isSemaphore = false)
    (hdial : dial' = dial ∨ dial' = .settled ∧ event.isDialed = true)
    (hown : e.toPump.toList = [event].filter PumpEvent.isOwn)
    (h : x.pumped limits dial' pump event = some (x', out)) : ConnectionStep limits x e x' out := by
  obtain ⟨⟨pump', o⟩, hstep, heq⟩ := Option.map_eq_some_iff.mp h
  cases heq
  exact .relay hphase he hdial hown hstep

theorem dial_step {built : Bool} (h : x.step limits (.dial built) = some (x', out)) :
    ConnectionStep limits x (.dial built) x' out := by
  simp only [step] at h
  split at h
  · rename_i hphase
    have hhandshake : x.phase.isHandshake = true := by
      rw [hphase]
      rfl
    split at h
    · cases h
      exact .abandon hhandshake rfl rfl _
    · rename_i url hurl
      split_ifs at h with hbuilt
      · cases h
        rw [hbuilt]
        exact .contactFirst hphase hurl
      · cases h
        exact .abandon hhandshake rfl rfl _
  · rename_i pump hphase
    split at h
    · rename_i hurl
      split_ifs at h with hbuilt
      · cases h
        rw [hbuilt]
        exact .contactLater hphase hurl
      · exact relay_of_pumped hphase rfl (.inr ⟨rfl, rfl⟩) rfl h
    · exact relay_of_pumped hphase rfl (.inr ⟨rfl, rfl⟩) rfl h
  · cases h

theorem handshake_step {result : HandshakeResult}
    (h : x.step limits (.handshake result) = some (x', out)) :
    ConnectionStep limits x (.handshake result) x' out := by
  simp only [step] at h
  split at h
  · rename_i started hphase
    cases h
    cases result with
    | accepted upstream =>
      cases hselected : validateSelected upstream x.plan.protocols with
      | ok selected =>
        have hnext : x.shaken (.accepted upstream) =
            { x with phase := .ready selected upstream } := by
          simp only [shaken, hselected]
        rw [hnext]
        exact .accept hphase hselected
      | error error =>
        have hnext : x.shaken (.accepted upstream) =
            { x with phase := .closingUpstream error x.now } := by
          simp only [shaken, hselected]
        rw [hnext]
        exact .misselect hphase hselected
    | _ => exact .abandon (by rw [hphase]; rfl) rfl rfl _
  · rename_i started pump hphase
    have hdialed : (dialEvent result).isDialed = true := by
      cases result <;> rfl
    have hown : [] = [dialEvent result].filter PumpEvent.isOwn := by
      cases result <;> rfl
    exact relay_of_pumped hphase rfl (.inr ⟨rfl, hdialed⟩) hown h
  · cases h

theorem connectTimedOut_step (h : x.step limits .connectTimedOut = some (x', out)) :
    ConnectionStep limits x .connectTimedOut x' out := by
  simp only [step] at h
  split at h
  · rename_i started hphase
    split_ifs at h
    cases h
    exact .abandon (by rw [hphase]; rfl) rfl rfl _
  · rename_i started pump hphase
    split_ifs at h
    exact relay_of_pumped hphase rfl (.inr ⟨rfl, rfl⟩) rfl h
  · cases h

theorem upgrade_step {succeeded : Bool} (h : x.step limits (.upgrade succeeded) = some (x', out)) :
    ConnectionStep limits x (.upgrade succeeded) x' out := by
  simp only [step] at h
  split at h
  · rename_i hphase
    split_ifs at h with hsucceeded
    · cases h
      rw [hsucceeded]
      exact .upgraded hphase
    · cases h
      exact .drop (by rw [hphase]; rfl) rfl rfl
  · cases h

/-- Every step of a connection is one of the kinds. -/
theorem connectionStep_of_step (h : (machine limits).step x e = some (x', out)) :
    ConnectionStep limits x e x' out := by
  change x.step limits e = some (x', out) at h
  cases e with
  | dial built => exact dial_step h
  | handshake result => exact handshake_step h
  | connectTimedOut => exact connectTimedOut_step h
  | upgrade succeeded => exact upgrade_step h
  | tick duration =>
    simp only [step] at h
    split at h
    · rename_i dial pump hphase
      exact relay_of_pumped hphase rfl (.inl rfl) rfl h
    · cases h
      exact .wait duration
  | acquire permitted =>
    simp only [step] at h
    split at h
    · rename_i hphase
      cases permitted with
      | false =>
        cases h
        exact .refuse hphase
      | true =>
        rw [if_pos rfl, granted] at h
        split at h
        · rename_i hentry
          cases h
          exact .prepare hphase hentry
        · rename_i hentry
          cases h
          exact .switchFirst hphase hentry
    · cases h
  | closeFinished timedOut =>
    simp only [step] at h
    split at h
    · rename_i error started hphase
      split_ifs at h
      cases h
      exact .abandon (by rw [hphase]; rfl) rfl rfl _
    · cases h
  | proceed =>
    simp only [step] at h
    split at h
    · rename_i selected upstream hphase
      cases h
      exact .proceed hphase
    · cases h
  | disconnect =>
    simp only [step] at h
    split at h
    all_goals first | cases h; done | skip
    all_goals
      rename_i hphase
      cases h
      exact .abandon (by rw [hphase]; rfl) rfl rfl _
  | pump event =>
    simp only [step] at h
    split at h
    · rename_i dial pump hphase
      split_ifs at h with hown
      exact relay_of_pumped hphase rfl (.inl rfl) (by simp [ConnectionEvent.toPump, hown]) h
    · cases h
  | finish =>
    simp only [step] at h
    split at h
    · rename_i dial pump hphase
      split at h
      · rename_i outcome hreturned
        cases h
        exact .finish hphase hreturned
      · cases h
    · cases h
  | crash =>
    simp only [step] at h
    split at h
    · rename_i dial pump hphase
      cases h
      exact .drop (by rw [hphase]; rfl) rfl rfl
    · cases h
  | release =>
    simp only [step] at h
    split at h
    · rename_i answer hphase
      cases h
      exact .release hphase
    · cases h

/-- The plan of a connection is fixed. -/
theorem plan_step (hstep : ConnectionStep limits x e x' out) : x'.plan = x.plan := by
  cases hstep <;> rfl

theorem taken_given_other (limits : Limits) (he : e.isSemaphore = false) :
    (user limits).taken e = 0 ∧ (user limits).given e = 0 := by
  cases e with
  | acquire permitted => cases he
  | release => cases he
  | _ => exact ⟨rfl, rfl⟩

theorem holdsPermit_of_isHandshake {phase : ConnectionPhase} (h : phase.isHandshake = true) :
    phase.holdsPermit = true := by
  cases phase <;> first | rfl | cases h

theorem holdsPermit_of_isSwitched {phase : ConnectionPhase} (h : phase.isSwitched = true) :
    phase.holdsPermit = true := by
  cases phase <;> first | rfl | cases h

/-- The permit is taken by a granted acquisition and given back by the release alone. -/
theorem holdsPermit_step (hstep : ConnectionStep limits x e x' out) :
    x'.phase.holdsPermit.toNat + (user limits).given e =
      x.phase.holdsPermit.toNat + (user limits).taken e := by
  cases hstep with
  | wait duration => rfl
  | abandon hphase he hsilent answer =>
    obtain ⟨htaken, hgiven⟩ := taken_given_other limits he
    rw [htaken, hgiven, holdsPermit_of_isHandshake hphase]
    rfl
  | drop hphase he hsilent =>
    obtain ⟨htaken, hgiven⟩ := taken_given_other limits he
    rw [htaken, hgiven, holdsPermit_of_isSwitched hphase]
    rfl
  | relay hphase he hdial hown hstep =>
    obtain ⟨htaken, hgiven⟩ := taken_given_other limits he
    rw [htaken, hgiven, hphase]
    rfl
  | refuse hphase | prepare hphase hentry | switchFirst hphase hentry | contactFirst hphase hurl
  | accept hphase hselected | misselect hphase hselected | proceed hphase | upgraded hphase
  | contactLater hphase hurl | finish hphase hreturned | release hphase =>
    rw [hphase]
    rfl

theorem balanced (limits : Limits) : (user limits).Balanced fun _ => True where
  start _ := ⟨trivial, rfl⟩
  step _ _ _ _ _ h := ⟨trivial, holdsPermit_step (connectionStep_of_step h)⟩

end Connection

end GptLiveProxy
