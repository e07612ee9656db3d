import GptLiveProxy.ConnectionStep
import GptLiveProxy.PumpDelivery

/-!
# What a connection shows

Everything a connection does outside falls under one of two stories. Either its client never
switches: at most one contact is made, and at most one answer given. Or there is an opening, public
or private, and behind it the outputs of one run of the pump, with the contact of a private socket
among them and the record of its outcome at the end.
-/

namespace GptLiveProxy

section Traces

/-- The events that the pump of a connection has been handed. -/
def pumpEvents (es : List ConnectionEvent) : List PumpEvent :=
  es.filterMap ConnectionEvent.toPump

@[simp] theorem pumpEvents_append (es fs : List ConnectionEvent) :
    pumpEvents (es ++ fs) = pumpEvents es ++ pumpEvents fs := List.filterMap_append

theorem pumpEvents_singleton (e : ConnectionEvent) : pumpEvents [e] = e.toPump.toList := by
  cases e <;> rfl

def contacts (t : List ConnectionOutput) : List (CharText.Text × HeaderMap) :=
  t.filterMap fun
    | .contact url headers => some (url, headers)
    | _ => none

def answers (t : List ConnectionOutput) : List Response :=
  t.filterMap fun
    | .switch response => some response
    | .respond response => some response
    | _ => none

def pumpOutputs (t : List ConnectionOutput) : List PumpOutput :=
  t.filterMap fun
    | .pump output => some output
    | _ => none

def records (t : List ConnectionOutput) : List (String × Option UInt16) :=
  t.filterMap fun
    | .recorded label code => some (label, code)
    | _ => none

variable (t u : List ConnectionOutput)

@[simp] theorem contacts_append : contacts (t ++ u) = contacts t ++ contacts u :=
  List.filterMap_append

@[simp] theorem answers_append : answers (t ++ u) = answers t ++ answers u := List.filterMap_append

@[simp] theorem pumpOutputs_append : pumpOutputs (t ++ u) = pumpOutputs t ++ pumpOutputs u :=
  List.filterMap_append

@[simp] theorem records_append : records (t ++ u) = records t ++ records u := List.filterMap_append

theorem pumped_traces (out : List PumpOutput) :
    contacts (out.map .pump) = [] ∧ answers (out.map .pump) = [] ∧ records (out.map .pump) = [] ∧
      pumpOutputs (out.map .pump) = out := by
  induction out with
  | nil => exact ⟨rfl, rfl, rfl, rfl⟩
  | cons o out ih =>
    obtain ⟨hcontacts, hanswers, hrecords, hpumped⟩ := ih
    simp only [contacts, answers, records, pumpOutputs] at hcontacts hanswers hrecords hpumped ⊢
    simp [hcontacts, hanswers, hrecords, hpumped]

end Traces

/-- A public socket has contacted its upstream and nothing else. -/
inductive Contacted (plan : ConnectionPlan) : List ConnectionOutput → Prop
  | intro {url : CharText.Text} (hentry : plan.entry = .runConnected) (hurl : plan.url = .ok url) :
    Contacted plan [.contact url plan.headers]

/-- The upstream has accepted the handshake, at a moment when its contact was all that had been
sent. -/
def Accepted (limits : Limits) (plan : ConnectionPlan) (es : List ConnectionEvent)
    (upstream : HeaderMap) : Prop :=
  ∃ front back x t, es = front ++ .handshake (.accepted upstream) :: back ∧
    (Connection.machine limits).run (Connection.start plan) front = some (x, t) ∧ Contacted plan t

/-- What is sent before the pump starts: a public socket contacts its upstream, which accepts, and
the switch names the subprotocol selected; a private one has contacted nobody. -/
inductive Opening (limits : Limits) (plan : ConnectionPlan) (es : List ConnectionEvent) :
    List ConnectionOutput → Prop
  | publicSocket {url : CharText.Text} {upstream : HeaderMap} {selected : Option CharText.Text}
      (hentry : plan.entry = .runConnected) (hurl : plan.url = .ok url)
      (haccepted : Accepted limits plan es upstream)
      (hselected : validateSelected upstream plan.protocols = .ok selected) :
    Opening limits plan es [.contact url plan.headers,
      .switch (publicResponse plan.request plan.accept selected upstream)]
  | privateSocket (hentry : plan.entry = .runPrivateWith) :
    Opening limits plan es [.switch (privateResponse plan.accept)]

/-- A connection whose client has not switched; the answer is its last output. -/
def Unswitched (plan : ConnectionPlan) (t : List ConnectionOutput) : Prop :=
  ∃ before answer, t = before ++ answer ∧ (before = [] ∨ Contacted plan before) ∧
    (answer = [] ∨ ∃ response, answer = [.respond response])

/-- The outputs behind an opening: those of one run of the pump, through the events that the
connection has handed to it, and the contact of a private socket. -/
structure Relay (limits : Limits) (plan : ConnectionPlan) (es : List ConnectionEvent) (pump : Pump)
    (relay : List ConnectionOutput) : Prop where
  run : ∃ now fs, fs.filter PumpEvent.isOwn = pumpEvents es ∧
    (Pump.machine (plan.policy limits)).run (Pump.start plan.entry now) fs =
      some (pump, pumpOutputs relay)
  contacts : contacts relay = [] ∨ plan.entry = .runPrivateWith ∧
    ∃ url, plan.url = .ok url ∧ contacts relay = [(url, plan.headers)]
  answers : answers relay = []
  records : records relay = []

/-- A connection whose client has switched; the outcome recorded is that of its pump. -/
def Switched (limits : Limits) (plan : ConnectionPlan) (es : List ConnectionEvent)
    (t : List ConnectionOutput) : Prop :=
  ∃ opening relay pump record, t = opening ++ relay ++ record ∧ Opening limits plan es opening ∧
    Relay limits plan es pump relay ∧
    (record = [] ∨ ∃ outcome, pump.phase.returned = some outcome ∧
      record = [.recorded outcome.label outcome.code])

/-- The phase of a connection tells how far its story has come. -/
def Tells (limits : Limits) (plan : ConnectionPlan) (es : List ConnectionEvent)
    (phase : ConnectionPhase) (t : List ConnectionOutput) : Prop :=
  match phase with
  | .begun => t = [] ∧ pumpEvents es = []
  | .prepared => t = [] ∧ pumpEvents es = [] ∧ plan.entry = .runConnected
  | .connecting _ => Contacted plan t ∧ pumpEvents es = []
  | .closingUpstream _ _ => Contacted plan t ∧ pumpEvents es = []
  | .ready selected upstream => Contacted plan t ∧ pumpEvents es = [] ∧
    Accepted limits plan es upstream ∧ validateSelected upstream plan.protocols = .ok selected
  | .upgrading => Opening limits plan es t ∧ pumpEvents es = []
  | .pumping dial pump => ∃ opening relay, t = opening ++ relay ∧ Opening limits plan es opening ∧
    Relay limits plan es pump relay ∧
    (dial = .unpolled → contacts relay = [] ∧ plan.entry = .runPrivateWith)
  | .leaving answer => t = [] ∨ Contacted plan t ∨ answer = none ∧ Switched limits plan es t
  | .ended => Unswitched plan t ∨ Switched limits plan es t

section Steps
variable {limits : Limits} {plan : ConnectionPlan} {x x' : Connection} {e : ConnectionEvent}
  {es : List ConnectionEvent} {t out : List ConnectionOutput}

theorem Accepted.mono {upstream : HeaderMap} (h : Accepted limits plan es upstream)
    (more : List ConnectionEvent) : Accepted limits plan (es ++ more) upstream := by
  obtain ⟨front, back, x, t, rfl, hrun, hcontacted⟩ := h
  exact ⟨front, back ++ more, x, t, by simp, hrun, hcontacted⟩

theorem Opening.mono (h : Opening limits plan es t) (more : List ConnectionEvent) :
    Opening limits plan (es ++ more) t := by
  cases h with
  | publicSocket hentry hurl haccepted hselected =>
    exact .publicSocket hentry hurl (haccepted.mono more) hselected
  | privateSocket hentry => exact .privateSocket hentry

theorem Relay.mono {pump : Pump} {relay : List ConnectionOutput} {more : List ConnectionEvent}
    (h : Relay limits plan es pump relay) (hsilent : pumpEvents more = []) :
    Relay limits plan (es ++ more) pump relay := by
  obtain ⟨now, fs, hown, hrun⟩ := h.run
  refine ⟨⟨now, fs, ?_, hrun⟩, h.contacts, h.answers, h.records⟩
  rw [pumpEvents_append, hsilent, List.append_nil, hown]

theorem Switched.mono {more : List ConnectionEvent} (h : Switched limits plan es t)
    (hsilent : pumpEvents more = []) : Switched limits plan (es ++ more) t := by
  obtain ⟨opening, relay, pump, record, rfl, hopening, hrelay, hrecord⟩ := h
  exact ⟨opening, relay, pump, record, rfl, hopening.mono more, hrelay.mono hsilent, hrecord⟩

/-- An event that does not reach the pump changes nothing of a story. -/
theorem Tells.mono {phase : ConnectionPhase} {more : List ConnectionEvent}
    (h : Tells limits plan es phase t) (hsilent : pumpEvents more = []) :
    Tells limits plan (es ++ more) phase t := by
  have hquiet : pumpEvents es = [] → pumpEvents (es ++ more) = [] := by
    intro hnone
    rw [pumpEvents_append, hnone, hsilent]
    rfl
  cases phase with
  | begun | connecting _ | closingUpstream _ _ => exact h.imp_right hquiet
  | prepared => exact h.imp_right fun h => h.imp_left hquiet
  | ready selected upstream =>
    obtain ⟨hcontacted, hnone, haccepted, hselected⟩ := h
    exact ⟨hcontacted, hquiet hnone, haccepted.mono more, hselected⟩
  | upgrading => exact ⟨h.1.mono more, hquiet h.2⟩
  | pumping dial pump =>
    obtain ⟨opening, relay, rfl, hopening, hrelay, hunpolled⟩ := h
    exact ⟨opening, relay, rfl, hopening.mono more, hrelay.mono hsilent, hunpolled⟩
  | leaving answer =>
    rcases h with hempty | hcontacted | ⟨hanswer, hswitched⟩
    · exact .inl hempty
    · exact .inr (.inl hcontacted)
    · exact .inr (.inr ⟨hanswer, hswitched.mono hsilent⟩)
  | ended => exact h.imp_right fun hswitched => hswitched.mono hsilent

theorem Unswitched.of_contacted (h : Contacted plan t) : Unswitched plan t :=
  ⟨t, [], (List.append_nil t).symm, .inr h, .inl rfl⟩

theorem Tells.handshake {phase : ConnectionPhase} (h : Tells limits plan es phase t)
    (hphase : phase.isHandshake = true) : t = [] ∨ Contacted plan t := by
  cases phase with
  | prepared => exact .inl h.1
  | connecting started => exact .inr h.1
  | closingUpstream error started => exact .inr h.1
  | ready selected upstream => exact .inr h.1
  | _ => cases hphase

theorem relay_start (limits : Limits) (plan : ConnectionPlan) (now : Nat)
    (hnone : pumpEvents es = []) : Relay limits plan es (Pump.start plan.entry now) [] :=
  ⟨⟨now, [], hnone.symm, rfl⟩, .inl rfl, rfl, rfl⟩

theorem Tells.switched {phase : ConnectionPhase} (h : Tells limits plan es phase t)
    (hphase : phase.isSwitched = true) : Switched limits plan es t := by
  cases phase with
  | upgrading =>
    exact ⟨t, [], Pump.start plan.entry 0, [], by simp, h.1, relay_start limits plan 0 h.2, .inl rfl⟩
  | pumping dial pump =>
    obtain ⟨opening, relay, rfl, hopening, hrelay, -⟩ := h
    exact ⟨opening, relay, pump, [], by simp, hopening, hrelay, .inl rfl⟩
  | _ => cases hphase

theorem Relay.step {pump pump' : Pump} {relay : List ConnectionOutput} {event : PumpEvent}
    {o : List PumpOutput} (h : Relay limits plan es pump relay)
    (hown : e.toPump.toList = [event].filter PumpEvent.isOwn)
    (hstep : pump.step (plan.policy limits) event = some (pump', o)) :
    Relay limits plan (es ++ [e]) pump' (relay ++ o.map .pump) := by
  obtain ⟨now, fs, hfiltered, hrun⟩ := h.run
  obtain ⟨hcontacts, hanswers, hrecords, hpumped⟩ := pumped_traces o
  refine ⟨⟨now, fs ++ [event], ?_, ?_⟩, ?_, ?_, ?_⟩
  · rw [List.filter_append, hfiltered, pumpEvents_append, pumpEvents_singleton, hown]
  · rw [pumpOutputs_append, hpumped]
    exact TraceMachine.run_snoc hrun hstep
  · rw [contacts_append, hcontacts, List.append_nil]
    exact h.contacts
  · rw [answers_append, hanswers, h.answers]
    rfl
  · rw [records_append, hrecords, h.records]
    rfl

theorem Relay.contact {pump : Pump} {relay : List ConnectionOutput} {url : CharText.Text}
    (h : Relay limits plan es pump relay) (hnone : GptLiveProxy.contacts relay = [])
    (hentry : plan.entry = .runPrivateWith) (hurl : plan.url = .ok url) :
    Relay limits plan es pump (relay ++ [.contact url plan.headers]) := by
  refine ⟨?_, .inr ⟨hentry, url, hurl, ?_⟩, ?_, ?_⟩
  · obtain ⟨now, fs, hown, hrun⟩ := h.run
    exact ⟨now, fs, hown, by rw [hrun, pumpOutputs_append]; simp [pumpOutputs]⟩
  · rw [contacts_append, hnone]
    rfl
  · rw [answers_append, h.answers]
    rfl
  · rw [records_append, h.records]
    rfl

theorem Tells.keep {phase : ConnectionPhase} (h : Tells limits plan es x.phase t)
    (hphase : x.phase = phase) (hsilent : e.toPump = none) :
    Tells limits plan (es ++ [e]) phase t := by
  rw [← hphase]
  apply h.mono
  rw [pumpEvents_singleton, hsilent]
  rfl

theorem tells_step
    (hrun : (Connection.machine limits).run (Connection.start x.plan) es = some (x, t))
    (hstep : ConnectionStep limits x e x' out) (hold : Tells limits x.plan es x.phase t) :
    Tells limits x.plan (es ++ [e]) x'.phase (t ++ out) := by
  have hkeep {phase : ConnectionPhase} (hphase : x.phase = phase) (hsilent : e.toPump = none) :
      Tells limits x.plan (es ++ [e]) phase t := hold.keep hphase hsilent
  cases hstep with
  | wait duration => simpa using hkeep rfl rfl
  | refuse hphase =>
    obtain ⟨rfl, -⟩ := hkeep hphase rfl
    exact .inl ⟨[], _, rfl, .inl rfl, .inr ⟨_, rfl⟩⟩
  | prepare hphase hentry =>
    obtain ⟨rfl, hnone⟩ := hkeep hphase rfl
    exact ⟨rfl, hnone, hentry⟩
  | switchFirst hphase hentry =>
    obtain ⟨rfl, hnone⟩ := hkeep hphase rfl
    exact ⟨.privateSocket hentry, hnone⟩
  | contactFirst hphase hurl =>
    obtain ⟨rfl, hnone, hentry⟩ := hkeep hphase rfl
    exact ⟨.intro hentry hurl, hnone⟩
  | accept hphase hselected =>
    -- the contact is out, and this event is its acceptance
    obtain ⟨hcontacted, hnone⟩ := hkeep hphase rfl
    rw [List.append_nil]
    exact ⟨hcontacted, hnone, ⟨es, [], x, t, rfl, hrun, hcontacted⟩, hselected⟩
  | misselect hphase hselected =>
    have hcontacted := hkeep hphase rfl
    rw [List.append_nil]
    exact hcontacted
  | abandon hphase he hsilent answer =>
    rw [List.append_nil]
    exact (hold.handshake hphase).imp_right .inl
  | proceed hphase =>
    obtain ⟨⟨hentry, hurl⟩, hnone, haccepted, hselected⟩ := hkeep hphase rfl
    exact ⟨.publicSocket hentry hurl haccepted hselected, hnone⟩
  | upgraded hphase =>
    obtain ⟨hopening, hnone⟩ := hkeep hphase rfl
    rw [List.append_nil]
    refine ⟨t, [], (List.append_nil t).symm, hopening, relay_start limits x.plan x.now hnone, ?_⟩
    intro hunpolled
    refine ⟨rfl, ?_⟩
    cases hentry : x.plan.entry with
    | runConnected =>
      rw [hentry] at hunpolled
      cases hunpolled
    | runPrivateWith => rfl
  | drop hphase he hsilent =>
    rw [List.append_nil]
    exact .inr (.inr ⟨rfl, (hkeep rfl hsilent).switched hphase⟩)
  | contactLater hphase hurl =>
    obtain ⟨opening, relay, rfl, hopening, hrelay, hunpolled⟩ := hkeep hphase rfl
    obtain ⟨hnone, hentry⟩ := hunpolled rfl
    rw [List.append_assoc]
    refine ⟨opening, _, rfl, hopening, hrelay.contact hnone hentry hurl, ?_⟩
    intro hdialing
    cases hdialing
  | relay hphase he hdial hown hpump =>
    have h := hold
    rw [hphase] at h
    obtain ⟨opening, relay, rfl, hopening, hrelay, hunpolled⟩ := h
    rw [List.append_assoc]
    refine ⟨opening, _, rfl, hopening.mono [e], hrelay.step hown hpump, ?_⟩
    intro hdial'
    rcases hdial with rfl | ⟨rfl, -⟩
    · obtain ⟨hnone, hentry⟩ := hunpolled hdial'
      refine ⟨?_, hentry⟩
      rw [contacts_append, hnone, (pumped_traces _).1]
      rfl
    · cases hdial'
  | finish hphase hreturned =>
    obtain ⟨opening, relay, rfl, hopening, hrelay, -⟩ := hkeep hphase rfl
    exact .inr (.inr ⟨rfl, opening, relay, _, _, rfl, hopening, hrelay, .inr ⟨_, hreturned, rfl⟩⟩)
  | @release answer hphase =>
    have hanswer : answer.toList.map ConnectionOutput.respond = [] ∨
        ∃ response, answer.toList.map ConnectionOutput.respond = [.respond response] := by
      cases answer with
      | none => exact .inl rfl
      | some response => exact .inr ⟨response, rfl⟩
    rcases hkeep hphase rfl with rfl | hcontacted | ⟨rfl, hswitched⟩
    · exact .inl ⟨[], _, rfl, .inl rfl, hanswer⟩
    · exact .inl ⟨t, _, rfl, .inr hcontacted, hanswer⟩
    · rw [Option.toList_none, List.map_nil, List.append_nil]
      exact .inr hswitched

end Steps

section Runs
variable {limits : Limits} {plan : ConnectionPlan} {es : List ConnectionEvent} {x : Connection}
  {t : List ConnectionOutput}

theorem tells_run (hrun : (Connection.machine limits).run (Connection.start plan) es = some (x, t)) :
    x.plan = plan ∧ Tells limits plan es x.phase t := by
  have hstart : Tells limits plan [] (Connection.start plan).phase [] := ⟨rfl, rfl⟩
  refine (Connection.machine limits).run_history
    (P := fun es x t => x.plan = plan ∧ Tells limits plan es x.phase t) ⟨rfl, hstart⟩ ?_ hrun
  intro es x t e x' out hbefore hx hstep
  obtain ⟨rfl, h⟩ := hx
  have hkind := Connection.connectionStep_of_step hstep
  exact ⟨Connection.plan_step hkind, tells_step hbefore hkind h⟩

theorem Tells.unswitched_or_switched {phase : ConnectionPhase} (h : Tells limits plan es phase t) :
    Unswitched plan t ∨ Switched limits plan es t := by
  have hnone : t = [] ∨ Contacted plan t → Unswitched plan t := by
    rintro (rfl | hcontacted)
    · exact ⟨[], [], rfl, .inl rfl, .inl rfl⟩
    · exact .of_contacted hcontacted
  cases phase with
  | begun => exact .inl (hnone (.inl h.1))
  | prepared => exact .inl (hnone (.inl h.1))
  | connecting started => exact .inl (hnone (.inr h.1))
  | closingUpstream error started => exact .inl (hnone (.inr h.1))
  | ready selected upstream => exact .inl (hnone (.inr h.1))
  | upgrading => exact .inr (h.switched rfl)
  | pumping dial pump => exact .inr (h.switched rfl)
  | leaving answer =>
    rcases h with hempty | hcontacted | ⟨-, hswitched⟩
    · exact .inl (hnone (.inl hempty))
    · exact .inl (hnone (.inr hcontacted))
    · exact .inr hswitched
  | ended => exact h

/-- One contact at most, and it is the planned one; one response at most, switches included. -/
structure OneContact (plan : ConnectionPlan) (t : List ConnectionOutput) : Prop where
  contacts : contacts t = [] ∨ ∃ url, plan.url = .ok url ∧ contacts t = [(url, plan.headers)]
  answers : (answers t).length ≤ 1

theorem Unswitched.oneContact (h : Unswitched plan t) : OneContact plan t := by
  obtain ⟨before, answer, rfl, hbefore, hanswer⟩ := h
  have hquiet : contacts answer = [] ∧ (answers answer).length ≤ 1 := by
    rcases hanswer with rfl | ⟨response, rfl⟩
    · exact ⟨rfl, Nat.zero_le 1⟩
    · exact ⟨rfl, Nat.le_refl 1⟩
  constructor
  · rw [contacts_append, hquiet.1, List.append_nil]
    rcases hbefore with rfl | ⟨-, hurl⟩
    · exact .inl rfl
    · exact .inr ⟨_, hurl, rfl⟩
  · have hnone : answers before = [] := by
      rcases hbefore with rfl | ⟨-, -⟩
      · rfl
      · rfl
    rw [answers_append, hnone]
    exact hquiet.2

theorem Switched.oneContact (h : Switched limits plan es t) : OneContact plan t := by
  obtain ⟨opening, relay, pump, record, rfl, hopening, hrelay, hrecord⟩ := h
  have hquiet : contacts record = [] ∧ answers record = [] := by
    rcases hrecord with rfl | ⟨outcome, -, rfl⟩
    · exact ⟨rfl, rfl⟩
    · exact ⟨rfl, rfl⟩
  constructor
  · rw [contacts_append, contacts_append, hquiet.1, List.append_nil]
    rcases hrelay.contacts with hnone | ⟨hprivate, url, hurl, hcontact⟩
    · rw [hnone, List.append_nil]
      cases hopening with
      | publicSocket hentry hurl haccepted hselected => exact .inr ⟨_, hurl, rfl⟩
      | privateSocket hentry => exact .inl rfl
    · cases hopening with
      | publicSocket hentry hurl haccepted hselected =>
        rw [hprivate] at hentry
        cases hentry
      | privateSocket hentry => exact .inr ⟨url, hurl, hcontact⟩
  · rw [answers_append, answers_append, hquiet.2, hrelay.answers, List.append_nil, List.append_nil]
    cases hopening with
    | publicSocket hentry hurl haccepted hselected => exact Nat.le_refl 1
    | privateSocket hentry => exact Nat.le_refl 1

theorem Tells.oneContact {phase : ConnectionPhase} (h : Tells limits plan es phase t) :
    OneContact plan t := by
  rcases h.unswitched_or_switched with hunswitched | hswitched
  · exact hunswitched.oneContact
  · exact hswitched.oneContact

theorem OneContact.of_mem (h : OneContact plan t) {url : CharText.Text} {headers : HeaderMap}
    (hmem : .contact url headers ∈ t) : plan.url = .ok url ∧ headers = plan.headers := by
  have hcontact : (url, headers) ∈ GptLiveProxy.contacts t :=
    List.mem_filterMap.mpr ⟨_, hmem, rfl⟩
  rcases h.contacts with hnone | ⟨url', hurl, hone⟩
  · rw [hnone] at hcontact
    cases hcontact
  · rw [hone, List.mem_singleton] at hcontact
    obtain ⟨rfl, rfl⟩ := Prod.mk.inj hcontact
    exact ⟨hurl, rfl⟩

end Runs

end GptLiveProxy
