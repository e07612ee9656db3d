import GptLiveProxy.ConnectionTraces

/-!
# All connections of the service

Any number of connections arrive, take their steps in any order, and meet at the semaphore only. The
permits add up at every moment, each connection tells one of its two stories whatever the others do,
and no connection relays a frame of another.
-/

namespace GptLiveProxy
open PermitUser

abbrev Connections := PermitPool Connection

/-- All connections of the service around `permits` permits. -/
def connectionsMachine (limits : Limits) :
    TraceMachine Connections (PoolEvent ConnectionPlan ConnectionEvent) (Nat × ConnectionOutput) :=
  (Connection.user limits).pool

section Rules
variable {limits : Limits} {permits : Nat} {es : List (PoolEvent ConnectionPlan ConnectionEvent)}
  {s : Connections} {t : List (Nat × ConnectionOutput)}

theorem total_eq_countP (limits : Limits) (members : List Connection) :
    (Connection.user limits).total members = members.countP (·.phase.holdsPermit) := by
  induction members with
  | nil => rfl
  | cons x members ih =>
    rw [List.countP_cons, ← ih]
    have hheld : (Connection.user limits).held x = x.phase.holdsPermit.toNat := rfl
    simp only [total, hheld]
    cases x.phase.holdsPermit with
    | false => simp
    | true =>
      simp only [Bool.toNat_true, if_true]
      omega

theorem permits_add_up (hrun : (connectionsMachine limits).run (startPool permits) es = some (s, t)) :
    s.available + s.members.countP (·.phase.holdsPermit) = permits := by
  have hconserved := (conserved_run (Connection.balanced limits) hrun).2
  rwa [total_eq_countP] at hconserved

theorem member_tells (hrun : (connectionsMachine limits).run (startPool permits) es = some (s, t))
    {i : Nat} {x : Connection} (hx : s.members[i]? = some x) :
    (joinsOf es)[i]? = some x.plan ∧
      Tells limits x.plan (eventsAt i es) x.phase (outputsAt i t) := by
  obtain ⟨plan, hplan, hfs⟩ := (member_run hrun).member i x hx
  obtain ⟨rfl, htells⟩ := tells_run hfs
  exact ⟨hplan, htells⟩

end Rules

section Samples

def samplePlan : ConnectionPlan where
  entry := .runPrivateWith
  url := .ok "wss://api.openai.com/v1/realtime".toList
  headers := .empty
  protocols := ⟨[], none, none, false, false⟩
  request := .empty
  accept := .fromStatic "accept".toList

/-- Two private sockets meet at one permit: the first relays one frame and is closed by its client,
the second is refused. -/
def twoSockets : List (PoolEvent ConnectionPlan ConnectionEvent) :=
  [.join samplePlan, .join samplePlan, .act 0 (.acquire true), .act 0 (.upgrade true),
    .act 1 (.acquire false), .act 0 (.dial true),
    .act 0 (.pump (.arriveDownstream (.message (.binary [7])))), .act 0 (.pump .readDownstream),
    .act 0 (.handshake (.accepted .empty)), .act 0 (.pump .beginSend),
    .act 0 (.pump (.sent .ok)), .act 0 (.pump (.arriveDownstream (.message (.close none)))),
    .act 0 (.pump .readDownstream), .act 0 (.pump (.beginClose .upstream)),
    .act 0 (.pump (.closeSent .upstream)), .act 0 .finish]

end Samples

/-- Every permit is free or held by one connection, all of them are free when every connection is
over, and a permit is refused exactly when the connections hold them all. -/
theorem connection_permits_conserved {limits : Limits} {permits : Nat}
    {es : List (PoolEvent ConnectionPlan ConnectionEvent)} {s : Connections}
    {t : List (Nat × ConnectionOutput)}
    (hrun : (connectionsMachine limits).run (startPool permits) es = some (s, t)) :
    s.available + s.members.countP (·.phase.holdsPermit) = permits ∧
    ((∀ x ∈ s.members, x.phase = .begun ∨ x.phase = .ended) → s.available = permits) ∧
    ∀ i permitted s' out,
      (connectionsMachine limits).step s (.act i (.acquire permitted)) = some (s', out) →
        (permitted = false ↔ s.members.countP (·.phase.holdsPermit) = permits) := by
  have hsum := permits_add_up hrun
  refine ⟨hsum, ?_, ?_⟩
  · intro hover
    have hnone : s.members.countP (·.phase.holdsPermit) = 0 := by
      rw [List.countP_eq_zero]
      intro x hx
      rcases hover x hx with hphase | hphase
      all_goals
        rw [hphase]
        exact Bool.false_ne_true
    omega
  · intro i permitted s' out hstep
    obtain ⟨x, x', o, -, -, hanswers, -, -⟩ := (Connection.user limits).pool_act.mp hstep
    have hgranted : permitted = decide (0 < s.available) := by
      simpa [Answers, Connection.user] using hanswers
    rw [hgranted, decide_eq_false_iff_not]
    omega

theorem two_sockets_conserve_the_permit : ∃ s t,
    (connectionsMachine .default).run (startPool 1) twoSockets = some (s, t) ∧
      s.available = 0 ∧ s.available + s.members.countP (·.phase.holdsPermit) = 1 := by
  obtain ⟨s, t, hrun, hnone⟩ := TraceMachine.exists_run_of_any
    (show ((connectionsMachine .default).run (startPool 1) twoSockets).any
      (fun r => r.1.available == 0) = true by decide +kernel)
  exact ⟨s, t, hrun, eq_of_beq hnone, (connection_permits_conserved hrun).1⟩

/-- Whatever the other connections do, each tells its own story: its client never switches, with one
contact and one answer at most; or a public one switches when the upstream it has contacted has
accepted its handshake, and a private one switches before any contact. -/
theorem connections_tell_their_stories {limits : Limits} {permits : Nat}
    {es : List (PoolEvent ConnectionPlan ConnectionEvent)} {s : Connections}
    {t : List (Nat × ConnectionOutput)}
    (hrun : (connectionsMachine limits).run (startPool permits) es = some (s, t)) :
    (∀ o ∈ t, o.1 < s.members.length) ∧
    ∀ i x, s.members[i]? = some x → (joinsOf es)[i]? = some x.plan ∧
      (Unswitched x.plan (outputsAt i t) ∨
        Switched limits x.plan (eventsAt i es) (outputsAt i t)) := by
  refine ⟨(member_run hrun).outputs, ?_⟩
  intro i x hx
  obtain ⟨hplan, htells⟩ := member_tells hrun hx
  exact ⟨hplan, htells.unswitched_or_switched⟩

section Stories
variable {limits : Limits} {plan : ConnectionPlan} {es : List ConnectionEvent}
  {t : List ConnectionOutput}

def ConnectionOutput.isSwitch : ConnectionOutput → Bool
  | .switch _ => true
  | _ => false

theorem Unswitched.no_switch (h : Unswitched plan t) : t.any ConnectionOutput.isSwitch = false := by
  obtain ⟨before, answer, rfl, hbefore, hanswer⟩ := h
  rcases hbefore with rfl | ⟨-, -⟩ <;> rcases hanswer with rfl | ⟨response, rfl⟩ <;> rfl

theorem Switched.switch (h : Switched limits plan es t) :
    t.any ConnectionOutput.isSwitch = true := by
  obtain ⟨opening, relay, pump, record, rfl, hopening, -⟩ := h
  cases hopening with
  | publicSocket hentry hurl haccepted hselected => rfl
  | privateSocket hentry => rfl

theorem Switched.accepted (h : Switched limits plan es t) (hentry : plan.entry = .runConnected) :
    ∃ upstream, Accepted limits plan es upstream := by
  obtain ⟨opening, relay, pump, record, rfl, hopening, -⟩ := h
  cases hopening with
  | publicSocket _ hurl haccepted hselected => exact ⟨_, haccepted⟩
  | privateSocket hprivate =>
    rw [hprivate] at hentry
    cases hentry

end Stories

def publicPlan : ConnectionPlan := { samplePlan with entry := .runConnected }

def acceptedSocket : List (PoolEvent ConnectionPlan ConnectionEvent) :=
  [.join publicPlan, .join samplePlan, .act 0 (.acquire true), .act 1 (.acquire false),
    .act 0 (.dial true), .act 0 (.handshake (.accepted .empty)), .act 0 .proceed]

theorem two_sockets_tell_their_stories : ∃ s t x y upstream,
    (connectionsMachine .default).run (startPool 1) acceptedSocket = some (s, t) ∧
      s.members[0]? = some x ∧ s.members[1]? = some y ∧
      Switched .default x.plan (eventsAt 0 acceptedSocket) (outputsAt 0 t) ∧
      x.plan.entry = .runConnected ∧
      Accepted .default x.plan (eventsAt 0 acceptedSocket) upstream ∧
      Unswitched y.plan (outputsAt 1 t) ∧ (answers (outputsAt 1 t)).length = 1 := by
  obtain ⟨s, t, hrun, hshown⟩ := TraceMachine.exists_run_of_any
    (show ((connectionsMachine .default).run (startPool 1) acceptedSocket).any
      (fun r => r.1.members[0]?.isSome && r.1.members[1]?.isSome &&
        (outputsAt 0 r.2).any ConnectionOutput.isSwitch &&
        !(outputsAt 1 r.2).any ConnectionOutput.isSwitch &&
        (answers (outputsAt 1 r.2)).length == 1) = true by decide +kernel)
  simp only [Bool.and_eq_true, Bool.not_eq_true', beq_iff_eq] at hshown
  obtain ⟨⟨⟨⟨hfirst, hsecond⟩, hswitch⟩, hquiet⟩, hanswer⟩ := hshown
  obtain ⟨x, hx⟩ := Option.isSome_iff_exists.mp hfirst
  obtain ⟨y, hy⟩ := Option.isSome_iff_exists.mp hsecond
  obtain ⟨-, hstories⟩ := connections_tell_their_stories hrun
  obtain ⟨hplan, hfirstStory⟩ := hstories 0 x hx
  have hentry : x.plan.entry = .runConnected := by
    rw [← Option.some.inj hplan]
    rfl
  have hswitched := hfirstStory.resolve_left fun h => by simp [h.no_switch] at hswitch
  have hunswitched := (hstories 1 y hy).2.resolve_right fun h => by simp [h.switch] at hquiet
  obtain ⟨upstream, haccepted⟩ := hswitched.accepted hentry
  exact ⟨s, t, x, y, upstream, hrun, hx, hy, hswitched, hentry, haccepted, hunswitched, hanswer⟩

section Relaying
variable {limits : Limits} {plan : ConnectionPlan} {es : List ConnectionEvent}
  {t : List ConnectionOutput}

/-- The frames of a connection go to the other leg in the order in which they were read. -/
def InOrder (t : List PumpOutput) : Prop :=
  dataSent .upstream t <+: dataRead .downstream t ∧ dataSent .downstream t <+: dataRead .upstream t

theorem Ordered.inOrder {pump : Pump} {t : List PumpOutput} (h : Ordered pump t) : InOrder t := by
  cases hphase : pump.phase with
  | closing tell outcome =>
    have hleaving := (ordered_closing hphase).mp h
    exact ⟨hleaving.sent, hleaving.sentBack⟩
  | _ =>
    have hrelaying := ordered_at hphase rfl h
    exact ⟨⟨_, hrelaying.sent.symm⟩, ⟨[], by rw [hrelaying.sentBack, List.append_nil]⟩⟩

/-- All that was read on one leg has been delivered on the other. -/
def AllDelivered (origin target : Leg) (t : List PumpOutput) : Prop :=
  dataDelivered target t = dataRead origin t

theorem Unswitched.relays_nothing (h : Unswitched plan t) :
    pumpOutputs t = [] ∧ records t = [] := by
  obtain ⟨before, answer, rfl, hbefore, hanswer⟩ := h
  have hfront : pumpOutputs before = [] ∧ records before = [] := by
    rcases hbefore with rfl | ⟨-, -⟩
    · exact ⟨rfl, rfl⟩
    · exact ⟨rfl, rfl⟩
  have hback : pumpOutputs answer = [] ∧ records answer = [] := by
    rcases hanswer with rfl | ⟨response, rfl⟩
    · exact ⟨rfl, rfl⟩
    · exact ⟨rfl, rfl⟩
  rw [pumpOutputs_append, records_append, hfront.1, hfront.2, hback.1, hback.2]
  exact ⟨rfl, rfl⟩

theorem Opening.relays_nothing (h : Opening limits plan es t) : pumpOutputs t = [] ∧ records t = [] := by
  cases h <;> exact ⟨rfl, rfl⟩

/-- What a switched connection has relayed is the trace of one run of its pump, which has returned
the outcome on record. -/
theorem Switched.relayed (h : Switched limits plan es t) : ∃ pump now fs,
    (Pump.machine (plan.policy limits)).run (Pump.start plan.entry now) fs =
      some (pump, pumpOutputs t) ∧
    ∀ entry ∈ records t, ∃ outcome, pump.phase.returned = some outcome ∧
      entry = (outcome.label, outcome.code) := by
  obtain ⟨opening, relay, pump, record, rfl, hopening, hrelay, hrecord⟩ := h
  obtain ⟨now, fs, -, hrun⟩ := hrelay.run
  obtain ⟨hquiet, hunrecorded⟩ := hopening.relays_nothing
  have hback : pumpOutputs record = [] := by
    rcases hrecord with rfl | ⟨outcome, -, rfl⟩
    · rfl
    · rfl
  refine ⟨pump, now, fs, ?_, ?_⟩
  · rw [pumpOutputs_append, pumpOutputs_append, hquiet, hback, List.nil_append, List.append_nil, hrun]
  · intro entry hentry
    rw [records_append, records_append, hunrecorded, hrelay.records] at hentry
    rcases hrecord with rfl | ⟨outcome, hreturned, rfl⟩
    · cases hentry
    · exact ⟨outcome, hreturned, List.mem_singleton.mp hentry⟩

/-- The outcome on record tells which side has had all of its frames delivered. -/
theorem Ordered.delivered {pump : Pump} {t : List PumpOutput} {outcome : PumpOutcome}
    (h : Ordered pump t) (hreturned : pump.phase.returned = some outcome) :
    (outcome.label = "client_closed" → hasOpened t = true →
      AllDelivered .downstream .upstream t) ∧
    (outcome.label = "upstream_closed" → AllDelivered .upstream .downstream t) := by
  obtain ⟨tell, hphase, -⟩ := returned_eq_some hreturned
  have hleaving := (ordered_closing hphase).mp h
  constructor
  · intro hlabel hopened
    cases outcome with
    | clientClosed => exact (hleaving.clientClosed rfl hopened).1
    | upstreamClosed code reason => simp [PumpOutcome.label] at hlabel
    | aborted code reason => simp [PumpOutcome.label] at hlabel
  · intro hlabel
    cases outcome with
    | clientClosed => simp [PumpOutcome.label] at hlabel
    | upstreamClosed code reason => exact (hleaving.upstreamClosed code reason rfl).1
    | aborted code reason => simp [PumpOutcome.label] at hlabel

theorem silent_or_switched {permits : Nat} {es : List (PoolEvent ConnectionPlan ConnectionEvent)}
    {s : Connections} {t : List (Nat × ConnectionOutput)}
    (hrun : (connectionsMachine limits).run (startPool permits) es = some (s, t)) (i : Nat) :
    pumpOutputs (outputsAt i t) = [] ∧ records (outputsAt i t) = [] ∨
      ∃ plan, Switched limits plan (eventsAt i es) (outputsAt i t) := by
  cases hx : s.members[i]? with
  | none =>
    have hsilent : outputsAt i t = [] :=
      outputsAt_fresh (member_run hrun).outputs (List.getElem?_eq_none_iff.mp hx)
    exact .inl (by rw [hsilent]; exact ⟨rfl, rfl⟩)
  | some x =>
    rcases (member_tells hrun hx).2.unswitched_or_switched with hunswitched | hswitched
    · exact .inl hunswitched.relays_nothing
    · exact .inr ⟨x.plan, hswitched⟩

end Relaying

/-- Every connection relays its own frames in order, in both directions; a recorded close of one side
stands for the delivery of all that this side has sent. -/
theorem connections_relay_in_order {limits : Limits} {permits : Nat}
    {es : List (PoolEvent ConnectionPlan ConnectionEvent)} {s : Connections}
    {t : List (Nat × ConnectionOutput)}
    (hrun : (connectionsMachine limits).run (startPool permits) es = some (s, t)) (i : Nat) :
    InOrder (pumpOutputs (outputsAt i t)) ∧
    ∀ label code, (label, code) ∈ records (outputsAt i t) →
      (label = "client_closed" → hasOpened (pumpOutputs (outputsAt i t)) = true →
        AllDelivered .downstream .upstream (pumpOutputs (outputsAt i t))) ∧
      (label = "upstream_closed" →
        AllDelivered .upstream .downstream (pumpOutputs (outputsAt i t))) := by
  rcases silent_or_switched hrun i with ⟨hnone, hunrecorded⟩ | ⟨plan, hswitched⟩
  · rw [hnone, hunrecorded]
    exact ⟨⟨List.prefix_rfl, List.prefix_rfl⟩, fun label code hmem => by cases hmem⟩
  · obtain ⟨pump, now, fs, hpump, hrecords⟩ := hswitched.relayed
    have hordered := ordered_run hpump
    refine ⟨hordered.inOrder, ?_⟩
    intro label code hmem
    obtain ⟨outcome, hreturned, heq⟩ := hrecords _ hmem
    obtain ⟨rfl, rfl⟩ := Prod.mk.inj heq
    exact hordered.delivered hreturned

theorem first_socket_relays_in_order : ∃ s t,
    (connectionsMachine .default).run (startPool 1) twoSockets = some (s, t) ∧
      AllDelivered .downstream .upstream (pumpOutputs (outputsAt 0 t)) := by
  obtain ⟨s, t, hrun, hclosed⟩ := TraceMachine.exists_run_of_any
    (show ((connectionsMachine .default).run (startPool 1) twoSockets).any
      (fun r => (records (outputsAt 0 r.2)).contains ("client_closed", some CODE_NORMAL) &&
        hasOpened (pumpOutputs (outputsAt 0 r.2))) = true by decide +kernel)
  obtain ⟨hrecorded, hopened⟩ := Bool.and_eq_true_iff.mp hclosed
  obtain ⟨-, hrecords⟩ := connections_relay_in_order hrun 0
  exact ⟨s, t, hrun,
    (hrecords _ _ (List.contains_iff_mem.mp hrecorded)).1 rfl hopened⟩

end GptLiveProxy
