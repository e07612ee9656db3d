import GptLiveProxy.PumpDelivery

/-!
# The idle deadline

The deadline is armed when the upstream opens and armed again at every read. What has been read is
therefore older than one idle timeout when the deadline passes; what still waits to be read is not
covered, since neither a flush nor a send in progress reads.
-/

namespace GptLiveProxy
open PumpPhase

def frameTimes {α : Type} (inbox : List (Nat × PumpItem α)) : List Nat :=
  (inbox.filter fun arrival => arrival.2.isMessage).map Prod.fst

def Pump.waiting (s : Pump) : Leg → List Nat
  | .downstream => frameTimes s.downstream
  | .upstream => frameTimes s.upstream

theorem mem_frameTimes {α : Type} {inbox : List (Nat × PumpItem α)} {time : Nat} :
    time ∈ frameTimes inbox ↔ ∃ item, (time, item) ∈ inbox ∧ item.isMessage = true := by
  simp [frameTimes]

theorem frameTimes_rest {α : Type} {inbox rest : List (Nat × PumpItem α)}
    {arrival : Nat × PumpItem α} (h : inbox = arrival :: rest) {time : Nat}
    (hmem : time ∈ frameTimes rest) : time ∈ frameTimes inbox := by
  obtain ⟨item, hitem, hmessage⟩ := mem_frameTimes.mp hmem
  rw [h]
  exact mem_frameTimes.mpr ⟨item, List.mem_cons_of_mem _ hitem, hmessage⟩

/-- Every frame that arrived waits still or is older than one idle timeout when the deadline
passes. -/
structure Awake (policy : PumpPolicy) (s : Pump) (t : List PumpOutput) : Prop where
  past : ∀ leg time, .arrived leg time ∈ t → time ≤ s.now
  waiting : ∀ leg, ∀ time ∈ s.waiting leg, .arrived leg time ∈ t
  unarmed : s.phase.isOpen = false → s.idleDeadline = none
  armed : ∀ deadline, s.idleDeadline = some deadline →
    0 < policy.idleTimeout ∧ deadline ≤ s.now + policy.idleTimeout ∧
    (∃ time, .opened time ∈ t ∧ time + policy.idleTimeout ≤ deadline) ∧
    ∀ leg time, .arrived leg time ∈ t →
      time ∈ s.waiting leg ∨ time + policy.idleTimeout ≤ deadline

section Step
variable {policy : PumpPolicy} {s s' : Pump} {e : PumpEvent} {t out : List PumpOutput}

theorem Awake.keep (h : Awake policy s t) (hnow : s.now ≤ s'.now)
    (hwaiting : ∀ leg, s'.waiting leg = s.waiting leg)
    (hdeadline : s'.idleDeadline = s.idleDeadline)
    (hopen : s'.phase.isOpen = false → s.phase.isOpen = false)
    (hout : ∀ leg time, .arrived leg time ∉ out) : Awake policy s' (t ++ out) where
  past leg time hmem := by
    have := h.past leg time ((List.mem_append.mp hmem).resolve_right (hout leg time))
    omega
  waiting leg time hmem := by
    rw [hwaiting] at hmem
    exact List.mem_append_left _ (h.waiting leg time hmem)
  unarmed hclosed := hdeadline.trans (h.unarmed (hopen hclosed))
  armed deadline harmed := by
    obtain ⟨hpos, hlate, ⟨opened, hopened, hafter⟩, hseen⟩ := h.armed deadline (hdeadline ▸ harmed)
    refine ⟨hpos, by omega, ⟨opened, List.mem_append_left _ hopened, hafter⟩, ?_⟩
    intro leg time hmem
    rw [hwaiting]
    exact hseen leg time ((List.mem_append.mp hmem).resolve_right (hout leg time))

/-- A read arms the deadline again, which then covers every frame that has arrived. -/
theorem Awake.reread (h : Awake policy s t) (hnow : s'.now = s.now)
    (hwaiting : ∀ leg, ∀ time ∈ s'.waiting leg, time ∈ s.waiting leg)
    (hdeadline : s'.idleDeadline = s.idleDeadline.map fun _ => s.now + policy.idleTimeout)
    (hopen : s'.phase.isOpen = false → s.phase.isOpen = false)
    (hout : ∀ leg time, .arrived leg time ∉ out) : Awake policy s' (t ++ out) where
  past leg time hmem := by
    have := h.past leg time ((List.mem_append.mp hmem).resolve_right (hout leg time))
    omega
  waiting leg time hmem := List.mem_append_left _ (h.waiting leg time (hwaiting leg time hmem))
  unarmed hclosed := by rw [hdeadline, h.unarmed (hopen hclosed), Option.map_none]
  armed deadline harmed := by
    rw [hdeadline] at harmed
    obtain ⟨old, hold, rfl⟩ := Option.map_eq_some_iff.mp harmed
    obtain ⟨hpos, hlate, ⟨opened, hopened, hafter⟩, -⟩ := h.armed old hold
    refine ⟨hpos, by omega, ⟨opened, List.mem_append_left _ hopened, by omega⟩, ?_⟩
    intro leg time hmem
    have := h.past leg time ((List.mem_append.mp hmem).resolve_right (hout leg time))
    right
    omega

theorem Awake.opened (h : Awake policy s t) {phase : PumpPhase} (hphase : phase.isOpen = true) :
    Awake policy (s.opened policy phase) (t ++ [.opened s.now]) where
  past leg time hmem := h.past leg time (by simpa using hmem)
  waiting leg time hmem := List.mem_append_left _ (h.waiting leg time hmem)
  unarmed hclosed := absurd hphase (by simp [show phase.isOpen = false from hclosed])
  armed deadline harmed := by
    have hdeadline : idleDeadline policy s.now = some deadline := harmed
    unfold idleDeadline at hdeadline
    split_ifs at hdeadline with hzero
    obtain rfl := Option.some.inj hdeadline
    refine ⟨by omega, le_rfl, ⟨s.now, by simp, le_rfl⟩, ?_⟩
    intro leg time hmem
    have := h.past leg time (by simpa using hmem)
    right
    omega

theorem Awake.arrive (h : Awake policy s t) {arrivedLeg : Leg} {isFrame : Bool}
    (hnow : s'.now = s.now) (hdeadline : s'.idleDeadline = s.idleDeadline)
    (hphase : s'.phase = s.phase)
    (hwaiting : ∀ leg time, time ∈ s'.waiting leg ↔
      time ∈ s.waiting leg ∨ (isFrame = true ∧ leg = arrivedLeg ∧ time = s.now))
    (hout : ∀ leg time, .arrived leg time ∈ out ↔
      isFrame = true ∧ leg = arrivedLeg ∧ time = s.now) : Awake policy s' (t ++ out) where
  past leg time hmem := by
    rcases List.mem_append.mp hmem with hold | hnew
    · have := h.past leg time hold
      omega
    · obtain ⟨-, -, rfl⟩ := (hout leg time).mp hnew
      omega
  waiting leg time hmem := by
    rcases (hwaiting leg time).mp hmem with hold | hnew
    · exact List.mem_append_left _ (h.waiting leg time hold)
    · exact List.mem_append_right _ ((hout leg time).mpr hnew)
  unarmed hclosed := by
    rw [hdeadline]
    exact h.unarmed (hphase ▸ hclosed)
  armed deadline harmed := by
    obtain ⟨hpos, hlate, ⟨opened, hmem, hafter⟩, hseen⟩ := h.armed deadline (hdeadline ▸ harmed)
    refine ⟨hpos, by omega, ⟨opened, List.mem_append_left _ hmem, hafter⟩, ?_⟩
    intro leg time hmem
    rcases List.mem_append.mp hmem with hold | hnew
    · rcases hseen leg time hold with hwait | hcovered
      · exact .inl ((hwaiting leg time).mpr (.inl hwait))
      · exact .inr hcovered
    · exact .inl ((hwaiting leg time).mpr (.inr ((hout leg time).mp hnew)))

theorem mem_waiting_arrive {α : Type} {inbox : List (Nat × PumpItem α)} {now time : Nat}
    {item : PumpItem α} : time ∈ frameTimes (inbox ++ [(now, item)]) ↔
      time ∈ frameTimes inbox ∨ (item.isMessage = true ∧ time = now) := by
  simp only [mem_frameTimes, List.mem_append, List.mem_singleton, Prod.mk.injEq]
  constructor
  · rintro ⟨found, hold | ⟨rfl, rfl⟩, hmessage⟩
    · exact .inl ⟨found, hold, hmessage⟩
    · exact .inr ⟨hmessage, rfl⟩
  · rintro (⟨found, hold, hmessage⟩ | ⟨hmessage, rfl⟩)
    · exact ⟨found, .inl hold, hmessage⟩
    · exact ⟨item, .inr ⟨rfl, rfl⟩, hmessage⟩

theorem mem_arrivals {α : Type} {arrivedLeg leg : Leg} {now time : Nat} {item : PumpItem α} :
    .arrived leg time ∈ item.arrivals arrivedLeg now ↔
      item.isMessage = true ∧ leg = arrivedLeg ∧ time = now := by
  cases hitem : item.isMessage <;> simp [PumpItem.arrivals, hitem]

theorem active_before (hstep : PumpStep policy s e s' out) (hactive : s'.phase.isActive = true) :
    s.phase.isActive = true := by
  cases hstep with
  | tick | arriveDownstream | arriveUpstream => exact hactive
  | abort hbefore hidle haborts hout => exact hbefore
  | idle hphase hdeadline hdue => exact isActive_of_awaitsIdle hphase
  | beginClose | closeSent => cases hactive
  | enter hphase | connected hphase | leave hphase | skipQueueing hphase | queue hphase
  | skipDownstream hphase | skipUpstream hphase | forwardUpstream hphase | forwardDownstream hphase
  | clientClosed hphase | clientGone hphase | upstreamClosed hphase | beginSend hphase
  | sentQueued hphase | sentUpstream hphase | sentDownstream hphase =>
    rw [hphase]
    rfl

theorem waiting_of_downstream {arrival : Nat × PumpItem AxumMessage}
    {rest : List (Nat × PumpItem AxumMessage)} (hinbox : s.downstream = arrival :: rest)
    (hdownstream : s'.downstream = rest) (hupstream : s'.upstream = s.upstream) :
    ∀ leg, ∀ time ∈ s'.waiting leg, time ∈ s.waiting leg := by
  intro leg time hmem
  cases leg with
  | downstream => exact frameTimes_rest hinbox (hdownstream ▸ hmem)
  | upstream =>
    rw [Pump.waiting, hupstream] at hmem
    exact hmem

theorem waiting_of_upstream {arrival : Nat × PumpItem TungMessage}
    {rest : List (Nat × PumpItem TungMessage)} (hinbox : s.upstream = arrival :: rest)
    (hdownstream : s'.downstream = s.downstream) (hupstream : s'.upstream = rest) :
    ∀ leg, ∀ time ∈ s'.waiting leg, time ∈ s.waiting leg := by
  intro leg time hmem
  cases leg with
  | downstream =>
    rw [Pump.waiting, hdownstream] at hmem
    exact hmem
  | upstream => exact frameTimes_rest hinbox (hupstream ▸ hmem)

theorem awake_step (hstep : PumpStep policy s e s' out) (hactive : s'.phase.isActive = true)
    (h : Awake policy s t) : Awake policy s' (t ++ out) := by
  cases hstep with
  | tick duration => exact h.keep (Nat.le_add_right ..) (fun _ => rfl) rfl id (by simp)
  | arriveDownstream item =>
    refine h.arrive rfl rfl rfl (fun leg time => ?_) (fun leg time => mem_arrivals)
    cases leg with
    | downstream => simpa [Pump.waiting] using mem_waiting_arrive
    | upstream => simp [Pump.waiting]
  | arriveUpstream item =>
    refine h.arrive rfl rfl rfl (fun leg time => ?_) (fun leg time => mem_arrivals)
    cases leg with
    | downstream => simp [Pump.waiting]
    | upstream => simpa [Pump.waiting] using mem_waiting_arrive
  | enter hphase => exact h.opened rfl
  | connected hphase => exact h.opened (isOpen_flush _)
  | abort hbefore hidle haborts hout =>
    obtain ⟨tell, code, reason, hclosing, -⟩ := haborts
    rw [hclosing] at hactive
    cases hactive
  | idle | leave | clientClosed | clientGone | upstreamClosed | beginClose | closeSent =>
    cases hactive
  | skipQueueing hphase hinbox =>
    have hunarmed := h.unarmed (by rw [hphase]; rfl)
    refine h.reread rfl (waiting_of_downstream hinbox rfl rfl) ?_ id (by simp)
    rw [hunarmed, Option.map_none]
  | queue hphase hinbox hconverted haccept htotal =>
    have hclosed : s.phase.isOpen = false := by
      rw [hphase]
      rfl
    refine h.reread rfl (waiting_of_downstream hinbox rfl rfl) ?_ (fun _ => hclosed) (by simp)
    rw [h.unarmed hclosed, Option.map_none]
  | skipDownstream hphase hinbox =>
    exact h.reread rfl (waiting_of_downstream hinbox rfl rfl) rfl id (by simp)
  | skipUpstream hphase hinbox =>
    exact h.reread rfl (waiting_of_upstream hinbox rfl rfl) rfl id (by simp)
  | forwardUpstream hphase hinbox hconverted =>
    exact h.reread rfl (waiting_of_downstream hinbox rfl rfl) rfl nofun (by simp)
  | forwardDownstream hphase hinbox hconverted =>
    exact h.reread rfl (waiting_of_upstream hinbox rfl rfl) rfl nofun (by simp)
  | beginSend hphase => exact h.keep le_rfl (fun _ => rfl) rfl nofun (by simp)
  | @sentQueued message queue started hphase =>
    refine h.keep le_rfl (fun _ => rfl) rfl (fun hclosed => ?_) (by simp)
    rw [isOpen_flush] at hclosed
    cases hclosed
  | sentUpstream hphase => exact h.keep le_rfl (fun _ => rfl) rfl nofun (by simp)
  | sentDownstream hphase => exact h.keep le_rfl (fun _ => rfl) rfl nofun (by simp)

theorem idle_of_closes (hstep : PumpStep policy s e s' out) (hactive : s.phase.isActive = true)
    (hclosed : s'.phase = abortBoth CODE_GOING_AWAY CLOSE_IDLE_TIMEOUT) :
    e = .idle ∧ ∃ deadline, s.idleDeadline = some deadline ∧ deadline ≤ s.now := by
  have hactive' : s'.phase.isActive = false := by
    rw [hclosed]
    rfl
  cases hstep with
  | idle hphase hdeadline hdue => exact ⟨rfl, _, hdeadline, hdue⟩
  | abort hbefore hidle haborts hout =>
    obtain ⟨tell, code, reason, hclosing, hcode, -⟩ := haborts
    rw [hclosing] at hclosed
    obtain ⟨-, houtcome⟩ := PumpPhase.closing.inj hclosed
    exact absurd (PumpOutcome.aborted.inj houtcome).1 hcode
  | tick | arriveDownstream | arriveUpstream | skipDownstream | skipUpstream | skipQueueing =>
    exact absurd hactive (by rw [show s.phase.isActive = false from hactive']; simp)
  | leave | clientClosed | clientGone | upstreamClosed =>
    obtain ⟨-, houtcome⟩ := PumpPhase.closing.inj hclosed
    cases houtcome
  | beginClose hphase | closeSent hphase =>
    rw [hphase] at hactive
    cases hactive
  | @connected queue | @sentQueued message queue => cases queue <;> cases hactive'
  | _ => cases hactive'

end Step

section Law
variable (policy : PumpPolicy)

/-- The law of one idle close: an idle timeout is configured, has passed since the upstream opened,
and has passed since every frame that arrived. -/
def IdleCloseLaw (s : Pump) (t : List PumpOutput) : Prop :=
  0 < policy.idleTimeout ∧
  (∃ time, .opened time ∈ t ∧ time + policy.idleTimeout ≤ s.now) ∧
  ∀ leg time, .arrived leg time ∈ t → time + policy.idleTimeout ≤ s.now

/-- Every step of the run by which the pump closes with 1001 and `idle timeout` obeys the law. -/
def IdleLaw (start : Pump) (es : List PumpEvent) : Prop :=
  ∀ pre e post s t s' out, es = pre ++ e :: post →
    (Pump.machine policy).run start pre = some (s, t) →
    (Pump.machine policy).step s e = some (s', out) → s.phase.isActive = true →
    s'.phase = abortBoth CODE_GOING_AWAY CLOSE_IDLE_TIMEOUT → IdleCloseLaw policy s t

/-- The idle branch is taken only while no frame that arrived within the last idle timeout is waiting
to be read. -/
def UnreadAreStale (s : Pump) (e : PumpEvent) : Prop :=
  e = .idle → ∀ leg, ∀ time ∈ s.waiting leg, time + policy.idleTimeout ≤ s.now

theorem awake_start (entry : Pump.Entry) (now : Nat) :
    Awake policy (Pump.start entry now) [] := by
  refine ⟨nofun, fun leg time hmem => ?_, fun _ => rfl, nofun⟩
  cases leg <;> cases hmem

variable {policy} {entry : Pump.Entry} {now : Nat} {es : List PumpEvent} {s : Pump}
  {t : List PumpOutput}

theorem awake_run (hrun : (Pump.machine policy).run (Pump.start entry now) es = some (s, t))
    (hactive : s.phase.isActive = true) : Awake policy s t := by
  refine (Pump.machine policy).run_invariant
    (P := fun s t => s.phase.isActive = true → Awake policy s t)
    (fun _ => awake_start policy entry now) ?_ hrun hactive
  intro s t e s' out h hstep hactive'
  have hkind := Pump.pumpStep_of_step hstep
  exact awake_step hkind hactive' (h (active_before hkind hactive'))

theorem idleCloseLaw_iff {deadline : Nat} (h : Awake policy s t)
    (hdeadline : s.idleDeadline = some deadline) (hdue : deadline ≤ s.now) :
    IdleCloseLaw policy s t ↔
      ∀ leg, ∀ time ∈ s.waiting leg, time + policy.idleTimeout ≤ s.now := by
  constructor
  · rintro ⟨-, -, hlaw⟩ leg time hmem
    exact hlaw leg time (h.waiting leg time hmem)
  · intro hstale
    obtain ⟨hpos, -, ⟨opened, hopened, hafter⟩, hseen⟩ := h.armed deadline hdeadline
    refine ⟨hpos, ⟨opened, hopened, by omega⟩, fun leg time hmem => ?_⟩
    rcases hseen leg time hmem with hwaiting | hcovered
    · exact hstale leg time hwaiting
    · omega

/-- The pump keeps the idle law in exactly the runs that never take the idle branch past a frame
which arrived within the last idle timeout and waits to be read. -/
theorem idle_law_iff
    (hrun : (Pump.machine policy).run (Pump.start entry now) es = some (s, t)) :
    IdleLaw policy (Pump.start entry now) es ↔
      (Pump.machine policy).StepsMeet (UnreadAreStale policy) (Pump.start entry now) es := by
  constructor
  · rintro hlaw pre e post m u rfl hpre rfl
    obtain ⟨m', u', rest, hpre', hlater, rfl⟩ := (Pump.machine policy).run_append_iff.mp hrun
    obtain ⟨rfl, rfl⟩ : m = m' ∧ u = u' := by simpa [hpre] using hpre'
    obtain ⟨s', out, _, hstep, -, -⟩ := (Pump.machine policy).run_cons_iff.mp hlater
    cases Pump.pumpStep_of_step hstep with
    | idle hphase hdeadline hdue =>
      have hactive := isActive_of_awaitsIdle hphase
      refine (idleCloseLaw_iff (awake_run hpre hactive) hdeadline hdue).mp ?_
      exact hlaw pre .idle post m u _ _ rfl hpre hstep hactive rfl
    | abort hactive hidle => exact absurd rfl hidle
  · rintro hmeets pre e post m u m' out rfl hpre hstep hactive hclosed
    obtain ⟨rfl, deadline, hdeadline, hdue⟩ :=
      idle_of_closes (Pump.pumpStep_of_step hstep) hactive hclosed
    exact (idleCloseLaw_iff (awake_run hpre hactive) hdeadline hdue).mpr
      (hmeets pre .idle post m u rfl hpre rfl)

theorem idle_close_is_late {e : PumpEvent} {s' : Pump} {out : List PumpOutput}
    (hrun : (Pump.machine policy).run (Pump.start entry now) es = some (s, t))
    (hstep : (Pump.machine policy).step s e = some (s', out)) (hactive : s.phase.isActive = true)
    (hclosed : s'.phase = abortBoth CODE_GOING_AWAY CLOSE_IDLE_TIMEOUT) :
    0 < policy.idleTimeout ∧ ∃ time, .opened time ∈ t ∧ time + policy.idleTimeout ≤ s.now := by
  obtain ⟨-, deadline, hdeadline, hdue⟩ :=
    idle_of_closes (Pump.pumpStep_of_step hstep) hactive hclosed
  obtain ⟨hpos, -, ⟨opened, hopened, hafter⟩, -⟩ := (awake_run hrun hactive).armed deadline hdeadline
  exact ⟨hpos, opened, hopened, by omega⟩

end Law

/-- A frame arrives at 5 while a send takes until 11; the pump closes as idle at 11 without having
read it, with an idle timeout of 10. -/
theorem slow_send_cut_as_idle : ¬ ∀ policy entry now es s t,
    (Pump.machine policy).run (Pump.start entry now) es = some (s, t) →
      IdleLaw policy (Pump.start entry now) es := by
  intro h
  obtain ⟨s, hrun, hobserved⟩ := @TraceMachine.exists_run_of_observed _ _ _
    (Pump.machine ⟨1024, 50, 10, .transparent⟩) _
    (fun s => (s.now, s.idleDeadline, s.phase.awaitsIdle)) (Pump.start .runConnected 0)
    [.enter, .arriveDownstream (.message (.binary [1])), .readDownstream, .tick 5,
      .arriveUpstream (.message (.binary [2])), .tick 6, .sent .ok]
    (11, some 10, true)
    [.opened 0, .arrived .downstream 0, .read .downstream (.data (.binary [1])),
      .send .upstream (.data (.binary [1])), .arrived .upstream 5,
      .sent .upstream (.data (.binary [1])) .ok] (by decide +kernel)
  obtain ⟨hnow, hdeadline, hphase⟩ : s.now = 11 ∧ s.idleDeadline = some 10 ∧
    s.phase.awaitsIdle = true := by simpa using hobserved
  have hstep : (Pump.machine ⟨1024, 50, 10, .transparent⟩).step s .idle =
      some ({ s with phase := abortBoth CODE_GOING_AWAY CLOSE_IDLE_TIMEOUT }, []) := by
    simp [Pump.machine, Pump.step, hnow, hdeadline, hphase]
  have hlast := (Pump.machine _).run_append_iff.mpr
    ⟨_, _, _, hrun, (Pump.machine _).run_cons_iff.mpr
      ⟨_, _, _, hstep, (Pump.machine _).run_nil _, rfl⟩, rfl⟩
  obtain ⟨-, -, hlaw⟩ := h _ _ _ _ _ _ hlast _ _ [] _ _ _ _ rfl hrun hstep
    (isActive_of_awaitsIdle hphase) rfl
  have := hlaw .upstream 5 (by simp)
  simp [hnow] at this

theorem quiet_connection_obeys_idle_law : ∃ s t,
    (Pump.machine ⟨1024, 50, 10, .transparent⟩).run (Pump.start .runConnected 0)
      [.enter, .tick 10, .idle] = some (s, t) ∧
    IdleLaw ⟨1024, 50, 10, .transparent⟩ (Pump.start .runConnected 0) [.enter, .tick 10, .idle] := by
  refine ⟨_, _, rfl, (idle_law_iff rfl).mpr ?_⟩
  intro pre e post m u hsplit hpre hidle leg time hmem
  rcases pre with _ | ⟨e₁, _ | ⟨e₂, _ | ⟨e₃, pre⟩⟩⟩
  · simp [hidle] at hsplit
  · simp [hidle] at hsplit
  · obtain ⟨rfl, rfl, -⟩ : .enter = e₁ ∧ .tick 10 = e₂ ∧ _ := by simpa using hsplit
    cases hpre
    cases leg <;> cases hmem
  · simp at hsplit

end GptLiveProxy
