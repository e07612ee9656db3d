import GptLiveProxy.PumpStep

/-!
# Nothing is lost, duplicated or reordered by the pump

Between the moment a data frame is read and the moment its send succeeds it sits in the pump's phase.
The invariant says so for both directions while the pump relays; an exit keeps what it needs of it.
-/

namespace GptLiveProxy
open PumpPhase

def dataOf (queue : List TungMessage) : List DataFrame :=
  queue.filterMap fun message => message.view.data?

/-- The client's frames whose send has not been attempted. -/
def PumpPhase.unsent : PumpPhase → List TungMessage
  | connecting queue _ => queue
  | flushing message queue none => message :: queue
  | flushing _ queue (some _) => queue
  | _ => []

/-- The client's frames whose send has not succeeded. -/
def PumpPhase.undelivered : PumpPhase → List TungMessage
  | connecting queue _ => queue
  | flushing message queue _ => message :: queue
  | sendingUpstream message _ => [message]
  | _ => []

/-- The upstream's frame whose send has not succeeded. -/
def PumpPhase.undeliveredBack : PumpPhase → List DataFrame
  | sendingDownstream message _ => message.view.data?.toList
  | _ => []

def PumpPhase.isOpen : PumpPhase → Bool
  | connecting _ _ => false
  | entering => false
  | _ => true

theorem unsent_flush (queue : List TungMessage) : (flush queue).unsent = queue := by
  cases queue <;> rfl

theorem undelivered_flush (queue : List TungMessage) : (flush queue).undelivered = queue := by
  cases queue <;> rfl

theorem undeliveredBack_flush (queue : List TungMessage) : (flush queue).undeliveredBack = [] := by
  cases queue <;> rfl

theorem isOpen_flush (queue : List TungMessage) : (flush queue).isOpen = true := by
  cases queue <;> rfl

/-- What holds of an active phase and the trace that led to it. -/
structure Relaying (phase : PumpPhase) (t : List PumpOutput) : Prop where
  sent : dataRead .downstream t = dataSent .upstream t ++ dataOf phase.unsent
  delivered : dataRead .downstream t = dataDelivered .upstream t ++ dataOf phase.undelivered
  sentBack : dataRead .upstream t = dataSent .downstream t
  deliveredBack : dataRead .upstream t = dataDelivered .downstream t ++ phase.undeliveredBack
  opened : hasOpened t = phase.isOpen

/-- All that was read on one leg reached the other before its close. -/
def Flushed (tell : Leg → Tell) (origin target : Leg) (t : List PumpOutput) : Prop :=
  dataDelivered target t = dataRead origin t ∧
    ((∃ code reason, tell target = .pending code reason) ∨
      ∃ pre parts post, t = pre ++ .send target (.close parts) :: post ∧
        dataDelivered target pre = dataRead origin t)

structure Leaving (tell : Leg → Tell) (outcome : PumpOutcome) (t : List PumpOutput) : Prop where
  sent : dataSent .upstream t <+: dataRead .downstream t
  sentBack : dataSent .downstream t <+: dataRead .upstream t
  clientClosed : outcome = .clientClosed → hasOpened t = true → Flushed tell .downstream .upstream t
  upstreamClosed : ∀ code reason, outcome = .upstreamClosed code reason →
    Flushed tell .upstream .downstream t

def Ordered (s : Pump) (t : List PumpOutput) : Prop :=
  match s.phase with
  | .closing tell outcome => Leaving tell outcome t
  | phase => Relaying phase t

theorem ordered_active {s : Pump} {t : List PumpOutput} (h : s.phase.isActive = true) :
    Ordered s t ↔ Relaying s.phase t := by
  unfold Ordered
  split
  · rename_i hphase
    rw [hphase] at h
    cases h
  · rfl

theorem ordered_closing {s : Pump} {t : List PumpOutput} {tell : Leg → Tell} {outcome : PumpOutcome}
    (h : s.phase = .closing tell outcome) : Ordered s t ↔ Leaving tell outcome t := by
  unfold Ordered
  rw [h]

/-- A step within the active phases, told by what it moves from the phase into its outputs. -/
theorem Relaying.extend {phase phase' : PumpPhase} {t out : List PumpOutput} (h : Relaying phase t)
    (hsent : dataOf phase.unsent ++ dataRead .downstream out =
      dataSent .upstream out ++ dataOf phase'.unsent)
    (hdelivered : dataOf phase.undelivered ++ dataRead .downstream out =
      dataDelivered .upstream out ++ dataOf phase'.undelivered)
    (hsentBack : dataRead .upstream out = dataSent .downstream out)
    (hdeliveredBack : phase.undeliveredBack ++ dataRead .upstream out =
      dataDelivered .downstream out ++ phase'.undeliveredBack)
    (hopened : (phase.isOpen || hasOpened out) = phase'.isOpen) : Relaying phase' (t ++ out) where
  sent := by
    rw [dataRead_append, dataSent_append, h.sent, List.append_assoc, hsent, List.append_assoc]
  delivered := by
    rw [dataRead_append, dataDelivered_append, h.delivered, List.append_assoc, hdelivered,
      List.append_assoc]
  sentBack := by
    rw [dataRead_append, dataSent_append, h.sentBack, hsentBack]
  deliveredBack := by
    rw [dataRead_append, dataDelivered_append, h.deliveredBack, List.append_assoc, hdeliveredBack,
      List.append_assoc]
  opened := by
    rw [hasOpened_append, h.opened, hopened]

/-- Outputs that are no frames and no opening. -/
structure Quiet (out : List PumpOutput) : Prop where
  read : ∀ leg, dataRead leg out = []
  sent : ∀ leg, dataSent leg out = []
  delivered : ∀ leg, dataDelivered leg out = []
  opened : hasOpened out = false

theorem quiet_nil : Quiet [] := ⟨fun _ => rfl, fun _ => rfl, fun _ => rfl, rfl⟩

theorem quiet_arrivals {α : Type} (leg : Leg) (time : Nat) (item : PumpItem α) :
    Quiet (item.arrivals leg time) := by
  cases item with
  | message value => exact ⟨fun _ => rfl, fun _ => rfl, fun _ => rfl, rfl⟩
  | error tooLarge => exact quiet_nil
  | ended => exact quiet_nil

theorem quiet_close (leg : Leg) (parts : Option (UInt16 × String)) :
    Quiet [.send leg (.close parts)] where
  read _ := rfl
  sent target := by by_cases h : leg = target <;> simp [dataSent, framesSent, h]
  delivered _ := rfl
  opened := rfl

theorem quiet_control (leg : Leg) : Quiet [.read leg .control] where
  read target := by by_cases h : leg = target <;> simp [dataRead, framesRead, h, Frame.data?]
  sent _ := rfl
  delivered _ := rfl
  opened := rfl

/-- A leg's part of an exit is pending still, is handed over now, or was handed over before. -/
def Advances (tell tell' : Leg → Tell) (leg : Leg) (out : List PumpOutput) : Prop :=
  tell' leg = tell leg ∨ (∃ parts, out = [.send leg (.close parts)]) ∨
    ∀ code reason, tell leg ≠ .pending code reason

theorem Flushed.extend {tell tell' : Leg → Tell} {origin target : Leg} {t out : List PumpOutput}
    (h : Flushed tell origin target t) (hquiet : Quiet out)
    (htell : Advances tell tell' target out) : Flushed tell' origin target (t ++ out) := by
  obtain ⟨hall, hclose⟩ := h
  refine ⟨by simp [hquiet.delivered, hquiet.read, hall], ?_⟩
  rw [dataRead_append, hquiet.read, List.append_nil]
  rcases hclose with ⟨code, reason, hpending⟩ | ⟨pre, parts, post, rfl, hpre⟩
  · rcases htell with hsame | ⟨parts, rfl⟩ | hnot
    · exact .inl ⟨code, reason, by rw [hsame, hpending]⟩
    · exact .inr ⟨t, parts, [], rfl, hall⟩
    · exact absurd hpending (hnot code reason)
  · exact .inr ⟨pre, parts, post ++ out, by simp, hpre⟩

theorem Leaving.extend {tell tell' : Leg → Tell} {outcome : PumpOutcome} {t out : List PumpOutput}
    (h : Leaving tell outcome t) (hquiet : Quiet out)
    (htell : ∀ leg, Advances tell tell' leg out) : Leaving tell' outcome (t ++ out) where
  sent := by simpa [hquiet.read, hquiet.sent] using h.sent
  sentBack := by simpa [hquiet.read, hquiet.sent] using h.sentBack
  clientClosed houtcome hopened := by
    rw [hasOpened_append, hquiet.opened, Bool.or_false] at hopened
    exact (h.clientClosed houtcome hopened).extend hquiet (htell .upstream)
  upstreamClosed code reason houtcome :=
    (h.upstreamClosed code reason houtcome).extend hquiet (htell .downstream)

theorem ordered_quiet {s s' : Pump} {t out : List PumpOutput} (h : Ordered s t)
    (hphase : s'.phase = s.phase) (hquiet : Quiet out) : Ordered s' (t ++ out) := by
  cases hactive : s.phase.isActive with
  | true =>
    rw [ordered_active (by rw [hphase, hactive]), hphase]
    refine ((ordered_active hactive).mp h).extend ?_ ?_ ?_ ?_ ?_
    · rw [hquiet.read, hquiet.sent, List.append_nil, List.nil_append]
    · rw [hquiet.read, hquiet.delivered, List.append_nil, List.nil_append]
    · rw [hquiet.read, hquiet.sent]
    · rw [hquiet.read, hquiet.delivered, List.append_nil, List.nil_append]
    · rw [hquiet.opened, Bool.or_false]
  | false =>
    cases hclosing : s.phase with
    | closing tell outcome =>
      refine (ordered_closing (hphase.trans hclosing)).mpr ?_
      exact ((ordered_closing hclosing).mp h).extend hquiet fun _ => .inl rfl
    | _ => simp [hclosing, isActive] at hactive

theorem Relaying.leaving {phase : PumpPhase} {tell : Leg → Tell} {outcome : PumpOutcome}
    {t out : List PumpOutput} (h : Relaying phase t) (hnone : ∀ leg, dataSent leg out = [])
    (hclient : outcome = .clientClosed → hasOpened (t ++ out) = true →
      Flushed tell .downstream .upstream (t ++ out))
    (hupstream : ∀ code reason, outcome = .upstreamClosed code reason →
      Flushed tell .upstream .downstream (t ++ out)) : Leaving tell outcome (t ++ out) where
  sent := by
    rw [dataSent_append, dataRead_append, hnone, h.sent, List.append_nil, List.append_assoc]
    exact List.prefix_append ..
  sentBack := by
    rw [dataSent_append, dataRead_append, hnone, h.sentBack, List.append_nil]
    exact List.prefix_append ..
  clientClosed := hclient
  upstreamClosed := hupstream

theorem Relaying.aborted {phase : PumpPhase} {tell : Leg → Tell} {code : UInt16} {reason : String}
    {t out : List PumpOutput} (h : Relaying phase t) (hout : AbortOutput phase out) :
    Leaving tell (.aborted code reason) (t ++ out) := by
  refine h.leaving (fun leg => ?_) nofun nofun
  rcases hout with rfl | ⟨-, _, _, rfl⟩ | ⟨_, _, _, -, rfl⟩ <;> rfl

/-- What the relay loop has read it has delivered, so the close follows all of it. -/
theorem Relaying.flushed {tell : Leg → Tell} {t out : List PumpOutput} (h : Relaying .relaying t)
    {code : UInt16} {reason : String} (htell : tell .upstream = .pending code reason)
    (hread : dataRead .downstream out = []) (hdelivered : dataDelivered .upstream out = []) :
    Flushed tell .downstream .upstream (t ++ out) := by
  refine ⟨?_, .inl ⟨code, reason, htell⟩⟩
  rw [dataDelivered_append, dataRead_append, hread, hdelivered, List.append_nil, List.append_nil]
  exact (h.delivered.trans (List.append_nil _)).symm

theorem Relaying.flushedBack {tell : Leg → Tell} {t out : List PumpOutput} (h : Relaying .relaying t)
    {code : UInt16} {reason : String} (htell : tell .downstream = .pending code reason)
    (hread : dataRead .upstream out = []) (hdelivered : dataDelivered .downstream out = []) :
    Flushed tell .upstream .downstream (t ++ out) := by
  refine ⟨?_, .inl ⟨code, reason, htell⟩⟩
  rw [dataDelivered_append, dataRead_append, hread, hdelivered, List.append_nil, List.append_nil]
  exact (h.deliveredBack.trans (List.append_nil _)).symm

theorem dataOf_cons (message : TungMessage) (queue : List TungMessage) :
    dataOf (message :: queue) = message.view.data?.toList ++ dataOf queue := by
  cases hview : message.view.data? <;> simp [dataOf, hview]

theorem dataOf_append (queue : List TungMessage) (message : TungMessage) :
    dataOf (queue ++ [message]) = dataOf queue ++ message.view.data?.toList := by
  cases hview : message.view.data? <;> simp [dataOf, hview]

theorem dataSent_send (leg : Leg) (frame : Frame) :
    dataSent leg [.send leg frame] = frame.data?.toList := by
  cases hdata : frame.data? <;> simp [dataSent, framesSent, hdata]

theorem dataDelivered_sent (leg : Leg) (frame : Frame) :
    dataDelivered leg [.sent leg frame .ok] = frame.data?.toList := by
  cases hdata : frame.data? <;> simp [dataDelivered, framesDelivered, hdata]

section Step
variable {policy : PumpPolicy} {s s' : Pump} {e : PumpEvent} {t out : List PumpOutput}

theorem ordered_at {phase : PumpPhase} (hphase : s.phase = phase) (hactive : phase.isActive = true)
    (h : Ordered s t) : Relaying phase t := by
  rw [← hphase] at hactive ⊢
  exact (ordered_active hactive).mp h

theorem isActive_of_awaitsIdle {phase : PumpPhase} (h : phase.awaitsIdle = true) :
    phase.isActive = true := by
  cases phase with
  | closing tell outcome => cases h
  | _ => rfl

theorem ordered_step (hstep : PumpStep policy s e s' out) (h : Ordered s t) :
    Ordered s' (t ++ out) := by
  cases hstep with
  | tick duration => exact ordered_quiet h rfl quiet_nil
  | arriveDownstream item => exact ordered_quiet h rfl (quiet_arrivals ..)
  | arriveUpstream item => exact ordered_quiet h rfl (quiet_arrivals ..)
  | enter hphase => exact (ordered_at hphase rfl h).extend rfl rfl rfl rfl rfl
  | @connected queue queuedBytes hphase =>
    rw [ordered_active (by cases queue <;> rfl)]
    refine (ordered_at hphase rfl h).extend ?_ ?_ rfl ?_ (isOpen_flush queue).symm
    · exact (List.append_nil _).trans (congrArg dataOf (unsent_flush queue).symm)
    · exact (List.append_nil _).trans (congrArg dataOf (undelivered_flush queue).symm)
    · exact (undeliveredBack_flush queue).symm
  | abort hactive hidle haborts hout =>
    obtain ⟨tell, code, reason, hclosing, -⟩ := haborts
    exact (ordered_closing hclosing).mpr (((ordered_active hactive).mp h).aborted hout)
  | idle hphase hdeadline hdue =>
    have hrelaying := (ordered_active (isActive_of_awaitsIdle hphase)).mp h
    exact (ordered_closing rfl).mpr (hrelaying.aborted (.inl rfl))
  | @leave queue queuedBytes arrival item rest hphase hinbox hclose =>
    have hrelaying := ordered_at hphase rfl h
    have hopened : hasOpened (item.reads .downstream AxumMessage.view) = false := by
      cases item <;> rfl
    refine (ordered_closing rfl).mpr (hrelaying.leaving (fun leg => ?_) ?_ nofun)
    · cases item <;> rfl
    · intro _ hopen
      rw [hasOpened_append, hopened, hrelaying.opened] at hopen
      cases hopen
  | skipQueueing hphase hinbox => exact ordered_quiet h rfl (quiet_control _)
  | @queue queue queuedBytes _ _ _ converted total frame hphase hinbox hconverted haccept htotal =>
    have hqueue : dataOf queue ++ [frame] = dataOf (queue ++ [converted]) := by
      rw [dataOf_append, hconverted]
      rfl
    exact (ordered_at hphase rfl h).extend hqueue hqueue rfl rfl rfl
  | skipDownstream hphase hinbox => exact ordered_quiet h rfl (quiet_control _)
  | skipUpstream hphase hinbox => exact ordered_quiet h rfl (quiet_control _)
  | forwardUpstream hphase hinbox hconverted =>
    refine (ordered_at hphase rfl h).extend rfl ?_ rfl rfl rfl
    rw [undelivered, dataOf_cons, hconverted]
    rfl
  | forwardDownstream hphase hinbox hconverted =>
    refine (ordered_at hphase rfl h).extend rfl rfl rfl ?_ rfl
    rw [undeliveredBack, hconverted]
    rfl
  | clientClosed hphase hinbox =>
    have hrelaying := ordered_at hphase rfl h
    exact (ordered_closing rfl).mpr (hrelaying.leaving (fun _ => rfl)
      (fun _ _ => hrelaying.flushed rfl rfl rfl) nofun)
  | clientGone hphase hinbox hitem =>
    have hrelaying := ordered_at hphase rfl h
    exact (ordered_closing rfl).mpr (hrelaying.leaving (fun _ => rfl)
      (fun _ _ => hrelaying.flushed rfl rfl rfl) nofun)
  | upstreamClosed hphase hinbox =>
    have hrelaying := ordered_at hphase rfl h
    exact (ordered_closing rfl).mpr (hrelaying.leaving (fun _ => rfl) nofun
      (fun _ _ _ => hrelaying.flushedBack rfl rfl rfl))
  | @beginSend message queue hphase =>
    refine (ordered_at hphase rfl h).extend ?_ (List.append_nil _) rfl rfl rfl
    rw [dataSent_send, unsent, dataOf_cons]
    exact List.append_nil _
  | @sentQueued message queue started hphase =>
    rw [ordered_active (by cases queue <;> rfl)]
    refine (ordered_at hphase rfl h).extend ?_ ?_ rfl ?_ (isOpen_flush queue).symm
    · exact (List.append_nil _).trans (congrArg dataOf (unsent_flush queue).symm)
    · rw [dataDelivered_sent, undelivered_flush, undelivered, dataOf_cons]
      exact List.append_nil _
    · exact (undeliveredBack_flush queue).symm
  | sentUpstream hphase =>
    refine (ordered_at hphase rfl h).extend rfl ?_ rfl rfl rfl
    rw [dataDelivered_sent, undelivered, dataOf_cons]
    exact List.append_nil _
  | sentDownstream hphase =>
    refine (ordered_at hphase rfl h).extend rfl rfl rfl ?_ rfl
    rw [dataDelivered_sent]
    rfl
  | @beginClose closed tell outcome code reason hphase htell =>
    refine (ordered_closing rfl).mpr (((ordered_closing hphase).mp h).extend (quiet_close ..) ?_)
    intro leg
    by_cases hleg : leg = closed
    · exact .inr (.inl ⟨_, by rw [hleg]⟩)
    · exact .inl (Function.update_of_ne hleg ..)
  | @closeSent closed tell outcome code reason hphase htell =>
    refine (ordered_closing rfl).mpr (((ordered_closing hphase).mp h).extend quiet_nil ?_)
    intro leg
    by_cases hleg : leg = closed
    · refine .inr (.inr fun code' reason' hpending => ?_)
      rw [hleg, htell] at hpending
      cases hpending
    · exact .inl (Function.update_of_ne hleg ..)

end Step

theorem eq_nil_of_singleton {α : Type*} {a b : α} {pre post : List α}
    (h : [a] = pre ++ b :: post) : pre = [] := by
  cases pre with
  | nil => rfl
  | cons first pre => simp at h

/-- A read comes first in its step, and only the two selects read. -/
theorem reading_step {leg : Leg} {frame : Frame} {pre post : List PumpOutput}
    (hstep : PumpStep policy s e s' out) (hout : out = pre ++ .read leg frame :: post) :
    pre = [] ∧ s.phase.isReading = true := by
  have hmem : .read leg frame ∈ out := by
    rw [hout]
    exact List.mem_append_right _ List.mem_cons_self
  cases hstep with
  | tick | idle | clientGone | closeSent => cases hmem
  | arriveDownstream item | arriveUpstream item => 
    cases item <;> simp [PumpItem.arrivals, PumpItem.isMessage] at hmem
  | enter | connected | beginSend | sentQueued | sentUpstream | sentDownstream | beginClose =>
    simp at hmem
  | abort hactive hidle haborts habort =>
    rcases habort with rfl | ⟨hreading, _, _, rfl⟩ | ⟨_, _, _, -, rfl⟩
    · cases hmem
    · exact ⟨eq_nil_of_singleton hout, hreading⟩
    · simp at hmem
  | @leave queue queuedBytes arrival item rest hphase hinbox hclose =>
    cases item with
    | message value => exact ⟨eq_nil_of_singleton hout, by rw [hphase]; rfl⟩
    | error tooLarge => cases hmem
    | ended => cases hmem
  | skipQueueing hphase | queue hphase | skipDownstream hphase | skipUpstream hphase
  | clientClosed hphase | upstreamClosed hphase =>
    exact ⟨eq_nil_of_singleton hout, by rw [hphase]; rfl⟩
  | forwardUpstream hphase | forwardDownstream hphase =>
    refine ⟨?_, by rw [hphase]; rfl⟩
    cases pre with
    | nil => rfl
    | cons first pre =>
      obtain ⟨-, hrest⟩ := List.cons.inj hout
      have := eq_nil_of_singleton hrest
      subst this
      cases hrest

section Run
variable {policy : PumpPolicy} {entry : Pump.Entry} {now : Nat} {es : List PumpEvent} {s : Pump}
  {t : List PumpOutput}

theorem ordered_start (entry : Pump.Entry) (now : Nat) : Ordered (Pump.start entry now) [] := by
  cases entry with
  | runPrivateWith => exact ⟨rfl, rfl, rfl, rfl, rfl⟩
  | runConnected => exact ⟨rfl, rfl, rfl, rfl, rfl⟩

theorem ordered_run (hrun : (Pump.machine policy).run (Pump.start entry now) es = some (s, t)) :
    Ordered s t := by
  refine (Pump.machine policy).run_invariant (ordered_start entry now) ?_ hrun
  intro s t e s' out h hstep
  exact ordered_step (Pump.pumpStep_of_step hstep) h

/-- After the upstream has opened, a frame is read only when all before it have been sent on. -/
theorem sent_before_read (hrun : (Pump.machine policy).run (Pump.start entry now) es = some (s, t)) :
    ∀ pre o post, t = pre ++ o :: post → (∃ frame, o = .read .downstream (.data frame)) →
      hasOpened pre = true → dataSent .upstream pre = dataRead .downstream pre := by
  refine (Pump.machine policy).run_outputs (P := Ordered) (ordered_start entry now) ?_ ?_ hrun
  · intro s t e s' out h hstep
    exact ordered_step (Pump.pumpStep_of_step hstep) h
  · rintro s t e s' out h hstep pre o post hout ⟨frame, rfl⟩ hopened
    obtain ⟨rfl, hreading⟩ := reading_step (Pump.pumpStep_of_step hstep) hout
    rw [List.append_nil] at hopened ⊢
    cases hphase : s.phase with
    | connecting queue queuedBytes =>
      have hrelaying := ordered_at hphase rfl h
      rw [hrelaying.opened] at hopened
      cases hopened
    | relaying =>
      have hrelaying := ordered_at hphase rfl h
      exact (hrelaying.sent.trans (List.append_nil _)).symm
    | _ => simp [hphase, isReading] at hreading

theorem Flushed.close_of_over {tell : Leg → Tell} {origin target : Leg} {t : List PumpOutput}
    (h : Flushed tell origin target t) (hover : (tell target).isOver = true) :
    ∃ pre parts post, t = pre ++ .send target (.close parts) :: post ∧
      dataDelivered target pre = dataRead origin t := by
  rcases h.2 with ⟨code, reason, hpending⟩ | hclose
  · rw [hpending] at hover
    cases hover
  · exact hclose

/-- The pump relays in order, without loss before an orderly end: `t` is the trace of any run. -/
theorem pump_relays_in_order
    (hrun : (Pump.machine policy).run (Pump.start entry now) es = some (s, t)) :
    dataSent .upstream t <+: dataRead .downstream t ∧
    dataSent .downstream t <+: dataRead .upstream t ∧
    (∀ pre frame post, t = pre ++ .read .downstream (.data frame) :: post → hasOpened pre = true →
      dataSent .upstream pre = dataRead .downstream pre) ∧
    (s.phase.returned = some .clientClosed → hasOpened t = true →
      ∃ pre parts post, t = pre ++ .send .upstream (.close parts) :: post ∧
        dataDelivered .upstream pre = dataRead .downstream t) ∧
    ∀ code reason, s.phase.returned = some (.upstreamClosed code reason) →
      ∃ pre parts post, t = pre ++ .send .downstream (.close parts) :: post ∧
        dataDelivered .downstream pre = dataRead .upstream t := by
  have hordered := ordered_run hrun
  have hinitial : dataSent .upstream t <+: dataRead .downstream t ∧
      dataSent .downstream t <+: dataRead .upstream t := by
    cases hphase : s.phase with
    | closing tell outcome =>
      have hleaving := (ordered_closing hphase).mp hordered
      exact ⟨hleaving.sent, hleaving.sentBack⟩
    | _ =>
      have hrelaying := ordered_at hphase rfl hordered
      exact ⟨⟨_, hrelaying.sent.symm⟩, ⟨[], by rw [hrelaying.sentBack, List.append_nil]⟩⟩
  refine ⟨hinitial.1, hinitial.2, ?_, ?_, ?_⟩
  · intro pre frame post hsplit hopened
    exact sent_before_read hrun pre _ post hsplit ⟨frame, rfl⟩ hopened
  · intro hreturned hopened
    obtain ⟨tell, hphase, hover⟩ := returned_eq_some hreturned
    have hleaving := (ordered_closing hphase).mp hordered
    exact (hleaving.clientClosed rfl hopened).close_of_over (hover .upstream)
  · intro code reason hreturned
    obtain ⟨tell, hphase, hover⟩ := returned_eq_some hreturned
    have hleaving := (ordered_closing hphase).mp hordered
    exact (hleaving.upstreamClosed code reason rfl).close_of_over (hover .downstream)

end Run

theorem queued_and_relayed_in_order : ∃ es s t,
    (Pump.machine ⟨1024, 50, 0, .transparent⟩).run (Pump.start .runPrivateWith 0) es = some (s, t) ∧
    s.phase.returned = some .clientClosed ∧
    dataRead .downstream t = [.binary [7], .binary [8]] ∧
    dataSent .upstream t <+: dataRead .downstream t ∧
    ∃ pre parts post, t = pre ++ .send .upstream (.close parts) :: post ∧
      dataDelivered .upstream pre = dataRead .downstream t := by
  obtain ⟨s, hrun, hreturned⟩ := @TraceMachine.exists_run_of_observed _ _ _
    (Pump.machine ⟨1024, 50, 0, .transparent⟩) _ (·.phase.returned) (Pump.start .runPrivateWith 0)
    [.arriveDownstream (.message (.binary [7])), .readDownstream, .connected, .beginSend, .sent .ok,
      .arriveDownstream (.message (.binary [8])), .readDownstream, .sent .ok,
      .arriveDownstream (.message (.close none)), .readDownstream, .beginClose .upstream,
      .closeSent .upstream]
    (some .clientClosed)
    [.arrived .downstream 0, .read .downstream (.data (.binary [7])), .opened 0,
      .send .upstream (.data (.binary [7])), .sent .upstream (.data (.binary [7])) .ok,
      .arrived .downstream 0, .read .downstream (.data (.binary [8])),
      .send .upstream (.data (.binary [8])), .sent .upstream (.data (.binary [8])) .ok,
      .arrived .downstream 0, .read .downstream (.close none),
      .send .upstream (.close (some (1000, "")))] (by decide +kernel)
  obtain ⟨hsent, -, -, hclose, -⟩ := pump_relays_in_order hrun
  exact ⟨_, s, _, hrun, hreturned, rfl, hsent, hclose hreturned rfl⟩

end GptLiveProxy
