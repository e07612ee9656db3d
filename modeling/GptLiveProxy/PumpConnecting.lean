import GptLiveProxy.PumpCloses

/-!
# The queue while the upstream connects

`pendingExit` says which item ends the connecting loop, and how, from the data frames queued before
it. Along every run in which the connect stays pending the queue is the list of the data frames read,
within its three limits, until the first such item.
-/

namespace GptLiveProxy
open PumpPhase

def DataFrame.bytes : DataFrame → Nat
  | text value => value.utf8ByteSize
  | binary value => value.length

def payload (frames : List DataFrame) : Nat := (frames.map DataFrame.bytes).sum

def PumpItem.data? : PumpItem AxumMessage → Option DataFrame
  | .message sent => sent.view.data?
  | .error _ => none
  | .ended => none

def dataFrames (items : List (PumpItem AxumMessage)) : List DataFrame := items.filterMap PumpItem.data?

/-- The outcome of the item that ends the connecting loop; none for an item that does not. -/
def pendingExit (cap : Nat) (queued : List DataFrame) : PumpItem AxumMessage → Option PumpOutcome
  | .error tooLarge => some (if tooLarge then .aborted 1009 "frame too large" else .clientClosed)
  | .ended => some .clientClosed
  | .message message =>
    match message.view with
    | .close _ => some .clientClosed
    | .control => none
    | .data frame =>
      if frame.bytes > cap then some (.aborted 1009 "frame too large")
      else if queued.length ≥ 32 then some (.aborted 1009 "too many pending frames")
      else if payload queued + frame.bytes > cap then
        some (.aborted 1009 "queued frames too large")
      else none

def NoExit (cap : Nat) (items : List (PumpItem AxumMessage)) : Prop :=
  ∀ pre item post, items = pre ++ item :: post → pendingExit cap (dataFrames pre) item = none

/-- The queue holds these frames, within its limits. -/
structure Queues (cap : Nat) (frames : List DataFrame) (queue : List TungMessage)
    (queuedBytes : Nat) : Prop where
  exact : queue.map TungMessage.view = frames.map Frame.data
  count : queue.length ≤ MAX_PENDING_FRAMES
  bytes : queuedBytes = (queue.map messageBytesTungstenite).sum
  capped : queuedBytes ≤ cap

/-- What the exit of the connecting loop tells the client. -/
def exitParts : PumpOutcome → Option (UInt16 × String)
  | .aborted code reason => some (code, reason)
  | _ => none

/-- The outcome of an exit, told or still to be told. -/
def PumpPhase.outcome? : PumpPhase → Option PumpOutcome
  | closing _ outcome => some outcome
  | _ => none

/-- The connecting loop after these items: it queues, or the last item has ended it. -/
inductive Connecting (cap : Nat) (items : List (PumpItem AxumMessage)) : PumpPhase → Prop
  | queueing {queue : List TungMessage} {queuedBytes : Nat}
      (hqueues : Queues cap (dataFrames items) queue queuedBytes) (hnone : NoExit cap items) :
    Connecting cap items (.connecting queue queuedBytes)
  | left {before : List (PumpItem AxumMessage)} {item : PumpItem AxumMessage} {outcome : PumpOutcome}
      {tell : Leg → Tell} (hitems : items = before ++ [item]) (hnone : NoExit cap before)
      (hexit : pendingExit cap (dataFrames before) item = some outcome)
      (hdownstream : (tell .downstream).parts = exitParts outcome)
      (hupstream : tell .upstream = .silent) :
    Connecting cap items (.closing tell outcome)

section Queues
variable {cap queuedBytes : Nat} {frames : List DataFrame} {queue : List TungMessage}

theorem messageBytes_of_view {message : TungMessage} {frame : DataFrame}
    (h : message.view = .data frame) : messageBytesTungstenite message = frame.bytes := by
  cases message with
  | text text =>
    obtain rfl := Frame.data.inj h
    rfl
  | binary bytes =>
    obtain rfl := Frame.data.inj h
    rfl
  | _ => cases h

theorem messageBytesAxum_of_view {message : AxumMessage} {frame : DataFrame}
    (h : message.view = .data frame) : messageBytesAxum message = frame.bytes := by
  cases message with
  | text text =>
    obtain rfl := Frame.data.inj h
    rfl
  | binary bytes =>
    obtain rfl := Frame.data.inj h
    rfl
  | _ => cases h

theorem payload_of_views (h : queue.map TungMessage.view = frames.map Frame.data) :
    (queue.map messageBytesTungstenite).sum = payload frames := by
  induction queue generalizing frames with
  | nil =>
    cases frames with
    | nil => rfl
    | cons frame frames => simp at h
  | cons message queue ih =>
    cases frames with
    | nil => simp at h
    | cons frame frames =>
      obtain ⟨hview, hrest⟩ := List.cons.inj h
      rw [List.map_cons, List.sum_cons, messageBytes_of_view hview, ih hrest]
      simp [payload]

theorem Queues.length_eq (h : Queues cap frames queue queuedBytes) : frames.length = queue.length := by
  simpa using (congrArg List.length h.exact).symm

theorem Queues.payload_eq (h : Queues cap frames queue queuedBytes) : queuedBytes = payload frames := by
  rw [h.bytes, payload_of_views h.exact]

theorem queuedBytesAfter_of_le {current next : Nat} (hcap : cap ≤ USIZE_MAX)
    (h : current + next ≤ cap) : queuedBytesAfter current next cap = some (current + next) := by
  rw [queuedBytesAfter, checkedAdd, if_pos (by omega)]
  simpa using h

theorem queuedBytesAfter_of_lt {current next : Nat} (h : cap < current + next) :
    queuedBytesAfter current next cap = none := by
  rw [queuedBytesAfter, checkedAdd]
  split_ifs
  · simpa using h
  · rfl

end Queues

section Inbound
variable {policy : PumpPolicy} {items : List (PumpItem AxumMessage)} {queue : List TungMessage}
  {queuedBytes : Nat}

theorem noExit_nil (cap : Nat) : NoExit cap [] := by
  intro pre item post h
  simp at h

theorem NoExit.snoc {cap : Nat} {item : PumpItem AxumMessage} (h : NoExit cap items)
    (hitem : pendingExit cap (dataFrames items) item = none) : NoExit cap (items ++ [item]) := by
  intro pre next post hsplit
  cases post using List.reverseRecOn with
  | nil =>
    obtain ⟨rfl, hlast⟩ := List.append_inj' hsplit rfl
    obtain rfl : item = next := by simpa using hlast
    exact hitem
  | append_singleton post last =>
    rw [← List.cons_append, ← List.append_assoc] at hsplit
    obtain ⟨hfront, -⟩ := List.append_inj' hsplit rfl
    exact h pre next post hfront

theorem connecting_exit {before : List (PumpItem AxumMessage)} {item : PumpItem AxumMessage}
    {cap : Nat} {outcome : PumpOutcome} {phase : PumpPhase} (hnone : NoExit cap before)
    (hexit : pendingExit cap (dataFrames before) item = some outcome)
    (hphase : phase = returning outcome ∧ exitParts outcome = none ∨
      ∃ code reason, outcome = .aborted code reason ∧ phase = tellDownstream code reason outcome) :
    Connecting cap (before ++ [item]) phase := by
  rcases hphase with ⟨rfl, hparts⟩ | ⟨code, reason, rfl, rfl⟩
  · exact .left rfl hnone hexit hparts.symm rfl
  · exact .left rfl hnone hexit rfl rfl

theorem connecting_control (hqueues : Queues policy.frameBytes (dataFrames items) queue queuedBytes)
    (hnone : NoExit policy.frameBytes items) {message : AxumMessage}
    (hview : message.view = .control) :
    Connecting policy.frameBytes (items ++ [.message message])
      (connectingInbound policy queue queuedBytes (.message message)) := by
  have hpass : pendingExit policy.frameBytes (dataFrames items) (.message message) = none := by
    simp [pendingExit, hview]
  have hframes : dataFrames (items ++ [.message message]) = dataFrames items := by
    simp [dataFrames, PumpItem.data?, hview, Frame.data?]
  have hphase : connectingInbound policy queue queuedBytes (.message message) =
      .connecting queue queuedBytes := by
    cases message with
    | ping bytes | pong bytes => simp [connectingInbound, messageBytesAxum, axumToTungstenite]
    | _ => cases hview
  rw [hphase]
  exact .queueing (hframes ▸ hqueues) (hnone.snoc hpass)

theorem connectingInbound_data {message : AxumMessage} {frame : DataFrame}
    (hview : message.view = .data frame) :
    ∃ converted, converted.view = .data frame ∧
      connectingInbound policy queue queuedBytes (.message message) =
        if frame.bytes > policy.frameBytes then
          tellDownstream 1009 "frame too large" (.aborted 1009 "frame too large")
        else if !acceptPending queue.length then
          tellDownstream 1009 "too many pending frames" (.aborted 1009 "too many pending frames")
        else
          match queuedBytesAfter queuedBytes frame.bytes policy.frameBytes with
          | none =>
            tellDownstream 1009 "queued frames too large" (.aborted 1009 "queued frames too large")
          | some total => .connecting (queue ++ [converted]) total := by
  have hbytes := messageBytesAxum_of_view hview
  cases message with
  | text value =>
    refine ⟨.text value, hview, ?_⟩
    simp only [connectingInbound, hbytes, axumToTungstenite]
    rfl
  | binary value =>
    refine ⟨.binary value, hview, ?_⟩
    simp only [connectingInbound, hbytes, axumToTungstenite]
    rfl
  | _ => cases hview

theorem connecting_data (hcap : policy.frameBytes ≤ USIZE_MAX)
    (hqueues : Queues policy.frameBytes (dataFrames items) queue queuedBytes)
    (hnone : NoExit policy.frameBytes items) {message : AxumMessage} {frame : DataFrame}
    (hview : message.view = .data frame) :
    Connecting policy.frameBytes (items ++ [.message message])
      (connectingInbound policy queue queuedBytes (.message message)) := by
  obtain ⟨converted, hconverted, hinbound⟩ :=
    @connectingInbound_data policy queue queuedBytes message frame hview
  have hlength := hqueues.length_eq
  have hpayload := hqueues.payload_eq
  rw [hinbound]
  by_cases hlarge : frame.bytes > policy.frameBytes
  · rw [if_pos hlarge]
    exact connecting_exit hnone (by simp [pendingExit, hview, hlarge]) (.inr ⟨_, _, rfl, rfl⟩)
  rw [if_neg hlarge]
  by_cases hfull : queue.length < MAX_PENDING_FRAMES
  · have haccept : (!acceptPending queue.length) = false := by simpa [acceptPending] using hfull
    have hroom : ¬(dataFrames items).length ≥ 32 := by
      have hmax : queue.length < 32 := hfull
      omega
    rw [haccept, if_neg Bool.false_ne_true]
    by_cases htotal : queuedBytes + frame.bytes ≤ policy.frameBytes
    · have hfits : ¬payload (dataFrames items) + frame.bytes > policy.frameBytes := by omega
      have hframes : dataFrames (items ++ [.message message]) = dataFrames items ++ [frame] := by
        simp [dataFrames, PumpItem.data?, hview]
      rw [queuedBytesAfter_of_le hcap htotal]
      refine .queueing ?_ (hnone.snoc (by simp [pendingExit, hview, hlarge, hroom, hfits]))
      constructor
      · rw [hframes, List.map_append, List.map_append, hqueues.exact]
        simp [hconverted]
      · rw [List.length_append, List.length_singleton]
        omega
      · rw [List.map_append, List.sum_append, ← hqueues.bytes]
        simp [messageBytes_of_view hconverted]
      · exact htotal
    · have hover : payload (dataFrames items) + frame.bytes > policy.frameBytes := by omega
      rw [queuedBytesAfter_of_lt (by omega)]
      exact connecting_exit hnone (by simp [pendingExit, hview, hlarge, hroom, hover])
        (.inr ⟨_, _, rfl, rfl⟩)
  · have hreject : (!acceptPending queue.length) = true := by simpa [acceptPending] using hfull
    have hroom : (dataFrames items).length ≥ 32 := by
      have hmax : ¬queue.length < 32 := hfull
      omega
    rw [hreject, if_pos rfl]
    exact connecting_exit hnone (by simp [pendingExit, hview, hlarge, hroom])
      (.inr ⟨_, _, rfl, rfl⟩)

/-- One item: the loop queues its data frame, passes over it, or ends as `pendingExit` says. -/
theorem connectingInbound_step (hcap : policy.frameBytes ≤ USIZE_MAX)
    (hqueues : Queues policy.frameBytes (dataFrames items) queue queuedBytes)
    (hnone : NoExit policy.frameBytes items) (item : PumpItem AxumMessage) :
    Connecting policy.frameBytes (items ++ [item])
      (connectingInbound policy queue queuedBytes item) := by
  cases item with
  | error tooLarge =>
    cases tooLarge with
    | true => exact connecting_exit hnone rfl (.inr ⟨_, _, rfl, rfl⟩)
    | false => exact connecting_exit hnone rfl (.inl ⟨rfl, rfl⟩)
  | ended => exact connecting_exit hnone rfl (.inl ⟨rfl, rfl⟩)
  | message message =>
    cases hview : message.view with
    | close parts =>
      have hexit : pendingExit policy.frameBytes (dataFrames items) (.message message) =
          some .clientClosed := by simp [pendingExit, hview]
      cases message with
      | close frame => exact connecting_exit hnone hexit (.inl ⟨rfl, rfl⟩)
      | _ => cases hview
    | control => exact connecting_control hqueues hnone hview
    | data frame => exact connecting_data hcap hqueues hnone hview

end Inbound

section Run
variable {policy : PumpPolicy} {es : List PumpEvent} {e : PumpEvent} {s s' : Pump}
  {t out : List PumpOutput}

def arrivedItems (es : List PumpEvent) : List (PumpItem AxumMessage) :=
  es.filterMap fun
    | .arriveDownstream item => some item
    | _ => none

/-- The connect has not come back. -/
def Unresolved (es : List PumpEvent) : Prop := .connected ∉ es ∧ .connectFailed ∉ es

/-- The items read are a prefix of those that arrived, the loop has taken each of them, and nothing has
been sent upstream. -/
structure Pending (policy : PumpPolicy) (es : List PumpEvent) (taken : List (PumpItem AxumMessage))
    (s : Pump) (t : List PumpOutput) : Prop where
  arrived : arrivedItems es = taken ++ s.downstream.map Prod.snd
  loop : Connecting policy.frameBytes taken s.phase
  silent : framesSent .upstream t = []

theorem arrivedItems_snoc : arrivedItems (es ++ [e]) = arrivedItems es ++ arrivedItems [e] :=
  List.filterMap_append

theorem Pending.keep {taken : List (PumpItem AxumMessage)} (h : Pending policy es taken s t)
    (hevent : arrivedItems [e] = []) (hdownstream : s'.downstream = s.downstream)
    (hphase : s'.phase = s.phase) (hout : framesSent .upstream out = []) :
    Pending policy (es ++ [e]) taken s' (t ++ out) where
  arrived := by rw [arrivedItems_snoc, hevent, List.append_nil, hdownstream, h.arrived]
  loop := hphase ▸ h.loop
  silent := by rw [framesSent_append, h.silent, hout, List.append_nil]

/-- Telling a leg goes through its stages, and only the client is told anything. -/
theorem connecting_tell {taken : List (PumpItem AxumMessage)} {cap : Nat} {leg : Leg}
    {tell : Leg → Tell} {outcome : PumpOutcome} {next : Tell}
    (h : Connecting cap taken (.closing tell outcome)) (hparts : (tell leg).parts ≠ none)
    (hnext : next.parts = (tell leg).parts) :
    leg = .downstream ∧ Connecting cap taken (.closing (Function.update tell leg next) outcome) := by
  cases h with
  | left hitems hnone hexit hdownstream hupstream =>
    cases leg with
    | upstream => exact absurd (by rw [hupstream]; rfl) hparts
    | downstream =>
      refine ⟨rfl, .left hitems hnone hexit ?_ hupstream⟩
      rw [Function.update_self, hnext, hdownstream]

theorem pending_step (hcap : policy.frameBytes ≤ USIZE_MAX)
    (h : ∃ taken, Pending policy es taken s t) (hstep : s.step policy e = some (s', out))
    (hconnected : e ≠ .connected) (hfailed : e ≠ .connectFailed) :
    ∃ taken, Pending policy (es ++ [e]) taken s' (t ++ out) := by
  obtain ⟨taken, h⟩ := h
  have hloop := h.loop
  cases e with
  | tick duration =>
    obtain ⟨rfl, rfl⟩ := Prod.mk.inj (Option.some.inj hstep)
    exact ⟨taken, h.keep rfl rfl rfl rfl⟩
  | arriveDownstream item =>
    obtain ⟨rfl, rfl⟩ := Prod.mk.inj (Option.some.inj hstep)
    refine ⟨taken, ?_, h.loop, ?_⟩
    · rw [arrivedItems_snoc, h.arrived, List.append_assoc]
      simp [arrivedItems]
    · rw [framesSent_append, h.silent]
      cases item <;> rfl
  | arriveUpstream item =>
    obtain ⟨rfl, rfl⟩ := Prod.mk.inj (Option.some.inj hstep)
    exact ⟨taken, h.keep rfl rfl rfl (by cases item <;> rfl)⟩
  | connected => exact absurd rfl hconnected
  | connectFailed => exact absurd rfl hfailed
  | readDownstream =>
    cases hphase : s.phase with
    | connecting queue queuedBytes =>
      cases hinbox : s.downstream with
      | nil => simp [Pump.step, hinbox] at hstep
      | cons head rest =>
        obtain ⟨time, item⟩ := head
        simp only [Pump.step, hinbox, hphase, Option.some.injEq, Prod.mk.injEq] at hstep
        obtain ⟨rfl, rfl⟩ := hstep
        rw [hphase] at hloop
        cases hloop with
        | queueing hqueues hnone =>
          refine ⟨taken ++ [item], ?_, connectingInbound_step hcap hqueues hnone item, ?_⟩
          · rw [arrivedItems_snoc, h.arrived, hinbox]
            simp [arrivedItems]
          · rw [framesSent_append, h.silent]
            cases item <;> rfl
    | closing tell outcome => cases hinbox : s.downstream <;> simp [Pump.step, hinbox, hphase] at hstep
    | _ =>
      rw [hphase] at hloop
      cases hloop
  | idle =>
    simp only [Pump.step] at hstep
    split at hstep
    · split_ifs at hstep with hdue
      generalize s.phase = phase at hloop hdue
      cases hloop <;> cases hdue.1
    · cases hstep
  | beginClose leg =>
    simp only [Pump.step] at hstep
    split at hstep
    · rename_i tell outcome hphase
      split at hstep
      · rename_i code reason htell
        obtain ⟨rfl, rfl⟩ := Prod.mk.inj (Option.some.inj hstep)
        rw [hphase] at hloop
        obtain ⟨rfl, hnext⟩ := @connecting_tell taken _ leg tell outcome (.sending code reason) hloop
          (by rw [htell]; exact Option.some_ne_none _) (by rw [htell]; rfl)
        refine ⟨taken, ?_, hnext, ?_⟩
        · rw [arrivedItems_snoc, h.arrived]
          exact List.append_nil _
        · rw [framesSent_append, h.silent]
          rfl
      · cases hstep
    · cases hstep
  | closeSent leg =>
    simp only [Pump.step] at hstep
    split at hstep
    · rename_i tell outcome hphase
      split at hstep
      · rename_i code reason htell
        obtain ⟨rfl, rfl⟩ := Prod.mk.inj (Option.some.inj hstep)
        rw [hphase] at hloop
        obtain ⟨rfl, hnext⟩ := @connecting_tell taken _ leg tell outcome (.told code reason) hloop
          (by rw [htell]; exact Option.some_ne_none _) (by rw [htell]; rfl)
        refine ⟨taken, ?_, hnext, ?_⟩
        · rw [arrivedItems_snoc, h.arrived]
          exact List.append_nil _
        · rw [framesSent_append, h.silent]
          rfl
      · cases hstep
    · cases hstep
  | enter | readUpstream | beginSend | sent result =>
    exfalso
    simp only [Pump.step] at hstep
    generalize s.phase = phase at hloop hstep
    cases hloop <;> (try cases s.upstream) <;> simp at hstep

/-- While the private connect is pending: the items read are a prefix of those that arrived and nothing
is sent upstream; the queue is exactly the data frames read, within its limits, or the last item read
is the first that ends the loop, with the outcome and the close it calls for. -/
theorem pending_connect_queue {now : Nat} (hcap : policy.frameBytes ≤ USIZE_MAX)
    (hrun : (Pump.machine policy).run (Pump.start .runPrivateWith now) es = some (s, t))
    (hpending : Unresolved es) :
    ∃ taken, arrivedItems es = taken ++ s.downstream.map Prod.snd ∧ framesSent .upstream t = [] ∧
      ((∃ queue queuedBytes, s.phase = .connecting queue queuedBytes ∧
        NoExit policy.frameBytes taken ∧
        queue.map TungMessage.view = (dataFrames taken).map Frame.data ∧
        queue.length ≤ MAX_PENDING_FRAMES ∧
        queuedBytes = (queue.map messageBytesTungstenite).sum ∧ queuedBytes ≤ policy.frameBytes) ∨
      ∃ before item outcome tell, taken = before ++ [item] ∧ NoExit policy.frameBytes before ∧
        pendingExit policy.frameBytes (dataFrames before) item = some outcome ∧
        s.phase = .closing tell outcome ∧ (tell .downstream).parts = exitParts outcome ∧
        tell .upstream = .silent) := by
  have hinvariant : ∃ taken, Pending policy es taken s t := by
    refine (Pump.machine policy).run_history
      (P := fun es s t => Unresolved es → ∃ taken, Pending policy es taken s t) ?_ ?_ hrun hpending
    · intro _
      refine ⟨[], rfl, .queueing ?_ (noExit_nil _), rfl⟩
      exact ⟨rfl, Nat.zero_le _, rfl, Nat.zero_le _⟩
    · intro es s t e s' out _ ih hstep hunresolved
      obtain ⟨hconnected, hfailed⟩ := hunresolved
      simp only [List.mem_append, List.mem_singleton, not_or] at hconnected hfailed
      exact pending_step hcap (ih ⟨hconnected.1, hfailed.1⟩) hstep (Ne.symm hconnected.2)
        (Ne.symm hfailed.2)
  obtain ⟨taken, harrived, hloop, hsilent⟩ := hinvariant
  refine ⟨taken, harrived, hsilent, ?_⟩
  generalize s.phase = phase at hloop
  cases hloop with
  | @queueing queue queuedBytes hqueues hnone =>
    exact .inl ⟨queue, queuedBytes, rfl, hnone, hqueues.exact, hqueues.count, hqueues.bytes,
      hqueues.capped⟩
  | @left before item outcome tell hitems hnone hexit hdownstream hupstream =>
    exact .inr ⟨before, item, outcome, tell, hitems, hnone, hexit, rfl, hdownstream, hupstream⟩

end Run

/-- Two frames that fit the cap one by one and not together, with a ping between them. -/
theorem overfull_queue_sends_nothing : ∃ s t,
    (Pump.machine ⟨4, 50, 0, .privateNormalized⟩).run (Pump.start .runPrivateWith 0)
      [.arriveDownstream (.message (.binary [1, 2, 3])), .readDownstream,
        .arriveDownstream (.message (.ping [])), .readDownstream,
        .arriveDownstream (.message (.binary [4, 5])), .readDownstream] = some (s, t) ∧
    framesSent .upstream t = [] ∧
    s.phase.outcome? = some (.aborted 1009 "queued frames too large") := by
  obtain ⟨s, hrun, hobserved⟩ := @TraceMachine.exists_run_of_observed _ _ _
    (Pump.machine ⟨4, 50, 0, .privateNormalized⟩) _ (fun s => s.phase.outcome?)
    (Pump.start .runPrivateWith 0)
    [.arriveDownstream (.message (.binary [1, 2, 3])), .readDownstream,
      .arriveDownstream (.message (.ping [])), .readDownstream,
      .arriveDownstream (.message (.binary [4, 5])), .readDownstream]
    (some (.aborted 1009 "queued frames too large"))
    [.arrived .downstream 0, .read .downstream (.data (.binary [1, 2, 3])), .arrived .downstream 0,
      .read .downstream .control, .arrived .downstream 0,
      .read .downstream (.data (.binary [4, 5]))] (by decide +kernel)
  obtain ⟨taken, -, hsilent, -⟩ := pending_connect_queue (by decide) hrun (by constructor <;> simp)
  exact ⟨s, _, hrun, hsilent, hobserved⟩

end GptLiveProxy
