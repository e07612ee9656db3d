import GptLiveProxy.FrameDrain
import GptLiveProxy.FrameLog

/-!
# What a drain reports

A drain that joins the writer knows that it has finished. A drain that finds no handle reports a
flush without looking at the writer: that is right when another drain has joined it, and wrong when
the handle was given up while the writer still ran. The records are accounted for by a ledger of the
channel, the handle by where it may be while a clone has lost its reference.
-/

namespace GptLiveProxy
namespace LogState
variable {α : Type} {maxInstant : Nat} {s s' : LogState α} {t out : List (LogOutput α)}
  {e : LogEvent α} {r : LogState α × List (LogOutput α)}

/-- What the writer thread can do. -/
theorem writerStep_cases (h : s.writerStep e = some (s', out)) :
    (∃ record queue, s.writer = .receiving ∧ s.queue = record :: queue ∧
      s' = { s with writer := .appending record, queue := queue } ∧ out = [.received record]) ∨
    (∃ record, s.writer = .appending record ∧ s' = { s with writer := .receiving } ∧
      out = [.appended record]) ∨
    (∃ record, s.writer = .appending record ∧ s' = { s with writer := .panicked, queue := [] } ∧
      out = []) ∨
    (s.writer = .receiving ∧ s.queue = [] ∧ s' = { s with writer := .finished } ∧ out = []) := by
  unfold writerStep at h
  split at h
  · split at h
    · next record queue hwriter hqueue =>
      obtain ⟨rfl, rfl⟩ := Prod.mk.inj (Option.some.inj h)
      exact .inl ⟨record, queue, hwriter, hqueue, rfl, rfl⟩
    · cases h
  · split at h
    · next record hwriter =>
      obtain ⟨rfl, rfl⟩ := Prod.mk.inj (Option.some.inj h)
      exact .inr (.inl ⟨record, hwriter, rfl, rfl⟩)
    · cases h
  · split at h
    · next record hwriter =>
      obtain ⟨rfl, rfl⟩ := Prod.mk.inj (Option.some.inj h)
      exact .inr (.inr (.inl ⟨record, hwriter, rfl, rfl⟩))
    · cases h
  · split at h
    · next hwriter hqueue =>
      split_ifs at h
      obtain ⟨rfl, rfl⟩ := Prod.mk.inj (Option.some.inj h)
      exact .inr (.inr (.inr ⟨hwriter, hqueue, rfl, rfl⟩))
    · cases h
  · cases h

theorem hasReceiver_of_writerStep (h : s.writerStep e = some (s', out)) :
    s.writer.hasReceiver = true := by
  obtain ⟨_, _, hwriter, -⟩ | ⟨_, hwriter, -⟩ | ⟨_, hwriter, -⟩ | ⟨hwriter, -⟩ := writerStep_cases h
  all_goals rw [hwriter, WriterThread.hasReceiver]

theorem ne_of_hasReceiver (writer : WriterThread α) (h : s.writer.hasReceiver = true)
    (hgone : writer.hasReceiver = false) : s.writer ≠ writer := by
  rintro rfl
  rw [h] at hgone
  cases hgone

section Ledger

/-- Where the accepted records are. -/
structure Ledger (s : LogState α) (t : List (LogOutput α)) : Prop where
  queued : s.writer ≠ .panicked → acceptedOf t = receivedOf t ++ s.queue
  inHand : s.writer ≠ .panicked → receivedOf t = appendedOf t ++ s.writer.inHand
  empty : s.writer.hasReceiver = false → s.queue = []

theorem ledger_spawn (spawned : Bool) : Ledger (spawn spawned : LogState α) [] := by
  cases spawned
  · exact ⟨fun _ => rfl, fun _ => rfl, fun _ => rfl⟩
  · exact ⟨fun _ => rfl, fun _ => rfl, fun _ => rfl⟩

/-- Steps that neither touch the channel nor move the writer. -/
theorem Ledger.frame (h : Ledger s t) (hwriter : s'.writer = s.writer) (hqueue : s'.queue = s.queue)
    (haccepted : acceptedOf out = []) (hreceived : receivedOf out = [])
    (happended : appendedOf out = []) : Ledger s' (t ++ out) := by
  refine ⟨?_, ?_, ?_⟩
  · rw [hwriter, hqueue, acceptedOf_append, receivedOf_append, haccepted, hreceived,
      List.append_nil, List.append_nil]
    exact h.queued
  · rw [hwriter, receivedOf_append, appendedOf_append, hreceived, happended, List.append_nil,
      List.append_nil]
    exact h.inHand
  · rw [hwriter, hqueue]
    exact h.empty

theorem Ledger.append (h : Ledger s t) {logger : LoggerClone} {record : α}
    (hresult : s.append logger record = r) : Ledger r.1 (t ++ r.2) := by
  subst hresult
  unfold LogState.append
  split_ifs with hsender hroom
  · refine ⟨fun hrun => ?_, fun hrun => ?_, fun hgone => ?_⟩
    · rw [acceptedOf_append, receivedOf_append, h.queued hrun, List.append_assoc]
      simp [acceptedOf, receivedOf]
    · rw [receivedOf_append, appendedOf_append, h.inHand hrun]
      simp [receivedOf, appendedOf]
    · rw [Bool.and_eq_true] at hroom
      exact absurd hroom.1 (by rw [hgone]; exact Bool.false_ne_true)
  · exact h.frame rfl rfl rfl rfl rfl
  · exact h.frame rfl rfl rfl rfl rfl

theorem Ledger.writerStep (h : Ledger s t) (hstep : s.writerStep e = some (s', out)) :
    Ledger s' (t ++ out) := by
  have hrun := ne_of_hasReceiver .panicked (hasReceiver_of_writerStep hstep) rfl
  have hqueued := h.queued hrun
  have hhand := h.inHand hrun
  obtain ⟨record, queue, hwriter, hqueue, rfl, rfl⟩ | ⟨record, hwriter, rfl, rfl⟩ |
    ⟨record, hwriter, rfl, rfl⟩ | ⟨hwriter, hqueue, rfl, rfl⟩ := writerStep_cases hstep
  all_goals rw [hwriter] at hhand
  · refine ⟨fun _ => ?_, fun _ => ?_, nofun⟩
    · rw [acceptedOf_append, receivedOf_append, hqueued, hqueue]
      simp [acceptedOf, receivedOf]
    · rw [receivedOf_append, appendedOf_append, hhand]
      simp [receivedOf, appendedOf, WriterThread.inHand]
  · refine ⟨fun _ => ?_, fun _ => ?_, nofun⟩
    · rw [acceptedOf_append, receivedOf_append, hqueued]
      simp [acceptedOf, receivedOf]
    · rw [receivedOf_append, appendedOf_append, hhand]
      simp [receivedOf, appendedOf, WriterThread.inHand]
  · exact ⟨fun hpanicked => absurd rfl hpanicked, fun hpanicked => absurd rfl hpanicked,
      fun _ => rfl⟩
  · rw [List.append_nil]
    exact ⟨fun _ => hqueued, fun _ => hhand, fun _ => hqueue⟩

/-- A writer that has ended by itself has appended every accepted record. -/
theorem Ledger.flushed (h : Ledger s t) (hended : s.writer = .finished ∨ s.writer = .absent) :
    receivedOf t = acceptedOf t ∧ appendedOf t = acceptedOf t := by
  have hrun : s.writer ≠ .panicked ∧ s.writer.hasReceiver = false ∧ s.writer.inHand = [] := by
    rcases hended with hwriter | hwriter
    all_goals
      rw [hwriter]
      exact ⟨nofun, rfl, rfl⟩
  have hqueued := h.queued hrun.1
  have hhand := h.inHand hrun.1
  rw [h.empty hrun.2.1, List.append_nil] at hqueued
  rw [hrun.2.2, List.append_nil] at hhand
  exact ⟨hqueued.symm, by rw [← hhand, hqueued]⟩

end Ledger

section Custody

def holdsLock (logger : LoggerClone) : Bool :=
  match logger.call with
  | .polling _ => true
  | .checking _ => true
  | _ => false

/-- The handle can still be joined. -/
def Kept (handle : HandlePlace) : Prop := handle = .slot ∨ handle = .held

/-- While the handle can still be joined, a clone that no call borrows has its reference. -/
structure Fits (handle : HandlePlace) (logger : LoggerClone) : Prop where
  reference : Kept handle → logger.alive = true → logger.call = .idle →
    logger.writer = true
  polled : holdsLock logger = true → handle ≠ .absent

structure Custody (s : LogState α) : Prop where
  absent : s.handle = .absent ↔ s.writer = .absent
  joined : s.handle = .joined → s.writer = .finished ∨ s.writer = .panicked
  poisoned : s.poisoned = true → ¬ Kept s.handle
  clones : ∀ logger ∈ s.loggers, Fits s.handle logger

theorem not_kept_lost : ¬ Kept .lost := nofun

theorem not_kept_joined : ¬ Kept .joined := nofun

theorem custody_spawn (spawned : Bool) : Custody (spawn spawned : LogState α) := by
  cases spawned
  · refine ⟨⟨fun _ => rfl, fun _ => rfl⟩, nofun, nofun, ?_⟩
    intro logger hmem
    obtain rfl := List.mem_singleton.mp hmem
    exact ⟨nofun, nofun⟩
  · refine ⟨⟨nofun, nofun⟩, nofun, nofun, ?_⟩
    intro logger hmem
    obtain rfl := List.mem_singleton.mp hmem
    exact ⟨fun _ _ _ => rfl, nofun⟩

theorem Custody.update (h : Custody s) (i : Nat) {logger : LoggerClone}
    (hfits : Fits s.handle logger) : Custody (s.update i logger) := by
  refine ⟨h.absent, h.joined, h.poisoned, ?_⟩
  intro other hmem
  rcases List.mem_or_eq_of_mem_set hmem with hother | rfl
  · exact h.clones other hother
  · exact hfits

/-- Joining or giving up the handle settles every clone. -/
theorem custody_settle (hwriter : s.writer ≠ .absent) {handle : HandlePlace}
    (hplace : handle = .lost ∨ handle = .joined ∧ s.writer.isFinished = true)
    (loggers : List LoggerClone) (poisoned : Bool) :
    Custody { s with loggers := loggers, handle := handle, poisoned := poisoned } := by
  rcases hplace with rfl | ⟨rfl, hended⟩
  · refine ⟨⟨nofun, fun hnone => absurd hnone hwriter⟩, nofun, fun _ => not_kept_lost, ?_⟩
    intro logger _
    exact ⟨fun hkept => absurd hkept not_kept_lost, fun _ => nofun⟩
  · refine ⟨⟨nofun, fun hnone => absurd hnone hwriter⟩, fun _ => ?_, fun _ => not_kept_joined, ?_⟩
    · change s.writer = .finished ∨ s.writer = .panicked
      revert hended
      cases s.writer <;> simp [WriterThread.isFinished]
    · intro logger _
      exact ⟨fun hkept => absurd hkept not_kept_joined, fun _ => nofun⟩

theorem Custody.writer_ne_absent (h : Custody s) (hplace : s.handle ≠ .absent) :
    s.writer ≠ .absent := fun hnone => hplace (h.absent.mpr hnone)

theorem mem_of_idle? {i : Nat} {logger : LoggerClone} (h : s.idle? i = some logger) :
    logger ∈ s.loggers ∧ logger.alive = true ∧ logger.call = .idle := by
  obtain ⟨hget, hidle⟩ := Option.filter_eq_some_iff.mp h
  rw [Bool.and_eq_true, beq_iff_eq] at hidle
  exact ⟨List.mem_of_getElem? hget, hidle⟩

theorem Custody.append (h : Custody s) {logger : LoggerClone} {record : α}
    (hresult : s.append logger record = r) : Custody r.1 := by
  subst hresult
  unfold LogState.append
  split_ifs <;> exact ⟨h.absent, h.joined, h.poisoned, h.clones⟩

theorem Custody.clone (h : Custody s) {logger : LoggerClone} (hmem : logger ∈ s.loggers) :
    Custody { s with loggers := s.loggers ++ [logger] } := by
  refine ⟨h.absent, h.joined, h.poisoned, ?_⟩
  intro other hother
  rcases List.mem_append.mp hother with hother | hother
  · exact h.clones other hother
  · obtain rfl := List.mem_singleton.mp hother
    exact h.clones other hmem

theorem Custody.dropLogger (h : Custody s) (i : Nat) : Custody (s.dropLogger i) := by
  unfold LogState.dropLogger
  dsimp only
  split_ifs with hlast
  · apply custody_settle _ (.inl rfl)
    apply h.writer_ne_absent
    rw [hlast.1]
    exact nofun
  · exact h.update i ⟨fun _ => nofun, nofun⟩

theorem Custody.beginDrain (h : Custody s) {i : Nat} {logger : LoggerClone}
    (hlogger : s.idle? i = some logger) {timeout : Nat}
    (hresult : s.beginDrain i logger timeout = r) : Custody r.1 := by
  subst hresult
  obtain ⟨hmem, -, -⟩ := mem_of_idle? hlogger
  have hfits := h.clones logger hmem
  unfold LogState.beginDrain
  split_ifs
  · exact h.update i ⟨fun _ _ => nofun, nofun⟩
  · exact h.update i ⟨hfits.reference, hfits.polled⟩

theorem Custody.lockSlot (h : Custody s) (hfree : s.handle ≠ .held) {i : Nat} {logger : LoggerClone}
    {timeout : Nat} (hresult : s.lockSlot maxInstant i logger timeout = r) : Custody r.1 := by
  subst hresult
  unfold LogState.lockSlot
  dsimp only
  split_ifs with hpoisoned hslot hinstant
  · exact h.update i ⟨fun hkept => absurd hkept (h.poisoned hpoisoned), nofun⟩
  · refine ⟨⟨nofun, fun hnone => ?_⟩, nofun, fun hpoisoned' => absurd hpoisoned' hpoisoned, ?_⟩
    · have hplace := h.absent.mpr hnone
      rw [hslot] at hplace
      cases hplace
    · intro other hother
      rcases List.mem_or_eq_of_mem_set hother with hmem | rfl
      · have hfits := h.clones other hmem
        rw [hslot] at hfits
        exact ⟨fun _ => hfits.reference (.inl rfl), fun _ => nofun⟩
      · exact ⟨fun _ _ => nofun, fun _ => nofun⟩
  · apply custody_settle _ (.inl rfl)
    apply h.writer_ne_absent
    rw [hslot]
    exact nofun
  · exact h.update i ⟨fun hkept => absurd hkept (not_or.mpr ⟨hslot, hfree⟩), nofun⟩

theorem Custody.pollHandle (h : Custody s) {i : Nat} {logger : LoggerClone}
    (hmem : logger ∈ s.loggers) (hpolled : holdsLock logger = true) {deadline : Nat}
    (hresult : s.pollHandle i logger deadline = r) : Custody r.1 := by
  subst hresult
  have hplace := (h.clones logger hmem).polled hpolled
  unfold LogState.pollHandle
  split_ifs with hended
  · exact custody_settle (h.writer_ne_absent hplace) (.inr ⟨rfl, hended⟩) _ _
  · exact h.update i ⟨fun _ _ => nofun, fun _ => hplace⟩

theorem Custody.checkDeadline (h : Custody s) {i : Nat} {logger : LoggerClone}
    (hmem : logger ∈ s.loggers) (hpolled : holdsLock logger = true) {deadline : Nat}
    (hresult : s.checkDeadline i logger deadline = r) : Custody r.1 := by
  subst hresult
  have hplace := (h.clones logger hmem).polled hpolled
  unfold LogState.checkDeadline
  split_ifs
  · exact custody_settle (h.writer_ne_absent hplace) (.inl rfl) _ _
  · exact h.update i ⟨fun _ _ => nofun, fun _ => hplace⟩

theorem Custody.writerStep (h : Custody s) (hstep : s.writerStep e = some (s', out)) : Custody s' := by
  have hreceiver := hasReceiver_of_writerStep hstep
  have habsent : s.handle ≠ .absent := fun hplace =>
    ne_of_hasReceiver .absent hreceiver rfl (h.absent.mp hplace)
  have hjoined : s.handle ≠ .joined := by
    intro hplace
    rcases h.joined hplace with hended | hended
    · exact ne_of_hasReceiver .finished hreceiver rfl hended
    · exact ne_of_hasReceiver .panicked hreceiver rfl hended
  obtain ⟨_, _, -, -, rfl, -⟩ | ⟨_, -, rfl, -⟩ | ⟨_, -, rfl, -⟩ | ⟨-, -, rfl, -⟩ :=
    writerStep_cases hstep
  all_goals exact ⟨⟨fun hplace => absurd hplace habsent, nofun⟩,
    fun hplace => absurd hplace hjoined, h.poisoned, h.clones⟩

end Custody
section Steps
variable {i : Nat}

theorem lock_cases (h : s.step maxInstant (.lock i) = some (s', out)) :
    ∃ logger timeout, s.handle ≠ .held ∧ s.lockSlot maxInstant i logger timeout = (s', out) := by
  obtain ⟨logger, -, hcall⟩ := Option.bind_eq_some_iff.mp h
  split at hcall
  · next timeout _ =>
    split_ifs at hcall with hheld
    exact ⟨logger, timeout, hheld, Option.some.inj hcall⟩
  · cases hcall

theorem poll_cases (h : s.step maxInstant (.poll i) = some (s', out)) :
    ∃ logger deadline, logger ∈ s.loggers ∧ holdsLock logger = true ∧
      s.pollHandle i logger deadline = (s', out) := by
  obtain ⟨logger, hget, hcall⟩ := Option.bind_eq_some_iff.mp h
  split at hcall
  · next deadline hpolling =>
    exact ⟨logger, deadline, List.mem_of_getElem? hget, by rw [holdsLock, hpolling],
      Option.some.inj hcall⟩
  · cases hcall

theorem check_cases (h : s.step maxInstant (.check i) = some (s', out)) :
    ∃ logger deadline, logger ∈ s.loggers ∧ holdsLock logger = true ∧
      s.checkDeadline i logger deadline = (s', out) := by
  obtain ⟨logger, hget, hcall⟩ := Option.bind_eq_some_iff.mp h
  split at hcall
  · next deadline hchecking =>
    exact ⟨logger, deadline, List.mem_of_getElem? hget, by rw [holdsLock, hchecking],
      Option.some.inj hcall⟩
  · cases hcall

/-- The result of a step that neither touches the channel nor moves the writer. -/
structure Quiet (s : LogState α) (r : LogState α × List (LogOutput α)) : Prop where
  writer : r.1.writer = s.writer
  queue : r.1.queue = s.queue
  accepted : acceptedOf r.2 = []
  received : receivedOf r.2 = []
  appended : appendedOf r.2 = []

theorem dropLogger_quiet (s : LogState α) (i : Nat) : Quiet s (s.dropLogger i, []) := by
  unfold dropLogger
  dsimp only
  split_ifs <;> exact ⟨rfl, rfl, rfl, rfl, rfl⟩

theorem beginDrain_quiet {logger : LoggerClone} {timeout : Nat}
    (hresult : s.beginDrain i logger timeout = r) : Quiet s r := by
  subst hresult
  unfold beginDrain
  split_ifs <;> exact ⟨rfl, rfl, rfl, rfl, rfl⟩

theorem lockSlot_quiet {logger : LoggerClone} {timeout : Nat}
    (hresult : s.lockSlot maxInstant i logger timeout = r) : Quiet s r := by
  subst hresult
  unfold lockSlot
  dsimp only
  split_ifs <;> exact ⟨rfl, rfl, rfl, rfl, rfl⟩

theorem pollHandle_quiet {logger : LoggerClone} {deadline : Nat}
    (hresult : s.pollHandle i logger deadline = r) : Quiet s r := by
  subst hresult
  unfold pollHandle
  split_ifs <;> exact ⟨rfl, rfl, rfl, rfl, rfl⟩

theorem checkDeadline_quiet {logger : LoggerClone} {deadline : Nat}
    (hresult : s.checkDeadline i logger deadline = r) : Quiet s r := by
  subst hresult
  unfold checkDeadline
  split_ifs <;> exact ⟨rfl, rfl, rfl, rfl, rfl⟩

theorem Ledger.quiet (h : Ledger s t) (hquiet : Quiet s r) : Ledger r.1 (t ++ r.2) :=
  h.frame hquiet.writer hquiet.queue hquiet.accepted hquiet.received hquiet.appended

theorem writerStep_sound (hledger : Ledger s t) (hcustody : Custody s)
    (hstep : s.writerStep e = some (s', out)) : Ledger s' (t ++ out) ∧ Custody s' :=
  ⟨hledger.writerStep hstep, hcustody.writerStep hstep⟩

/-- Every step keeps the ledger and the custody. -/
theorem step_sound (hledger : Ledger s t) (hcustody : Custody s)
    (hstep : s.step maxInstant e = some (s', out)) : Ledger s' (t ++ out) ∧ Custody s' := by
  cases e with
  | log i record =>
    obtain ⟨logger, -, hresult⟩ := Option.map_eq_some_iff.mp hstep
    exact ⟨hledger.append hresult, hcustody.append hresult⟩
  | clone i =>
    obtain ⟨logger, hlogger, hresult⟩ := Option.map_eq_some_iff.mp hstep
    obtain ⟨rfl, rfl⟩ := Prod.mk.inj hresult
    exact ⟨hledger.frame rfl rfl rfl rfl rfl, hcustody.clone (mem_of_idle? hlogger).1⟩
  | drop i =>
    obtain ⟨logger, -, hresult⟩ := Option.map_eq_some_iff.mp hstep
    obtain ⟨rfl, rfl⟩ := Prod.mk.inj hresult
    exact ⟨hledger.quiet (dropLogger_quiet s i), hcustody.dropLogger i⟩
  | drain i timeout =>
    obtain ⟨logger, hlogger, hresult⟩ := Option.map_eq_some_iff.mp hstep
    exact ⟨hledger.quiet (beginDrain_quiet hresult), hcustody.beginDrain hlogger hresult⟩
  | lock i =>
    obtain ⟨logger, timeout, hfree, hresult⟩ := lock_cases hstep
    exact ⟨hledger.quiet (lockSlot_quiet hresult), hcustody.lockSlot hfree hresult⟩
  | poll i =>
    obtain ⟨logger, deadline, hmem, hpolled, hresult⟩ := poll_cases hstep
    exact ⟨hledger.quiet (pollHandle_quiet hresult), hcustody.pollHandle hmem hpolled hresult⟩
  | check i =>
    obtain ⟨logger, deadline, hmem, hpolled, hresult⟩ := check_cases hstep
    exact ⟨hledger.quiet (checkDeadline_quiet hresult), hcustody.checkDeadline hmem hpolled hresult⟩
  | tick duration =>
    obtain ⟨rfl, rfl⟩ := Prod.mk.inj (Option.some.inj hstep)
    exact ⟨hledger.frame rfl rfl rfl rfl rfl,
      hcustody.absent, hcustody.joined, hcustody.poisoned, hcustody.clones⟩
  | receive => exact writerStep_sound (e := .receive) hledger hcustody hstep
  | append => exact writerStep_sound (e := .append) hledger hcustody hstep
  | crash => exact writerStep_sound (e := .crash) hledger hcustody hstep
  | close => exact writerStep_sound (e := .close) hledger hcustody hstep

/-- Along every run the records and the handle are accounted for. -/
theorem run_sound {spawned : Bool} {es : List (LogEvent α)}
    (hrun : (frameLog α maxInstant).run (spawn spawned) es = some (s, t)) :
    Ledger s t ∧ Custody s := by
  refine (frameLog α maxInstant).run_invariant (P := fun s t => Ledger s t ∧ Custody s)
    ⟨ledger_spawn spawned, custody_spawn spawned⟩ ?_ hrun
  intro s t e s' out hsound hstep
  exact step_sound hsound.1 hsound.2 hstep

end Steps

section Reports
variable {i : Nat}

/-- The step of a drain that meets no handle: the reference of its clone is gone, or the slot is
empty. -/
def findsNoHandle (s : LogState α) : LogEvent α → Bool
  | .drain i _ => (s.loggers[i]?.map fun logger => !logger.writer).getD false
  | .lock _ => !s.poisoned && s.handle != .slot
  | _ => false

/-- A drain that meets no handle comes after a join that succeeded, or when no thread was spawned,
or when the writer has finished by itself. -/
def MeetsSettledHandle (s : LogState α) (e : LogEvent α) : Prop :=
  findsNoHandle s e = true → s.handle ≠ .lost ∧ s.writer ≠ .panicked ∨ s.writer = .finished

/-- The writer has finished, and every record whose `try_send` succeeded was taken from the channel
and appended. -/
def Flushed (s : LogState α) (t : List (LogOutput α)) : Prop :=
  (s.writer = .finished ∨ s.writer = .absent) ∧ receivedOf t = acceptedOf t ∧
    appendedOf t = acceptedOf t

theorem beginDrain_returned {logger : LoggerClone} {timeout j : Nat}
    (hresult : s.beginDrain i logger timeout = (s', out)) :
    .returned j true ∈ out ↔ logger.writer = false ∧ j = i := by
  obtain rfl : _ = out := congrArg Prod.snd hresult
  unfold beginDrain
  split_ifs with hwriter
  · simp [hwriter]
  · simp [hwriter]

theorem lockSlot_returned {logger : LoggerClone} {timeout j : Nat}
    (hresult : s.lockSlot maxInstant i logger timeout = (s', out)) :
    .returned j true ∈ out ↔ (s.poisoned = false ∧ s.handle ≠ .slot) ∧ j = i := by
  obtain rfl : _ = out := congrArg Prod.snd hresult
  unfold lockSlot
  dsimp only
  split_ifs with hpoisoned hslot
  · simp [hpoisoned]
  · simp [hslot]
  · simp [hslot]
  · simp [hpoisoned, hslot]

theorem pollHandle_returned {logger : LoggerClone} {deadline j : Nat}
    (hresult : s.pollHandle i logger deadline = (s', out)) :
    .returned j true ∈ out ↔ s.writer = .finished ∧ j = i := by
  obtain rfl : _ = out := congrArg Prod.snd hresult
  unfold pollHandle
  cases hwriter : s.writer <;> simp [WriterThread.isFinished, WriterThread.joinIsOk]

theorem checkDeadline_returned {logger : LoggerClone} {deadline j : Nat}
    (hresult : s.checkDeadline i logger deadline = (s', out)) : .returned j true ∉ out := by
  obtain rfl : _ = out := congrArg Prod.snd hresult
  unfold checkDeadline
  split_ifs <;> simp

theorem append_returned {logger : LoggerClone} {record : α} {j : Nat} :
    .returned j true ∉ (s.append logger record).2 := by
  unfold append
  split_ifs <;> simp

theorem writerStep_returned {j : Nat} (hstep : s.writerStep e = some (s', out)) :
    .returned j true ∉ out := by
  obtain ⟨_, _, -, -, -, rfl⟩ | ⟨_, -, -, rfl⟩ | ⟨_, -, -, rfl⟩ | ⟨-, -, -, rfl⟩ :=
    writerStep_cases hstep
  all_goals simp

theorem findsNoHandle_drain {logger : LoggerClone} (hlogger : s.idle? i = some logger)
    (timeout : Nat) : findsNoHandle s (.drain i timeout) = !logger.writer := by
  obtain ⟨hget, -⟩ := Option.filter_eq_some_iff.mp hlogger
  rw [findsNoHandle, hget]
  rfl

/-- A drain reports a flush when it meets no handle, and when it has joined the writer. -/
theorem of_returned_true (hstep : s.step maxInstant e = some (s', out))
    (hreturned : .returned i true ∈ out) :
    s'.writer = s.writer ∧ (findsNoHandle s e = true ∨ s.writer = .finished) := by
  cases e with
  | log i record =>
    obtain ⟨logger, -, hresult⟩ := Option.map_eq_some_iff.mp hstep
    obtain ⟨rfl, rfl⟩ := Prod.mk.inj hresult
    exact absurd hreturned append_returned
  | clone i =>
    obtain ⟨logger, -, hresult⟩ := Option.map_eq_some_iff.mp hstep
    obtain ⟨rfl, rfl⟩ := Prod.mk.inj hresult
    cases hreturned
  | drop i =>
    obtain ⟨logger, -, hresult⟩ := Option.map_eq_some_iff.mp hstep
    obtain ⟨rfl, rfl⟩ := Prod.mk.inj hresult
    cases hreturned
  | drain i timeout =>
    obtain ⟨logger, hlogger, hresult⟩ := Option.map_eq_some_iff.mp hstep
    obtain ⟨hgone, -⟩ := (beginDrain_returned hresult).mp hreturned
    refine ⟨(beginDrain_quiet hresult).writer, .inl ?_⟩
    rw [findsNoHandle_drain hlogger, hgone]
    rfl
  | lock i =>
    obtain ⟨logger, timeout, -, hresult⟩ := lock_cases hstep
    obtain ⟨⟨hpoisoned, hslot⟩, -⟩ := (lockSlot_returned hresult).mp hreturned
    refine ⟨(lockSlot_quiet hresult).writer, .inl ?_⟩
    simp [findsNoHandle, hpoisoned, hslot]
  | poll i =>
    obtain ⟨logger, deadline, -, -, hresult⟩ := poll_cases hstep
    have hfinished := ((pollHandle_returned hresult).mp hreturned).1
    exact ⟨(pollHandle_quiet hresult).writer, .inr hfinished⟩
  | check i =>
    obtain ⟨logger, deadline, -, -, hresult⟩ := check_cases hstep
    exact absurd hreturned (checkDeadline_returned hresult)
  | tick duration =>
    obtain ⟨rfl, rfl⟩ := Prod.mk.inj (Option.some.inj hstep)
    cases hreturned
  | receive => exact absurd hreturned (writerStep_returned (e := .receive) hstep)
  | append => exact absurd hreturned (writerStep_returned (e := .append) hstep)
  | crash => exact absurd hreturned (writerStep_returned (e := .crash) hstep)
  | close => exact absurd hreturned (writerStep_returned (e := .close) hstep)

/-- Without a handle the drain reports a flush, and the handle is not to be joined any more. -/
theorem of_findsNoHandle (hcustody : Custody s) (hstep : s.step maxInstant e = some (s', out))
    (hfinds : findsNoHandle s e = true) :
    s'.writer = s.writer ∧ (∃ i, .returned i true ∈ out) ∧ ¬ Kept s.handle := by
  cases e with
  | drain i timeout =>
    obtain ⟨logger, hlogger, hresult⟩ := Option.map_eq_some_iff.mp hstep
    obtain ⟨hmem, halive, hidle⟩ := mem_of_idle? hlogger
    rw [findsNoHandle_drain hlogger, Bool.not_eq_true'] at hfinds
    have hreturned := (beginDrain_returned hresult).mpr ⟨hfinds, rfl⟩
    refine ⟨(beginDrain_quiet hresult).writer, ⟨i, hreturned⟩, fun hkept => ?_⟩
    have hreference := (hcustody.clones logger hmem).reference hkept halive hidle
    rw [hfinds] at hreference
    cases hreference
  | lock i =>
    obtain ⟨logger, timeout, hfree, hresult⟩ := lock_cases hstep
    simp only [findsNoHandle, Bool.and_eq_true, Bool.not_eq_true', bne_iff_ne] at hfinds
    have hreturned := (lockSlot_returned hresult).mpr ⟨hfinds, rfl⟩
    exact ⟨(lockSlot_quiet hresult).writer, ⟨i, hreturned⟩, not_or.mpr ⟨hfinds.2, hfree⟩⟩
  | _ => cases hfinds

/-- A step that reports a flush is right exactly when the handle it met was settled. -/
theorem report_is_right_iff (hledger : Ledger s t) (hcustody : Custody s)
    (hstep : s.step maxInstant e = some (s', out)) :
    (∀ i, .returned i true ∈ out → Flushed s' (t ++ out)) ↔ MeetsSettledHandle s e := by
  obtain ⟨hledger', -⟩ := step_sound hledger hcustody hstep
  constructor
  · intro hright hfinds
    obtain ⟨hwriter, ⟨i, hreturned⟩, hkept⟩ := of_findsNoHandle hcustody hstep hfinds
    have hended := (hright i hreturned).1
    rw [hwriter] at hended
    rcases hended with hfinished | hnone
    · exact .inr hfinished
    · rw [hcustody.absent.mpr hnone, hnone]
      exact .inl ⟨nofun, nofun⟩
  · intro hsettled i hreturned
    obtain ⟨hwriter, hcase⟩ := of_returned_true hstep hreturned
    have hended : s.writer = .finished ∨ s.writer = .absent := by
      rcases hcase with hfinds | hfinished
      · obtain ⟨-, -, hkept⟩ := of_findsNoHandle hcustody hstep hfinds
        rcases hsettled hfinds with ⟨hlost, hpanicked⟩ | hfinished
        · cases hplace : s.handle with
          | absent => exact .inr (hcustody.absent.mp hplace)
          | slot => exact absurd (.inl hplace) hkept
          | held => exact absurd (.inr hplace) hkept
          | joined => exact .inl ((hcustody.joined hplace).resolve_right hpanicked)
          | lost => exact absurd hplace hlost
        · exact .inl hfinished
      · exact .inl hfinished
    rw [← hwriter] at hended
    exact ⟨hended, hledger'.flushed hended⟩

end Reports
end LogState

section Runs
open LogState

/-- Whenever a drain returns true in the run, the writer has flushed. -/
def ReportsAreRight {α : Type} (maxInstant : Nat) (start : LogState α) (es : List (LogEvent α)) :
    Prop :=
  ∀ pre e post m t m' out i, es = pre ++ e :: post →
    (frameLog α maxInstant).run start pre = some (m, t) →
    (frameLog α maxInstant).step m e = some (m', out) → .returned i true ∈ out →
    Flushed m' (t ++ out)

/-- Every report of a flush is right exactly in the runs whose drains meet only settled handles. -/
theorem reports_are_right_iff {α : Type} (maxInstant : Nat) (spawned : Bool)
    {es : List (LogEvent α)} {s : LogState α} {t : List (LogOutput α)}
    (hrun : (frameLog α maxInstant).run (spawn spawned) es = some (s, t)) :
    ReportsAreRight maxInstant (spawn spawned) es ↔
      (frameLog α maxInstant).StepsMeet MeetsSettledHandle (spawn spawned) es := by
  constructor
  · intro hright pre e post m t₁ hsplit hpre
    rw [hsplit] at hrun
    obtain ⟨m₁, t₁', t₂, hpre', hrest, -⟩ := (frameLog α maxInstant).run_append_iff.mp hrun
    obtain ⟨rfl, rfl⟩ := Prod.mk.inj (Option.some.inj (hpre.symm.trans hpre'))
    obtain ⟨m', out, rest, hstep, -, -⟩ := (frameLog α maxInstant).run_cons_iff.mp hrest
    obtain ⟨hledger, hcustody⟩ := run_sound hpre
    apply (report_is_right_iff hledger hcustody hstep).mp
    intro i hreturned
    exact hright pre e post m t₁ m' out i hsplit hpre hstep hreturned
  · intro hmeets pre e post m t₁ m' out i hsplit hpre hstep hreturned
    obtain ⟨hledger, hcustody⟩ := run_sound hpre
    exact (report_is_right_iff hledger hcustody hstep).mpr (hmeets pre e post m t₁ hsplit hpre) i
      hreturned

/-- The record of one frame. -/
def greetingRecord : FrameRecord := ⟨[], Direction.clientToUpstream.asStr, FrameKind.text.asStr, 5,
  false, none⟩

theorem joined_writer_reports_a_flush :
    ∃ s t, (frameLog FrameRecord (2 ^ 64)).run (spawn true)
        [.log 0 greetingRecord, .drain 0 5000, .lock 0, .receive, .append, .close, .poll 0] =
          some (s, t) ∧ .returned 0 true ∈ t ∧
      (ReportsAreRight (2 ^ 64) (spawn true)
        [.log 0 greetingRecord, .drain 0 5000, .lock 0, .receive, .append, .close, .poll 0] ↔
      (frameLog FrameRecord (2 ^ 64)).StepsMeet MeetsSettledHandle (spawn true)
        [.log 0 greetingRecord, .drain 0 5000, .lock 0, .receive, .append, .close, .poll 0]) :=
  ⟨_, _, rfl, by decide, reports_are_right_iff (2 ^ 64) true rfl⟩

/-- A drain whose deadline passes gives the handle up, and the drain of another clone reports a flush
while the record waits in the channel. -/
theorem abandoned_handle_reports_a_flush :
    (∃ s t, (frameLog FrameRecord (2 ^ 64)).run (spawn true) [.log 0 greetingRecord, .clone 0,
        .drain 0 0, .lock 0, .poll 0, .check 0, .drain 1 5000, .lock 1] = some (s, t) ∧
      t = [.accepted greetingRecord, .returned 0 false, .returned 1 true] ∧
      s.writer = .receiving ∧ s.queue = [greetingRecord]) ∧
    ¬ ReportsAreRight (2 ^ 64) (spawn true) [.log 0 greetingRecord, .clone 0, .drain 0 0, .lock 0,
      .poll 0, .check 0, .drain 1 5000, .lock 1] := by
  refine ⟨⟨_, _, rfl, rfl, rfl, rfl⟩, fun hright => ?_⟩
  obtain ⟨hfinished | hnone, -⟩ := hright [.log 0 greetingRecord, .clone 0, .drain 0 0, .lock 0,
    .poll 0, .check 0, .drain 1 5000] (.lock 1) [] _ _ _ _ 1 rfl rfl rfl (by decide)
  · cases hfinished
  · cases hnone

end Runs

end GptLiveProxy
