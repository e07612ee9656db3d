import GptLiveProxy.Exchange

/-!
# The request permits

Official and private requests share one semaphore of `limits.active_requests` permits. Each request
is an exchange; the exchanges interleave freely and meet only at the semaphore.
-/

namespace GptLiveProxy

theorem countP_set_add {α : Type*} (p : α → Bool) {l : List α} {i : Nat} {x : α}
    (hx : l[i]? = some x) (y : α) :
    (l.set i y).countP p + (p x).toNat = l.countP p + (p y).toNat := by
  obtain ⟨hi, rfl⟩ := List.getElem?_eq_some_iff.mp hx
  rw [List.countP_set hi]
  have hpos : p l[i] = true → 0 < l.countP p := fun h =>
    List.countP_pos_iff.mpr ⟨l[i], List.getElem_mem hi, h⟩
  by_cases hold : p l[i] = true
  · have := hpos hold
    cases hnew : p y <;> simp [hold] <;> omega
  · cases hnew : p y <;> simp [hold]

def PermitEffect.apply : PermitEffect → Nat → Nat
  | .keep, available => available
  | .take, available => available - 1
  | .give, available => available + 1

structure Requests where
  available : Nat
  exchanges : List Exchange
deriving DecidableEq

inductive RequestsEvent
  | arrive (kind : HandlerKind)
  | exchange (i : Nat) (event : ExchangeEvent)
deriving DecidableEq

namespace Requests

def start (limit : Nat) : Requests := ⟨limit, []⟩

/-- `try_acquire_owned` answers at once. -/
@[reducible] def Answers (s : Requests) : ExchangeEvent → Prop
  | .acquire granted => granted = decide (0 < s.available)
  | _ => True

instance (s : Requests) : (e : ExchangeEvent) → Decidable (s.Answers e)
  | .acquire granted => instDecidableEqBool granted (decide (0 < s.available))
  | .bodyRead | .bodyFailed _ | .bodyTimedOut | .rejected _ | .spawn | .recordError _ | .receive _
  | .respond _ | .joinError | .recordJoinError _ | .disconnect | .releasePermit | .dropGuard
  | .finishDrop _ | .observeCancellation | .pollWork | .workPending | .workDone _ | .workTimedOut
  | .record _ | .taskReturn _ | .taskCrash => .isTrue trivial

/-- Every output carries the exchange it comes from. -/
def machine : TraceMachine Requests RequestsEvent (Nat × ExchangeOutput) where
  step s
    | .arrive kind => some ({ s with exchanges := s.exchanges ++ [.start kind] }, [])
    | .exchange i e =>
      s.exchanges[i]?.bind fun x =>
        if x.Enabled e ∧ s.Answers e then
          some (⟨(Exchange.effect e).apply s.available, s.exchanges.set i (x.next e)⟩,
            (x.outputs e).map (i, ·))
        else none

theorem machine_arrive {s s' : Requests} {kind : HandlerKind} {out : List (Nat × ExchangeOutput)} :
    machine.step s (.arrive kind) = some (s', out) ↔
      s' = ⟨s.available, s.exchanges ++ [.start kind]⟩ ∧ out = [] := by
  simp [machine, eq_comm]

theorem machine_exchange {s s' : Requests} {i : Nat} {e : ExchangeEvent}
    {out : List (Nat × ExchangeOutput)} :
    machine.step s (.exchange i e) = some (s', out) ↔
      ∃ x, s.exchanges[i]? = some x ∧ x.Enabled e ∧ s.Answers e ∧
        s' = ⟨(Exchange.effect e).apply s.available, s.exchanges.set i (x.next e)⟩ ∧
        out = (x.outputs e).map (i, ·) := by
  simp only [machine, Option.bind_eq_some_iff]
  refine exists_congr fun x => and_congr_right fun _ => ?_
  split_ifs with henabled
  · simp [henabled, eq_comm]
  · simp only [false_iff]
    tauto

end Requests

/-- The handler holds the permit and has not spawned. -/
def Exchange.isHolding (x : Exchange) : Bool := x.permit && decide (x.task = .absent)

section Balance
variable {x : Exchange} {e : ExchangeEvent}

attribute [local grind] Exchange.isHolding Exchange.guardDropped Exchange.isEarly TaskPhase.isLive

/-- A permit changes hands, or a held one moves from the handler into the task. -/
theorem Exchange.balance_next (h : x.Coherent) (he : x.Enabled e) :
    match Exchange.effect e with
    | .keep => (x.next e).isHolding.toNat + (x.next e).task.isLive.toNat =
        x.isHolding.toNat + x.task.isLive.toNat
    | .take => (x.next e).isHolding.toNat + (x.next e).task.isLive.toNat =
        x.isHolding.toNat + x.task.isLive.toNat + 1
    | .give => (x.next e).isHolding.toNat + (x.next e).task.isLive.toNat + 1 =
        x.isHolding.toNat + x.task.isLive.toNat := by
  cases e with
  | acquire granted =>
    have hhandler : x.handler = .begun := he
    have htask := h.held.early (by rw [hhandler]; rfl)
    cases granted with
    | false => rfl
    | true => simp [effect, next, isHolding, htask, h.held.unpermitted hhandler, TaskPhase.isLive]
  | spawn =>
    have hhandler : x.handler = .prepared := he
    have htask := h.held.early (by rw [hhandler]; rfl)
    simp [effect, next, isHolding, htask, h.held.permitted (.inr hhandler), TaskPhase.isLive]
  | releasePermit =>
    have htask := h.held.unspawned he.2
    simp [effect, next, isHolding, htask, he.2, TaskPhase.isLive]
  | taskReturn result =>
    have htask : x.task = .recorded result := he
    simp [effect, next, isHolding, htask, TaskPhase.isLive]
  | taskCrash =>
    have hlive : x.task.isLive = true := he
    have habsent : x.task ≠ .absent := by
      intro habsent
      rw [habsent] at hlive
      cases hlive
    have hcrashed : TaskPhase.crashed.isLive = false := rfl
    simp [effect, next, isHolding, habsent, hlive, hcrashed]
  | observeCancellation => simp [effect, next, isHolding, he.1, TaskPhase.isLive]
  | pollWork => simp [effect, next, isHolding, he.1, TaskPhase.isLive]
  | finishDrop won => rfl
  | workPending | workDone _ | workTimedOut | record _ =>
    simp only [Enabled] at he
    simp [effect, next, isHolding, he, TaskPhase.isLive]
  | _ => rfl

end Balance

namespace Requests

def holding (s : Requests) : Nat := s.exchanges.countP (·.isHolding)

/-- The spawned tasks that have not exited. -/
def running (s : Requests) : Nat := s.exchanges.countP (·.task.isLive)

structure Conserved (limit : Nat) (s : Requests) : Prop where
  coherent : ∀ x ∈ s.exchanges, x.Coherent
  total : s.available + s.holding + s.running = limit

theorem conserved_start (limit : Nat) : (start limit).Conserved limit := by
  constructor
  · intro x hx
    cases hx
  · simp [start, holding, running]

theorem conserved_arrive {limit : Nat} {s : Requests} (h : s.Conserved limit) (kind : HandlerKind) :
    Conserved limit ⟨s.available, s.exchanges ++ [.start kind]⟩ := by
  constructor
  · intro x hx
    rcases List.mem_append.mp hx with hold | hnew
    · exact h.coherent x hold
    · rw [List.mem_singleton.mp hnew]
      exact Exchange.coherent_start kind
  · have hstart : (Exchange.start kind).isHolding = false := rfl
    have htask : (Exchange.start kind).task.isLive = false := rfl
    simpa [holding, running, List.countP_cons, hstart, htask] using h.total

theorem conserved_exchange {limit : Nat} {s : Requests} {i : Nat} {x : Exchange} {e : ExchangeEvent}
    (h : s.Conserved limit) (hx : s.exchanges[i]? = some x) (he : x.Enabled e) (ha : s.Answers e) :
    Conserved limit ⟨(Exchange.effect e).apply s.available, s.exchanges.set i (x.next e)⟩ := by
  have hcoherent := h.coherent x (List.mem_of_getElem? hx)
  constructor
  · intro y hy
    rcases List.mem_or_eq_of_mem_set hy with hold | rfl
    · exact h.coherent y hold
    · exact Exchange.coherent_next hcoherent he
  · have htotal := h.total
    have hholding := countP_set_add (·.isHolding) hx (x.next e)
    have hrunning := countP_set_add (·.task.isLive) hx (x.next e)
    have hbalance := Exchange.balance_next hcoherent he
    have htaken : Exchange.effect e = .take → 0 < s.available := by
      intro htake
      cases e with
      | acquire granted =>
        cases granted with
        | false => cases htake
        | true => simpa using ha
      | _ => cases htake
    simp only [holding, running] at htotal ⊢
    cases heffect : Exchange.effect e with
    | keep =>
      simp only [heffect, PermitEffect.apply] at hbalance ⊢
      omega
    | take =>
      have := htaken heffect
      simp only [heffect, PermitEffect.apply] at hbalance ⊢
      omega
    | give =>
      simp only [heffect, PermitEffect.apply] at hbalance ⊢
      omega

theorem conserved_run {limit : Nat} {es : List RequestsEvent} {s : Requests}
    {t : List (Nat × ExchangeOutput)} (hrun : machine.run (start limit) es = some (s, t)) :
    s.Conserved limit := by
  refine machine.run_preserves ?_ hrun (conserved_start limit)
  intro s e s' out hs hstep
  cases e with
  | arrive kind =>
    obtain ⟨rfl, -⟩ := machine_arrive.mp hstep
    exact conserved_arrive hs kind
  | exchange i e =>
    obtain ⟨x, hx, henabled, hanswers, rfl, -⟩ := machine_exchange.mp hstep
    exact conserved_exchange hs hx henabled hanswers

end Requests

section Refusal

/-- The handler can no longer read the body or spawn. -/
def HandlerPhase.isPast : HandlerPhase → Bool
  | .begun => false
  | .reading => false
  | .prepared => false
  | _ => true

def ExchangeOutput.isAdmitted : ExchangeOutput → Bool
  | .readBody => true
  | .contactUpstream => true
  | .respond _ => false

theorem Exchange.begun_of_next {x : Exchange} {e : ExchangeEvent}
    (h : (x.next e).handler = .begun) : x.handler = .begun ∧ x.outputs e = [] := by
  cases e with
  | acquire granted => cases granted <;> cases h
  | finishDrop won => cases h
  | releasePermit | observeCancellation | pollWork | workPending | workDone _ | workTimedOut
  | record _ | taskReturn _ | taskCrash => exact ⟨h, rfl⟩
  | _ => cases h

theorem Exchange.past_next {x : Exchange} {e : ExchangeEvent} (he : x.Enabled e)
    (hpast : x.handler.isPast = true) :
    (x.next e).handler.isPast = true ∧ ∀ o ∈ x.outputs e, o.isAdmitted = false := by
  cases e with
  | acquire _ | bodyRead | bodyFailed _ | bodyTimedOut | rejected _ | spawn =>
    have hhandler := he
    simp only [Enabled] at hhandler
    rw [hhandler] at hpast
    cases hpast
  | recordError error | respond result | recordJoinError message =>
    refine ⟨rfl, fun o ho => ?_⟩
    rw [List.mem_singleton.mp ho]
    rfl
  | receive _ | joinError | disconnect | dropGuard | finishDrop _ => exact ⟨rfl, List.forall_mem_nil _⟩
  | _ => exact ⟨hpast, List.forall_mem_nil _⟩

namespace Requests

theorem silent_run {limit : Nat} {es : List RequestsEvent} {s : Requests}
    {t : List (Nat × ExchangeOutput)} (hrun : machine.run (start limit) es = some (s, t)) :
    ∀ i o, (i, o) ∈ t → ∃ x, s.exchanges[i]? = some x ∧ x.handler ≠ .begun := by
  refine machine.run_invariant (P := fun s t => ∀ i o, (i, o) ∈ t →
    ∃ x, s.exchanges[i]? = some x ∧ x.handler ≠ .begun) (by simp [start]) ?_ hrun
  intro s t e s' out hs hstep i o ho
  cases e with
  | arrive kind =>
    obtain ⟨rfl, rfl⟩ := machine_arrive.mp hstep
    obtain ⟨x, hx, hbegun⟩ := hs i o (by simpa using ho)
    exact ⟨x, by rw [List.getElem?_append_left (List.getElem?_eq_some_iff.mp hx).1, hx], hbegun⟩
  | exchange j e =>
    obtain ⟨y, hy, -, -, rfl, rfl⟩ := machine_exchange.mp hstep
    by_cases hij : j = i
    · subst hij
      refine ⟨y.next e, by simp [(List.getElem?_eq_some_iff.mp hy).1], fun hbegun => ?_⟩
      obtain ⟨hbefore, hout⟩ := Exchange.begun_of_next hbegun
      obtain ⟨x, hx, hne⟩ := hs j o (by simpa [hout] using ho)
      obtain rfl : y = x := by simpa [hy] using hx
      exact hne hbefore
    · obtain ⟨x, hx, hne⟩ := hs i o (by simpa [hij] using ho)
      exact ⟨x, by simpa [List.getElem?_set_ne hij] using hx, hne⟩

/-- An exchange past its admission stays so, and reads and contacts nothing any more. -/
theorem past_run {i : Nat} {es : List RequestsEvent} {s s' : Requests}
    {t : List (Nat × ExchangeOutput)} (hrun : machine.run s es = some (s', t))
    (hpast : ∃ x, s.exchanges[i]? = some x ∧ x.handler.isPast = true) :
    ∀ o, (i, o) ∈ t → o.isAdmitted = false := by
  refine (machine.run_invariant (P := fun s t =>
    (∃ x, s.exchanges[i]? = some x ∧ x.handler.isPast = true) ∧
    ∀ o, (i, o) ∈ t → o.isAdmitted = false) ⟨hpast, by simp⟩ ?_ hrun).2
  rintro s t e s' out ⟨⟨x, hx, hpast⟩, ht⟩ hstep
  cases e with
  | arrive kind =>
    obtain ⟨rfl, rfl⟩ := machine_arrive.mp hstep
    refine ⟨⟨x, ?_, hpast⟩, by simpa using ht⟩
    rw [List.getElem?_append_left (List.getElem?_eq_some_iff.mp hx).1, hx]
  | exchange j e =>
    obtain ⟨y, hy, henabled, -, rfl, rfl⟩ := machine_exchange.mp hstep
    by_cases hij : j = i
    · subst hij
      obtain rfl : y = x := by simpa [hy] using hx
      obtain ⟨hpast', hout⟩ := Exchange.past_next henabled hpast
      refine ⟨⟨y.next e, by simp [(List.getElem?_eq_some_iff.mp hy).1], hpast'⟩, fun o ho => ?_⟩
      rcases List.mem_append.mp ho with hold | hnew
      · exact ht o hold
      · exact hout o (by simpa using hnew)
    · refine ⟨⟨x, by simpa [List.getElem?_set_ne hij] using hx, hpast⟩, fun o ho => ?_⟩
      exact ht o (by simpa [hij] using ho)

/-- A request that finds no permit has done nothing before and does nothing but answer after. -/
theorem refused_run {limit i : Nat} {granted : Bool} {es fs : List RequestsEvent} {s s' : Requests}
    {t t' : List (Nat × ExchangeOutput)} (hrun : machine.run (start limit) es = some (s, t))
    (hfull : s.available = 0)
    (hrest : machine.run s (.exchange i (.acquire granted) :: fs) = some (s', t')) :
    ∀ o, (i, o) ∈ t ++ t' → o.isAdmitted = false := by
  obtain ⟨m, out, rest, hstep, hfs, rfl⟩ := machine.run_cons_iff.mp hrest
  obtain ⟨x, hx, hbegun, hanswers, rfl, rfl⟩ := machine_exchange.mp hstep
  obtain rfl : granted = false := by
    rw [show granted = decide (0 < s.available) from hanswers, hfull]
    rfl
  intro o ho
  rcases List.mem_append.mp ho with hbefore | hafter
  · obtain ⟨y, hy, hne⟩ := silent_run hrun i o hbefore
    obtain rfl : x = y := by simpa [hx] using hy
    exact absurd hbegun hne
  · have hi := (List.getElem?_eq_some_iff.mp hx).1
    refine past_run (i := i) hfs ⟨x.next (.acquire false), ?_, rfl⟩ o ?_
    · simp [hi]
    · simpa [Exchange.outputs] using hafter

/-- The law of the request permits, over every interleaving of the requests: `s` is any state a run
reaches, and the last part is about a request that finds no permit there. -/
theorem request_permits {limit : Nat} {es : List RequestsEvent} {s : Requests}
    {t : List (Nat × ExchangeOutput)} (hrun : machine.run (start limit) es = some (s, t)) :
    s.available + s.holding + s.running = limit ∧
    s.running ≤ limit ∧
    ((∀ x ∈ s.exchanges, x.handler = .gone ∧ x.task.isLive = false) → s.available = limit) ∧
    ∀ i granted fs s' t', s.available = 0 →
      machine.run s (.exchange i (.acquire granted) :: fs) = some (s', t') →
        (i, .readBody) ∉ t ++ t' ∧ (i, .contactUpstream) ∉ t ++ t' := by
  have hconserved := conserved_run hrun
  have htotal := hconserved.total
  refine ⟨htotal, by omega, ?_, ?_⟩
  · intro hended
    have hholding : s.holding = 0 := by
      refine List.countP_eq_zero.mpr fun x hx => ?_
      have hpermit := (hconserved.coherent x hx).held.released (by rw [(hended x hx).1]; rfl)
      simp [Exchange.isHolding, hpermit]
    have hrunning : s.running = 0 := by
      refine List.countP_eq_zero.mpr fun x hx => ?_
      simp [(hended x hx).2]
    omega
  · intro i granted fs s' t' hfull hrest
    have hnothing := refused_run hrun hfull hrest
    constructor
    · intro hbody
      cases hnothing _ hbody
    · intro hcontact
      cases hnothing _ hcontact

/-- With one permit the second request is refused while the first runs on without its client, and
the permit comes back. -/
theorem single_permit_requests : ∃ s t s' t',
    machine.run (start 1) [.arrive .official, .arrive .privateCall, .exchange 0 (.acquire true),
      .exchange 0 .bodyRead, .exchange 0 .spawn, .exchange 0 .disconnect, .exchange 0 .dropGuard] =
        some (s, t) ∧
    machine.run s [.exchange 1 (.acquire false),
      .exchange 1 (.recordError .tooManyActiveRealtimeRequests)] = some (s', t') ∧
    s.available + s.holding + s.running = 1 ∧ s.running = 1 ∧
    (1, .readBody) ∉ t ++ t' ∧ (1, .contactUpstream) ∉ t ++ t' := by
  refine ⟨_, _, _, _, rfl, rfl, ?_⟩
  obtain ⟨htotal, -, -, hrefused⟩ := @request_permits 1 [.arrive .official, .arrive .privateCall,
    .exchange 0 (.acquire true), .exchange 0 .bodyRead, .exchange 0 .spawn, .exchange 0 .disconnect,
    .exchange 0 .dropGuard] _ _ rfl
  exact ⟨htotal, rfl, hrefused 1 false [.exchange 1 (.recordError .tooManyActiveRealtimeRequests)]
    _ _ rfl rfl⟩

end Requests

end Refusal

end GptLiveProxy
