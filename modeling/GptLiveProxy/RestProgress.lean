import GptLiveProxy.RestCalls

/-!
# Every REST call can end

A handler that waits for its body has a deadline, and so has the upstream work; nothing else a call
does waits for a peer. The rank of an exchange bounds the steps that are left, and a spawn is priced
with what the task and the handler have to do after it.
-/

namespace GptLiveProxy
open TraceMachine PermitUser

/-- The events in which neither peer takes part. -/
def ExchangeEvent.isUnaided : ExchangeEvent → Bool
  | recordError _ => true
  | receive _ => true
  | respond _ => true
  | joinError => true
  | recordJoinError _ => true
  | releasePermit => true
  | dropGuard => true
  | finishDrop _ => true
  | observeCancellation => true
  | pollWork => true
  | workTimedOut => true
  | record _ => true
  | taskReturn _ => true
  | _ => false

def RestEvent.isUnaided : RestEvent → Bool
  | .read none => true
  | .build => true
  | .exchange e => e.isUnaided
  | _ => false

def HandlerPhase.rank : HandlerPhase → Nat
  | begun => 10
  | reading => 9
  | prepared => 8
  | awaiting => 4
  | refusing _ => 3
  | received _ => 3
  | joinFailed => 3
  | leaving => 2
  | dropping _ => 1
  | gone => 0

def TaskPhase.rank : TaskPhase → Nat
  | working => 4
  | checked => 3
  | decided _ => 2
  | recorded _ => 1
  | _ => 0

def Exchange.rank (x : Exchange) : Nat := x.handler.rank + x.permit.toNat + x.task.rank

section Ranks
variable {x y : Exchange}

theorem Exchange.rank_lt_of_task (hhandler : y.handler = x.handler) (hpermit : y.permit = x.permit)
    (htask : y.task.rank < x.task.rank) : y.rank < x.rank := by
  unfold Exchange.rank
  rw [hhandler, hpermit]
  omega

theorem Exchange.rank_lt_of_handler (hhandler : y.handler.rank < x.handler.rank)
    (hpermit : y.permit = x.permit) (htask : y.task = x.task) : y.rank < x.rank := by
  unfold Exchange.rank
  rw [hpermit, htask]
  omega

end Ranks

namespace RestCall

/-- A prepared handler has its body, and one that waits for its task has spawned it. -/
structure Ready (x : RestCall) : Prop where
  coherent : x.exchange.Coherent
  bodied : x.exchange.handler = .prepared → x.body.isSome = true
  spawned : x.exchange.handler = .awaiting → x.exchange.task ≠ .absent

def isOver (x : RestCall) : Bool :=
  match x.exchange.handler with
  | .gone => !x.exchange.task.isLive
  | _ => false

section Steps
variable {d : Deployment} {x x' : RestCall} {e : ExchangeEvent} {event : RestEvent}
  {out : List RestOutput}

theorem ready_start (plan : RestPlan) : (start plan).Ready where
  coherent := Exchange.coherent_start plan.kind
  bodied h := by cases h
  spawned h := by cases h

theorem prepared_next {x : Exchange} (he : x.Enabled e) (h : (x.next e).handler = .prepared) :
    x.handler = .prepared ∨ e = .bodyRead := by
  cases e with
  | acquire granted => cases granted <;> grind [Exchange.next]
  | _ => grind [Exchange.next]

theorem awaiting_next {x : Exchange} (h : (x.next e).handler = .awaiting) :
    x.handler = .awaiting ∨ e = .spawn := by
  cases e with
  | acquire granted => cases granted <;> cases h
  | _ => grind [Exchange.next]

theorem ready_step (he : x.exchange.Enabled e) (hstep : RestStep d x event e x' out) (h : x.Ready) :
    x'.Ready := by
  obtain ⟨-, hnext⟩ := follows hstep
  constructor
  · rw [hnext]
    exact Exchange.coherent_next h.coherent he
  · intro hprepared
    rw [hnext] at hprepared
    cases hstep with
    | read hread => rfl
    | build hbody hcomplete => rw [hbody]; rfl
    | work head chunks =>
      rcases prepared_next he hprepared with hbefore | hread
      · exact h.bodied hbefore
      · cases hread
    | plain hmatches hread hspawn hwork =>
      rcases prepared_next he hprepared with hbefore | hbody
      · exact h.bodied hbefore
      · exact absurd hbody hread
  · intro hawaiting habsent
    rw [hnext] at hawaiting habsent
    obtain ⟨hbefore, hspawn⟩ := (task_absent_next he).mp habsent
    rcases awaiting_next hawaiting with hwaited | hspawned
    · exact h.spawned hwaited hbefore
    · exact hspawn hspawned

/-- An unaided step that lowers the rank. -/
def Advances (d : Deployment) (x : RestCall) : Prop :=
  ∃ e x' out, e.isUnaided = true ∧ (machine d).step x e = some (x', out) ∧ x'.Ready ∧
    x'.exchange.rank < x.exchange.rank

theorem isPlain_of_isUnaided {f : ExchangeEvent} (h : f.isUnaided = true) : f.isPlain = true := by
  cases f <;> first | rfl | cases h

theorem Advances.exchange (h : x.Ready) {f : ExchangeEvent} (hf : f.isUnaided = true)
    (he : x.exchange.Enabled f) (hrank : (x.exchange.next f).rank < x.exchange.rank) :
    x.Advances d := by
  have hplain := isPlain_of_isUnaided hf
  obtain ⟨hread, hspawn, hwork⟩ := plain_ne hplain
  have hstep : (machine d).step x (.exchange f) = some (⟨x.plan, x.body, x.exchange.next f⟩,
      (x.exchange.outputs f).filterMap RestOutput.ofExchange) := by
    simp only [machine, step, hplain, if_true]
    exact follow_eq_some.mpr ⟨he, rfl, rfl⟩
  have hready : RestCall.Ready ⟨x.plan, x.body, x.exchange.next f⟩ :=
    ready_step (d := d) he (.plain (.inl rfl) hread hspawn hwork) h
  exact ⟨.exchange f, _, _, hf, hstep, hready, hrank⟩

/-- The handler alone moves, or the task alone. -/
theorem Advances.of_handler (h : x.Ready) {f : ExchangeEvent} {phase : HandlerPhase}
    (hf : f.isUnaided = true) (he : x.exchange.Enabled f) (hphase : x.exchange.handler = phase)
    (hrank : (x.exchange.next f).handler.rank < phase.rank)
    (hpermit : (x.exchange.next f).permit = x.exchange.permit)
    (htask : (x.exchange.next f).task = x.exchange.task) : x.Advances d := by
  refine .exchange h hf he (Exchange.rank_lt_of_handler ?_ hpermit htask)
  rw [hphase]
  exact hrank

theorem Advances.of_task (h : x.Ready) {f : ExchangeEvent} {phase : TaskPhase}
    (hf : f.isUnaided = true) (he : x.exchange.Enabled f) (hphase : x.exchange.task = phase)
    (hrank : (x.exchange.next f).task.rank < phase.rank)
    (hhandler : (x.exchange.next f).handler = x.exchange.handler)
    (hpermit : (x.exchange.next f).permit = x.exchange.permit) : x.Advances d := by
  refine .exchange h hf he (Exchange.rank_lt_of_task hhandler hpermit ?_)
  rw [hphase]
  exact hrank

theorem Advances.task (h : x.Ready) (hlive : x.exchange.task.isLive = true) : x.Advances d := by
  cases htask : x.exchange.task with
  | working =>
    cases hcancelled : x.exchange.lifecycle.cancelled with
    | true =>
      exact .of_task h (f := .observeCancellation) rfl ⟨htask, hcancelled⟩ htask
        (show 2 < 4 by omega) rfl rfl
    | false =>
      exact .of_task h (f := .pollWork) rfl ⟨htask, hcancelled⟩ htask (show 3 < 4 by omega) rfl rfl
  | checked =>
    exact .of_task h (f := .workTimedOut) rfl htask htask (show 2 < 3 by omega) rfl rfl
  | decided result =>
    exact .of_task h (f := .record result) rfl htask htask (show 1 < 2 by omega) rfl rfl
  | recorded result =>
    exact .of_task h (f := .taskReturn result) rfl htask htask (show 0 < 1 by omega) rfl rfl
  | absent | returned result | crashed =>
    rw [htask] at hlive
    cases hlive

theorem Advances.read (h : x.Ready) (hreading : x.exchange.handler = .reading) : x.Advances d := by
  have hstep : (machine d).step x (.read none) =
      some (⟨x.plan, x.body, x.exchange.next .bodyTimedOut⟩, []) :=
    follow_eq_some.mpr ⟨hreading, rfl, rfl⟩
  have hready : RestCall.Ready ⟨x.plan, x.body, x.exchange.next .bodyTimedOut⟩ := by
    refine ready_step hreading (@RestStep.plain d x (.read none) _ (.inr ⟨rfl, rfl⟩) ?_ ?_ ?_) h
    all_goals simp
  refine ⟨.read none, _, _, rfl, hstep, hready, Exchange.rank_lt_of_handler ?_ rfl rfl⟩
  rw [hreading]
  exact (by omega : 3 < 9)

/-- A prepared handler builds its request, and no part of this panics. -/
theorem Advances.build (h : x.Ready) (hprepared : x.exchange.handler = .prepared) :
    x.Advances d := by
  obtain ⟨body, hbody⟩ := Option.isSome_iff_exists.mp (h.bodied hprepared)
  cases hcomplete : x.plan.complete d body with
  | ok request =>
    have hstep : (machine d).step x .build =
        some (⟨x.plan, x.body, x.exchange.next .spawn⟩, [.contact request]) := by
      simp only [machine, step, hbody, Option.map_some, hcomplete]
      exact if_pos hprepared
    refine ⟨.build, _, _, rfl, hstep, ready_step hprepared (.build hbody hcomplete) h, ?_⟩
    have hpermit := h.coherent.held.permitted (.inr hprepared)
    change HandlerPhase.awaiting.rank + 0 + TaskPhase.working.rank < Exchange.rank _
    rw [Exchange.rank, hprepared, hpermit]
    exact Nat.lt_of_lt_of_le (by decide : 8 < 9) (Nat.le_add_right _ _)
  | error error =>
    have hstep : (machine d).step x .build =
        some (⟨x.plan, x.body, x.exchange.next (.rejected error)⟩, []) := by
      simp only [machine, step, hbody, Option.map_some, hcomplete]
      exact follow_eq_some.mpr ⟨hprepared, by rw [hbody], rfl⟩
    have hready : RestCall.Ready ⟨x.plan, x.body, x.exchange.next (.rejected error)⟩ := by
      refine ready_step hprepared (@RestStep.plain d x .build _ (.inr ⟨rfl, rfl⟩) ?_ ?_ ?_) h
      all_goals simp
    refine ⟨.build, _, _, rfl, hstep, hready, Exchange.rank_lt_of_handler ?_ rfl rfl⟩
    rw [hprepared]
    exact (by omega : 3 < 8)
  | panicked => exact absurd hcomplete (complete_safe d x.plan body)

/-- The handler goes on when its task is over. -/
theorem Advances.handler (h : x.Ready) (hover : x.exchange.task.isLive = false)
    (hbegun : x.exchange.handler ≠ .begun) (hgone : x.exchange.handler ≠ .gone) : x.Advances d := by
  cases hhandler : x.exchange.handler with
  | begun => exact absurd hhandler hbegun
  | gone => exact absurd hhandler hgone
  | reading => exact .read h hhandler
  | prepared => exact .build h hhandler
  | refusing error =>
    exact .of_handler h (f := .recordError error) rfl hhandler hhandler
      (show 2 < 3 by omega) rfl rfl
  | awaiting =>
    cases htask : x.exchange.task with
    | absent => exact absurd htask (h.spawned hhandler)
    | returned result =>
      exact .of_handler h (f := .receive result) rfl ⟨hhandler, htask⟩ hhandler
        (show 3 < 4 by omega) rfl rfl
    | crashed =>
      exact .of_handler h (f := .joinError) rfl ⟨hhandler, htask⟩ hhandler
        (show 3 < 4 by omega) rfl rfl
    | working | checked | decided result | recorded result =>
      rw [htask] at hover
      cases hover
  | received result =>
    exact .of_handler h (f := .respond result) rfl hhandler hhandler (show 2 < 3 by omega) rfl rfl
  | joinFailed =>
    exact .of_handler h (f := .recordJoinError "panic") rfl hhandler hhandler
      (show 2 < 3 by omega) rfl rfl
  | leaving =>
    cases hpermit : x.exchange.permit with
    | true =>
      refine .exchange h (f := .releasePermit) rfl ⟨hhandler, hpermit⟩ ?_
      change x.exchange.handler.rank + 0 + x.exchange.task.rank < x.exchange.handler.rank +
        x.exchange.permit.toNat + x.exchange.task.rank
      rw [hpermit, Bool.toNat_true]
      omega
    | false =>
      exact .of_handler h (f := .dropGuard) rfl ⟨hhandler, hpermit⟩ hhandler
        (show 1 < 2 by omega) rfl rfl
  | dropping won =>
    exact .of_handler h (f := .finishDrop won) rfl hhandler hhandler (show 0 < 1 by omega) rfl rfl

/-- The semaphore has answered the handler, or nothing is left to ask. -/
structure Asked (x : RestCall) : Prop where
  ready : x.Ready
  begun : x.exchange.handler ≠ .begun

theorem begun_next {x : Exchange} (he : x.Enabled e) (h : (x.next e).handler = .begun) :
    x.handler = .begun := by
  cases e with
  | acquire granted => cases granted <;> cases h
  | _ => grind [Exchange.next]

theorem canReach_over (h : x.Asked) :
    (machine d).CanReach (fun e => e.isUnaided = true) (fun x' => x'.isOver = true) x := by
  refine canReach_of_rank (P := Asked) (fun x => x.exchange.rank) ?_ h
  intro x h
  have hadvances : x.isOver = true ∨ x.Advances d := by
    cases hlive : x.exchange.task.isLive with
    | true => exact .inr (.task h.ready hlive)
    | false =>
      by_cases hgone : x.exchange.handler = .gone
      · refine .inl ?_
        rw [isOver, hgone, hlive]
        rfl
      · exact .inr (.handler h.ready hlive h.begun hgone)
  rcases hadvances with hover | ⟨e, x', out, he, hstep, hready, hrank⟩
  · exact .inl hover
  · refine .inr ⟨e, x', out, he, hstep, ⟨hready, ?_⟩, hrank⟩
    obtain ⟨f, henabled, hkind⟩ := restStep_of_step hstep
    intro hbegun
    rw [(follows hkind).2] at hbegun
    exact h.begun (begun_next henabled hbegun)

theorem asksFirst_of_begun (h : x.Ready) (hbegun : x.exchange.handler = .begun) :
    (user d).AsksFirst (fun e => e.isUnaided = true) isOver x := by
  intro granted
  have hstep : (machine d).step x (.exchange (.acquire granted)) =
      some (⟨x.plan, x.body, x.exchange.next (.acquire granted)⟩,
        (x.exchange.outputs (.acquire granted)).filterMap RestOutput.ofExchange) :=
    follow_eq_some.mpr ⟨hbegun, rfl, rfl⟩
  refine ⟨_, _, _, rfl, hstep, canReach_over ⟨?_, ?_⟩⟩
  · refine ready_step (d := d) hbegun (.plain (.inl rfl) ?_ ?_ ?_) h
    all_goals simp
  · cases granted <;> simp [Exchange.next]

end Steps

section Ends
variable {d : Deployment}

theorem ready_run {plan : RestPlan} {es : List RestEvent} {x : RestCall} {t : List RestOutput}
    (hrun : (machine d).run (start plan) es = some (x, t)) : x.Ready := by
  refine (machine d).run_preserves ?_ hrun (ready_start plan)
  intro x e x' out h hstep
  obtain ⟨f, henabled, hkind⟩ := restStep_of_step hstep
  exact ready_step henabled hkind h

theorem ends {plan : RestPlan} {es : List RestEvent} {x : RestCall} {t : List RestOutput}
    (hrun : (machine d).run (start plan) es = some (x, t)) :
    (machine d).CanReach (fun e => e.isUnaided = true) (fun x' => x'.isOver = true) x ∨
      (user d).AsksFirst (fun e => e.isUnaided = true) isOver x := by
  have hready := ready_run hrun
  by_cases hbegun : x.exchange.handler = .begun
  · exact .inr (asksFirst_of_begun hready hbegun)
  · exact .inl (canReach_over ⟨hready, hbegun⟩)

theorem asks_unaided (e : RestEvent) (h : e.isUnaided = true) : (user d).asks e = none := by
  cases e with
  | exchange f =>
    cases f with
    | acquire permitted => cases h
    | _ => rfl
  | _ => rfl

/-- A call that is over holds nothing. -/
theorem held_of_isOver {x : RestCall} (hcoherent : x.exchange.Coherent) (hover : x.isOver = true) :
    (user d).held x = 0 := by
  unfold isOver at hover
  split at hover
  next hgone =>
    have hpermit := hcoherent.held.released (by rw [hgone]; rfl)
    have hlive : x.exchange.task.isLive = false := by simpa using hover
    change (x.exchange.permit && decide (x.exchange.task = .absent)).toNat +
      x.exchange.task.isLive.toNat = 0
    rw [hpermit, hlive]
    rfl
  next => cases hover

end Ends

end RestCall

/-- From every state the calls can reach, all of them can end without any peer, and every permit is
back then. -/
theorem calls_can_end {d : Deployment} {limit : Nat} {es : List (PoolEvent RestPlan RestEvent)}
    {s : RestCalls} {t : List (Nat × RestOutput)}
    (hrun : (restCallsMachine d).run (startPool limit) es = some (s, t)) :
    (restCallsMachine d).CanReach
      (fun e => ∃ i f, e = .act i f ∧
        (f.isUnaided = true ∨ ((RestCall.user d).asks f).isSome = true))
      (fun s' => s'.available = limit ∧ ∀ x ∈ s'.members, x.isOver = true) s := by
  refine canReach_all_done (RestCall.balanced d) ?_ RestCall.asks_unaided ?_ hrun
  · intro x hcoherent hover
    exact RestCall.held_of_isOver hcoherent hover
  · intro plan fs x u hfs
    exact RestCall.ends hfs

end GptLiveProxy
