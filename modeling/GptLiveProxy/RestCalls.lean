import GptLiveProxy.ErrorTerminals
import GptLiveProxy.RestCall

/-!
# What a REST call shows, and the permits of all of them

A call contacts the upstream once at most, with the request that the handler computes from its plan
and the body it has read, and it is answered once at most; an answer from upstream stands behind a
contact and within the response cap. Calls meet at the semaphore only, and every permit they hold
can come back without any peer.
-/

namespace GptLiveProxy
open TraceMachine PermitUser

section Outcomes

/-- The handler has nothing more to answer. -/
def HandlerPhase.isDone : HandlerPhase → Bool
  | leaving => true
  | dropping _ => true
  | gone => true
  | _ => false

variable {x : Exchange} {e : ExchangeEvent} {result : ExchangeResult}

theorem task_absent_next (he : x.Enabled e) :
    (x.next e).task = .absent ↔ x.task = .absent ∧ e ≠ .spawn := by
  cases e with
  | acquire granted => cases granted <;> simp [Exchange.next]
  | finishDrop won => cases won <;> simp [Exchange.next]
  | taskCrash =>
    have hlive : x.task.isLive = true := he
    refine iff_of_false (by simp [Exchange.next]) ?_
    rintro ⟨habsent, -⟩
    rw [habsent] at hlive
    cases hlive
  | _ =>
    simp only [Exchange.Enabled] at he
    simp [Exchange.next, he]

/-- A result other than an error starts with the work that was done. -/
theorem carries_next (he : x.Enabled e) (h : (x.next e).Carries result) :
    x.Carries result ∨ e = .workDone result ∨ ∃ error, result = .error error := by
  cases e with
  | acquire granted => cases granted <;> grind [Exchange.Carries, Exchange.next]
  | _ => grind [Exchange.Carries, Exchange.next]

theorem done_next (he : x.Enabled e) (h : (x.next e).handler.isDone = false) :
    x.handler.isDone = false ∧ ∀ result, .respond result ∉ x.outputs e := by
  cases e with
  | acquire granted => cases granted <;> grind [Exchange.outputs, Exchange.next, HandlerPhase.isDone]
  | _ => grind [Exchange.outputs, Exchange.next, HandlerPhase.isDone]

/-- An answer is the result on its way, or an error. -/
theorem responds (he : x.Enabled e) (h : .respond result ∈ x.outputs e) :
    x.outputs e = [.respond result] ∧ x.handler.isDone = false ∧
      (x.Carries result ∨ ∃ error, result = .error error) := by
  cases e with
  | acquire granted => cases granted <;> grind [Exchange.outputs]
  | _ => grind [Exchange.outputs, Exchange.Carries, HandlerPhase.isDone]

end Outcomes

namespace RestCall

def contacts (t : List RestOutput) : List UpstreamRequest :=
  t.filterMap fun
    | .contact request => some request
    | _ => none

def results (t : List RestOutput) : List ExchangeResult :=
  t.filterMap fun
    | .respond result => some result
    | _ => none

@[simp] theorem contacts_append (t u : List RestOutput) :
    contacts (t ++ u) = contacts t ++ contacts u := List.filterMap_append

@[simp] theorem results_append (t u : List RestOutput) :
    results (t ++ u) = results t ++ results u := List.filterMap_append

theorem contacts_plain (out : List ExchangeOutput) :
    contacts (out.filterMap RestOutput.ofExchange) = [] := by
  induction out with
  | nil => rfl
  | cons o out ih => cases o <;> exact ih

theorem results_plain {out : List ExchangeOutput}
    (h : ∀ r, .respond r ∉ out) : results (out.filterMap RestOutput.ofExchange) = [] := by
  refine List.filterMap_eq_nil_iff.mpr ?_
  intro o ho
  obtain ⟨p, hp, hshown⟩ := List.mem_filterMap.mp ho
  cases p with
  | readBody =>
    cases hshown
    rfl
  | contactUpstream => cases hshown
  | respond r => exact absurd hp (h r)

/-- The call has read its body under the cap, and the request follows from it and the plan. -/
def Sends (d : Deployment) (es : List RestEvent) (plan : RestPlan) (request : UpstreamRequest) :
    Prop :=
  ∃ chunks body, .read (some chunks) ∈ es ∧
    readCapped d.config.limits.requestBytes [] chunks = .ok body ∧
      plan.complete d body = .ok request

/-- A response stands behind a contact, and is what the upstream has answered, under the cap. -/
def Explains (d : Deployment) (es : List RestEvent) (t : List RestOutput) (result : ExchangeResult) :
    Prop :=
  ∀ response, result = .ok response → contacts t ≠ [] ∧
    ∃ head chunks, .work head chunks ∈ es ∧
      executeCapped d.config.limits.responseBytes head chunks = .ok response

/-- The story of a call so far, told by its events. -/
structure Tells (d : Deployment) (es : List RestEvent) (x : RestCall) (t : List RestOutput) :
    Prop where
  coherent : x.exchange.Coherent
  bodied : ∀ body, x.body = some body → ∃ chunks, .read (some chunks) ∈ es ∧
    readCapped d.config.limits.requestBytes [] chunks = .ok body
  uncontacted : contacts t = [] ↔ x.exchange.task = .absent
  contacted : contacts t = [] ∨ ∃ request, contacts t = [request] ∧ Sends d es x.plan request
  unanswered : x.exchange.handler.isDone = false → results t = []
  answered : results t = [] ∨ ∃ result, results t = [result] ∧ Explains d es t result
  carried : ∀ result, x.exchange.Carries result → Explains d es t result

section Steps
variable {d : Deployment} {x x' : RestCall} {e : RestEvent} {f : ExchangeEvent}
  {es : List RestEvent} {t out : List RestOutput}

theorem tells_start (d : Deployment) (plan : RestPlan) : Tells d [] (start plan) [] where
  coherent := Exchange.coherent_start plan.kind
  bodied body hbody := by cases hbody
  uncontacted := iff_of_true rfl rfl
  contacted := .inl rfl
  unanswered _ := rfl
  answered := .inl rfl
  carried result hcarried := by
    rcases hcarried with h | h | h | h
    all_goals cases h

theorem Sends.mono {plan : RestPlan} {request : UpstreamRequest} (h : Sends d es plan request)
    (more : List RestEvent) : Sends d (es ++ more) plan request := by
  obtain ⟨chunks, body, hmem, hread⟩ := h
  exact ⟨chunks, body, List.mem_append_left _ hmem, hread⟩

theorem Explains.mono {result : ExchangeResult} (h : Explains d es t result) (more : List RestEvent)
    (out : List RestOutput) : Explains d (es ++ more) (t ++ out) result := by
  intro response hresponse
  obtain ⟨hcontacts, head, chunks, hmem, hwork⟩ := h response hresponse
  refine ⟨?_, head, chunks, List.mem_append_left _ hmem, hwork⟩
  rw [contacts_append]
  exact List.append_ne_nil_of_left_ne_nil hcontacts _

theorem explains_error (error : RelayError) : Explains d es t (.error error) := by
  intro response hresponse
  cases hresponse

theorem contacts_step (hstep : RestStep d x e f x' out) (h : Tells d es x t) :
    contacts out = [] ∧ f ≠ .spawn ∨
      f = .spawn ∧ ∃ request, contacts out = [request] ∧ Sends d es x.plan request := by
  cases hstep with
  | read hread => exact .inl ⟨rfl, by simp⟩
  | build hbody hcomplete =>
    obtain ⟨chunks, hmem, hread⟩ := h.bodied _ hbody
    exact .inr ⟨rfl, _, rfl, chunks, _, hmem, hread, hcomplete⟩
  | work head chunks => exact .inl ⟨rfl, by simp⟩
  | plain hmatches hread hspawn hwork => exact .inl ⟨contacts_plain _, hspawn⟩

/-- What is answered has been carried before. -/
theorem results_step (he : x.exchange.Enabled f) (hstep : RestStep d x e f x' out)
    (h : Tells d es x t) :
    results out = [] ∨ x.exchange.handler.isDone = false ∧
      ∃ result, results out = [result] ∧ Explains d es t result := by
  cases hstep with
  | read hread => exact .inl rfl
  | build hbody hcomplete => exact .inl rfl
  | work head chunks => exact .inl rfl
  | plain hmatches hread hspawn hwork =>
    by_cases hsilent : ∀ result, .respond result ∉ x.exchange.outputs f
    · exact .inl (results_plain hsilent)
    · push Not at hsilent
      obtain ⟨result, hresult⟩ := hsilent
      obtain ⟨houtputs, hdone, hcarried⟩ := responds he hresult
      refine .inr ⟨hdone, result, by rw [houtputs]; rfl, ?_⟩
      rcases hcarried with hcarried | ⟨error, rfl⟩
      · exact h.carried result hcarried
      · exact explains_error error

theorem bodied_step (hstep : RestStep d x e f x' out) (h : Tells d es x t) {body : List UInt8}
    (hbody : x'.body = some body) : ∃ chunks, .read (some chunks) ∈ es ++ [e] ∧
      readCapped d.config.limits.requestBytes [] chunks = .ok body := by
  have hold : x.body = some body → ∃ chunks, .read (some chunks) ∈ es ++ [e] ∧
      readCapped d.config.limits.requestBytes [] chunks = .ok body := by
    intro hbefore
    obtain ⟨chunks, hmem, hread⟩ := h.bodied body hbefore
    exact ⟨chunks, List.mem_append_left _ hmem, hread⟩
  cases hstep with
  | read hread =>
    cases hbody
    exact ⟨_, List.mem_append_right es List.mem_cons_self, hread⟩
  | _ => exact hold hbody

theorem contacted_step (he : x.exchange.Enabled f) (hstep : RestStep d x e f x' out)
    (h : Tells d es x t) : contacts (t ++ out) = [] ∨
      ∃ request, contacts (t ++ out) = [request] ∧ Sends d (es ++ [e]) x'.plan request := by
  rw [contacts_append, (follows hstep).1]
  rcases contacts_step hstep h with ⟨hnone, -⟩ | ⟨rfl, request, hsent, hsends⟩
  · rw [hnone, List.append_nil]
    refine h.contacted.imp_right ?_
    rintro ⟨request, hsent, hsends⟩
    exact ⟨request, hsent, hsends.mono [e]⟩
  · -- the task is absent before it is spawned
    have habsent := h.coherent.held.early (by rw [he]; rfl)
    rw [h.uncontacted.mpr habsent, hsent]
    exact .inr ⟨request, rfl, hsends.mono [e]⟩

theorem answered_step (he : x.exchange.Enabled f) (hstep : RestStep d x e f x' out)
    (h : Tells d es x t) : results (t ++ out) = [] ∨
      ∃ result, results (t ++ out) = [result] ∧ Explains d (es ++ [e]) (t ++ out) result := by
  rw [results_append]
  rcases results_step he hstep h with hnone | ⟨hdone, result, hgiven, hexplains⟩
  · rw [hnone, List.append_nil]
    refine h.answered.imp_right ?_
    rintro ⟨result, hgiven, hexplains⟩
    exact ⟨result, hgiven, hexplains.mono [e] out⟩
  · rw [h.unanswered hdone, hgiven]
    exact .inr ⟨result, rfl, hexplains.mono [e] out⟩

/-- A new result is what the upstream has answered in this step, or an error. -/
theorem carried_step (he : x.exchange.Enabled f) (hstep : RestStep d x e f x' out)
    (h : Tells d es x t) {result : ExchangeResult} (hcarried : x'.exchange.Carries result) :
    Explains d (es ++ [e]) (t ++ out) result := by
  rw [(follows hstep).2] at hcarried
  rcases carries_next he hcarried with hbefore | rfl | ⟨error, rfl⟩
  · exact (h.carried result hbefore).mono [e] out
  · cases hstep with
    | work head chunks =>
      intro response hresponse
      refine ⟨?_, head, chunks, List.mem_append_right es List.mem_cons_self, hresponse⟩
      have hchecked : x.exchange.task = .checked := he.1
      have hcontacted : contacts t ≠ [] := h.uncontacted.not.mpr (by simp [hchecked])
      rw [contacts_append]
      exact List.append_ne_nil_of_left_ne_nil hcontacted _
    | plain hmatches hread hspawn hwork => exact absurd rfl (hwork result)
  · exact explains_error error

theorem tells_step (he : x.exchange.Enabled f) (hstep : RestStep d x e f x' out)
    (h : Tells d es x t) : Tells d (es ++ [e]) x' (t ++ out) where
  coherent := by
    rw [(follows hstep).2]
    exact Exchange.coherent_next h.coherent he
  bodied body hbody := bodied_step hstep h hbody
  uncontacted := by
    rw [contacts_append, List.append_eq_nil_iff, (follows hstep).2, task_absent_next he,
      h.uncontacted]
    rcases contacts_step hstep h with ⟨hnone, hspawn⟩ | ⟨rfl, request, hsent, -⟩
    · simp [hnone, hspawn]
    · simp [hsent]
  contacted := contacted_step he hstep h
  unanswered hdone := by
    rw [(follows hstep).2] at hdone
    obtain ⟨hbefore, hsilent⟩ := done_next he hdone
    rw [results_append, h.unanswered hbefore]
    cases hstep with
    | plain hmatches hread hspawn hwork => exact results_plain hsilent
    | _ => rfl
  answered := answered_step he hstep h
  carried result hcarried := carried_step he hstep h hcarried

end Steps

section Runs
variable {d : Deployment} {plan : RestPlan} {es : List RestEvent} {x : RestCall}
  {t : List RestOutput}

theorem tells_run (hrun : (machine d).run (start plan) es = some (x, t)) :
    x.plan = plan ∧ Tells d es x t := by
  refine (machine d).run_history (P := fun es x t => x.plan = plan ∧ Tells d es x t)
    ⟨rfl, tells_start d plan⟩ ?_ hrun
  intro es x t e x' out _ hx hstep
  obtain ⟨rfl, htells⟩ := hx
  obtain ⟨f, henabled, hkind⟩ := restStep_of_step hstep
  exact ⟨(follows hkind).1, tells_step henabled hkind htells⟩

theorem Tells.sends_of_mem {request : UpstreamRequest} (h : Tells d es x t)
    (hmem : .contact request ∈ t) : Sends d es x.plan request := by
  have hcontact : request ∈ contacts t := List.mem_filterMap.mpr ⟨_, hmem, rfl⟩
  rcases h.contacted with hnone | ⟨request', hone, hsends⟩
  · rw [hnone] at hcontact
    cases hcontact
  · rw [hone, List.mem_singleton] at hcontact
    exact hcontact ▸ hsends

theorem Tells.explains_of_mem {result : ExchangeResult} (h : Tells d es x t)
    (hmem : .respond result ∈ t) : Explains d es t result := by
  have hresult : result ∈ results t := List.mem_filterMap.mpr ⟨_, hmem, rfl⟩
  rcases h.answered with hnone | ⟨result', hone, hexplains⟩
  · rw [hnone] at hresult
    cases hresult
  · rw [hone, List.mem_singleton] at hresult
    exact hresult ▸ hexplains

/-- One contact and one answer at most. -/
theorem Tells.counts (h : Tells d es x t) :
    (contacts t).length ≤ 1 ∧ (results t).length ≤ 1 := by
  constructor
  · rcases h.contacted with hnone | ⟨request, hone, -⟩
    · exact hnone ▸ Nat.zero_le 1
    · exact hone ▸ Nat.le_refl 1
  · rcases h.answered with hnone | ⟨result, hone, -⟩
    · exact hnone ▸ Nat.zero_le 1
    · exact hone ▸ Nat.le_refl 1

end Runs

section Refinement
variable {d : Deployment} {x x' : RestCall} {e : RestEvent} {f : ExchangeEvent}
  {out : List RestOutput}

theorem toExchange_plain {out : List ExchangeOutput} (h : .contactUpstream ∉ out) :
    (out.filterMap RestOutput.ofExchange).map RestOutput.toExchange = out := by
  induction out with
  | nil => rfl
  | cons o out ih =>
    rw [List.mem_cons, not_or] at h
    obtain ⟨hhead, htail⟩ := h
    cases o with
    | contactUpstream => exact absurd rfl hhead
    | readBody => exact congrArg (ExchangeOutput.readBody :: ·) (ih htail)
    | respond result => exact congrArg (ExchangeOutput.respond result :: ·) (ih htail)

/-- A call shows what its exchange shows. -/
theorem outputs_step (hstep : RestStep d x e f x' out) :
    out.map RestOutput.toExchange = x.exchange.outputs f := by
  cases hstep with
  | read hread => rfl
  | build hbody hcomplete => rfl
  | work head chunks => rfl
  | plain hmatches hread hspawn hwork =>
    apply toExchange_plain
    cases f with
    | spawn => exact absurd rfl hspawn
    | acquire permitted => cases permitted <;> simp [Exchange.outputs]
    | _ => simp [Exchange.outputs]

end Refinement

end RestCall

abbrev RestCalls := PermitPool RestCall

def restCallsMachine (d : Deployment) :
    TraceMachine RestCalls (PoolEvent RestPlan RestEvent) (Nat × RestOutput) :=
  (RestCall.user d).pool

/-- The exchanges of the calls, around the same semaphore. -/
def RestCalls.requests (s : RestCalls) : Requests := ⟨s.available, s.members.map (·.exchange)⟩

section Pool
variable {d : Deployment} {limit : Nat} {es : List (PoolEvent RestPlan RestEvent)} {s : RestCalls}
  {t : List (Nat × RestOutput)}

/-- Without their data, the calls are the exchanges of the request permits. -/
theorem calls_refine_requests (hrun : (restCallsMachine d).run (startPool limit) es = some (s, t)) :
    ∃ fs, Requests.machine.run (Requests.start limit) fs =
      some (s.requests, t.map fun o => (o.1, o.2.toExchange)) := by
  have hrefines := run_refines (N := Requests.machine) (P := fun _ => True)
    (f := RestCalls.requests) (h := fun o : Nat × RestOutput => [(o.1, o.2.toExchange)]) trivial ?_ hrun
  · obtain ⟨-, fs, hfs⟩ := hrefines
    rw [← List.map_eq_flatMap] at hfs
    exact ⟨fs, hfs⟩
  · intro s e s' out _ hstep
    refine ⟨trivial, ?_⟩
    cases e with
    | join plan =>
      obtain ⟨rfl, rfl⟩ := (RestCall.user d).pool_join.mp hstep
      refine ⟨[.arrive plan.kind], run_singleton (Requests.machine_arrive.mpr ⟨?_, rfl⟩)⟩
      rw [RestCalls.requests, List.map_append]
      rfl
    | act i e =>
      obtain ⟨x, x', o, hx, hact, hanswers, rfl, rfl⟩ := (RestCall.user d).pool_act.mp hstep
      obtain ⟨f, henabled, hkind⟩ := RestCall.restStep_of_step hact
      obtain ⟨htaken, hgiven, hsemaphore⟩ :=
        RestCall.permits_match (d := d) (RestCall.matches_of_step hkind)
      refine ⟨[.exchange i f], run_singleton (Requests.machine_exchange.mpr
        ⟨x.exchange, ?_, henabled, hsemaphore s.requests hanswers, ?_, ?_⟩)⟩
      · rw [RestCalls.requests, List.getElem?_map, hx]
        rfl
      · rw [RestCalls.requests, RestCalls.requests, htaken, hgiven, ← PermitEffect.apply_eq,
          List.map_set, (RestCall.follows hkind).2]
      · rw [← RestCall.outputs_step hkind, List.map_map, ← List.map_eq_flatMap, List.map_map]
        rfl

theorem calls_conserved (hrun : (restCallsMachine d).run (startPool limit) es = some (s, t)) :
    s.requests.Conserved limit := by
  obtain ⟨fs, hfs⟩ := calls_refine_requests hrun
  exact Requests.conserved_run hfs

end Pool

end GptLiveProxy
