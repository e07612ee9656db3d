import GptLiveProxy.ServiceAnswers

/-!
# The service behind its boundary

The service takes the middleware apart: the two reads of the drain flag are steps of their own, and
the handler goes on long after them. What it answers is nevertheless what the middleware returns
around the handler of the request, in any monad, with the reads of the flag that the run has made.
-/

namespace GptLiveProxy
open PermitUser

namespace Inbound

section Through
variable {m : Type → Type} [Monad m] (d : Deployment) (drain : DrainReads) (r : Inbound)
  (handler : m Response)

def served : m Response :=
  if routeOf r.uri.path = .protectedFallback then pure r.unknown.intoResponse else handler

def throughBoundary : m Response :=
  if routeOf r.uri.path = .protectedFallback then
    protectedFallback d.uris d.config drain r.method r.uri.path r.headers
  else boundaryMiddleware d.uris d.config drain r.method r.headers handler

theorem throughBoundary_eq :
    r.throughBoundary d drain handler =
      protect d.uris d.config drain r.method r.headers r.kind (r.served handler) := by
  unfold throughBoundary served kind
  split_ifs with hfallback
  · rfl
  · rfl

end Through

/-- With the flag unset at both reads the handler runs, and its response gets the CORS headers. -/
def Passes (d : Deployment) (r : Inbound) : Prop :=
  ∀ (m : Type → Type) [Monad m] (handler : m Response),
    r.throughBoundary d ⟨false, false⟩ handler =
      r.served handler >>= fun response => pure (applyCors d.uris d.config r.headers response)

/-- The boundary answers by itself, whatever the handler would do. -/
def Settled (d : Deployment) (drain : DrainReads) (r : Inbound) (response : Response) : Prop :=
  ∀ (m : Type → Type) [Monad m] (handler : m Response),
    r.throughBoundary d drain handler = pure response

/-- The response is what the middleware returns when the handler answers so. -/
def Relays (d : Deployment) (r : Inbound) (handled response : Response) : Prop :=
  ∀ (m : Type → Type) [Monad m] [LawfulMonad m],
    r.throughBoundary d ⟨false, false⟩ (pure handled : m Response) = pure response

variable {d : Deployment} {drain : DrainReads} {r : Inbound}

theorem passes_of_guard (hmethod : r.method ≠ .options)
    (hguard : guard d.uris r.headers d.config false r.kind = .ok ()) : r.Passes d := by
  intro m _ handler
  rw [throughBoundary_eq]
  rcases handler_runs_behind_boundary (m := m) d.uris d.config ⟨false, false⟩ r.method r.headers
    r.kind with ⟨-, -, -, hruns⟩ | ⟨answer, hanswer, -⟩
  · exact hruns (r.served handler)
  · exfalso
    rcases hanswer with ⟨hdrain, -⟩ | ⟨-, hoptions, -⟩ | ⟨-, -, error, herror, -⟩
    · cases hdrain
    · exact hmethod hoptions
    · cases hguard.symm.trans herror

theorem settled_of_answer {answer : Response}
    (h : boundaryAnswer d.uris d.config drain r.method r.headers r.kind = some answer) :
    r.Settled d drain (applyCors d.uris d.config r.headers answer) := by
  intro m _ handler
  rw [throughBoundary_eq, protect, h]

theorem Passes.relays (h : r.Passes d) {handled : Response}
    (hserved : routeOf r.uri.path = .protectedFallback → handled = r.unknown.intoResponse) :
    r.Relays d handled (applyCors d.uris d.config r.headers handled) := by
  intro m _ _
  rw [h m, served]
  split_ifs with hfallback
  · rw [pure_bind, hserved hfallback]
  · rw [pure_bind]

theorem Passes.relays_of_route (h : r.Passes d) (hroute : routeOf r.uri.path ≠ .protectedFallback)
    (handled : Response) : r.Relays d handled (applyCors d.uris d.config r.headers handled) :=
  h.relays fun hfallback => absurd hfallback hroute

/-- No answer is settled for a request that passes to a handler: the handler may never answer. -/
theorem Passes.not_settled (h : r.Passes d) (hroute : routeOf r.uri.path ≠ .protectedFallback)
    (response : Response) : ¬ r.Settled d ⟨false, false⟩ response := by
  intro hsettled
  have hnever := (h Option none).symm.trans (hsettled Option none)
  rw [served, if_neg hroute] at hnever
  cases hnever

theorem handlerAnswer_fallback {clientRequest : ClientRequest} {handled : Response}
    (h : handlerAnswer (dispatch d clientRequest r) = some handled)
    (hfallback : routeOf r.uri.path = .protectedFallback) : handled = r.unknown.intoResponse := by
  rw [dispatch, hfallback] at h
  exact (Option.some.inj h).symm

end Inbound

theorem Admitted.passes {d : Deployment} {t : List ServiceOutput} {r : Inbound}
    (h : Admitted d t r) : r.Passes d :=
  Inbound.passes_of_guard h.method h.guarded

namespace Service
variable {d : Deployment} {s s' : Service} {e : ServiceEvent} {es : List ServiceEvent}
  {t out : List ServiceOutput}

/-- What is answered at once is the boundary's own answer, with a flag that is set only once a drain
has begun, or the handler's answer behind the boundary. -/
def Returned (d : Deployment) (front : List ServiceOutput) : ServiceOutput → Prop
  | .answered r response =>
    (∃ drain : DrainReads, (drain.before = true ∨ drain.after = true → .drained ∈ front) ∧
      r.Settled d drain response) ∨
    ∃ clientRequest handled, handlerAnswer (dispatch d clientRequest r) = some handled ∧
      r.Passes d ∧ r.Relays d handled response
  | _ => True

theorem Returned.mono {front : List ServiceOutput} {o : ServiceOutput} (h : Returned d front o)
    (more : List ServiceOutput) : Returned d (front ++ more) o := by
  cases o with
  | answered r response =>
    rcases h with ⟨drain, hdrain, hsettled⟩ | hhandled
    · exact .inl ⟨drain, fun hset => List.mem_append_left more (hdrain hset), hsettled⟩
    · exact .inr hhandled
  | _ => trivial

theorem returned_new (hstep : ServiceStep d s e s' out) (h : Sound d es s t) {o : ServiceOutput}
    (ho : o ∈ out) : Returned d t o := by
  cases hstep with
  | refuse hprobe hboundary =>
    obtain rfl := List.mem_singleton.mp ho
    refine .inl ⟨⟨s.draining, s.draining⟩, ?_, Inbound.settled_of_answer (hboundary s.draining)⟩
    rintro (hbefore | hafter)
    · exact h.drained.mp hbefore
    · exact h.drained.mp hafter
  | @reject i clientRequest r error hwaiting hguard =>
    obtain rfl := List.mem_singleton.mp ho
    refine .inl ⟨⟨false, s.draining⟩, ?_, Inbound.settled_of_answer ?_⟩
    · rintro (hbefore | hafter)
      · cases hbefore
      · exact h.drained.mp hafter
    · rw [boundaryAnswer, if_neg Bool.false_ne_true,
        if_neg (h.waiting r (List.mem_of_getElem? hwaiting)), hguard]
  | reply hwaiting hcleared hanswer =>
    have hwaits := List.mem_of_getElem? hwaiting
    have hpasses := (admitted_of_cleared h hwaits hcleared []).passes
    rcases List.mem_pair.mp ho with rfl | rfl
    · trivial
    · exact .inr ⟨_, _, hanswer, hpasses,
        hpasses.relays (Inbound.handlerAnswer_fallback hanswer)⟩
  | crash hwaiting hcleared hpanic =>
    rcases List.mem_pair.mp ho with rfl | rfl
    · trivial
    · trivial
  | wait hprobe hdraining hmethod => cases ho
  | drain | startCall hwaiting hcleared hdispatch | startSocket hwaiting hcleared hdispatch =>
    obtain rfl := List.mem_singleton.mp ho
    trivial
  | call hstep | socket hstep =>
    obtain ⟨p, -, rfl⟩ := List.mem_map.mp ho
    trivial

theorem admitted_new (hstep : ServiceStep d s e s' out) (h : Sound d es s t) {r : Inbound}
    (hr : .admitted r ∈ out) : Admitted d (t ++ out) r := by
  cases hstep with
  | reply hwaiting hcleared hanswer =>
    obtain rfl : r = _ := by simpa [answer] using hr
    exact admitted_of_cleared h (List.mem_of_getElem? hwaiting) hcleared _
  | crash hwaiting hcleared hpanic =>
    obtain rfl : r = _ := by simpa using hr
    exact admitted_of_cleared h (List.mem_of_getElem? hwaiting) hcleared _
  | startCall hwaiting hcleared hdispatch | startSocket hwaiting hcleared hdispatch =>
    obtain rfl : r = _ := by simpa using hr
    exact admitted_of_cleared h (List.mem_of_getElem? hwaiting) hcleared _
  | _ => simp [answer] at hr

theorem admitted_run (hrun : (machine d).run (start d.config.limits) es = some (s, t)) :
    Sound d es s t ∧ ∀ r, .admitted r ∈ t → Admitted d t r := by
  refine (machine d).run_history (P := fun es s t => Sound d es s t ∧
    ∀ r, .admitted r ∈ t → Admitted d t r) ⟨sound_start d, fun r hr => by cases hr⟩ ?_ hrun
  intro es s t e s' out _ hs hstep
  obtain ⟨hsound, hadmitted⟩ := hs
  have hkind := serviceStep_of_step hstep
  refine ⟨sound_step hkind hsound, ?_⟩
  intro r hr
  rcases List.mem_append.mp hr with hold | hnew
  · exact (hadmitted r hold).mono out
  · exact admitted_new hkind hsound hnew

theorem returned_run (hrun : (machine d).run (start d.config.limits) es = some (s, t)) :
    ∀ front o back, t = front ++ o :: back → Returned d front o := by
  refine TraceMachine.run_precedes (P := Sound d) (R := fun _ => Returned d) (sound_start d) ?_ ?_
    ?_ ?_ hrun
  · intro es s t e s' out h hstep
    exact sound_step (serviceStep_of_step hstep) h
  · intro es s t e s' out o h hstep ho
    exact returned_new (serviceStep_of_step hstep) h ho
  · intro s e s' out front o _ h
    exact h
  · intro s front more o h
    exact h.mono more

theorem caller_relays (h : Sound d es s t) {i : Nat} {o : RestOutput} (hmem : .call i o ∈ t) :
    ∃ r x, s.callers[i]? = some r ∧ s.calls.members[i]? = some x ∧
      ∀ handled, r.Relays d handled (applyCors d.uris d.config r.headers handled) := by
  obtain ⟨x, hx⟩ := h.calls.member_of_mem (mem_callTrace.mpr hmem)
  obtain ⟨r, plan, hr, ⟨clientRequest, hdispatch⟩, -⟩ := h.calls.member hx
  have hpasses := (h.admitted r (.inl (List.mem_of_getElem? hr))).passes
  have hroute : routeOf r.uri.path ≠ .protectedFallback := by simp [(dispatch_call hdispatch).1]
  exact ⟨r, x, hr, hx, hpasses.relays_of_route hroute⟩

theorem client_relays (h : Sound d es s t) {i : Nat} {o : ConnectionOutput}
    (hmem : .socket i o ∈ t) :
    ∃ r, s.clients[i]? = some r ∧
      ∀ handled, r.Relays d handled (applyCors d.uris d.config r.headers handled) := by
  obtain ⟨x, hx⟩ := h.sockets.member_of_mem (mem_socketTrace.mpr hmem)
  obtain ⟨r, plan, hr, ⟨k, clientRequest, -, hdispatch⟩, -⟩ := h.sockets.member hx
  have hpasses := (h.admitted r (.inr (List.mem_of_getElem? hr))).passes
  have hroute : routeOf r.uri.path ≠ .protectedFallback := by
    rcases dispatch_socket hdispatch with ⟨hroute, -⟩ | ⟨hroute, -⟩
    · simp [hroute]
    · simp [hroute]
  exact ⟨r, hr, hpasses.relays_of_route hroute⟩

end Service

/-- Whatever happens in the service, the middleware decides around every handler: behind it the
handler of an admitted request runs, what is answered at once it returns by itself or around the
handler's answer, and what a call or a socket answers it returns around that answer. -/
theorem answers_pass_the_boundary {d : Deployment} {es : List ServiceEvent} {s : Service}
    {t : List ServiceOutput}
    (hrun : (Service.machine d).run (Service.start d.config.limits) es = some (s, t)) :
    (∀ r, .admitted r ∈ t → Admitted d t r ∧ r.Passes d) ∧
      (∀ front r response back, t = front ++ .answered r response :: back →
        (∃ drain : DrainReads, (drain.before = true ∨ drain.after = true → .drained ∈ front) ∧
          r.Settled d drain response) ∨
        ∃ clientRequest handled, handlerAnswer (dispatch d clientRequest r) = some handled ∧
          r.Passes d ∧ r.Relays d handled response) ∧
      (∀ i result, .call i (.respond result) ∈ t →
        ∃ r x, s.callers[i]? = some r ∧ s.calls.members[i]? = some x ∧
          r.Relays d (x.plan.kind.response result) (deliver d r x.plan.kind result)) ∧
      ∀ i response, .socket i (.respond response) ∈ t ∨ .socket i (.switch response) ∈ t →
        ∃ r, s.clients[i]? = some r ∧
          r.Relays d response (applyCors d.uris d.config r.headers response) := by
  obtain ⟨hsound, hadmitted⟩ := Service.admitted_run hrun
  have hreturned := Service.returned_run hrun
  refine ⟨?_, ?_, ?_, ?_⟩
  · intro r hmem
    exact ⟨hadmitted r hmem, (hadmitted r hmem).passes⟩
  · intro front r response back hsplit
    exact hreturned front (.answered r response) back hsplit
  · intro i result hmem
    obtain ⟨r, x, hr, hx, hrelays⟩ := Service.caller_relays hsound hmem
    exact ⟨r, x, hr, hx, hrelays (x.plan.kind.response result)⟩
  · intro i response hmem
    rcases hmem with hrespond | hswitch
    · obtain ⟨r, hr, hrelays⟩ := Service.client_relays hsound hrespond
      exact ⟨r, hr, hrelays response⟩
    · obtain ⟨r, hr, hrelays⟩ := Service.client_relays hsound hswitch
      exact ⟨r, hr, hrelays response⟩

section Samples

def plainJoin : Inbound :=
  inboundOf .get "/v1/realtime/calls/rtc_1" (headersOf [("x-api-key", "secret".toList)])

/-- The handler refuses the join, and the drain catches the other request between the two reads. -/
def refusedDay : List ServiceEvent :=
  [.arrive plainJoin, .enter 0 sampleClient, .arrive secretRequest, .drain, .enter 0 sampleClient]

def refusals : List ServiceOutput :=
  [.admitted plainJoin, Service.answer sampleDeployment plainJoin plainJoin.unknown.intoResponse,
    .drained, Service.answer sampleDeployment secretRequest RelayError.draining.intoResponse]

end Samples

theorem refused_day_passes_the_boundary : ∃ s handled drain,
    (Service.machine sampleDeployment).run (Service.start sampleDeployment.config.limits)
        refusedDay = some (s, refusals) ∧
      Admitted sampleDeployment refusals plainJoin ∧ plainJoin.Passes sampleDeployment ∧
      plainJoin.Relays sampleDeployment handled (applyCors sampleDeployment.uris
        sampleDeployment.config plainJoin.headers plainJoin.unknown.intoResponse) ∧
      secretRequest.Settled sampleDeployment drain (applyCors sampleDeployment.uris
        sampleDeployment.config secretRequest.headers RelayError.draining.intoResponse) := by
  obtain ⟨s, hrun⟩ : ∃ s, (Service.machine sampleDeployment).run
      (Service.start sampleDeployment.config.limits) refusedDay = some (s, refusals) := ⟨_, rfl⟩
  obtain ⟨hadmitted, hanswered, -, -⟩ := answers_pass_the_boundary hrun
  obtain ⟨hbefore, hpasses⟩ := hadmitted plainJoin List.mem_cons_self
  have hroute : routeOf plainJoin.uri.path ≠ .protectedFallback := by decide +kernel
  rcases hanswered [.admitted plainJoin] plainJoin _ _ rfl with
    ⟨⟨before, after⟩, hflags, hsettled⟩ | ⟨_, handled, -, -, hrelays⟩
  · exfalso
    obtain ⟨rfl, rfl⟩ : before = false ∧ after = false := by simpa using hflags
    exact hpasses.not_settled hroute _ hsettled
  · rcases hanswered (refusals.take 3) secretRequest _ _ rfl with
      ⟨drain, -, hsettled⟩ | ⟨clientRequest, _, hhandled, -⟩
    · exact ⟨s, handled, drain, hrun, hbefore, hpasses, hrelays, hsettled⟩
    · cases show none = some _ from hhandled

end GptLiveProxy
