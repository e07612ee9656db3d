import GptLiveProxy.Boundary
import GptLiveProxy.ServiceRuns

/-!
# What the clients of calls are answered

An answer that is not an error is the upstream's own: it came in whole, within the cap, to the
contact of the same call, and the client sees its status, its body, and the headers that the
handler relays. No call is answered with what another call's upstream has said.
-/

namespace GptLiveProxy
open PermitUser

section Bodies
variable {cap : Nat}

/-- A body that is read has arrived in whole, chunk by chunk. -/
theorem readResponse_ok {buffer body : List UInt8} {chunks : List (Except String (List UInt8))}
    (h : readResponse cap buffer chunks = .ok body) (hbuffer : min buffer.length USIZE_MAX ≤ cap) :
    ∃ kept : List (List UInt8), chunks = kept.map Except.ok ∧ body = buffer ++ kept.flatten ∧
      min body.length USIZE_MAX ≤ cap := by
  induction chunks generalizing buffer with
  | nil =>
    cases h
    exact ⟨[], rfl, (List.append_nil _).symm, hbuffer⟩
  | cons chunk chunks ih =>
    cases chunk with
    | error message => cases h
    | ok chunk =>
      simp only [readResponse] at h
      split_ifs at h with hempty hlarge
      · obtain ⟨kept, rfl, hbody, hle⟩ := ih h hbuffer
        exact ⟨chunk :: kept, rfl, by rw [hbody, hempty, List.flatten_cons, List.nil_append], hle⟩
      · have hnext : min (buffer ++ chunk).length USIZE_MAX ≤ cap := by
          rw [List.length_append]
          exact Nat.not_lt.mp hlarge
        obtain ⟨kept, rfl, hbody, hle⟩ := ih h hnext
        exact ⟨chunk :: kept, rfl, by rw [hbody, List.flatten_cons, List.append_assoc], hle⟩

theorem executeCapped_ok {head : Except String (UInt16 × HeaderMap)}
    {chunks : List (Except String (List UInt8))} {response : OpaqueResponse}
    (h : executeCapped cap head chunks = .ok response) :
    head = .ok (response.status, response.headers) ∧
      ∃ kept : List (List UInt8), chunks = kept.map Except.ok ∧ response.body = kept.flatten ∧
        min response.body.length USIZE_MAX ≤ cap := by
  cases head with
  | error message => cases h
  | ok parts =>
    simp only [executeCapped] at h
    cases hread : readResponse cap [] chunks with
    | error error =>
      rw [hread] at h
      cases h
    | ok body =>
      rw [hread] at h
      cases h
      exact ⟨rfl, readResponse_ok hread (Nat.zero_le _)⟩

end Bodies

namespace RestCall
variable {d : Deployment} {x x' : RestCall} {e : RestEvent} {out : List RestOutput}
  {response : OpaqueResponse}

theorem respond_step (hstep : x.step d e = some (x', out))
    (h : RestOutput.respond (.ok response) ∈ out) : x.exchange.Carries (.ok response) := by
  obtain ⟨f, henabled, hkind⟩ := restStep_of_step hstep
  have hresult : .respond (.ok response) ∈ x.exchange.outputs f := by
    rw [← outputs_step hkind]
    exact List.mem_map.mpr ⟨_, h, rfl⟩
  rcases (responds henabled hresult).2.2 with hcarried | ⟨error, herror⟩
  · exact hcarried
  · cases herror

end RestCall

namespace Service

/-- The upstream has answered the call so, in whole and within the cap. -/
def Came (d : Deployment) (es : List ServiceEvent) (i : Nat) (response : OpaqueResponse) : Prop :=
  ∃ kept : List (List UInt8),
    .call i (.work (.ok (response.status, response.headers)) (kept.map .ok)) ∈ es ∧
      response.body = kept.flatten ∧
      min response.body.length USIZE_MAX ≤ d.config.limits.responseBytes

section Steps
variable {d : Deployment} {s s' : Service} {e : ServiceEvent} {es : List ServiceEvent}
  {t out : List ServiceOutput}

theorem came_of_work {i : Nat} {head : Except String (UInt16 × HeaderMap)}
    {chunks : List (Except String (List UInt8))} {response : OpaqueResponse}
    (hmem : .call i (.work head chunks) ∈ es)
    (h : executeCapped d.config.limits.responseBytes head chunks = .ok response) :
    Came d es i response := by
  obtain ⟨rfl, kept, rfl, hbody, hle⟩ := executeCapped_ok h
  exact ⟨kept, hmem, hbody, hle⟩

theorem call_came (h : Sound d es s t) {i : Nat} {response : OpaqueResponse}
    (hmem : .call i (.respond (.ok response)) ∈ t) : Came d es i response := by
  obtain ⟨x, hx⟩ := h.calls.member_of_mem (mem_callTrace.mpr hmem)
  obtain ⟨r, plan, -, -, hfs⟩ := h.calls.member hx
  have hexplains := (RestCall.tells_run hfs).2.explains_of_mem
    ((mem_outputsAt i).mpr (mem_callTrace.mpr hmem))
  obtain ⟨-, head, chunks, hwork, hread⟩ := hexplains response rfl
  exact came_of_work (call_of_acts hwork) hread

def Contacted (front : List ServiceOutput) : ServiceOutput → Prop
  | .call i (.respond (.ok _)) => ∃ request, .call i (.contact request) ∈ front
  | _ => True

theorem Contacted.mono {front : List ServiceOutput} {o : ServiceOutput} (h : Contacted front o)
    (more : List ServiceOutput) : Contacted (front ++ more) o := by
  unfold Contacted at h ⊢
  split
  · obtain ⟨request, hmem⟩ := h
    exact ⟨request, List.mem_append_left _ hmem⟩
  · trivial

theorem contacted_new (hstep : ServiceStep d s e s' out) (h : Sound d es s t) {i : Nat}
    {response : OpaqueResponse} (hmem : .call i (.respond (.ok response)) ∈ out) :
    ∃ request, .call i (.contact request) ∈ t := by
  cases hstep with
  | call hstep =>
    obtain ⟨x, x', o, hx, hact, -, -, rfl⟩ := (RestCall.user d).pool_act.mp hstep
    rw [← mem_callTrace, (call_traces _).1, List.mem_map] at hmem
    obtain ⟨p, hp, hpair⟩ := hmem
    obtain ⟨rfl, rfl⟩ := Prod.mk.inj hpair
    obtain ⟨r, plan, -, -, hfs⟩ := h.calls.member hx
    have hexplains := (RestCall.tells_run hfs).2.carried _ (RestCall.respond_step hact hp)
    obtain ⟨request, hcontact⟩ := List.exists_mem_of_ne_nil _ (hexplains response rfl).1
    exact ⟨request, call_of_contacts hcontact⟩
  | socket hstep =>
    rw [← mem_callTrace, (socket_traces _).1] at hmem
    cases hmem
  | _ => simp [answer] at hmem

theorem contacted_run (hrun : (machine d).run (start d.config.limits) es = some (s, t)) :
    ∀ front o back, t = front ++ o :: back → Contacted front o := by
  refine TraceMachine.run_precedes (P := Sound d) (R := fun _ => Contacted) (sound_start d) ?_ ?_ ?_
    ?_ hrun
  · intro es s t e s' out h hstep
    exact sound_step (serviceStep_of_step hstep) h
  · intro es s t e s' out o h hstep ho
    unfold Contacted
    split
    · exact contacted_new (serviceStep_of_step hstep) h ho
    · trivial
  · intro s e s' out front o _ h
    exact h
  · intro s front more o h
    exact h.mono more

end Steps

end Service

/-- What the client of a call receives for its result. -/
def deliver (d : Deployment) (r : Inbound) (kind : HandlerKind) (result : ExchangeResult) : Response :=
  applyCors d.uris d.config r.headers (kind.response result)

def HandlerKind.relayed (kind : HandlerKind) (upstream : HeaderMap) (name : HeaderName) :
    List HeaderValue :=
  match kind with
  | .official =>
    if isRelayedName RESPONSE_HEADER_ALLOWLIST name = true then upstream.getAll name else []
  | .privateCall => if name ∈ RELAY_HEADERS then (relayedValue upstream name).toList else []

/-- The client sees the status and the body of the response, and beside the proxy's own headers the
relayed ones. -/
structure Shows (kind : HandlerKind) (response : OpaqueResponse) (given : Response) : Prop where
  status : given.status = response.status.toNat
  body : given.body = .bytes response.body
  headers : ∀ name, name ∉ CORS_HEADERS →
    given.headers.getAll name = kind.relayed response.headers name

theorem shows_deliver (d : Deployment) (r : Inbound) (kind : HandlerKind)
    (response : OpaqueResponse) : Shows kind response (deliver d r kind (.ok response)) := by
  cases kind with
  | official =>
    refine ⟨rfl, rfl, ?_⟩
    intro name hname
    rw [deliver, getAll_applyCors_of_notMem _ hname]
    exact getAll_responseHeaders response.headers name
  | privateCall =>
    refine ⟨rfl, rfl, ?_⟩
    intro name hname
    rw [deliver, getAll_applyCors_of_notMem _ hname]
    exact getAll_relayCallResponse name response

/-- Whatever the other requests do, a call is answered with an error or with what the upstream has
answered to the contact made before for this same call, in whole and within the cap; of it the
client sees the status, the body, and the relayed headers. -/
theorem answers_are_relayed {d : Deployment} {es : List ServiceEvent} {s : Service}
    {t : List ServiceOutput}
    (hrun : (Service.machine d).run (Service.start d.config.limits) es = some (s, t)) :
    ∀ front i result back, t = front ++ .call i (.respond result) :: back →
      ∃ r x, s.callers[i]? = some r ∧ s.calls.members[i]? = some x ∧
        ((∃ error, result = .error error) ∨
          ∃ response, result = .ok response ∧ Service.Came d es i response ∧
            (∃ request, .call i (.contact request) ∈ front) ∧
            Shows x.plan.kind response (deliver d r x.plan.kind result)) := by
  intro front i result back hsplit
  have hmem : .call i (.respond result) ∈ t := by
    rw [hsplit]
    exact List.mem_append_right _ List.mem_cons_self
  have hsound := Service.sound_run hrun
  obtain ⟨x, hx⟩ := hsound.calls.member_of_mem (Service.mem_callTrace.mpr hmem)
  obtain ⟨r, plan, hr, -, -⟩ := hsound.calls.member hx
  refine ⟨r, x, hr, hx, ?_⟩
  cases result with
  | error error => exact .inl ⟨error, rfl⟩
  | ok response =>
    exact .inr ⟨response, rfl, Service.call_came hsound hmem,
      Service.contacted_run hrun front _ back hsplit, shows_deliver d r x.plan.kind response⟩

section Samples

def sampleAnswer : OpaqueResponse := ⟨200, .empty, [1, 2, 3]⟩

def answeredCall : List ServiceEvent :=
  [.arrive secretRequest, .enter 0 sampleClient, .call 0 (.exchange (.acquire true)),
    .call 0 (.read (some [.ok []])), .call 0 .build, .call 0 (.exchange .pollWork),
    .call 0 (.work (.ok (200, .empty)) [.ok [1, 2], .ok [3]]),
    .call 0 (.exchange (.record (.ok sampleAnswer))),
    .call 0 (.exchange (.taskReturn (.ok sampleAnswer))),
    .call 0 (.exchange (.receive (.ok sampleAnswer))),
    .call 0 (.exchange (.respond (.ok sampleAnswer)))]

end Samples

theorem answered_call_is_relayed : ∃ s t front back request,
    (Service.machine sampleDeployment).run (Service.start sampleDeployment.config.limits)
        answeredCall = some (s, t) ∧
      t = front ++ .call 0 (.respond (.ok sampleAnswer)) :: back ∧
      .call 0 (.contact request) ∈ front ∧
      Service.Came sampleDeployment answeredCall 0 sampleAnswer := by
  obtain ⟨s, t, hrun, hresults⟩ := TraceMachine.exists_run_of_any
    (show ((Service.machine sampleDeployment).run (Service.start sampleDeployment.config.limits)
      answeredCall).any (fun r => (RestCall.results (outputsAt 0 (Service.callTrace r.2))).contains
        (.ok sampleAnswer)) = true by decide +kernel)
  have hmem : .call 0 (.respond (.ok sampleAnswer)) ∈ t := by
    obtain ⟨o, ho, hshown⟩ := List.mem_filterMap.mp (List.contains_iff_mem.mp hresults)
    cases o with
    | respond result =>
      cases hshown
      exact Service.mem_callTrace.mp ((mem_outputsAt 0).mp ho)
    | _ => cases hshown
  obtain ⟨front, back, hsplit⟩ := List.append_of_mem hmem
  obtain ⟨r, x, -, -, ⟨error, herror⟩ | ⟨response, hresponse, hcame, ⟨request, hcontact⟩, -⟩⟩ :=
    answers_are_relayed hrun front 0 _ back hsplit
  · cases herror
  · cases hresponse
    exact ⟨s, t, front, back, request, hrun, hsplit, hcontact, hcame⟩

end GptLiveProxy
