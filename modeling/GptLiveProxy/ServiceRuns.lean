import GptLiveProxy.AdmissionSecrecy
import GptLiveProxy.Service

/-!
# Runs of the service

Each of the two pools makes a run of its own inside a run of the service, and the requests of its
members are those the boundary has let through. So nothing is sent upstream for a request that the
guard has not admitted before any drain, and every request that has arrived is in exactly one place.
-/

namespace GptLiveProxy
open PermitUser

namespace Service

section Traces

def callTrace (t : List ServiceOutput) : List (Nat × RestOutput) :=
  t.filterMap fun
    | .call i o => some (i, o)
    | _ => none

def socketTrace (t : List ServiceOutput) : List (Nat × ConnectionOutput) :=
  t.filterMap fun
    | .socket i o => some (i, o)
    | _ => none

def callActs (es : List ServiceEvent) : List (Nat × RestEvent) :=
  es.filterMap fun
    | .call i e => some (i, e)
    | _ => none

def socketActs (es : List ServiceEvent) : List (Nat × ConnectionEvent) :=
  es.filterMap fun
    | .socket i e => some (i, e)
    | _ => none

/-- The requests that the boundary or a handler has answered at once. -/
def answeredOf (t : List ServiceOutput) : List Inbound :=
  t.filterMap fun
    | .answered r _ => some r
    | _ => none

def crashedOf (t : List ServiceOutput) : List Inbound :=
  t.filterMap fun
    | .crashed r => some r
    | _ => none

def arrivalsOf (es : List ServiceEvent) : List Inbound :=
  es.filterMap fun
    | .arrive r => some r
    | _ => none

variable (t u : List ServiceOutput)

@[simp] theorem callTrace_append : callTrace (t ++ u) = callTrace t ++ callTrace u :=
  List.filterMap_append

@[simp] theorem socketTrace_append : socketTrace (t ++ u) = socketTrace t ++ socketTrace u :=
  List.filterMap_append

@[simp] theorem answeredOf_append : answeredOf (t ++ u) = answeredOf t ++ answeredOf u :=
  List.filterMap_append

@[simp] theorem crashedOf_append : crashedOf (t ++ u) = crashedOf t ++ crashedOf u :=
  List.filterMap_append

@[simp] theorem arrivalsOf_append (es fs : List ServiceEvent) :
    arrivalsOf (es ++ fs) = arrivalsOf es ++ arrivalsOf fs := List.filterMap_append

@[simp] theorem callActs_append (es fs : List ServiceEvent) :
    callActs (es ++ fs) = callActs es ++ callActs fs := List.filterMap_append

@[simp] theorem socketActs_append (es fs : List ServiceEvent) :
    socketActs (es ++ fs) = socketActs es ++ socketActs fs := List.filterMap_append

variable {t}

theorem mem_callTrace {i : Nat} {o : RestOutput} : (i, o) ∈ callTrace t ↔ .call i o ∈ t := by
  unfold callTrace
  rw [List.mem_filterMap]
  constructor
  · rintro ⟨p, hp, hshown⟩
    cases p with
    | call j q =>
      cases hshown
      exact hp
    | _ => cases hshown
  · intro ho
    exact ⟨_, ho, rfl⟩

/-- An event of one call is one of the service. -/
theorem call_of_acts {es : List ServiceEvent} {i : Nat} {e : RestEvent}
    (h : e ∈ outputsAt i (callActs es)) : .call i e ∈ es := by
  obtain ⟨p, hp, hshown⟩ := List.mem_filterMap.mp ((mem_outputsAt i).mp h)
  cases p with
  | call j f =>
    cases hshown
    exact hp
  | _ => cases hshown

theorem call_of_contacts {i : Nat} {request : UpstreamRequest}
    (h : request ∈ RestCall.contacts (outputsAt i (callTrace t))) :
    .call i (.contact request) ∈ t := by
  obtain ⟨o, ho, hshown⟩ := List.mem_filterMap.mp h
  cases o with
  | contact q =>
    cases hshown
    exact mem_callTrace.mp ((mem_outputsAt i).mp ho)
  | _ => cases hshown

theorem mem_socketTrace {i : Nat} {o : ConnectionOutput} :
    (i, o) ∈ socketTrace t ↔ .socket i o ∈ t := by
  unfold socketTrace
  rw [List.mem_filterMap]
  constructor
  · rintro ⟨p, hp, hshown⟩
    cases p with
    | socket j q =>
      cases hshown
      exact hp
    | _ => cases hshown
  · intro ho
    exact ⟨_, ho, rfl⟩

/-- A step of a call shows in the trace of the calls and nowhere else. -/
theorem call_traces (out : List (Nat × RestOutput)) :
    callTrace (out.map fun o => .call o.1 o.2) = out ∧
      socketTrace (out.map fun o => .call o.1 o.2) = [] ∧
      answeredOf (out.map fun o => .call o.1 o.2) = [] ∧
      crashedOf (out.map fun o => .call o.1 o.2) = [] := by
  induction out with
  | nil => exact ⟨rfl, rfl, rfl, rfl⟩
  | cons o out ih =>
    obtain ⟨hcalls, hsockets, hanswered, hcrashed⟩ := ih
    exact ⟨congrArg (o :: ·) hcalls, hsockets, hanswered, hcrashed⟩

theorem socket_traces (out : List (Nat × ConnectionOutput)) :
    callTrace (out.map fun o => .socket o.1 o.2) = [] ∧
      socketTrace (out.map fun o => .socket o.1 o.2) = out ∧
      answeredOf (out.map fun o => .socket o.1 o.2) = [] ∧
      crashedOf (out.map fun o => .socket o.1 o.2) = [] := by
  induction out with
  | nil => exact ⟨rfl, rfl, rfl, rfl⟩
  | cons o out ih =>
    obtain ⟨hcalls, hsockets, hanswered, hcrashed⟩ := ih
    exact ⟨hcalls, congrArg (o :: ·) hsockets, hanswered, hcrashed⟩

end Traces

end Service

/-- The boundary has let the request through before any drain. -/
structure Admitted (d : Deployment) (t : List ServiceOutput) (r : Inbound) : Prop where
  admitted : ∃ front back, t = front ++ .admitted r :: back ∧ .drained ∉ front
  method : r.method ≠ .options
  guarded : guard d.uris r.headers d.config false r.kind = .ok ()

theorem Admitted.mono {d : Deployment} {t : List ServiceOutput} {r : Inbound} (h : Admitted d t r)
    (u : List ServiceOutput) : Admitted d (t ++ u) r := by
  obtain ⟨front, back, rfl, hfront⟩ := h.admitted
  exact ⟨⟨front, back ++ u, by simp, hfront⟩, h.method, h.guarded⟩

def StartsCall (d : Deployment) (r : Inbound) (plan : RestPlan) : Prop :=
  ∃ clientRequest, dispatch d clientRequest r = .ok (.call plan)

/-- The client request is one that the library has made when some request entered. -/
def StartsSocket (d : Deployment) (es : List ServiceEvent) (r : Inbound) (plan : ConnectionPlan) :
    Prop :=
  ∃ k clientRequest, .enter k clientRequest ∈ es ∧
    dispatch d clientRequest r = .ok (.socket plan)

theorem StartsSocket.mono {d : Deployment} {es : List ServiceEvent} {r : Inbound}
    {plan : ConnectionPlan} (h : StartsSocket d es r plan) (more : List ServiceEvent) :
    StartsSocket d (es ++ more) r plan := by
  obtain ⟨k, clientRequest, hmem, hdispatch⟩ := h
  exact ⟨k, clientRequest, List.mem_append_left _ hmem, hdispatch⟩

namespace Service

/-- What holds of the service after every run. -/
structure Sound (d : Deployment) (es : List ServiceEvent) (s : Service) (t : List ServiceOutput) :
    Prop where
  drained : s.draining = true ↔ .drained ∈ t
  waiting : ∀ r ∈ s.waiting, r.method ≠ .options
  admitted : ∀ r, r ∈ s.callers ∨ r ∈ s.clients → Admitted d t r
  calls : (RestCall.user d).Owned (StartsCall d) d.config.limits.activeRequests (callActs es)
    s.callers s.calls (callTrace t)
  sockets : (Connection.user d.config.limits).Owned (StartsSocket d es)
    d.config.limits.activeConnections (socketActs es) s.clients s.sockets (socketTrace t)

section Steps
variable {d : Deployment} {es : List ServiceEvent} {s s' : Service} {e : ServiceEvent}
  {t out : List ServiceOutput}

theorem call_move (hstep : ServiceStep d s e s' out) :
    (RestCall.user d).PoolMove (StartsCall d) s.callers s.calls (callActs [e]) s'.callers s'.calls
      (callTrace out) := by
  cases hstep with
  | startCall hwaiting hcleared hdispatch => exact .join ⟨_, hdispatch⟩
  | call hstep =>
    rw [(call_traces _).1]
    exact .act hstep
  | socket hstep =>
    rw [(socket_traces _).1]
    exact .stay
  | _ => exact .stay

theorem socket_move (hstep : ServiceStep d s e s' out) (he : e ∈ es) :
    (Connection.user d.config.limits).PoolMove (StartsSocket d es) s.clients s.sockets
      (socketActs [e]) s'.clients s'.sockets (socketTrace out) := by
  cases hstep with
  | startSocket hwaiting hcleared hdispatch => exact .join ⟨_, _, he, hdispatch⟩
  | call hstep =>
    rw [(call_traces _).2.1]
    exact .stay
  | socket hstep =>
    rw [(socket_traces _).2.1]
    exact .act hstep
  | _ => exact .stay

theorem draining_step (hstep : ServiceStep d s e s' out) :
    s'.draining = true ↔ s.draining = true ∨ .drained ∈ out := by
  cases hstep with
  | drain => simp
  | _ => simp [answer, addCall, addSocket]

theorem waiting_step (hstep : ServiceStep d s e s' out) {r : Inbound} (hr : r ∈ s'.waiting) :
    r ∈ s.waiting ∨ r.method ≠ .options := by
  cases hstep with
  | wait hprobe hdraining hmethod =>
    rcases List.mem_append.mp hr with hold | hnew
    · exact .inl hold
    · exact .inr (List.mem_singleton.mp hnew ▸ hmethod)
  | reject hwaiting hguard => exact .inl (List.mem_of_mem_eraseIdx hr)
  | reply hwaiting hcleared hanswer => exact .inl (List.mem_of_mem_eraseIdx hr)
  | crash hwaiting hcleared hpanic => exact .inl (List.mem_of_mem_eraseIdx hr)
  | startCall hwaiting hcleared hdispatch => exact .inl (List.mem_of_mem_eraseIdx hr)
  | startSocket hwaiting hcleared hdispatch => exact .inl (List.mem_of_mem_eraseIdx hr)
  | _ => exact .inl hr

/-- A request that gets a call or a socket has just been admitted. -/
theorem owners_step (hstep : ServiceStep d s e s' out) {r : Inbound}
    (hr : r ∈ s'.callers ∨ r ∈ s'.clients) :
    (r ∈ s.callers ∨ r ∈ s.clients) ∨ r ∈ s.waiting ∧ Cleared d s r ∧ out = [.admitted r] := by
  cases hstep with
  | startCall hwaiting hcleared hdispatch =>
    rcases hr with hcaller | hclient
    · rcases List.mem_append.mp hcaller with hold | hnew
      · exact .inl (.inl hold)
      · obtain rfl := List.mem_singleton.mp hnew
        exact .inr ⟨List.mem_of_getElem? hwaiting, hcleared, rfl⟩
    · exact .inl (.inr hclient)
  | startSocket hwaiting hcleared hdispatch =>
    rcases hr with hcaller | hclient
    · exact .inl (.inl hcaller)
    · rcases List.mem_append.mp hclient with hold | hnew
      · exact .inl (.inr hold)
      · obtain rfl := List.mem_singleton.mp hnew
        exact .inr ⟨List.mem_of_getElem? hwaiting, hcleared, rfl⟩
  | _ => exact .inl hr

theorem sound_start (d : Deployment) : Sound d [] (start d.config.limits) [] where
  drained := by simp [start]
  waiting := List.forall_mem_nil _
  admitted r hr := by
    rcases hr with hr | hr
    all_goals cases hr
  calls := owned_start _
  sockets := owned_start _

theorem admitted_of_cleared (h : Sound d es s t) {r : Inbound} (hwaiting : r ∈ s.waiting)
    (hcleared : Cleared d s r) (rest : List ServiceOutput) :
    Admitted d (t ++ .admitted r :: rest) r := by
  have hundrained : .drained ∉ t := by
    rw [← h.drained, hcleared.undrained]
    exact Bool.false_ne_true
  exact ⟨⟨t, rest, rfl, hundrained⟩, h.waiting r hwaiting, hcleared.guarded⟩

theorem sound_step (hstep : ServiceStep d s e s' out) (h : Sound d es s t) :
    Sound d (es ++ [e]) s' (t ++ out) where
  drained := by rw [draining_step hstep, h.drained, List.mem_append]
  waiting r hr := by
    rcases waiting_step hstep hr with hold | hmethod
    · exact h.waiting r hold
    · exact hmethod
  admitted r hr := by
    rcases owners_step hstep hr with hold | ⟨hwaiting, hcleared, rfl⟩
    · exact (h.admitted r hold).mono out
    · exact admitted_of_cleared h hwaiting hcleared []
  calls := by
    rw [callTrace_append, callActs_append]
    exact h.calls.move (call_move hstep)
  sockets := by
    have hlast : e ∈ es ++ [e] := List.mem_append_right es List.mem_cons_self
    rw [socketTrace_append, socketActs_append]
    exact (h.sockets.mono fun _ _ hstarts => hstarts.mono [e]).move (socket_move hstep hlast)

theorem sound_run (hrun : (machine d).run (start d.config.limits) es = some (s, t)) :
    Sound d es s t := by
  refine (machine d).run_history (P := Sound d) (sound_start d) ?_ hrun
  intro es s t e s' out _ h hstep
  exact sound_step (serviceStep_of_step hstep) h

end Steps

section Contacts
variable {d : Deployment} {es : List ServiceEvent} {s s' : Service} {e : ServiceEvent}
  {t out : List ServiceOutput}

/-- A contact is made for the request of its call, and is what the REST handler computes for it and
the body that the call has read. -/
theorem call_contact (h : Sound d es s t) {i : Nat} {request : UpstreamRequest}
    (hmem : .call i (.contact request) ∈ t) :
    ∃ r chunks, s.callers[i]? = some r ∧ .call i (.read (some chunks)) ∈ es ∧
      CallFor d r chunks request := by
  obtain ⟨x, hx⟩ := h.calls.member_of_mem (mem_callTrace.mpr hmem)
  obtain ⟨r, plan, hr, ⟨clientRequest, hdispatch⟩, hfs⟩ := h.calls.member hx
  obtain ⟨rfl, htells⟩ := RestCall.tells_run hfs
  obtain ⟨chunks, body, hread, hbody, hcomplete⟩ :=
    htells.sends_of_mem ((mem_outputsAt i).mpr (mem_callTrace.mpr hmem))
  exact ⟨r, chunks, hr, call_of_acts hread, callFor_of_plan hdispatch hbody hcomplete⟩

theorem socket_contact (h : Sound d es s t) {i : Nat} {url : CharText.Text} {headers : HeaderMap}
    (hmem : .socket i (.contact url headers) ∈ t) :
    ∃ r k clientRequest, s.clients[i]? = some r ∧ .enter k clientRequest ∈ es ∧
      HandshakeFor d clientRequest r url headers := by
  obtain ⟨x, hx⟩ := h.sockets.member_of_mem (mem_socketTrace.mpr hmem)
  obtain ⟨r, plan, hr, ⟨k, clientRequest, henter, hdispatch⟩, hfs⟩ := h.sockets.member hx
  obtain ⟨rfl, htells⟩ := tells_run hfs
  obtain ⟨hurl, rfl⟩ := htells.oneContact.of_mem ((mem_outputsAt i).mpr (mem_socketTrace.mpr hmem))
  exact ⟨r, k, clientRequest, hr, henter, handshakeFor_of_plan hdispatch hurl⟩

/-- A contact is for an admitted request. -/
def Justified (d : Deployment) (s : Service) (front : List ServiceOutput) : ServiceOutput → Prop
  | .call i (.contact _) => ∃ r, s.callers[i]? = some r ∧ Admitted d front r
  | .socket i (.contact _ _) => ∃ r, s.clients[i]? = some r ∧ Admitted d front r
  | _ => True

/-- Whoever contacts the upstream has been admitted before the step. -/
theorem admitted_before (hstep : ServiceStep d s e s' out) (h : Sound d es s t) {r : Inbound}
    {o : ServiceOutput} (hr : r ∈ s'.callers ∨ r ∈ s'.clients) (ho : o ∈ out)
    (hother : o ≠ .admitted r) : Admitted d t r := by
  rcases owners_step hstep hr with hold | ⟨-, -, rfl⟩
  · exact h.admitted r hold
  · exact absurd (List.mem_singleton.mp ho) hother

theorem justified_new (hstep : ServiceStep d s e s' out) (h : Sound d es s t) {o : ServiceOutput}
    (ho : o ∈ out) : Justified d s' t o := by
  have hmem : o ∈ t ++ out := List.mem_append_right t ho
  cases o with
  | call i o =>
    cases o with
    | contact request =>
      obtain ⟨r, -, hr, -⟩ := call_contact (sound_step hstep h) hmem
      exact ⟨r, hr, admitted_before hstep h (.inl (List.mem_of_getElem? hr)) ho (by simp)⟩
    | _ => trivial
  | socket i o =>
    cases o with
    | contact url headers =>
      obtain ⟨r, -, -, hr, -⟩ := socket_contact (sound_step hstep h) hmem
      exact ⟨r, hr, admitted_before hstep h (.inr (List.mem_of_getElem? hr)) ho (by simp)⟩
    | _ => trivial
  | _ => trivial

theorem justified_old (hstep : ServiceStep d s e s' out) {front : List ServiceOutput}
    {o : ServiceOutput} (h : Justified d s front o) : Justified d s' front o := by
  cases o with
  | call i o =>
    cases o with
    | contact request =>
      obtain ⟨r, hr, hadmitted⟩ := h
      exact ⟨r, (call_move hstep).owner_stays hr, hadmitted⟩
    | _ => trivial
  | socket i o =>
    cases o with
    | contact url headers =>
      obtain ⟨r, hr, hadmitted⟩ := h
      exact ⟨r, (socket_move hstep (List.mem_singleton_self e)).owner_stays hr, hadmitted⟩
    | _ => trivial
  | _ => trivial

theorem Justified.mono {front : List ServiceOutput} {o : ServiceOutput}
    (h : Justified d s front o) (more : List ServiceOutput) : Justified d s (front ++ more) o := by
  cases o with
  | call i o =>
    cases o with
    | contact request =>
      obtain ⟨r, hr, hadmitted⟩ := h
      exact ⟨r, hr, hadmitted.mono more⟩
    | _ => trivial
  | socket i o =>
    cases o with
    | contact url headers =>
      obtain ⟨r, hr, hadmitted⟩ := h
      exact ⟨r, hr, hadmitted.mono more⟩
    | _ => trivial
  | _ => trivial

theorem justified_run (hrun : (machine d).run (start d.config.limits) es = some (s, t)) :
    ∀ front o back, t = front ++ o :: back → Justified d s front o := by
  refine TraceMachine.run_precedes (P := Sound d) (R := Justified d) (sound_start d) ?_ ?_ ?_ ?_ hrun
  · intro es s t e s' out h hstep
    exact sound_step (serviceStep_of_step hstep) h
  · intro es s t e s' out o h hstep ho
    exact justified_new (serviceStep_of_step hstep) h ho
  · intro s e s' out front o hstep h
    exact justified_old (serviceStep_of_step hstep) h
  · intro s front more o h
    exact h.mono more

end Contacts

section Accounting
variable {d : Deployment} {s s' : Service} {e : ServiceEvent} {t out : List ServiceOutput}

/-- The places of the requests that have arrived. -/
def placed (s : Service) (t : List ServiceOutput) : List Inbound :=
  s.waiting ++ answeredOf t ++ crashedOf t ++ s.callers ++ s.clients

/-- A step moves requests from place to place and adds one only when it arrives. -/
theorem placed_step (hstep : ServiceStep d s e s' out) :
    (placed s' (t ++ out)).Perm (placed s t ++ arrivalsOf [e]) := by
  classical
  rw [List.perm_iff_count]
  intro q
  have herased {i : Nat} {r : Inbound} (hwaiting : s.waiting[i]? = some r) :
      s.waiting.count q = (s.waiting.eraseIdx i).count q + [r].count q := by
    obtain ⟨hi, rfl⟩ := List.getElem?_eq_some_iff.mp hwaiting
    rw [← (List.getElem_cons_eraseIdx_perm hi).count_eq, ← List.count_append]
    exact (@List.perm_append_comm _ [s.waiting[i]] _).count_eq q
  simp only [placed, answeredOf_append, crashedOf_append, List.count_append]
  cases hstep with
  | drain => exact Nat.add_zero _
  | refuse hprobe hboundary =>
    simp [answeredOf, crashedOf, arrivalsOf, answer]
    omega
  | wait hprobe hdraining hmethod =>
    simp [answeredOf, crashedOf, arrivalsOf]
    omega
  | reject hwaiting hguard =>
    have hcount := herased hwaiting
    simp [answeredOf, crashedOf, arrivalsOf, answer]
    omega
  | reply hwaiting hcleared hanswer =>
    have hcount := herased hwaiting
    simp [answeredOf, crashedOf, arrivalsOf, answer]
    omega
  | crash hwaiting hcleared hpanic =>
    have hcount := herased hwaiting
    simp [answeredOf, crashedOf, arrivalsOf]
    omega
  | startCall hwaiting hcleared hdispatch =>
    have hcount := herased hwaiting
    simp [answeredOf, crashedOf, arrivalsOf, addCall]
    omega
  | startSocket hwaiting hcleared hdispatch =>
    have hcount := herased hwaiting
    simp [answeredOf, crashedOf, arrivalsOf, addSocket]
    omega
  | call hstep =>
    rw [(call_traces _).2.2.1, (call_traces _).2.2.2]
    rfl
  | socket hstep =>
    rw [(socket_traces _).2.2.1, (socket_traces _).2.2.2]
    rfl

theorem placed_run {es : List ServiceEvent}
    (hrun : (machine d).run (start d.config.limits) es = some (s, t)) :
    (placed s t).Perm (arrivalsOf es) := by
  refine (machine d).run_history (P := fun es s t => (placed s t).Perm (arrivalsOf es))
    (List.Perm.refl _) ?_ hrun
  intro es s t e s' out _ h hstep
  rw [arrivalsOf_append]
  exact (placed_step (serviceStep_of_step hstep)).trans (h.append_right _)

/-- Only a build with assertions can crash. -/
theorem uncrashed_run {es : List ServiceEvent} (hrelease : d.debugAssertions = false)
    (hrun : (machine d).run (start d.config.limits) es = some (s, t)) : crashedOf t = [] := by
  refine (machine d).run_invariant (P := fun _ t => crashedOf t = []) rfl ?_ hrun
  intro s t e s' out h hstep
  rw [crashedOf_append, h, List.nil_append]
  cases serviceStep_of_step hstep with
  | crash hwaiting hcleared hpanic => exact absurd hpanic (dispatch_safe hrelease)
  | call hstep => exact (call_traces _).2.2.2
  | socket hstep => exact (socket_traces _).2.2.2
  | _ => rfl

end Accounting

end Service

section Samples

def sampleDeployment : Deployment := ⟨true, .standard, noUris, callLibraries, publicManaged⟩

def sampleClient : ClientRequest := ⟨fun _ => clientRequest, fun _ => clientRequest_names⟩

def inboundOf (method : Method) (path : String) (headers : HeaderMap) : Inbound :=
  ⟨method, ⟨none, none, path.toList, none⟩, headers, some (.fromStatic "accept".toList),
    .ok fun _ => none⟩

/-- The join of a call and the creation of a client secret, both with the admission token. -/
def joinRequest : Inbound :=
  inboundOf .get "/v1/realtime/calls/rtc_1" (joinHeaders [("x-api-key", "secret".toList)])

def secretRequest : Inbound :=
  inboundOf .post "/v1/realtime/client_secrets" (headersOf [("x-api-key", "secret".toList)])

/-- One socket and one call contact the upstream; the drain catches one request between the two
reads of the flag and one behind it. -/
def sampleDay : List ServiceEvent :=
  [.arrive joinRequest, .arrive secretRequest, .enter 0 sampleClient, .enter 0 sampleClient,
    .call 0 (.exchange (.acquire true)), .call 0 (.read (some [.ok [7]])),
    .socket 0 (.acquire true), .socket 0 (.upgrade true), .socket 0 (.dial true),
    .call 0 .build, .arrive secretRequest, .drain, .enter 0 sampleClient, .arrive secretRequest]

end Samples

/-- No request is lost or served twice: each that has arrived waits at the boundary, has been
answered there or by its handler, or has its one call or socket, which contacts the upstream once at
most and answers once at most; in a build without assertions none crashes. -/
theorem requests_are_accounted_for {d : Deployment} {es : List ServiceEvent} {s : Service}
    {t : List ServiceOutput}
    (hrun : (Service.machine d).run (Service.start d.config.limits) es = some (s, t)) :
    (s.waiting ++ Service.answeredOf t ++ Service.crashedOf t ++ s.callers ++ s.clients).Perm
        (Service.arrivalsOf es) ∧
      s.callers.length = s.calls.members.length ∧ s.clients.length = s.sockets.members.length ∧
      (∀ i, (RestCall.contacts (outputsAt i (Service.callTrace t))).length ≤ 1 ∧
        (RestCall.results (outputsAt i (Service.callTrace t))).length ≤ 1) ∧
      (∀ i, (contacts (outputsAt i (Service.socketTrace t))).length ≤ 1 ∧
        (answers (outputsAt i (Service.socketTrace t))).length ≤ 1) ∧
      (d.debugAssertions = false → Service.crashedOf t = []) := by
  have hsound := Service.sound_run hrun
  refine ⟨Service.placed_run hrun, hsound.calls.length_eq, hsound.sockets.length_eq, ?_, ?_,
    fun hrelease => Service.uncrashed_run hrelease hrun⟩
  · intro i
    cases hx : s.calls.members[i]? with
    | none =>
      rw [hsound.calls.silent hx]
      exact ⟨Nat.zero_le 1, Nat.zero_le 1⟩
    | some x =>
      obtain ⟨r, plan, -, -, hfs⟩ := hsound.calls.member hx
      exact (RestCall.tells_run hfs).2.counts
  · intro i
    cases hx : s.sockets.members[i]? with
    | none =>
      rw [hsound.sockets.silent hx]
      exact ⟨Nat.zero_le 1, Nat.zero_le 1⟩
    | some x =>
      obtain ⟨r, plan, -, -, hfs⟩ := hsound.sockets.member hx
      have hone := (tells_run hfs).2.oneContact
      refine ⟨?_, hone.answers⟩
      rcases hone.contacts with hnone | ⟨url, -, hcontact⟩
      · exact hnone ▸ Nat.zero_le 1
      · exact hcontact ▸ Nat.le_refl 1

theorem sample_day_is_accounted_for : ∃ s t,
    (Service.machine sampleDeployment).run (Service.start sampleDeployment.config.limits) sampleDay =
        some (s, t) ∧
      (Service.answeredOf t).length = 2 ∧
      (s.waiting ++ Service.answeredOf t ++ Service.crashedOf t ++ s.callers ++ s.clients).Perm
        (Service.arrivalsOf sampleDay) := by
  obtain ⟨s, t, hrun, hanswered⟩ := TraceMachine.exists_run_of_any
    (show ((Service.machine sampleDeployment).run (Service.start sampleDeployment.config.limits)
      sampleDay).any (fun r => (Service.answeredOf r.2).length == 2) = true by decide +kernel)
  exact ⟨s, t, hrun, eq_of_beq hanswered, (requests_are_accounted_for hrun).1⟩

end GptLiveProxy
