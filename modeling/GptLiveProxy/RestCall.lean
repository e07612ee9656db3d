import GptLiveProxy.DialectSafety
import GptLiveProxy.PermitPool
import GptLiveProxy.Permits
import GptLiveProxy.ResponseHeaders

/-!
# REST calls with their data

A call is the exchange of one request together with what the request has been classified as, the
headers it goes upstream with, and the body once it is read. What it sends is computed in three
parts, and the parts make up the handler: the plan before the permit, the body, and the upstream
request that follows from both.
-/

namespace GptLiveProxy
open CharText

/-- What no request changes: the build, its libraries, and the configuration. -/
structure Deployment where
  debugAssertions : Bool
  decoder : PercentDecoder
  uris : UriParser
  libraries : CallLibraries
  config : Config

/-- What the handler of a REST request holds when it asks for a permit. -/
structure RestPlan where
  method : Method
  uri : Uri
  selection : ProtocolSelection
  headers : HeaderMap

namespace RestPlan

def kind (plan : RestPlan) : HandlerKind :=
  if plan.selection.dialect = .officialGa then .official else .privateCall

/-- The rest of `live::handle_call_create`, once the body is read. -/
def completeCall (d : Deployment) (plan : RestPlan) (body : List UInt8) :
    Outcome RelayError UpstreamRequest := do
  let parsed ← Outcome.ofExcept
    (parseCall d.libraries d.config.upstream body (inboundContentType plan.headers))
  checkProfileSession d.debugAssertions d.config.upstream plan.selection.dialect parsed
  let outbound ← outboundBody d.libraries d.config.upstream.usesBackendShape parsed body
    (inboundContentType plan.headers)
  let target ← privateCallCreateUrl d.debugAssertions d.config.upstream.baseUrl
    d.config.upstream.usesBackendShape plan.selection.dialect
  Outcome.ofExcept (buildRequest d.libraries
    ⟨plan.method, target, insertContentType plan.headers outbound.2, outbound.1⟩)

def completeOfficial (d : Deployment) (plan : RestPlan) (body : List UInt8) :
    Except RelayError UpstreamRequest := do
  let target ← officialUrl d.config.upstream.baseUrl plan.uri
  buildRequest d.libraries ⟨plan.method, target, plan.headers, body⟩

def complete (d : Deployment) (plan : RestPlan) (body : List UInt8) :
    Outcome RelayError UpstreamRequest :=
  match plan.kind with
  | .official => Outcome.ofExcept (plan.completeOfficial d body)
  | .privateCall => plan.completeCall d body

end RestPlan

def privateCallPlan (d : Deployment) (method : Method) (uri : Uri) (headers : HeaderMap)
    (classified : ClassifiedRest) (capability : Capability) : Outcome RelayError RestPlan := do
  let validated ← Outcome.ofExcept (validatePrivateCallHeaders headers classified.selection)
  Outcome.ofExcept (requireSupport d.config.upstream capability)
  let out ← buildPrivateCallHeaders d.debugAssertions headers d.config.upstream validated
  Outcome.debugAssert d.debugAssertions (classified.operation = .createCall)
  Outcome.debugAssert d.debugAssertions
    (classified.selection.dialect = .quicksilverV1 ∨ classified.selection.dialect = .frameless)
  Outcome.debugAssert d.debugAssertions (method = .post)
  return ⟨method, uri, classified.selection, out⟩

def restPlan (d : Deployment) (method : Method) (uri : Uri) (headers : HeaderMap) :
    Outcome RelayError RestPlan := do
  let classified ← (classifyRest d.decoder (restFacts d.config method uri.path headers)).mapError
    (RelayError.fromRestContract · method uri.path)
  let capability ← Capability.fromRest classified
  let _ ← assertedSupport d.debugAssertions (.fromProfile d.config.upstream) capability
  if classified.selection.dialect = .officialGa then do
    let out ← Outcome.ofExcept (officialRestHeaders d.config headers classified capability)
    return ⟨method, uri, classified.selection, out⟩
  else privateCallPlan d method uri headers classified capability

section Parts
variable {d : Deployment}

/-- The handler is the plan, the permit, the body, and what follows from the plan and the body. -/
theorem restHandle_eq (d : Deployment) (method : Method) (uri : Uri) (headers : HeaderMap)
    (arrival : Arrival) :
    restHandle d.debugAssertions d.debugAssertions d.decoder d.libraries d.config method uri headers
        arrival = (do
      let plan ← restPlan d method uri headers
      Outcome.ofExcept (acquirePermit arrival)
      let body ← Outcome.ofExcept (readRequestBody d.config.limits arrival)
      plan.complete d body) := by
  unfold restHandle restPlan
  simp only [Outcome.bind_assoc]
  congr 1; funext classified; congr 1; funext capability; congr 1; funext decision
  split_ifs with hofficial
  · have hkind (out : HeaderMap) :
        RestPlan.kind ⟨method, uri, classified.selection, out⟩ = .official := if_pos hofficial
    simp only [officialRequest, Outcome.ofExcept_bind, Outcome.bind_assoc, Outcome.pure_eq_ok,
      Outcome.ok_bind, RestPlan.complete, hkind, RestPlan.completeOfficial]
  · have hkind (out : HeaderMap) :
        RestPlan.kind ⟨method, uri, classified.selection, out⟩ = .privateCall := if_neg hofficial
    simp only [privateCallRequest, privateCallPlan, handleCallCreate, Outcome.bind_assoc,
      Outcome.pure_eq_ok, Outcome.ok_bind, RestPlan.complete, hkind, RestPlan.completeCall]

theorem complete_safe (d : Deployment) (plan : RestPlan) (body : List UInt8) :
    (plan.complete d body).Safe := by
  unfold RestPlan.complete
  cases hkind : plan.kind with
  | official => exact Outcome.safe_ofExcept _
  | privateCall =>
    have hprivate : plan.selection.dialect ≠ .officialGa := by
      intro hofficial
      rw [RestPlan.kind, if_pos hofficial] at hkind
      cases hkind
    apply (Outcome.safe_ofExcept _).bind
    intro parsed hparsed
    apply (checkProfileSession_safe _ _ _).bind
    intro _ _
    apply (outboundBody_safe (Outcome.ofExcept_eq_ok.mp hparsed)).bind
    intro outbound _
    apply (privateCallCreateUrl_safe _ _ hprivate).bind
    intro target _
    exact Outcome.safe_ofExcept _

/-- Only a build with assertions can panic on the way to a plan. -/
theorem restPlan_safe (hrelease : d.debugAssertions = false) (method : Method) (uri : Uri)
    (headers : HeaderMap) : (restPlan d method uri headers).Safe := by
  have hsafe : (restHandle d.debugAssertions d.debugAssertions d.decoder d.libraries d.config method
      uri headers ⟨true, none⟩).Safe := by
    apply restHandle_safe
    intro classified adapter _ _ hassert
    rw [hrelease] at hassert
    cases hassert
  rw [restHandle_eq] at hsafe
  exact hsafe.of_bind

end Parts

structure RestCall where
  plan : RestPlan
  body : Option (List UInt8)
  exchange : Exchange

/-- `read` carries the chunks of the body, or nothing when the deadline passes; `work` carries what
the upstream answers. -/
inductive RestEvent
  | read (body : Option (List (Except RelayError (List UInt8))))
  | build
  | work (head : Except String (UInt16 × HeaderMap)) (chunks : List (Except String (List UInt8)))
  | exchange (event : ExchangeEvent)

inductive RestOutput
  | readBody
  | contact (request : UpstreamRequest)
  | respond (result : ExchangeResult)

namespace PermitEffect

def takes : PermitEffect → Nat
  | take => 1
  | _ => 0

def gives : PermitEffect → Nat
  | give => 1
  | _ => 0

theorem apply_eq (effect : PermitEffect) (available : Nat) :
    effect.apply available = available - effect.takes + effect.gives := by
  cases effect <;> rfl

end PermitEffect

/-- The events of an exchange that carry nothing the call has to compute. -/
def ExchangeEvent.isPlain : ExchangeEvent → Bool
  | bodyRead => false
  | bodyFailed _ => false
  | bodyTimedOut => false
  | rejected _ => false
  | spawn => false
  | workDone _ => false
  | _ => true

namespace RestOutput

def ofExchange : ExchangeOutput → Option RestOutput
  | .readBody => some readBody
  | .contactUpstream => none
  | .respond result => some (respond result)

def toExchange : RestOutput → ExchangeOutput
  | readBody => .readBody
  | contact _ => .contactUpstream
  | respond result => .respond result

end RestOutput

def HandlerKind.response : HandlerKind → ExchangeResult → Response
  | _, .error error => error.intoResponse
  | .official, .ok upstream => relayResponse upstream
  | .privateCall, .ok upstream => relayCallResponse upstream

namespace RestCall

def start (plan : RestPlan) : RestCall := ⟨plan, none, .start plan.kind⟩

def follow (x : RestCall) (e : ExchangeEvent) : Option (RestCall × List RestOutput) :=
  if x.exchange.Enabled e then
    some ({ x with exchange := x.exchange.next e },
      (x.exchange.outputs e).filterMap RestOutput.ofExchange)
  else none

def step (d : Deployment) (x : RestCall) : RestEvent → Option (RestCall × List RestOutput)
  | .read none => x.follow .bodyTimedOut
  | .read (some chunks) =>
    match readCapped d.config.limits.requestBytes [] chunks with
    | .ok body => follow { x with body := some body } .bodyRead
    | .error error => x.follow (.bodyFailed error)
  | .build =>
    match x.body.map (x.plan.complete d) with
    | some (.ok request) =>
      if x.exchange.Enabled .spawn then
        some ({ x with exchange := x.exchange.next .spawn }, [.contact request])
      else none
    | some (.error error) => x.follow (.rejected error)
    | _ => none
  | .work head chunks =>
    x.follow (.workDone (executeCapped d.config.limits.responseBytes head chunks))
  | .exchange e => if e.isPlain then x.follow e else none

def machine (d : Deployment) : TraceMachine RestCall RestEvent RestOutput where
  step x e := x.step d e

/-- Calls meet at the semaphore of `limits.active_requests` permits. -/
def user (d : Deployment) : PermitUser RestPlan RestCall RestEvent RestOutput where
  machine := machine d
  start := start
  asks
    | .exchange (.acquire permitted) => some permitted
    | _ => none
  gives
    | .exchange .releasePermit => true
    | .exchange (.taskReturn _) => true
    | .exchange .taskCrash => true
    | _ => false
  held x := x.exchange.isHolding.toNat + x.exchange.task.isLive.toNat

end RestCall

namespace RestEvent

def isExchange : RestEvent → Bool
  | exchange _ => true
  | _ => false

/-- The event of a call and the one its exchange sees: the same, or one with data of its own. -/
def Matches (e : RestEvent) (f : ExchangeEvent) : Prop :=
  e = .exchange f ∨ f.isPlain = false ∧ e.isExchange = false

end RestEvent

/-- One step of a call, by its event and the one its exchange sees: the body is kept, the upstream
request follows from it, and the result of the work is what the upstream has answered. -/
inductive RestStep (d : Deployment) (x : RestCall) :
    RestEvent → ExchangeEvent → RestCall → List RestOutput → Prop
  | read {chunks : List (Except RelayError (List UInt8))} {body : List UInt8}
      (hread : readCapped d.config.limits.requestBytes [] chunks = .ok body) :
    RestStep d x (.read (some chunks)) .bodyRead
      ⟨x.plan, some body, x.exchange.next .bodyRead⟩ []
  | build {body : List UInt8} {request : UpstreamRequest} (hbody : x.body = some body)
      (hcomplete : x.plan.complete d body = .ok request) :
    RestStep d x .build .spawn ⟨x.plan, x.body, x.exchange.next .spawn⟩ [.contact request]
  | work (head : Except String (UInt16 × HeaderMap)) (chunks : List (Except String (List UInt8))) :
    RestStep d x (.work head chunks)
      (.workDone (executeCapped d.config.limits.responseBytes head chunks))
      ⟨x.plan, x.body, x.exchange.next (.workDone (executeCapped d.config.limits.responseBytes head
        chunks))⟩ []
  | plain {e : RestEvent} {f : ExchangeEvent} (hmatches : e.Matches f) (hread : f ≠ .bodyRead)
      (hspawn : f ≠ .spawn) (hwork : ∀ result, f ≠ .workDone result) :
    RestStep d x e f ⟨x.plan, x.body, x.exchange.next f⟩
      ((x.exchange.outputs f).filterMap RestOutput.ofExchange)

namespace RestCall
open PermitUser
variable {d : Deployment} {x x' : RestCall} {e : RestEvent} {out : List RestOutput}

theorem follow_eq_some {f : ExchangeEvent} : x.follow f = some (x', out) ↔
    x.exchange.Enabled f ∧ x' = ⟨x.plan, x.body, x.exchange.next f⟩ ∧
      out = (x.exchange.outputs f).filterMap RestOutput.ofExchange := by
  unfold follow
  split_ifs with henabled
  · simp [henabled, eq_comm]
  · simp [henabled]

theorem plain_ne {f : ExchangeEvent} (h : f.isPlain = true) :
    f ≠ .bodyRead ∧ f ≠ .spawn ∧ ∀ result, f ≠ .workDone result := by
  refine ⟨?_, ?_, ?_⟩
  · rintro rfl
    cases h
  · rintro rfl
    cases h
  · rintro result rfl
    cases h

theorem follows {f : ExchangeEvent} (hstep : RestStep d x e f x' out) :
    x'.plan = x.plan ∧ x'.exchange = x.exchange.next f := by
  cases hstep <;> exact ⟨rfl, rfl⟩

theorem matches_of_step {f : ExchangeEvent} (hstep : RestStep d x e f x' out) : e.Matches f := by
  cases hstep with
  | read hread => exact .inr ⟨rfl, rfl⟩
  | build hbody hcomplete => exact .inr ⟨rfl, rfl⟩
  | work head chunks => exact .inr ⟨rfl, rfl⟩
  | plain hmatches hread hspawn hwork => exact hmatches

theorem restStep_of_step (h : x.step d e = some (x', out)) :
    ∃ f, x.exchange.Enabled f ∧ RestStep d x e f x' out := by
  cases e with
  | read body =>
    cases body with
    | none =>
      obtain ⟨henabled, rfl, rfl⟩ := follow_eq_some.mp h
      exact ⟨_, henabled, .plain (.inr ⟨rfl, rfl⟩) (by simp) (by simp) (by simp)⟩
    | some chunks =>
      simp only [step] at h
      cases hread : readCapped d.config.limits.requestBytes [] chunks with
      | ok body =>
        rw [hread] at h
        obtain ⟨henabled, rfl, rfl⟩ := follow_eq_some.mp h
        exact ⟨_, henabled, .read hread⟩
      | error error =>
        rw [hread] at h
        obtain ⟨henabled, rfl, rfl⟩ := follow_eq_some.mp h
        exact ⟨_, henabled, .plain (.inr ⟨rfl, rfl⟩) (by simp) (by simp) (by simp)⟩
  | build =>
    simp only [step] at h
    split at h
    next request hcomplete =>
      obtain ⟨body, hbody, hcomplete⟩ := Option.map_eq_some_iff.mp hcomplete
      split_ifs at h with henabled
      obtain ⟨rfl, rfl⟩ := Prod.mk.inj (Option.some.inj h)
      exact ⟨_, henabled, .build hbody hcomplete⟩
    next error _ =>
      obtain ⟨henabled, rfl, rfl⟩ := follow_eq_some.mp h
      exact ⟨_, henabled, .plain (.inr ⟨rfl, rfl⟩) (by simp) (by simp) (by simp)⟩
    next => cases h
  | work head chunks =>
    obtain ⟨henabled, rfl, rfl⟩ := follow_eq_some.mp h
    exact ⟨_, henabled, .work head chunks⟩
  | exchange f =>
    simp only [step] at h
    split_ifs at h with hplain
    obtain ⟨henabled, rfl, rfl⟩ := follow_eq_some.mp h
    obtain ⟨hread, hspawn, hwork⟩ := plain_ne hplain
    exact ⟨f, henabled, .plain (.inl rfl) hread hspawn hwork⟩

theorem permits_match {f : ExchangeEvent} (h : e.Matches f) :
    (user d).taken e = (Exchange.effect f).takes ∧ (user d).given e = (Exchange.effect f).gives ∧
      ∀ s : Requests, (user d).Answers s.available e = true → s.Answers f := by
  rcases h with rfl | ⟨hdata, hother⟩
  · cases f with
    | acquire permitted =>
      refine ⟨?_, ?_, fun s hanswers => by simpa [Answers, user] using hanswers⟩
      all_goals
        cases permitted
        all_goals rfl
    | _ => exact ⟨rfl, rfl, fun s _ => trivial⟩
  · have hsilent : (user d).taken e = 0 ∧ (user d).given e = 0 := by
      cases e with
      | exchange g => cases hother
      | _ => exact ⟨rfl, rfl⟩
    have heffect : Exchange.effect f = .keep ∧ ∀ s : Requests, s.Answers f := by
      cases f with
      | bodyRead | bodyFailed _ | bodyTimedOut | rejected _ | spawn | workDone _ =>
        exact ⟨rfl, fun s => trivial⟩
      | _ => cases hdata
    rw [hsilent.1, hsilent.2, heffect.1]
    exact ⟨rfl, rfl, fun s _ => heffect.2 s⟩

theorem balanced (d : Deployment) : (user d).Balanced fun x => x.exchange.Coherent where
  start plan := ⟨Exchange.coherent_start plan.kind, rfl⟩
  step x e x' out hcoherent hstep := by
    obtain ⟨f, henabled, hkind⟩ := restStep_of_step hstep
    obtain ⟨-, hnext⟩ := follows hkind
    obtain ⟨htaken, hgiven, -⟩ := permits_match (d := d) (matches_of_step hkind)
    have hbalance := Exchange.balance_next hcoherent henabled
    rw [htaken, hgiven]
    change x'.exchange.Coherent ∧ x'.exchange.isHolding.toNat + x'.exchange.task.isLive.toNat + _ =
      x.exchange.isHolding.toNat + x.exchange.task.isLive.toNat + _
    rw [hnext]
    refine ⟨Exchange.coherent_next hcoherent henabled, ?_⟩
    cases heffect : Exchange.effect f with
    | keep | take | give =>
      simp only [heffect] at hbalance
      simp only [PermitEffect.takes, PermitEffect.gives]
      omega

end RestCall

end GptLiveProxy
