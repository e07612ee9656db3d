import GptLiveProxy.Exchange

/-!
# The terminal behind an error response

Every exit of the two call-create handlers answers an error and leaves a terminal in the slot; the
two are chosen apart. They agree on every exit but the failed join, where the private handler tells
the client that it left while the slot says `Failed`.
-/

namespace GptLiveProxy
open ExchangeTerminal

namespace Exchange
variable {x : Exchange} {e : ExchangeEvent}

/-- The terminal a task records for this result is the one `finish_error` would record. -/
def RecordsAlike (result : ExchangeResult) : Prop :=
  ∀ error, result = .error error → ofResult result = ofError error

theorem recordsAlike_of_isExecuted {result : ExchangeResult} (h : isExecuted result = true) :
    RecordsAlike result := by
  rintro error rfl
  cases error <;> first | rfl | cases h

theorem ofError_ne_inFlight (error : RelayError) : ofError error ≠ .inFlight := by
  unfold ofError
  split <;> simp

def Carries (x : Exchange) (result : ExchangeResult) : Prop :=
  x.task = .decided result ∨ x.task = .recorded result ∨ x.task = .returned result ∨
    x.handler = .received result

theorem carries_next {result : ExchangeResult} (he : x.Enabled e) (h : (x.next e).Carries result) :
    x.Carries result ∨ isExecuted result = true ∨ result = .error .upstreamTimeout ∨
      result = .error .clientCanceled := by
  unfold Carries at h ⊢
  cases e with
  | acquire granted => cases granted <;> simp [next] at h <;> tauto
  | workDone done =>
    simp only [next, TaskPhase.decided.injEq, reduceCtorEq, false_or] at h
    rcases h with rfl | hreceived
    · exact .inr (.inl he.2)
    · exact .inl (.inr (.inr (.inr hreceived)))
  | record done =>
    have hdecided : x.task = .decided done := he
    simp only [next, TaskPhase.recorded.injEq, reduceCtorEq, false_or] at h
    rcases h with rfl | hreceived
    · exact .inl (.inl hdecided)
    · exact .inl (.inr (.inr (.inr hreceived)))
  | taskReturn done =>
    have hrecorded : x.task = .recorded done := he
    simp only [next, TaskPhase.returned.injEq, reduceCtorEq, false_or] at h
    rcases h with rfl | hreceived
    · exact .inl (.inr (.inl hrecorded))
    · exact .inl (.inr (.inr (.inr hreceived)))
  | receive done =>
    have hreturned : x.task = .returned done := he.2
    simp only [next, HandlerPhase.received.injEq] at h
    rcases h with hdecided | hrecorded | hback | rfl
    · exact .inl (.inl hdecided)
    · exact .inl (.inr (.inl hrecorded))
    · exact .inl (.inr (.inr (.inl hback)))
    · exact .inl (.inr (.inr (.inl hreturned)))
  | observeCancellation | workTimedOut =>
    simp only [next, TaskPhase.decided.injEq, reduceCtorEq, false_or] at h
    rcases h with rfl | hreceived
    · simp
    · exact .inl (.inr (.inr (.inr hreceived)))
  | spawn => simp [next] at h
  | _ =>
    simp [next] at h
    tauto

def CarriesAlike (x : Exchange) : Prop := ∀ result, x.Carries result → RecordsAlike result

theorem carriesAlike_start (kind : HandlerKind) : (start kind).CarriesAlike := by
  rintro result (h | h | h | h) <;> cases h

theorem carriesAlike_next (h : x.CarriesAlike) (he : x.Enabled e) : (x.next e).CarriesAlike := by
  intro result hresult
  rcases carries_next he hresult with hold | hdone | rfl | rfl
  · exact h result hold
  · exact recordsAlike_of_isExecuted hdone
  · rintro error ⟨⟩
    rfl
  · rintro error ⟨⟩
    rfl

/-- A failed join that the official handler reports, with nothing but a failure in the slot. -/
def ReportsFailedJoin (x : Exchange) (e : ExchangeEvent) : Prop :=
  ∀ message, e = .recordJoinError message →
    x.kind = .official ∧ (x.lifecycle.terminal = .inFlight ∨ x.lifecycle.terminal = .failed)

theorem terminal_finish (next : ExchangeTerminal)
    (h : x.lifecycle.terminal = .inFlight ∨ x.lifecycle.terminal = next) :
    (x.lifecycle.finish next).1.terminal = next := by
  rw [ExchangeLifecycle.finish_terminal]
  split_ifs with hopen
  · rfl
  · exact h.resolve_left hopen

theorem respond_next (hcoherent : x.Coherent) (hcarries : x.CarriesAlike) (he : x.Enabled e)
    (hmeet : x.ReportsFailedJoin e) {error : RelayError}
    (hout : .respond (.error error) ∈ x.outputs e) :
    (x.next e).lifecycle.terminal = ofError error := by
  cases e with
  | recordError refused =>
    obtain rfl : error = refused := by simpa [outputs] using hout
    have hrefusing : x.handler = .refusing error := he
    have hearly : isEarly x.handler = true := by rw [hrefusing]; rfl
    exact terminal_finish (ofError error) (.inl (hcoherent.recorded.early hearly))
  | respond result =>
    obtain rfl : .error error = result := by simpa [outputs] using hout
    have hreceived : x.handler = .received (.error error) := he
    have hterminal := (hcoherent.recorded.received _ hreceived).2
    exact hterminal.trans (hcarries _ (.inr (.inr (.inr hreceived))) error rfl)
  | recordJoinError message =>
    obtain ⟨hkind, hslot⟩ := hmeet message rfl
    obtain rfl : error = joinErrorResponse x.kind message := by simpa [outputs] using hout
    have hfailed : ofError (joinErrorResponse x.kind message) = .failed := by rw [hkind]; rfl
    rw [hfailed]
    exact terminal_finish .failed hslot
  | acquire granted => cases granted <;> simp [outputs] at hout
  | _ => simp [outputs] at hout

theorem private_join_disagrees {message : String} (hkind : x.kind = .privateCall)
    (hslot : x.lifecycle.terminal ≠ .canceled) :
    (x.next (.recordJoinError message)).lifecycle.terminal ≠
      ofError (joinErrorResponse x.kind message) := by
  have hcanceled : ofError (joinErrorResponse x.kind message) = .canceled := by rw [hkind]; rfl
  have hnext : (x.next (.recordJoinError message)).lifecycle.terminal =
      if x.lifecycle.terminal = .inFlight then .failed else x.lifecycle.terminal :=
    x.lifecycle.finish_terminal .failed
  rw [hcanceled, hnext]
  split_ifs
  · simp
  · exact hslot

/-- Along a run whose failed joins meet the condition, the terminal in the slot is the one
`finish_error` assigns to the error that was answered, and only a canceled exchange is told 499. -/
theorem error_terminals_agree {kind : HandlerKind} {es : List ExchangeEvent} {s : Exchange}
    {t : List ExchangeOutput} (hrun : machine.run (start kind) es = some (s, t))
    (hmeet : machine.StepsMeet ReportsFailedJoin (start kind) es) :
    ∀ error, ExchangeOutput.respond (.error error) ∈ t →
      s.lifecycle.terminal = ofError error ∧
        (error.status = 499 ∨ error.errorCode = "client_closed_request" →
          s.lifecycle.terminal = .canceled) := by
  have hagree : s.Coherent ∧ s.CarriesAlike ∧
      ∀ error, ExchangeOutput.respond (.error error) ∈ t → s.lifecycle.terminal = ofError error := by
    refine machine.run_history (P := fun es s t => machine.StepsMeet ReportsFailedJoin (start kind) es →
      s.Coherent ∧ s.CarriesAlike ∧
        ∀ error, ExchangeOutput.respond (.error error) ∈ t → s.lifecycle.terminal = ofError error)
      ?_ ?_ hrun hmeet
    · exact fun _ => ⟨coherent_start kind, carriesAlike_start kind, fun error h => by cases h⟩
    · intro es s t e s' out hes ih hstep hmeet
      obtain ⟨hcoherent, hcarries, hagree⟩ := ih hmeet.before
      obtain ⟨henabled, rfl, rfl⟩ := machine_step.mp hstep
      refine ⟨coherent_next hcoherent henabled, carriesAlike_next hcarries henabled, ?_⟩
      intro error hrespond
      rcases List.mem_append.mp hrespond with hearlier | hnow
      · have hterminal := hagree error hearlier
        rw [terminal_next (hterminal ▸ ofError_ne_inFlight error), hterminal]
      · exact respond_next hcoherent hcarries henabled (hmeet.last hes) hnow
  intro error hrespond
  have hterminal := hagree.2.2 error hrespond
  refine ⟨hterminal, fun htold => ?_⟩
  have hcanceled : error = .clientCanceled := by
    rcases htold with hstatus | hcode
    · exact RelayError.clientCanceled_of_status hstatus
    · exact RelayError.clientCanceled_of_errorCode hcode
  rw [hterminal, hcanceled]
  rfl

theorem slow_body_answered_as_timed_out : ∃ s t,
    machine.run (start .privateCall) [.acquire true, .bodyTimedOut,
      .recordError .realtimeRequestBodyTimeout] = some (s, t) ∧
    ExchangeOutput.respond (.error .realtimeRequestBodyTimeout) ∈ t ∧
    s.lifecycle.terminal = .timedOut := by
  refine ⟨_, _, rfl, by decide, ?_⟩
  refine (@error_terminals_agree .privateCall [.acquire true, .bodyTimedOut,
    .recordError .realtimeRequestBodyTimeout] _ _ rfl ?_ .realtimeRequestBodyTimeout
    (by decide)).1
  rintro pre e post m t hsplit - message rfl
  have hmem : ExchangeEvent.recordJoinError message ∈
      [.acquire true, .bodyTimedOut, .recordError .realtimeRequestBodyTimeout] := by
    rw [hsplit]
    simp
  simp at hmem

/-- A private call whose upstream task panics: the client is told 499 over a `Failed` slot. -/
theorem panicked_private_task_told_as_canceled : ∃ s t,
    machine.run (start .privateCall) [.acquire true, .bodyRead, .spawn, .taskCrash, .joinError,
      .recordJoinError "task panicked"] = some (s, t) ∧
    ExchangeOutput.respond (.error .clientCanceled) ∈ t ∧
    RelayError.clientCanceled.status = 499 ∧ s.lifecycle.terminal = .failed ∧
    s.lifecycle.terminal ≠ ofError .clientCanceled := by
  refine ⟨_, _, rfl, by decide, rfl, rfl, by decide⟩

end Exchange

end GptLiveProxy
