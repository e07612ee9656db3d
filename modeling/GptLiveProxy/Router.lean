import GptLiveProxy.CallIds

/-!
# The route table and the parsers behind it

The router matches the raw path, segment by segment; a parameter takes one non-empty segment. The
handlers parse the same path once more on their own, so the two readings have to agree: a path a
handler accepts is routed to it, and a routed path is refused for its call id only.
-/

namespace GptLiveProxy
open CharText

inductive RouteHandler
  | healthz
  | readyz
  | rest
  | sideband
  | websocket
  | protectedFallback
deriving DecidableEq

/-- The data plane; every route takes any method. -/
def protectedRoutes : List (String × RouteHandler) :=
  [("/v1/live", .rest), ("/v1/realtime/calls", .rest),
    ("/v1/realtime/calls/{call_id}/accept", .rest), ("/v1/realtime/calls/{call_id}/reject", .rest),
    ("/v1/realtime/calls/{call_id}/refer", .rest), ("/v1/realtime/calls/{call_id}/hangup", .rest),
    ("/v1/realtime/client_secrets", .rest), ("/v1/realtime/sessions", .rest),
    ("/v1/realtime/transcription_sessions", .rest),
    ("/v1/realtime/translations/client_secrets", .rest), ("/v1/realtime/translations/calls", .rest),
    ("/v1/live/{call_id}", .sideband), ("/v1/live/{call_id}/", .sideband),
    ("/v1/realtime/calls/{call_id}", .sideband), ("/v1/realtime/calls/{call_id}/", .sideband),
    ("/v1/realtime", .websocket), ("/v1/realtime/", .websocket),
    ("/v1/realtime/translations", .websocket)]

def routes : List (String × RouteHandler) :=
  ("/healthz", .healthz) :: ("/readyz", .readyz) :: protectedRoutes

inductive RouteSegment
  | fixed (text : Text)
  | callId
deriving DecidableEq

namespace RouteSegment

def parse (segment : Text) : RouteSegment :=
  if segment = "{call_id}".toList then callId else fixed segment

def accepts : RouteSegment → Text → Bool
  | fixed text, segment => segment == text
  | callId, segment => !segment.isEmpty

/-- Some segment is accepted by both. -/
def meets : RouteSegment → RouteSegment → Bool
  | fixed text, fixed other => text == other
  | fixed text, callId => !text.isEmpty
  | callId, fixed text => !text.isEmpty
  | callId, callId => true

theorem meets_of_accepts {p q : RouteSegment} {segment : Text} (hp : p.accepts segment = true)
    (hq : q.accepts segment = true) : p.meets q = true := by
  cases p <;> cases q <;> simp_all [accepts, meets]

end RouteSegment

def routePattern (route : String) : List RouteSegment :=
  (route.toList.splitOn '/').map RouteSegment.parse

def matchSegments : List RouteSegment → List Text → Bool
  | [], [] => true
  | p :: pattern, segment :: segments => p.accepts segment && matchSegments pattern segments
  | _, _ => false

def overlap : List RouteSegment → List RouteSegment → Bool
  | [], [] => true
  | p :: pattern, q :: other => p.meets q && overlap pattern other
  | _, _ => false

def matchesRoute (route : String) (path : Text) : Bool :=
  matchSegments (routePattern route) (path.splitOn '/')

def routeOf (path : Text) : RouteHandler :=
  ((routes.find? fun route => matchesRoute route.1 path).map Prod.snd).getD .protectedFallback

section Table

theorem overlap_of_match {pattern other : List RouteSegment} {segments : List Text}
    (h : matchSegments pattern segments = true) (hother : matchSegments other segments = true) :
    overlap pattern other = true := by
  induction pattern generalizing other segments with
  | nil =>
    cases segments with
    | nil =>
      cases other with
      | nil => rfl
      | cons q other => cases hother
    | cons segment segments => cases h
  | cons p pattern ih =>
    cases segments with
    | nil => cases h
    | cons segment segments =>
      cases other with
      | nil => cases hother
      | cons q other =>
        simp only [matchSegments, Bool.and_eq_true] at h hother
        rw [overlap, RouteSegment.meets_of_accepts h.1 hother.1, ih h.2 hother.2]
        rfl

/-- No path matches two routes, so the order of the table is immaterial. -/
theorem routes_disjoint : ∀ route ∈ routes, ∀ other ∈ routes,
    overlap (routePattern route.1) (routePattern other.1) = true → route = other := by
  decide +kernel

theorem routeOf_eq_of_match {route : String × RouteHandler} {path : Text} (hroute : route ∈ routes)
    (h : matchesRoute route.1 path = true) : routeOf path = route.2 := by
  have hfound : (routes.find? fun route => matchesRoute route.1 path).isSome = true :=
    List.find?_isSome.mpr ⟨route, hroute, h⟩
  obtain ⟨found, hfind⟩ := Option.isSome_iff_exists.mp hfound
  have hmatch := List.find?_some hfind
  have hsame := routes_disjoint found (List.mem_of_find?_eq_some hfind) route hroute
    (overlap_of_match hmatch h)
  rw [routeOf, hfind, hsame]
  rfl

theorem match_of_routeOf {path : Text} (h : routeOf path ≠ .protectedFallback) :
    ∃ route ∈ routes, matchesRoute route.1 path = true ∧ route.2 = routeOf path := by
  unfold routeOf at h ⊢
  cases hfind : routes.find? fun route => matchesRoute route.1 path with
  | none => simp [hfind] at h
  | some route =>
    have hmatch := List.find?_some hfind
    exact ⟨route, List.mem_of_find?_eq_some hfind, hmatch, rfl⟩

end Table

section Patterns

def fixedPattern (path : Text) : List RouteSegment := (path.splitOn '/').map .fixed

/-- The segments of `front`, a call id, and the fixed segments behind it. -/
def callIdPattern (front : Text) (back : List Text) : List RouteSegment :=
  fixedPattern front ++ .callId :: back.map .fixed

theorem splitOn_slash_inj {s t : Text} (h : s.splitOn '/' = t.splitOn '/') : s = t := by
  have hs := @List.intercalate_splitOn _ s _ _ '/'
  rw [← hs, h, List.intercalate_splitOn]

theorem matchSegments_fixed (texts : List Text) (pattern : List RouteSegment)
    (segments : List Text) : matchSegments (texts.map .fixed ++ pattern) segments = true ↔
      ∃ rest, segments = texts ++ rest ∧ matchSegments pattern rest = true := by
  induction texts generalizing segments with
  | nil => simp
  | cons text texts ih =>
    cases segments with
    | nil => simp [matchSegments]
    | cons segment segments =>
      simp only [List.map_cons, List.cons_append, matchSegments, Bool.and_eq_true, ih,
        RouteSegment.accepts, beq_iff_eq, List.cons.injEq]
      constructor
      · rintro ⟨rfl, rest, hrest, hmatch⟩
        exact ⟨rest, ⟨rfl, hrest⟩, hmatch⟩
      · rintro ⟨rest, ⟨rfl, hrest⟩, hmatch⟩
        exact ⟨rfl, rest, hrest, hmatch⟩

theorem matchSegments_nil (segments : List Text) :
    matchSegments [] segments = true ↔ segments = [] := by
  cases segments with
  | nil => simp [matchSegments]
  | cons segment segments => simp [matchSegments]

theorem matchesRoute_fixed {route : String} {fixed path : Text}
    (hroute : routePattern route = fixedPattern fixed) :
    matchesRoute route path = true ↔ path = fixed := by
  rw [matchesRoute, hroute, fixedPattern, ← List.append_nil (List.map _ _), matchSegments_fixed]
  constructor
  · rintro ⟨rest, hsplit, hrest⟩
    rw [(matchSegments_nil rest).mp hrest, List.append_nil] at hsplit
    exact splitOn_slash_inj hsplit
  · rintro rfl
    exact ⟨[], (List.append_nil _).symm, rfl⟩

theorem matchesRoute_callId {route : String} {front : Text} {back : List Text} {path : Text}
    (hroute : routePattern route = callIdPattern front back) :
    matchesRoute route path = true ↔
      ∃ raw, raw ≠ [] ∧ path.splitOn '/' = front.splitOn '/' ++ raw :: back := by
  rw [matchesRoute, hroute, callIdPattern, fixedPattern, matchSegments_fixed]
  constructor
  · rintro ⟨rest, hsplit, hrest⟩
    cases rest with
    | nil => cases hrest
    | cons raw rest =>
      simp only [matchSegments, Bool.and_eq_true] at hrest
      obtain ⟨hraw, hback⟩ := hrest
      rw [← List.append_nil (List.map _ _), matchSegments_fixed] at hback
      obtain ⟨last, rfl, hlast⟩ := hback
      rw [(matchSegments_nil last).mp hlast, List.append_nil] at hsplit
      exact ⟨raw, by simpa [RouteSegment.accepts] using hraw, hsplit⟩
  · rintro ⟨raw, hraw, hsplit⟩
    refine ⟨raw :: back, hsplit, ?_⟩
    simp only [matchSegments, Bool.and_eq_true]
    refine ⟨by simpa [RouteSegment.accepts] using hraw, ?_⟩
    rw [← List.append_nil (List.map _ _), matchSegments_fixed]
    exact ⟨[], (List.append_nil _).symm, rfl⟩

/-- The text of a path whose segments follow a call-id pattern. -/
theorem splitOn_callId_last {front raw path : Text} :
    path.splitOn '/' = front.splitOn '/' ++ [raw] ↔ '/' ∉ raw ∧ path = front ++ '/' :: raw := by
  constructor
  · intro hsplit
    have hraw : '/' ∉ raw := sep_notMem_piece (t := path) (hsplit ▸ by simp)
    refine ⟨hraw, splitOn_slash_inj ?_⟩
    rw [hsplit, List.splitOn_append_cons_self, List.splitOn_eq_singleton hraw]
  · rintro ⟨hraw, rfl⟩
    rw [List.splitOn_append_cons_self, List.splitOn_eq_singleton hraw]

theorem splitOn_callId_then {front raw last path : Text} :
    path.splitOn '/' = front.splitOn '/' ++ [raw, last] ↔
      '/' ∉ raw ∧ '/' ∉ last ∧ path = front ++ '/' :: (raw ++ '/' :: last) := by
  constructor
  · intro hsplit
    have hraw : '/' ∉ raw := sep_notMem_piece (t := path) (hsplit ▸ by simp)
    have hlast : '/' ∉ last := sep_notMem_piece (t := path) (hsplit ▸ by simp)
    refine ⟨hraw, hlast, splitOn_slash_inj ?_⟩
    rw [hsplit, List.splitOn_append_cons_self, splitOn_two hraw hlast]
  · rintro ⟨hraw, hlast, rfl⟩
    rw [List.splitOn_append_cons_self, splitOn_two hraw hlast]

end Patterns

section Rest

theorem live_slash (rest : Text) :
    "/v1/live".toList ++ '/' :: rest = "/v1/live/".toList ++ rest := by
  have hfront : "/v1/live/".toList = "/v1/live".toList ++ ['/'] := by decide
  rw [hfront, List.append_assoc, List.singleton_append]

theorem calls_slash (rest : Text) :
    "/v1/realtime/calls".toList ++ '/' :: rest = "/v1/realtime/calls/".toList ++ rest := by
  have hfront : "/v1/realtime/calls/".toList = "/v1/realtime/calls".toList ++ ['/'] := by decide
  rw [hfront, List.append_assoc, List.singleton_append]

def IsControlPath (raw action path : Text) : Prop :=
  raw ≠ [] ∧ '/' ∉ raw ∧ action ∈ controlActions ∧
    path = "/v1/realtime/calls/".toList ++ (raw ++ '/' :: action)

theorem rest_routes : ∀ route ∈ routes, route.2 = .rest →
    (routePattern route.1 = fixedPattern route.1.toList ∧
      (route.1.toList = "/v1/live".toList ∨ (fixedRestPath route.1.toList).isSome = true)) ∨
    ∃ action ∈ controlActions,
      routePattern route.1 = callIdPattern "/v1/realtime/calls".toList [action] := by
  decide +kernel

theorem control_routes : ∀ action ∈ controlActions, ∃ route ∈ routes, route.2 = .rest ∧
    routePattern route.1 = callIdPattern "/v1/realtime/calls".toList [action] := by
  decide +kernel

theorem routeOf_fixedRestPath {path : Text} (h : (fixedRestPath path).isSome = true) :
    routeOf path = .rest := by
  unfold fixedRestPath at h
  split_ifs at h with h1 h2 h3 h4 h5 h6
  case neg => cases h
  all_goals
    subst path
    decide +kernel

theorem routeOf_rest_iff (path : Text) : routeOf path = .rest ↔
    path = "/v1/live".toList ∨ (fixedRestPath path).isSome = true ∨
      ∃ raw action, IsControlPath raw action path := by
  constructor
  · intro h
    have hrouted : routeOf path ≠ .protectedFallback := by simp [h]
    obtain ⟨route, hroute, hmatch, hhandler⟩ := match_of_routeOf hrouted
    rcases rest_routes route hroute (hhandler.trans h) with
      ⟨hfixed, hpath⟩ | ⟨action, haction, hcontrol⟩
    · rw [(matchesRoute_fixed hfixed).mp hmatch]
      exact hpath.imp_right .inl
    · obtain ⟨raw, hraw, hsplit⟩ := (matchesRoute_callId hcontrol).mp hmatch
      obtain ⟨hslash, -, hpath⟩ := splitOn_callId_then.mp hsplit
      rw [calls_slash] at hpath
      exact .inr (.inr ⟨raw, action, hraw, hslash, haction, hpath⟩)
  · intro h
    rcases h with rfl | hfixed | ⟨raw, action, hraw, hslash, haction, rfl⟩
    · decide +kernel
    · exact routeOf_fixedRestPath hfixed
    · obtain ⟨route, hroute, hhandler, hcontrol⟩ := control_routes action haction
      rw [← hhandler]
      apply routeOf_eq_of_match hroute
      rw [matchesRoute_callId hcontrol]
      have haction' := (controlActions_facts action haction).2.1
      exact ⟨raw, hraw, splitOn_callId_then.mpr ⟨hslash, haction', (calls_slash _).symm⟩⟩

theorem controlPath_iff (raw action rest : Text) :
    IsControlPath raw action ("/v1/realtime/calls/".toList ++ rest) ↔
      raw ≠ [] ∧ action ∈ controlActions ∧ rest.splitOn '/' = [raw, action] := by
  constructor
  · intro h
    obtain ⟨hraw, hslash, haction, hpath⟩ := h
    have hrest := List.append_cancel_left hpath
    rw [hrest, splitOn_two hslash (controlActions_facts action haction).2.1]
    exact ⟨hraw, haction, rfl⟩
  · intro h
    obtain ⟨hraw, haction, hsplit⟩ := h
    have hslash : '/' ∉ raw := sep_notMem_piece (t := rest) (hsplit ▸ by simp)
    have hjoined := splitOn_two hslash (controlActions_facts action haction).2.1
    exact ⟨hraw, hslash, haction, by rw [splitOn_slash_inj (hsplit.trans hjoined.symm)]⟩

theorem controlOperation_isNone (action : Text) :
    (controlOperation action []).isNone = true ↔ action ∉ controlActions := by
  simp only [controlOperation, controlActions, List.mem_cons, List.not_mem_nil, or_false, not_or]
  split_ifs <;> simp_all

theorem decodeCallId_error {decoder : PercentDecoder} {raw : Text} {error : PathError}
    (h : decodeCallId decoder raw = .error error) : error = .invalidCallId := by
  unfold decodeCallId at h
  split_ifs at h
  · cases hdecoded : decodeUtf8 (decoder.decode (utf8 raw)) with
    | some decoded => simp [hdecoded] at h
    | none => simpa [hdecoded] using h.symm
  · cases h
    rfl

theorem validateCallId_error {callId : Text} {error : PathError}
    (h : validateCallId callId = .error error) : error = .invalidCallId := by
  unfold validateCallId at h
  split_ifs at h <;> cases h <;> rfl

/-- Behind the checks on the two segments, a call id is the only thing left to refuse. -/
theorem controlCall_known {decoder : PercentDecoder} {raw action : Text}
    (haction : action ∈ controlActions) :
    (do
      let callId ← decodeCallId decoder raw
      validateCallId callId
      match controlOperation action callId with
      | some operation => .ok operation
      | none => .error .unknownRoute : Except PathError RestOperation) ≠ .error .unknownRoute := by
  cases hdecoded : decodeCallId decoder raw with
  | error error =>
    rw [decodeCallId_error hdecoded]
    intro h
    cases h
  | ok callId =>
    obtain ⟨operation, hoperation⟩ :=
      Option.isSome_iff_exists.mp ((controlActions_facts action haction).2.2 callId)
    rw [Except.ok_bind, hoperation]
    cases hvalid : validateCallId callId with
    | error error =>
      rw [validateCallId_error hvalid]
      intro h
      cases h
    | ok u =>
      intro h
      cases h

/-- A path is unknown to the parser exactly when it is neither fixed nor a control path. -/
theorem parseRestPath_unknown_iff (decoder : PercentDecoder) (path : Text) :
    parseRestPath decoder path = .error .unknownRoute ↔
      ¬ ((fixedRestPath path).isSome = true ∨ ∃ raw action, IsControlPath raw action path) := by
  unfold parseRestPath
  cases hfixed : fixedRestPath path with
  | some operation => simp
  | none =>
    cases hdrop : path.dropPrefix? "/v1/realtime/calls/".toList with
    | none =>
      have hoff : ¬ ∃ raw action, IsControlPath raw action path := by
        rintro ⟨raw, action, -, -, -, hpath⟩
        rw [hpath, dropPrefix?_append] at hdrop
        cases hdrop
      simp [hoff]
    | some rest =>
      obtain rfl := dropPrefix?_eq_some.mp hdrop
      simp only [controlPath_iff, Option.isSome_none, Bool.false_eq_true, false_or]
      -- only a call id and one known action between the slashes reach the decoder
      split
      next raw action hsplit =>
        have hexists : (∃ raw' action', raw' ≠ [] ∧ action' ∈ controlActions ∧
            rest.splitOn '/' = [raw', action']) ↔ raw ≠ [] ∧ action ∈ controlActions := by
          simp [hsplit]
        rw [hexists]
        split_ifs with hempty hunknown
        · have hnot : ¬ (raw ≠ [] ∧ action ∈ controlActions) := by
            rintro ⟨hraw, haction⟩
            exact hempty.elim hraw (controlActions_facts action haction).1
          exact iff_of_true rfl hnot
        · rw [controlOperation_isNone] at hunknown
          exact iff_of_true rfl fun h => hunknown h.2
        · rw [controlOperation_isNone, not_not] at hunknown
          have hraw : raw ≠ [] := fun h => hempty (.inl h)
          exact iff_of_false (controlCall_known hunknown) (not_not.mpr ⟨hraw, hunknown⟩)
      next hother =>
        have hnone : ¬ ∃ raw action, raw ≠ [] ∧ action ∈ controlActions ∧
            rest.splitOn '/' = [raw, action] := by
          rintro ⟨raw, action, -, -, hsplit⟩
          exact hother raw action hsplit
        exact iff_of_true rfl hnone

theorem restOperation_unknown_iff (decoder : PercentDecoder) (path : Text) :
    restOperation decoder path = .error .unknownRoute ↔ routeOf path ≠ .rest := by
  rw [Ne, routeOf_rest_iff, restOperation]
  split_ifs with hlive
  · simp [hlive]
  · simp only [hlive, false_or]
    rw [← parseRestPath_unknown_iff decoder]
    cases parseRestPath decoder path with
    | ok operation => simp [Except.mapError]
    | error error => cases error <;> simp [Except.mapError, RestContractError.ofPathError]

end Rest

section Sideband

def IsSidebandPath (front raw path : Text) : Prop :=
  raw ≠ [] ∧ '/' ∉ raw ∧
    ∃ slash : Bool, path = front ++ '/' :: (raw ++ if slash then ['/'] else [])

theorem sideband_routes : ∀ route ∈ routes, route.2 = .sideband →
    ∃ front ∈ ["/v1/live".toList, "/v1/realtime/calls".toList],
      ∃ back ∈ [[], [[]]], routePattern route.1 = callIdPattern front back := by
  decide +kernel

theorem routes_sideband : ∀ front ∈ ["/v1/live".toList, "/v1/realtime/calls".toList],
    ∀ back ∈ [[], [[]]], ∃ route ∈ routes, route.2 = .sideband ∧
      routePattern route.1 = callIdPattern front back := by
  decide +kernel

theorem matchesRoute_sideband {route : String} {front : Text} {back : List Text} {path : Text}
    (hroute : routePattern route = callIdPattern front back) (hback : back ∈ [[], [[]]]) :
    matchesRoute route path = true → ∃ raw, IsSidebandPath front raw path := by
  rw [matchesRoute_callId hroute]
  rintro ⟨raw, hraw, hsplit⟩
  rcases List.mem_pair.mp hback with rfl | rfl
  · obtain ⟨hslash, rfl⟩ := splitOn_callId_last.mp hsplit
    exact ⟨raw, hraw, hslash, false, by simp⟩
  · obtain ⟨hslash, -, rfl⟩ := splitOn_callId_then.mp hsplit
    exact ⟨raw, hraw, hslash, true, rfl⟩

theorem routeOf_sidebandPath {front raw path : Text}
    (hfront : front ∈ ["/v1/live".toList, "/v1/realtime/calls".toList])
    (h : IsSidebandPath front raw path) : routeOf path = .sideband := by
  obtain ⟨hraw, hslash, slash, rfl⟩ := h
  have hroutes := routes_sideband front hfront
  cases slash with
  | false =>
    obtain ⟨route, hroute, hhandler, hpattern⟩ := hroutes [] (by simp)
    rw [← hhandler]
    apply routeOf_eq_of_match hroute
    rw [matchesRoute_callId hpattern]
    exact ⟨raw, hraw, splitOn_callId_last.mpr ⟨hslash, by simp⟩⟩
  | true =>
    obtain ⟨route, hroute, hhandler, hpattern⟩ := hroutes [[]] (by simp)
    rw [← hhandler]
    apply routeOf_eq_of_match hroute
    rw [matchesRoute_callId hpattern]
    exact ⟨raw, hraw, splitOn_callId_then.mpr ⟨hslash, List.not_mem_nil, rfl⟩⟩

theorem routeOf_sideband_iff (path : Text) : routeOf path = .sideband ↔
    ∃ front ∈ ["/v1/live".toList, "/v1/realtime/calls".toList], ∃ raw,
      IsSidebandPath front raw path := by
  constructor
  · intro h
    have hrouted : routeOf path ≠ .protectedFallback := by simp [h]
    obtain ⟨route, hroute, hmatch, hhandler⟩ := match_of_routeOf hrouted
    obtain ⟨front, hfront, back, hback, hpattern⟩ :=
      sideband_routes route hroute (hhandler.trans h)
    exact ⟨front, hfront, matchesRoute_sideband hpattern hback hmatch⟩
  · rintro ⟨front, hfront, raw, h⟩
    exact routeOf_sidebandPath hfront h

theorem raw_of_sidebandCallId {decoder : PercentDecoder} {raw callId : Text}
    (h : sidebandCallId decoder raw = some callId) : raw ≠ [] ∧ '/' ∉ raw := by
  have hslash : '/' ∉ raw := by
    intro hmem
    rw [sidebandCallId, if_pos hmem] at h
    cases h
  refine ⟨?_, hslash⟩
  rintro rfl
  rw [sidebandCallId_eq hslash, admittedCallId_empty] at h
  cases h

/-- One trailing slash goes with the path. -/
theorem trimmed_eq {path trimmed : Text} (h : (path.dropSuffix? ['/']).getD path = trimmed) :
    ∃ slash : Bool, path = trimmed ++ if slash then ['/'] else [] := by
  cases hdrop : path.dropSuffix? ['/'] with
  | none =>
    rw [hdrop] at h
    exact ⟨false, by simpa using h⟩
  | some front =>
    rw [hdrop] at h
    obtain rfl : front = trimmed := h
    exact ⟨true, dropSuffix?_eq_some.mp hdrop⟩

theorem parseSidebandTarget_live {decoder : PercentDecoder} {raw path : Text}
    (h : IsSidebandPath "/v1/live".toList raw path) (query : Text → Option Text) :
    parseSidebandTarget decoder path query =
      (admittedCallId decoder raw).map .framelessPath := by
  obtain ⟨-, hslash, slash, rfl⟩ := h
  rw [live_slash]
  exact parseSidebandTarget_frameless hslash slash query

theorem parseSidebandTarget_realtimeCalls {decoder : PercentDecoder} {raw path : Text}
    (h : IsSidebandPath "/v1/realtime/calls".toList raw path) (query : Text → Option Text) :
    parseSidebandTarget decoder path query =
      (admittedCallId decoder raw).map .realtimeCallsPath := by
  obtain ⟨-, hslash, slash, rfl⟩ := h
  rw [calls_slash]
  exact parseSidebandTarget_calls hslash slash query

/-- A target with its call id in the path comes from a routed path; the third kind does not. -/
theorem routeOf_of_target {decoder : PercentDecoder} {path : Text} {query : Text → Option Text}
    {target : SidebandTarget} (h : parseSidebandTarget decoder path query = some target) :
    routeOf path = .sideband ∨
      (path = "/v1/realtime".toList ∨ path = "/v1/realtime/".toList) ∧
        ∃ callId, target = .realtimeQuery callId := by
  unfold parseSidebandTarget at h
  obtain ⟨slash, hpath⟩ := @trimmed_eq path _ rfl
  generalize (path.dropSuffix? ['/']).getD path = trimmed at h hpath
  have hsideband (front : Text) {rest : Text} {callId : Text}
      (hfront : front ∈ ["/v1/live".toList, "/v1/realtime/calls".toList])
      (htrimmed : trimmed = front ++ '/' :: rest)
      (hcall : sidebandCallId decoder rest = some callId) : routeOf path = .sideband := by
    obtain ⟨hne, hslash⟩ := raw_of_sidebandCallId hcall
    apply routeOf_sidebandPath hfront
    exact ⟨hne, hslash, slash, by rw [hpath, htrimmed, List.append_assoc, List.cons_append]⟩
  simp only at h
  split at h
  next rest hlive =>
    obtain ⟨callId, hcall, -⟩ := Option.map_eq_some_iff.mp h
    have htrimmed := (dropPrefix?_eq_some.mp hlive).trans (live_slash rest).symm
    exact .inl (hsideband "/v1/live".toList (by simp) htrimmed hcall)
  next hlive =>
    split at h
    next rest hcalls =>
      obtain ⟨callId, hcall, -⟩ := Option.map_eq_some_iff.mp h
      have htrimmed := (dropPrefix?_eq_some.mp hcalls).trans (calls_slash rest).symm
      exact .inl (hsideband "/v1/realtime/calls".toList (by simp) htrimmed hcall)
    next hcalls =>
      split_ifs at h with hrealtime
      obtain ⟨callId, -, htarget⟩ := Option.map_eq_some_iff.mp h
      refine .inr ⟨?_, callId, htarget.symm⟩
      subst hrealtime
      cases slash with
      | false => exact .inl hpath
      | true => exact .inr hpath

end Sideband

section WebSocketRoutes

theorem websocket_routes : ∀ route ∈ routes, route.2 = .websocket →
    routePattern route.1 = fixedPattern route.1.toList ∧
      (isWebsocketRoute route.1.toList = true ∨ route.1.toList = "/v1/realtime/".toList) := by
  decide +kernel

theorem routeOf_websocket_iff (path : Text) : routeOf path = .websocket ↔
    isWebsocketRoute path = true ∨ path = "/v1/realtime/".toList := by
  constructor
  · intro h
    have hrouted : routeOf path ≠ .protectedFallback := by simp [h]
    obtain ⟨route, hroute, hmatch, hhandler⟩ := match_of_routeOf hrouted
    obtain ⟨hfixed, hpath⟩ := websocket_routes route hroute (hhandler.trans h)
    rwa [← (matchesRoute_fixed hfixed).mp hmatch] at hpath
  · intro h
    simp only [isWebsocketRoute, Bool.or_eq_true, beq_iff_eq] at h
    rcases h with (rfl | rfl) | rfl
    all_goals decide +kernel

end WebSocketRoutes

/-- The route table and the parsers agree. The REST parser calls exactly the unrouted paths
unknown; the sideband paths are those with one segment behind a prefix, refused for that segment
only, so the query form of the sideband parser is never reached behind the router. -/
theorem dispatch_agrees (decoder : PercentDecoder) (path : Text) :
    (restOperation decoder path = .error .unknownRoute ↔ routeOf path ≠ .rest) ∧
    (routeOf path = .sideband ↔ ∃ raw,
      (IsSidebandPath "/v1/live".toList raw path ∧
        ∀ query, parseSidebandTarget decoder path query =
          (admittedCallId decoder raw).map .framelessPath) ∨
      (IsSidebandPath "/v1/realtime/calls".toList raw path ∧
        ∀ query, parseSidebandTarget decoder path query =
          (admittedCallId decoder raw).map .realtimeCallsPath)) ∧
    (∀ query target, parseSidebandTarget decoder path query = some target →
      routeOf path = .sideband ∨
        routeOf path = .websocket ∧ ∃ callId, target = .realtimeQuery callId) ∧
    (routeOf path = .websocket ↔
      isWebsocketRoute path = true ∨ path = "/v1/realtime/".toList) := by
  refine ⟨restOperation_unknown_iff decoder path, ?_, ?_, routeOf_websocket_iff path⟩
  · rw [routeOf_sideband_iff]
    constructor
    · rintro ⟨front, hfront, raw, hpath⟩
      refine ⟨raw, ?_⟩
      rcases List.mem_pair.mp hfront with rfl | rfl
      · exact .inl ⟨hpath, parseSidebandTarget_live hpath⟩
      · exact .inr ⟨hpath, parseSidebandTarget_realtimeCalls hpath⟩
    · rintro ⟨raw, ⟨hpath, -⟩ | ⟨hpath, -⟩⟩
      · exact ⟨_, by simp, raw, hpath⟩
      · exact ⟨_, by simp, raw, hpath⟩
  · intro query target htarget
    refine (routeOf_of_target htarget).imp_right ?_
    rintro ⟨hpath, hquery⟩
    refine ⟨(routeOf_websocket_iff path).mpr ?_, hquery⟩
    rcases hpath with rfl | rfl
    · exact .inl rfl
    · exact .inr rfl

end GptLiveProxy
