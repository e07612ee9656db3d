import GptLiveProxy.CappedReads

/-!
# Errors of a request body

A client that vanished while it sent its body has cancelled the request; any other failure of the
body is the request's own fault. The classifier walks the source chain of the stream's error to the
first one that decides, and no message text is looked at. Together with the cap a body read has
four outcomes.
-/

namespace GptLiveProxy

/-- The kinds of an I/O error that mean the peer went away, and every other kind by its name. -/
inductive IoErrorKind
  | connectionReset
  | connectionAborted
  | brokenPipe
  | notConnected
  | unexpectedEof
  | timedOut
  | other (kind : String)
deriving DecidableEq

def isDisconnectKind : IoErrorKind → Bool
  | .connectionReset | .connectionAborted | .brokenPipe | .notConnected | .unexpectedEof
  | .timedOut => true
  | .other _ => false

/-- One error of a chain: what it downcasts to, and what it says of itself then. -/
inductive ErrorSource
  | io (kind : IoErrorKind)
  | hyper (incompleteMessage canceled closed : Bool)
  | unknown
deriving DecidableEq

/-- An error of the body stream: its message, and the chain that starts with the error itself. -/
structure BodyError where
  message : String
  chain : List ErrorSource
deriving DecidableEq

def classifyChain (message : String) : List ErrorSource → RelayError
  | [] => .bodyUnreadable message
  | .io kind :: _ => if isDisconnectKind kind then .clientCanceled else .bodyUnreadable message
  | .hyper incompleteMessage canceled closed :: sources =>
    if incompleteMessage || canceled || closed then .clientCanceled
    else classifyChain message sources
  | .unknown :: sources => classifyChain message sources

def classifyBodyError (error : BodyError) : RelayError := classifyChain error.message error.chain

def readStream (maxBytes : Nat) (stream : List (Except BodyError (List UInt8))) :
    Except RelayError (List UInt8) :=
  readCapped maxBytes [] (stream.map (Except.mapError classifyBodyError))

section Chain

def ErrorSource.tellsGone : ErrorSource → Bool
  | .io kind => isDisconnectKind kind
  | .hyper incompleteMessage canceled closed => incompleteMessage || canceled || closed
  | .unknown => false

/-- The walk ends here: at any I/O error, and at a transport error of a peer that is gone. -/
def ErrorSource.decides : ErrorSource → Bool
  | .io _ => true
  | source => source.tellsGone

/-- The first error that decides tells so. -/
def BodyError.PeerGone (error : BodyError) : Prop :=
  (error.chain.find? ErrorSource.decides).any ErrorSource.tellsGone = true

instance (error : BodyError) : Decidable error.PeerGone := by
  unfold BodyError.PeerGone
  infer_instance

theorem classifyChain_eq (message : String) (sources : List ErrorSource) :
    classifyChain message sources =
      if (sources.find? ErrorSource.decides).any ErrorSource.tellsGone then .clientCanceled
      else .bodyUnreadable message := by
  induction sources with
  | nil => rfl
  | cons source sources ih =>
    cases source with
    | io kind => rfl
    | unknown =>
      have hdecides : ErrorSource.unknown.decides = false := rfl
      rw [classifyChain, ih, List.find?_cons_of_neg (by simp [hdecides])]
    | hyper incompleteMessage canceled closed =>
      have hdecides : (ErrorSource.hyper incompleteMessage canceled closed).decides =
          (incompleteMessage || canceled || closed) := rfl
      rw [classifyChain]
      by_cases hgone : (incompleteMessage || canceled || closed) = true
      · rw [if_pos hgone, List.find?_cons_of_pos (hdecides.trans hgone), Option.any_some]
        exact (if_pos hgone).symm
      · rw [if_neg hgone, ih, List.find?_cons_of_neg (hdecides ▸ hgone)]

theorem classifyBodyError_eq (error : BodyError) :
    classifyBodyError error =
      if error.PeerGone then .clientCanceled else .bodyUnreadable error.message :=
  classifyChain_eq error.message error.chain

/-- A transport error that does not tell that the peer is gone leaves the verdict to the rest. -/
example : classifyBodyError ⟨"read", [.unknown, .hyper false false false, .io .brokenPipe]⟩ =
    .clientCanceled := by decide

end Chain

section Reading
variable {cap : Nat} {buffer : List UInt8}

theorem stream_cases {ε α : Type*} (stream : List (Except ε α)) :
    (∃ chunks : List α, stream = chunks.map Except.ok) ∨
      ∃ (front : List α) (error : ε) (rest : List (Except ε α)),
        stream = front.map Except.ok ++ .error error :: rest := by
  induction stream with
  | nil => exact .inl ⟨[], rfl⟩
  | cons item stream ih =>
    cases item with
    | error error => exact .inr ⟨[], error, stream, rfl⟩
    | ok chunk =>
      obtain ⟨chunks, rfl⟩ | ⟨front, error, rest, rfl⟩ := ih
      · exact .inl ⟨chunk :: chunks, rfl⟩
      · exact .inr ⟨chunk :: front, error, rest, rfl⟩

theorem readCapped_append (front : List (List UInt8))
    (rest : List (Except RelayError (List UInt8))) :
    readCapped cap buffer (front.map .ok ++ rest) =
      readCapped cap buffer (front.map .ok) >>= fun kept => readCapped cap kept rest := by
  induction front generalizing buffer with
  | nil => rfl
  | cons chunk front ih =>
    rw [List.map_cons, List.cons_append, readCapped, readCapped]
    by_cases hempty : chunk = []
    · rw [if_pos hempty, if_pos hempty, ih]
    · rw [if_neg hempty, if_neg hempty]
      by_cases hlarge : min (buffer.length + chunk.length) USIZE_MAX > cap
      · rw [if_pos hlarge, if_pos hlarge]
        rfl
      · rw [if_neg hlarge, if_neg hlarge, ih]

theorem map_classify_ok (front : List (List UInt8)) :
    (front.map Except.ok).map (Except.mapError classifyBodyError) = front.map .ok := by
  rw [List.map_map]
  rfl

theorem readStream_front {front : List (List UInt8)} (h : Allocated cap [] front)
    (hfits : front.flatten.length ≤ cap) (rest : List (Except BodyError (List UInt8))) :
    readStream cap (front.map .ok ++ rest) =
      readCapped cap front.flatten (rest.map (Except.mapError classifyBodyError)) := by
  have hfront : readCapped cap [] (front.map .ok) = .ok front.flatten := by
    rw [readCapped_eq_loop (Nat.zero_le cap) h, cappedLoop_eq_ok (Nat.zero_le cap)]
    exact ⟨by simpa using hfits, rfl⟩
  rw [readStream, List.map_append, map_classify_ok, readCapped_append, hfront]
  rfl

/-- How the read of a stream ends, and where. -/
inductive BodyOutcome (cap : Nat) (stream : List (Except BodyError (List UInt8))) :
    Except RelayError (List UInt8) → Prop
  | whole (chunks : List (List UInt8)) (hstream : stream = chunks.map .ok)
      (hfits : chunks.flatten.length ≤ cap) : BodyOutcome cap stream (.ok chunks.flatten)
  | tooLarge (front : List (List UInt8)) (chunk : List UInt8)
      (rest : List (Except BodyError (List UInt8)))
      (hstream : stream = front.map .ok ++ .ok chunk :: rest)
      (hfits : front.flatten.length ≤ cap) (hlarge : cap < front.flatten.length + chunk.length) :
      BodyOutcome cap stream (.error .bodyTooLarge)
  | canceled (front : List (List UInt8)) (error : BodyError)
      (rest : List (Except BodyError (List UInt8)))
      (hstream : stream = front.map .ok ++ .error error :: rest)
      (hfits : front.flatten.length ≤ cap) (hgone : error.PeerGone) :
      BodyOutcome cap stream (.error .clientCanceled)
  | unreadable (front : List (List UInt8)) (error : BodyError)
      (rest : List (Except BodyError (List UInt8)))
      (hstream : stream = front.map .ok ++ .error error :: rest)
      (hfits : front.flatten.length ≤ cap) (hpresent : ¬error.PeerGone) :
      BodyOutcome cap stream (.error (.bodyUnreadable error.message))

def StreamAllocated (cap : Nat) (stream : List (Except BodyError (List UInt8))) : Prop :=
  ∀ front rest, stream = front.map .ok ++ rest → Allocated cap [] front

theorem streamAllocated_of_total {stream : List (Except BodyError (List UInt8))}
    (h : (stream.filterMap Except.toOption).flatten.length ≤ ISIZE_MAX) :
    StreamAllocated cap stream := by
  rintro front rest rfl
  have hfront : (front.map Except.ok).filterMap (@Except.toOption BodyError (List UInt8)) = front := by
    rw [List.filterMap_map]
    exact List.filterMap_some
  rw [List.filterMap_append, hfront] at h
  exact (allocated_of_total h).front

theorem BodyOutcome.eq {stream : List (Except BodyError (List UInt8))}
    {result : Except RelayError (List UInt8)} (hstream : StreamAllocated cap stream)
    (h : BodyOutcome cap stream result) : readStream cap stream = result := by
  cases h with
  | whole chunks heq hfits =>
    subst heq
    have hchunks := hstream chunks [] (List.append_nil _).symm
    have := readStream_front hchunks hfits []
    rw [List.append_nil] at this
    exact this
  | tooLarge front chunk rest heq hfits hlarge =>
    subst heq
    have hfront := hstream front _ rfl
    have hall := hstream (front ++ [chunk]) rest (by simp)
    have hsum : min (front.flatten.length + chunk.length) USIZE_MAX =
        front.flatten.length + chunk.length := by
      obtain ⟨hkept, hchunk⟩ := hall front chunk [] rfl (by simpa using hfits)
      rw [List.nil_append] at hkept
      have hroom : ISIZE_MAX + ISIZE_MAX ≤ USIZE_MAX := by decide
      omega
    have hsome : chunk ≠ [] := by
      rintro rfl
      rw [List.length_nil] at hlarge
      omega
    rw [readStream_front hfront hfits, List.map_cons]
    change readCapped cap front.flatten (.ok chunk :: _) = _
    rw [readCapped, if_neg hsome, hsum, if_pos hlarge]
  | canceled front error rest heq hfits hgone =>
    subst heq
    rw [readStream_front (hstream front _ rfl) hfits, List.map_cons]
    change Except.error (classifyBodyError error) = _
    rw [classifyBodyError_eq, if_pos hgone]
  | unreadable front error rest heq hfits hpresent =>
    subst heq
    rw [readStream_front (hstream front _ rfl) hfits, List.map_cons]
    change Except.error (classifyBodyError error) = _
    rw [classifyBodyError_eq, if_neg hpresent]

theorem BodyOutcome.of_large {front : List (List UInt8)} (hlarge : cap < front.flatten.length)
    (rest : List (Except BodyError (List UInt8))) :
    BodyOutcome cap (front.map .ok ++ rest) (.error .bodyTooLarge) := by
  obtain ⟨before, chunk, after, rfl, hfits, hgt, -⟩ :=
    @cappedLoop_of_gt (fun _ => .bodyTooLarge) cap [] front (Nat.zero_le cap) (by simpa using hlarge)
  rw [List.length_nil, Nat.zero_add] at hfits hgt
  exact .tooLarge before chunk (after.map .ok ++ rest) (by simp) hfits hgt

theorem exists_bodyOutcome (cap : Nat) (stream : List (Except BodyError (List UInt8))) :
    ∃ result, BodyOutcome cap stream result := by
  obtain ⟨chunks, heq⟩ | ⟨front, error, rest, heq⟩ := stream_cases stream
  · by_cases hfits : chunks.flatten.length ≤ cap
    · exact ⟨_, .whole chunks heq hfits⟩
    · have := BodyOutcome.of_large (Nat.lt_of_not_le hfits) []
      rw [List.append_nil, ← heq] at this
      exact ⟨_, this⟩
  · by_cases hfits : front.flatten.length ≤ cap
    · by_cases hgone : error.PeerGone
      · exact ⟨_, .canceled front error rest heq hfits hgone⟩
      · exact ⟨_, .unreadable front error rest heq hfits hgone⟩
    · have := BodyOutcome.of_large (Nat.lt_of_not_le hfits) (.error error :: rest)
      rw [← heq] at this
      exact ⟨_, this⟩

/-- A body read ends in one of four ways, by what comes first on the stream: its end, a chunk that
does not fit, or an error; and an error is the client's leaving exactly when the first one of its
chain that decides says that the peer is gone. -/
theorem body_reads_end_four_ways (cap : Nat) (stream : List (Except BodyError (List UInt8)))
    (hstream : StreamAllocated cap stream) (result : Except RelayError (List UInt8)) :
    readStream cap stream = result ↔ BodyOutcome cap stream result := by
  constructor
  · rintro rfl
    obtain ⟨result, h⟩ := exists_bodyOutcome cap stream
    rw [h.eq hstream]
    exact h
  · exact fun h => h.eq hstream

end Reading

def resetUpload : List (Except BodyError (List UInt8)) :=
  [.ok [1, 2], .ok [], .ok [3, 4], .error ⟨"reset", [.unknown, .io .connectionReset]⟩, .ok [5]]

theorem reset_upload_is_canceled :
    StreamAllocated 4 resetUpload ∧ readStream 4 resetUpload = .error .clientCanceled := by
  have hallocated : StreamAllocated 4 resetUpload := streamAllocated_of_total (by decide)
  exact ⟨hallocated, (body_reads_end_four_ways 4 resetUpload hallocated _).2
    (.canceled [[1, 2], [], [3, 4]] _ _ rfl (by decide) (by decide))⟩

end GptLiveProxy
