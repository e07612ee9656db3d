import GptLiveProxy.CallBody
import GptLiveProxy.Exchange

/-!
# Capped reads do not see the cuts

The request reader and the response reader are two loops over chunks. On a stream without
transport errors both are one loop that adds up lengths, and that loop computes a function of the
concatenation: all bytes when they fit the cap, an error otherwise. Only the total the response
reader reports depends on where the stream was cut.
-/

namespace GptLiveProxy

/-- No allocation is larger, so no buffer and no chunk. -/
def ISIZE_MAX : Nat := 2 ^ 63 - 1

/-- The bytes kept when the loop gets to a chunk, and the chunk, are allocations of the program. -/
def Allocated (cap : Nat) (buffer : List UInt8) (chunks : List (List UInt8)) : Prop :=
  ∀ front chunk rest, chunks = front ++ chunk :: rest →
    (buffer ++ front.flatten).length ≤ cap →
      (buffer ++ front.flatten).length ≤ ISIZE_MAX ∧ chunk.length ≤ ISIZE_MAX

def FirstAbove (cap : Nat) (chunks : List (List UInt8)) (total : Nat) : Prop :=
  ∃ front chunk rest, chunks = front ++ chunk :: rest ∧ front.flatten.length ≤ cap ∧
    total = front.flatten.length + chunk.length ∧ cap < total

/-- What both readers do, without skipping empty chunks and without saturation. -/
def cappedLoop (reject : Nat → RelayError) (cap : Nat) (buffer : List UInt8) :
    List (List UInt8) → Except RelayError (List UInt8)
  | [] => .ok buffer
  | chunk :: chunks =>
    if buffer.length + chunk.length ≤ cap then cappedLoop reject cap (buffer ++ chunk) chunks
    else .error (reject (buffer.length + chunk.length))

section Allocation
variable {cap : Nat} {buffer : List UInt8} {chunks : List (List UInt8)}

theorem allocated_of_total (h : (buffer ++ chunks.flatten).length ≤ ISIZE_MAX) :
    Allocated cap buffer chunks := by
  rintro front chunk rest rfl -
  simp only [List.flatten_append, List.flatten_cons, List.length_append] at h ⊢
  omega

theorem Allocated.tail {chunk : List UInt8} (h : Allocated cap buffer (chunk :: chunks)) :
    Allocated cap (buffer ++ chunk) chunks := by
  rintro front next rest rfl hfits
  rw [List.append_assoc] at hfits ⊢
  exact h (chunk :: front) next rest rfl hfits

theorem Allocated.front {rest : List (List UInt8)} (h : Allocated cap buffer (chunks ++ rest)) :
    Allocated cap buffer chunks := by
  rintro front chunk rest' rfl hfits
  exact h front chunk (rest' ++ rest) (by simp) hfits

theorem Allocated.sum_lt {chunk : List UInt8} (h : Allocated cap buffer (chunk :: chunks))
    (hbuffer : buffer.length ≤ cap) :
    min (buffer.length + chunk.length) USIZE_MAX = buffer.length + chunk.length := by
  obtain ⟨hkept, hchunk⟩ := h [] chunk chunks rfl (by simpa using hbuffer)
  simp only [List.flatten_nil, List.append_nil] at hkept
  have hroom : ISIZE_MAX + ISIZE_MAX ≤ USIZE_MAX := by decide
  omega

end Allocation

section Loop
variable {reject : Nat → RelayError} {cap : Nat} {buffer : List UInt8} {chunks : List (List UInt8)}

theorem cappedLoop_of_le (h : buffer.length + chunks.flatten.length ≤ cap) :
    cappedLoop reject cap buffer chunks = .ok (buffer ++ chunks.flatten) := by
  induction chunks generalizing buffer with
  | nil => rw [cappedLoop, List.flatten_nil, List.append_nil]
  | cons chunk chunks ih =>
    rw [List.flatten_cons, List.length_append] at h
    have hnext : (buffer ++ chunk).length + chunks.flatten.length ≤ cap := by
      rw [List.length_append]
      omega
    rw [cappedLoop, if_pos (by omega), ih hnext, List.flatten_cons, List.append_assoc]

theorem cappedLoop_of_gt (hbuffer : buffer.length ≤ cap)
    (h : cap < buffer.length + chunks.flatten.length) :
    ∃ front chunk rest, chunks = front ++ chunk :: rest ∧
      buffer.length + front.flatten.length ≤ cap ∧
      cap < buffer.length + front.flatten.length + chunk.length ∧
      cappedLoop reject cap buffer chunks =
        .error (reject (buffer.length + front.flatten.length + chunk.length)) := by
  induction chunks generalizing buffer with
  | nil =>
    rw [List.flatten_nil, List.length_nil] at h
    omega
  | cons chunk chunks ih =>
    rw [List.flatten_cons, List.length_append] at h
    by_cases hfits : buffer.length + chunk.length ≤ cap
    · have hkept : (buffer ++ chunk).length = buffer.length + chunk.length := List.length_append
      obtain ⟨front, next, rest, rfl, hle, hgt, hloop⟩ := @ih (buffer ++ chunk) (by omega) (by omega)
      refine ⟨chunk :: front, next, rest, rfl, ?_, ?_, ?_⟩
      · rw [List.flatten_cons, List.length_append]
        omega
      · rw [List.flatten_cons, List.length_append]
        omega
      · rw [cappedLoop, if_pos hfits, hloop, hkept, List.flatten_cons, List.length_append,
          ← Nat.add_assoc]
    · refine ⟨[], chunk, chunks, rfl, by simpa using hbuffer, ?_, ?_⟩
      · rw [List.flatten_nil, List.length_nil]
        omega
      · rw [cappedLoop, if_neg hfits]
        rfl

theorem cappedLoop_append (rest : List (List UInt8)) :
    cappedLoop reject cap buffer (chunks ++ rest) =
      cappedLoop reject cap buffer chunks >>= fun kept => cappedLoop reject cap kept rest := by
  induction chunks generalizing buffer with
  | nil => rfl
  | cons chunk chunks ih =>
    rw [List.cons_append, cappedLoop, cappedLoop]
    split_ifs with hfits
    · exact ih
    · rfl

theorem cappedLoop_eq_ok (hbuffer : buffer.length ≤ cap) {bytes : List UInt8} :
    cappedLoop reject cap buffer chunks = .ok bytes ↔
      buffer.length + chunks.flatten.length ≤ cap ∧ bytes = buffer ++ chunks.flatten := by
  by_cases h : buffer.length + chunks.flatten.length ≤ cap
  · rw [cappedLoop_of_le h, and_iff_right h]
    exact ⟨fun heq => (Except.ok.inj heq).symm, fun heq => congrArg Except.ok heq.symm⟩
  · obtain ⟨front, chunk, rest, -, -, -, hloop⟩ :=
      @cappedLoop_of_gt reject cap buffer chunks hbuffer (Nat.lt_of_not_le h)
    rw [hloop]
    constructor
    · intro heq
      cases heq
    · rintro ⟨hle, -⟩
      exact absurd hle h

/-- A reader that skips empty chunks and adds with saturation is the loop, as long as its bytes are
allocated. -/
theorem eq_cappedLoop {ε : Type*}
    {read : List UInt8 → List (Except ε (List UInt8)) → Except RelayError (List UInt8)}
    (hnil : ∀ buffer, read buffer [] = .ok buffer)
    (hcons : ∀ buffer chunk rest, read buffer (.ok chunk :: rest) =
      if chunk = [] then read buffer rest
      else if min (buffer.length + chunk.length) USIZE_MAX > cap then
        .error (reject (min (buffer.length + chunk.length) USIZE_MAX))
      else read (buffer ++ chunk) rest)
    (hbuffer : buffer.length ≤ cap) (h : Allocated cap buffer chunks) :
    read buffer (chunks.map .ok) = cappedLoop reject cap buffer chunks := by
  induction chunks generalizing buffer with
  | nil => exact hnil buffer
  | cons chunk chunks ih =>
    have htail := h.tail
    rw [List.map_cons, hcons, cappedLoop, h.sum_lt hbuffer]
    by_cases hempty : chunk = []
    · subst hempty
      rw [List.append_nil] at htail
      rw [if_pos rfl, List.length_nil, Nat.add_zero, if_pos hbuffer, List.append_nil]
      exact ih hbuffer htail
    · rw [if_neg hempty]
      by_cases hfits : buffer.length + chunk.length ≤ cap
      · rw [if_neg (Nat.not_lt.mpr hfits), if_pos hfits]
        exact ih (List.length_append ▸ hfits) htail
      · rw [if_pos (Nat.lt_of_not_le hfits), if_neg hfits]

theorem readCapped_eq_loop (hbuffer : buffer.length ≤ cap) (h : Allocated cap buffer chunks) :
    readCapped cap buffer (chunks.map .ok) =
      cappedLoop (fun _ => .bodyTooLarge) cap buffer chunks :=
  eq_cappedLoop (fun _ => rfl) (fun _ _ _ => rfl) hbuffer h

theorem readResponse_eq_loop (hbuffer : buffer.length ≤ cap) (h : Allocated cap buffer chunks) :
    readResponse cap buffer (chunks.map .ok) = cappedLoop .responseTooLarge cap buffer chunks :=
  eq_cappedLoop (fun _ => rfl) (fun _ _ _ => rfl) hbuffer h

end Loop

/-- What a capped reader makes of a stream: the concatenation if it fits, an error otherwise, and
never more than the cap on the way. -/
structure ReadsCapped {ε : Type*} (cap : Nat) (reject : Nat → RelayError)
    (chunks : List (List UInt8))
    (read : List UInt8 → List (Except ε (List UInt8)) → Except RelayError (List UInt8)) : Prop where
  accepts : ∀ bytes, read [] (chunks.map .ok) = .ok bytes ↔
    chunks.flatten.length ≤ cap ∧ bytes = chunks.flatten
  rejects : cap < chunks.flatten.length → ∃ total, FirstAbove cap chunks total ∧
    read [] (chunks.map .ok) = .error (reject total)
  holds : ∀ front rest buffer, chunks = front ++ rest → read [] (front.map .ok) = .ok buffer →
    buffer.length ≤ cap ∧ read [] (chunks.map .ok) = read buffer (rest.map .ok)

theorem readsCapped_of_loop {ε : Type*} {cap : Nat} {reject : Nat → RelayError}
    {chunks : List (List UInt8)} (h : Allocated cap [] chunks)
    {read : List UInt8 → List (Except ε (List UInt8)) → Except RelayError (List UInt8)}
    (hread : ∀ buffer chunks, buffer.length ≤ cap → Allocated cap buffer chunks →
      read buffer (chunks.map .ok) = cappedLoop reject cap buffer chunks) :
    ReadsCapped cap reject chunks read := by
  have hstart : ([] : List UInt8).length ≤ cap := Nat.zero_le cap
  refine ⟨?_, ?_, ?_⟩
  · intro bytes
    rw [hread [] chunks hstart h, cappedLoop_eq_ok hstart, List.length_nil, Nat.zero_add]
    rfl
  · intro habove
    rw [hread [] chunks hstart h]
    obtain ⟨front, chunk, rest, hchunks, hle, hgt, hloop⟩ :=
      @cappedLoop_of_gt reject cap [] chunks hstart (by simpa using habove)
    simp only [List.length_nil, Nat.zero_add] at hle hgt hloop
    exact ⟨_, ⟨front, chunk, rest, hchunks, hle, rfl, hgt⟩, hloop⟩
  · rintro front rest buffer rfl hfront
    rw [hread [] front hstart h.front] at hfront
    obtain ⟨hle, rfl⟩ := (cappedLoop_eq_ok hstart).mp hfront
    rw [List.length_nil, Nat.zero_add] at hle
    rw [List.nil_append] at hfront ⊢
    have hrest : Allocated cap front.flatten rest := by
      rintro middle chunk rest' rfl hfits
      have hall := h (front ++ middle) chunk rest' (by simp)
      rw [List.flatten_append] at hall
      exact hall hfits
    rw [hread [] _ hstart h, hread _ rest hle hrest, cappedLoop_append, hfront]
    exact ⟨hle, rfl⟩

/-- Both readers accept by the concatenation alone and keep it as it is; they differ only in the
error. -/
theorem capped_readers_agree (cap : Nat) (chunks : List (List UInt8))
    (h : Allocated cap [] chunks) :
    ReadsCapped cap (fun _ => .bodyTooLarge) chunks (readCapped cap) ∧
      ReadsCapped cap .responseTooLarge chunks (readResponse cap) ∧
      ∀ others, Allocated cap [] others → others.flatten = chunks.flatten →
        readCapped cap [] (others.map .ok) = readCapped cap [] (chunks.map .ok) ∧
          ∀ bytes, readResponse cap [] (others.map .ok) = .ok bytes ↔
            readCapped cap [] (chunks.map .ok) = .ok bytes := by
  have hcapped {l : List (List UInt8)} (hl : Allocated cap [] l) :
      ReadsCapped cap (fun _ => .bodyTooLarge) l (readCapped cap) :=
    readsCapped_of_loop hl fun _ _ => readCapped_eq_loop
  have hresponse {l : List (List UInt8)} (hl : Allocated cap [] l) :
      ReadsCapped cap .responseTooLarge l (readResponse cap) :=
    readsCapped_of_loop hl fun _ _ => readResponse_eq_loop
  refine ⟨hcapped h, hresponse h, fun others hothers hflatten => ⟨?_, fun bytes => ?_⟩⟩
  · by_cases hfits : chunks.flatten.length ≤ cap
    · rw [((hcapped h).accepts _).mpr ⟨hfits, rfl⟩]
      exact ((hcapped hothers).accepts _).mpr ⟨hflatten ▸ hfits, hflatten.symm⟩
    · have habove := Nat.lt_of_not_le hfits
      obtain ⟨_, -, hrejected⟩ := (hcapped h).rejects habove
      obtain ⟨_, -, hrejected'⟩ := (hcapped hothers).rejects (hflatten.symm ▸ habove)
      rw [hrejected, hrejected']
  · rw [(hresponse hothers).accepts, (hcapped h).accepts, hflatten]

/-- The same four bytes in two cuts, read by either reader; one byte less and both refuse. -/
theorem cut_body_reads_alike :
    readCapped 4 [] ([[1, 2], [], [3, 4]].map .ok) = .ok [1, 2, 3, 4] ∧
      readResponse 4 [] ([[1], [2, 3, 4]].map .ok) = .ok [1, 2, 3, 4] ∧
      ∃ total, FirstAbove 3 [[1, 2], [], [3, 4]] total ∧
        readResponse 3 [] ([[1, 2], [], [3, 4]].map .ok) = .error (.responseTooLarge total) := by
  have hallocated (cap : Nat) : Allocated cap [] [[1, 2], [], [3, 4]] :=
    allocated_of_total (by decide)
  have hcut (cap : Nat) : Allocated cap [] [[1], [2, 3, 4]] := allocated_of_total (by decide)
  obtain ⟨hcapped, -, hothers⟩ := capped_readers_agree 4 [[1, 2], [], [3, 4]] (hallocated 4)
  have hread := (hcapped.accepts [1, 2, 3, 4]).mpr ⟨by decide, rfl⟩
  refine ⟨hread, ?_, ?_⟩
  · exact ((hothers [[1], [2, 3, 4]] (hcut 4) rfl).2 [1, 2, 3, 4]).mpr hread
  · exact (capped_readers_agree 3 _ (hallocated 3)).2.1.rejects (by decide)

end GptLiveProxy
