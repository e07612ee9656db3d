import GptLiveProxy.Timestamps

/-!
# Fault offsets

The scan of a binary frame stops at the first literal replacement character of the valid prefix,
else behind that prefix. Lossy decoding emits the characters of the prefix, then a replacement
character, so both name one position; on a valid text the scan is the search that a text frame
gets.
-/

namespace GptLiveProxy
open CharText

section Scan

theorem timestamp_isOk (now : SinceEpoch) : ∃ ts, timestamp now = .ok ts := ⟨_, timestamp_eq now⟩

theorem fromUtf8_utf8 (text : Text) : fromUtf8 (utf8 text) = .ok text := by
  rw [fromUtf8, decodeUtf8_utf8]

/-- The scan finds where lossy decoding first emits a replacement character. -/
theorem firstFaultByte_eq (bytes : List UInt8) :
    firstFaultByte bytes = firstIndex REPLACEMENT (lossyIndices bytes) := by
  obtain ⟨text, rest, rfl, hrest⟩ := exists_front bytes
  by_cases hne : rest = []
  · subst hne
    rw [List.append_nil, firstFaultByte, fromUtf8_utf8, lossyIndices_utf8]
    rfl
  · obtain ⟨after, hlossy⟩ := lossyIndices_append (t := text) hrest hne
    have hvalid : (utf8 text ++ rest).take (byteLen text) = utf8 text := List.take_left
    have hfault : firstIndex REPLACEMENT ((byteLen text, REPLACEMENT) :: after) =
        some (byteLen text) :=
      firstIndex_eq_some.mpr ⟨[], after, rfl, fun _ h => absurd h List.not_mem_nil⟩
    rw [firstFaultByte, fromUtf8_append hrest hne, hlossy, firstIndex_append, hfault]
    dsimp only
    rw [hvalid, fromUtf8_utf8]
    rfl

theorem firstFaultByte_utf8 (text : Text) : firstFaultByte (utf8 text) = findChar REPLACEMENT text := by
  rw [firstFaultByte, fromUtf8_utf8]

end Scan

section Records
variable (now : SinceEpoch) (dir : Direction)

theorem binaryRecord_eq (bytes : List UInt8) : ∃ ts, binaryRecord now dir bytes =
    .ok ⟨ts, dir.asStr, FrameKind.binary.asStr, bytes.length, (firstFaultByte bytes).isSome,
      firstFaultByte bytes⟩ := by
  obtain ⟨ts, hts⟩ := timestamp_isOk now
  exact ⟨ts, by rw [binaryRecord, hts]; rfl⟩

theorem textRecord_eq (text : Text) : ∃ ts, textRecord now dir text =
    .ok ⟨ts, dir.asStr, FrameKind.text.asStr, byteLen text, (findChar REPLACEMENT text).isSome,
      findChar REPLACEMENT text⟩ := by
  obtain ⟨ts, hts⟩ := timestamp_isOk now
  exact ⟨ts, by rw [textRecord, hts]; rfl⟩

end Records

section Diagnosis

/-- A frame is diagnosed as lossy decoding would show it, whichever opcode carried it. -/
theorem fault_offset_is_first_replacement :
    (∀ now dir bytes, ∃ record, binaryRecord now dir bytes = .ok record ∧
      (∀ position, record.faultByteOffset = some position ↔ ∃ before after,
        lossyIndices bytes = before ++ (position, REPLACEMENT) :: after ∧
          ∀ index ∈ before, index.2 ≠ REPLACEMENT) ∧
      (record.faultByteOffset = none ↔ REPLACEMENT ∉ fromUtf8Lossy bytes) ∧
      (record.fffd = true ↔ record.faultByteOffset.isSome = true) ∧ record.bytes = bytes.length) ∧
    ∀ now now' dir dir' text, ∃ record record', textRecord now dir text = .ok record ∧
      binaryRecord now' dir' (utf8 text) = .ok record' ∧ record.bytes = record'.bytes ∧
      record.fffd = record'.fffd ∧ record.faultByteOffset = record'.faultByteOffset := by
  refine ⟨?_, ?_⟩
  · intro now dir bytes
    obtain ⟨ts, hrecord⟩ := binaryRecord_eq now dir bytes
    refine ⟨_, hrecord, ?_, ?_, Iff.rfl, rfl⟩
    · intro position
      rw [firstFaultByte_eq, firstIndex_eq_some]
    · rw [firstFaultByte_eq, firstIndex_eq_none]
      exact Iff.rfl
  · intro now now' dir dir' text
    obtain ⟨ts, htext⟩ := textRecord_eq now dir text
    obtain ⟨ts', hbinary⟩ := binaryRecord_eq now' dir' (utf8 text)
    refine ⟨_, _, htext, hbinary, rfl, ?_, ?_⟩
    · rw [firstFaultByte_utf8]
    · rw [firstFaultByte_utf8]

/-- A literal replacement character wins over the malformed sequence behind it. -/
example : firstFaultByte (utf8 "head\uFFFDtail".toList ++ [0xe2, 0x82]) = some 4 := by decide +kernel

end Diagnosis

end GptLiveProxy
