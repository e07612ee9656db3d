import GptLiveProxy.CharText
import GptLiveProxy.OrderedMultimap

/-!
# Header values and header maps

A header value is a byte string of the bytes HTTP allows in a field value; `toStr` reads it as
text only when every byte is visible ASCII, a space, or a tab. A header map is a multimap from
normalized names to values. Two values are equal as header values when their bytes are; the
sensitivity mark only governs rendering.
-/

namespace GptLiveProxy
open CharText

abbrev HeaderName := String

namespace HeaderValue

def isValid (b : UInt8) : Bool := (32 ≤ b && b != 127) || b == 9

def isVisibleAscii (b : UInt8) : Bool := (32 ≤ b && b < 127) || b == 9

end HeaderValue

structure HeaderValue where
  bytes : List UInt8
  sensitive : Bool
  valid : ∀ b ∈ bytes, HeaderValue.isValid b = true
deriving DecidableEq

abbrev HeaderMap := OrderedMultimap HeaderName HeaderValue

/-- Visible ASCII, space, and horizontal tab. -/
def isVisibleChar (c : Char) : Bool := (32 ≤ c.toNat && c.toNat < 127) || c == '\t'

namespace HeaderValue

def fromBytes (bytes : List UInt8) : Option HeaderValue :=
  if h : bytes.all isValid = true then some ⟨bytes, false, List.all_eq_true.mp h⟩ else none

def fromStr (t : Text) : Option HeaderValue := fromBytes (utf8 t)

def toStr (v : HeaderValue) : Option Text :=
  if v.bytes.all isVisibleAscii then some (v.bytes.map fun b => Char.ofNat b.toNat) else none

def setSensitive (v : HeaderValue) (sensitive : Bool) : HeaderValue := { v with sensitive }

@[simp] theorem setSensitive_bytes (v : HeaderValue) (s : Bool) : (v.setSensitive s).bytes = v.bytes :=
  rfl

@[simp] theorem setSensitive_toStr (v : HeaderValue) (s : Bool) : (v.setSensitive s).toStr = v.toStr :=
  rfl

theorem toStr_congr {v w : HeaderValue} (h : v.bytes = w.bytes) : v.toStr = w.toStr := by
  simp only [toStr, h]

theorem forall_byte {P : UInt8 → Prop} (h : ∀ n : Fin 256, P (UInt8.ofNat n)) (b : UInt8) : P b := by
  have hb := h ⟨b.toNat, b.toNat_lt⟩
  rwa [UInt8.ofNat_toNat] at hb

theorem isVisibleAscii_facts (b : UInt8) :
    isVisibleAscii b = true →
      isVisibleChar (Char.ofNat b.toNat) = true ∧ String.utf8EncodeChar (Char.ofNat b.toNat) = [b] := by
  revert b
  apply forall_byte
  decide +kernel

theorem isValid_of_visible (b : UInt8) : isVisibleAscii b = true → isValid b = true := by
  revert b
  apply forall_byte
  decide +kernel

theorem visible_of_toStr {v : HeaderValue} {t : Text} (h : v.toStr = some t) :
    ∀ c ∈ t, isVisibleChar c = true := by
  simp only [toStr] at h
  split_ifs at h with hall
  obtain rfl := Option.some.inj h
  intro c hc
  obtain ⟨b, hb, rfl⟩ := List.mem_map.mp hc
  exact (isVisibleAscii_facts b (List.all_eq_true.mp hall b hb)).1

theorem fromStr_bytes {t : Text} {v : HeaderValue} (h : fromStr t = some v) : v.bytes = utf8 t := by
  simp only [fromStr, fromBytes] at h
  split_ifs at h
  exact (congrArg bytes (Option.some.inj h)).symm

end HeaderValue

/-- The map of the pairs whose texts are legal header values. -/
def headersOf (pairs : List (HeaderName × Text)) : HeaderMap :=
  ⟨pairs.filterMap fun pair => (HeaderValue.fromStr pair.2).map (pair.1, ·)⟩

theorem isVisibleChar_ascii {c : Char} (hc : isVisibleChar c = true) : c.toNat < 128 := by
  simp only [isVisibleChar, Bool.or_eq_true, Bool.and_eq_true, decide_eq_true_eq, beq_iff_eq] at hc
  rcases hc with hc | rfl
  · omega
  · decide

theorem visibleChar_encode {c : Char} (hc : isVisibleChar c = true) :
    ∃ b : UInt8, String.utf8EncodeChar c = [b] ∧ HeaderValue.isVisibleAscii b = true ∧
      Char.ofNat b.toNat = c := by
  have hlt := isVisibleChar_ascii hc
  refine ⟨UInt8.ofNat c.toNat, ?_⟩
  revert hc
  exact forall_ascii (P := fun c => isVisibleChar c = true →
    String.utf8EncodeChar c = [UInt8.ofNat c.toNat] ∧
      HeaderValue.isVisibleAscii (UInt8.ofNat c.toNat) = true ∧
        Char.ofNat (UInt8.ofNat c.toNat).toNat = c) (by decide +kernel) hlt

/-- Visible text survives the trip through a header value. -/
theorem HeaderValue.toStr_fromStr {t : Text} (ht : ∀ c ∈ t, isVisibleChar c = true) :
    ∃ v, HeaderValue.fromStr t = some v ∧ v.toStr = some t := by
  have hbytes : ∀ b ∈ utf8 t, isVisibleAscii b = true := by
    intro b hb
    obtain ⟨c, hc, hbc⟩ := List.mem_flatMap.mp hb
    obtain ⟨b', hb', hvis, -⟩ := visibleChar_encode (ht c hc)
    rw [hb', List.mem_singleton] at hbc
    exact hbc ▸ hvis
  have hvalid : ∀ b ∈ utf8 t, isValid b = true := fun b hb => isValid_of_visible b (hbytes b hb)
  refine ⟨⟨utf8 t, false, hvalid⟩, by simp only [fromStr, fromBytes, List.all_eq_true.mpr hvalid, dif_pos], ?_⟩
  have hback : (utf8 t).map (fun b => Char.ofNat b.toNat) = t := by
    clear hbytes hvalid
    induction t with
    | nil => rfl
    | cons c t ih =>
      obtain ⟨b, hb, -, hcb⟩ := visibleChar_encode (ht c (by simp))
      have htail := ih fun d hd => ht d (by simp [hd])
      simp only [utf8, List.flatMap_cons, hb, List.map_append, List.map_cons, List.map_nil, hcb]
      exact congrArg (c :: ·) htail
  simp only [toStr, List.all_eq_true.mpr hbytes, if_true, hback]

end GptLiveProxy
