import GptLiveProxy.AdmissionSecrecy

/-!
# The grammar of bearer credentials

`valid_bearer` splits a header value at ASCII whitespace and scans the second word once, with one
flag for the padding and one for the base. It accepts exactly the credentials of the grammar: the
word `bearer` in any letter case, whitespace, and one `b64token` of RFC 6750.
-/

namespace GptLiveProxy
open CharText

section Grammar

def b64Alphabet : Text :=
  "ABCDEFGHIJKLMNOPQRSTUVWXYZabcdefghijklmnopqrstuvwxyz0123456789-._~+/".toList

/-- One or more characters of the alphabet, then zero or more `=`. -/
def IsB64Token (token : Text) : Prop :=
  ∃ base padding, token = base ++ padding ∧ base ≠ [] ∧ (∀ c ∈ base, c ∈ b64Alphabet) ∧
    ∀ c ∈ padding, c = '='

/-- Up to surrounding ASCII whitespace, `bearer`, whitespace, and a token. -/
def IsBearerCredential (raw : Text) : Prop :=
  ∃ before scheme gap token after, raw = before ++ scheme ++ gap ++ token ++ after ∧
    (∀ c ∈ before, isAsciiWhitespace c = true) ∧ toAsciiLowercase scheme = "bearer".toList ∧
    gap ≠ [] ∧ (∀ c ∈ gap, isAsciiWhitespace c = true) ∧ IsB64Token token ∧
    ∀ c ∈ after, isAsciiWhitespace c = true

end Grammar

section Scan

theorem isBearerChar_ascii {c : Char} (h : isBearerChar c = true) : c.toNat < 128 := by
  simp only [isBearerChar, Bool.or_eq_true, beq_iff_eq] at h
  rcases h with (((((h | rfl) | rfl) | rfl) | rfl) | rfl) | rfl
  · exact isAsciiAlphanumeric_ascii h
  all_goals decide

theorem isBearerChar_iff (c : Char) : isBearerChar c = true ↔ c ∈ b64Alphabet := by
  constructor
  · intro h
    have hall := @forall_ascii (fun c => isBearerChar c = true → c ∈ b64Alphabet) (by decide +kernel)
    exact hall (isBearerChar_ascii h) h
  · intro h
    have hall : b64Alphabet.all isBearerChar = true := by decide +kernel
    exact List.all_eq_true.mp hall c h

theorem validToken68_padding {t : Text} : validToken68 true true t = true ↔ ∀ c ∈ t, c = '=' := by
  induction t with
  | nil => simp [validToken68]
  | cons c t ih =>
    by_cases hc : c = '='
    · simp [validToken68, hc, ih]
    · simp [validToken68, hc]

theorem isBearerChar_pad : isBearerChar '=' = false := by decide

/-- Behind the first base character the scan is inside the base until the padding begins. -/
theorem validToken68_base {t : Text} : validToken68 false true t = true ↔
    ∃ base padding, t = base ++ padding ∧ (∀ c ∈ base, isBearerChar c = true) ∧
      ∀ c ∈ padding, c = '=' := by
  induction t with
  | nil => exact ⟨fun _ => ⟨[], [], rfl, by simp, by simp⟩, fun _ => rfl⟩
  | cons c t ih =>
    by_cases hpad : c = '='
    · subst hpad
      have hstep : validToken68 false true ('=' :: t) = validToken68 true true t := by
        simp [validToken68]
      rw [hstep, validToken68_padding]
      constructor
      · intro h
        exact ⟨[], '=' :: t, rfl, by simp, by simpa using h⟩
      · rintro ⟨base, padding, hsplit, hbase, hpadding⟩
        cases base with
        | nil =>
          rw [List.nil_append] at hsplit
          intro c hc
          exact hpadding c (hsplit ▸ List.mem_cons_of_mem _ hc)
        | cons d base =>
          obtain ⟨rfl, -⟩ := List.cons.inj hsplit
          have hd := hbase '=' List.mem_cons_self
          rw [isBearerChar_pad] at hd
          cases hd
    · have hstep : validToken68 false true (c :: t) =
          (isBearerChar c && validToken68 false true t) := by
        simp [validToken68, hpad]
      rw [hstep, Bool.and_eq_true, ih]
      constructor
      · rintro ⟨hc, base, padding, rfl, hbase, hpadding⟩
        exact ⟨c :: base, padding, rfl, List.forall_mem_cons.mpr ⟨hc, hbase⟩, hpadding⟩
      · rintro ⟨base, padding, hsplit, hbase, hpadding⟩
        cases base with
        | nil =>
          rw [List.nil_append] at hsplit
          exact absurd (hpadding c (hsplit ▸ List.mem_cons_self)) hpad
        | cons d base =>
          obtain ⟨rfl, rfl⟩ := List.cons.inj hsplit
          obtain ⟨hc, hbase⟩ := List.forall_mem_cons.mp hbase
          exact ⟨hc, base, padding, rfl, hbase, hpadding⟩

/-- The scan accepts exactly the tokens of the grammar. -/
theorem validToken68_iff (token : Text) : validToken68 false false token = true ↔ IsB64Token token := by
  cases token with
  | nil =>
    refine ⟨nofun, ?_⟩
    rintro ⟨base, padding, hsplit, hne, -⟩
    exact absurd (List.append_eq_nil_iff.mp hsplit.symm).1 hne
  | cons c t =>
    have hstep : validToken68 false false (c :: t) =
        (isBearerChar c && validToken68 false true t) := by
      by_cases hpad : c = '='
      · simp [validToken68, hpad, isBearerChar_pad]
      · simp [validToken68, hpad]
    rw [hstep, Bool.and_eq_true, validToken68_base]
    constructor
    · rintro ⟨hc, base, padding, rfl, hbase, hpadding⟩
      refine ⟨c :: base, padding, rfl, List.cons_ne_nil _ _, ?_, hpadding⟩
      intro d hd
      rcases List.mem_cons.mp hd with rfl | hd
      · exact (isBearerChar_iff d).mp hc
      · exact (isBearerChar_iff d).mp (hbase d hd)
    · rintro ⟨base, padding, hsplit, hne, hbase, hpadding⟩
      cases base with
      | nil => exact absurd rfl hne
      | cons d base =>
        obtain ⟨rfl, rfl⟩ := List.cons.inj hsplit
        obtain ⟨hc, hbase⟩ := List.forall_mem_cons.mp hbase
        exact ⟨(isBearerChar_iff c).mpr hc, base, padding, rfl,
          fun d hd => (isBearerChar_iff d).mpr (hbase d hd), hpadding⟩

end Scan

section Words

theorem splitAsciiWhitespace_two {raw scheme token : Text}
    (h : splitAsciiWhitespace raw = [scheme, token]) :
    ∃ before gap after, raw = before ++ scheme ++ gap ++ token ++ after ∧
      (∀ c ∈ before, isAsciiWhitespace c = true) ∧ gap ≠ [] ∧
      (∀ c ∈ gap, isAsciiWhitespace c = true) ∧ ∀ c ∈ after, isAsciiWhitespace c = true := by
  obtain ⟨before, rest, rfl, hbefore, -, -, hrest, hhead⟩ := exists_of_splitAsciiWhitespace_cons h
  obtain ⟨gap, after, rfl, hgap, hne, htoken, hafter, -⟩ :=
    exists_of_splitAsciiWhitespace_cons hrest
  refine ⟨before, gap, after, by simp, hbefore, ?_, hgap, splitAsciiWhitespace_eq_nil.mp hafter⟩
  rintro rfl
  obtain ⟨c, token, rfl⟩ := List.exists_cons_of_ne_nil hne
  have hc := htoken c List.mem_cons_self
  rw [hhead c (by simp)] at hc
  cases hc

theorem splitAsciiWhitespace_of_two {before scheme gap token after : Text}
    (hbefore : ∀ c ∈ before, isAsciiWhitespace c = true) (hscheme : scheme ≠ [])
    (hscheme' : ∀ c ∈ scheme, isAsciiWhitespace c = false) (hgap : gap ≠ [])
    (hgap' : ∀ c ∈ gap, isAsciiWhitespace c = true) (htoken : token ≠ [])
    (htoken' : ∀ c ∈ token, isAsciiWhitespace c = false)
    (hafter : ∀ c ∈ after, isAsciiWhitespace c = true) :
    splitAsciiWhitespace (before ++ scheme ++ gap ++ token ++ after) = [scheme, token] := by
  obtain ⟨c, gap, rfl⟩ := List.exists_cons_of_ne_nil hgap
  obtain ⟨hc, hgap'⟩ := List.forall_mem_cons.mp hgap'
  rw [splitAsciiWhitespace_append_right hafter, List.append_assoc, List.append_assoc,
    splitAsciiWhitespace_append_ws hbefore, List.cons_append,
    splitAsciiWhitespace_word_cons hscheme hscheme' hc, splitAsciiWhitespace_append_ws hgap',
    splitAsciiWhitespace_word htoken htoken']

theorem b64Token_not_whitespace {token : Text} (h : IsB64Token token) :
    token ≠ [] ∧ ∀ c ∈ token, isAsciiWhitespace c = false := by
  obtain ⟨base, padding, rfl, hne, hbase, hpadding⟩ := h
  refine ⟨fun hnil => hne (List.append_eq_nil_iff.mp hnil).1, ?_⟩
  intro c hc
  rcases List.mem_append.mp hc with hc | hc
  · have hchar := (isBearerChar_iff c).mpr (hbase c hc)
    rw [Bool.eq_false_iff]
    intro hspace
    simp only [isAsciiWhitespace, Bool.or_eq_true, beq_iff_eq] at hspace
    rcases hspace with (((rfl | rfl) | rfl) | rfl) | rfl <;> cases hchar
  · rw [hpadding c hc]
    decide

theorem bearer_ne_nil {scheme : Text} (h : eqIgnoreAsciiCase scheme "bearer".toList = true) :
    scheme ≠ [] := by
  rintro rfl
  have hlength := bearer_length h
  cases hlength

theorem toStr_eq_some {value : HeaderValue} {raw : Text} : value.toStr = some raw ↔
    value.bytes.all HeaderValue.isVisibleAscii = true ∧ utf8 raw = value.bytes := by
  have hread (hall : value.bytes.all HeaderValue.isVisibleAscii = true) :
      utf8 (value.bytes.map fun b => Char.ofNat b.toNat) = value.bytes := by
    rw [utf8, List.flatMap_map]
    have hbytes := List.all_eq_true.mp hall
    generalize value.bytes = bytes at hbytes
    induction bytes with
    | nil => rfl
    | cons b bytes ih =>
      obtain ⟨hb, hbytes⟩ := List.forall_mem_cons.mp hbytes
      rw [List.flatMap_cons, ih hbytes, (HeaderValue.isVisibleAscii_facts b hb).2]
      rfl
  rw [HeaderValue.toStr]
  split_ifs with hall
  · rw [Option.some.injEq]
    constructor
    · rintro rfl
      exact ⟨hall, hread hall⟩
    · rintro ⟨-, hutf8⟩
      exact utf8_injective ((hread hall).trans hutf8.symm)
  · constructor
    · intro h
      cases h
    · intro h
      exact absurd h.1 hall

theorem isVisibleAscii_iff (b : UInt8) :
    HeaderValue.isVisibleAscii b = true ↔ b = 9 ∨ 32 ≤ b.toNat ∧ b.toNat ≤ 126 := by
  have hlow : (32 : UInt8).toNat = 32 := rfl
  have hhigh : (127 : UInt8).toNat = 127 := rfl
  simp only [HeaderValue.isVisibleAscii, Bool.or_eq_true, Bool.and_eq_true, decide_eq_true_eq,
    beq_iff_eq, UInt8.le_iff_toNat_le, UInt8.lt_iff_toNat_lt, hlow, hhigh, Nat.lt_succ_iff]
  exact or_comm

end Words

section Acceptance

theorem validBearer_eq_true {value : HeaderValue} : validBearer value = true ↔
    ∃ raw scheme token, value.toStr = some raw ∧ splitAsciiWhitespace raw = [scheme, token] ∧
      eqIgnoreAsciiCase scheme "bearer".toList = true ∧ token ≠ [] ∧
      validToken68 false false token = true := by
  constructor
  · intro h
    obtain ⟨raw, scheme, token, hraw, hwords, hbearer⟩ := validBearer_words h
    rw [validBearer, hraw, Option.map_some, hwords] at h
    simp only [Bool.and_eq_true, Bool.not_eq_true', List.isEmpty_eq_false_iff] at h
    exact ⟨raw, scheme, token, hraw, hwords, hbearer, h.1.2, h.2⟩
  · rintro ⟨raw, scheme, token, hraw, hwords, hbearer, hne, hvalid⟩
    rw [validBearer, hraw, Option.map_some, hwords]
    dsimp only
    rw [hbearer, hvalid, List.isEmpty_eq_false_iff.mpr hne]
    rfl

/-- A header value is a valid bearer exactly when it is visible text of the grammar. -/
theorem valid_bearer_iff_grammar (value : HeaderValue) : validBearer value = true ↔
    (∀ b ∈ value.bytes, b = 9 ∨ 32 ≤ b.toNat ∧ b.toNat ≤ 126) ∧
      ∃ raw, utf8 raw = value.bytes ∧ IsBearerCredential raw := by
  have hvisible : value.bytes.all HeaderValue.isVisibleAscii = true ↔
      ∀ b ∈ value.bytes, b = 9 ∨ 32 ≤ b.toNat ∧ b.toNat ≤ 126 := by
    simp only [List.all_eq_true, isVisibleAscii_iff]
  rw [validBearer_eq_true, ← hvisible]
  constructor
  · rintro ⟨raw, scheme, token, hraw, hwords, hbearer, -, hvalid⟩
    obtain ⟨hall, hutf8⟩ := toStr_eq_some.mp hraw
    obtain ⟨before, gap, after, hsplit, hbefore, hne, hgap, hafter⟩ := splitAsciiWhitespace_two hwords
    exact ⟨hall, raw, hutf8, before, scheme, gap, token, after, hsplit, hbefore,
      beq_iff_eq.mp hbearer, hne, hgap, (validToken68_iff token).mp hvalid, hafter⟩
  · rintro ⟨hall, raw, hutf8, before, scheme, gap, token, after, rfl, hbefore, hlower, hne, hgap,
      htoken, hafter⟩
    have hbearer : eqIgnoreAsciiCase scheme "bearer".toList = true := beq_iff_eq.mpr hlower
    obtain ⟨hpresent, hwords⟩ := b64Token_not_whitespace htoken
    exact ⟨_, scheme, token, toStr_eq_some.mpr ⟨hall, hutf8⟩,
      splitAsciiWhitespace_of_two hbefore (bearer_ne_nil hbearer) (bearer_not_whitespace hbearer)
        hne hgap hpresent hwords hafter, hbearer, hpresent, (validToken68_iff token).mpr htoken⟩

end Acceptance

end GptLiveProxy
