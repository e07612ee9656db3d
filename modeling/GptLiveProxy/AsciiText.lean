import GptLiveProxy.CharText

/-!
# ASCII text

An ASCII scalar value is encoded as one byte below 128, and any other begins with a higher byte. A
predicate on ASCII bytes therefore holds of all the bytes of a text exactly when the text is ASCII
and the predicate holds of each of its scalar values, and an ASCII text occurs in another text
exactly when its encoding occurs in the other encoding.
-/

namespace CharText

theorem utf8EncodeChar_ascii {c : Char} (h : c.toNat < 128) :
    String.utf8EncodeChar c = [UInt8.ofNat c.toNat] := by
  have hval : c.val.toNat ≤ 0x7f := Nat.le_of_lt_succ h
  rw [String.utf8EncodeChar]
  exact if_pos hval

theorem high_byte {c : Char} (h : 128 ≤ c.toNat) :
    ∀ b ∈ String.utf8EncodeChar c, 128 ≤ b.toNat := by
  have hval : ¬ c.val.toNat ≤ 0x7f := by
    change ¬ c.toNat ≤ 0x7f
    omega
  have hmarked (n : Nat) : 128 ≤ (UInt8.ofNat (n % 64 + 128)).toNat := by
    rw [UInt8.toNat_ofNat']
    omega
  intro b hb
  simp only [String.utf8EncodeChar, if_neg hval] at hb
  split_ifs at hb
  all_goals
    simp only [List.mem_cons, List.not_mem_nil, or_false] at hb
    rcases hb with rfl | hb
    · rw [UInt8.toNat_ofNat']
      omega
  · exact hb ▸ hmarked _
  · rcases hb with rfl | rfl <;> exact hmarked _
  · rcases hb with rfl | rfl | rfl <;> exact hmarked _

theorem exists_high_byte {c : Char} (h : 128 ≤ c.toNat) :
    ∃ b ∈ String.utf8EncodeChar c, 128 ≤ b.toNat := by
  obtain ⟨b, hb⟩ := List.exists_mem_of_ne_nil _ (String.utf8EncodeChar_ne_nil (c := c))
  exact ⟨b, hb, high_byte h b hb⟩

theorem utf8_cons (c : Char) (t : Text) : utf8 (c :: t) = String.utf8EncodeChar c ++ utf8 t := rfl

theorem utf8_cons_ascii {c : Char} (h : c.toNat < 128) (t : Text) :
    utf8 (c :: t) = UInt8.ofNat c.toNat :: utf8 t := by
  rw [utf8_cons, utf8EncodeChar_ascii h, List.singleton_append]

theorem utf8_all_iff {p : UInt8 → Bool} (hascii : ∀ b, p b = true → b.toNat < 128) (t : Text) :
    (utf8 t).all p = true ↔ ∀ c ∈ t, c.toNat < 128 ∧ p (UInt8.ofNat c.toNat) = true := by
  induction t with
  | nil => simp [utf8]
  | cons c t ih =>
    rw [List.forall_mem_cons, ← ih]
    by_cases hc : c.toNat < 128
    · rw [utf8_cons_ascii hc, List.all_cons, Bool.and_eq_true_iff]
      exact and_congr_left' ⟨fun hp => ⟨hc, hp⟩, fun hp => hp.2⟩
    · obtain ⟨b, hb, hhigh⟩ := exists_high_byte (Nat.le_of_not_lt hc)
      constructor
      · intro h
        rw [utf8_cons, List.all_append, Bool.and_eq_true_iff] at h
        have hlow := hascii b (List.all_eq_true.mp h.1 b hb)
        omega
      · intro h
        exact absurd h.1.1 hc

theorem utf8_ascii {t : Text} (h : ∀ c ∈ t, c.toNat < 128) :
    utf8 t = t.map fun c => UInt8.ofNat c.toNat := by
  induction t with
  | nil => rfl
  | cons c t ih =>
    obtain ⟨hc, ht⟩ := List.forall_mem_cons.mp h
    rw [utf8_cons_ascii hc, ih ht, List.map_cons]

theorem byteLen_ascii {t : Text} (h : ∀ c ∈ t, c.toNat < 128) : byteLen t = t.length := by
  rw [byteLen, utf8_ascii h, List.length_map]

theorem utf8_append (a b : Text) : utf8 (a ++ b) = utf8 a ++ utf8 b := by simp [utf8]

theorem mem_utf8_ascii {c : Char} (hc : c.toNat < 128) {t : Text} :
    UInt8.ofNat c.toNat ∈ utf8 t ↔ c ∈ t := by
  constructor
  · intro h
    obtain ⟨d, hd, hmem⟩ := List.mem_flatMap.mp h
    by_cases hlow : d.toNat < 128
    · rw [utf8EncodeChar_ascii hlow] at hmem
      have hbytes := congrArg UInt8.toNat (List.mem_singleton.mp hmem)
      rw [UInt8.toNat_ofNat', UInt8.toNat_ofNat', Nat.mod_eq_of_lt (by omega),
        Nat.mod_eq_of_lt (by omega)] at hbytes
      exact Char.toNat_inj.mp hbytes ▸ hd
    · have hhigh := high_byte (Nat.le_of_not_lt hlow) _ hmem
      rw [UInt8.toNat_ofNat'] at hhigh
      omega
  · intro h
    apply List.mem_flatMap.mpr
    exact ⟨c, h, by rw [utf8EncodeChar_ascii hc]; exact List.mem_singleton_self _⟩

theorem byteLen_append (a b : Text) : byteLen (a ++ b) = byteLen a + byteLen b := by
  rw [byteLen, utf8_append, List.length_append]
  rfl

/-- A byte below 128 in an encoding is a scalar value of its own. -/
theorem utf8_eq_append_cons {c : Char} (hc : c.toNat < 128) {t : Text} {front rest : List UInt8}
    (h : utf8 t = front ++ UInt8.ofNat c.toNat :: rest) :
    ∃ a b, t = a ++ c :: b ∧ utf8 a = front ∧ utf8 b = rest := by
  induction t generalizing front with
  | nil => exact absurd h (by simp [utf8])
  | cons d t ih =>
    rw [utf8_cons] at h
    rcases List.append_eq_append_iff.mp h with ⟨middle, rfl, htail⟩ | ⟨middle, hhead, htail⟩
    · obtain ⟨a, b, rfl, rfl, rfl⟩ := ih htail
      exact ⟨d :: a, b, rfl, rfl, rfl⟩
    cases middle with
    | nil =>
      rw [List.append_nil] at hhead
      obtain ⟨a, b, rfl, ha, rfl⟩ := @ih [] htail.symm
      exact ⟨d :: a, b, rfl, by rw [utf8_cons, ha, hhead, List.append_nil], rfl⟩
    | cons byte middle =>
      obtain ⟨rfl, rfl⟩ := List.cons.inj htail
      -- the byte belongs to the encoding of a scalar value, which is therefore ASCII
      have hmem : UInt8.ofNat c.toNat ∈ utf8 [d] := by
        rw [utf8_cons, hhead]
        simp
      obtain rfl := List.mem_singleton.mp ((mem_utf8_ascii hc).mp hmem)
      rw [utf8EncodeChar_ascii hc] at hhead
      cases front with
      | nil =>
        obtain ⟨-, rfl⟩ := List.cons.inj hhead
        exact ⟨[], t, rfl, rfl, rfl⟩
      | cons b front => exact absurd (congrArg List.length hhead) (by simp)

theorem utf8_eq_append {p : Text} (hp : ∀ c ∈ p, c.toNat < 128) {t : Text} {rest : List UInt8}
    (h : utf8 t = utf8 p ++ rest) : ∃ b, t = p ++ b ∧ utf8 b = rest := by
  induction p generalizing t with
  | nil => exact ⟨t, rfl, h⟩
  | cons c p ih =>
    obtain ⟨hc, hp⟩ := List.forall_mem_cons.mp hp
    rw [utf8_cons_ascii hc] at h
    obtain ⟨a, b, rfl, ha, hb⟩ := @utf8_eq_append_cons c hc t [] _ h
    obtain rfl : a = [] := utf8_injective ha
    obtain ⟨b, rfl, rfl⟩ := ih hp hb
    exact ⟨b, rfl, rfl⟩

theorem utf8_infix_iff {p : Text} (hp : ∀ c ∈ p, c.toNat < 128) {t : Text} :
    utf8 p <:+: utf8 t ↔ p <:+: t := by
  constructor
  · rintro ⟨front, rest, h⟩
    cases p with
    | nil => exact List.nil_infix
    | cons c p =>
      obtain ⟨hc, hp⟩ := List.forall_mem_cons.mp hp
      rw [utf8_cons_ascii hc, List.append_assoc] at h
      obtain ⟨a, b, rfl, -, hb⟩ := utf8_eq_append_cons hc h.symm
      obtain ⟨b, rfl, -⟩ := utf8_eq_append hp hb
      exact ⟨a, b, by simp⟩
  · rintro ⟨a, b, rfl⟩
    rw [utf8_append, utf8_append]
    exact ⟨utf8 a, utf8 b, rfl⟩

end CharText
