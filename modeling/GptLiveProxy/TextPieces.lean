import GptLiveProxy.CharText

/-!
# Prefixes, suffixes, and pieces of a text

`str::strip_prefix` and `str::strip_suffix` are `dropPrefix?` and `dropSuffix?`. The lemmas say
when either applies, when a prefix test only looks at the first of two joined texts, what cutting
at a separator finds in joined texts, and what trimming one character from the end leaves.
-/

namespace CharText

/-- `str::trim_end_matches` with one character. -/
def trimEnd (c : Char) (t : Text) : Text := t.rdropWhile (· == c)

/-- `strip_suffix` where a text without the suffix stays as it is. -/
def removeSuffix (suffix t : Text) : Text := (t.dropSuffix? suffix).getD t

section Affixes
variable {α : Type*} [BEq α] [LawfulBEq α]

theorem dropPrefix?_append (p t : List α) : (p ++ t).dropPrefix? p = some t :=
  List.dropPrefix?_append_of_beq t (beq_self_eq_true p)

theorem dropPrefix?_eq_some {p t rest : List α} : t.dropPrefix? p = some rest ↔ t = p ++ rest := by
  simp [List.dropPrefix?_eq_some_iff]

theorem dropPrefix?_eq_none {p t : List α} : t.dropPrefix? p = none ↔ ¬ p <+: t := by
  rw [Option.eq_none_iff_forall_ne_some]
  constructor
  · rintro h ⟨rest, rfl⟩
    exact h rest (dropPrefix?_append p rest)
  · intro h rest hrest
    exact h ⟨rest, (dropPrefix?_eq_some.mp hrest).symm⟩

theorem dropSuffix?_append (t s : Text) : (t ++ s).dropSuffix? s = some t := by
  simp [List.dropSuffix?_eq_some_iff]

theorem dropSuffix?_eq_some {t s front : Text} : t.dropSuffix? s = some front ↔ t = front ++ s := by
  simp [List.dropSuffix?_eq_some_iff]

theorem dropSuffix?_eq_none {t s : Text} : t.dropSuffix? s = none ↔ ¬ s <:+ t := by
  rw [Option.eq_none_iff_forall_ne_some]
  constructor
  · rintro h ⟨front, rfl⟩
    exact h front (dropSuffix?_append front s)
  · intro h front hfront
    exact h ⟨front, (dropSuffix?_eq_some.mp hfront).symm⟩

@[simp] theorem removeSuffix_append (t s : Text) : removeSuffix s (t ++ s) = t := by
  simp [removeSuffix, dropSuffix?_append]

theorem removeSuffix_of_not_suffix {t s : Text} (h : ¬ s <:+ t) : removeSuffix s t = t := by
  simp [removeSuffix, dropSuffix?_eq_none.mpr h]

/-- Unless the first text is cut short inside the prefix, the prefix test does not see the second. -/
theorem dropPrefix?_append_right {p t : Text} (rest : Text) (h : t <+: p → t = p) :
    (t ++ rest).dropPrefix? p = (t.dropPrefix? p).map (· ++ rest) := by
  induction p generalizing t with
  | nil => simp
  | cons c p ih =>
    cases t with
    | nil => simpa using h (List.nil_prefix)
    | cons d t =>
      simp only [List.cons_append, List.dropPrefix?]
      split_ifs with hd
      · obtain rfl : d = c := by simpa using hd
        apply ih
        intro htp
        exact (List.cons.inj (h (List.cons_prefix_cons.mpr ⟨rfl, htp⟩))).2
      · rfl

end Affixes

section SplitOnce

theorem splitOnce_eq_some {sep : Char} {t a b : Text} :
    splitOnce sep t = some (a, b) ↔ t = a ++ sep :: b ∧ sep ∉ a := by
  induction t generalizing a b with
  | nil => simp [splitOnce]
  | cons c t ih =>
    rw [splitOnce]
    split_ifs with hc
    · subst hc
      constructor
      · intro h
        cases h
        exact ⟨rfl, List.not_mem_nil⟩
      · rintro ⟨heq, ha⟩
        cases a with
        | nil => rw [(List.cons.inj heq).2]
        | cons d a => exact absurd ((List.cons.inj heq).1 ▸ List.mem_cons_self) ha
    · rw [Option.map_eq_some_iff]
      constructor
      · rintro ⟨⟨front, rest⟩, hsplit, heq⟩
        obtain ⟨rfl, rfl⟩ := Prod.mk.inj heq
        obtain ⟨rfl, hfront⟩ := ih.mp hsplit
        exact ⟨rfl, mt List.mem_cons.mp (not_or.mpr ⟨fun heq => hc heq.symm, hfront⟩)⟩
      · rintro ⟨heq, ha⟩
        cases a with
        | nil => exact absurd (List.cons.inj heq).1 hc
        | cons d a =>
          obtain ⟨rfl, rfl⟩ := List.cons.inj heq
          exact ⟨(a, b), ih.mpr ⟨rfl, fun hmem => ha (List.mem_cons_of_mem _ hmem)⟩, rfl⟩

theorem splitOnce_append_right {sep : Char} {t a b : Text} (h : splitOnce sep t = some (a, b))
    (rest : Text) : splitOnce sep (t ++ rest) = some (a, b ++ rest) := by
  induction t generalizing a b with
  | nil => cases h
  | cons c t ih =>
    rw [splitOnce] at h
    rw [List.cons_append, splitOnce]
    split_ifs at h ⊢ with hc
    · cases h
      rfl
    · obtain ⟨parts, hparts, heq⟩ := Option.map_eq_some_iff.mp h
      obtain ⟨rfl, rfl⟩ := Prod.mk.inj heq
      rw [ih hparts]
      rfl

theorem splitOnce_append_left {sep : Char} {a : Text} (h : sep ∉ a) (b : Text) :
    splitOnce sep (a ++ b) = (splitOnce sep b).map fun r => (a ++ r.1, r.2) := by
  induction a with
  | nil => simp
  | cons c a ih =>
    obtain ⟨hc, ha⟩ := not_or.mp (mt List.mem_cons.mpr h)
    rw [List.cons_append, splitOnce, if_neg (fun heq => hc heq.symm), ih ha, Option.map_map]
    rfl

theorem splitOnce_eq_none {sep : Char} {t : Text} : splitOnce sep t = none ↔ sep ∉ t := by
  induction t with
  | nil => simp [splitOnce]
  | cons c t ih =>
    rw [splitOnce, List.mem_cons, not_or]
    split_ifs with hc
    · simp [hc]
    · rw [Option.map_eq_none_iff, ih]
      exact (and_iff_right fun heq => hc heq.symm).symm

end SplitOnce

section SplitOn

/-- The last piece of a list and the first piece of what follows it become one. -/
theorem splitOnP_append {α : Type*} (sep : α → Bool) (a b : List α) : ∃ front last first rest,
    a.splitOnP sep = front ++ [last] ∧ b.splitOnP sep = first :: rest ∧
      (a ++ b).splitOnP sep = front ++ (last ++ first) :: rest := by
  obtain ⟨first, rest, hb⟩ := List.exists_cons_of_ne_nil (List.splitOnP_ne_nil sep b)
  induction a with
  | nil => exact ⟨[], [], first, rest, rfl, hb, hb⟩
  | cons c a ih =>
    obtain ⟨front, last, first', rest', hsplit, hb', hsplit'⟩ := ih
    rw [List.cons_append, List.splitOnP_cons_eq_if_modifyHead, List.splitOnP_cons_eq_if_modifyHead,
      hsplit, hsplit']
    split_ifs
    · exact ⟨[] :: front, last, first', rest', rfl, hb', rfl⟩
    · cases front with
      | nil => exact ⟨[], c :: last, first', rest', rfl, hb', rfl⟩
      | cons head front => exact ⟨(c :: head) :: front, last, first', rest', rfl, hb', rfl⟩

end SplitOn

section TrimEnd

theorem trimEnd_append_replicate (c : Char) (t : Text) (n : Nat) :
    trimEnd c (t ++ List.replicate n c) = trimEnd c t :=
  rdropWhile_append_right (· == c) (fun d hd => by simp [List.eq_of_mem_replicate hd]) t

theorem trimEnd_eq_self {c : Char} {t : Text} (h : t.getLast? ≠ some c) : trimEnd c t = t := by
  rw [trimEnd, List.rdropWhile_eq_self_iff]
  intro hne hlast
  exact h (by rw [List.getLast?_eq_some_getLast hne, beq_iff_eq.mp hlast])

theorem exists_trimEnd (c : Char) (t : Text) : ∃ n, t = trimEnd c t ++ List.replicate n c := by
  refine ⟨(t.rtakeWhile (· == c)).length, ?_⟩
  have hrep : t.rtakeWhile (· == c) = List.replicate (t.rtakeWhile (· == c)).length c :=
    List.eq_replicate_iff.mpr ⟨rfl, fun d hd => by simpa using List.mem_rtakeWhile_imp hd⟩
  rw [← hrep, trimEnd, List.rdropWhile_append_rtakeWhile]

theorem trimEnd_getLast (c : Char) (t : Text) : (trimEnd c t).getLast? ≠ some c := by
  intro h
  obtain ⟨hne, hlast⟩ := List.mem_getLast?_eq_getLast h
  have hnot := List.rdropWhile_last_not (· == c) t hne
  change ¬(((trimEnd c t).getLast hne == c) = true) at hnot
  rw [← hlast] at hnot
  simp at hnot

end TrimEnd

end CharText
