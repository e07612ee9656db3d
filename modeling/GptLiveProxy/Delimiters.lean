import GptLiveProxy.TextPieces
import Mathlib.Data.List.Infix

/-!
# The first occurrence of a delimiter

Cutting at the first occurrence of a word inverts joining with the word, as long as the word does
not occur in the first part. That no occurrence begins in the first part and ends behind it needs
a word that no shift of itself overlaps; a word whose first symbol does not come again is one.
-/

namespace Delimiters
open CharText
variable {α : Type*}

/-- The first symbol of the word does not come again. -/
def Unrepeated (word : List α) : Prop := ∃ mark rest, word = mark :: rest ∧ mark ∉ rest

def cutAt [BEq α] (word : List α) : List α → Option (List α × List α)
  | [] => if word.isEmpty then some ([], []) else none
  | c :: t =>
    match (c :: t).dropPrefix? word with
    | some rest => some ([], rest)
    | none => (cutAt word t).map fun parts => (c :: parts.1, parts.2)

/-- The word does not begin inside a text it does not occur in. -/
theorem not_prefix_of_fresh {word front : List α} (hword : Unrepeated word) (hne : front ≠ [])
    (hfree : ¬ word <:+: front) (rest : List α) : ¬ word <+: front ++ (word ++ rest) := by
  intro hbegins
  have hfront : front <+: front ++ (word ++ rest) := List.prefix_append _ _
  by_cases hlen : word.length ≤ front.length
  · exact hfree (List.prefix_of_prefix_length_le hbegins hfront hlen).isInfix
  obtain ⟨overlap, hoverlap⟩ := List.prefix_of_prefix_length_le hfront hbegins (by omega)
  -- the part of the word behind the text begins with its first symbol
  obtain ⟨mark, body, rfl, hmark⟩ := hword
  rw [← hoverlap, List.prefix_append_right_inj] at hbegins
  cases front with
  | nil => exact hne rfl
  | cons c front =>
    cases overlap with
    | nil =>
      have hlength := congrArg List.length hoverlap
      rw [List.append_nil] at hlength
      omega
    | cons d overlap =>
      rw [hoverlap, List.cons_append, List.cons_prefix_cons] at hbegins
      obtain ⟨-, htail⟩ := List.cons.inj hoverlap
      refine hmark ?_
      rw [← htail, ← hbegins.1]
      exact List.mem_append_right _ List.mem_cons_self

theorem cutAt_eq_some [BEq α] [LawfulBEq α] {word t front rest : List α} (h : cutAt word t = some (front, rest)) :
    t = front ++ (word ++ rest) := by
  induction t generalizing front with
  | nil =>
    rw [cutAt] at h
    split_ifs at h with hword
    cases h
    rw [List.isEmpty_iff.mp hword]
    rfl
  | cons c t ih =>
    rw [cutAt] at h
    cases hdrop : (c :: t).dropPrefix? word with
    | some after =>
      simp only [hdrop] at h
      cases h
      rw [List.nil_append]
      exact dropPrefix?_eq_some.mp hdrop
    | none =>
      simp only [hdrop] at h
      obtain ⟨⟨front', rest'⟩, hcut, heq⟩ := Option.map_eq_some_iff.mp h
      obtain ⟨rfl, rfl⟩ := Prod.mk.inj heq
      rw [ih hcut, List.cons_append]

theorem cutAt_append [BEq α] [LawfulBEq α] {word front : List α} (hword : Unrepeated word) (hfree : ¬ word <:+: front)
    (rest : List α) : cutAt word (front ++ (word ++ rest)) = some (front, rest) := by
  induction front with
  | nil =>
    obtain ⟨mark, body, rfl, -⟩ := hword
    rw [List.nil_append, List.cons_append, cutAt, ← List.cons_append, dropPrefix?_append]
  | cons c front ih =>
    have hnot := not_prefix_of_fresh hword (List.cons_ne_nil c front) hfree rest
    have htail := ih fun h => hfree (List.infix_cons_iff.mpr (.inr h))
    rw [List.cons_append] at hnot ⊢
    rw [cutAt, dropPrefix?_eq_none.mpr hnot, htail]
    rfl

theorem exists_first {word t : List α} (hword : word ≠ []) (h : word <:+: t) :
    ∃ front rest, t = front ++ (word ++ rest) ∧ ¬ word <:+: front := by
  induction t with
  | nil => exact absurd (List.eq_nil_of_infix_nil h) hword
  | cons c t ih =>
    by_cases hbegins : word <+: c :: t
    · obtain ⟨rest, hrest⟩ := hbegins
      exact ⟨[], rest, hrest.symm, fun hnil => hword (List.eq_nil_of_infix_nil hnil)⟩
    · obtain ⟨front, rest, rfl, hfree⟩ := ih ((List.infix_cons_iff.mp h).resolve_left hbegins)
      refine ⟨c :: front, rest, rfl, fun hoccurs => ?_⟩
      rcases List.infix_cons_iff.mp hoccurs with hfront | hfront
      · exact hbegins (hfront.trans ⟨word ++ rest, rfl⟩)
      · exact hfree hfront

end Delimiters
