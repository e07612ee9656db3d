import Mathlib.Data.List.Induction

/-!
# Partial transition functions with outputs

A `TraceMachine` maps a state and an event to a next state and the outputs of the step, or refuses
the event. A run consumes a list of events and concatenates the outputs. Every run property below
is obtained from what one step preserves, with the outputs so far available to the invariant.
-/

structure TraceMachine (σ ε α : Type*) where
  step : σ → ε → Option (σ × List α)

namespace TraceMachine
variable {σ ε α : Type*} (M : TraceMachine σ ε α)

def run (s : σ) : List ε → Option (σ × List α)
  | [] => some (s, [])
  | e :: es => (M.step s e).bind fun r => (run r.1 es).map fun q => (q.1, r.2 ++ q.2)

@[simp] theorem run_nil (s : σ) : M.run s [] = some (s, []) := rfl

theorem run_cons_iff {s s' : σ} {e : ε} {es : List ε} {t : List α} :
    M.run s (e :: es) = some (s', t) ↔
      ∃ m out rest, M.step s e = some (m, out) ∧ M.run m es = some (s', rest) ∧ t = out ++ rest := by
  simp only [run, Option.bind_eq_some_iff, Option.map_eq_some_iff, Prod.exists, Prod.mk.injEq]
  constructor
  · rintro ⟨m, out, hstep, s'', rest, hrun, rfl, rfl⟩
    exact ⟨m, out, rest, hstep, hrun, rfl⟩
  · rintro ⟨m, out, rest, hstep, hrun, rfl⟩
    exact ⟨m, out, hstep, s', rest, hrun, rfl, rfl⟩

theorem run_append_iff {s s' : σ} {es fs : List ε} {t : List α} :
    M.run s (es ++ fs) = some (s', t) ↔
      ∃ m t₁ t₂, M.run s es = some (m, t₁) ∧ M.run m fs = some (s', t₂) ∧ t = t₁ ++ t₂ := by
  induction es generalizing s t with
  | nil => simp
  | cons e es ih =>
    rw [List.cons_append, run_cons_iff]
    simp only [ih, run_cons_iff]
    constructor
    · rintro ⟨m, out, _, hstep, ⟨m', t₁, t₂, hes, hfs, rfl⟩, rfl⟩
      exact ⟨m', out ++ t₁, t₂, ⟨m, out, t₁, hstep, hes, rfl⟩, hfs, (List.append_assoc ..).symm⟩
    · rintro ⟨m', _, t₂, ⟨m, out, t₁, hstep, hes, rfl⟩, hfs, rfl⟩
      exact ⟨m, out, t₁ ++ t₂, hstep, ⟨m', t₁, t₂, hes, hfs, rfl⟩, List.append_assoc ..⟩

/-- A run is known by its trace and by what is observed of the state it reaches. -/
theorem exists_run_of_observed {β : Type*} {f : σ → β} {s : σ} {es : List ε} {b : β} {t : List α}
    (h : ((M.run s es).map fun r => (f r.1, r.2)) = some (b, t)) :
    ∃ s', M.run s es = some (s', t) ∧ f s' = b := by
  obtain ⟨⟨s', u⟩, hrun, heq⟩ := Option.map_eq_some_iff.mp h
  obtain ⟨hb, rfl⟩ := Prod.mk.inj heq
  exact ⟨s', hrun, hb⟩

/-- The history rule: what holds at the start and is carried over every step, with the events and the
outputs so far, holds at the end of every run. -/
theorem run_history {P : List ε → σ → List α → Prop} {s₀ : σ} (hstart : P [] s₀ [])
    (hstep : ∀ es s t e s' out, M.run s₀ es = some (s, t) → P es s t →
      M.step s e = some (s', out) → P (es ++ [e]) s' (t ++ out))
    {es : List ε} {s : σ} {t : List α} (hrun : M.run s₀ es = some (s, t)) : P es s t := by
  induction es using List.reverseRecOn generalizing s t with
  | nil =>
    obtain ⟨rfl, rfl⟩ : s₀ = s ∧ [] = t := by simpa using hrun
    exact hstart
  | append_singleton es e ih =>
    obtain ⟨m, t₁, t₂, hes, hlast, rfl⟩ := M.run_append_iff.mp hrun
    obtain ⟨m', out, rest, hm, hnil, rfl⟩ := M.run_cons_iff.mp hlast
    obtain ⟨rfl, rfl⟩ : m' = s ∧ [] = rest := by simpa using hnil
    rw [List.append_nil]
    exact hstep es m t₁ e m' out hes (ih hes) hm

/-- The invariant rule: what holds at the start and is preserved by every step, with its outputs,
holds at the end of every run. -/
theorem run_invariant {P : σ → List α → Prop} {s₀ : σ} (hstart : P s₀ [])
    (hstep : ∀ s t e s' out, P s t → M.step s e = some (s', out) → P s' (t ++ out))
    {es : List ε} {s : σ} {t : List α} (hrun : M.run s₀ es = some (s, t)) : P s t :=
  M.run_history (P := fun _ s t => P s t) hstart (fun _ s t e s' out _ h => hstep s t e s' out h) hrun

/-- A property of states alone that every step preserves holds along every run. -/
theorem run_preserves {P : σ → Prop} (hstep : ∀ s e s' out, P s → M.step s e = some (s', out) → P s')
    {es : List ε} {s s' : σ} {t : List α} (hrun : M.run s es = some (s', t)) (hs : P s) : P s' :=
  M.run_invariant (P := fun s _ => P s) hs (fun s _ e s' out h => hstep s e s' out h) hrun

/-- The output rule: what every step guarantees of each output it writes, given the outputs before
it, holds of every output of a run. -/
theorem run_outputs {P : σ → List α → Prop} {Q : List α → α → Prop} {s₀ : σ} (hstart : P s₀ [])
    (hstep : ∀ s t e s' out, P s t → M.step s e = some (s', out) → P s' (t ++ out))
    (hout : ∀ s t e s' out, P s t → M.step s e = some (s', out) →
      ∀ pre o post, out = pre ++ o :: post → Q (t ++ pre) o)
    {es : List ε} {s : σ} {t : List α} (hrun : M.run s₀ es = some (s, t)) :
    ∀ pre o post, t = pre ++ o :: post → Q pre o := by
  refine (M.run_invariant (P := fun s t => P s t ∧ ∀ pre o post, t = pre ++ o :: post → Q pre o)
    ⟨hstart, by simp⟩ ?_ hrun).2
  rintro s t e s' out ⟨hs, ht⟩ he
  refine ⟨hstep s t e s' out hs he, fun pre o post hsplit => ?_⟩
  rcases List.append_eq_append_iff.mp hsplit with ⟨rest, rfl, hrest⟩ | ⟨rest, rfl, hrest⟩
  · exact hout s t e s' out hs he rest o post hrest
  · cases rest with
    | nil =>
      rw [List.append_nil] at hs
      have := hout s pre e s' out hs he [] o post hrest.symm
      rwa [List.append_nil] at this
    | cons first rest =>
      obtain ⟨rfl, -⟩ := List.cons.inj hrest
      exact ht pre o rest rfl

/-- Every step the run takes meets the condition on its event and on the state before it. -/
def StepsMeet (C : σ → ε → Prop) (s : σ) (es : List ε) : Prop :=
  ∀ pre e post m t, es = pre ++ e :: post → M.run s pre = some (m, t) → C m e

variable {M} {C : σ → ε → Prop} {s m : σ} {es : List ε} {e : ε} {t : List α}

theorem StepsMeet.before (h : M.StepsMeet C s (es ++ [e])) : M.StepsMeet C s es := by
  intro pre e' post m t hsplit hrun
  exact h pre e' (post ++ [e]) m t (by simp [hsplit]) hrun

theorem StepsMeet.last (h : M.StepsMeet C s (es ++ [e])) (hrun : M.run s es = some (m, t)) : C m e :=
  h es e [] m t rfl hrun

end TraceMachine
