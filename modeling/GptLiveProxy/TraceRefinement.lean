import GptLiveProxy.TraceMachine

/-!
# Refinement and progress of trace machines

A machine refines another when every step is a run of the other between the images of its two
states, with each output translated on its own. Progress is the dual question: whether a state that
meets a goal can be reached through allowed events alone, which a decreasing rank settles.
-/

namespace TraceMachine
variable {σ ε α τ δ β : Type*} {M : TraceMachine σ ε α} {N : TraceMachine τ δ β}

section Refinement
variable {P : σ → Prop} {f : σ → τ} {h : α → List β} {s₀ s : σ} {es : List ε} {t : List α}

theorem run_refines (hstart : P s₀)
    (hstep : ∀ s e s' out, P s → M.step s e = some (s', out) →
      P s' ∧ ∃ ds, N.run (f s) ds = some (f s', out.flatMap h))
    (hrun : M.run s₀ es = some (s, t)) :
    P s ∧ ∃ ds, N.run (f s₀) ds = some (f s, t.flatMap h) := by
  refine M.run_invariant (P := fun s t => P s ∧ ∃ ds, N.run (f s₀) ds = some (f s, t.flatMap h))
    ⟨hstart, [], rfl⟩ ?_ hrun
  intro s t e s' out hs he
  obtain ⟨hs, ds, hds⟩ := hs
  obtain ⟨hs', ds', hds'⟩ := hstep s e s' out hs he
  refine ⟨hs', ds ++ ds', ?_⟩
  rw [List.flatMap_append]
  exact N.run_append_iff.mpr ⟨f s, _, _, hds, hds', rfl⟩

theorem run_singleton {s' : σ} {e : ε} {out : List α} (he : M.step s e = some (s', out)) :
    M.run s [e] = some (s', out) :=
  M.run_cons_iff.mpr ⟨s', out, [], he, rfl, (List.append_nil out).symm⟩

theorem run_snoc {s' : σ} {e : ε} {out : List α} (hrun : M.run s₀ es = some (s, t))
    (he : M.step s e = some (s', out)) : M.run s₀ (es ++ [e]) = some (s', t ++ out) :=
  M.run_append_iff.mpr ⟨s, t, out, hrun, run_singleton he, rfl⟩

/-- The precedence rule: when each output of a step is justified by what has been written before the
step, each output of a run is justified by what stands before it. -/
theorem run_precedes {P : List ε → σ → List α → Prop} {R : σ → List α → α → Prop}
    (hstart : P [] s₀ [])
    (hstep : ∀ es s t e s' out, P es s t → M.step s e = some (s', out) →
      P (es ++ [e]) s' (t ++ out))
    (hnew : ∀ es s t e s' out o, P es s t → M.step s e = some (s', out) → o ∈ out → R s' t o)
    (hold : ∀ s e s' out front o, M.step s e = some (s', out) → R s front o → R s' front o)
    (hmore : ∀ s front u o, R s front o → R s (front ++ u) o)
    (hrun : M.run s₀ es = some (s, t)) :
    ∀ front o back, t = front ++ o :: back → R s front o := by
  have hall : P es s t ∧ ∀ front o back, t = front ++ o :: back → R s front o := by
    refine M.run_history (P := fun es s t => P es s t ∧ ∀ front o back, t = front ++ o :: back →
      R s front o) ⟨hstart, by simp⟩ ?_ hrun
    intro es s t e s' out _ hs he
    obtain ⟨hs, hfront⟩ := hs
    refine ⟨hstep es s t e s' out hs he, ?_⟩
    intro front o back hsplit
    rcases List.append_eq_append_iff.mp hsplit with ⟨more, hbefore, hafter⟩ | ⟨more, hbefore, hafter⟩
    · rw [hbefore]
      refine hmore s' t more o (hnew es s t e s' out o hs he ?_)
      rw [hafter]
      exact List.mem_append_right _ List.mem_cons_self
    · cases more with
      | nil =>
        rw [List.append_nil] at hbefore
        rw [← hbefore]
        refine hnew es s t e s' out o hs he ?_
        rw [← List.nil_append out, ← hafter]
        exact List.mem_cons_self
      | cons o' more =>
        obtain ⟨rfl, -⟩ := List.cons.inj hafter
        exact hold s e s' out front o he (hfront front o more hbefore)
  exact hall.2

theorem exists_run_of_any {p : σ × List α → Bool} (h : (M.run s₀ es).any p = true) :
    ∃ s t, M.run s₀ es = some (s, t) ∧ p (s, t) = true := by
  obtain ⟨⟨s, t⟩, hrun, hp⟩ := (Option.any_eq_true _ _).mp h
  exact ⟨s, t, hrun, hp⟩

end Refinement

section Progress

variable (M) in
/-- A run of allowed events leads from the state to one that meets the goal. -/
def CanReach (allowed : ε → Prop) (goal : σ → Prop) (s : σ) : Prop :=
  ∃ es s' t, (∀ e ∈ es, allowed e) ∧ M.run s es = some (s', t) ∧ goal s'

variable {allowed : ε → Prop} {goal : σ → Prop} {s s' : σ}

theorem CanReach.of_goal (h : goal s) : M.CanReach allowed goal s :=
  ⟨[], s, [], List.forall_mem_nil _, rfl, h⟩

theorem CanReach.step {e : ε} {out : List α} (he : allowed e) (hstep : M.step s e = some (s', out))
    (h : M.CanReach allowed goal s') : M.CanReach allowed goal s := by
  obtain ⟨es, m, t, hes, hrun, hm⟩ := h
  exact ⟨e :: es, m, out ++ t, List.forall_mem_cons.mpr ⟨he, hes⟩,
    M.run_cons_iff.mpr ⟨s', out, t, hstep, hrun, rfl⟩, hm⟩

theorem CanReach.trans {mid : σ → Prop} (h : M.CanReach allowed mid s)
    (hmid : ∀ m, mid m → M.CanReach allowed goal m) : M.CanReach allowed goal s := by
  obtain ⟨es, m, t, hes, hrun, hm⟩ := h
  obtain ⟨fs, g, u, hfs, hrest, hg⟩ := hmid m hm
  refine ⟨es ++ fs, g, t ++ u, ?_, M.run_append_iff.mpr ⟨m, t, u, hrun, hrest, rfl⟩, hg⟩
  intro e he
  rcases List.mem_append.mp he with hfirst | hsecond
  · exact hes e hfirst
  · exact hfs e hsecond

/-- The rank rule: when an allowed step lowers the rank wherever the goal is not met, the goal can
be reached. -/
theorem canReach_of_rank {P : σ → Prop} (rank : σ → Nat)
    (hstep : ∀ s, P s → goal s ∨ ∃ e s' out, allowed e ∧ M.step s e = some (s', out) ∧ P s' ∧
      rank s' < rank s)
    (hs : P s) : M.CanReach allowed goal s := by
  induction hrank : rank s using Nat.strongRecOn generalizing s with
  | ind n ih =>
    rcases hstep s hs with hgoal | ⟨e, s', out, he, hnext, hs', hlt⟩
    · exact .of_goal hgoal
    · exact .step he hnext (ih (rank s') (hrank ▸ hlt) hs' rfl)

/-- The stage rule: the rank may take a run of allowed events to fall. -/
theorem canReach_of_stages {P : σ → Prop} (rank : σ → Nat)
    (hstage : ∀ s, P s → goal s ∨ M.CanReach allowed (fun s' => P s' ∧ rank s' < rank s) s)
    (hs : P s) : M.CanReach allowed goal s := by
  induction hrank : rank s using Nat.strongRecOn generalizing s with
  | ind n ih =>
    rcases hstage s hs with hgoal | hreach
    · exact .of_goal hgoal
    · refine hreach.trans ?_
      rintro m ⟨hm, hlt⟩
      exact ih (rank m) (hrank ▸ hlt) hm rfl

/-- The simulation rule: what can be reached in one machine can be reached in another that follows
its allowed steps, one by one. -/
theorem CanReach.simulate {R : σ → τ → Prop} {allowed' : δ → Prop} {goal' : τ → Prop}
    (hstep : ∀ s x e s' out, R s x → allowed e → M.step s e = some (s', out) →
      ∃ d x' o, allowed' d ∧ N.step x d = some (x', o) ∧ R s' x')
    (hgoal : ∀ s x, R s x → goal s → N.CanReach allowed' goal' x)
    (h : M.CanReach allowed goal s) {x : τ} (hx : R s x) : N.CanReach allowed' goal' x := by
  obtain ⟨es, m, t, hes, hrun, hm⟩ := h
  induction es generalizing s x t with
  | nil =>
    obtain ⟨rfl, -⟩ : s = m ∧ [] = t := by simpa using hrun
    exact hgoal s x hx hm
  | cons e es ih =>
    obtain ⟨s', out, rest, hfirst, hrest, -⟩ := M.run_cons_iff.mp hrun
    obtain ⟨he, hes⟩ := List.forall_mem_cons.mp hes
    obtain ⟨d, x', o, hd, hnext, hx'⟩ := hstep s x e s' out hx he hfirst
    exact .step hd hnext (ih hx' rest hes hrest)

theorem CanReach.mono {allowed' : ε → Prop} {goal' : σ → Prop} (h : M.CanReach allowed goal s)
    (hallowed : ∀ e, allowed e → allowed' e) (hgoal : ∀ s, goal s → goal' s) :
    M.CanReach allowed' goal' s := by
  obtain ⟨es, m, t, hes, hrun, hm⟩ := h
  exact ⟨es, m, t, fun e he => hallowed e (hes e he), hrun, hgoal m hm⟩

end Progress

end TraceMachine
