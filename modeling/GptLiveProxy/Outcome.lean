import Mathlib.Data.List.Forall2
import Mathlib.Logic.Basic

/-!
# Outcomes of code that may reject or panic

A computation ends with a value, with an error it returns, or with a panic: a failed assertion, a
failed `expect`, or a branch declared unreachable. Sequencing stops at the first of the last two.
-/

universe u v

inductive Outcome (ε : Type u) (α : Type v)
  | ok (a : α)
  | error (e : ε)
  | panicked
deriving DecidableEq

namespace Outcome
variable {ε ε' : Type u} {α β : Type v}

protected def bind : Outcome ε α → (α → Outcome ε β) → Outcome ε β
  | ok a, f => f a
  | error e, _ => error e
  | panicked, _ => panicked

instance : Monad (Outcome ε) where
  pure := ok
  bind := Outcome.bind

def ofExcept : Except ε α → Outcome ε α
  | .ok a => ok a
  | .error e => error e

def mapError (f : ε → ε') : Outcome ε α → Outcome ε' α
  | ok a => ok a
  | error e => error (f e)
  | panicked => panicked

/-- Panics when the assertion fails. -/
def assert (condition : Bool) : Outcome ε Unit := if condition then ok () else panicked

/-- An assertion that is compiled only into builds with debug assertions. -/
def debugAssert (debugAssertions condition : Bool) : Outcome ε Unit :=
  if debugAssertions then assert condition else ok ()

/-- The computation ends with a value that passes the check. -/
def okAnd (check : α → Bool) : Outcome ε α → Bool
  | ok a => check a
  | error _ => false
  | panicked => false

theorem exists_of_okAnd {check : α → Bool} {x : Outcome ε α} (h : okAnd check x = true) :
    ∃ a, x = ok a ∧ check a = true := by
  cases x with
  | ok a => exact ⟨a, rfl, h⟩
  | error e => cases h
  | panicked => cases h

theorem bind_eq_ok {x : Outcome ε α} {f : α → Outcome ε β} {b : β} :
    x >>= f = ok b ↔ ∃ a, x = ok a ∧ f a = ok b := by
  change Outcome.bind x f = ok b ↔ _
  cases x <;> simp [Outcome.bind]

@[simp] theorem ok_bind (a : α) (f : α → Outcome ε β) : ok a >>= f = f a := rfl

@[simp] theorem pure_eq_ok (a : α) : (pure a : Outcome ε α) = ok a := rfl

theorem bind_assoc {γ : Type v} (x : Outcome ε α) (f : α → Outcome ε β) (g : β → Outcome ε γ) :
    x >>= f >>= g = x >>= fun a => f a >>= g := by
  cases x <;> rfl

theorem ofExcept_bind (x : Except ε α) (f : α → Except ε β) :
    ofExcept (x >>= f) = ofExcept x >>= fun a => ofExcept (f a) := by
  cases x <;> rfl

@[simp] theorem ofExcept_eq_ok {x : Except ε α} {a : α} : ofExcept x = ok a ↔ x = .ok a := by
  cases x <;> simp [ofExcept]

@[simp] theorem mapError_eq_ok {f : ε → ε'} {x : Outcome ε α} {a : α} :
    mapError f x = ok a ↔ x = ok a := by
  cases x <;> simp [mapError]

@[simp] theorem debugAssert_false {condition : Bool} :
    (debugAssert false condition : Outcome ε Unit) = ok () := rfl

@[simp] theorem assert_eq_ok {condition : Bool} {u : Unit} :
    (assert condition : Outcome ε Unit) = ok u ↔ condition = true := by
  cases condition <;> simp [assert]

/-- The computation does not panic. -/
def Safe (x : Outcome ε α) : Prop := x ≠ panicked

@[simp] theorem safe_ok (a : α) : (ok a : Outcome ε α).Safe := by simp [Safe]

@[simp] theorem safe_error (e : ε) : (error e : Outcome ε α).Safe := by simp [Safe]

@[simp] theorem safe_ofExcept (x : Except ε α) : (ofExcept x).Safe := by
  cases x <;> simp [ofExcept]

theorem Safe.mapError {x : Outcome ε α} (h : x.Safe) (f : ε → ε') : (x.mapError f).Safe := by
  cases x with
  | ok a => exact safe_ok a
  | error e => exact safe_error (f e)
  | panicked => exact absurd rfl h

/-- What follows a step may use the value the step ended with. -/
theorem Safe.bind {x : Outcome ε α} {f : α → Outcome ε β} (hx : x.Safe)
    (hf : ∀ a, x = ok a → (f a).Safe) : (x >>= f).Safe := by
  cases x with
  | ok a => exact hf a rfl
  | error e => exact safe_error e
  | panicked => exact absurd rfl hx

theorem Safe.of_bind {x : Outcome ε α} {f : α → Outcome ε β} (h : (x >>= f).Safe) : x.Safe := by
  rintro rfl
  exact h rfl

theorem safe_debugAssert {debugAssertions condition : Bool}
    (h : debugAssertions = true → condition = true) :
    (debugAssert debugAssertions condition : Outcome ε Unit).Safe := by
  cases debugAssertions with
  | false => exact safe_ok ()
  | true =>
    rw [h rfl]
    exact safe_ok ()

/-- Two computations end alike: with related values, with one error, or both with a panic. -/
inductive Related (R : α → β → Prop) : Outcome ε α → Outcome ε β → Prop
  | ok {a : α} {b : β} (h : R a b) : Related R (.ok a) (.ok b)
  | error (e : ε) : Related R (.error e) (.error e)
  | panicked : Related R .panicked .panicked

theorem Related.bind {γ δ : Type v} {R : α → β → Prop} {S : γ → δ → Prop} {x : Outcome ε α}
    {y : Outcome ε β} {f : α → Outcome ε γ} {g : β → Outcome ε δ} (h : Related R x y)
    (hfg : ∀ a b, R a b → Related S (f a) (g b)) : Related S (x >>= f) (y >>= g) := by
  cases h with
  | ok hab => exact hfg _ _ hab
  | error e => exact .error e
  | panicked => exact .panicked

theorem Related.refl (x : Outcome ε α) : Related (· = ·) x x := by
  cases x with
  | ok a => exact .ok rfl
  | error e => exact .error e
  | panicked => exact .panicked

theorem Related.mapError {R : α → β → Prop} {x : Outcome ε α} {y : Outcome ε β} (h : Related R x y)
    (f : ε → ε') : Related R (x.mapError f) (y.mapError f) := by
  cases h with
  | ok hab => exact .ok hab
  | error e => exact .error (f e)
  | panicked => exact .panicked

/-- Related values may be assumed to be what the computations end with. -/
theorem Related.imp {R S : α → β → Prop} {x : Outcome ε α} {y : Outcome ε β} (h : Related R x y)
    (hRS : ∀ a b, x = .ok a → y = .ok b → R a b → S a b) : Related S x y := by
  cases h with
  | ok hab => exact .ok (hRS _ _ rfl rfl hab)
  | error e => exact .error e
  | panicked => exact .panicked

end Outcome

namespace Except
variable {ε : Type u} {α β : Type v}

/-- Two computations end alike: with related values, or with one error. -/
inductive Related (R : α → β → Prop) : Except ε α → Except ε β → Prop
  | ok {a : α} {b : β} (h : R a b) : Related R (.ok a) (.ok b)
  | error (e : ε) : Related R (.error e) (.error e)

theorem Related.bind {γ δ : Type v} {R : α → β → Prop} {S : γ → δ → Prop} {x : Except ε α}
    {y : Except ε β} {f : α → Except ε γ} {g : β → Except ε δ} (h : Related R x y)
    (hfg : ∀ a b, R a b → Related S (f a) (g b)) : Related S (x >>= f) (y >>= g) := by
  cases h with
  | ok hab => exact hfg _ _ hab
  | error e => exact .error e

theorem Related.refl (x : Except ε α) : Related (· = ·) x x := by
  cases x with
  | ok a => exact .ok rfl
  | error e => exact .error e

theorem Related.mapError {ε' : Type u} {R : α → β → Prop} {x : Except ε α} {y : Except ε β}
    (h : Related R x y) (f : ε → ε') : Related R (x.mapError f) (y.mapError f) := by
  cases h with
  | ok hab => exact .ok hab
  | error e => exact .error (f e)

theorem Related.imp {R S : α → β → Prop} {x : Except ε α} {y : Except ε β} (h : Related R x y)
    (hRS : ∀ a b, x = .ok a → y = .ok b → R a b → S a b) : Related S x y := by
  cases h with
  | ok hab => exact .ok (hRS _ _ rfl rfl hab)
  | error e => exact .error e

theorem Related.ofExcept {R : α → β → Prop} {x : Except ε α} {y : Except ε β} (h : Related R x y) :
    Outcome.Related R (Outcome.ofExcept x) (Outcome.ofExcept y) := by
  cases h with
  | ok hab => exact .ok hab
  | error e => exact .error e

/-- Two folds over one list that keep their states related step by step end alike. -/
theorem Related.foldlM {σ τ : Type v} {κ : Type*} {R : σ → τ → Prop} {f : σ → κ → Except ε σ}
    {g : τ → κ → Except ε τ} {l : List κ}
    (hstep : ∀ k ∈ l, ∀ s t, R s t → Related R (f s k) (g t k)) {s : σ} {t : τ} (hst : R s t) :
    Related R (l.foldlM f s) (l.foldlM g t) := by
  induction l generalizing s t with
  | nil => exact .ok hst
  | cons k l ih =>
    rw [List.foldlM_cons, List.foldlM_cons]
    refine (hstep k (by simp) s t hst).bind fun s' t' hst' => ?_
    exact ih (fun k' hk' => hstep k' (by simp [hk'])) hst'

@[simp] theorem ok_bind (a : α) (f : α → Except ε β) : (Except.ok a >>= f) = f a := rfl

@[simp] theorem error_bind (e : ε) (f : α → Except ε β) : (Except.error e >>= f) = .error e := rfl

theorem bind_eq_ok {x : Except ε α} {f : α → Except ε β} {b : β} :
    x >>= f = .ok b ↔ ∃ a, x = .ok a ∧ f a = .ok b := by
  cases x with
  | error e => simp [bind, Except.bind]
  | ok a => simp [bind, Except.bind]

theorem mapError_eq_ok {ε' : Type*} {f : ε → ε'} {x : Except ε α} {a : α} :
    x.mapError f = .ok a ↔ x = .ok a := by
  cases x with
  | error e =>
    change (Except.error (f e) : Except ε' α) = .ok a ↔ _
    simp
  | ok b =>
    change (Except.ok b : Except ε' α) = .ok a ↔ _
    simp

theorem map_eq_error {f : α → β} {x : Except ε α} {e : ε} : x.map f = .error e ↔ x = .error e := by
  cases x with
  | error e' =>
    change (Except.error e' : Except ε β) = .error e ↔ _
    simp
  | ok a =>
    change (Except.ok (f a) : Except ε β) = .error e ↔ _
    simp

/-- A traversal succeeds with the list of what each step yields. -/
theorem mapM_eq_ok {κ : Type*} {f : κ → Except ε α} {l : List κ} {as : List α} :
    l.mapM f = .ok as ↔ List.Forall₂ (fun k a => f k = .ok a) l as := by
  induction l generalizing as with
  | nil =>
    rw [List.mapM_nil, List.forall₂_nil_left_iff]
    exact ⟨fun h => (Except.ok.inj h).symm, fun h => h ▸ rfl⟩
  | cons k l ih =>
    rw [List.mapM_cons, bind_eq_ok]
    constructor
    · rintro ⟨a, ha, h⟩
      obtain ⟨as', has', h⟩ := bind_eq_ok.mp h
      cases h
      exact .cons ha (ih.mp has')
    · rintro (_ | ⟨ha, has'⟩)
      exact ⟨_, ha, bind_eq_ok.mpr ⟨_, ih.mpr has', rfl⟩⟩

/-- A traversal fails with the error of the first step that fails. -/
theorem mapM_eq_error {κ : Type*} {f : κ → Except ε α} {l : List κ} {e : ε} :
    l.mapM f = .error e ↔
      ∃ front k rest, l = front ++ k :: rest ∧ (∀ j ∈ front, ∃ a, f j = .ok a) ∧ f k = .error e := by
  induction l with
  | nil =>
    rw [List.mapM_nil]
    constructor
    · intro h
      cases h
    · rintro ⟨front, k, rest, hl, -⟩
      exact absurd hl.symm (by simp)
  | cons k l ih =>
    rw [List.mapM_cons]
    cases hk : f k with
    | error e' =>
      rw [error_bind]
      constructor
      · intro h
        cases h
        exact ⟨[], k, l, rfl, List.forall_mem_nil _, hk⟩
      · rintro ⟨front, j, rest, hl, hfront, hj⟩
        cases front with
        | nil =>
          obtain ⟨rfl, -⟩ := List.cons.inj hl
          exact congrArg _ (Except.error.inj (hk.symm.trans hj))
        | cons i front =>
          obtain ⟨rfl, -⟩ := List.cons.inj hl
          obtain ⟨a, ha⟩ := hfront k List.mem_cons_self
          exact absurd (hk.symm.trans ha) (by simp)
    | ok a =>
      rw [ok_bind]
      have htail : (l.mapM f >>= fun as => pure (a :: as)) = .error e ↔ l.mapM f = .error e := by
        cases l.mapM f with
        | error e' => rfl
        | ok as =>
          constructor
          · intro h
            cases h
          · intro h
            cases h
      rw [htail, ih]
      constructor
      · rintro ⟨front, j, rest, rfl, hfront, hj⟩
        exact ⟨k :: front, j, rest, rfl, List.forall_mem_cons.mpr ⟨⟨a, hk⟩, hfront⟩, hj⟩
      · rintro ⟨front, j, rest, hl, hfront, hj⟩
        cases front with
        | nil =>
          obtain ⟨rfl, -⟩ := List.cons.inj hl
          exact absurd (hk.symm.trans hj) (by simp)
        | cons i front =>
          obtain ⟨rfl, rfl⟩ := List.cons.inj hl
          exact ⟨front, j, rest, rfl, (List.forall_mem_cons.mp hfront).2, hj⟩

theorem mapM_fails_iff {κ : Type*} {f : κ → Except ε α} {l : List κ} :
    (∃ e, l.mapM f = .error e) ↔ ∃ k ∈ l, ∃ e, f k = .error e := by
  constructor
  · rintro ⟨e, h⟩
    obtain ⟨front, k, rest, rfl, -, hk⟩ := mapM_eq_error.mp h
    exact ⟨k, by simp, e, hk⟩
  · rintro ⟨k, hk, e, hfails⟩
    cases h : l.mapM f with
    | error e' => exact ⟨e', rfl⟩
    | ok as =>
      have hsteps := (mapM_eq_ok.mp h).imp fun j a ha => And.intro (Exists.intro a ha) ha
      obtain ⟨a, ha⟩ := ((List.forall₂_and_left _ _).mp hsteps).1 k hk
      exact absurd (hfails.symm.trans ha) (by simp)

/-- A fold that may fail keeps what each of its steps keeps. -/
theorem foldlM_invariant {σ : Type v} {α : Type*} {f : σ → α → Except ε σ} (P : σ → Prop)
    (hstep : ∀ s a s', P s → f s a = .ok s' → P s') {l : List α} {s s' : σ} (hs : P s)
    (h : l.foldlM f s = .ok s') : P s' := by
  induction l generalizing s with
  | nil =>
    cases h
    exact hs
  | cons a l ih =>
    rw [List.foldlM_cons] at h
    obtain ⟨m, hm, hrest⟩ := bind_eq_ok.mp h
    exact ih (hstep s a m hs hm) hrest

/-- Each element of the list passes the test against the elements before it. -/
def AllAfter {κ : Type*} (P : List κ → κ → Prop) (done : List κ) : List κ → Prop
  | [] => True
  | k :: l => P done k ∧ AllAfter P (done ++ [k]) l

theorem allAfter_append {κ : Type*} {P : List κ → κ → Prop} {done l l' : List κ} :
    AllAfter P done (l ++ l') ↔ AllAfter P done l ∧ AllAfter P (done ++ l) l' := by
  induction l generalizing done with
  | nil => simp [AllAfter]
  | cons k l ih => rw [List.cons_append, AllAfter, AllAfter, ih, List.append_assoc, and_assoc]; rfl

/-- A fold whose state is a view of the elements it has taken succeeds exactly when each element
passes a test of its own and one against the elements before it. -/
theorem foldlM_view {σ : Type v} {κ : Type*} {f : σ → κ → Except ε σ} {view : List κ → σ}
    {I : κ → Prop} {P : List κ → κ → Prop}
    (hstep : ∀ done k s, (∀ j ∈ done, I j) →
      (f (view done) k = .ok s ↔ (I k ∧ P done k) ∧ s = view (done ++ [k])))
    {done l : List κ} {s : σ} (hdone : ∀ j ∈ done, I j) :
    l.foldlM f (view done) = .ok s ↔
      (∀ k ∈ l, I k) ∧ AllAfter P done l ∧ s = view (done ++ l) := by
  induction l generalizing done with
  | nil =>
    rw [List.foldlM_nil, List.append_nil]
    constructor
    · intro h
      cases h
      exact ⟨List.forall_mem_nil _, trivial, rfl⟩
    · rintro ⟨-, -, rfl⟩
      rfl
  | cons k l ih =>
    rw [List.foldlM_cons, bind_eq_ok, List.forall_mem_cons, AllAfter]
    have hsnoc (hk : I k) : ∀ j ∈ done ++ [k], I j := by
      intro j hj
      rcases List.mem_append.mp hj with hj | hj
      · exact hdone j hj
      · exact List.mem_singleton.mp hj ▸ hk
    constructor
    · rintro ⟨m, hm, hrest⟩
      obtain ⟨⟨hk, hafter⟩, rfl⟩ := (hstep done k m hdone).mp hm
      obtain ⟨hall, hafters, rfl⟩ := (ih (hsnoc hk)).mp hrest
      exact ⟨⟨hk, hall⟩, ⟨hafter, hafters⟩, by rw [List.append_assoc]; rfl⟩
    · rintro ⟨⟨hk, hall⟩, ⟨hafter, hafters⟩, rfl⟩
      refine ⟨view (done ++ [k]), (hstep done k _ hdone).mpr ⟨⟨hk, hafter⟩, rfl⟩, ?_⟩
      exact (ih (hsnoc hk)).mpr ⟨hall, hafters, by rw [List.append_assoc]; rfl⟩

/-- A fold that may fail collects what each of its steps appends to a view of the state. -/
theorem foldlM_collect {σ : Type v} {α β : Type*} {f : σ → α → Except ε σ} (view : σ → List β)
    (g : α → List β) (hstep : ∀ s a s', f s a = .ok s' → view s' = view s ++ g a) {l : List α}
    {s s' : σ} (h : l.foldlM f s = .ok s') : view s' = view s ++ l.flatMap g := by
  induction l generalizing s with
  | nil =>
    cases h
    simp
  | cons a l ih =>
    rw [List.foldlM_cons] at h
    obtain ⟨m, hm, hrest⟩ := bind_eq_ok.mp h
    rw [ih hrest, hstep s a m hm, List.flatMap_cons, List.append_assoc]

end Except
