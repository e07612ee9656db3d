import GptLiveProxy.TraceRefinement
import Mathlib.Data.List.Forall2

/-!
# Components around one semaphore

A component is a trace machine some of whose events ask a semaphore for a permit, with the answer in
the event, or give one back. A pool runs any number of components around one semaphore: they arrive
at any time, their steps interleave freely, and they meet only at the semaphore. Two rules carry
what holds of one component to every pool: the permits are conserved, and every component of a pool
has made a run of its own.
-/

/-- `asks` is the answer the event carries when it asks for a permit. -/
structure PermitUser (κ σ ε α : Type*) where
  machine : TraceMachine σ ε α
  start : κ → σ
  asks : ε → Option Bool
  gives : ε → Bool
  held : σ → Nat

structure PermitPool (σ : Type*) where
  available : Nat
  members : List σ
deriving DecidableEq

inductive PoolEvent (κ ε : Type*)
  | join (kind : κ)
  | act (i : Nat) (event : ε)
deriving DecidableEq

namespace PermitUser
variable {κ σ ε α : Type*} (U : PermitUser κ σ ε α)

def taken (e : ε) : Nat := (U.asks e == some true).toNat

def given (e : ε) : Nat := (U.gives e).toNat

/-- The semaphore answers at once: yes while a permit is left. -/
def Answers (available : Nat) (e : ε) : Bool :=
  match U.asks e with
  | none => true
  | some granted => granted == decide (0 < available)

def pool : TraceMachine (PermitPool σ) (PoolEvent κ ε) (Nat × α) where
  step s
    | .join kind => some (⟨s.available, s.members ++ [U.start kind]⟩, [])
    | .act i e =>
      s.members[i]?.bind fun x =>
        (U.machine.step x e).bind fun next =>
          if U.Answers s.available e then
            some (⟨s.available - U.taken e + U.given e, s.members.set i next.1⟩,
              next.2.map (i, ·))
          else none

def startPool (limit : Nat) : PermitPool σ := ⟨limit, []⟩

theorem pool_join {s s' : PermitPool σ} {kind : κ} {out : List (Nat × α)} :
    U.pool.step s (.join kind) = some (s', out) ↔
      s' = ⟨s.available, s.members ++ [U.start kind]⟩ ∧ out = [] := by
  simp only [pool, Option.some.injEq, Prod.mk.injEq]
  exact and_congr eq_comm eq_comm

theorem pool_act {s s' : PermitPool σ} {i : Nat} {e : ε} {out : List (Nat × α)} :
    U.pool.step s (.act i e) = some (s', out) ↔
      ∃ x x' o, s.members[i]? = some x ∧ U.machine.step x e = some (x', o) ∧
        U.Answers s.available e = true ∧
        s' = ⟨s.available - U.taken e + U.given e, s.members.set i x'⟩ ∧ out = o.map (i, ·) := by
  simp only [pool, Option.bind_eq_some_iff, Prod.exists]
  constructor
  · rintro ⟨x, hx, x', o, hstep, h⟩
    split_ifs at h with hanswers
    obtain ⟨rfl, rfl⟩ := Prod.mk.inj (Option.some.inj h)
    exact ⟨x, x', o, hx, hstep, hanswers, rfl, rfl⟩
  · rintro ⟨x, x', o, hx, hstep, hanswers, rfl, rfl⟩
    exact ⟨x, hx, x', o, hstep, if_pos hanswers⟩

theorem taken_le {available : Nat} {e : ε} (h : U.Answers available e = true) :
    U.taken e ≤ available := by
  unfold Answers at h
  cases hasks : U.asks e with
  | none => simp [taken, hasks]
  | some granted =>
    rw [hasks] at h
    cases granted with
    | false => simp [taken, hasks]
    | true =>
      have hpos : 0 < available := by simpa using h
      simp only [taken, hasks, beq_self_eq_true, Bool.toNat_true]
      omega

section Traces

def joinsOf (es : List (PoolEvent κ ε)) : List κ :=
  es.filterMap fun
    | .join kind => some kind
    | .act _ _ => none

/-- The steps of the components, each under the number of its component. -/
def actsOf (es : List (PoolEvent κ ε)) : List (Nat × ε) :=
  es.filterMap fun
    | .join _ => none
    | .act i e => some (i, e)

def outputsAt (i : Nat) (t : List (Nat × α)) : List α :=
  t.filterMap fun o => if o.1 = i then some o.2 else none

/-- The events that one component has taken. -/
def eventsAt (i : Nat) (es : List (PoolEvent κ ε)) : List ε := outputsAt i (actsOf es)

variable (i : Nat)

@[simp] theorem outputsAt_nil : outputsAt i ([] : List (Nat × α)) = [] := rfl

@[simp] theorem outputsAt_append (t u : List (Nat × α)) :
    outputsAt i (t ++ u) = outputsAt i t ++ outputsAt i u := List.filterMap_append

theorem outputsAt_map_self (out : List α) : outputsAt i (out.map (i, ·)) = out := by
  induction out with
  | nil => rfl
  | cons o out ih =>
    refine (List.filterMap_cons_some ?_).trans (congrArg (o :: ·) ih)
    exact if_pos rfl

theorem outputsAt_map_of_ne {j : Nat} (h : j ≠ i) (out : List α) :
    outputsAt i (out.map (j, ·)) = [] := by
  induction out with
  | nil => rfl
  | cons o out ih =>
    refine (List.filterMap_cons_none ?_).trans ih
    exact if_neg h

theorem mem_outputsAt {t : List (Nat × α)} {o : α} : o ∈ outputsAt i t ↔ (i, o) ∈ t := by
  simp only [outputsAt, List.mem_filterMap, Option.ite_none_right_eq_some, Option.some.injEq,
    Prod.exists]
  constructor
  · rintro ⟨j, o', hmem, rfl, rfl⟩
    exact hmem
  · intro hmem
    exact ⟨i, o, hmem, rfl, rfl⟩

@[simp] theorem joinsOf_append (es fs : List (PoolEvent κ ε)) :
    joinsOf (es ++ fs) = joinsOf es ++ joinsOf fs := List.filterMap_append

@[simp] theorem actsOf_append (es fs : List (PoolEvent κ ε)) :
    actsOf (es ++ fs) = actsOf es ++ actsOf fs := List.filterMap_append

theorem eventsAt_append (es fs : List (PoolEvent κ ε)) :
    eventsAt i (es ++ fs) = eventsAt i es ++ eventsAt i fs := by
  rw [eventsAt, actsOf_append, outputsAt_append]
  rfl

theorem eventsAt_act_self (e : ε) : eventsAt i [PoolEvent.act (κ := κ) i e] = [e] :=
  outputsAt_map_self i [e]

theorem eventsAt_act_of_ne {j : Nat} (h : j ≠ i) (e : ε) :
    eventsAt i [PoolEvent.act (κ := κ) j e] = [] :=
  outputsAt_map_of_ne i h [e]

end Traces

/-- What the component holds changes by what its event takes and gives back. -/
structure Balanced (Inv : σ → Prop) : Prop where
  start : ∀ kind, Inv (U.start kind) ∧ U.held (U.start kind) = 0
  step : ∀ x e x' out, Inv x → U.machine.step x e = some (x', out) →
    Inv x' ∧ U.held x' + U.given e = U.held x + U.taken e

def total : List σ → Nat
  | [] => 0
  | x :: members => U.held x + total members

theorem total_append (members others : List σ) :
    U.total (members ++ others) = U.total members + U.total others := by
  induction members with
  | nil => rw [List.nil_append, total, Nat.zero_add]
  | cons x members ih => rw [List.cons_append, total, total, ih, Nat.add_assoc]

theorem total_set {members : List σ} {i : Nat} {x : σ} (hx : members[i]? = some x) (x' : σ) :
    U.total (members.set i x') + U.held x = U.total members + U.held x' := by
  induction members generalizing i with
  | nil => cases hx
  | cons y members ih =>
    cases i with
    | zero =>
      obtain rfl : y = x := Option.some.inj hx
      simp only [List.set_cons_zero, total]
      omega
    | succ i =>
      have htail := ih hx
      simp only [List.set_cons_succ, total]
      omega

section Rules
variable {U} {Inv : σ → Prop} {limit : Nat} {es : List (PoolEvent κ ε)} {s : PermitPool σ}
  {t : List (Nat × α)}

theorem conserved_run (hbalanced : U.Balanced Inv) (hrun : U.pool.run (startPool limit) es = some (s, t)) :
    (∀ x ∈ s.members, Inv x) ∧ s.available + U.total s.members = limit := by
  refine U.pool.run_preserves (P := fun s => (∀ x ∈ s.members, Inv x) ∧
    s.available + U.total s.members = limit) ?_ hrun ⟨List.forall_mem_nil _, rfl⟩
  intro s e s' out hs hstep
  obtain ⟨hinv, htotal⟩ := hs
  cases e with
  | join kind =>
    obtain ⟨rfl, -⟩ := U.pool_join.mp hstep
    obtain ⟨hstart, hheld⟩ := hbalanced.start kind
    refine ⟨List.forall_mem_append.mpr ⟨hinv, List.forall_mem_singleton.mpr hstart⟩, ?_⟩
    simpa [total_append, total, hheld] using htotal
  | act i e =>
    obtain ⟨x, x', o, hx, hact, hanswers, rfl, -⟩ := U.pool_act.mp hstep
    obtain ⟨hinv', hheld⟩ := hbalanced.step x e x' o (hinv x (List.mem_of_getElem? hx)) hact
    refine ⟨?_, ?_⟩
    · intro y hy
      rcases List.mem_or_eq_of_mem_set hy with hold | rfl
      · exact hinv y hold
      · exact hinv'
    · have hset := U.total_set hx x'
      have hle := U.taken_le hanswers
      simp only
      omega

theorem outputsAt_fresh {β : Type*} {u : List (Nat × β)} {n i : Nat} (h : ∀ o ∈ u, o.1 < n)
    (hi : n ≤ i) : outputsAt i u = [] := by
  refine List.filterMap_eq_nil_iff.mpr fun o ho => if_neg ?_
  have hlt := h o ho
  omega

/-- What a run has of its components: one for each arrival, which has made a run of its own, from the
start of its kind and through its own events, and has written what that run writes. -/
structure Projected (es : List (PoolEvent κ ε)) (s : PermitPool σ) (t : List (Nat × α)) : Prop where
  member : ∀ i x, s.members[i]? = some x → ∃ kind, (joinsOf es)[i]? = some kind ∧
    U.machine.run (U.start kind) (eventsAt i es) = some (x, outputsAt i t)
  length : s.members.length = (joinsOf es).length
  outputs : ∀ o ∈ t, o.1 < s.members.length
  acts : ∀ a ∈ actsOf es, a.1 < s.members.length

theorem Projected.join (h : U.Projected es s t) (kind : κ) :
    U.Projected (es ++ [.join kind]) ⟨s.available, s.members ++ [U.start kind]⟩ t := by
  have hjoins : joinsOf (es ++ [PoolEvent.join (ε := ε) kind]) = joinsOf es ++ [kind] :=
    joinsOf_append ..
  have hacts : actsOf (es ++ [PoolEvent.join (ε := ε) kind]) = actsOf es := by
    rw [actsOf_append]
    exact List.append_nil _
  refine ⟨?_, by simp [hjoins, h.length], ?_, ?_⟩
  · intro i x hx
    rw [hjoins, eventsAt, hacts]
    rcases Nat.lt_or_ge i s.members.length with hold | hnew
    · rw [List.getElem?_append_left hold] at hx
      obtain ⟨kind', hkind, hfs⟩ := h.member i x hx
      exact ⟨kind', by rw [List.getElem?_append_left (h.length ▸ hold), hkind], hfs⟩
    · rw [List.getElem?_append_right hnew] at hx
      obtain ⟨hi, rfl⟩ := List.getElem?_eq_some_iff.mp hx
      obtain rfl : i = s.members.length := by
        simp only [List.length_singleton] at hi
        omega
      refine ⟨kind, ?_, ?_⟩
      · rw [h.length, List.getElem?_append_right (Nat.le_refl _), Nat.sub_self]
        rfl
      · rw [outputsAt_fresh h.acts (Nat.le_refl _), outputsAt_fresh h.outputs (Nat.le_refl _)]
        simp
  · intro o ho
    simpa using Nat.lt_succ_of_lt (h.outputs o ho)
  · intro a ha
    rw [hacts] at ha
    simpa using Nat.lt_succ_of_lt (h.acts a ha)

theorem Projected.act (h : U.Projected es s t) {j : Nat} {e : ε} {y y' : σ} {o : List α}
    (hy : s.members[j]? = some y) (hact : U.machine.step y e = some (y', o)) (available : Nat) :
    U.Projected (es ++ [.act j e]) ⟨available, s.members.set j y'⟩ (t ++ o.map (j, ·)) := by
  have hjoins : joinsOf (es ++ [PoolEvent.act (κ := κ) j e]) = joinsOf es := by
    rw [joinsOf_append]
    exact List.append_nil _
  have hj := (List.getElem?_eq_some_iff.mp hy).1
  refine ⟨?_, by rw [hjoins, List.length_set, h.length], ?_, ?_⟩
  · intro i x hx
    rw [hjoins, eventsAt_append, outputsAt_append]
    by_cases hij : j = i
    · subst hij
      obtain rfl : y' = x := by simpa [hj] using hx
      obtain ⟨kind, hkind, hfs⟩ := h.member j y hy
      refine ⟨kind, hkind, ?_⟩
      rw [eventsAt_act_self, outputsAt_map_self]
      exact TraceMachine.run_snoc hfs hact
    · rw [List.getElem?_set_ne hij] at hx
      obtain ⟨kind, hkind, hfs⟩ := h.member i x hx
      refine ⟨kind, hkind, ?_⟩
      rw [eventsAt_act_of_ne i hij, outputsAt_map_of_ne i hij, List.append_nil, List.append_nil, hfs]
  · intro p hp
    rw [List.length_set]
    rcases List.mem_append.mp hp with hold | hnew
    · exact h.outputs p hold
    · obtain ⟨q, -, rfl⟩ := List.mem_map.mp hnew
      exact hj
  · intro a ha
    rw [List.length_set]
    rw [actsOf_append] at ha
    rcases List.mem_append.mp ha with hold | hnew
    · exact h.acts a hold
    · obtain rfl := List.mem_singleton.mp hnew
      exact hj

theorem member_run (hrun : U.pool.run (startPool limit) es = some (s, t)) :
    U.Projected es s t := by
  refine U.pool.run_history (P := U.Projected)
    ⟨by simp [startPool], rfl, List.forall_mem_nil _, List.forall_mem_nil _⟩ ?_ hrun
  intro es s t e s' out _ hs hstep
  cases e with
  | join kind =>
    obtain ⟨rfl, rfl⟩ := U.pool_join.mp hstep
    rw [List.append_nil]
    exact hs.join kind
  | act j e =>
    obtain ⟨y, y', o, hy, hact, -, rfl, rfl⟩ := U.pool_act.mp hstep
    exact hs.act hy hact _

/-- What holds of every run of one component holds of every component of a pool. -/
theorem member_of_runs {Q : σ → List α → Prop}
    (hruns : ∀ kind fs x u, U.machine.run (U.start kind) fs = some (x, u) → Q x u)
    (hrun : U.pool.run (startPool limit) es = some (s, t)) {i : Nat} {x : σ}
    (hx : s.members[i]? = some x) : Q x (outputsAt i t) := by
  obtain ⟨kind, -, hfs⟩ := (member_run hrun).member i x hx
  exact hruns kind _ x _ hfs

/-- What a member can reach without the semaphore, the pool can reach through the events of that
member alone; the others and the free permits stay as they are, but for what is given back. -/
theorem canReach_member {allowed : ε → Prop} {goal : σ → Prop} {i : Nat} {x : σ}
    (hasks : ∀ e, allowed e → U.asks e = none) (hx : s.members[i]? = some x)
    (h : U.machine.CanReach allowed goal x) :
    U.pool.CanReach (fun e => ∃ d, e = .act i d ∧ allowed d)
      (fun s' => ∃ x', goal x' ∧ s'.members = s.members.set i x') s := by
  obtain ⟨hi, rfl⟩ := List.getElem?_eq_some_iff.mp hx
  refine h.simulate
    (R := fun x q => q.members = s.members.set i x) ?_ ?_ (List.set_getElem_self hi).symm
  · intro x q e x' out hmembers he hact
    have hmember : q.members[i]? = some x := by simp [hmembers, hi]
    have hanswers : U.Answers q.available e = true := by
      rw [Answers, hasks e he]
    refine ⟨.act i e, _, _, ⟨e, rfl, he⟩,
      U.pool_act.mpr ⟨x, x', out, hmember, hact, hanswers, rfl, rfl⟩, ?_⟩
    simp [hmembers]
  · intro x q hmembers hgoal
    exact .of_goal ⟨x, hgoal, hmembers⟩

/-- Whatever the semaphore answers, the component can come to its end once it has the answer. -/
def AsksFirst (allowed : ε → Prop) (isDone : σ → Bool) (x : σ) : Prop :=
  ∀ granted, ∃ e x' out, U.asks e = some granted ∧ U.machine.step x e = some (x', out) ∧
    U.machine.CanReach allowed (fun x' => isDone x' = true) x'

theorem canReach_member_done {allowed : ε → Prop} {isDone : σ → Bool} {i : Nat} {x : σ}
    (hasks : ∀ e, allowed e → U.asks e = none) (hx : s.members[i]? = some x)
    (h : U.machine.CanReach allowed (fun x' => isDone x' = true) x ∨ U.AsksFirst allowed isDone x) :
    U.pool.CanReach (fun e => ∃ i d, e = .act i d ∧ (allowed d ∨ (U.asks d).isSome = true))
      (fun s' => ∃ x', isDone x' = true ∧ s'.members = s.members.set i x') s := by
  rcases h with hends | hfirst
  · refine (canReach_member hasks hx hends).mono ?_ fun _ h => h
    intro e he
    obtain ⟨d, rfl, hd⟩ := he
    exact ⟨i, d, rfl, .inl hd⟩
  · obtain ⟨e, x', out, he, hstep, hends⟩ := hfirst (decide (0 < s.available))
    have hanswers : U.Answers s.available e = true := by
      rw [Answers, he]
      exact beq_self_eq_true _
    have hact := U.pool_act.mpr ⟨x, x', out, hx, hstep, hanswers, rfl, rfl⟩
    refine .step ⟨i, e, rfl, .inr (by rw [he]; rfl)⟩ hact ?_
    have hi := (List.getElem?_eq_some_iff.mp hx).1
    refine (canReach_member hasks (x := x') (i := i) ?_ hends).mono ?_ ?_
    · simp [hi]
    · intro e he
      obtain ⟨d, rfl, hd⟩ := he
      exact ⟨i, d, rfl, .inl hd⟩
    · intro s' hs'
      obtain ⟨y, hy, hmembers⟩ := hs'
      refine ⟨y, hy, ?_⟩
      rw [hmembers, List.set_set]

theorem countP_set_lt {p : σ → Bool} {members : List σ} {i : Nat} {x x' : σ}
    (hx : members[i]? = some x) (hold : p x = true) (hnew : p x' = false) :
    (members.set i x').countP p < members.countP p := by
  induction members generalizing i with
  | nil => cases hx
  | cons y members ih =>
    cases i with
    | zero =>
      obtain rfl : y = x := Option.some.inj hx
      rw [List.set_cons_zero, List.countP_cons_of_neg (by simp [hnew]),
        List.countP_cons_of_pos hold]
      exact Nat.lt_succ_self _
    | succ i =>
      have htail := ih hx
      rw [List.set_cons_succ, List.countP_cons, List.countP_cons]
      omega

theorem total_eq_zero {members : List σ} (h : ∀ x ∈ members, U.held x = 0) : U.total members = 0 := by
  induction members with
  | nil => rfl
  | cons x members ih =>
    obtain ⟨hhead, htail⟩ := List.forall_mem_cons.mp h
    rw [total, hhead, ih htail]

/-- The ending rule: when every component can come to its end, with the answer of the semaphore
where it asks for one, then all of them can, and every permit comes back. -/
theorem canReach_all_done {allowed : ε → Prop} {isDone : σ → Bool} (hbalanced : U.Balanced Inv)
    (hfree : ∀ x, Inv x → isDone x = true → U.held x = 0)
    (hasks : ∀ e, allowed e → U.asks e = none)
    (hends : ∀ kind fs x u, U.machine.run (U.start kind) fs = some (x, u) →
      U.machine.CanReach allowed (fun x' => isDone x' = true) x ∨ U.AsksFirst allowed isDone x)
    (hrun : U.pool.run (startPool limit) es = some (s, t)) :
    U.pool.CanReach (fun e => ∃ i d, e = .act i d ∧ (allowed d ∨ (U.asks d).isSome = true))
      (fun s' => s'.available = limit ∧ ∀ x ∈ s'.members, isDone x = true) s := by
  refine TraceMachine.canReach_of_stages
    (P := fun s => ∃ es t, U.pool.run (startPool limit) es = some (s, t))
    (fun s => s.members.countP fun x => !isDone x) ?_ ⟨es, t, hrun⟩
  intro s hs
  obtain ⟨es, t, hrun⟩ := hs
  by_cases hall : ∀ x ∈ s.members, isDone x = true
  · obtain ⟨hinv, hsum⟩ := conserved_run hbalanced hrun
    have hnone : U.total s.members = 0 :=
      total_eq_zero fun x hx => hfree x (hinv x hx) (hall x hx)
    exact .inl ⟨by omega, hall⟩
  · push Not at hall
    obtain ⟨x, hmem, hlive⟩ := hall
    obtain ⟨i, hx⟩ := List.mem_iff_getElem?.mp hmem
    have hend := member_of_runs (Q := fun x _ => U.machine.CanReach allowed
      (fun x' => isDone x' = true) x ∨ U.AsksFirst allowed isDone x) hends hrun hx
    obtain ⟨fs, m, u, hfs, hmore, x', hdone, hmembers⟩ := canReach_member_done hasks hx hend
    refine .inr ⟨fs, m, u, hfs, hmore, ⟨es ++ fs, t ++ u, ?_⟩, ?_⟩
    · exact U.pool.run_append_iff.mpr ⟨s, t, u, hrun, hmore, rfl⟩
    · rw [hmembers]
      exact countP_set_lt hx (by simpa using hlive) (by simp [hdone])

end Rules

section Owners
variable {ρ : Type*} (Accepts : ρ → κ → Prop)

/-- What a step of a larger system does to a pool of it, with the events it brings to the members:
nothing, a member for a new owner, or a step of that pool. -/
inductive PoolMove (owners : List ρ) (s : PermitPool σ) :
    List (Nat × ε) → List ρ → PermitPool σ → List (Nat × α) → Prop
  | stay : PoolMove owners s [] owners s []
  | join {owner : ρ} {kind : κ} (haccepts : Accepts owner kind) :
    PoolMove owners s [] (owners ++ [owner]) ⟨s.available, s.members ++ [U.start kind]⟩ []
  | act {i : Nat} {e : ε} {s' : PermitPool σ} {out : List (Nat × α)}
      (hstep : U.pool.step s (.act i e) = some (s', out)) :
    PoolMove owners s [(i, e)] owners s' out

/-- The pool has made a run of its own, which its owners have joined in order. -/
def Owned (limit : Nat) (acts : List (Nat × ε)) (owners : List ρ) (s : PermitPool σ)
    (t : List (Nat × α)) : Prop :=
  ∃ es, U.pool.run (startPool limit) es = some (s, t) ∧ List.Forall₂ Accepts owners (joinsOf es) ∧
    actsOf es = acts

variable {U Accepts} {limit : Nat} {acts more : List (Nat × ε)} {owners owners' : List ρ}
  {s s' : PermitPool σ} {t out : List (Nat × α)}

theorem owned_start (limit : Nat) : U.Owned Accepts limit [] [] (startPool limit) [] :=
  ⟨[], rfl, .nil, rfl⟩

theorem Owned.mono {Accepts' : ρ → κ → Prop} (h : U.Owned Accepts limit acts owners s t)
    (himp : ∀ owner kind, Accepts owner kind → Accepts' owner kind) :
    U.Owned Accepts' limit acts owners s t := by
  obtain ⟨es, hrun, howners, hacts⟩ := h
  exact ⟨es, hrun, howners.imp himp, hacts⟩

theorem Owned.move (h : U.Owned Accepts limit acts owners s t)
    (hmove : U.PoolMove Accepts owners s more owners' s' out) :
    U.Owned Accepts limit (acts ++ more) owners' s' (t ++ out) := by
  obtain ⟨es, hrun, howners, rfl⟩ := h
  cases hmove with
  | stay =>
    rw [List.append_nil, List.append_nil]
    exact ⟨es, hrun, howners, rfl⟩
  | @join owner kind haccepts =>
    refine ⟨es ++ [.join kind], TraceMachine.run_snoc hrun (U.pool_join.mpr ⟨rfl, rfl⟩), ?_,
      actsOf_append ..⟩
    rw [joinsOf_append]
    exact List.rel_append howners (.cons haccepts .nil)
  | @act i e _ _ hstep =>
    refine ⟨es ++ [.act i e], TraceMachine.run_snoc hrun hstep, ?_, actsOf_append ..⟩
    rw [joinsOf_append]
    exact (List.append_nil _).symm ▸ howners

theorem PoolMove.owner_stays (hmove : U.PoolMove Accepts owners s more owners' s' out) {i : Nat}
    {owner : ρ} (howner : owners[i]? = some owner) : owners'[i]? = some owner := by
  cases hmove with
  | stay => exact howner
  | join haccepts =>
    rw [List.getElem?_append_left (List.getElem?_eq_some_iff.mp howner).1]
    exact howner
  | act hstep => exact howner

/-- Each member has an owner, who has been accepted, and has made a run of its own through the events
brought to it. -/
theorem Owned.member (h : U.Owned Accepts limit acts owners s t) {i : Nat} {x : σ}
    (hx : s.members[i]? = some x) : ∃ owner kind, owners[i]? = some owner ∧ Accepts owner kind ∧
      U.machine.run (U.start kind) (outputsAt i acts) = some (x, outputsAt i t) := by
  obtain ⟨es, hrun, howners, rfl⟩ := h
  obtain ⟨kind, hkind, hfs⟩ := (member_run hrun).member i x hx
  obtain ⟨hi, rfl⟩ := List.getElem?_eq_some_iff.mp hkind
  have hi' : i < owners.length := howners.length_eq ▸ hi
  exact ⟨owners[i], _, List.getElem?_eq_getElem hi', howners.get hi' hi, hfs⟩

theorem Owned.length_eq (h : U.Owned Accepts limit acts owners s t) :
    owners.length = s.members.length := by
  obtain ⟨es, hrun, howners, -⟩ := h
  rw [howners.length_eq, (member_run hrun).length]

theorem Owned.silent (h : U.Owned Accepts limit acts owners s t) {i : Nat}
    (hx : s.members[i]? = none) : outputsAt i t = [] := by
  obtain ⟨es, hrun, -⟩ := h
  exact outputsAt_fresh (member_run hrun).outputs (List.getElem?_eq_none_iff.mp hx)

theorem Owned.member_of_mem (h : U.Owned Accepts limit acts owners s t) {i : Nat} {o : α}
    (ho : (i, o) ∈ t) : ∃ x, s.members[i]? = some x := by
  obtain ⟨es, hrun, -⟩ := h
  have hi : i < s.members.length := (member_run hrun).outputs _ ho
  exact ⟨_, List.getElem?_eq_getElem hi⟩

end Owners

end PermitUser
