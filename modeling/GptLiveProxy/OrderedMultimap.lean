import GptLiveProxy.Outcome
import Mathlib.Data.List.Basic

/-!
# Ordered multimaps

A finite multimap that keeps the values of one key in their insertion order. Two multimaps are
compared through the values they hold for each key, up to a view of the values, so the order in
which distinct keys were inserted never matters.
-/

structure OrderedMultimap (κ ν : Type*) where
  entries : List (κ × ν)
deriving DecidableEq

namespace OrderedMultimap
variable {κ ν ω : Type*} [DecidableEq κ]

def empty : OrderedMultimap κ ν := ⟨[]⟩

/-- The values of one key, in insertion order. -/
def getAll (m : OrderedMultimap κ ν) (k : κ) : List ν :=
  m.entries.filterMap fun e => if e.1 = k then some e.2 else none

/-- The first value of one key. -/
def get (m : OrderedMultimap κ ν) (k : κ) : Option ν := (m.getAll k).head?

def containsKey (m : OrderedMultimap κ ν) (k : κ) : Bool := !(m.getAll k).isEmpty

def append (m : OrderedMultimap κ ν) (k : κ) (v : ν) : OrderedMultimap κ ν :=
  ⟨m.entries ++ [(k, v)]⟩

def remove (m : OrderedMultimap κ ν) (k : κ) : OrderedMultimap κ ν :=
  ⟨m.entries.filter fun e => e.1 ≠ k⟩

/-- Replaces every value of the key. -/
def insert (m : OrderedMultimap κ ν) (k : κ) (v : ν) : OrderedMultimap κ ν :=
  (m.remove k).append k v

@[simp] theorem getAll_empty (k : κ) : (empty : OrderedMultimap κ ν).getAll k = [] := rfl

theorem getAll_append (m : OrderedMultimap κ ν) (k k' : κ) (v : ν) :
    (m.append k v).getAll k' = m.getAll k' ++ if k = k' then [v] else [] := by
  by_cases h : k = k' <;> simp [append, getAll, h]

theorem getAll_remove (m : OrderedMultimap κ ν) (k k' : κ) :
    (m.remove k).getAll k' = if k = k' then [] else m.getAll k' := by
  simp only [getAll, remove, List.filterMap_filter]
  split_ifs with h
  · rw [List.filterMap_eq_nil_iff]
    rintro e -
    by_cases he : e.1 = k <;> simp [he, ← h]
  · apply List.filterMap_congr
    rintro e -
    by_cases he : e.1 = k <;> simp [he, h]

theorem getAll_insert (m : OrderedMultimap κ ν) (k k' : κ) (v : ν) :
    (m.insert k v).getAll k' = if k = k' then [v] else m.getAll k' := by
  rw [insert, getAll_append, getAll_remove]
  split_ifs <;> simp

@[simp] theorem getAll_insert_self (m : OrderedMultimap κ ν) (k : κ) (v : ν) :
    (m.insert k v).getAll k = [v] := by rw [getAll_insert, if_pos rfl]

theorem getAll_insert_of_ne (m : OrderedMultimap κ ν) {k k' : κ} (h : k ≠ k') (v : ν) :
    (m.insert k v).getAll k' = m.getAll k' := by rw [getAll_insert, if_neg h]

theorem get_eq_head? (m : OrderedMultimap κ ν) (k : κ) : m.get k = (m.getAll k).head? := rfl

/-- The second multimap holds these values under the key and agrees with the first elsewhere. -/
def Writes (m m' : OrderedMultimap κ ν) (k : κ) (vs : List ν) : Prop :=
  ∀ k', m'.getAll k' = if k' = k then vs else m.getAll k'

theorem writes_insert (m : OrderedMultimap κ ν) (k : κ) (v : ν) : Writes m (m.insert k v) k [v] := by
  intro k'
  rw [getAll_insert]
  simp only [eq_comm]

theorem writes_nothing {m : OrderedMultimap κ ν} {k : κ} (hfresh : m.getAll k = []) :
    Writes m m k [] := by
  intro k'
  split_ifs with hk
  · rw [hk, hfresh]
  · rfl

/-- A fold that writes one key at each step, over distinct keys absent at the start, leaves each
of them with the values its step wrote. -/
theorem foldlM_writes {ε : Type*} {f : OrderedMultimap κ ν → κ → Except ε (OrderedMultimap κ ν)}
    (values : κ → List ν) {l : List κ} (hnodup : l.Nodup)
    (hstep : ∀ m k m', m.getAll k = [] → f m k = .ok m' → Writes m m' k (values k))
    {m m' : OrderedMultimap κ ν} (hfresh : ∀ k ∈ l, m.getAll k = [])
    (h : l.foldlM f m = .ok m') (k' : κ) :
    m'.getAll k' = if k' ∈ l then values k' else m.getAll k' := by
  induction l generalizing m with
  | nil =>
    cases h
    simp
  | cons k l ih =>
    rw [List.foldlM_cons] at h
    obtain ⟨mid, hmid, hrest⟩ := Except.bind_eq_ok.mp h
    obtain ⟨hk, hl⟩ := List.nodup_cons.mp hnodup
    have hwrite := hstep m k mid (hfresh k (by simp)) hmid
    have hfresh' : ∀ k₁ ∈ l, mid.getAll k₁ = [] := by
      intro k₁ hk₁
      have hne : k₁ ≠ k := fun heq => hk (heq ▸ hk₁)
      rw [hwrite k₁, if_neg hne]
      exact hfresh k₁ (by simp [hk₁])
    rw [ih hl hfresh' hrest, hwrite k']
    by_cases heq : k' = k
    · subst heq
      simp [hk]
    · simp [heq]

theorem foldl_writes {f : OrderedMultimap κ ν → κ → OrderedMultimap κ ν} (values : κ → List ν)
    {l : List κ} (hnodup : l.Nodup)
    (hstep : ∀ m k, m.getAll k = [] → Writes m (f m k) k (values k)) {m : OrderedMultimap κ ν}
    (hfresh : ∀ k ∈ l, m.getAll k = []) (k' : κ) :
    (l.foldl f m).getAll k' = if k' ∈ l then values k' else m.getAll k' := by
  have hpure : l.foldlM (fun m k => (.ok (f m k) : Except Unit _)) m = .ok (l.foldl f m) :=
    List.foldlM_pure
  refine foldlM_writes values hnodup ?_ hfresh hpure k'
  rintro m k _ hk ⟨⟩
  exact hstep m k hk

/-- The two multimaps hold values with the same views under each of the keys. -/
def AgreeOn (view : ν → ω) (keys : κ → Prop) (a b : OrderedMultimap κ ν) : Prop :=
  ∀ k, keys k → (a.getAll k).map view = (b.getAll k).map view

/-- Equality of multimaps up to a view of the values. -/
def Same (view : ν → ω) (a b : OrderedMultimap κ ν) : Prop :=
  ∀ k, (a.getAll k).map view = (b.getAll k).map view

section Same
variable {view : ν → ω} {a b : OrderedMultimap κ ν}

theorem Same.refl (a : OrderedMultimap κ ν) : Same view a a := fun _ => rfl

theorem Same.insert (h : Same view a b) (k : κ) {v w : ν} (hvw : view v = view w) :
    Same view (a.insert k v) (b.insert k w) := by
  intro k'
  rw [getAll_insert, getAll_insert]
  split_ifs
  · simp [hvw]
  · exact h k'

theorem Same.append (h : Same view a b) (k : κ) {v w : ν} (hvw : view v = view w) :
    Same view (a.append k v) (b.append k w) := by
  intro k'
  rw [getAll_append, getAll_append, List.map_append, List.map_append, h k']
  split_ifs <;> simp [hvw]

theorem AgreeOn.mono {keys keys' : κ → Prop} (h : AgreeOn view keys a b)
    (hkeys : ∀ k, keys' k → keys k) : AgreeOn view keys' a b := fun k hk => h k (hkeys k hk)

theorem AgreeOn.get {keys : κ → Prop} (h : AgreeOn view keys a b) {k : κ} (hk : keys k) :
    (a.get k).map view = (b.get k).map view := by
  simp only [get_eq_head?, ← List.head?_map, h k hk]

end Same

end OrderedMultimap
