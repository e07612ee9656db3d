import GptLiveProxy.OrderedMultimap
import Mathlib.Data.List.Dedup

/-!
# Copies of ordered multimaps

The keys of a multimap are visited once each. A filtered copy keeps every value of the keys it lets
through, an extension lets the values of one multimap replace those of another, and each is known by
the values it holds under every key.
-/

namespace OrderedMultimap
variable {κ ν ω : Type*} [DecidableEq κ]

/-- The keys, each of them once; no result here depends on their order. -/
def keys (m : OrderedMultimap κ ν) : List κ := (m.entries.map Prod.fst).dedup

theorem mem_keys {m : OrderedMultimap κ ν} {k : κ} : k ∈ m.keys ↔ m.getAll k ≠ [] := by
  simp only [keys, List.mem_dedup, List.mem_map, getAll, ne_eq, List.filterMap_eq_nil_iff,
    not_forall]
  constructor
  · rintro ⟨entry, hentry, rfl⟩
    exact ⟨entry, hentry, by simp⟩
  · rintro ⟨entry, hentry, hkey⟩
    refine ⟨entry, hentry, ?_⟩
    by_contra hne
    exact hkey (if_neg hne)

theorem nodup_keys (m : OrderedMultimap κ ν) : m.keys.Nodup := List.nodup_dedup _

def appendAll (m : OrderedMultimap κ ν) (k : κ) (vs : List ν) : OrderedMultimap κ ν :=
  vs.foldl (fun m v => m.append k v) m

theorem getAll_appendAll (m : OrderedMultimap κ ν) (k k' : κ) (vs : List ν) :
    (m.appendAll k vs).getAll k' = m.getAll k' ++ if k = k' then vs else [] := by
  induction vs generalizing m with
  | nil => simp [appendAll]
  | cons v vs ih =>
    have hrest := ih (m.append k v)
    rw [appendAll] at hrest
    rw [appendAll, List.foldl_cons, hrest, getAll_append]
    by_cases h : k = k' <;> simp [h]

theorem writes_appendAll {m : OrderedMultimap κ ν} {k : κ} (hfresh : m.getAll k = []) (vs : List ν) :
    Writes m (m.appendAll k vs) k vs := by
  intro k'
  rw [getAll_appendAll]
  by_cases h : k = k'
  · subst h
    simp [hfresh]
  · simp [h, Ne.symm h]

/-- The copy of the keys that pass. -/
def copyKeys (p : κ → Bool) (m : OrderedMultimap κ ν) : OrderedMultimap κ ν :=
  (m.keys.filter p).foldl (fun out k => out.appendAll k (m.getAll k)) empty

theorem getAll_copyKeys (p : κ → Bool) (m : OrderedMultimap κ ν) (k : κ) :
    (m.copyKeys p).getAll k = if p k = true then m.getAll k else [] := by
  have hwrites := foldl_writes (f := fun out k => out.appendAll k (m.getAll k)) m.getAll
    (m.nodup_keys.filter p) (fun out k hk => writes_appendAll hk (m.getAll k))
    (m := empty) (fun k _ => getAll_empty k) k
  simp only [getAll_empty, List.mem_filter, mem_keys] at hwrites
  rw [copyKeys, hwrites]
  by_cases hp : p k = true
  · by_cases hnone : m.getAll k = []
    · simp [hp, hnone]
    · simp [hp, hnone]
  · simp [hp]

/-- The values of the second multimap replace those of the first. -/
def extend (m other : OrderedMultimap κ ν) : OrderedMultimap κ ν :=
  other.keys.foldl (fun out k => (out.remove k).appendAll k (other.getAll k)) m

theorem writes_replace (m : OrderedMultimap κ ν) (k : κ) (vs : List ν) :
    Writes m ((m.remove k).appendAll k vs) k vs := by
  intro k'
  rw [getAll_appendAll, getAll_remove]
  by_cases h : k = k'
  · simp [h]
  · simp [h, Ne.symm h]

theorem getAll_foldl_replace (other : OrderedMultimap κ ν) (l : List κ) (m : OrderedMultimap κ ν)
    (k : κ) :
    (l.foldl (fun out k => (out.remove k).appendAll k (other.getAll k)) m).getAll k =
      if k ∈ l then other.getAll k else m.getAll k := by
  induction l generalizing m with
  | nil => simp
  | cons key l ih =>
    rw [List.foldl_cons, ih, writes_replace m key (other.getAll key) k]
    by_cases hmem : k ∈ l
    · simp [hmem]
    · by_cases heq : k = key
      · subst heq
        simp
      · simp [hmem, heq]

theorem getAll_extend (m other : OrderedMultimap κ ν) (k : κ) :
    (m.extend other).getAll k =
      if other.getAll k ≠ [] then other.getAll k else m.getAll k := by
  rw [extend, getAll_foldl_replace]
  simp only [mem_keys]

def appendEntries (m other : OrderedMultimap κ ν) : OrderedMultimap κ ν :=
  other.entries.foldl (fun out entry => out.append entry.1 entry.2) m

/-- Inserts every entry of the second multimap in turn, so the last value of a key remains. -/
def insertEntries (m other : OrderedMultimap κ ν) : OrderedMultimap κ ν :=
  other.entries.foldl (fun out entry => out.insert entry.1 entry.2) m

theorem getAll_appendEntries (m other : OrderedMultimap κ ν) (k : κ) :
    (m.appendEntries other).getAll k = m.getAll k ++ other.getAll k := by
  obtain ⟨entries⟩ := other
  induction entries generalizing m with
  | nil => simp [appendEntries, getAll]
  | cons entry entries ih =>
    have hrest := ih (m.append entry.1 entry.2)
    rw [appendEntries] at hrest
    rw [appendEntries, List.foldl_cons, hrest, getAll_append, List.append_assoc]
    by_cases h : entry.1 = k <;> simp [getAll, h]

theorem getAll_insertEntries (m other : OrderedMultimap κ ν) (k : κ) :
    (m.insertEntries other).getAll k =
      if other.getAll k = [] then m.getAll k else (other.getAll k).getLast?.toList := by
  obtain ⟨entries⟩ := other
  induction entries generalizing m with
  | nil => simp [insertEntries, getAll]
  | cons entry entries ih =>
    have hrest := ih (m.insert entry.1 entry.2)
    rw [insertEntries] at hrest
    rw [insertEntries, List.foldl_cons, hrest, getAll_insert]
    by_cases h : entry.1 = k
    · by_cases hnone : getAll ⟨entries⟩ k = []
      · have hcons : getAll ⟨entry :: entries⟩ k = [entry.2] := by
          simpa [getAll, h] using hnone
        simp [hnone, hcons, h]
      · have hcons : getAll ⟨entry :: entries⟩ k = entry.2 :: getAll ⟨entries⟩ k := by
          simp [getAll, h]
        rw [if_neg hnone, hcons, if_neg (List.cons_ne_nil _ _), List.getLast?_cons,
          List.getLast?_eq_some_getLast hnone]
        rfl
    · have hcons : getAll ⟨entry :: entries⟩ k = getAll ⟨entries⟩ k := by
        simp [getAll, h]
      rw [hcons, if_neg h]

section Views
variable {view : ν → ω} {a b : OrderedMultimap κ ν}

/-- A copy depends on the keys that pass only. -/
theorem AgreeOn.copyKeys {p : κ → Bool} (h : AgreeOn view (fun k => p k = true) a b) :
    Same view (a.copyKeys p) (b.copyKeys p) := by
  intro k
  rw [getAll_copyKeys, getAll_copyKeys]
  split_ifs with hp
  · exact h k hp
  · rfl

theorem Same.extend {c d : OrderedMultimap κ ν} (h : Same view a b) (hcd : Same view c d) :
    Same view (a.extend c) (b.extend d) := by
  intro k
  have hempty : c.getAll k = [] ↔ d.getAll k = [] := by
    rw [← List.map_eq_nil_iff (f := view), hcd k, List.map_eq_nil_iff]
  rw [getAll_extend, getAll_extend]
  by_cases hnone : c.getAll k = []
  · simp only [hnone, hempty.mp hnone, ne_eq, not_true, if_false]
    exact h k
  · simp only [hnone, mt hempty.mpr hnone, ne_eq, not_false_eq_true, if_true]
    exact hcd k

end Views

end OrderedMultimap
