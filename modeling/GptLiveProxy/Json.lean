import GptLiveProxy.CharText
import Mathlib.Data.Finset.Insert
import Mathlib.Data.Finset.Erase
import Mathlib.Data.Finset.Lattice.Basic

/-!
# JSON values

The members of an object are a finite family, one value for each key of a finite set: a key occurs
once, and the order of the members is not part of the value. A path leads from a value to a value
inside it, through object keys and array indices.
-/

namespace Json
open CharText

/-- A finite map: its keys, and a value for each of them. -/
structure Members (κ α : Type) where
  keys : Finset κ
  value : {k // k ∈ keys} → α

namespace Members
variable {κ α : Type} [DecidableEq κ]

def empty : Members κ α := ⟨∅, fun k => absurd k.2 (Finset.notMem_empty _)⟩

def containsKey (members : Members κ α) (key : κ) : Bool := decide (key ∈ members.keys)

def get (members : Members κ α) (key : κ) : Option α :=
  if h : key ∈ members.keys then some (members.value ⟨key, h⟩) else none

def insert (members : Members κ α) (key : κ) (value : α) : Members κ α where
  keys := Insert.insert key members.keys
  value k :=
    if h : k.1 = key then value else members.value ⟨k.1, Finset.mem_of_mem_insert_of_ne k.2 h⟩

def remove (members : Members κ α) (key : κ) : Members κ α where
  keys := members.keys.erase key
  value k := members.value ⟨k.1, Finset.mem_of_mem_erase k.2⟩

/-- The member is left out where there is no value. -/
def insertSome (members : Members κ α) (key : κ) (value : Option α) : Members κ α :=
  value.elim members (members.insert key)

/-- The members of `others` are inserted one after another. -/
def extend (members others : Members κ α) : Members κ α where
  keys := members.keys ∪ others.keys
  value k :=
    if h : k.1 ∈ others.keys then others.value ⟨k.1, h⟩
    else members.value ⟨k.1, (Finset.mem_union.1 k.2).resolve_right h⟩

variable (members : Members κ α) (key : κ)

@[simp] theorem get_empty : (empty : Members κ α).get key = none := rfl

theorem isSome_get : (members.get key).isSome = members.containsKey key := by
  unfold get containsKey
  by_cases h : key ∈ members.keys
  · simp [h]
  · simp [h]

@[simp] theorem get_insert_self (value : α) : (members.insert key value).get key = some value := by
  simp [get, insert]

theorem get_insert_of_ne {other : κ} (h : other ≠ key) (value : α) :
    (members.insert key value).get other = members.get other := by
  by_cases hmem : other ∈ members.keys
  · simp [get, insert, h, hmem]
  · simp [get, insert, h, hmem]

@[simp] theorem get_remove_self : (members.remove key).get key = none := by simp [get, remove]

theorem get_remove_of_ne {other : κ} (h : other ≠ key) :
    (members.remove key).get other = members.get other := by
  by_cases hmem : other ∈ members.keys
  · simp [get, remove, h, hmem]
  · simp [get, remove, h, hmem]

@[simp] theorem get_insertSome_self (value : Option α) :
    (members.insertSome key value).get key = value.or (members.get key) := by
  cases value with
  | none => rfl
  | some v => exact get_insert_self members key v

theorem get_insertSome_of_ne {other : κ} (h : other ≠ key) (value : Option α) :
    (members.insertSome key value).get other = members.get other := by
  cases value with
  | none => rfl
  | some v => exact get_insert_of_ne members key h v

theorem get_extend (others : Members κ α) :
    (members.extend others).get key = (others.get key).or (members.get key) := by
  by_cases hothers : key ∈ others.keys
  · simp [get, extend, hothers]
  · simp [get, extend, hothers]

/-- A finite map is what it has for each key. -/
theorem eq_of_get {members others : Members κ α}
    (h : ∀ key, members.get key = others.get key) : members = others := by
  have hkeys : members.keys = others.keys := by
    ext key
    have hsome : members.containsKey key = others.containsKey key := by
      rw [← isSome_get, ← isSome_get, h key]
    simpa [containsKey] using hsome
  obtain ⟨keys, value⟩ := members
  obtain ⟨_, other⟩ := others
  obtain rfl : keys = _ := hkeys
  congr 1
  funext k
  have hk := h k.1
  simp only [get, dif_pos k.2] at hk
  exact Option.some.inj hk

theorem containsKey_remove_of_ne {other : κ} (h : other ≠ key) :
    (members.remove key).containsKey other = members.containsKey other := by
  rw [← isSome_get, ← isSome_get, get_remove_of_ne members key h]

end Members

/-- Integers keep their sign class; the rest is the bit pattern of a finite double. -/
inductive Number
  | posInt (n : UInt64)
  | negInt (n : Int64)
  | float (bits : UInt64)
deriving DecidableEq

inductive Value
  | null
  | bool (b : Bool)
  | number (n : Number)
  | string (s : Text)
  | array (items : List Value)
  | object (members : Members Text Value)

inductive Step
  | key (name : Text)
  | index (i : Nat)
deriving DecidableEq

namespace Value

def asObject : Value → Option (Members Text Value)
  | object members => some members
  | _ => none

def asStr : Value → Option Text
  | string s => some s
  | _ => none

/-- The value one step inside. -/
def child : Value → Step → Option Value
  | object members, .key name => members.get name
  | array items, .index i => items[i]?
  | _, _ => none

def lookup : Value → List Step → Option Value
  | value, [] => some value
  | value, step :: path => (value.child step).bind fun inner => inner.lookup path

theorem asObject_eq_some {value : Value} {members : Members Text Value} :
    value.asObject = some members ↔ value = .object members := by
  cases value <;> simp [asObject]

end Value

end Json
