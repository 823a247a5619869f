import NetworkIsolation.Json.Value

/-!
# Stores in memory

A store that keeps its buckets in memory and remembers which keys were saved.
-/

namespace NetworkIsolation.Store

open NetworkIsolation.Json

/-- Buckets by key, and the keys that were saved, in order. -/
structure Memory where
  buckets : Entries Bucket
  saves : List String
  deriving Repr, Inhabited

namespace Memory

/-- A store without answers. -/
def empty : Memory := ⟨[], []⟩

/-- The answers of a key; those of a key that was never saved are empty. -/
def load (store : Memory) (key : String) : Bucket :=
  (store.buckets.get? key).getD []

/-- Put answers in place without counting it as a save. -/
def preload (store : Memory) (key : String) (answers : Bucket) : Memory :=
  { store with buckets := store.buckets.insert key answers }

/-- Save the answers of a key. -/
def save (store : Memory) (key : String) (answers : Bucket) : Memory :=
  ⟨store.buckets.insert key answers, store.saves ++ [key]⟩

theorem load_save_self (store : Memory) (key : String) (answers : Bucket) :
    (store.save key answers).load key = answers := by
  rw [load, save, Entries.get?_insert_self, Option.getD_some]

theorem load_save_of_ne (store : Memory) {key other : String} (answers : Bucket)
    (different : key ≠ other) : (store.save key answers).load other = store.load other := by
  rw [load, save, Entries.get?_insert_of_ne _ _ different, load]

end Memory

end NetworkIsolation.Store
