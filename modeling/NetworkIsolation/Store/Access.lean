import NetworkIsolation.Backend.State
import NetworkIsolation.Store.File
import NetworkIsolation.Store.Memory

/-!
# Access to a store

What the rest of the library needs from a store, on any state.  Stores on files
and stores in memory give it.
-/

namespace NetworkIsolation.Store

open NetworkIsolation.Backend NetworkIsolation.FileSystem NetworkIsolation.Json

/-- Loading and saving buckets on a state. -/
structure AnswerStore (σ : Type) where
  load : String → StateM σ (Except StoreError Bucket)
  save : String → Bucket → StateM σ (Except StoreError Unit)

variable {σ : Type}

/-- A store in memory that is part of a state. -/
def Memory.store (part : Part Memory σ) : AnswerStore σ where
  load key := part.lift fun memory => (.ok (memory.load key), memory)
  save key answers := part.lift fun memory => (.ok (), memory.save key answers)

/-- A store on files that are part of a state; `now` is the moment of every save. -/
def Layout.store [Journal σ] (layout : Layout) (part : Part Files σ) (now : Moment) :
    AnswerStore σ where
  load key := part.lift fun files => (layout.load files key, files)
  save key answers := do
    let outcome ← part.lift (layout.save now key answers).run
    match outcome with
    | .ok () => note .answers .debug ("saved answers for '" ++ key ++ "'")
    | .error _ => pure ()
    return outcome

end NetworkIsolation.Store
