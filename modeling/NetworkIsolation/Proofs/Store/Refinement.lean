import NetworkIsolation.Proofs.Backend.Running
import NetworkIsolation.Proofs.Json.Parsed
import NetworkIsolation.Proofs.Store.ListedKeys
import NetworkIsolation.Proofs.Store.Saving
import NetworkIsolation.Store.Integrity
import NetworkIsolation.Store.Memory

/-!
# Stores on files behave like stores in memory

The same operations on a fresh store on files and on an empty store in memory
give the same outcomes, and none of them fails.  The relation between the two
states has two cases: nothing was saved yet, or the directory of the store holds
one document for each bucket in memory, in the same order.  Every operation leads
from related states to related states.

At the end the keys of the documents are those that were saved, and all documents
pass the check of their integrity.
-/

namespace NetworkIsolation.Store

open NetworkIsolation.FileSystem NetworkIsolation.Json

/-! ## Operations -/

/-- An operation on a store; a save has the moment at which it is done. -/
inductive Operation where
  | save (now : Moment) (key : String) (answers : Bucket)
  | load (key : String)
  deriving Inhabited

/-- Answers without doubles, with the whole numbers and the nesting that are kept. -/
structure IsPlain (answers : Bucket) : Prop where
  distinct : (Value.object answers).HasDistinctNames
  shallow : (Value.object answers).depth ≤ 126
  whole : ∀ number ∈ (Value.object answers).numbers,
    ∃ value : Int, number = .integer value ∧ -(maxNegated : Int) ≤ value ∧ value ≤ maxInteger

theorem IsPlain.isStorable {answers : Bucket} (plain : IsPlain answers) : IsStorable answers := by
  refine ⟨plain.distinct, (Value.rereadEntries_eq_self 125 answers).mpr ⟨?_, ?_⟩⟩
  · have shallow := plain.shallow
    rw [Value.depth] at shallow
    omega
  · intro number member
    rcases plain.whole number member with ⟨value, rfl, low, high⟩
    exact Number.IsKept.reread ⟨low, high⟩

namespace Operation

/-- Whether the key is accepted and the answers are plain. -/
def IsAccepted : Operation → Prop
  | save _ key answers => validateKey key = .ok () ∧ IsPlain answers
  | load key => validateKey key = .ok ()

/-- The key under which an operation saves. -/
def savedKey? : Operation → Option String
  | save _ key _ => some key
  | load _ => none

/-- An operation on a store on files; a load gives the bucket. -/
def onFiles (layout : Layout) : Operation → StateM Files (Except StoreError (Option Bucket))
  | save now key answers => do
    let outcome ← (layout.save now key answers).run
    return outcome.map fun _ => none
  | load key => do
    let files ← get
    return (layout.load files key).map some

/-- An operation on a store in memory. -/
def inMemory : Operation → StateM Memory (Except StoreError (Option Bucket))
  | save _ key answers => do
    modify fun memory => memory.save key answers
    return .ok none
  | load key => do
    let memory ← get
    return .ok (some (memory.load key))

end Operation

/-! ## Related states -/

namespace Layout

variable {layout : Layout} {start files made : Files} {memory : Memory} {key : String}
  {location : Location} {entries documents : List (String × Node)} {buckets : Entries Bucket}

/-- Nothing was saved yet, or the documents are those of the buckets in memory. -/
def Mirrors (layout : Layout) (start files : Files) (memory : Memory) : Prop :=
  (files = start ∧ memory.buckets = []) ∨
    ∃ location entries documents, layout.Holds files location entries documents ∧
      List.Forall₂ IsDocument memory.buckets documents

theorem IsFresh.root_ne_empty (fresh : layout.IsFresh files made) : layout.root ≠ "" := by
  rcases Files.leadsTo_of_find fresh.empty with ⟨location, leads_to, -⟩
  exact leads_to.usable.nonempty

/-- Nothing is found at the root of a store that is not there. -/
theorem IsFresh.root_absent (fresh : layout.IsFresh files made) :
    (files.find layout.root).toOption = none :=
  Files.exists?_eq_false_iff.mp fresh.absent

/-- A key has the same answers in related states. -/
theorem Mirrors.document? (fresh : layout.IsFresh start made)
    (mirrors : layout.Mirrors start files memory) (valid : validateKey key = .ok ()) :
    ∃ document, layout.document? files key = .ok document ∧
      document.map AnswerDocument.answers = memory.buckets.get? key := by
  rcases mirrors with ⟨rfl, nothing⟩ | ⟨location, entries, documents, holds, related⟩
  · refine ⟨none, document?_of_absent_root fresh.root_ne_empty fresh.root_absent valid, ?_⟩
    rw [nothing]
    rfl
  · exact holds.document? related valid

theorem Mirrors.load (fresh : layout.IsFresh start made)
    (mirrors : layout.Mirrors start files memory) (valid : validateKey key = .ok ()) :
    layout.load files key = .ok (memory.load key) := by
  rcases mirrors.document? fresh valid with ⟨document, found, answers⟩
  rw [Layout.load, found, Memory.load, ← answers]
  rfl

/-- A save succeeds and leads to related states. -/
theorem Mirrors.save (fresh : layout.IsFresh start made)
    (mirrors : layout.Mirrors start files memory) (valid : validateKey key = .ok ())
    {answers : Bucket} (storable : IsStorable answers) (now : Moment) :
    ∃ saved, (layout.save now key answers).run files = (.ok (), saved) ∧
      layout.Mirrors start saved (memory.save key answers) := by
  have document : IsDocument (key, answers) (documentName key,
      .file (AnswerDocument.ofAnswers key now.time answers).toValue.pretty.toUTF8) :=
    ⟨valid, storable, rfl, now.time, rfl⟩
  rcases mirrors with ⟨rfl, nothing⟩ | ⟨location, entries, documents, holds, related⟩
  · rcases fresh.run_save valid now answers with ⟨saved, location, entries, saves, holds⟩
    refine ⟨saved, saves, .inr ⟨location, entries, _, holds, ?_⟩⟩
    change List.Forall₂ IsDocument (Entries.insert memory.buckets key answers) _
    rw [nothing]
    exact .cons document .nil
  · rcases holds.run_save valid (no_directory_documents related key) now answers with
      ⟨saved, entries, saves, holds⟩
    exact ⟨saved, saves, .inr ⟨location, entries, _, holds, insert_documents related document⟩⟩

/-- An operation gives the same outcome in related states, and leads to related states. -/
theorem Mirrors.step (fresh : layout.IsFresh start made)
    (mirrors : layout.Mirrors start files memory) {operation : Operation}
    (accepted : operation.IsAccepted) :
    (operation.onFiles layout files).1 = (operation.inMemory memory).1 ∧
      (∃ outcome, (operation.inMemory memory).1 = .ok outcome) ∧
      layout.Mirrors start (operation.onFiles layout files).2 (operation.inMemory memory).2 := by
  cases operation with
  | save now key answers =>
      rcases mirrors.save fresh accepted.1 accepted.2.isStorable now with ⟨saved, saves, mirrors⟩
      have done : Operation.onFiles layout (.save now key answers) files = (.ok none, saved) := by
        change (((layout.save now key answers).run files).1.map fun _ => none,
          ((layout.save now key answers).run files).2) = _
        rw [saves]
        rfl
      rw [done]
      exact ⟨rfl, ⟨none, rfl⟩, mirrors⟩
  | load key =>
      have loads := mirrors.load fresh accepted
      have done : Operation.onFiles layout (.load key) files =
          (.ok (some (memory.load key)), files) := by
        change ((layout.load files key).map some, files) = _
        rw [loads]
        rfl
      rw [done]
      exact ⟨rfl, ⟨some (memory.load key), rfl⟩, mirrors⟩

/-- The same holds of any number of operations. -/
theorem Mirrors.run (fresh : layout.IsFresh start made)
    (mirrors : layout.Mirrors start files memory) {operations : List Operation}
    (accepted : ∀ operation ∈ operations, operation.IsAccepted) :
    (operations.mapM (Operation.onFiles layout) files).1 =
        (operations.mapM Operation.inMemory memory).1 ∧
      (∀ outcome ∈ (operations.mapM Operation.inMemory memory).1,
        ∃ result, outcome = .ok result) ∧
      layout.Mirrors start (operations.mapM (Operation.onFiles layout) files).2
        (operations.mapM Operation.inMemory memory).2 := by
  induction operations generalizing files memory with
  | nil =>
      refine ⟨rfl, ?_, mirrors⟩
      intro outcome impossible
      cases impossible
  | cons operation operations induction_hypothesis =>
      rcases mirrors.step fresh (accepted operation List.mem_cons_self) with
        ⟨same, succeeds, still_mirrors⟩
      rcases induction_hypothesis still_mirrors
        (fun other member => accepted other (List.mem_cons_of_mem operation member)) with
        ⟨same_rest, rest_succeed, mirrors_rest⟩
      simp only [List.mapM_cons, Backend.run_bind, Backend.run_pure]
      refine ⟨?_, ?_, mirrors_rest⟩
      · rw [same, same_rest]
      · intro outcome member
        rcases List.mem_cons.mp member with first | later
        · rw [first]
          exact succeeds
        · exact rest_succeed outcome later

/-! ## Keys and integrity -/

/-- The keys of the documents are the names of the buckets. -/
theorem mem_keysIn_documents (related : List.Forall₂ IsDocument buckets documents) (key : String) :
    key ∈ keysIn (Entries.firsts documents) ↔ key ∈ buckets.map Prod.fst := by
  have named : (buckets.get? key).isSome = true ↔ key ∈ buckets.map Prod.fst := Entries.has_iff
  simp only [mem_keysIn, Entries.mem_firsts, ← named]
  rcases get?_documents related key with ⟨absent, no_file⟩ | ⟨answers, file, saved, there, document⟩
  · simp [absent, no_file]
  · rcases document.content with ⟨now, content⟩
    have is_file : file = .file (AnswerDocument.ofAnswers key now answers).toValue.pretty.toUTF8 :=
      content
    simp [saved, there, is_file, document.valid]

/-- The keys are those of the buckets in memory, in order and each once. -/
theorem Mirrors.keys (fresh : layout.IsFresh start made)
    (mirrors : layout.Mirrors start files memory) :
    ∃ keys, layout.keys files = .ok keys ∧ keys.Pairwise (· < ·) ∧
      ∀ key, key ∈ keys ↔ key ∈ memory.buckets.map Prod.fst := by
  rcases mirrors with ⟨rfl, nothing⟩ | ⟨location, entries, documents, holds, related⟩
  · have absent : files.exists? layout.answersDirectory = false :=
      Files.exists?_eq_false_iff.mpr (Files.find_entry_of_absent fresh.root_ne_empty
        isEntryName_answers.no_slash fresh.root_absent)
    have lists : layout.Lists files [] := .inr ⟨absent, rfl⟩
    refine ⟨_, lists.keys, keysIn_increasing lists.distinct, ?_⟩
    rw [nothing]
    exact fun key => mem_keysIn_documents .nil key
  · rcases holds.directory with ⟨leads_to, has_entries⟩
    have lists : layout.Lists files (Entries.firsts documents) :=
      .inl (listDirectory_eq_ok.mpr ⟨documents, leads_to.find has_entries, rfl⟩)
    exact ⟨_, lists.keys, keysIn_increasing lists.distinct, mem_keysIn_documents related⟩

/-- All documents pass, if each key that is listed has a document that is read. -/
theorem verifyIntegrity_of_keys {keys : List String} (listed : layout.keys files = .ok keys)
    (read : ∀ key ∈ keys, ∃ document, layout.document? files key = .ok document) :
    verifyIntegrity layout files = .ok ⟨keys.length, keys.length, []⟩ := by
  have faultless : ∀ key ∈ keys, integrityFault? layout files key = none := by
    intro key member
    rcases read key member with ⟨document, found⟩
    rw [integrityFault?, found]
  have all_pass : keys.filter (fun key => (integrityFault? layout files key).isNone) = keys := by
    refine List.filter_eq_self.mpr ?_
    intro key member
    rw [faultless key member]
    rfl
  have none_fails : keys.filterMap (fun key =>
      (integrityFault? layout files key).map fun fault => (key, fault)) = [] := by
    refine List.filterMap_eq_nil_iff.mpr ?_
    intro key member
    rw [faultless key member]
    rfl
  rw [verifyIntegrity, listed]
  change Except.ok (_ : IntegrityReport) = _
  rw [all_pass, none_fails]

end Layout

/-- The names under which a store in memory has buckets are those that were saved. -/
theorem mem_names_run (operations : List Operation) (memory : Memory) (key : String) :
    key ∈ (operations.mapM Operation.inMemory memory).2.buckets.map Prod.fst ↔
      key ∈ memory.buckets.map Prod.fst ∨ key ∈ operations.filterMap Operation.savedKey? := by
  induction operations generalizing memory with
  | nil =>
      change key ∈ memory.buckets.map Prod.fst ↔ _
      simp
  | cons operation operations induction_hypothesis =>
      simp only [List.mapM_cons, Backend.run_bind, Backend.run_pure]
      rw [induction_hypothesis]
      cases operation with
      | load other => exact Iff.rfl
      | save now other answers =>
          have names : (Memory.save memory other answers).buckets.map Prod.fst =
              if other ∈ memory.buckets.map Prod.fst then memory.buckets.map Prod.fst
              else memory.buckets.map Prod.fst ++ [other] :=
            Entries.names_insert memory.buckets other answers
          change key ∈ (Memory.save memory other answers).buckets.map Prod.fst ∨ _ ↔ _
          have step : (Operation.save now other answers).savedKey? = some other := rfl
          rw [names, List.filterMap_cons_some step, List.mem_cons]
          split
          · rename_i present
            constructor
            · rintro (before | later)
              · exact .inl before
              · exact .inr (.inr later)
            · rintro (before | rfl | later)
              · exact .inl before
              · exact .inl present
              · exact .inr later
          · rw [List.mem_append, List.mem_singleton, or_assoc]

/-- A store on files that behaves like a store in memory under some operations. -/
structure RefinesMemory (layout : Layout) (start : Files) (operations : List Operation) :
    Prop where
  /-- All saves succeed alike, and all loads give the same buckets. -/
  same_outcomes : (operations.mapM (Operation.onFiles layout) start).1 =
    (operations.mapM Operation.inMemory Memory.empty).1
  none_fails : ∀ outcome ∈ (operations.mapM (Operation.onFiles layout) start).1,
    ∃ result, outcome = .ok result
  unsaved_is_empty : ∀ key, validateKey key = .ok () →
    key ∉ operations.filterMap Operation.savedKey? →
      layout.load (operations.mapM (Operation.onFiles layout) start).2 key = .ok []
  /-- The keys are the saved ones, in order and each once, and all documents pass. -/
  keys_pass : ∃ keys,
    layout.keys (operations.mapM (Operation.onFiles layout) start).2 = .ok keys ∧
      keys.Pairwise (· < ·) ∧
      (∀ key, key ∈ keys ↔ key ∈ operations.filterMap Operation.savedKey?) ∧
      verifyIntegrity layout (operations.mapM (Operation.onFiles layout) start).2 =
        .ok ⟨keys.length, keys.length, []⟩

/--
A store on files that starts without a directory is not told apart from a store in
memory by any operations with accepted keys and plain answers.
-/
theorem run_refines_memory {layout : Layout} {start made : Files}
    (fresh : layout.IsFresh start made) {operations : List Operation}
    (accepted : ∀ operation ∈ operations, operation.IsAccepted) :
    RefinesMemory layout start operations := by
  have empty_mirrors : layout.Mirrors start start Memory.empty := .inl ⟨rfl, rfl⟩
  rcases empty_mirrors.run fresh accepted with ⟨same, succeeds, mirrors⟩
  rcases mirrors.keys fresh with ⟨keys, listed, increasing, names⟩
  have saved : ∀ key, key ∈ (operations.mapM Operation.inMemory Memory.empty).2.buckets.map
      Prod.fst ↔ key ∈ operations.filterMap Operation.savedKey? := by
    intro key
    rw [mem_names_run]
    exact ⟨fun either => either.resolve_left (by simp [Memory.empty]), .inr⟩
  refine ⟨same, ?_, ?_, keys, listed, increasing, ?_, ?_⟩
  · rw [same]
    exact succeeds
  · intro key valid unsaved
    rw [mirrors.load fresh valid, Memory.load,
      Entries.get?_eq_none fun member => unsaved ((saved key).mp member)]
    rfl
  · exact fun key => (names key).trans (saved key)
  · refine Layout.verifyIntegrity_of_keys listed ?_
    intro key member
    rcases List.mem_filterMap.mp ((saved key).mp ((names key).mp member)) with
      ⟨operation, among, is_key⟩
    cases operation with
    | load other => cases is_key
    | save now other answers =>
        cases is_key
        have valid := (accepted _ among).1
        rcases mirrors.document? fresh valid with ⟨document, found, -⟩
        exact ⟨document, found⟩

/-- Two buckets are saved in a new directory, one of them twice, and loaded. -/
theorem run_refines_memory_in_new_directory :
    let operations : List Operation := [.load "spaces",
      .save (.ofTime "first") "spaces" [("storage", .array [.number (.integer 7), .null])],
      .save (.ofTime "second") "pools" [("public", .string "10.0.0.1\n"), ("shared", .bool false)],
      .save (.ofTime "third") "spaces" [("storage", .object [])], .load "spaces", .load "pools"]
    ∃ made, (⟨"store"⟩ : Layout).IsFresh Files.none made ∧
      (∀ operation ∈ operations, operation.IsAccepted) ∧
      RefinesMemory ⟨"store"⟩ Files.none operations := by
  intro operations
  have is_name : IsEntryName "store" := by
    refine ⟨⟨?_, ?_, ?_⟩, ?_, ?_⟩ <;> decide
  have room : (⟨"store"⟩ : Layout).HasRoom := by
    change 5 + 142 ≤ 4095
    decide
  have accepted : ∀ operation ∈ operations, operation.IsAccepted := by
    have spaces : validateKey "spaces" = .ok () := by decide +kernel
    have pools : validateKey "pools" = .ok () := by decide +kernel
    have first : IsPlain [("storage", .array [.number (.integer 7), .null])] := by
      refine ⟨⟨by decide, ⟨trivial, trivial, trivial⟩, trivial⟩, by decide, ?_⟩
      intro number member
      exact ⟨7, List.mem_singleton.mp member, by decide, by decide⟩
    have second : IsPlain [("public", .string "10.0.0.1\n"), ("shared", .bool false)] := by
      refine ⟨⟨by decide, trivial, trivial, trivial⟩, by decide, ?_⟩
      intro number member
      cases member
    have third : IsPlain [("storage", .object [])] := by
      refine ⟨⟨by decide, ⟨List.nodup_nil, trivial⟩, trivial⟩, by decide, ?_⟩
      intro number member
      cases member
    intro operation member
    simp only [operations, List.mem_cons, List.not_mem_nil, or_false] at member
    rcases member with rfl | rfl | rfl | rfl | rfl | rfl
    · exact spaces
    · exact ⟨spaces, first⟩
    · exact ⟨pools, second⟩
    · exact ⟨spaces, third⟩
    · exact spaces
    · exact pools
  rcases FileAction.isOpenWay_name Files.none is_name rfl with ⟨way, absent⟩
  rcases Layout.exists_isFresh room way absent with ⟨made, fresh⟩
  exact ⟨made, fresh, accepted, run_refines_memory fresh accepted⟩

end NetworkIsolation.Store
