import Mathlib.Data.List.Induction
import NetworkIsolation.Proofs.Configuration.Answers
import NetworkIsolation.Proofs.Reconcile.Importing

/-!
# Answers after any sequence of writes

The engine writes answers in two ways: it imports documents, and it stores ranges.
Starting from no answers at all, what it has written can always be read again.  The
configuration is the history of the writes, of which only the last import that gave a
document and the last ranges count.

The history is extended at its end, so the induction is on sequences from which the
last write has been taken.  The invariant says of each bucket what is read from it, and
of the add-ons bucket also that its variables have distinct names, since a variable is
removed by its name.
-/

namespace NetworkIsolation.Reconcile

open NetworkIsolation.Backend NetworkIsolation.Configuration NetworkIsolation.FileSystem
open NetworkIsolation.Json NetworkIsolation.Store

/-! ## Writes and what they give -/

/-- A write of answers.  An import comes with what is found at its path. -/
inductive Write where
  | importFrom (path? : Option String) (content : Except SystemError String)
  | setRanges (ranges : PoolRanges)

inductive WriteReply where
  | imported (reply : Except EngineError Bucket)
  | stored (reply : Except EngineError Unit)

namespace Write

def ranges? : Write → Option PoolRanges
  | importFrom _ _ => none
  | setRanges ranges => some ranges

variable {σ : Type} [Journal σ]

def perform (engine : Engine σ) (console : Console σ) : Write → StateM σ WriteReply
  | importFrom path? content => do
    let reply ← engine.importFrom (fun _ => pure content) console path?
    return .imported reply
  | setRanges ranges => do
    let reply ← engine.setRanges ranges
    return .stored reply

end Write

/-- The document that an import gives, if it gives one that is not empty. -/
def WriteReply.document? : WriteReply → Option Bucket
  | imported (.ok []) => none
  | imported (.ok document) => some document
  | _ => none

/-- The ranges that were stored last. -/
def lastRanges (writes : List Write) : PoolRanges :=
  (writes.filterMap Write.ranges?).getLast?.getD .none

/-- The documents that were imported, in order. -/
def importedDocuments (replies : List WriteReply) : List Bucket :=
  replies.filterMap WriteReply.document?

/-- The section that an imported document makes. -/
def importedSection : Option Bucket → IsolationSection
  | none => ⟨false, []⟩
  | some document => ⟨true, documentSpaces document⟩

@[simp]
theorem lastRanges_concat_import (writes : List Write) (path? : Option String)
    (content : Except SystemError String) :
    lastRanges (writes ++ [.importFrom path? content]) = lastRanges writes := by
  simp [lastRanges, Write.ranges?]

@[simp]
theorem lastRanges_concat_ranges (writes : List Write) (ranges : PoolRanges) :
    lastRanges (writes ++ [.setRanges ranges]) = ranges := by
  simp [lastRanges, Write.ranges?]

@[simp]
theorem importedDocuments_concat (replies : List WriteReply) (reply : WriteReply) :
    importedDocuments (replies ++ [reply]) =
      importedDocuments replies ++ reply.document?.toList := by
  cases found : reply.document? <;> simp [importedDocuments, found]

/-- A document that asks for isolation is not empty. -/
theorem document?_of_enabled {document : Bucket} (enabled : importEnabled document = true) :
    (WriteReply.imported (.ok document)).document? = some document := by
  cases document with
  | nil => cases enabled
  | cons entry entries => rfl

/-! ## What the memory says -/

/-- The answers in memory are what the writes and their replies say. -/
structure Reflects (memory : Memory) (writes : List Write) (replies : List WriteReply) :
    Prop where
  isolation : isolationSection (memory.load isolationKey) =
    .ok (importedSection (importedDocuments replies).getLast?)
  ranges : poolRanges (memory.load addonsKey) = .ok (lastRanges writes)
  distinct : ((addonsVariables (memory.load addonsKey)).map Prod.fst).Nodup

theorem reflects_empty : Reflects Memory.empty [] [] where
  isolation := rfl
  ranges := rfl
  distinct := List.nodup_nil

section

variable {memory : Memory} {writes : List Write} {replies : List WriteReply}

/-- An import that gives nothing leaves everything as it is. -/
theorem Reflects.import_nothing (reflects : Reflects memory writes replies)
    (path? : Option String) (content : Except SystemError String) :
    Reflects memory (writes ++ [.importFrom path? content]) (replies ++ [.imported (.ok [])]) where
  isolation := by
    rw [reflects.isolation, importedDocuments_concat]
    simp [WriteReply.document?]
  ranges := by rw [reflects.ranges, lastRanges_concat_import]
  distinct := reflects.distinct

/-- An import that gives a document decides the flag and the spaces. -/
theorem Reflects.import_document (reflects : Reflects memory writes replies)
    (path? : Option String) (content : Except SystemError String) {text : String}
    {document : Bucket} (accepted : parseImport text = .ok document)
    (enabled : importEnabled document = true) :
    Reflects (memory.save isolationKey (isolationBucket document))
      (writes ++ [.importFrom path? content]) (replies ++ [.imported (.ok document)]) where
  isolation := by
    rw [Memory.load_save_self, isolationSection_isolationBucket accepted, enabled,
      importedDocuments_concat, document?_of_enabled enabled]
    simp [importedSection]
  ranges := by
    rw [Memory.load_save_of_ne memory _ (by decide), reflects.ranges, lastRanges_concat_import]
  distinct := by
    rw [Memory.load_save_of_ne memory _ (by decide)]
    exact reflects.distinct

/-- Storing ranges decides the ranges. -/
theorem Reflects.set_ranges (reflects : Reflects memory writes replies) (ranges : PoolRanges)
    (reply : Except EngineError Unit) :
    Reflects (memory.save addonsKey (setPoolRanges (memory.load addonsKey) ranges))
      (writes ++ [.setRanges ranges]) (replies ++ [.stored reply]) where
  isolation := by
    rw [Memory.load_save_of_ne memory _ (by decide), reflects.isolation, importedDocuments_concat]
    simp [WriteReply.document?]
  ranges := by
    rw [Memory.load_save_self, poolRanges_setPoolRanges reflects.distinct, lastRanges_concat_ranges]
  distinct := by
    rw [Memory.load_save_self, addonsVariables_setPoolRanges]
    exact nodup_names_setRangeVariables reflects.distinct ranges

end

/-! ## Writes with the engine -/

section

variable {σ : Type} [Journal σ]

/-- Notes and messages leave the answers in memory alone. -/
structure KeepsMemory (part : Part Memory σ) (console : Console σ) : Prop where
  set : ∀ memory state, part.get (part.set memory state) = memory
  note : ∀ entry state, part.get (Journal.record entry state) = part.get state
  success : ∀ message state, part.get (console.success message state).2 = part.get state
  error : ∀ message state, part.get (console.error message state).2 = part.get state

variable {part : Part Memory σ} {console : Console σ} (keeps : KeepsMemory part console)
  (settings : Settings)

include keeps

/-- An import leaves the memory alone and gives nothing, or saves an accepted document. -/
theorem run_importDocument (path : String) (content : Except SystemError String) (state : σ) :
    let run := importDocument (fun _ => pure content) (Memory.store part) console path state
    (run.1 = .ok [] ∧ part.get run.2 = part.get state) ∨
      ∃ text document, parseImport text = .ok document ∧ importEnabled document = true ∧
        run.1 = .ok document ∧
        part.get run.2 = (part.get state).save isolationKey (isolationBucket document) := by
  intro run
  have source : (pure content : StateM σ _) state = (content, state) := rfl
  rcases importDocument_cases (fun _ => pure content) (Memory.store part) console path state with
    ⟨nothing, said⟩ | ⟨text, document, -, accepted, enabled, saved⟩
  · refine .inl ⟨nothing, ?_⟩
    rcases said with ⟨entry, after⟩ | ⟨message, after⟩
    · rw [after, keeps.note, source]
    · rw [after, keeps.error, source]
  · refine .inr ⟨text, document, accepted, enabled, ?_⟩
    rw [show run = _ from saved, source]
    refine ⟨rfl, ?_⟩
    -- The save is followed by a note and a message.
    change part.get
      (console.success importedMessage (Journal.record _ (part.set _ state))).2 = _
    rw [keeps.success, keeps.note, keeps.set]

theorem run_setRanges (ranges : PoolRanges) (state : σ) :
    let engine : Engine σ := ⟨Memory.store part, settings⟩
    part.get (engine.setRanges ranges state).2 = (part.get state).save addonsKey
      (setPoolRanges ((part.get state).load addonsKey) ranges) := by
  intro engine
  change part.get (Journal.record _ (part.set _ (part.set _ state))) = _
  rw [keeps.note, keeps.set, keeps.set]

omit keeps in
theorem run_perform_import (path? : Option String) (content : Except SystemError String)
    (state : σ) :
    (Write.importFrom path? content).perform ⟨Memory.store part, settings⟩ console state =
      let run := importDocument (fun _ => pure content) (Memory.store part) console
        (path?.getD settings.importing.path) state
      (.imported (run.1.mapError .store), run.2) := rfl

/-- A write keeps the memory in step with the history. -/
theorem Reflects.perform {writes : List Write} {replies : List WriteReply} {state : σ}
    (reflects : Reflects (part.get state) writes replies) (write : Write) :
    let run := write.perform ⟨Memory.store part, settings⟩ console state
    Reflects (part.get run.2) (writes ++ [write]) (replies ++ [run.1]) := by
  cases write with
  | importFrom path? content =>
      intro run
      have imported := run_importDocument keeps (path?.getD settings.importing.path) content state
      rcases imported with ⟨nothing, kept⟩ | ⟨text, document, accepted, enabled, given, saved⟩
      · have reply : run.1 = .imported (.ok []) := by
          simp only [run, run_perform_import, nothing, mapError_ok]
        have memory : part.get run.2 = part.get state := kept
        rw [reply, memory]
        exact reflects.import_nothing path? content
      · have reply : run.1 = .imported (.ok document) := by
          simp only [run, run_perform_import, given, mapError_ok]
        have memory : part.get run.2 =
            (part.get state).save isolationKey (isolationBucket document) := saved
        rw [reply, memory]
        exact reflects.import_document path? content accepted enabled
  | setRanges ranges =>
      intro run
      have memory : part.get run.2 = (part.get state).save addonsKey
          (setPoolRanges ((part.get state).load addonsKey) ranges) :=
        run_setRanges keeps settings ranges state
      rw [memory]
      exact reflects.set_ranges ranges _

/-- Perform writes one after the other. -/
def performAll (engine : Engine σ) (console : Console σ) (writes : List Write) :
    StateM σ (List WriteReply) :=
  writes.mapM (Write.perform engine console)

omit keeps in
theorem performAll_concat (engine : Engine σ) (writes : List Write) (write : Write) (state : σ) :
    performAll engine console (writes ++ [write]) state =
      let before := performAll engine console writes state
      let last := write.perform engine console before.2
      (before.1 ++ [last.1], last.2) := by
  rw [performAll, List.mapM_append]
  rfl

/-- After all writes the memory says what they and their replies say. -/
theorem reflects_performAll {state : σ} (fresh : part.get state = Memory.empty)
    (writes : List Write) :
    let run := performAll ⟨Memory.store part, settings⟩ console writes state
    Reflects (part.get run.2) writes run.1 := by
  induction writes using List.reverseRecOn with
  | nil =>
      change Reflects (part.get state) [] []
      rw [fresh]
      exact reflects_empty
  | append_singleton writes write induction_hypothesis =>
      rw [performAll_concat]
      exact induction_hypothesis.perform keeps settings write

/-- What is loaded is what the two buckets say. -/
theorem loadConfig_of_reflects {writes : List Write} {replies : List WriteReply} {state : σ}
    (reflects : Reflects (part.get state) writes replies) :
    let imported := importedSection (importedDocuments replies).getLast?
    (Engine.loadConfig ⟨Memory.store part, settings⟩ state).1 =
      .ok ⟨imported.enabled, imported.spaces, lastRanges writes⟩ := by
  intro imported
  have loads : ∀ key state, Engine.loadBucket ⟨Memory.store part, settings⟩ key state =
      (.ok ((part.get state).load key), part.set (part.get state) state) := fun _ _ => rfl
  have read : IsolationConfig.ofAnswers ((part.get state).load isolationKey)
      ((part.get state).load addonsKey) =
      .ok ⟨imported.enabled, imported.spaces, lastRanges writes⟩ := by
    rw [IsolationConfig.ofAnswers, reflects.isolation, ok_bind, reflects.ranges, ok_bind]
    rfl
  simp only [Engine.loadConfig, run_bind, loads, keeps.set, read]
  rfl

/--
Whatever is imported and stored, starting from no answers, the configuration can be
loaded.  Its ranges are those that were stored last, and it has the spaces of the document
that was imported last; isolation is enabled exactly if a document was imported at all.
-/
theorem loadConfig_of_writes (writes : List Write) (state : σ)
    (fresh : part.get state = Memory.empty) :
    let engine : Engine σ := ⟨Memory.store part, settings⟩
    let run := performAll engine console writes state
    let documents := importedDocuments run.1
    ∃ config, (engine.loadConfig run.2).1 = .ok config ∧
      config.poolRanges = lastRanges writes ∧
      (config.enabled = true ↔ documents ≠ []) ∧
      config.spaces = (documents.getLast?.map documentSpaces).getD [] := by
  intro engine run documents
  have loaded := loadConfig_of_reflects keeps settings
    (reflects_performAll keeps settings fresh writes)
  refine ⟨_, loaded, rfl, ?_, ?_⟩
  · change (importedSection documents.getLast?).enabled = true ↔ documents ≠ []
    rw [← List.getLast?_isSome]
    cases documents.getLast? <;> simp [importedSection]
  · change (importedSection documents.getLast?).spaces = _
    cases documents.getLast? <;> rfl

end

/-! ## A desk -/

/-- Answers in memory, and the messages that were shown. -/
structure Desk where
  memory : Memory
  messages : List String

namespace Desk

def memoryPart : Part Memory Desk where
  get := Desk.memory
  set memory desk := { desk with memory }

/-- Notes are not part of a desk. -/
instance : Journal Desk where
  record _ desk := desk

def say (message : String) : StateM Desk Unit :=
  modify fun desk => { desk with messages := desk.messages ++ [message] }

def console : Console Desk := ⟨say, say⟩

theorem keepsMemory : KeepsMemory memoryPart console where
  set _ _ := rfl
  note _ _ := rfl
  success _ _ := rfl
  error _ _ := rfl

end Desk

/-- A document that asks for isolation, with one space that has subnets and one that has none. -/
def twoSpaces : String :=
  "\x7b\"enable_isolation\":true,\"spaces\":" ++
    "\x7b\"storage\":\x7b\"subnets\":[\"10.0.2.0/24\"]\x7d,\"internal\":null\x7d\x7d"

/-- Two imports, of which the second does not ask for isolation, and ranges in between. -/
def threeWrites : List Write := [
  .importFrom none (.ok twoSpaces),
  .setRanges ⟨some "10.1.0.0/24", .none, .none⟩,
  .importFrom none (.ok "\x7b\x7d")]

theorem loadConfig_of_threeWrites :
    let engine : Engine Desk := ⟨Memory.store Desk.memoryPart, {}⟩
    let run := performAll engine Desk.console threeWrites ⟨Memory.empty, []⟩
    (engine.loadConfig run.2).1 = .ok ⟨true,
      [⟨"storage", ["10.0.2.0/24"]⟩, ⟨"internal", []⟩], ⟨some "10.1.0.0/24", .none, .none⟩⟩ := by
  intro engine run
  have imported : (importedDocuments run.1).getLast?.map documentSpaces =
      some [⟨"storage", ["10.0.2.0/24"]⟩, ⟨"internal", []⟩] := by decide +kernel
  have some_document : importedDocuments run.1 ≠ [] := by
    intro none_imported
    rw [none_imported] at imported
    cases imported
  rcases loadConfig_of_writes Desk.keepsMemory {} threeWrites ⟨Memory.empty, []⟩ rfl with
    ⟨⟨enabled, spaces, ranges⟩, loaded, same_ranges, enabled_iff, same_spaces⟩
  have is_enabled : enabled = true := enabled_iff.mpr some_document
  rw [imported] at same_spaces
  subst same_ranges is_enabled same_spaces
  exact loaded

end NetworkIsolation.Reconcile
