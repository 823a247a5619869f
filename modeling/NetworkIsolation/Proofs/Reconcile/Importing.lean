import NetworkIsolation.CommandLine.Tasks
import NetworkIsolation.Proofs.Backend.Running
import NetworkIsolation.Proofs.Json.Parsed
import NetworkIsolation.Proofs.Store.Saving

/-!
# Imported documents that are loaded again

An import parses the document by itself, and the store parses it again inside two
further brackets.  The importer accepts 127 levels of nesting, so that what it
saves is not always what is loaded: two levels are lost to the brackets.  Doubles
are read in floating-point steps, and some are not read back from their shortest
text.

These are the only differences.  An imported document is loaded again exactly if
it has at most 125 levels and its numbers are read back from their text, which
all of its whole numbers are.
-/

namespace NetworkIsolation.Reconcile

open NetworkIsolation.Backend NetworkIsolation.Configuration NetworkIsolation.FileSystem
open NetworkIsolation.Json NetworkIsolation.Store

variable {σ : Type} [Journal σ]

/-- Notes and messages leave the files of a state alone. -/
structure KeepsFiles (part : Part Files σ) (console : Console σ) : Prop where
  set : ∀ files state, part.get (part.set files state) = files
  note : ∀ entry state, part.get (Journal.record entry state) = part.get state
  success : ∀ message state, part.get (console.success message state).2 = part.get state

variable {part : Part Files σ} {console : Console σ} {layout : Layout} {now : Moment}
  {path : String} {source : TextSource σ} {state after : σ} {document : Bucket}

/-- A save that succeeds saves in the files. -/
theorem run_save_of_store {key : String} {answers : Bucket} (keeps : KeepsFiles part console)
    (saved : (layout.store part now).save key answers state = (.ok (), after)) :
    ∃ files, (layout.save now key answers).run (part.get state) = (.ok (), files) ∧
      part.get after = files := by
  cases ran : (layout.save now key answers).run (part.get state) with
  | mk outcome files =>
      have lifted : part.lift (layout.save now key answers).run state =
          (outcome, part.set files state) := by
        rw [Part.run_lift, ran]
      change (part.lift (layout.save now key answers).run >>= _) state = _ at saved
      rw [run_bind, lifted] at saved
      cases outcome with
      | error cause => cases saved
      | ok done =>
          refine ⟨files, rfl, ?_⟩
          cases saved
          rw [keeps.note, keeps.set]

/-- An import gives nothing and says why, or it saves a document that was accepted. -/
theorem importDocument_cases (source : TextSource σ) (store : AnswerStore σ)
    (console : Console σ) (path : String) (state : σ) :
    let read := source path state
    let run := importDocument source store console path state
    (run.1 = .ok [] ∧ ((∃ entry, run.2 = Journal.record entry read.2) ∨
        ∃ message, run.2 = (console.error message read.2).2)) ∨
      ∃ text document, read.1 = .ok text ∧ parseImport text = .ok document ∧
        importEnabled document = true ∧
        run = saveImport store console path document read.2 := by
  intro read run
  rw [show run = _ from run_bind _ _ state]
  cases found : (source path state).1 with
  | error cause =>
      left
      by_cases missing : cause = .notFound
      · simp only [if_pos missing]
        exact ⟨rfl, .inl ⟨_, rfl⟩⟩
      · simp only [if_neg missing]
        exact ⟨rfl, .inr ⟨_, rfl⟩⟩
  | ok text =>
      cases parsed : parseImport text with
      | error error =>
          left
          simp only [parsed]
          exact ⟨rfl, .inr ⟨_, rfl⟩⟩
      | ok document =>
          cases enabled : importEnabled document with
          | false =>
              left
              simp only [parsed, enabled]
              exact ⟨rfl, .inl ⟨_, rfl⟩⟩
          | true =>
              right
              refine ⟨text, document, rfl, parsed, enabled, ?_⟩
              simp only [parsed, enabled]
              rfl

/-- What an import has done that gives a document. -/
theorem importDocument_eq_ok {store : AnswerStore σ}
    (imported : importDocument source store console path state = (.ok document, after))
    (some_document : document ≠ []) :
    ∃ text before saved, parseImport text = .ok document ∧
      store.save isolationKey (isolationBucket document) before = (.ok (), saved) ∧
      after = (console.success importedMessage (Journal.record ⟨.imports, .info,
        "imported " ++ path ++ " into '" ++ isolationKey ++ "'"⟩ saved)).2 := by
  rcases importDocument_cases source store console path state with
    ⟨nothing, -⟩ | ⟨text, found, -, accepted, -, run⟩
  · rw [imported] at nothing
    cases nothing
    exact absurd rfl some_document
  · rw [imported, saveImport, run_bind] at run
    cases ran : store.save isolationKey (isolationBucket found) (source path state).2 with
    | mk outcome saved =>
        rw [ran] at run
        cases outcome with
        | error cause => cases run
        | ok done =>
            cases run
            exact ⟨text, _, saved, accepted, ran, rfl⟩

/-- A document that is accepted was read from its text. -/
theorem wasRead_of_parseImport {text : String} (parsed : parseImport text = .ok document) :
    (Value.object document).WasRead 127 := by
  rcases bind_eq_ok.mp parsed with ⟨value, value_read, accepted⟩
  cases value with
  | object entries =>
      rcases bind_eq_ok.mp accepted with ⟨_, -, same⟩
      cases same
      exact Value.wasRead_of_parse (mapError_eq_ok.mp value_read)
  | null => cases accepted
  | bool value => cases accepted
  | number value => cases accepted
  | string value => cases accepted
  | array items => cases accepted

theorem rereadEntries_isolationBucket (document : Bucket) :
    Value.rereadEntries 125 (isolationBucket document) = some (isolationBucket document) ↔
      (Value.object document).depth ≤ 125 ∧
        ∀ number ∈ (Value.object document).numbers, number.reread = some number := by
  rw [Value.rereadEntries_eq_self]
  simp [isolationBucket, Value.depthOfEntries, Value.numbersOfEntries]

/-- After an import the document is loaded exactly if it is reread in the store. -/
theorem load_of_import_iff (keeps : KeepsFiles part console)
    (imported : importDocument source (layout.store part now) console path state =
      (.ok document, after)) (some_document : document ≠ []) :
    ((layout.store part now).load isolationKey after).1 = .ok (isolationBucket document) ↔
      Value.rereadEntries 125 (isolationBucket document) = some (isolationBucket document) := by
  rcases importDocument_eq_ok imported some_document with
    ⟨text, before, saved, parsed, stored, final⟩
  rcases run_save_of_store keeps stored with ⟨files, ran, same⟩
  have distinct : (Value.object (isolationBucket document)).HasDistinctNames :=
    ⟨by simp [isolationBucket], (wasRead_of_parseImport parsed).distinct, trivial⟩
  have current : part.get after = files := by
    rw [final, keeps.success, keeps.note, same]
  have loaded : ((layout.store part now).load isolationKey after).1 =
      layout.load files isolationKey := by
    rw [← current]
    rfl
  rw [loaded]
  exact Layout.load_of_save_iff distinct ran

/-! ## Documents that are imported -/

/-- A document that is read back within the nesting limit is accepted as it is printed. -/
theorem parseImport_pretty (part : IsolationSection)
    (distinct : (Value.object document).HasDistinctNames)
    (reread : (Value.object document).reread 127 = some (.object document))
    (has_section : IsolationSection.record.ofValue (.object document) = .ok part) :
    parseImport (Value.object document).pretty = .ok document := by
  have parsed := Value.parse_pretty distinct
  rw [show maxNesting = 127 from rfl, reread] at parsed
  simp only [parseImport, toOption_eq_some.mp parsed, mapError_ok, ok_bind, has_section]
  rfl

/-- An accepted document that asks for isolation is imported into a fresh store. -/
theorem importDocument_of_fresh {text : String} {before : σ} {made : Files}
    (read : source path state = (.ok text, before)) (accepted : parseImport text = .ok document)
    (enabled : importEnabled document = true) (fresh : layout.IsFresh (part.get before) made) :
    ∃ after, importDocument source (layout.store part now) console path state =
      (.ok document, after) := by
  have valid : validateKey isolationKey = .ok () := by decide +kernel
  rcases fresh.run_save valid now (isolationBucket document) with
    ⟨files, location, entries, saves, -⟩
  have stored : (layout.store part now).save isolationKey (isolationBucket document) before =
      (.ok (), Journal.record ⟨.answers, .debug, "saved answers for '" ++ isolationKey ++ "'"⟩
        (part.set files before)) := by
    change (part.lift (layout.save now isolationKey (isolationBucket document)).run >>= _)
      before = _
    rw [run_bind, Part.run_lift, saves]
    rfl
  rw [importDocument, run_bind, read]
  dsimp only
  rw [accepted]
  dsimp only
  rw [if_pos enabled, saveImport, run_bind, stored]
  exact ⟨_, rfl⟩

/-- Notes and messages of a host leave its files alone. -/
theorem keepsFiles_host (json : Bool) :
    KeepsFiles CommandLine.Host.filesPart (CommandLine.terminal json) := by
  refine ⟨fun files host => rfl, ?_, ?_⟩
  · intro entry host
    change (if host.filter.shows entry then _ else host).files = host.files
    split <;> rfl
  · intro message host
    cases json <;> rfl

/-- A host with nothing but a document to import. -/
def documentHost (text : String) : CommandLine.Host where
  files := ⟨[("document.json", .file text.toUTF8)], []⟩
  environment := []
  programs := []
  now := .ofTime ""

/-- On such a host an accepted document that asks for isolation is imported. -/
theorem exists_import_on_host {text : String} (accepted : parseImport text = .ok document)
    (enabled : importEnabled document = true) :
    ∃ after, importDocument CommandLine.Host.textSource
      ((⟨"store"⟩ : Layout).store CommandLine.Host.filesPart (.ofTime ""))
      (CommandLine.terminal false) "document.json" (documentHost text) = (.ok document, after) := by
  have document_name : IsEntryName "document.json" := by
    refine ⟨⟨?_, ?_, ?_⟩, ?_, ?_⟩ <;> decide
  have store_name : IsEntryName "store" := by
    refine ⟨⟨?_, ?_, ?_⟩, ?_, ?_⟩ <;> decide
  have room : (⟨"store"⟩ : Layout).HasRoom := by
    change 5 + 142 ≤ 4095
    decide
  have found := toOption_eq_some.mp
    (Files.find_name (documentHost text).files document_name)
  have read : CommandLine.Host.textSource "document.json" (documentHost text) =
      (.ok text, documentHost text) := by
    change ((documentHost text).files.readText "document.json", documentHost text) = _
    rw [Layout.readText_of_find found]
  have free : Entries.get? (documentHost text).files.working "store" = none := by
    simp [documentHost, Entries.get?]
  rcases FileAction.isOpenWay_name _ store_name free with ⟨way, absent⟩
  rcases Layout.exists_isFresh room way absent with ⟨made, fresh⟩
  exact importDocument_of_fresh read accepted enabled fresh

/-! ## Documents that nest -/

/-- Arrays in each other, one more than the number of levels. -/
def nestedArrays : Nat → Value
  | 0 => .array []
  | levels + 1 => .array [nestedArrays levels]

theorem depth_nestedArrays (levels : Nat) : (nestedArrays levels).depth = levels + 1 := by
  induction levels with
  | zero => rfl
  | succ levels induction_hypothesis =>
      rw [nestedArrays, Value.depth, Value.depthOfItems, induction_hypothesis]
      rfl

theorem numbers_nestedArrays (levels : Nat) : (nestedArrays levels).numbers = [] := by
  induction levels with
  | zero => rfl
  | succ levels induction_hypothesis =>
      rw [nestedArrays, Value.numbers, Value.numbersOfItems, induction_hypothesis]
      rfl

theorem distinct_nestedArrays (levels : Nat) : (nestedArrays levels).HasDistinctNames := by
  induction levels with
  | zero => trivial
  | succ levels induction_hypothesis => exact ⟨induction_hypothesis, trivial⟩

/-- A document that asks for isolation and has arrays in each other beside. -/
def nestedDocument (levels : Nat) : Bucket :=
  [("enable_isolation", .bool true), ("racks", nestedArrays levels)]

theorem depth_nestedDocument (levels : Nat) :
    (Value.object (nestedDocument levels)).depth = levels + 2 := by
  simp [nestedDocument, Value.depth, Value.depthOfEntries, depth_nestedArrays]

theorem numbers_nestedDocument (levels : Nat) :
    (Value.object (nestedDocument levels)).numbers = [] := by
  simp [nestedDocument, Value.numbers, Value.numbersOfEntries, numbers_nestedArrays]

/-- Up to 127 levels the importer accepts a nested document. -/
theorem parseImport_nestedDocument (levels : Nat) (shallow : levels ≤ 125) :
    parseImport (Value.object (nestedDocument levels)).pretty = .ok (nestedDocument levels) := by
  refine parseImport_pretty ⟨true, []⟩ ?_ ?_ ?_
  · exact ⟨by simp [nestedDocument], trivial, distinct_nestedArrays levels, trivial⟩
  · rw [Value.reread_eq_self, depth_nestedDocument, numbers_nestedDocument]
    refine ⟨by omega, ?_⟩
    intro number impossible
    cases impossible
  · rfl

/-! ## What is loaded again -/

/--
A document that was imported into a store on files is loaded again as it stands
exactly if it has at most 125 levels and each of its doubles is read back from its
text.
-/
theorem importDocument_loads_iff (keeps : KeepsFiles part console)
    (imported : importDocument source (layout.store part now) console path state =
      (.ok document, after)) (some_document : document ≠ []) :
    ((layout.store part now).load isolationKey after).1 = .ok (isolationBucket document) ↔
      (Value.object document).depth ≤ 125 ∧
        ∀ double, Number.double double ∈ (Value.object document).numbers →
          (Number.double double).reread = some (.double double) := by
  rw [load_of_import_iff keeps imported some_document, rereadEntries_isolationBucket]
  rcases importDocument_eq_ok imported some_document with ⟨text, before, saved, parsed, -, -⟩
  have kept := (wasRead_of_parseImport parsed).kept
  constructor
  · rintro ⟨shallow, each⟩
    exact ⟨shallow, fun double member => each _ member⟩
  · rintro ⟨shallow, doubles⟩
    refine ⟨shallow, ?_⟩
    intro number member
    cases number with
    | integer value => exact Number.IsKept.reread (kept _ member)
    | double value => exact doubles value member

/-- A document with one array in another is loaded again. -/
theorem importDocument_loads_shallow :
    ∃ after,
      importDocument CommandLine.Host.textSource
        ((⟨"store"⟩ : Layout).store CommandLine.Host.filesPart (.ofTime ""))
        (CommandLine.terminal false)
        "document.json" (documentHost (Value.object (nestedDocument 1)).pretty) =
          (.ok (nestedDocument 1), after) ∧
      nestedDocument 1 ≠ [] ∧
      (((⟨"store"⟩ : Layout).store CommandLine.Host.filesPart (.ofTime "")).load
        isolationKey after).1 =
        .ok (isolationBucket (nestedDocument 1)) := by
  rcases exists_import_on_host (parseImport_nestedDocument 1 (by decide)) rfl with
    ⟨after, imported⟩
  have some_document : nestedDocument 1 ≠ [] := List.cons_ne_nil _ _
  refine ⟨after, imported, some_document, ?_⟩
  refine (importDocument_loads_iff (keepsFiles_host false) imported some_document).mpr ?_
  rw [depth_nestedDocument, numbers_nestedDocument]
  refine ⟨by decide, ?_⟩
  intro double impossible
  cases impossible

/-- A document with 126 levels is imported, but not loaded again. -/
theorem importDocument_loses_deep :
    ∃ after,
      importDocument CommandLine.Host.textSource
        ((⟨"store"⟩ : Layout).store CommandLine.Host.filesPart (.ofTime ""))
        (CommandLine.terminal false)
        "document.json" (documentHost (Value.object (nestedDocument 124)).pretty) =
          (.ok (nestedDocument 124), after) ∧
      nestedDocument 124 ≠ [] ∧
      (((⟨"store"⟩ : Layout).store CommandLine.Host.filesPart (.ofTime "")).load
        isolationKey after).1 ≠
        .ok (isolationBucket (nestedDocument 124)) := by
  rcases exists_import_on_host (parseImport_nestedDocument 124 (by decide)) rfl with
    ⟨after, imported⟩
  have some_document : nestedDocument 124 ≠ [] := List.cons_ne_nil _ _
  refine ⟨after, imported, some_document, ?_⟩
  intro loaded
  have reread := (load_of_import_iff (keepsFiles_host false) imported some_document).mp loaded
  have shallow := ((rereadEntries_isolationBucket _).mp reread).1
  rw [depth_nestedDocument] at shallow
  omega

end NetworkIsolation.Reconcile
