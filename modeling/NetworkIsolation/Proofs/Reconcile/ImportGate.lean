import NetworkIsolation.Proofs.Backend.Recording
import NetworkIsolation.Proofs.Configuration.Grammar
import NetworkIsolation.Proofs.Json.Parsed
import NetworkIsolation.Reconcile.Import

/-!
# What an import lets through

The import of a document looks at it twice.  The whole document is read as an isolation
section, which it has to be, and then its flag is looked up.  Here the text alone decides:
it is an isolation document if it parses as an object of the shape of that section, and it
asks for isolation if the flag is `true` besides.

`ImportTrace` tells what an import returns and everything that it does, in six cases that
exclude each other: the source, the store and the console may answer and do what they
like.  A bucket is saved exactly if the text asks for isolation.
-/

namespace NetworkIsolation.Reconcile

open NetworkIsolation.Backend NetworkIsolation.Configuration NetworkIsolation.FileSystem
open NetworkIsolation.Json NetworkIsolation.Store

/-! ## Documents -/

/-- A text is an isolation document, with the entries that it is parsed to. -/
def IsIsolationDocument (text : String) (document : Bucket) : Prop :=
  Value.parse text = .ok (.object document) ∧ isolationShape (.object document) = true

/-- A text asks for isolation: its flag is `true`, and its spaces have their shape. -/
def AsksForIsolation (text : String) (document : Bucket) : Prop :=
  Value.parse text = .ok (.object document) ∧
    document.get? "enable_isolation" = some (.bool true) ∧
    (document.get? "spaces").all spacesShape = true

/-- The importer accepts isolation documents, as they stand, and nothing else. -/
theorem parseImport_eq_ok_iff {text : String} {document : Bucket} :
    parseImport text = .ok document ↔ IsIsolationDocument text document := by
  constructor
  · intro accepted
    rcases bind_eq_ok.mp accepted with ⟨value, value_read, checked⟩
    rw [mapError_eq_ok] at value_read
    cases value with
    | object entries =>
        rcases bind_eq_ok.mp checked with ⟨part, part_read, same⟩
        cases same
        have distinct := (Value.wasRead_of_parse value_read).distinct
        exact ⟨value_read, (accepts_isolation _ distinct).mp ⟨part, mapError_eq_ok.mp part_read⟩⟩
    | _ => cases checked
  · rintro ⟨value_read, fits⟩
    have distinct := (Value.wasRead_of_parse value_read).distinct
    rcases (accepts_isolation _ distinct).mpr fits with ⟨part, part_read⟩
    have has_section : IsolationSection.record.ofValue (.object document) = .ok part := part_read
    simp only [parseImport, value_read, mapError_ok, ok_bind, has_section]
    rfl

theorem importEnabled_iff {document : Bucket} :
    importEnabled document = true ↔ document.get? "enable_isolation" = some (.bool true) := by
  rw [importEnabled]
  cases document.get? "enable_isolation" with
  | none => simp
  | some value => cases value <;> simp [Value.bool?]

theorem asksForIsolation_iff {text : String} {document : Bucket} :
    AsksForIsolation text document ↔
      IsIsolationDocument text document ∧
        document.get? "enable_isolation" = some (.bool true) := by
  have shape : isolationShape (.object document) =
      ((document.get? "enable_isolation").all (Document.Shape.orNull .flag) &&
        ((document.get? "spaces").all spacesShape && true)) := rfl
  constructor
  · rintro ⟨parsed, enabled, spaces⟩
    refine ⟨⟨parsed, ?_⟩, enabled⟩
    rw [shape, enabled, spaces]
    rfl
  · rintro ⟨⟨parsed, fits⟩, enabled⟩
    rw [shape, enabled, Bool.and_true, Bool.and_eq_true] at fits
    exact ⟨parsed, enabled, fits.2⟩

/-- A text has one document, which is the one that it is parsed to. -/
theorem AsksForIsolation.unique {text : String} {first second : Bucket}
    (asks : AsksForIsolation text first) (asks_too : AsksForIsolation text second) :
    first = second := by
  have parsed := asks.1.symm.trans asks_too.1
  cases parsed
  rfl

/-! ## Traces -/

/-- What an import does to the outside, with the replies that it gets. -/
inductive ImportEvent where
  | read (path : String) (reply : Except SystemError String)
  | store (event : StoreEvent)
  | success (line : String)
  | error (line : String)

/-- A source whose readings are written down. -/
def TextSource.traced {σ : Type} (source : TextSource σ) : TextSource (Traced σ ImportEvent) :=
  fun path => Traced.watch (source path) (.read path)

/-- A console whose lines are written down. -/
def Console.traced {σ : Type} (console : Console σ) : Console (Traced σ ImportEvent) where
  success line := Traced.watch (console.success line) fun _ => .success line
  error line := Traced.watch (console.error line) fun _ => .error line

/-- What an import of what is at a path returns, and everything that it does. -/
inductive ImportTrace (path : String) : Except StoreError Bucket → List ImportEvent → Prop where
  /-- There is nothing at the path, which is no reason to say anything. -/
  | missing : ImportTrace path (.ok []) [.read path (.error .notFound)]
  | unreadable (cause : SystemError) (present : cause ≠ .notFound) :
      ImportTrace path (.ok [])
        [.read path (.error cause), .error (invalidMessage cause.message)]
  /-- The text is no isolation document. -/
  | malformed (text : String) (no_document : ¬∃ document, IsIsolationDocument text document)
      (cause : ConfigurationError) (refused : parseImport text = .error cause) :
      ImportTrace path (.ok []) [.read path (.ok text), .error (invalidMessage cause.message)]
  /-- The text is an isolation document, but does not ask for isolation. -/
  | unasked (text : String) (document : Bucket) (well_formed : IsIsolationDocument text document)
      (disabled : document.get? "enable_isolation" ≠ some (.bool true)) :
      ImportTrace path (.ok []) [.read path (.ok text)]
  | unsaved (text : String) (document : Bucket) (asks : AsksForIsolation text document)
      (cause : StoreError) :
      ImportTrace path (.error cause) [.read path (.ok text),
        .store (.save isolationKey [(isolationSectionName, .object document)] (.error cause))]
  | imported (text : String) (document : Bucket) (asks : AsksForIsolation text document) :
      ImportTrace path (.ok document) [.read path (.ok text),
        .store (.save isolationKey [(isolationSectionName, .object document)] (.ok ())),
        .success importedMessage]

/-- A bucket is saved exactly for a text that asks for isolation, and holds its document. -/
theorem ImportTrace.saves_iff {path : String} {result : Except StoreError Bucket}
    {events : List ImportEvent} (trace : ImportTrace path result events) (key : String)
    (answers : Bucket) :
    (∃ reply, .store (.save key answers reply) ∈ events) ↔
      ∃ text document, .read path (.ok text) ∈ events ∧ AsksForIsolation text document ∧
        key = isolationKey ∧ answers = [(isolationSectionName, .object document)] := by
  have nothing : ∀ {text}, (¬∃ document, AsksForIsolation text document) →
      ¬∃ document, AsksForIsolation text document ∧ key = isolationKey ∧
        answers = [(isolationSectionName, .object document)] :=
    fun none ⟨document, asks, _⟩ => none ⟨document, asks⟩
  have something : ∀ {text document}, AsksForIsolation text document →
      ((key = isolationKey ∧ answers = [(isolationSectionName, .object document)]) ↔
        ∃ document, AsksForIsolation text document ∧ key = isolationKey ∧
          answers = [(isolationSectionName, .object document)]) := by
    intro text document asks
    constructor
    · exact fun facts => ⟨document, asks, facts⟩
    · rintro ⟨other, other_asks, facts⟩
      rwa [asks.unique other_asks]
  cases trace with
  | missing => simp
  | unreadable cause present => simp
  | malformed text no_document cause refused =>
      have none : ¬∃ document, AsksForIsolation text document :=
        fun ⟨document, asks⟩ => no_document ⟨document, (asksForIsolation_iff.mp asks).1⟩
      simpa using nothing none
  | unasked text document well_formed disabled =>
      have none : ¬∃ document, AsksForIsolation text document := by
        rintro ⟨other, asks⟩
        have parsed := well_formed.1.symm.trans asks.1
        cases parsed
        exact disabled asks.2.1
      simpa using nothing none
  | unsaved text document asks cause => simpa [and_assoc] using something asks
  | imported text document asks => simpa [and_assoc] using something asks

open Traced

section

variable {σ : Type} [Journal σ] (source : TextSource σ) (store : AnswerStore σ)
  (console : Console σ) (path : String)

theorem records_saveImport {text : String} {document : Bucket}
    (asks : AsksForIsolation text document) :
    Records (saveImport (store.traced ImportEvent.store) console.traced path document)
      (saveImport store console path document)
      fun result events => ImportTrace path result (.read path (.ok text) :: events) := by
  refine (records_watch (store.save isolationKey (isolationBucket document)) fun reply =>
    ImportEvent.store (.save isolationKey (isolationBucket document) reply)).bind ?_
  rintro reply events rfl
  cases reply with
  | error cause => exact records_pure (.unsaved text document asks cause)
  | ok done =>
      refine Records.after_note ((records_watch (console.success importedMessage)
        fun _ => ImportEvent.success importedMessage).bind ?_)
      rintro _ events rfl
      exact records_pure (.imported text document asks)

omit [Journal σ] in
/-- A line for the operator is the last thing that is done. -/
theorem records_complain {line : String} {result : Except StoreError Bucket}
    {event : ImportEvent} (trace : ImportTrace path result [event, .error line]) :
    Records (do console.traced.error line; return result) (do console.error line; return result)
      fun given events => ImportTrace path given (event :: events) := by
  refine (records_watch (console.error line) fun _ => ImportEvent.error line).bind ?_
  rintro _ events rfl
  exact records_pure trace

theorem records_importDocument :
    Records (importDocument source.traced (store.traced ImportEvent.store) console.traced path)
      (importDocument source store console path) (ImportTrace path) := by
  refine (records_watch (source path) (ImportEvent.read path)).bind ?_
  rintro reply events rfl
  cases reply with
  | error cause =>
      dsimp only
      split
      · rename_i absent
        subst absent
        exact Records.after_note (records_pure .missing)
      · rename_i present
        exact records_complain console path (.unreadable cause present)
  | ok text =>
      dsimp only
      cases accepted : parseImport text with
      | error cause =>
          have no_document : ¬∃ document, IsIsolationDocument text document := by
            rintro ⟨document, well_formed⟩
            rw [parseImport_eq_ok_iff.mpr well_formed] at accepted
            cases accepted
          exact records_complain console path (.malformed text no_document cause accepted)
      | ok document =>
          have well_formed := parseImport_eq_ok_iff.mp accepted
          dsimp only
          split
          · rename_i enabled
            exact records_saveImport store console path
              (asksForIsolation_iff.mpr ⟨well_formed, importEnabled_iff.mp enabled⟩)
          · rename_i not_enabled
            exact Records.after_note (records_pure
              (.unasked text document well_formed fun enabled =>
                not_enabled (importEnabled_iff.mpr enabled)))

/--
Whatever the source, the store and the console do: an import returns and does what its trace
tells, and nothing else.  It saves a bucket exactly if what it has read asks for isolation,
and then the bucket is the isolation bucket, with the document that was parsed in it.
-/
theorem importDocument_saves_iff_asked (start : Traced σ ImportEvent) :
    ∃ result after events,
      importDocument source.traced (store.traced ImportEvent.store) console.traced path start =
        (result, ⟨after, start.events ++ events⟩) ∧
      importDocument source store console path start.state = (result, after) ∧
      ImportTrace path result events ∧
      ∀ key answers, (∃ reply, .store (.save key answers reply) ∈ events) ↔
        ∃ text document, .read path (.ok text) ∈ events ∧ AsksForIsolation text document ∧
          key = isolationKey ∧ answers = [(isolationSectionName, .object document)] := by
  rcases (records_importDocument source store console path).exists_events start with
    ⟨result, after, events, traced, plain, trace⟩
  exact ⟨result, after, events, traced, plain, trace, trace.saves_iff⟩

end

end NetworkIsolation.Reconcile
