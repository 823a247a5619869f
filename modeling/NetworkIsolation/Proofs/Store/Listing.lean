import Mathlib.Data.List.Basic
import NetworkIsolation.Proofs.Store.Refinement

/-!
# Foreign files among the documents

Anything may have been put into the directory of the documents: directories with the name
of a document, files with other names, and documents that are damaged in any way.  Whatever
is there, the keys are exactly those of the files that are named like a document, and the
report about them accounts for each key once, as passed or with a reason.

Keys have no characters beyond ASCII, so that the order of their characters is the order
of their bytes.
-/

namespace NetworkIsolation.Store

open NetworkIsolation.Document NetworkIsolation.FileSystem NetworkIsolation.Json

/-! ## The bytes of keys -/

/-- The bytes of a text. -/
def bytesOf (text : String) : List UInt8 :=
  text.toUTF8.data.toList

theorem toNat_le_of_isKeyCharacter {character : Char}
    (accepted : isKeyCharacter character = true) : character.val.toNat ≤ 127 := by
  simp only [isKeyCharacter, Char.isAlphanum, Bool.or_eq_true, decide_eq_true_eq] at accepted
  rcases accepted with (((alpha | digit) | rfl) | rfl) | rfl
  · rcases Bool.or_eq_true_iff.mp alpha with upper | lower
    · have below := (of_decide_eq_true upper).2
      exact (UInt32.le_iff_toNat_le.mp below).trans (by decide)
    · have below := of_decide_eq_true (Bool.and_eq_true_iff.mp lower).2
      exact (UInt32.le_iff_toNat_le.mp below).trans (by decide)
  · have below := of_decide_eq_true (Bool.and_eq_true_iff.mp digit).2
    exact (UInt32.le_iff_toNat_le.mp below).trans (by decide)
  all_goals decide

/-- Each character of a key is one byte. -/
theorem bytesOf_key {key : String} (valid : validateKey key = .ok ()) :
    bytesOf key = key.toList.map fun character => character.val.toUInt8 := by
  have encoded : key.toUTF8 = key.toList.utf8Encode := by
    rw [String.toUTF8_eq_toByteArray, ← String.toByteArray_ofList, String.ofList_toList]
  rw [bytesOf, encoded, List.utf8Encode, List.data_toByteArray, List.toList_toArray,
    List.map_eq_flatMap]
  refine List.flatMap_congr ?_
  intro character member
  have ascii := toNat_le_of_isKeyCharacter ((validateKey_eq_ok.mp valid).2.2.2 character member)
  exact String.utf8EncodeChar_eq_singleton
    (Char.utf8Size_eq_one_iff.mpr (UInt32.le_iff_toNat_le.mpr ascii))

theorem bytes_lt_of_lt {first second : List Char}
    (first_accepted : ∀ character ∈ first, isKeyCharacter character = true)
    (second_accepted : ∀ character ∈ second, isKeyCharacter character = true)
    (below : first < second) :
    first.map (fun character => character.val.toUInt8) <
      second.map fun character => character.val.toUInt8 := by
  induction first generalizing second with
  | nil =>
      cases second with
      | nil => cases below
      | cons other second => exact .nil
  | cons character first induction_hypothesis =>
      cases second with
      | nil => cases below
      | cons other second =>
          rw [List.forall_mem_cons] at first_accepted second_accepted
          rw [List.map_cons, List.map_cons, List.cons_lt_cons_iff]
          rcases List.cons_lt_cons_iff.mp below with smaller | ⟨rfl, rest_below⟩
          · left
            have ascii := toNat_le_of_isKeyCharacter first_accepted.1
            have other_ascii := toNat_le_of_isKeyCharacter second_accepted.1
            have smaller := UInt32.lt_iff_toNat_lt.mp smaller
            rw [UInt8.lt_iff_toNat_lt, UInt32.toNat_toUInt8, UInt32.toNat_toUInt8]
            omega
          · exact .inr ⟨rfl, induction_hypothesis first_accepted.2 second_accepted.2 rest_below⟩

theorem bytesOf_lt_of_lt {first second : String} (first_valid : validateKey first = .ok ())
    (second_valid : validateKey second = .ok ()) (below : first < second) :
    bytesOf first < bytesOf second := by
  rw [bytesOf_key first_valid, bytesOf_key second_valid]
  exact bytes_lt_of_lt (validateKey_eq_ok.mp first_valid).2.2.2
    (validateKey_eq_ok.mp second_valid).2.2.2 (String.lt_iff.mp below)

namespace Layout

variable {layout : Layout} {files : Files} {entries : List (String × Node)} {key : String}

/-! ## What is wrong with a document -/

/-- Whether a document decodes, but has another checksum than its answers. -/
def IsMismatch (layout : Layout) (files : Files) (key actual : String) : Prop :=
  ∃ text document expected, files.readText (layout.answerPath key) = .ok text ∧
    AnswerDocument.record.reader.decode text = .ok document ∧
    document.checksum = some expected ∧ checksumOf document.answers = actual ∧ actual ≠ expected

theorem verify_eq_error {document : AnswerDocument} {cause : StoreError} :
    document.verify = .error cause ↔ ∃ expected, document.checksum = some expected ∧
      checksumOf document.answers ≠ expected ∧
      cause = .integrity document.key expected (checksumOf document.answers) := by
  rw [AnswerDocument.verify]
  cases document.checksum with
  | none => simp
  | some expected =>
      by_cases same : checksumOf document.answers = expected
      · simp [same]
      · have different : expected ≠ checksumOf document.answers := Ne.symm same
        simp [same, different, eq_comm]

theorem document?_of_readText {text : String} (valid : validateKey key = .ok ())
    (read : files.readText (layout.answerPath key) = .ok text) :
    layout.document? files key = (AnswerDocument.parse text).map some := by
  rcases bind_eq_ok.mp read with ⟨node, found, -⟩
  rw [Layout.document?, valid]
  change (if files.exists? (layout.answerPath key) = true then _ else _) = _
  rw [if_pos (exists?_of_find found), read]
  change (AnswerDocument.parse text >>= fun document => pure (some document)) = _
  cases AnswerDocument.parse text <;> rfl

/-- A document that fails in its last check has been read and decoded. -/
theorem document_of_integrity {name expected actual : String}
    (failed : layout.document? files key = .error (.integrity name expected actual)) :
    ∃ text document, files.readText (layout.answerPath key) = .ok text ∧
      AnswerDocument.record.reader.decode text = .ok document ∧
      document.verify = .error (.integrity name expected actual) := by
  rw [Layout.document?] at failed
  rcases bind_eq_error.mp failed with not_valid | ⟨_, -, failed⟩
  · rw [validateKey] at not_valid
    split at not_valid
    · cases not_valid
    · split at not_valid <;> cases not_valid
  · simp only at failed
    split at failed
    · rcases bind_eq_error.mp failed with unread | ⟨text, read, failed⟩
      · rcases mapError_eq_error.mp unread with ⟨_, -, impossible⟩
        cases impossible
      rcases bind_eq_error.mp failed with failed | ⟨_, -, impossible⟩
      · rcases bind_eq_error.mp failed with malformed | ⟨document, decoded, failed⟩
        · rcases mapError_eq_error.mp malformed with ⟨_, -, impossible⟩
          cases impossible
        rcases bind_eq_error.mp failed with verified | ⟨_, -, impossible⟩
        · exact ⟨text, document, mapError_eq_ok.mp read, mapError_eq_ok.mp decoded, verified⟩
        · cases impossible
      · cases impossible
    · cases failed

/-- The last check fails exactly for the documents whose checksum differs. -/
theorem document?_eq_integrity_iff (valid : validateKey key = .ok ()) {actual : String} :
    (∃ name expected, layout.document? files key = .error (.integrity name expected actual)) ↔
      layout.IsMismatch files key actual := by
  constructor
  · rintro ⟨name, expected, failed⟩
    rcases document_of_integrity failed with ⟨text, document, read, decoded, verified⟩
    rcases verify_eq_error.mp verified with ⟨expected, carried, differs, same⟩
    cases same
    exact ⟨text, document, expected, read, decoded, carried, rfl, differs⟩
  · rintro ⟨text, document, expected, read, decoded, carried, rfl, differs⟩
    have verified := verify_eq_error.mpr ⟨expected, carried, differs, rfl⟩
    refine ⟨document.key, expected, ?_⟩
    rw [document?_of_readText valid read, AnswerDocument.parse, decoded, mapError_ok, ok_bind,
      verified]
    rfl

theorem load_eq_error {cause : StoreError} :
    layout.load files key = .error cause ↔ layout.document? files key = .error cause := by
  rw [Layout.load, bind_eq_error]
  refine or_iff_left ?_
  rintro ⟨_, _, impossible⟩
  cases impossible

theorem isSome_integrityFault? : (integrityFault? layout files key).isSome = true ↔
    ∃ cause, layout.load files key = .error cause := by
  simp only [load_eq_error]
  rw [integrityFault?]
  cases layout.document? files key with
  | ok document => simp
  | error cause => cases cause <;> simp

theorem integrityFault?_eq_checksum {actual : String} :
    integrityFault? layout files key = some (.checksum actual) ↔
      ∃ name expected, layout.document? files key =
        .error (.integrity name expected actual) := by
  rw [integrityFault?]
  cases layout.document? files key with
  | ok document => simp
  | error cause => cases cause <;> simp

theorem integrityFault?_eq_unreadable {cause : StoreError} :
    integrityFault? layout files key = some (.unreadable cause) ↔
      layout.load files key = .error cause ∧
        ¬ ∃ actual name expected, layout.document? files key =
          .error (.integrity name expected actual) := by
  rw [integrityFault?, load_eq_error]
  cases layout.document? files key with
  | ok document => simp
  | error other => cases other <;> simp

/-! ## The report -/

/-- What is at the path of a document is what the directory lists under its name. -/
theorem Lists.find_answerPath (lists : layout.Lists files entries)
    (valid : validateKey key = .ok ()) (usable : IsUsable (layout.answerPath key)) {node : Node} :
    files.find (layout.answerPath key) = .ok node ↔ (documentName key, node) ∈ entries := by
  have is_name := isEntryName_documentName valid
  rcases lists with listed | ⟨absent, rfl⟩
  · rcases listDirectory_eq_ok.mp listed with ⟨inner, found, rfl⟩
    rcases Files.leadsTo_of_find found with ⟨location, leads_to, has_entries⟩
    rw [← toOption_eq_some, Entries.mem_firsts,
      ← leads_to.find_entry has_entries is_name usable]
    rfl
  · refine iff_of_false ?_ List.not_mem_nil
    intro found
    rcases Files.leadsTo_of_find_entry layout.answersDirectory_ne_empty is_name.no_slash found
      with ⟨location, leads_to⟩
    rcases leads_to.hasEntries with ⟨entries, has_entries⟩
    have there := exists?_of_find (leads_to.find has_entries)
    rw [absent] at there
    cases there

/-- The keys with a fault, and the faults beside them. -/
def faultsOf (layout : Layout) (files : Files) (keys : List String) :
    List (String × IntegrityFault) :=
  keys.filterMap fun key => (integrityFault? layout files key).map fun fault => (key, fault)

theorem mem_faultsOf {keys : List String} {fault : IntegrityFault} :
    (key, fault) ∈ layout.faultsOf files keys ↔
      key ∈ keys ∧ integrityFault? layout files key = some fault := by
  simp [faultsOf, List.mem_filterMap]

theorem names_faultsOf (keys : List String) :
    (layout.faultsOf files keys).map Prod.fst =
      keys.filter fun key => (integrityFault? layout files key).isSome := by
  induction keys with
  | nil => rfl
  | cons key keys induction_hypothesis =>
      cases fault : integrityFault? layout files key <;>
        simpa [faultsOf, fault] using induction_hypothesis

end Layout

/-- A listing of keys and a report that account for everything in a directory. -/
structure ReportsExactly (layout : Layout) (files : Files) (entries : List (String × Node))
    (keys : List String) (report : IntegrityReport) : Prop where
  listed : layout.keys files = .ok keys
  verified : verifyIntegrity layout files = .ok report
  increasing : keys.Pairwise fun first second => bytesOf first < bytesOf second
  is_key : ∀ key, key ∈ keys ↔
    validateKey key = .ok () ∧ ∃ content, (documentName key, .file content) ∈ entries
  /-- What is loaded under a key is read from its file in the directory. -/
  opens : ∀ key ∈ keys, IsUsable (layout.answerPath key) →
    ∀ node, files.find (layout.answerPath key) = .ok node ↔ (documentName key, node) ∈ entries
  checked : report.checked = keys.length
  accounted : report.checked = report.passed + report.failed.length
  failed_increasing :
    (report.failed.map Prod.fst).Pairwise fun first second => bytesOf first < bytesOf second
  fails : ∀ key, key ∈ report.failed.map Prod.fst ↔
    key ∈ keys ∧ ∃ cause, layout.load files key = .error cause
  mismatches : ∀ key actual, (key, .checksum actual) ∈ report.failed ↔
    key ∈ keys ∧ layout.IsMismatch files key actual
  unreadable : ∀ key cause, (key, .unreadable cause) ∈ report.failed ↔
    key ∈ keys ∧ layout.load files key = .error cause ∧
      ¬ ∃ actual, layout.IsMismatch files key actual

open Layout in
/--
Whatever is in the directory of the documents, the listing and the report succeed.  Every
file of a key is counted once, and the report tells altered answers from other damage.
-/
theorem verifyIntegrity_reports_exactly {layout : Layout} {files : Files}
    {entries : List (String × Node)} (lists : layout.Lists files entries) :
    ∃ keys report, ReportsExactly layout files entries keys report := by
  have valid_of_mem : ∀ key ∈ keysIn entries, validateKey key = .ok () :=
    fun key member => (mem_keysIn.mp member).1
  have increasing : (keysIn entries).Pairwise fun first second =>
      bytesOf first < bytesOf second := by
    refine List.Pairwise.imp_of_mem ?_ (keysIn_increasing lists.distinct)
    intro first second first_member second_member below
    exact bytesOf_lt_of_lt (valid_of_mem first first_member) (valid_of_mem second second_member)
      below
  refine ⟨keysIn entries, ⟨(keysIn entries).length,
    ((keysIn entries).filter fun key => (integrityFault? layout files key).isNone).length,
    layout.faultsOf files (keysIn entries)⟩, ?_⟩
  constructor
  · exact lists.keys
  · rw [verifyIntegrity, lists.keys]
    rfl
  · exact increasing
  · exact fun key => mem_keysIn
  · intro key member usable node
    exact lists.find_answerPath (valid_of_mem key member) usable
  · rfl
  · have failed : (layout.faultsOf files (keysIn entries)).length =
        ((keysIn entries).filter fun key => (integrityFault? layout files key).isSome).length := by
      rw [← names_faultsOf, List.length_map]
    simp only [failed]
    rw [List.length_eq_length_filter_add fun key => (integrityFault? layout files key).isNone]
    simp only [Option.not_isNone]
  · rw [names_faultsOf]
    exact increasing.filter _
  · intro key
    rw [names_faultsOf, List.mem_filter, isSome_integrityFault?]
  · intro key actual
    rw [mem_faultsOf]
    refine and_congr_right fun member => ?_
    rw [integrityFault?_eq_checksum, document?_eq_integrity_iff (valid_of_mem key member)]
  · intro key cause
    rw [mem_faultsOf]
    refine and_congr_right fun member => ?_
    simp only [integrityFault?_eq_unreadable, document?_eq_integrity_iff (valid_of_mem key member)]

/-- A document whose answers were altered, one that is no text, and what is no document. -/
def foreignEntries : List (String × Node) :=
  [("spaces.json", .file (AnswerDocument.toValue ⟨"spaces", "", [], some "0"⟩).pretty.toUTF8),
    ("pools.json.json", .file ⟨#[255]⟩), ("links.json", .directory []), (".json", .file .empty),
    ("notes.txt", .file .empty), ("two words.json", .file .empty)]

theorem lists_of_entries {entries : List (String × Node)}
    (found_once : Entries.firsts entries = entries) :
    (⟨"store"⟩ : Layout).Lists
      ⟨[("store", .directory [("answers", .directory entries)])], []⟩ entries := by
  let files : Files := ⟨[("store", .directory [("answers", .directory entries)])], []⟩
  have found : files.find "store" = .ok (.directory [("answers", .directory entries)]) :=
    toOption_eq_some.mp (Files.find_name files Layout.isEntryName_store)
  have usable : IsUsable (joinPath "store" "answers") :=
    isUsable_joinPath Layout.isEntryName_store.isUsable Layout.isEntryName_answers.no_slash
      Layout.isEntryName_answers.no_nul (by decide)
  rcases Files.leadsTo_of_find found with ⟨location, leads_to, has_entries⟩
  rcases leads_to.child has_entries Layout.isEntryName_answers usable rfl with
    ⟨inner_leads, inner_has⟩
  exact .inl (Layout.listDirectory_eq_ok.mpr ⟨entries, inner_leads.find inner_has, found_once.symm⟩)

/-- The listing and the report of a directory with such entries. -/
theorem verifyIntegrity_reports_foreign_entries :
    let layout : Layout := ⟨"store"⟩
    let files : Files := ⟨[("store", .directory [("answers", .directory foreignEntries)])], []⟩
    layout.Lists files foreignEntries ∧
      ∃ keys report, ReportsExactly layout files foreignEntries keys report :=
  ⟨lists_of_entries (by rfl), verifyIntegrity_reports_exactly (lists_of_entries (by rfl))⟩

end NetworkIsolation.Store
