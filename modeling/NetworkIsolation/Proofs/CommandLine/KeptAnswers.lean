import Mathlib.Logic.Function.Basic
import NetworkIsolation.CommandLine.Host
import NetworkIsolation.Proofs.Configuration.RangeUpdates
import NetworkIsolation.Proofs.Store.Refinement

/-!
# Stores that keep answers

A command line works on whatever store it is given.  What it relies on is that a save
succeeds, that a load finds what was saved last under its key, and that writing to the
terminal changes no answers.  `KeepsAnswers` states this of a store together with the
buckets that it can keep: a store on files cannot keep a bucket that is nested too deeply,
and one that keeps everything may still be asked for buckets with distinct names alone.

The buckets that a store on files keeps stay among them when ranges are written.
-/

namespace NetworkIsolation.CommandLine

open NetworkIsolation.Backend NetworkIsolation.Configuration NetworkIsolation.FileSystem
open NetworkIsolation.Json NetworkIsolation.Store

/--
What a store on a host does with the buckets that it keeps.  A host shows `answers` if these
are the buckets under the accepted keys.
-/
structure KeepsAnswers (store : AnswerStore Host) (keeps : Bucket → Prop)
    (shows : Host → (String → Bucket) → Prop) : Prop where
  load : ∀ {host answers}, shows host answers → ∀ {key}, validateKey key = .ok () →
    ∃ after, store.load key host = (.ok (answers key), after) ∧ shows after answers
  save : ∀ {host answers}, shows host answers → ∀ {key}, validateKey key = .ok () →
    ∀ {bucket}, keeps bucket → ∃ after, store.save key bucket host = (.ok (), after) ∧
      shows after (Function.update answers key bucket)
  written : ∀ {host answers}, shows host answers → ∀ output errors,
    shows { host with output, errors } answers
  distinct : ∀ {bucket}, keeps bucket → ((addonsVariables bucket).map Prod.fst).Nodup
  ranges : ∀ {bucket}, keeps bucket → ∀ ranges, keeps (setPoolRanges bucket ranges)

/-- A note is written beside the output, or not at all. -/
theorem record_cases (entry : Note) (host : Host) :
    ∃ errors, Journal.record entry host = { host with errors } := by
  change ∃ errors, (if host.filter.shows entry then
    { host with errors := host.errors ++ logLine entry } else host) = { host with errors }
  split
  · exact ⟨_, rfl⟩
  · exact ⟨host.errors, rfl⟩

namespace KeepsAnswers

variable {store : AnswerStore Host} {keeps : Bucket → Prop}
  {shows : Host → (String → Bucket) → Prop} {host : Host} {answers : String → Bucket}

theorem noted (keeps_answers : KeepsAnswers store keeps shows) (shown : shows host answers)
    (entry : Note) : shows (Journal.record entry host) answers := by
  rcases record_cases entry host with ⟨errors, recorded⟩
  rw [recorded]
  exact keeps_answers.written shown host.output errors

theorem said (keeps_answers : KeepsAnswers store keeps shows) (shown : shows host answers)
    (line : String) : shows (Host.say line host).2 answers :=
  keeps_answers.written shown (host.output ++ line ++ "\n") host.errors

end KeepsAnswers

/-! ## Buckets that a store on files keeps -/

section

variable {bucket : Bucket}

theorem addonsVariables_cases (distinct : (bucket.map Prod.fst).Nodup) :
    (addonsSectionName, Value.object (addonsVariables bucket)) ∈ bucket ∨
      addonsVariables bucket = [] := by
  rw [addonsVariables]
  split
  · rename_i part found
    exact .inl ((Entries.get?_eq_some distinct).mp found)
  · exact .inr rfl

/-- The add-ons of answers that are read back are read back, one level further down. -/
theorem isStorable_addons (storable : IsStorable bucket) :
    (Value.object (addonsVariables bucket)).HasDistinctNames ∧
      Value.rereadEntries 124 (addonsVariables bucket) = some (addonsVariables bucket) := by
  rcases addonsVariables_cases storable.distinct.1 with member | none_there
  · have reread := Value.rereadEntries_eq_self_iff.mp storable.reread _ member
    rcases Option.map_eq_some_iff.mp reread with ⟨entries, entries_reread, same⟩
    cases same
    exact ⟨storable.distinct.entry member, entries_reread⟩
  · rw [none_there]
    exact ⟨⟨List.nodup_nil, trivial⟩, rfl⟩

theorem isStorable_setPoolRanges (storable : IsStorable bucket) (ranges : PoolRanges) :
    IsStorable (setPoolRanges bucket ranges) := by
  rcases isStorable_addons storable with ⟨part_distinct, part_reread⟩
  have variables_reread := Value.rereadEntries_eq_self_iff.mp part_reread
  constructor
  · refine Value.hasDistinctNames_object (Entries.nodup_names_insert storable.distinct.1 _ _) ?_
    intro entry member
    rcases Entries.mem_insert member with written | kept
    · rw [written]
      refine Value.hasDistinctNames_object
        (nodup_names_setRangeVariables part_distinct.1 ranges) ?_
      intro variable_entry among
      rcases mem_setRangeVariables part_distinct.1 among with ⟨text, is_text⟩ | kept
      · rw [is_text]
        trivial
      · exact part_distinct.entry kept
    · exact storable.distinct.entry kept
  · refine Value.rereadEntries_eq_self_iff.mpr ?_
    intro entry member
    rcases Entries.mem_insert member with written | kept
    · have reread : Value.rereadEntries 124 (setRangeVariables (addonsVariables bucket) ranges) =
          some (setRangeVariables (addonsVariables bucket) ranges) := by
        refine Value.rereadEntries_eq_self_iff.mpr ?_
        intro variable_entry among
        rcases mem_setRangeVariables part_distinct.1 among with ⟨text, is_text⟩ | kept
        · rw [is_text]
          rfl
        · exact variables_reread _ kept
      rw [written, Value.reread, reread, Option.map_some]
    · exact Value.rereadEntries_eq_self_iff.mp storable.reread entry kept

end

/-! ## A store on the files of a host -/

/-- Whether the files of a host are those of a store in memory that has these answers. -/
def ShowsDocuments (layout : Layout) (start : Files) (host : Host)
    (answers : String → Bucket) : Prop :=
  ∃ memory, layout.Mirrors start host.files memory ∧ ∀ key, answers key = memory.load key

/-- A store on files that starts without a directory keeps all answers that are read back. -/
theorem keepsAnswers_files {layout : Layout} {start made : Files}
    (fresh : layout.IsFresh start made) (now : Moment) :
    KeepsAnswers (layout.store Host.filesPart now) IsStorable (ShowsDocuments layout start) where
  load := by
    rintro host answers ⟨memory, mirrors, same⟩ key valid
    refine ⟨host, ?_, memory, mirrors, same⟩
    change (layout.load host.files key, host) = _
    rw [mirrors.load fresh valid, same]
  save := by
    rintro host answers ⟨memory, mirrors, same⟩ key valid bucket storable
    rcases mirrors.save fresh valid storable now with ⟨saved, saves, saved_mirrors⟩
    have done : (layout.store Host.filesPart now).save key bucket host =
        (.ok (), Journal.record ⟨.answers, .debug, "saved answers for '" ++ key ++ "'"⟩
          { host with files := saved }) := by
      simp only [Layout.store, run_bind, Part.run_lift]
      rw [show (layout.save now key bucket).run (Host.filesPart.get host) = (.ok (), saved)
        from saves]
      rfl
    refine ⟨_, done, memory.save key bucket, ?_, ?_⟩
    · rcases record_cases _ { host with files := saved } with ⟨errors, recorded⟩
      rw [recorded]
      exact saved_mirrors
    · intro other
      by_cases same_key : key = other
      · rw [← same_key, Function.update_self, Memory.load_save_self]
      · rw [Function.update_of_ne (Ne.symm same_key), Memory.load_save_of_ne _ _ same_key, same]
  written := by
    rintro host answers shown output errors
    exact shown
  distinct := fun storable => (isStorable_addons storable).1.1
  ranges := isStorable_setPoolRanges

/-- Without any files a store can be started in a new directory. -/
theorem exists_isFresh_new_directory :
    ∃ made, (⟨"store"⟩ : Layout).IsFresh Files.none made := by
  have room : (⟨"store"⟩ : Layout).HasRoom := by
    change 5 + 142 ≤ 4095
    decide
  rcases FileAction.isOpenWay_name Files.none Layout.isEntryName_store rfl with ⟨way, absent⟩
  exact Layout.exists_isFresh room way absent

end NetworkIsolation.CommandLine
