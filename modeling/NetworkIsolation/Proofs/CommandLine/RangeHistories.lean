import NetworkIsolation.Proofs.CommandLine.Loading

/-!
# Histories of range commands

A command that changes the ranges reads the stored ones, puts what it was given over them
and writes all three back, so each command depends on what those before it have left.  What
is stored after any history can nevertheless be told for each range on its own: the last
command with an effect on it decides, and without such a command it is as it was.

One command is followed through reading, merging and writing, and the history by induction.
What is carried along are the answers that the store shows: those that no command may touch
are as at the start, and the configuration is the one at the start but for its ranges.
-/

namespace NetworkIsolation.CommandLine

open NetworkIsolation.Backend NetworkIsolation.Configuration NetworkIsolation.FileSystem
open NetworkIsolation.Json NetworkIsolation.Reconcile NetworkIsolation.Store
open NetworkIsolation.Text

/-! ## Effects of commands -/

/-- The three ranges by name. -/
inductive RangeName where
  | publicRange
  | internalRange
  | sharedRange
  deriving DecidableEq, Repr

namespace RangeName

/-- What is stored for a range. -/
def stored : RangeName → PoolRanges → Option String
  | publicRange => PoolRanges.publicRange
  | internalRange => PoolRanges.internalRange
  | sharedRange => PoolRanges.sharedRange

/-- What a command is given for a range. -/
def given : RangeName → RangeChoices → Option String
  | publicRange => RangeChoices.publicRange
  | internalRange => RangeChoices.internalRange
  | sharedRange => RangeChoices.sharedRange

end RangeName

theorem ranges_ext {first second : PoolRanges}
    (same : ∀ name : RangeName, name.stored first = name.stored second) : first = second := by
  rcases first with ⟨firstPublic, firstInternal, firstShared⟩
  have publicRange := same .publicRange
  have internalRange := same .internalRange
  have sharedRange := same .sharedRange
  cases publicRange
  cases internalRange
  cases sharedRange
  rfl

/-- A command that changes the ranges, and whether it answers in JSON. -/
structure RangeCommand where
  choices : RangeChoices
  json : Bool
  deriving DecidableEq, Repr

namespace RangeCommand

/-- What a command makes of a range, if it has an effect on it. -/
def effect? (command : RangeCommand) (name : RangeName) : Option (Option String) :=
  if command.choices.clear then some none
  else (name.given command.choices).map fun text =>
    if isAllBlank text then none else some (trim text)

/-- Run a command. -/
def run (engine : Engine Host) (command : RangeCommand) :
    StateM Host (Except TaskFailure Bool) :=
  (rangesTask engine command.choices command.json).run

/-- The ranges that a command stores. -/
def written (command : RangeCommand) (ranges : PoolRanges) : PoolRanges :=
  if command.choices.clear then .none else changedRanges command.choices ranges

theorem stored_written (command : RangeCommand) (ranges : PoolRanges) (name : RangeName) :
    name.stored (command.written ranges) =
      (command.effect? name).getD (name.stored ranges) := by
  rw [written, effect?]
  split
  · cases name <;> rfl
  · have picked : ∀ given stored : Option String, pickRange given stored =
        (given.map fun text => if isAllBlank text then none else some (trim text)).getD
          stored := by
      intro given stored
      cases given <;> rfl
    cases name <;> exact picked _ _

end RangeCommand

/-- Run commands one after the other. -/
def runHistory (engine : Engine Host) (history : List RangeCommand) :
    StateM Host (List (Except TaskFailure Bool)) :=
  history.mapM (RangeCommand.run engine)

/-- The last effect on a range. -/
def lastEffect? (history : List RangeCommand) (name : RangeName) : Option (Option String) :=
  (history.filterMap fun command => command.effect? name).getLast?

@[simp]
theorem lastEffect?_cons (command : RangeCommand) (history : List RangeCommand)
    (name : RangeName) :
    lastEffect? (command :: history) name =
      (lastEffect? history name).or (command.effect? name) := by
  rw [lastEffect?, lastEffect?, List.filterMap_cons]
  cases command.effect? name with
  | none => simp
  | some effect => cases last : (history.filterMap fun command => command.effect? name).getLast?
      <;> simp [List.getLast?_cons, last]

/-- Of two effects on different ranges it does not matter which comes first. -/
theorem lastEffect?_swap {first second : RangeCommand}
    (disjoint : ∀ name, first.effect? name = none ∨ second.effect? name = none)
    (front back : List RangeCommand) (name : RangeName) :
    lastEffect? (front ++ second :: first :: back) name =
      lastEffect? (front ++ first :: second :: back) name := by
  induction front with
  | nil => rcases disjoint name with none_first | none_second <;> simp [*]
  | cons command front induction_hypothesis =>
      rw [List.cons_append, List.cons_append, lastEffect?_cons, lastEffect?_cons,
        induction_hypothesis]

/-! ## Answers that no command touches -/

/-- Whether add-ons differ in nothing but the ranges. -/
structure KeepsAddons (before after : Bucket) : Prop where
  entries : ∀ name, name ≠ addonsSectionName → after.get? name = before.get? name
  /-- A section has its other variables as they were. -/
  part : ∀ part, before.get? addonsSectionName = some (.object part) →
    ∃ others, after.get? addonsSectionName = some (.object others) ∧
      ∀ name, name ∉ rangeVariables → Entries.get? others name = Entries.get? part name

theorem KeepsAddons.refl (bucket : Bucket) : KeepsAddons bucket bucket where
  entries _ _ := rfl
  part part found := ⟨part, found, fun _ _ => rfl⟩

theorem KeepsAddons.trans {before between after : Bucket} (first : KeepsAddons before between)
    (second : KeepsAddons between after) : KeepsAddons before after where
  entries name different := (second.entries name different).trans (first.entries name different)
  part part found := by
    rcases first.part part found with ⟨others, others_found, same⟩
    rcases second.part others others_found with ⟨final, final_found, still_same⟩
    exact ⟨final, final_found, fun name other => (still_same name other).trans (same name other)⟩

theorem get?_setRangeVariables_of_other {part : Bucket} (distinct : (part.map Prod.fst).Nodup)
    (ranges : PoolRanges) {name : String} (other : name ∉ rangeVariables) :
    (setRangeVariables part ranges).get? name = part.get? name := by
  simp only [rangeVariables, List.mem_cons, List.not_mem_nil, or_false, not_or] at other
  have after_public := nodup_names_setVariable distinct publicVariable ranges.publicRange
  have after_internal :=
    nodup_names_setVariable after_public internalVariable ranges.internalRange
  rw [setRangeVariables, get?_setVariable_of_ne after_internal _ _ (Ne.symm other.2.2),
    get?_setVariable_of_ne after_public _ _ (Ne.symm other.2.1),
    get?_setVariable_of_ne distinct _ _ (Ne.symm other.1)]

theorem keepsAddons_setPoolRanges {bucket : Bucket}
    (distinct : ((addonsVariables bucket).map Prod.fst).Nodup) (ranges : PoolRanges) :
    KeepsAddons bucket (setPoolRanges bucket ranges) where
  entries name different := by
    rw [setPoolRanges, Entries.get?_insert_of_ne _ _ (Ne.symm different)]
  part part found := by
    have is_section : addonsVariables bucket = part := by
      rw [addonsVariables, found]
    rw [is_section] at distinct
    refine ⟨setRangeVariables part ranges, ?_, ?_⟩
    · rw [setPoolRanges, is_section, Entries.get?_insert_self]
    · intro name other
      exact get?_setRangeVariables_of_other distinct ranges other

/-! ## One command -/

theorem run_ofEngine_of_ok {α : Type} {action : StateM Host (Except EngineError α)}
    {host after : Host} {value : α} (done : action host = (.ok value, after)) :
    (ofEngine action).run host = (.ok value, after) := by
  rw [run_ofEngine, done]
  rfl

section

variable {engine : Engine Host} {keeps : Bucket → Prop}
  {shows : Host → (String → Bucket) → Prop} {host : Host} {answers : String → Bucket}
  {config : IsolationConfig} {command : RangeCommand}

/-- The configuration that is loaded is the one in the answers that are shown. -/
theorem loadConfig_of_shows (keeps_answers : KeepsAnswers engine.store keeps shows)
    (shown : shows host answers) :
    ∃ after, engine.loadConfig host =
        ((IsolationConfig.ofAnswers (answers isolationKey) (answers addonsKey)).mapError
          .configuration, after) ∧
      shows after answers := by
  rcases keeps_answers.load shown valid_isolationKey with ⟨first, isolation_loaded, first_shown⟩
  rcases keeps_answers.load first_shown valid_addonsKey with ⟨second, addons_loaded, second_shown⟩
  simp only [Engine.loadConfig, Engine.loadBucket, run_bind, isolation_loaded, addons_loaded,
    run_pure, mapError_ok]
  cases IsolationConfig.ofAnswers (answers isolationKey) (answers addonsKey) with
  | error cause => exact ⟨second, rfl, second_shown⟩
  | ok config => exact ⟨_, rfl, keeps_answers.noted second_shown _⟩

theorem setRanges_of_shows (keeps_answers : KeepsAnswers engine.store keeps shows)
    (shown : shows host answers) (kept : keeps (answers addonsKey)) (ranges : PoolRanges) :
    ∃ after, engine.setRanges ranges host = (.ok (), after) ∧
      shows after
        (Function.update answers addonsKey (setPoolRanges (answers addonsKey) ranges)) := by
  rcases keeps_answers.load shown valid_addonsKey with ⟨first, loaded, first_shown⟩
  rcases keeps_answers.save first_shown valid_addonsKey (keeps_answers.ranges kept ranges) with
    ⟨second, saved, second_shown⟩
  simp only [Engine.setRanges, Engine.loadBucket, run_bind, loaded, run_pure, mapError_ok, saved]
  exact ⟨_, rfl, keeps_answers.noted second_shown _⟩

/-- Store ranges, and say what each pool would get: what a command ends with. -/
def storeRanges (engine : Engine Host) (json : Bool) (ranges : PoolRanges) :
    TaskAction Bool := do
  ofEngine (engine.setRanges ranges)
  let resolved := ranges.resolve true
  if json then
    sayJson (.object [("ranges", ranges.toValue), ("resolved", resolved.toValue)])
  else
    Host.say ("public:   " ++ rangeWords resolved.publicRange)
    Host.say ("internal: " ++ rangeWords resolved.internalRange)
  return true

theorem rangesTask_of_asked (engine : Engine Host) {choices : RangeChoices}
    (asked : choices.isEmpty = false) (json : Bool) :
    rangesTask engine choices json =
      if choices.clear then storeRanges engine json .none
      else ofEngine engine.loadConfig >>= fun config =>
        storeRanges engine json (changedRanges choices config.poolRanges) := by
  rw [rangesTask, asked]
  rfl

theorem run_storeRanges (keeps_answers : KeepsAnswers engine.store keeps shows)
    (shown : shows host answers) (kept : keeps (answers addonsKey)) (json : Bool)
    (ranges : PoolRanges) :
    ∃ after, (storeRanges engine json ranges).run host = (.ok true, after) ∧
      shows after
        (Function.update answers addonsKey (setPoolRanges (answers addonsKey) ranges)) := by
  rcases setRanges_of_shows keeps_answers shown kept ranges with ⟨stored, set, stored_shown⟩
  rw [storeRanges, run_bind_of_ok (run_ofEngine_of_ok set)]
  cases json with
  | true => exact ⟨_, rfl, keeps_answers.said stored_shown _⟩
  | false => exact ⟨_, rfl, keeps_answers.said (keeps_answers.said stored_shown _) _⟩

/-- A command stores what it makes of the ranges that are there. -/
theorem run_command (keeps_answers : KeepsAnswers engine.store keeps shows)
    (shown : shows host answers) (kept : keeps (answers addonsKey))
    (readable : IsolationConfig.ofAnswers (answers isolationKey) (answers addonsKey) = .ok config)
    (asked : command.choices.isEmpty = false) :
    ∃ after, command.run engine host = (.ok true, after) ∧
      shows after (Function.update answers addonsKey
        (setPoolRanges (answers addonsKey) (command.written config.poolRanges))) := by
  rw [RangeCommand.run, rangesTask_of_asked engine asked, RangeCommand.written]
  split
  · exact run_storeRanges keeps_answers shown kept command.json .none
  · rcases loadConfig_of_shows keeps_answers shown with ⟨between, loaded, between_shown⟩
    rw [readable] at loaded
    rw [run_bind_of_ok (run_ofEngine_of_ok loaded)]
    exact run_storeRanges keeps_answers between_shown kept command.json _

/-- After a write the configuration is as it was, but for the ranges. -/
theorem ofAnswers_setPoolRanges
    (distinct : ((addonsVariables (answers addonsKey)).map Prod.fst).Nodup)
    (readable : IsolationConfig.ofAnswers (answers isolationKey) (answers addonsKey) = .ok config)
    (ranges : PoolRanges) :
    IsolationConfig.ofAnswers (answers isolationKey) (setPoolRanges (answers addonsKey) ranges) =
      .ok { config with poolRanges := ranges } := by
  rcases bind_eq_ok.mp readable with ⟨part, part_read, rest_read⟩
  rcases bind_eq_ok.mp rest_read with ⟨before, -, same⟩
  cases same
  rw [IsolationConfig.ofAnswers, part_read, ok_bind, poolRanges_setPoolRanges distinct]
  rfl

/-! ## Histories -/

/-- A history ends well, and leaves the ranges to the last effect on each of them. -/
theorem run_history (keeps_answers : KeepsAnswers engine.store keeps shows)
    (shown : shows host answers) (kept : keeps (answers addonsKey))
    (readable : IsolationConfig.ofAnswers (answers isolationKey) (answers addonsKey) = .ok config)
    {history : List RangeCommand}
    (asked : ∀ command ∈ history, command.choices.isEmpty = false) :
    ∃ after addons ranges, runHistory engine history host =
        (history.map fun _ => .ok true, after) ∧
      shows after (Function.update answers addonsKey addons) ∧
      KeepsAddons (answers addonsKey) addons ∧
      IsolationConfig.ofAnswers (answers isolationKey) addons =
        .ok { config with poolRanges := ranges } ∧
      ∀ name : RangeName, name.stored ranges =
        (lastEffect? history name).getD (name.stored config.poolRanges) := by
  induction history generalizing host answers config with
  | nil =>
      refine ⟨host, answers addonsKey, config.poolRanges, rfl, ?_, .refl _, readable, fun _ => rfl⟩
      rw [Function.update_eq_self]
      exact shown
  | cons command history induction_hypothesis =>
      rcases run_command keeps_answers shown kept readable (asked command List.mem_cons_self) with
        ⟨between, done, between_shown⟩
      have distinct := keeps_answers.distinct kept
      have others := keepsAddons_setPoolRanges distinct (command.written config.poolRanges)
      have still_kept := keeps_answers.ranges kept (command.written config.poolRanges)
      have still_readable := ofAnswers_setPoolRanges distinct readable
        (command.written config.poolRanges)
      have isolation_elsewhere : isolationKey ≠ addonsKey := by decide
      have rest := induction_hypothesis between_shown
        (by rwa [Function.update_self])
        (by rwa [Function.update_self, Function.update_of_ne isolation_elsewhere])
        (fun other member => asked other (List.mem_cons_of_mem command member))
      rw [Function.update_self, Function.update_of_ne isolation_elsewhere] at rest
      rcases rest with
        ⟨after, addons, ranges, rest_done, after_shown, rest_others, final_readable, last⟩
      rw [Function.update_idem] at after_shown
      refine ⟨after, addons, ranges, ?_, after_shown, others.trans rest_others, final_readable, ?_⟩
      · rw [runHistory, List.mapM_cons, run_bind, done, run_bind]
        change (.ok true :: (runHistory engine history between).1,
          (runHistory engine history between).2) = _
        rw [rest_done]
        rfl
      · intro name
        rw [last name, lastEffect?_cons, command.stored_written]
        cases lastEffect? history name <;> rfl

/-- What a history of commands does to what is stored. -/
structure ChangesRangesAlone (engine : Engine Host) (host : Host) (config : IsolationConfig)
    (history : List RangeCommand) : Prop where
  all_succeed : (runHistory engine history host).1 = history.map fun _ => .ok true
  /-- The last command with an effect on a range decides it. -/
  last_decides : ∃ ranges, (engine.loadConfig (runHistory engine history host).2).1 =
      .ok { config with poolRanges := ranges } ∧
    ∀ name : RangeName, name.stored ranges =
      (lastEffect? history name).getD (name.stored config.poolRanges)
  /-- The buckets under other keys, and with them the isolation bucket, are as they were. -/
  keeps_buckets : ∀ key, validateKey key = .ok () → key ≠ addonsKey →
    (engine.store.load key (runHistory engine history host).2).1 = (engine.store.load key host).1
  keeps_addons : ∃ before after, (engine.store.load addonsKey host).1 = .ok before ∧
    (engine.store.load addonsKey (runHistory engine history host).2).1 = .ok after ∧
    KeepsAddons before after
  /-- Commands next to each other that concern different ranges may change places. -/
  may_swap : ∀ front first second back, history = front ++ first :: second :: back →
    (∀ name, first.effect? name = none ∨ second.effect? name = none) →
    (engine.loadConfig (runHistory engine (front ++ second :: first :: back) host).2).1 =
      (engine.loadConfig (runHistory engine history host).2).1

/--
On a store that keeps answers, from which a configuration is loaded, every command that asks
for something succeeds, whatever texts it is given.  After any history of such commands each
range is what the last effect on it made of it, and nothing else that is stored is changed.
-/
theorem run_history_changes_ranges_alone
    (keeps_answers : KeepsAnswers engine.store keeps shows) (shown : shows host answers)
    (kept : keeps (answers addonsKey)) (loads : (engine.loadConfig host).1 = .ok config)
    {history : List RangeCommand}
    (asked : ∀ command ∈ history, command.choices.isEmpty = false) :
    ChangesRangesAlone engine host config history := by
  have load_of_shows : ∀ {state answers}, shows state answers → ∀ {key},
      validateKey key = .ok () → (engine.store.load key state).1 = .ok (answers key) := by
    intro state answers shown key valid
    rcases keeps_answers.load shown valid with ⟨after, loaded, -⟩
    rw [loaded]
  have readable : IsolationConfig.ofAnswers (answers isolationKey) (answers addonsKey) =
      .ok config := by
    rcases loadConfig_of_shows keeps_answers shown with ⟨after, loaded, -⟩
    rw [loaded] at loads
    exact mapError_eq_ok.mp loads
  -- Whatever the history, its outcome is read off the answers that are shown after it.
  have outcome : ∀ history : List RangeCommand,
      (∀ command ∈ history, command.choices.isEmpty = false) →
      ∃ after addons ranges, runHistory engine history host =
          (history.map fun _ => .ok true, after) ∧
        shows after (Function.update answers addonsKey addons) ∧
        KeepsAddons (answers addonsKey) addons ∧
        (engine.loadConfig after).1 = .ok { config with poolRanges := ranges } ∧
        ∀ name : RangeName, name.stored ranges =
          (lastEffect? history name).getD (name.stored config.poolRanges) := by
    intro history asked
    rcases run_history keeps_answers shown kept readable asked with
      ⟨after, addons, ranges, done, after_shown, others, final_readable, last⟩
    refine ⟨after, addons, ranges, done, after_shown, others, ?_, last⟩
    rcases loadConfig_of_shows keeps_answers after_shown with ⟨_, loaded, -⟩
    have isolation_elsewhere : isolationKey ≠ addonsKey := by decide
    rw [loaded, Function.update_self, Function.update_of_ne isolation_elsewhere, final_readable,
      mapError_ok]
  rcases outcome history asked with ⟨after, addons, ranges, done, after_shown, others, loaded, last⟩
  constructor
  · rw [done]
  · rw [done]
    exact ⟨ranges, loaded, last⟩
  · intro key valid different
    rw [done, load_of_shows after_shown valid, load_of_shows shown valid,
      Function.update_of_ne different]
  · refine ⟨answers addonsKey, addons, load_of_shows shown valid_addonsKey, ?_, others⟩
    rw [done, load_of_shows after_shown valid_addonsKey, Function.update_self]
  · rintro front first second back rfl disjoint
    have swapped_asked : ∀ command ∈ front ++ second :: first :: back,
        command.choices.isEmpty = false := by
      intro command member
      refine asked command ?_
      simp only [List.mem_append, List.mem_cons] at member ⊢
      tauto
    rcases outcome _ swapped_asked with
      ⟨swapped, -, swapped_ranges, swapped_done, -, -, swapped_loaded, swapped_last⟩
    have same : swapped_ranges = ranges := by
      refine ranges_ext ?_
      intro name
      rw [swapped_last, last, lastEffect?_swap disjoint]
    rw [done, swapped_done, swapped_loaded, loaded, same]

end

/-- A host without files, programs and an environment. -/
def emptyHost : Host where
  files := .none
  environment := []
  programs := []
  now := .ofTime "now"

/-- Add-ons with a variable that holds no range, between ranges of which one is `null`. -/
def mixedAddons : Bucket :=
  [("region", .nat 3), (addonsSectionName, .object [(sharedVariable, .string "10.0.0.0/24"),
    ("metallb", .bool true), (publicVariable, .null)])]

/-- The range of the public pool is set and blanked, and a clearing comes between. -/
theorem run_history_changes_ranges_alone_of_saved_addons :
    let engine : Engine Host := ⟨(⟨"store"⟩ : Layout).store Host.filesPart (.ofTime "now"), {}⟩
    let host := (engine.store.save addonsKey mixedAddons emptyHost).2
    let history : List RangeCommand := [⟨⟨some " 10.1.0.1 ", none, some "", false⟩, true⟩,
      ⟨⟨none, none, none, true⟩, false⟩, ⟨⟨some "\n", some "10.2.0.0/16", none, false⟩, false⟩,
      ⟨⟨none, none, some "10.3.0.0/16\t", false⟩, true⟩]
    (engine.loadConfig host).1 = .ok ⟨false, [], ⟨none, none, some "10.0.0.0/24"⟩⟩ ∧
      (∀ command ∈ history, command.choices.isEmpty = false) ∧
      ChangesRangesAlone engine host ⟨false, [], ⟨none, none, some "10.0.0.0/24"⟩⟩ history := by
  intro engine host history
  rcases exists_isFresh_new_directory with ⟨made, fresh⟩
  have keeps_answers := keepsAnswers_files fresh (.ofTime "now")
  have storable : IsStorable mixedAddons := by
    refine ⟨⟨by decide, trivial, ⟨by decide, trivial, trivial, trivial, trivial⟩, trivial⟩, ?_⟩
    rfl
  have nothing_shown : ShowsDocuments ⟨"store"⟩ .none emptyHost fun _ => [] :=
    ⟨.empty, .inl ⟨rfl, rfl⟩, fun _ => rfl⟩
  rcases keeps_answers.save nothing_shown valid_addonsKey storable with ⟨after, saved, shown⟩
  have is_host : host = after := congrArg Prod.snd saved
  have loads : (engine.loadConfig host).1 =
      .ok ⟨false, [], ⟨none, none, some "10.0.0.0/24"⟩⟩ := by
    have answered : ∃ later, engine.loadConfig after = (_, later) ∧ _ :=
      loadConfig_of_shows keeps_answers shown
    rcases answered with ⟨_, loaded, -⟩
    rw [is_host, loaded]
    rfl
  have asked : ∀ command ∈ history, command.choices.isEmpty = false := by decide
  rw [is_host] at loads ⊢
  refine ⟨loads, asked, run_history_changes_ranges_alone keeps_answers shown ?_ loads asked⟩
  rw [Function.update_self]
  exact storable

end NetworkIsolation.CommandLine
