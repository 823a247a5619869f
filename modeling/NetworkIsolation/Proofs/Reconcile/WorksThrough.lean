import NetworkIsolation.Proofs.Backend.Recording
import NetworkIsolation.Reconcile.Step

/-!
# Working through a list

Both reconcilers work through lists until something fails.  What a backend answers to an
item says whether it failed, what is kept about it, and which events there were.  A list
that is worked through is answered item by item, all of it or up to the first failure.

Loops may be nested, and a loop may leave items out.  An item of the outer loop is then
worth a list of items, and the loops are one walk through these lists one after the other.
-/

namespace NetworkIsolation.Reconcile

open NetworkIsolation.Backend

/-- What the answers to items mean. -/
structure Answering (κ α ο ε : Type) where
  item : α → κ
  failure : α → Option String
  outcomes : α → List ο
  events : α → List ε

/-- All items were answered and none failed, or the last of those that were answered failed. -/
inductive WorksThrough {κ α ο ε : Type} (answering : Answering κ α ο ε) :
    List κ → Option String × List ο → List ε → Prop where
  | all (answers : List α) (fine : ∀ answer ∈ answers, answering.failure answer = none) :
      WorksThrough answering (answers.map answering.item)
        (none, answers.flatMap answering.outcomes) (answers.flatMap answering.events)
  | stopped (answers : List α) (fine : ∀ answer ∈ answers, answering.failure answer = none)
      (last : α) (reason : String) (fails : answering.failure last = some reason)
      (untouched : List κ) :
      WorksThrough answering (answers.map answering.item ++ answering.item last :: untouched)
        (some reason, answers.flatMap answering.outcomes ++ answering.outcomes last)
        (answers.flatMap answering.events ++ answering.events last)

section

variable {κ α ο ε : Type} {answering : Answering κ α ο ε} {items : List κ}
  {outcomes : List ο} {events : List ε}

theorem worksThrough_nil : WorksThrough answering [] (none, []) [] :=
  .all [] (by simp)

theorem worksThrough_one (answering : Answering κ α ο ε) (answer : α) :
    WorksThrough answering [answering.item answer]
      (answering.failure answer, answering.outcomes answer) (answering.events answer) := by
  cases failure : answering.failure answer with
  | none =>
      have all : WorksThrough answering _ _ _ := .all [answer] (by simpa using failure)
      simpa using all
  | some reason =>
      exact .stopped [] (by simp) answer reason failure []

/-- Where a list was worked through, it is gone on with the next one. -/
theorem WorksThrough.append {further : List κ} {failure : Option String} {more : List ο}
    {rest : List ε} (early : WorksThrough answering items (none, outcomes) events)
    (late : WorksThrough answering further (failure, more) rest) :
    WorksThrough answering (items ++ further) (failure, outcomes ++ more) (events ++ rest) := by
  cases early with
  | all answers fine =>
      have both : ∀ others : List α, (∀ answer ∈ others, answering.failure answer = none) →
          ∀ answer ∈ answers ++ others, answering.failure answer = none := by
        intro others others_fine answer member
        exact (List.mem_append.mp member).elim (fine answer) (others_fine answer)
      cases late with
      | all others others_fine =>
          have all := WorksThrough.all (answers ++ others) (both others others_fine)
          rwa [List.map_append, List.flatMap_append, List.flatMap_append] at all
      | stopped others others_fine last reason fails untouched =>
          have stopped := WorksThrough.stopped (answers ++ others) (both others others_fine)
            last reason fails untouched
          rwa [List.map_append, List.flatMap_append, List.flatMap_append, List.append_assoc,
            List.append_assoc, List.append_assoc] at stopped

/-- After a failure nothing that comes later is touched. -/
theorem WorksThrough.leave {reason : String}
    (early : WorksThrough answering items (some reason, outcomes) events) (further : List κ) :
    WorksThrough answering (items ++ further) (some reason, outcomes) events := by
  cases early with
  | stopped answers fine last reason fails untouched =>
      rw [List.append_assoc, List.cons_append]
      exact .stopped answers fine last reason fails (untouched ++ further)

/-- Every event belongs to the answer to an item of the list. -/
theorem WorksThrough.exists_answer {result : Option String × List ο}
    (works : WorksThrough answering items result events) {event : ε} (member : event ∈ events) :
    ∃ answer, answering.item answer ∈ items ∧ event ∈ answering.events answer := by
  cases works with
  | all answers fine =>
      rcases List.mem_flatMap.mp member with ⟨answer, answered, inside⟩
      exact ⟨answer, List.mem_map_of_mem answered, inside⟩
  | stopped answers fine last reason fails untouched =>
      rcases List.mem_append.mp member with early | inside
      · rcases List.mem_flatMap.mp early with ⟨answer, answered, inside⟩
        exact ⟨answer, List.mem_append_left _ (List.mem_map_of_mem answered), inside⟩
      · exact ⟨last, List.mem_append_right _ List.mem_cons_self, inside⟩

/-- Where nothing failed, every item was answered. -/
theorem WorksThrough.exists_answer_to
    (works : WorksThrough answering items (none, outcomes) events) {item : κ}
    (member : item ∈ items) :
    ∃ answer, answering.item answer = item ∧ answering.events answer ⊆ events := by
  cases works with
  | all answers fine =>
      rcases List.mem_map.mp member with ⟨answer, answered, same⟩
      exact ⟨answer, same, fun event inside => List.mem_flatMap.mpr ⟨answer, answered, inside⟩⟩

end

/-- A loop whose items are each worth a list works through these lists. -/
theorem records_untilFailure {σ ι κ α ο ε : Type} {answering : Answering κ α ο ε}
    {traced : ι → StateM (Traced σ ε) (Option String × List ο)}
    {plain : ι → StateM σ (Option String × List ο)} {worth : ι → List κ}
    (each : ∀ item, Traced.Records (traced item) (plain item) (WorksThrough answering (worth item)))
    (items : List ι) :
    Traced.Records (untilFailure traced items) (untilFailure plain items)
      (WorksThrough answering (items.flatMap worth)) := by
  induction items with
  | nil => exact Traced.records_pure worksThrough_nil
  | cons item items induction_hypothesis =>
      refine (each item).bind ?_
      rintro ⟨failure, outcomes⟩ events worked
      cases failure with
      | some reason =>
          refine Traced.records_pure ?_
          rw [List.append_nil]
          exact worked.leave _
      | none =>
          refine induction_hypothesis.bind ?_
          rintro ⟨failure, further⟩ rest others
          refine Traced.records_pure ?_
          rw [List.append_nil]
          exact worked.append others

end NetworkIsolation.Reconcile
