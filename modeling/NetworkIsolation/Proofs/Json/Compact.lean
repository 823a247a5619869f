import NetworkIsolation.Proofs.Json.NumberTexts
import NetworkIsolation.Proofs.Json.PrettyLists
import NetworkIsolation.Proofs.Json.Shape

/-!
# Compact texts tell values apart

Two values with the same compact text are the same, entries and their order included, if
their numbers are told apart by their texts.  Whole numbers and doubles are; a value as
such may hold other numbers, which stand for no double.

What is shown is more: the texts tell the values apart wherever they stand, as long as
nothing behind them goes on with a number.  Then both texts end at the same place.  The
first character says of which kind a value is, strings and numbers are told apart since
they are scanned from their texts, and a list is told apart item by item at its commas.
The induction is over the value, its items and its entries.
-/

namespace NetworkIsolation.Json

/-! ## Texts that tell apart -/

/-- Where the texts of two things go on alike, the things are the same and so is what follows. -/
def AreTold {α : Type} (print : α → List Char) (first second : α) : Prop :=
  ∀ rest further : List Char, endsNumber rest = true → endsNumber further = true →
    print first ++ rest = print second ++ further → first = second ∧ rest = further

theorem eq_of_stringChars_append {first second : String} {rest further : List Char}
    (same : stringChars first ++ rest = stringChars second ++ further) :
    first = second ∧ rest = further := by
  rw [stringChars_append, stringChars_append] at same
  have scanned := scanString_escaped first rest
  rw [(List.cons.inj same).2, scanString_escaped second further] at scanned
  cases scanned
  exact ⟨rfl, rfl⟩

/-! ## Lists with commas -/

section

variable {α : Type} {print : α → List Char}

/-- What is printed for the items of a list that come after a comma. -/
def behindCommas (print : α → List Char) (items : List α) : List Char :=
  items.flatMap fun item => ',' :: print item

/-- Items with commas in between. -/
def withCommas (print : α → List Char) : List α → List Char
  | [] => []
  | item :: items => print item ++ behindCommas print items

theorem endsNumber_behindCommas (items : List α) {rest : List Char}
    (ends : endsNumber rest = true) : endsNumber (behindCommas print items ++ rest) = true := by
  cases items with
  | nil => exact ends
  | cons item items => rfl

/-- Lists are told apart up to the character that closes them, if their items are. -/
theorem eq_of_behindCommas_append {closing : Char} (no_comma : closing ≠ ',')
    {items others : List α}
    (each : ∀ item ∈ items, ∀ other ∈ others, AreTold print item other) {rest further : List Char}
    (ends : ∀ text, endsNumber (closing :: text) = true)
    (same : behindCommas print items ++ closing :: rest =
      behindCommas print others ++ closing :: further) : items = others ∧ rest = further := by
  induction items generalizing others with
  | nil =>
      cases others with
      | nil => exact ⟨rfl, (List.cons.inj same).2⟩
      | cons other others => exact absurd (List.cons.inj same).1 no_comma
  | cons item items induction_hypothesis =>
      cases others with
      | nil => exact absurd (List.cons.inj same).1.symm no_comma
      | cons other others =>
          have behind : print item ++ (behindCommas print items ++ closing :: rest) =
              print other ++ (behindCommas print others ++ closing :: further) := by
            simpa [behindCommas] using same
          rcases each item List.mem_cons_self other List.mem_cons_self _ _
            (endsNumber_behindCommas items (ends rest))
            (endsNumber_behindCommas others (ends further)) behind with ⟨rfl, same_behind⟩
          rcases induction_hypothesis (fun one member two other_member =>
            each one (List.mem_cons_of_mem _ member) two (List.mem_cons_of_mem _ other_member))
            same_behind with ⟨rfl, same_rest⟩
          exact ⟨rfl, same_rest⟩

/-- Nothing that is printed for an item begins with the character. -/
def NeverBegins (print : α → List Char) (character : Char) : Prop :=
  ∀ item, ∃ first rest, print item = first :: rest ∧ first ≠ character

theorem eq_of_withCommas_append {closing : Char} (no_comma : closing ≠ ',')
    (never : NeverBegins print closing) {items others : List α}
    (each : ∀ item ∈ items, ∀ other ∈ others, AreTold print item other) {rest further : List Char}
    (ends : ∀ text, endsNumber (closing :: text) = true)
    (same : withCommas print items ++ closing :: rest =
      withCommas print others ++ closing :: further) : items = others ∧ rest = further := by
  cases items with
  | nil =>
      cases others with
      | nil => exact ⟨rfl, (List.cons.inj same).2⟩
      | cons other others =>
          rcases never other with ⟨first, text, printed, different⟩
          rw [withCommas, withCommas, printed] at same
          exact absurd (List.cons.inj same).1.symm different
  | cons item items =>
      cases others with
      | nil =>
          rcases never item with ⟨first, text, printed, different⟩
          rw [withCommas, withCommas, printed] at same
          exact absurd (List.cons.inj same).1 different
      | cons other others =>
          refine eq_of_behindCommas_append no_comma each ends ?_
          simpa [withCommas, behindCommas] using same

end

namespace Value

/-- How an entry of an object is printed. -/
def compactEntry (entry : String × Value) : List Char :=
  stringChars entry.1 ++ ':' :: compactChars entry.2

theorem compactItems_eq (items : List Value) :
    compactItems items = withCommas compactChars items := by
  induction items with
  | nil => rfl
  | cons item items induction_hypothesis =>
      cases items with
      | nil => simp [compactItems, withCommas, behindCommas]
      | cons next items =>
          rw [compactItems, induction_hypothesis]
          · simp [withCommas, behindCommas]
          · simp

theorem compactEntries_eq (entries : List (String × Value)) :
    compactEntries entries = withCommas compactEntry entries := by
  induction entries with
  | nil => rfl
  | cons entry entries induction_hypothesis =>
      rcases entry with ⟨name, value⟩
      cases entries with
      | nil => simp [compactEntries, withCommas, behindCommas, compactEntry]
      | cons next entries =>
          rw [compactEntries, induction_hypothesis]
          · simp [withCommas, behindCommas, compactEntry]
          · simp

/-- Entries are told apart, if their values are. -/
theorem areTold_compactEntry {first second : String × Value}
    (values : AreTold compactChars first.2 second.2) : AreTold compactEntry first second := by
  intro rest further ends other_ends same
  rcases first with ⟨name, value⟩
  rcases second with ⟨other, other_value⟩
  rw [compactEntry, compactEntry, List.append_assoc, List.append_assoc] at same
  rcases eq_of_stringChars_append same with ⟨rfl, same_value⟩
  rcases values rest further ends other_ends (List.cons.inj same_value).2 with
    ⟨same_value, same_rest⟩
  exact ⟨Prod.ext rfl same_value, same_rest⟩

/-! ## The kind of a value -/

/-- The kind of value that a character begins: digits begin numbers, as the minus sign does. -/
def kindMark (character : Char) : Char :=
  if character.isDigit then '-' else if character = 'f' then 't' else character

/-- The mark of a value's kind. -/
def mark : Value → Char
  | .null => 'n'
  | .bool _ => 't'
  | .number _ => '-'
  | .string _ => '"'
  | .array _ => '['
  | .object _ => '{'

theorem compactChars_begins (value : Value) :
    ∃ first rest, compactChars value = first :: rest ∧ kindMark first = value.mark := by
  cases value with
  | null => exact ⟨'n', _, rfl, rfl⟩
  | bool value =>
      cases value with
      | true => exact ⟨'t', _, rfl, rfl⟩
      | false => exact ⟨'f', _, rfl, rfl⟩
  | number number =>
      rcases exists_text number with ⟨negative, text, proper, written⟩
      cases negative with
      | true => exact ⟨'-', text.chars, written, rfl⟩
      | false =>
          rcases head_chars proper with ⟨digit, rest, chars, is_digit⟩
          refine ⟨digit, rest, written.trans chars, ?_⟩
          rw [kindMark, if_pos is_digit, mark]
  | string value => exact ⟨'"', _, rfl, rfl⟩
  | array items => exact ⟨'[', _, rfl, rfl⟩
  | object entries => exact ⟨'{', _, rfl, rfl⟩

theorem never_begins_bracket : NeverBegins compactChars ']' := by
  intro value
  rcases compactChars_begins value with ⟨first, rest, printed, marked⟩
  refine ⟨first, rest, printed, ?_⟩
  rintro rfl
  cases value <;> cases marked

theorem never_begins_brace : NeverBegins compactEntry '}' := by
  rintro ⟨name, value⟩
  exact ⟨'"', _, rfl, by decide⟩

/-- Texts that go on alike are of values of the same kind. -/
theorem mark_eq {first second : Value} {rest further : List Char}
    (same : compactChars first ++ rest = compactChars second ++ further) :
    first.mark = second.mark := by
  rcases compactChars_begins first with ⟨character, text, printed, marked⟩
  rcases compactChars_begins second with ⟨other_character, other_text, other_printed, other_marked⟩
  rw [printed, other_printed] at same
  rw [← marked, ← other_marked, (List.cons.inj same).1]

/-! ## Values -/

/-- Whether numbers of two lists are the same when their texts are. -/
def NumbersAreTold (first second : List Number) : Prop :=
  ∀ number ∈ first, ∀ other ∈ second, number.chars = other.chars → number = other

/-- Numbers that are kept are told apart. -/
theorem numbersAreTold_of_isKept {first second : List Number}
    (kept : ∀ number ∈ first, number.IsKept) (other_kept : ∀ number ∈ second, number.IsKept) :
    NumbersAreTold first second :=
  fun number member other other_member same =>
    (kept number member).eq_of_chars_eq (other_kept other other_member) same

theorem numbersOfItems_eq (items : List Value) : numbersOfItems items = items.flatMap numbers := by
  induction items with
  | nil => rfl
  | cons item items induction_hypothesis =>
      rw [numbersOfItems, induction_hypothesis, List.flatMap_cons]

theorem numbersOfEntries_eq (entries : List (String × Value)) :
    numbersOfEntries entries = entries.flatMap fun entry => entry.2.numbers := by
  induction entries with
  | nil => rfl
  | cons entry entries induction_hypothesis =>
      rcases entry with ⟨name, value⟩
      rw [numbersOfEntries, induction_hypothesis, List.flatMap_cons]

/-- Numbers that lists of things have are told only if those of the things are. -/
theorem NumbersAreTold.of_flatMap {α : Type} {numbers : α → List Number} {items others : List α}
    (told : NumbersAreTold (items.flatMap numbers) (others.flatMap numbers)) :
    ∀ item ∈ items, ∀ other ∈ others, NumbersAreTold (numbers item) (numbers other) :=
  fun item member other other_member number has other_number other_has =>
    told number (List.mem_flatMap.mpr ⟨item, member, has⟩) other_number
      (List.mem_flatMap.mpr ⟨other, other_member, other_has⟩)

/-- What holds of a value if it holds of all its parts holds of every value. -/
theorem inductionOnParts {holds : Value → Prop} (null : holds .null)
    (bool : ∀ value, holds (.bool value)) (number : ∀ number, holds (.number number))
    (string : ∀ text, holds (.string text))
    (array : ∀ items, (∀ item ∈ items, holds item) → holds (.array items))
    (object : ∀ entries, (∀ entry ∈ entries, holds entry.2) → holds (.object entries))
    (value : Value) : holds value :=
  @Value.rec holds (fun items => ∀ item ∈ items, holds item)
    (fun entries => ∀ entry ∈ entries, holds entry.2) (fun entry => holds entry.2)
    null bool number string array object
    (fun _ member => by cases member)
    (fun _ _ first rest => List.forall_mem_cons.mpr ⟨first, rest⟩)
    (fun _ member => by cases member)
    (fun _ _ first rest => List.forall_mem_cons.mpr ⟨first, rest⟩)
    (fun _ _ first => first) value

/-- Values are told apart by their compact texts, if their numbers are. -/
theorem areTold_compactChars (first second : Value)
    (told : NumbersAreTold first.numbers second.numbers) : AreTold compactChars first second := by
  induction first using inductionOnParts generalizing second with
  | null =>
      intro rest further ends other_ends same
      cases second with
      | null => exact ⟨rfl, by simpa [compactChars] using same⟩
      | _ => simpa [mark] using mark_eq same
  | bool value =>
      intro rest further ends other_ends same
      cases second with
      | bool other =>
          cases value with
          | true =>
              cases other with
              | true => exact ⟨rfl, by simpa [compactChars] using same⟩
              | false => simp [compactChars] at same
          | false =>
              cases other with
              | true => simp [compactChars] at same
              | false => exact ⟨rfl, by simpa [compactChars] using same⟩
      | _ => simpa [mark] using mark_eq same
  | number number =>
      intro rest further ends other_ends same
      cases second with
      | number other =>
          rcases eq_of_chars_append ends other_ends same with ⟨same_chars, same_rest⟩
          cases told number List.mem_cons_self other List.mem_cons_self same_chars
          exact ⟨rfl, same_rest⟩
      | _ => simpa [mark] using mark_eq same
  | string text =>
      intro rest further ends other_ends same
      cases second with
      | string other =>
          rcases eq_of_stringChars_append same with ⟨rfl, same_rest⟩
          exact ⟨rfl, same_rest⟩
      | _ => simpa [mark] using mark_eq same
  | array items each =>
      intro rest further ends other_ends same
      cases second with
      | array others =>
          rw [numbers, numbers, numbersOfItems_eq, numbersOfItems_eq] at told
          have behind : withCommas compactChars items ++ ']' :: rest =
              withCommas compactChars others ++ ']' :: further := by
            simpa [compactChars, compactItems_eq] using same
          rcases eq_of_withCommas_append (by decide) never_begins_bracket
            (fun item member other other_member => each item member other
              (told.of_flatMap item member other other_member)) (fun _ => rfl) behind
            with ⟨rfl, same_rest⟩
          exact ⟨rfl, same_rest⟩
      | _ => simpa [mark] using mark_eq same
  | object entries each =>
      intro rest further ends other_ends same
      cases second with
      | object others =>
          rw [numbers, numbers, numbersOfEntries_eq, numbersOfEntries_eq] at told
          have behind : withCommas compactEntry entries ++ '}' :: rest =
              withCommas compactEntry others ++ '}' :: further := by
            simpa [compactChars, compactEntries_eq] using same
          rcases eq_of_withCommas_append (by decide) never_begins_brace
            (fun entry member other other_member => areTold_compactEntry
              (each entry member other.2 (told.of_flatMap entry member other other_member)))
            (fun _ => rfl) behind with ⟨rfl, same_rest⟩
          exact ⟨rfl, same_rest⟩
      | _ => simpa [mark] using mark_eq same

/-- Values with the same compact text are the same, if their numbers are told apart. -/
theorem eq_of_compact_eq {first second : Value}
    (told : NumbersAreTold first.numbers second.numbers) (same : first.compact = second.compact) :
    first = second := by
  have same_chars : compactChars first = compactChars second := by
    have lists := congrArg String.toList same
    rwa [compact, compact, String.toList_ofList, String.toList_ofList] at lists
  exact (areTold_compactChars first second told [] [] rfl rfl (by rw [same_chars])).1

end Value

end NetworkIsolation.Json
