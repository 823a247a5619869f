import NetworkIsolation.Json.Parser
import NetworkIsolation.Proofs.Json.Doubles
import NetworkIsolation.Proofs.Json.Strings
import NetworkIsolation.Proofs.Results

/-!
# Printed lists that are scanned

The printer puts each item of an array and each entry of an object on a line of
its own.  If every item, or every value of an entry, is read from where it is
printed, then the whole list is scanned, whatever it is that reads the items.
The induction is over the items that come after a comma.
-/

namespace NetworkIsolation.Json

/-! ## Blanks -/

theorem skipSpace_of_no_space {text : List Char} (no_space : text.head?.any isSpace = false) :
    skipSpace text = text := by
  cases text with
  | nil => rfl
  | cons character rest =>
      have not_space : isSpace character = false := by simpa using no_space
      simp [skipSpace, not_space]

theorem skipSpace_breakLine (level : Nat) (text : List Char) :
    skipSpace (Value.breakLine level ++ text) = skipSpace text := by
  have blanks : ∀ character ∈ Value.breakLine level, isSpace character = true := by
    intro character member
    rcases List.mem_cons.mp member with rfl | indentation
    · rfl
    · rw [List.eq_of_mem_replicate indentation]
      rfl
  exact List.dropWhile_append_of_pos blanks

theorem skipSpace_space (text : List Char) : skipSpace (' ' :: text) = skipSpace text := rfl

theorem endsNumber_breakLine (level : Nat) (text : List Char) :
    endsNumber (Value.breakLine level ++ text) = true := rfl

namespace Value

/-! ## The first character of a value -/

/-- The characters that a printed value may begin with. -/
def beginsValue (character : Char) : Bool :=
  character.isDigit || ['n', 't', 'f', '-', '"', '[', '{'].contains character

theorem beginsValue_no_space {character : Char} (begins : beginsValue character = true) :
    isSpace character = false ∧ character ≠ ']' ∧ character ≠ '}' := by
  refine ⟨?_, ?_, ?_⟩
  · by_cases space : isSpace character = true
    · simp only [isSpace, Bool.or_eq_true, decide_eq_true_eq] at space
      rcases space with ((rfl | rfl) | rfl) | rfl <;> cases begins
    · simpa using space
  · rintro rfl
    cases begins
  · rintro rfl
    cases begins

theorem chars_begins (number : Number) :
    ∃ first rest, number.chars = first :: rest ∧ beginsValue first = true := by
  rcases exists_text number with ⟨negative, text, proper, written⟩
  cases negative with
  | true => exact ⟨'-', text.chars, by rw [written]; rfl, rfl⟩
  | false =>
      rcases head_chars proper with ⟨digit, rest, chars, is_digit⟩
      refine ⟨digit, rest, ?_, ?_⟩
      · rw [written, chars]
        rfl
      · simp [beginsValue, is_digit]

theorem prettyChars_begins (level : Nat) (value : Value) :
    ∃ first rest, prettyChars level value = first :: rest ∧ beginsValue first = true := by
  cases value with
  | null => exact ⟨'n', _, rfl, rfl⟩
  | bool value =>
      cases value with
      | true => exact ⟨'t', _, rfl, rfl⟩
      | false => exact ⟨'f', _, rfl, rfl⟩
  | number number => exact chars_begins number
  | string value => exact ⟨'"', _, rfl, rfl⟩
  | array items =>
      cases items with
      | nil => exact ⟨'[', _, rfl, rfl⟩
      | cons item items => exact ⟨'[', _, rfl, rfl⟩
  | object entries =>
      cases entries with
      | nil => exact ⟨'{', _, rfl, rfl⟩
      | cons entry entries => exact ⟨'{', _, rfl, rfl⟩

theorem skipSpace_prettyChars (level : Nat) (value : Value) (rest : List Char) :
    skipSpace (prettyChars level value ++ rest) = prettyChars level value ++ rest := by
  rcases prettyChars_begins level value with ⟨first, others, printed, begins⟩
  apply skipSpace_of_no_space
  rw [printed]
  simpa using (beginsValue_no_space begins).1

theorem prettyChars_array_append (level : Nat) (item : Value) (items : List Value)
    (rest : List Char) :
    prettyChars level (.array (item :: items)) ++ rest =
      '[' :: (prettyItems (level + 1) (item :: items) ++ (breakLine level ++ ']' :: rest)) := by
  simp [prettyChars]

theorem prettyChars_object_append (level : Nat) (entry : String × Value)
    (entries : List (String × Value)) (rest : List Char) :
    prettyChars level (.object (entry :: entries)) ++ rest =
      '{' :: (prettyEntries (level + 1) (entry :: entries) ++
        (breakLine level ++ '}' :: rest)) := by
  simp [prettyChars]

/-! ## Items and entries behind a comma -/

/-- The items of an array that come after a comma. -/
def laterItems (level : Nat) : List Value → List Char
  | [] => []
  | items => ',' :: prettyItems level items

/-- The entries of an object that come after a comma. -/
def laterEntries (level : Nat) : List (String × Value) → List Char
  | [] => []
  | entries => ',' :: prettyEntries level entries

theorem prettyItems_cons (level : Nat) (item : Value) (items : List Value) :
    prettyItems level (item :: items) =
      breakLine level ++ (prettyChars level item ++ laterItems level items) := by
  cases items with
  | nil => simp [prettyItems, laterItems]
  | cons next items => simp [prettyItems, laterItems]

theorem prettyEntries_cons (level : Nat) (name : String) (value : Value)
    (entries : List (String × Value)) :
    prettyEntries level ((name, value) :: entries) =
      breakLine level ++ (stringChars name ++
        ':' :: ' ' :: (prettyChars level value ++ laterEntries level entries)) := by
  cases entries with
  | nil => simp [prettyEntries, laterEntries]
  | cons next entries => simp [prettyEntries, laterEntries]

theorem endsNumber_laterItems (level : Nat) (items : List Value) {rest : List Char}
    (ends : endsNumber rest = true) : endsNumber (laterItems level items ++ rest) = true := by
  cases items with
  | nil => exact ends
  | cons item items => rfl

theorem endsNumber_laterEntries (level : Nat) (entries : List (String × Value))
    {rest : List Char} (ends : endsNumber rest = true) :
    endsNumber (laterEntries level entries ++ rest) = true := by
  cases entries with
  | nil => exact ends
  | cons entry entries => rfl

/-- The first item of an array is found behind the line break. -/
theorem moreItems_first (level : Nat) (item : Value) (items : List Value) (rest : List Char) :
    moreItems true (prettyItems level (item :: items) ++ rest) =
      .ok (true, prettyChars level item ++ (laterItems level items ++ rest)) := by
  rcases prettyChars_begins level item with ⟨first, others, printed, begins⟩
  rcases beginsValue_no_space begins with ⟨-, no_bracket, -⟩
  rw [moreItems, prettyItems_cons, List.append_assoc, skipSpace_breakLine, List.append_assoc,
    skipSpace_prettyChars, printed, List.cons_append]
  split
  · contradiction
  · rename_i same
    cases same
    exact absurd rfl no_bracket
  · rename_i same
    cases same
    rfl

theorem moreItems_comma {first : Char} {others rest : List Char}
    (found : skipSpace rest = first :: others) (no_bracket : first ≠ ']') :
    moreItems false (',' :: rest) = .ok (true, first :: others) := by
  have comma : skipSpace (',' :: rest) = ',' :: rest := rfl
  rw [moreItems, comma]
  split
  · contradiction
  · rename_i bracket
    cases bracket
  · rename_i same
    cases same
    rw [if_neg Bool.false_ne_true, if_pos rfl, found]
    split
    · contradiction
    · rename_i bracket
      cases bracket
      exact absurd rfl no_bracket
    · rfl

/-- A further item is found behind the comma and the line break. -/
theorem moreItems_later (level : Nat) (item : Value) (items : List Value) (rest : List Char) :
    moreItems false (laterItems level (item :: items) ++ rest) =
      .ok (true, prettyChars level item ++ (laterItems level items ++ rest)) := by
  rcases prettyChars_begins level item with ⟨first, others, printed, begins⟩
  have found : skipSpace (prettyItems level (item :: items) ++ rest) =
      first :: (others ++ (laterItems level items ++ rest)) := by
    rw [prettyItems_cons, List.append_assoc, skipSpace_breakLine, List.append_assoc,
      skipSpace_prettyChars, printed, List.cons_append]
  rw [printed, List.cons_append]
  exact moreItems_comma found (beginsValue_no_space begins).2.1

/-- No item is found in front of the closing bracket. -/
theorem moreItems_end (first : Bool) {tail rest : List Char}
    (closes : skipSpace tail = ']' :: rest) : moreItems first tail = .ok (false, ']' :: rest) := by
  rw [moreItems, closes]
  rfl

/-- What scanning the items of an array gives when there is an item in front. -/
theorem scanItems_step {α : Type} {item : List Char → Except Fault (α × List Char)}
    {first : Bool} {text next : List Char} (more : moreItems first text = .ok (true, next))
    (fuel : Nat) :
    (scanItems item (fuel + 1) first text).toOption =
      (item next).toOption.bind fun head =>
        (scanItems item fuel false head.2).toOption.map fun tail =>
          (head.1 :: tail.1, tail.2) := by
  rw [scanItems, more]
  simp only [toOption_bind, toOption_ok, Option.bind_some, if_true, toOption_pure,
    Option.map_eq_bind]
  rfl

theorem scanItems_stop {α : Type} {item : List Char → Except Fault (α × List Char)}
    {first : Bool} {text next : List Char} (more : moreItems first text = .ok (false, next))
    (fuel : Nat) : scanItems item (fuel + 1) first text = .ok ([], next) := by
  rw [scanItems, more]
  rfl

/-! ## Entries -/

theorem skipSpace_prettyEntries (level : Nat) (name : String) (value : Value)
    (entries : List (String × Value)) (rest : List Char) :
    skipSpace (prettyEntries level ((name, value) :: entries) ++ rest) =
      stringChars name ++
        (':' :: ' ' :: (prettyChars level value ++ (laterEntries level entries ++ rest))) := by
  rw [prettyEntries_cons, List.append_assoc, skipSpace_breakLine]
  simp only [List.append_assoc, List.cons_append]
  rfl

theorem moreEntries_first (level : Nat) (name : String) (value : Value)
    (entries : List (String × Value)) (rest : List Char) :
    moreEntries true (prettyEntries level ((name, value) :: entries) ++ rest) =
      .ok (true, stringChars name ++
        (':' :: ' ' :: (prettyChars level value ++ (laterEntries level entries ++ rest)))) := by
  rw [moreEntries, skipSpace_prettyEntries]
  rfl

theorem moreEntries_later (level : Nat) (name : String) (value : Value)
    (entries : List (String × Value)) (rest : List Char) :
    moreEntries false (laterEntries level ((name, value) :: entries) ++ rest) =
      .ok (true, stringChars name ++
        (':' :: ' ' :: (prettyChars level value ++ (laterEntries level entries ++ rest)))) := by
  have comma : skipSpace (laterEntries level ((name, value) :: entries) ++ rest) =
      ',' :: (prettyEntries level ((name, value) :: entries) ++ rest) := rfl
  rw [moreEntries, comma]
  split
  · contradiction
  · rename_i brace
    cases brace
  · rename_i same
    cases same
    rw [if_neg Bool.false_ne_true, if_pos rfl, skipSpace_prettyEntries]
    rfl

theorem moreEntries_end (first : Bool) {tail rest : List Char}
    (closes : skipSpace tail = '}' :: rest) :
    moreEntries first tail = .ok (false, '}' :: rest) := by
  rw [moreEntries, closes]
  rfl

/-- What scanning the entries of an object gives when there is an entry in front. -/
theorem scanEntries_step {σ : Type}
    {entry : σ → String → List Char → Except Fault (σ × List Char)} {first : Bool}
    {text after : List Char} {name : String}
    (more : moreEntries first text = .ok (true, stringChars name ++ after)) (fuel : Nat)
    (state : σ) :
    (scanEntries entry (fuel + 1) first state text).toOption =
      (entry state name after).toOption.bind fun head =>
        (scanEntries entry fuel false head.1 head.2).toOption := by
  have unquoted : (stringChars name ++ after).drop 1 =
      name.toList.flatMap escapeChar ++ '"' :: after := by
    rw [stringChars_append, List.drop_one, List.tail_cons]
  rw [scanEntries, more]
  simp only [toOption_bind, toOption_ok, Option.bind_some, if_true]
  rw [unquoted, scanString_escaped]
  rfl

theorem scanEntries_stop {σ : Type}
    {entry : σ → String → List Char → Except Fault (σ × List Char)} {first : Bool}
    {text next : List Char} (more : moreEntries first text = .ok (false, next)) (fuel : Nat)
    (state : σ) : scanEntries entry (fuel + 1) first state text = .ok (state, next) := by
  rw [scanEntries, more]
  rfl

theorem length_le_laterItems (level : Nat) (items : List Value) :
    items.length ≤ (laterItems level items).length := by
  induction items with
  | nil => exact Nat.zero_le _
  | cons item items induction_hypothesis =>
      change items.length + 1 ≤ (',' :: prettyItems level (item :: items)).length
      rw [prettyItems_cons]
      simp only [List.length_cons, List.length_append]
      omega

theorem length_le_laterEntries (level : Nat) (entries : List (String × Value)) :
    entries.length ≤ (laterEntries level entries).length := by
  induction entries with
  | nil => exact Nat.zero_le _
  | cons entry entries induction_hypothesis =>
      rcases entry with ⟨name, value⟩
      change entries.length + 1 ≤ (',' :: prettyEntries level ((name, value) :: entries)).length
      rw [prettyEntries_cons]
      simp only [List.length_cons, List.length_append]
      omega

theorem scanList_of_items {α : Type} {item : List Char → Except Fault (α × List Char)}
    {text rest : List Char} {values : Option (List α)}
    (scanned : (scanItems item (text.length + 1) true text).toOption =
      values.map fun read => (read, ']' :: rest)) :
    (scanList item text).toOption = values.map fun read => (read, rest) := by
  simp only [scanList, toOption_bind, scanned]
  cases values <;> rfl

theorem scanObject_of_entries {σ : Type}
    {entry : σ → String → List Char → Except Fault (σ × List Char)} {start : σ}
    {text rest : List Char} {final : Option σ}
    (scanned : (scanEntries entry (text.length + 1) true start text).toOption =
      final.map fun read => (read, '}' :: rest)) :
    (scanObject entry start text).toOption = final.map fun read => (read, rest) := by
  simp only [scanObject, toOption_bind, scanned]
  cases final <;> rfl

/-! ## Lists of any form

`later` is the text of the items that come after a comma, with everything behind them, and
`text` is what the reader of an item is given.
-/

section

variable {ι α σ : Type} {rest whole : List Char} {fuel : Nat}

theorem scanItems_later {item : List Char → Except Fault (α × List Char)}
    {expected : ι → Option α} {later : List ι → List Char} {text : ι → List Char → List Char}
    {items : List ι}
    (more : ∀ value others, moreItems false (later (value :: others)) =
      .ok (true, text value (later others)))
    (stops : moreItems false (later []) = .ok (false, ']' :: rest))
    (reads : ∀ value ∈ items, ∀ others, (item (text value (later others))).toOption =
      (expected value).map fun found => (found, later others))
    (enough : items.length < fuel) :
    (scanItems item fuel false (later items)).toOption =
      (items.mapM expected).map fun found => (found, ']' :: rest) := by
  induction items generalizing fuel with
  | nil =>
      cases fuel with
      | zero => cases enough
      | succ fuel =>
          rw [scanItems_stop stops]
          rfl
  | cons value items induction_hypothesis =>
      cases fuel with
      | zero => cases enough
      | succ fuel =>
          rw [List.forall_mem_cons] at reads
          have tail := induction_hypothesis reads.2 (Nat.lt_of_succ_lt_succ enough)
          rw [scanItems_step (more value items), reads.1 items, Option.bind_map, List.mapM_cons]
          cases expected value with
          | none => rfl
          | some found =>
              simp only [Option.bind_some, Function.comp_apply, tail]
              cases items.mapM expected <;> rfl

/-- A list is scanned if its first item is found and each of its items is read. -/
theorem scanItems_whole {item : List Char → Except Fault (α × List Char)}
    {expected : ι → Option α} {later : List ι → List Char} {text : ι → List Char → List Char}
    {value : ι} {items : List ι}
    (first : moreItems true whole = .ok (true, text value (later items)))
    (more : ∀ value others, moreItems false (later (value :: others)) =
      .ok (true, text value (later others)))
    (stops : moreItems false (later []) = .ok (false, ']' :: rest))
    (reads : ∀ other ∈ value :: items, ∀ others, (item (text other (later others))).toOption =
      (expected other).map fun found => (found, later others))
    (enough : items.length < fuel) :
    (scanItems item (fuel + 1) true whole).toOption =
      ((value :: items).mapM expected).map fun found => (found, ']' :: rest) := by
  rw [List.forall_mem_cons] at reads
  have tail := scanItems_later more stops reads.2 enough
  rw [scanItems_step first, reads.1 items, Option.bind_map, List.mapM_cons]
  cases expected value with
  | none => rfl
  | some found =>
      simp only [Option.bind_some, Function.comp_apply, tail]
      cases items.mapM expected <;> rfl

variable {entry : σ → String → List Char → Except Fault (σ × List Char)}
  {expected : σ → String × ι → Option σ} {later : List (String × ι) → List Char}
  {text : ι → List Char → List Char}

theorem scanEntries_later {entries : List (String × ι)}
    (more : ∀ name value others, moreEntries false (later ((name, value) :: others)) =
      .ok (true, stringChars name ++ text value (later others)))
    (stops : moreEntries false (later []) = .ok (false, '}' :: rest))
    (reads : ∀ name value, (name, value) ∈ entries → ∀ state others,
      (entry state name (text value (later others))).toOption =
        (expected state (name, value)).map fun found => (found, later others))
    (enough : entries.length < fuel) (state : σ) :
    (scanEntries entry fuel false state (later entries)).toOption =
      (entries.foldlM expected state).map fun found => (found, '}' :: rest) := by
  induction entries generalizing fuel state with
  | nil =>
      cases fuel with
      | zero => cases enough
      | succ fuel =>
          rw [scanEntries_stop stops]
          rfl
  | cons first entries induction_hypothesis =>
      cases fuel with
      | zero => cases enough
      | succ fuel =>
          rcases first with ⟨name, value⟩
          rw [scanEntries_step (more name value entries), reads name value List.mem_cons_self,
            Option.bind_map, List.foldlM_cons]
          cases expected state (name, value) with
          | none => rfl
          | some found =>
              exact induction_hypothesis
                (fun other kept member => reads other kept (List.mem_cons_of_mem _ member))
                (Nat.lt_of_succ_lt_succ enough) found

theorem scanEntries_whole {name : String} {value : ι} {entries : List (String × ι)}
    (first : moreEntries true whole = .ok (true, stringChars name ++ text value (later entries)))
    (more : ∀ name value others, moreEntries false (later ((name, value) :: others)) =
      .ok (true, stringChars name ++ text value (later others)))
    (stops : moreEntries false (later []) = .ok (false, '}' :: rest))
    (reads : ∀ other kept, (other, kept) ∈ (name, value) :: entries → ∀ state others,
      (entry state other (text kept (later others))).toOption =
        (expected state (other, kept)).map fun found => (found, later others))
    (enough : entries.length < fuel) (state : σ) :
    (scanEntries entry (fuel + 1) true state whole).toOption =
      (((name, value) :: entries).foldlM expected state).map
        fun found => (found, '}' :: rest) := by
  rw [scanEntries_step first, reads name value List.mem_cons_self, Option.bind_map,
    List.foldlM_cons]
  cases expected state (name, value) with
  | none => rfl
  | some found =>
      exact scanEntries_later more stops
        (fun other kept member => reads other kept (List.mem_cons_of_mem _ member)) enough found

end

/-! ## Whole lists -/

/-- From every line of a printed array, the reader gives what is expected of the item. -/
def ReadsItems {α : Type} (item : List Char → Except Fault (α × List Char))
    (expected : Value → Option α) (level : Nat) (items : List Value) : Prop :=
  ∀ value ∈ items, ∀ rest, endsNumber rest = true →
    (item (prettyChars level value ++ rest)).toOption =
      (expected value).map fun found => (found, rest)

/-- From every line of a printed object, the reader makes the change expected of the entry. -/
def ReadsEntries {σ : Type} (entry : σ → String → List Char → Except Fault (σ × List Char))
    (expected : σ → String × Value → Option σ) (level : Nat)
    (entries : List (String × Value)) : Prop :=
  ∀ name value, (name, value) ∈ entries → ∀ state rest, endsNumber rest = true →
    (entry state name (':' :: ' ' :: (prettyChars level value ++ rest))).toOption =
      (expected state (name, value)).map fun found => (found, rest)

section

variable {α σ : Type} {level : Nat} {tail rest : List Char}

/-- A printed array is scanned if each of its items is read. -/
theorem scanList_prettyItems {item : List Char → Except Fault (α × List Char)}
    {expected : Value → Option α} {value : Value} {items : List Value}
    (reads : ReadsItems item expected level (value :: items)) (ends : endsNumber tail = true)
    (closes : skipSpace tail = ']' :: rest) :
    (scanList item (prettyItems level (value :: items) ++ tail)).toOption =
      ((value :: items).mapM expected).map fun found => (found, rest) := by
  have enough : items.length < (prettyItems level (value :: items) ++ tail).length := by
    have shorter := length_le_laterItems level items
    rw [prettyItems_cons]
    simp only [List.length_append, breakLine, List.length_cons]
    omega
  let later (items : List Value) : List Char := laterItems level items ++ tail
  let text (value : Value) (after : List Char) : List Char := prettyChars level value ++ after
  have reads_later : ∀ other ∈ value :: items, ∀ others,
      (item (text other (later others))).toOption =
        (expected other).map fun found => (found, later others) :=
    fun other member others => reads other member _ (endsNumber_laterItems level others ends)
  apply scanList_of_items
  exact scanItems_whole (moreItems_first level value items tail)
    (fun value others => moreItems_later level value others tail) (moreItems_end false closes)
    reads_later enough

/-- The entries of a printed object are scanned up to its brace if each of them is read. -/
theorem scanEntries_prettyEntries
    {entry : σ → String → List Char → Except Fault (σ × List Char)}
    {expected : σ → String × Value → Option σ} {first : String × Value}
    {entries : List (String × Value)} (reads : ReadsEntries entry expected level (first :: entries))
    (ends : endsNumber tail = true) (closes : skipSpace tail = '}' :: rest) (state : σ) :
    (scanEntries entry ((prettyEntries level (first :: entries) ++ tail).length + 1) true state
      (prettyEntries level (first :: entries) ++ tail)).toOption =
      ((first :: entries).foldlM expected state).map fun found => (found, '}' :: rest) := by
  rcases first with ⟨name, value⟩
  have enough :
      entries.length < (prettyEntries level ((name, value) :: entries) ++ tail).length := by
    have shorter := length_le_laterEntries level entries
    rw [prettyEntries_cons]
    simp only [List.length_append, breakLine, List.length_cons]
    omega
  let later (entries : List (String × Value)) : List Char := laterEntries level entries ++ tail
  let text (value : Value) (after : List Char) : List Char :=
    ':' :: ' ' :: (prettyChars level value ++ after)
  have reads_later : ∀ other kept, (other, kept) ∈ (name, value) :: entries → ∀ state others,
      (entry state other (text kept (later others))).toOption =
        (expected state (other, kept)).map fun found => (found, later others) :=
    fun other kept member state others =>
      reads other kept member state _ (endsNumber_laterEntries level others ends)
  exact scanEntries_whole (moreEntries_first level name value entries tail)
    (fun name value others => moreEntries_later level name value others tail)
    (moreEntries_end false closes) reads_later enough state

end

end Value

end NetworkIsolation.Json
