import NetworkIsolation.Proofs.Json.RoundTrip

/-!
# Values that come from a text

A value that has been read has no more open brackets than there was room for,
has no two entries of one name in an object, has whole numbers in the range
that is kept exactly, and has doubles that have been rounded to.  So of its
numbers only the doubles can fail to be read back.
-/

namespace NetworkIsolation.Json

open NetworkIsolation.Decimal

/-! ## Numbers -/

theorem absorbDigits_le {limit start : Nat} (within_limit : start ≤ limit) (digits : List Char) :
    (absorbDigits limit start digits).1 ≤ limit := by
  induction digits generalizing start with
  | nil => exact within_limit
  | cons digit digits induction_hypothesis =>
      simp only [absorbDigits]
      split
      · rename_i longer
        exact induction_hypothesis longer
      · exact within_limit

theorem significand_le (text : NumberText) : text.significand.1 ≤ maxInteger := by
  simp only [NumberText.significand]
  exact absorbDigits_le (absorbDigits_le (Nat.zero_le _) _) _

/-- A double that is read has been rounded to a magnitude. -/
theorem isRepresentable_of_double? {text : NumberText} {unread units : Nat}
    (read : text.double? unread = .ok units) : Double.IsRepresentable units := by
  simp only [NumberText.double?] at read
  split at read
  · split at read
    · rename_i found
      cases read
      exact Double.isRepresentable_of_scaledUnits? found
    · cases read
  · split at read
    · split at read
      · cases read
      · cases read
        exact Double.isRepresentable_zero
    · split at read
      · rename_i found
        cases read
        exact Double.isRepresentable_of_scaledUnits? found
      · cases read

theorem isKept_of_double {text : NumberText} {unread : Nat} {negative : Bool} {number : Number}
    (read : (match text.double? unread with
      | .ok units => .ok (.double ⟨negative, units⟩)
      | .error unread => .error ⟨.malformed .numberOutOfRange, unread⟩ : Except Fault Number) =
        .ok number) : number.IsKept := by
  split at read
  · rename_i found
    cases read
    exact isRepresentable_of_double? found
  · cases read

theorem isKept_of_toNumber {text : NumberText} {negative : Bool} {rest : List Char}
    {number : Number} (read : text.toNumber negative rest = .ok number) : number.IsKept := by
  have digits_le := significand_le text
  simp only [NumberText.toNumber] at read
  by_cases whole : (text.isWhole && decide (text.significand.2 = 0)) = true
  · rw [if_pos whole] at read
    cases negative with
    | false =>
        cases read
        exact ⟨by omega, by exact_mod_cast digits_le⟩
    | true =>
        by_cases out_of_range :
            (decide (text.significand.1 = 0) || decide (maxNegated < text.significand.1)) = true
        · simp only [out_of_range] at read
          exact isKept_of_double read
        · simp only [out_of_range] at read
          cases read
          simp at out_of_range
          exact ⟨by omega, by omega⟩
  · rw [if_neg whole] at read
    exact isKept_of_double read

theorem isKept_of_scanNumber {negative : Bool} {text rest : List Char} {number : Number}
    (read : scanNumber negative text = .ok (number, rest)) : number.IsKept := by
  rw [scanNumber, bind_eq_ok] at read
  rcases read with ⟨⟨written, behind⟩, -, read⟩
  rw [bind_eq_ok] at read
  rcases read with ⟨found, converted, read⟩
  cases read
  exact isKept_of_toNumber converted

/-! ## Lists and objects -/

theorem forall_of_scanItems {α : Type} {item : List Char → Except Fault (α × List Char)}
    {holds : α → Prop} (each : ∀ text value rest, item text = .ok (value, rest) → holds value)
    {fuel : Nat} {first : Bool} {text rest : List Char} {values : List α}
    (scanned : scanItems item fuel first text = .ok (values, rest)) :
    ∀ value ∈ values, holds value := by
  induction fuel generalizing first text values rest with
  | zero => cases scanned
  | succ fuel induction_hypothesis =>
      rw [scanItems, bind_eq_ok] at scanned
      rcases scanned with ⟨⟨more, next⟩, -, scanned⟩
      cases more with
      | false =>
          cases scanned
          intro value member
          cases member
      | true =>
          simp only [if_true, bind_eq_ok] at scanned
          rcases scanned with ⟨⟨head, behind⟩, head_read, ⟨tail, final⟩, tail_read, same⟩
          cases same
          intro value member
          rcases List.mem_cons.mp member with rfl | later
          · exact each _ _ _ head_read
          · exact induction_hypothesis tail_read value later

theorem forall_of_scanList {α : Type} {item : List Char → Except Fault (α × List Char)}
    {holds : α → Prop} (each : ∀ text value rest, item text = .ok (value, rest) → holds value)
    {text rest : List Char} {values : List α} (scanned : scanList item text = .ok (values, rest)) :
    ∀ value ∈ values, holds value := by
  simp only [scanList, bind_eq_ok] at scanned
  rcases scanned with ⟨⟨found, behind⟩, items_read, final, -, same⟩
  cases same
  exact forall_of_scanItems each items_read

theorem invariant_of_scanEntries {σ : Type}
    {entry : σ → String → List Char → Except Fault (σ × List Char)} {invariant : σ → Prop}
    (each : ∀ state name text after rest, invariant state →
      entry state name text = .ok (after, rest) → invariant after)
    {fuel : Nat} {first : Bool} {start final : σ} {text rest : List Char}
    (holds : invariant start)
    (scanned : scanEntries entry fuel first start text = .ok (final, rest)) :
    invariant final := by
  induction fuel generalizing first start text with
  | zero => cases scanned
  | succ fuel induction_hypothesis =>
      rw [scanEntries, bind_eq_ok] at scanned
      rcases scanned with ⟨⟨more, next⟩, -, scanned⟩
      cases more with
      | false =>
          cases scanned
          exact holds
      | true =>
          simp only [if_true, bind_eq_ok] at scanned
          rcases scanned with ⟨⟨name, behind⟩, -, ⟨state, later⟩, entry_read, scanned⟩
          exact induction_hypothesis (each _ _ _ _ _ holds entry_read) scanned

theorem invariant_of_scanObject {σ : Type}
    {entry : σ → String → List Char → Except Fault (σ × List Char)} {invariant : σ → Prop}
    (each : ∀ state name text after rest, invariant state →
      entry state name text = .ok (after, rest) → invariant after)
    {start final : σ} {text rest : List Char} (holds : invariant start)
    (scanned : scanObject entry start text = .ok (final, rest)) : invariant final := by
  simp only [scanObject, bind_eq_ok] at scanned
  rcases scanned with ⟨⟨found, behind⟩, entries_read, after, -, same⟩
  cases same
  exact invariant_of_scanEntries each holds entries_read

/-! ## Values -/

namespace Value

/-- What is known of a value that was read with room for the given number of brackets. -/
structure WasRead (room : Nat) (value : Value) : Prop where
  fits : value.depth ≤ room
  distinct : value.HasDistinctNames
  kept : ∀ number ∈ value.numbers, number.IsKept

theorem wasRead_array {room : Nat} {items : List Value}
    (each : ∀ item ∈ items, item.WasRead room) : (Value.array items).WasRead (room + 1) := by
  induction items with
  | nil =>
      constructor
      · simp [depth, depthOfItems]
      · trivial
      · simp [numbers, numbersOfItems]
  | cons item items induction_hypothesis =>
      have head := each item List.mem_cons_self
      have rest := induction_hypothesis fun other member =>
        each other (List.mem_cons_of_mem _ member)
      have rest_fits : depthOfItems items ≤ room := by simpa [depth] using rest.fits
      constructor
      · exact Nat.add_le_add_right (Nat.max_le.mpr ⟨head.fits, rest_fits⟩) 1
      · exact ⟨head.distinct, rest.distinct⟩
      · intro number member
        rcases List.mem_append.mp member with in_head | in_rest
        · exact head.kept number in_head
        · exact rest.kept number in_rest

theorem wasRead_object {room : Nat} {entries : List (String × Value)}
    (names : (entries.map Prod.fst).Nodup) (each : ∀ entry ∈ entries, entry.2.WasRead room) :
    (Value.object entries).WasRead (room + 1) := by
  induction entries with
  | nil =>
      constructor
      · simp [depth, depthOfEntries]
      · exact ⟨names, trivial⟩
      · simp [numbers, numbersOfEntries]
  | cons entry entries induction_hypothesis =>
      rcases entry with ⟨name, value⟩
      have head : value.WasRead room := each (name, value) List.mem_cons_self
      have rest := induction_hypothesis (List.nodup_cons.mp names).2 fun other member =>
        each other (List.mem_cons_of_mem _ member)
      have rest_fits : depthOfEntries entries ≤ room := by simpa [depth] using rest.fits
      constructor
      · exact Nat.add_le_add_right (Nat.max_le.mpr ⟨head.fits, rest_fits⟩) 1
      · exact ⟨names, head.distinct, rest.distinct.2⟩
      · intro number member
        rcases List.mem_append.mp member with in_head | in_rest
        · exact head.kept number in_head
        · exact rest.kept number in_rest

/-- What a bucket is while its entries are being read. -/
def WereRead (room : Nat) (entries : Bucket) : Prop :=
  (entries.map Prod.fst).Nodup ∧ ∀ entry ∈ entries, entry.2.WasRead room

theorem WereRead.insert {room : Nat} {entries : Bucket} (were_read : WereRead room entries)
    (name : String) {value : Value} (was_read : value.WasRead room) :
    WereRead room (entries.insert name value) := by
  refine ⟨Entries.nodup_names_insert were_read.1 name value, ?_⟩
  intro entry member
  rcases Entries.mem_insert member with written | kept
  · rw [written]
    exact was_read
  · exact were_read.2 entry kept

theorem wasRead_number (room : Nat) {kept : Number} (is_kept : kept.IsKept) :
    (Value.number kept).WasRead room := by
  refine ⟨Nat.zero_le room, trivial, ?_⟩
  intro number member
  rw [List.mem_singleton.mp member]
  exact is_kept

theorem WasRead.mono {room larger : Nat} {value : Value} (was_read : value.WasRead room)
    (le : room ≤ larger) : value.WasRead larger :=
  ⟨Nat.le_trans was_read.fits le, was_read.distinct, was_read.kept⟩

/-- A value that is read has no brackets, or is read within one pair of them. -/
theorem read_cases {room : Nat} {text rest : List Char} {value : Value}
    (found : read room text = .ok (value, rest)) :
    value.WasRead 0 ∨ ∃ inner, room = inner + 1 ∧
      ((∃ body items, scanList (fun text => read inner text) body = .ok (items, rest) ∧
          value = .array items) ∨
        ∃ body entries, scanObject (readEntry inner) [] body = .ok (entries, rest) ∧
          value = .object entries) := by
  unfold read at found
  split at found
  · cases found
  · rename_i character others _
    by_cases is_null : character = 'n'
    · rw [if_pos is_null] at found
      rcases bind_eq_ok.mp found with ⟨behind, -, same⟩
      cases same
      exact .inl ⟨Nat.le_refl 0, trivial, by simp [numbers]⟩
    rw [if_neg is_null] at found
    by_cases is_true : character = 't'
    · rw [if_pos is_true] at found
      rcases bind_eq_ok.mp found with ⟨behind, -, same⟩
      cases same
      exact .inl ⟨Nat.le_refl 0, trivial, by simp [numbers]⟩
    rw [if_neg is_true] at found
    by_cases is_false : character = 'f'
    · rw [if_pos is_false] at found
      rcases bind_eq_ok.mp found with ⟨behind, -, same⟩
      cases same
      exact .inl ⟨Nat.le_refl 0, trivial, by simp [numbers]⟩
    rw [if_neg is_false] at found
    by_cases is_minus : character = '-'
    · rw [if_pos is_minus] at found
      rcases bind_eq_ok.mp found with ⟨⟨kept, behind⟩, scanned, same⟩
      cases same
      exact .inl (wasRead_number 0 (isKept_of_scanNumber scanned))
    rw [if_neg is_minus] at found
    by_cases is_digit : character.isDigit = true
    · rw [if_pos is_digit] at found
      rcases bind_eq_ok.mp found with ⟨⟨kept, behind⟩, scanned, same⟩
      cases same
      exact .inl (wasRead_number 0 (isKept_of_scanNumber scanned))
    rw [if_neg is_digit] at found
    by_cases is_quote : character = '"'
    · rw [if_pos is_quote] at found
      rcases bind_eq_ok.mp found with ⟨⟨kept, behind⟩, -, same⟩
      cases same
      exact .inl ⟨Nat.le_refl 0, trivial, by simp [numbers]⟩
    rw [if_neg is_quote] at found
    by_cases is_list : character = '['
    · rw [if_pos is_list] at found
      cases room with
      | zero => cases found
      | succ inner =>
          rcases bind_eq_ok.mp found with ⟨⟨items, behind⟩, scanned, same⟩
          cases same
          exact .inr ⟨inner, rfl, .inl ⟨others, items, scanned, rfl⟩⟩
    rw [if_neg is_list] at found
    by_cases is_object : character = '{'
    · rw [if_pos is_object] at found
      cases room with
      | zero => cases found
      | succ inner =>
          rcases bind_eq_ok.mp found with ⟨⟨entries, behind⟩, scanned, same⟩
          cases same
          exact .inr ⟨inner, rfl, .inr ⟨others, entries, scanned, rfl⟩⟩
    rw [if_neg is_object] at found
    cases found

/-- Every value that is read is in order. -/
theorem wasRead_of_read {room : Nat} {text rest : List Char} {value : Value}
    (found : read room text = .ok (value, rest)) : value.WasRead room := by
  induction room generalizing text rest value with
  | zero =>
      rcases read_cases found with scalar | ⟨inner, impossible, -⟩
      · exact scalar
      · cases impossible
  | succ room induction_hypothesis =>
      rcases read_cases found with scalar | ⟨inner, same, list | object⟩
      · exact scalar.mono (Nat.zero_le _)
      · cases same
        rcases list with ⟨body, items, scanned, rfl⟩
        apply wasRead_array
        exact forall_of_scanList (fun text value rest => induction_hypothesis) scanned
      · cases same
        rcases object with ⟨body, entries, scanned, rfl⟩
        have each : ∀ state name text after rest, WereRead room state →
            readEntry room state name text = .ok (after, rest) → WereRead room after := by
          intro state name text after rest were_read entry_read
          simp only [readEntry, bind_eq_ok] at entry_read
          rcases entry_read with ⟨behind, -, ⟨value, final⟩, value_read, same⟩
          cases same
          exact were_read.insert name (induction_hypothesis value_read)
        have nothing : WereRead room [] := by
          refine ⟨List.nodup_nil, ?_⟩
          intro entry member
          cases member
        have final := invariant_of_scanObject each nothing scanned
        exact wasRead_object final.1 final.2

/-- A text that is parsed holds a value that is in order, within the nesting limit. -/
theorem wasRead_of_parse {text : String} {value : Value} (parsed : parse text = .ok value) :
    value.WasRead maxNesting := by
  rw [parse, mapError_eq_ok] at parsed
  rcases bind_eq_ok.mp parsed with ⟨⟨found, rest⟩, value_read, parsed⟩
  rcases bind_eq_ok.mp parsed with ⟨_, -, same⟩
  cases same
  exact wasRead_of_read value_read

end Value

end NetworkIsolation.Json
