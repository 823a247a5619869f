import NetworkIsolation.Configuration.Ranges
import NetworkIsolation.Proofs.Text.Pieces

/-!
# Lists of addresses

A range is split at its commas, and the pieces are trimmed.  A comma is not blank, so blank
characters at the ends of a range belong to its first and last piece, and a range that was
trimmed when it was resolved has the addresses of the range that was given.  A text that is
trimmed, not empty and without a comma is its own only address, so addresses with commas
between them are found again.
-/

namespace NetworkIsolation.Configuration

open NetworkIsolation.Text

/-- Whether a text can be an address of a list. -/
structure IsAddress (address : String) : Prop where
  nonempty : address ≠ ""
  no_comma : ',' ∉ address.toList
  trimmed : IsTrimmed address.toList

section

variable {address range : String}

theorem isAddress_of_mem (among : address ∈ addressList range) : IsAddress address := by
  rcases List.mem_map.mp among with ⟨piece, is_piece, rfl⟩
  rcases of_mem_trimmedPieces is_piece with ⟨something, no_comma, trimmed⟩
  constructor
  · rwa [Ne, ← String.toList_eq_nil_iff, String.toList_ofList]
  · rwa [String.toList_ofList]
  · rwa [String.toList_ofList]

theorem addressList_append (first second : String) :
    addressList (first ++ "," ++ second) = addressList first ++ addressList second := by
  have characters : (first ++ "," ++ second).toList = first.toList ++ ',' :: second.toList := by
    simp
  rw [addressList, characters, trimmedPieces_append, List.map_append]
  rfl

theorem addressList_trim (range : String) : addressList (trim range) = addressList range := by
  rw [addressList, trim, String.toList_ofList, trimmedPieces_trimChars rfl]
  rfl

theorem addressList_of_isAddress (is_address : IsAddress address) :
    addressList address = [address] := by
  have something : address.toList ≠ [] := by
    rw [Ne, String.toList_eq_nil_iff]
    exact is_address.nonempty
  rw [addressList, trimmedPieces_of_not_mem is_address.no_comma,
    trimChars_of_isTrimmed is_address.trimmed, if_neg something, List.map_singleton,
    String.ofList_toList]

theorem addressList_intercalate {addresses : List String}
    (are_addresses : ∀ address ∈ addresses, IsAddress address) :
    addressList (",".intercalate addresses) = addresses := by
  induction addresses with
  | nil => rfl
  | cons address rest induction_hypothesis =>
      have alone := addressList_of_isAddress (are_addresses address List.mem_cons_self)
      by_cases last : rest = []
      · rw [last, String.intercalate_singleton, alone]
      · rw [String.intercalate_cons_of_ne_nil last, addressList_append, alone,
          induction_hypothesis]
        · rfl
        · intro other member
          exact are_addresses other (List.mem_cons_of_mem address member)

end

/-! ## Addresses of resolved ranges -/

namespace PoolRanges

/-- The range that was given for a role itself. -/
def own (ranges : PoolRanges) : PoolRole → Option String
  | .publicSide => ranges.publicRange
  | .internalSide => ranges.internalRange

/-- The range, as it was given, that a role is resolved to: its own one, or else the shared one. -/
def chosen (ranges : PoolRanges) (role : PoolRole) : Option String :=
  let visible (range : String) : Bool := !isAllBlank range
  ((ranges.own role).filter visible).or (ranges.sharedRange.filter visible)

end PoolRanges

theorem givenRange_eq (range? : Option String) :
    givenRange range? = (range?.filter fun range => !isAllBlank range).map trim := by
  cases range? with
  | none => rfl
  | some range =>
      rw [givenRange, Option.bind_some, nonBlank, Option.filter_some, isAllBlank]
      cases (trim range).isEmpty <;> rfl

theorem get_resolve_eq (ranges : PoolRanges) (role : PoolRole) :
    (ranges.resolve true).get role = (ranges.chosen role).map trim := by
  have resolved : (ranges.resolve true).get role =
      (givenRange (ranges.own role)).or (givenRange ranges.sharedRange) := by
    cases role <;> rfl
  rw [resolved, givenRange_eq, givenRange_eq, ← Option.map_or]
  rfl

/-- What a function that splits ranges has to do to tell their addresses. -/
structure SplitsAddresses (split : String → List String) : Prop where
  addresses : ∀ range, ∀ address ∈ split range, IsAddress address
  append : ∀ first second, split (first ++ "," ++ second) = split first ++ split second
  trimmed : ∀ range, split (trim range) = split range
  resolved : ∀ (ranges : PoolRanges) (role : PoolRole),
    ((ranges.resolve true).get role).map split = (ranges.chosen role).map split
  joined : ∀ addresses : List String, (∀ address ∈ addresses, IsAddress address) →
    split (",".intercalate addresses) = addresses

theorem splitsAddresses_addressList : SplitsAddresses addressList where
  addresses _ _ among := isAddress_of_mem among
  append := addressList_append
  trimmed := addressList_trim
  resolved ranges role := by
    have same : addressList ∘ trim = addressList := by
      funext range
      rw [Function.comp_apply, addressList_trim]
    rw [get_resolve_eq, Option.map_map, same]
  joined _ := addressList_intercalate

example : addressList " 10.0.0.1-10.0.0.9,\t,\u00a010.1.0.0/24 , " =
    ["10.0.0.1-10.0.0.9", "10.1.0.0/24"] := by decide

end NetworkIsolation.Configuration
