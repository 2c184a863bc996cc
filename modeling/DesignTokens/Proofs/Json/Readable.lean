import DesignTokens.Proofs.Json.Numbers

/-!
Documents that can be read. A readable document holds each key of an object once, nests no deeper
than it may, and its integers fit sixty-four bits. Whether it can be written and read again then
only depends on its doubles.
-/

namespace DesignTokens.Json

/-! ### Values -/

/-- The items of a list, or the values of an object. -/
def values : Json → List Json
  | .array items => items
  | .object fields => fields.map Prod.snd
  | _ => []

theorem sizeOf_value {j v : Json} (h : v ∈ j.values) : sizeOf v < sizeOf j := by
  cases j with
  | array items =>
    have hlt : sizeOf v < sizeOf items := List.sizeOf_lt_of_mem h
    rw [Json.array.sizeOf_spec]
    omega
  | object fields =>
    obtain ⟨p, hp, rfl⟩ := List.mem_map.mp h
    have hlt : sizeOf p < sizeOf fields := List.sizeOf_lt_of_mem hp
    rw [Prod.mk.sizeOf_spec] at hlt
    rw [Json.object.sizeOf_spec]
    omega
  | _ => cases h

/-- What holds of a document when it holds of its values holds of every document. -/
theorem inductionOnValues {motive : Json → Prop}
    (node : ∀ j, (∀ v ∈ j.values, motive v) → motive j) (j : Json) : motive j :=
  node j fun v _ => inductionOnValues node v
termination_by sizeOf j
decreasing_by exact sizeOf_value ‹_›

/-! ### Numbers -/

mutual

/-- The numbers of a document in order. -/
def numbers : Json → List JsonNumber
  | .number n => [n]
  | .array items => numbersOfItems items
  | .object fields => numbersOfFields fields
  | _ => []

/-- The numbers of items. -/
def numbersOfItems : List Json → List JsonNumber
  | [] => []
  | item :: items => item.numbers ++ numbersOfItems items

/-- The numbers of the values of fields. -/
def numbersOfFields : List (Text × Json) → List JsonNumber
  | [] => []
  | (_, value) :: fields => value.numbers ++ numbersOfFields fields

end

theorem numbersOfItems_eq (items : List Json) : numbersOfItems items = items.flatMap numbers := by
  induction items with
  | nil => rfl
  | cons item items ih => rw [numbersOfItems, ih, List.flatMap_cons]

theorem numbersOfFields_eq (fields : List (Text × Json)) :
    numbersOfFields fields = fields.flatMap (·.2.numbers) := by
  induction fields with
  | nil => rfl
  | cons field fields ih => rw [numbersOfFields, ih, List.flatMap_cons]

theorem mem_numbers_array {items : List Json} {n : JsonNumber} :
    n ∈ (array items).numbers ↔ ∃ item ∈ items, n ∈ item.numbers := by
  rw [numbers, numbersOfItems_eq, List.mem_flatMap]

theorem mem_numbers_object {fields : List (Text × Json)} {n : JsonNumber} :
    n ∈ (object fields).numbers ↔ ∃ p ∈ fields, n ∈ p.2.numbers := by
  rw [numbers, numbersOfFields_eq, List.mem_flatMap]

/-! ### Documents that are read -/

mutual

/-- The document may be what a text with room for so many levels is read as. -/
def Readable (levels : Nat) : Json → Prop
  | .number n => n.InRange
  | .array items => levels ≠ 0 ∧ ItemsReadable (levels - 1) items
  | .object fields =>
    levels ≠ 0 ∧ (Assoc.keys fields).Nodup ∧ FieldsReadable (levels - 1) fields
  | _ => True

/-- Every item is readable. -/
def ItemsReadable (levels : Nat) : List Json → Prop
  | [] => True
  | item :: items => item.Readable levels ∧ ItemsReadable levels items

/-- Every value of the fields is readable. -/
def FieldsReadable (levels : Nat) : List (Text × Json) → Prop
  | [] => True
  | (_, value) :: fields => value.Readable levels ∧ FieldsReadable levels fields

end

theorem itemsReadable_iff {levels : Nat} (items : List Json) :
    ItemsReadable levels items ↔ ∀ item ∈ items, item.Readable levels := by
  induction items with
  | nil => simp [ItemsReadable]
  | cons item items ih => rw [ItemsReadable, ih, List.forall_mem_cons]

theorem fieldsReadable_iff {levels : Nat} (fields : List (Text × Json)) :
    FieldsReadable levels fields ↔ ∀ p ∈ fields, p.2.Readable levels := by
  induction fields with
  | nil => simp [FieldsReadable]
  | cons field fields ih => rw [FieldsReadable, ih, List.forall_mem_cons]

theorem readable_array {levels : Nat} {items : List Json} :
    (array items).Readable levels ↔
      levels ≠ 0 ∧ ∀ item ∈ items, item.Readable (levels - 1) := by
  rw [Readable, itemsReadable_iff]

theorem readable_object {levels : Nat} {fields : List (Text × Json)} :
    (object fields).Readable levels ↔
      levels ≠ 0 ∧ (Assoc.keys fields).Nodup ∧ ∀ p ∈ fields, p.2.Readable (levels - 1) := by
  rw [Readable, fieldsReadable_iff]

/-- The integers of a readable document fit. -/
theorem Readable.inRange {levels : Nat} {j : Json} (h : j.Readable levels) {n : JsonNumber}
    (hn : n ∈ j.numbers) : n.InRange := by
  induction j using inductionOnValues generalizing levels with
  | node j ih =>
    cases j with
    | number m =>
      obtain rfl : n = m := by simpa [numbers] using hn
      exact h
    | array items =>
      obtain ⟨item, hitem, hn⟩ := mem_numbers_array.mp hn
      exact ih item hitem ((readable_array.mp h).2 item hitem) hn
    | object fields =>
      obtain ⟨p, hp, hn⟩ := mem_numbers_object.mp hn
      exact ih p.2 (List.mem_map_of_mem hp) ((readable_object.mp h).2.2 p hp) hn
    | _ => cases hn

/-- All numbers of a readable document are read back if its doubles are. -/
theorem Readable.readsBack {levels : Nat} {j : Json} (h : j.Readable levels)
    (hdoubles : ∀ x, .double x ∈ j.numbers → (JsonNumber.double x).ReadsBack) {n : JsonNumber}
    (hn : n ∈ j.numbers) : n.ReadsBack := by
  cases n with
  | integer i => exact JsonNumber.readsBack_integer (h.inRange hn)
  | double x => exact hdoubles x hn

end DesignTokens.Json
