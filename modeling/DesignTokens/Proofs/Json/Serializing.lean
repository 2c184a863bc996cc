import DesignTokens.Json.Printer

/-!
Writing can fail in general. What a writer is handed may be a map whose keys are numbers, lists or
maps in their turn, and such a map cannot be written, as the keys of an object are texts:

    { 1: x }  ──▶  refused                 { "a": { [ ]: x } }  ──▶  refused

Documents are handed to the writer as data of this kind (`Json.toDatum`). All of their keys are
texts, so writing never fails on them, and gives the text that documents have (`write?_toDatum`).
-/

namespace DesignTokens

/-- What a writer is handed: like a document, with keys of any form. -/
inductive Datum where
  | null
  | bool (value : Bool)
  | number (value : JsonNumber)
  | string (value : Text)
  | list (items : List Datum)
  | map (entries : List (Datum × Datum))

/-- Why data cannot be written. -/
inductive WriteFault where
  /-- A key is no text. -/
  | keyIsNoText
  deriving DecidableEq

namespace Datum

/-- A key in quotes; only texts can be keys. -/
def writeKey? : Datum → Except WriteFault Text
  | .string t => .ok (Json.quote t)
  | _ => .error .keyIsNoText

mutual

/-- The data over several lines, at a nesting depth. -/
def writeAt? (depth : Nat) : Datum → Except WriteFault Text
  | .null => .ok "null"
  | .bool b => .ok (if b then "true" else "false")
  | .number n => .ok n.write
  | .string t => .ok (Json.quote t)
  | .list [] => .ok "[]"
  | .list items => do
    let inner ← writeItems? (depth + 1) items
    return '[' :: inner ++ Json.newLine depth ++ [']']
  | .map [] => .ok ['{', '}']
  | .map entries => do
    let inner ← writeEntries? (depth + 1) entries
    return '{' :: inner ++ Json.newLine depth ++ ['}']

/-- Items, each on a line of its own, with commas between them. -/
def writeItems? (depth : Nat) : List Datum → Except WriteFault Text
  | [] => .ok []
  | [item] => do
    let text ← item.writeAt? depth
    return Json.newLine depth ++ text
  | item :: items => do
    let text ← item.writeAt? depth
    let rest ← writeItems? depth items
    return Json.newLine depth ++ text ++ ',' :: rest

/-- Entries, each on a line of its own, with commas between them. -/
def writeEntries? (depth : Nat) : List (Datum × Datum) → Except WriteFault Text
  | [] => .ok []
  | [(key, value)] => do
    let name ← key.writeKey?
    let text ← value.writeAt? depth
    return Json.newLine depth ++ name ++ ": " ++ text
  | (key, value) :: entries => do
    let name ← key.writeKey?
    let text ← value.writeAt? depth
    let rest ← writeEntries? depth entries
    return Json.newLine depth ++ name ++ ": " ++ text ++ ',' :: rest

end

/-- The data over several lines, indented by two spaces. -/
def write? (d : Datum) : Except WriteFault Text := writeAt? 0 d

end Datum

namespace Json

mutual

/-- The document as a writer is handed it. -/
def toDatum : Json → Datum
  | .null => .null
  | .bool b => .bool b
  | .number n => .number n
  | .string t => .string t
  | .array items => .list (datumOfItems items)
  | .object fields => .map (datumOfFields fields)

/-- Items as a writer is handed them. -/
def datumOfItems : List Json → List Datum
  | [] => []
  | item :: items => item.toDatum :: datumOfItems items

/-- Fields as a writer is handed them. -/
def datumOfFields : List (Text × Json) → List (Datum × Datum)
  | [] => []
  | (key, value) :: fields => (.string key, value.toDatum) :: datumOfFields fields

end

mutual

theorem writeAt?_toDatum (depth : Nat) : ∀ j : Json,
    j.toDatum.writeAt? depth = .ok (j.prettyAt depth)
  | .null | .bool _ | .number _ | .string _ | .array [] | .object [] => rfl
  | .array (item :: items) => by
    have hinner := writeItems?_datumOfItems (depth + 1) (item :: items)
    rw [toDatum, Datum.writeAt?, hinner]
    · rfl
    · nofun
  | .object (field :: fields) => by
    have hinner := writeEntries?_datumOfFields (depth + 1) (field :: fields)
    rw [toDatum, Datum.writeAt?, hinner]
    · rfl
    · nofun

theorem writeItems?_datumOfItems (depth : Nat) : ∀ items : List Json,
    Datum.writeItems? depth (datumOfItems items) = .ok (prettyItems depth items)
  | [] => rfl
  | [item] => by
    rw [datumOfItems, datumOfItems, Datum.writeItems?, writeAt?_toDatum]
    rfl
  | item :: next :: items => by
    have hrest := writeItems?_datumOfItems depth (next :: items)
    rw [datumOfItems, Datum.writeItems?, writeAt?_toDatum, hrest]
    · rfl
    · nofun

theorem writeEntries?_datumOfFields (depth : Nat) : ∀ fields : List (Text × Json),
    Datum.writeEntries? depth (datumOfFields fields) = .ok (prettyFields depth fields)
  | [] => rfl
  | [(key, value)] => by
    rw [datumOfFields, datumOfFields, Datum.writeEntries?, writeAt?_toDatum]
    rfl
  | (key, value) :: next :: fields => by
    have hrest := writeEntries?_datumOfFields depth (next :: fields)
    rw [datumOfFields, Datum.writeEntries?, writeAt?_toDatum, hrest]
    · rfl
    · nofun

end

/-- Writing a document never fails, and gives its text. -/
theorem write?_toDatum (j : Json) : j.toDatum.write? = .ok j.pretty := writeAt?_toDatum 0 j

-- other data can be refused
example : (Datum.list [.map [(.number (.integer 1), .null)]]).write? = .error .keyIsNoText := rfl

end Json

end DesignTokens
