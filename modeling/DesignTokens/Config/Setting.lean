import DesignTokens.Json.Draft

/-!
Settings as trees. Both formats that settings are written in are first read into one tree, and the
structures are read from that. A structure is a table with a key for each field, or a list of the
fields in order; unknown keys are passed over, a known key that is written twice is refused, and
what is missing takes its default. A choice is a word, or a table with that word as its only key and
nothing behind it. The formats differ only in what counts as nothing and in whether a list may hold
more than the fields.
-/

namespace DesignTokens

/-- A tree of settings. -/
inductive Setting where
  | null
  | bool (value : Bool)
  | integer (value : Int)
  | text (value : Text)
  | list (items : List Setting)
  | table (entries : List (Text × Setting))
  /-- A date or a time, which stands for a table without any key that is known. -/
  | moment
  /-- A value that no setting takes. -/
  | other

/-- What sets a written format apart. -/
structure SettingFormat where
  /-- Whether a list may hold more items than a structure has fields. -/
  allowsSurplus : Bool
  /-- What counts as nothing behind the word of a choice. -/
  isNothing : Setting → Bool

namespace Setting

/-! ### Values -/

/-- A boolean. -/
def bool? : Setting → Option Bool
  | .bool b => some b
  | _ => none

/-- A text. -/
def text? : Setting → Option Text
  | .text t => some t
  | _ => none

/-- A natural below a bound. -/
def nat? (bound : Nat) : Setting → Option Nat
  | .integer (.ofNat n) => if n < bound then some n else none
  | _ => none

/-- A count of sixty-four bits. -/
def count? (s : Setting) : Option UInt64 := (s.nat? UInt64.size).map UInt64.ofNat

/-- A width of thirty-two bits. -/
def width? (s : Setting) : Option UInt32 := (s.nat? UInt32.size).map UInt32.ofNat

/-- A value that may be null. -/
def nullable? (read : Setting → Option α) : Setting → Option (Option α)
  | .null => some none
  | s => (read s).map some

/-- A list of values. -/
def list? (read : Setting → Option α) : Setting → Option (List α)
  | .list items => items.mapM read
  | _ => none

/-- One of the values that have a word. -/
def choice? (format : SettingFormat) (words : List (Text × α)) : Setting → Option α
  | .text t => words.lookup t
  | .table [(t, s)] => if format.isNothing s then words.lookup t else none
  | _ => none

/-! ### Structures -/

/-- The value of a key that may be there once; `none` if it is there more often. -/
def once? (entries : List (Text × Setting)) (key : Text) : Option (Option Setting) :=
  match entries.filter (·.1 = key) with
  | [] => some none
  | [(_, s)] => some (some s)
  | _ => none

/-- The values of the fields of a structure, in the order of their names. -/
def fields? (format : SettingFormat) (names : List Text) : Setting → Option (List (Option Setting))
  | .table entries => names.mapM (once? entries)
  | .list items =>
    if items.length ≤ names.length || format.allowsSurplus then
      some ((items.map some ++ List.replicate names.length none).take names.length)
    else none
  | .moment => some (names.map fun _ => none)
  | _ => none

/-- A field that takes a default when it is missing. -/
def orElse (missing : α) (read : Setting → Option α) : Option Setting → Option α
  | none => some missing
  | some s => read s

/-! ### From documents -/

/-- In a document nothing is null, and a list holds no more than the fields. -/
def documentFormat : SettingFormat where
  allowsSurplus := false
  isNothing
    | .null => true
    | _ => false

/-- The setting that a number of a document is. -/
def ofNumber : JsonNumber → Setting
  | .integer i => .integer i
  | .double _ => .other

mutual

/-- The tree of a document. -/
def ofJson : Json → Setting
  | .null => .null
  | .bool b => .bool b
  | .number n => ofNumber n
  | .string t => .text t
  | .array items => .list (ofItems items)
  | .object fields => .table (ofFields fields)

/-- The trees of items. -/
def ofItems : List Json → List Setting
  | [] => []
  | item :: items => ofJson item :: ofItems items

/-- The trees of fields. -/
def ofFields : List (Text × Json) → List (Text × Setting)
  | [] => []
  | (key, value) :: fields => (key, ofJson value) :: ofFields fields

end

mutual

/-- The tree of a draft, which keeps repeated keys; an object with a key that is no text is no
setting. -/
def ofDraft : Draft → Setting
  | .null => .null
  | .bool b => .bool b
  | .number n => ((JsonNumber.integer? n).map .integer).getD .other
  | .quoted parts => ((Draft.textOf? parts).map .text).getD .other
  | .array items => .list (ofDraftItems items)
  | .object fields => ((ofDraftFields? fields).map .table).getD .other

/-- The trees of items. -/
def ofDraftItems : List Draft → List Setting
  | [] => []
  | item :: items => ofDraft item :: ofDraftItems items

/-- The trees of fields, if every key is a text. -/
def ofDraftFields? : List (List QuotedPart × Draft) → Option (List (Text × Setting))
  | [] => some []
  | (key, value) :: fields =>
    let s := ofDraft value
    (Draft.textOf? key).bind fun k => (ofDraftFields? fields).map ((k, s) :: ·)

end

/-- The tree that the text of a document spells. -/
def ofText? (t : Text) : Option Setting := (Draft.parse? t).map ofDraft

end Setting

end DesignTokens
