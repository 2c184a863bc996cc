import DesignTokens.Json.Lexeme

/-!
Drafts: documents with everything as it was written, repeated keys and unpaired code units included.
A draft is built from the lexemes by a walk that keeps the open lists and objects, innermost first;
what may come next is part of its state, so a comma too many or a missing colon stops it.

A draft is a document when its quoted texts are texts, its numbers are in range and it nests no more
than `127` levels; a repeated key then keeps its first position and takes its last value.
-/

namespace DesignTokens

/-- A document as it was written. -/
inductive Draft where
  | null
  | bool (value : Bool)
  | number (text : NumberText)
  | quoted (parts : List QuotedPart)
  | array (items : List Draft)
  | object (fields : List (List QuotedPart × Draft))

namespace Draft

/-! ### Building -/

/-- An open list or object, with what it holds so far last first. -/
inductive Frame where
  | array (items : List Draft)
  | object (fields : List (List QuotedPart × Draft))
  | field (fields : List (List QuotedPart × Draft)) (key : List QuotedPart)

/-- What may come next. -/
inductive Need where
  | value | firstItem | firstKey | key | colon | separator | nothing
  deriving DecidableEq

/-- The walk in the middle of a text. -/
structure Builder where
  frames : List Frame
  need : Need
  result : Draft

/-- A finished value goes where it belongs. -/
def Builder.put (frames : List Frame) (v : Draft) : Builder :=
  match frames with
  | [] => ⟨[], .nothing, v⟩
  | .array items :: rest => ⟨.array (v :: items) :: rest, .separator, .null⟩
  | .field fields key :: rest => ⟨.object ((key, v) :: fields) :: rest, .separator, .null⟩
  | .object fields :: rest => ⟨.object fields :: rest, .separator, .null⟩

/-- A lexeme where a value must come. -/
def Builder.value? (frames : List Frame) : Lexeme → Option Builder
  | .null => some (put frames .null)
  | .bool b => some (put frames (.bool b))
  | .number n => some (put frames (.number n))
  | .quoted parts => some (put frames (.quoted parts))
  | .openArray => some ⟨.array [] :: frames, .firstItem, .null⟩
  | .openObject => some ⟨.object [] :: frames, .firstKey, .null⟩
  | _ => none

/-- A lexeme where a key must come. -/
def Builder.key? (frames : List Frame) : Lexeme → Option Builder
  | .quoted parts =>
    match frames with
    | .object fields :: rest => some ⟨.field fields parts :: rest, .colon, .null⟩
    | _ => none
  | _ => none

/-- A closing bracket, if it fits the innermost frame. -/
def Builder.close? (frames : List Frame) : Lexeme → Option Builder
  | .closeArray =>
    match frames with
    | .array items :: rest => some (put rest (.array items.reverse))
    | _ => none
  | .closeObject =>
    match frames with
    | .object fields :: rest => some (put rest (.object fields.reverse))
    | _ => none
  | _ => none

/-- A comma or a closing bracket after a value. -/
def Builder.separator? (frames : List Frame) (l : Lexeme) : Option Builder :=
  match l, frames with
  | .comma, .array items :: rest => some ⟨.array items :: rest, .value, .null⟩
  | .comma, .object fields :: rest => some ⟨.object fields :: rest, .key, .null⟩
  | l, frames => close? frames l

/-- One lexeme further. -/
def Builder.step? (b : Builder) (l : Lexeme) : Option Builder :=
  match b.need with
  | .value => value? b.frames l
  | .firstItem => (close? b.frames l).or (value? b.frames l)
  | .firstKey => (close? b.frames l).or (key? b.frames l)
  | .key => key? b.frames l
  | .colon => if l = .colon then some ⟨b.frames, .value, .null⟩ else none
  | .separator => separator? b.frames l
  | .nothing => none

/-- The draft that lexemes spell. -/
def ofLexemes? (ls : List Lexeme) : Option Draft := do
  let b ← ls.foldlM Builder.step? ⟨[], .value, .null⟩
  if b.need = .nothing then some b.result else none

/-- The draft that a text spells. -/
def parse? (t : Text) : Option Draft := (Lexeme.scan? t).bind ofLexemes?

/-! ### From draft to document -/

/-- Whether a code unit is the first, or the second, of a pair. -/
def isHigh (n : Nat) : Bool := 0xD800 ≤ n && n ≤ 0xDBFF

@[inherit_doc isHigh]
def isLow (n : Nat) : Bool := 0xDC00 ≤ n && n ≤ 0xDFFF

/-- The text that quoted parts spell, if every code unit is a character or one of a pair. -/
def textOf? : List QuotedPart → Option Text
  | [] => some []
  | .char c :: rest => (textOf? rest).map (c :: ·)
  | .unit n :: rest =>
    if isLow n then none
    else if isHigh n then
      match rest with
      | .unit low :: rest =>
        if isLow low then
          (textOf? rest).map (Char.ofNat (0x10000 + (n - 0xD800) * 0x400 + (low - 0xDC00)) :: ·)
        else none
      | _ => none
    else (textOf? rest).map (Char.ofNat n :: ·)

/-- How many lists and objects may lie within each other. -/
def mostLevels : Nat := 127

mutual

/-- The document that a draft is, if it nests no more than `levels` levels. -/
def toJson? (levels : Nat) : Draft → Option Json
  | .null => some .null
  | .bool b => some (.bool b)
  | .number n => (JsonNumber.ofText? n).map .number
  | .quoted parts => (textOf? parts).map .string
  | .array items =>
    if levels = 0 then none else (itemsToJson? (levels - 1) items).map .array
  | .object fields =>
    if levels = 0 then none
    else (fieldsToJson? (levels - 1) fields).map fun fs => .object (Assoc.ofList fs)

/-- The documents that the items are. -/
def itemsToJson? (levels : Nat) : List Draft → Option (List Json)
  | [] => some []
  | item :: items => do
    let j ← item.toJson? levels
    let js ← itemsToJson? levels items
    some (j :: js)

/-- The fields with their values as documents. -/
def fieldsToJson? (levels : Nat) : List (List QuotedPart × Draft) → Option (List (Text × Json))
  | [] => some []
  | (key, value) :: fields => do
    let k ← textOf? key
    let j ← value.toJson? levels
    let js ← fieldsToJson? levels fields
    some ((k, j) :: js)

end

end Draft

/-- The document that a text spells. -/
def Json.parse? (t : Text) : Option Json := (Draft.parse? t).bind (Draft.toJson? Draft.mostLevels)

end DesignTokens
