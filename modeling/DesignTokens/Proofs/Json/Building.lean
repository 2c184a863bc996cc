import DesignTokens.Json.Draft

/-!
The lexemes of a draft build it. They are listed by going down the draft; the builder meets them
with some frames open, and behind the last of them the draft has been put into the innermost frame:

    frames, value │ lexemes of d ──▶ put frames d

So what a draft is made of determines it, and a text that spells the lexemes of a draft is read as
that draft.
-/

namespace DesignTokens.Draft

mutual

/-- The lexemes of a draft in order. -/
def lexemes : Draft → List Lexeme
  | .null => [.null]
  | .bool b => [.bool b]
  | .number n => [.number n]
  | .quoted parts => [.quoted parts]
  | .array items => .openArray :: (lexemesOfItems items ++ [.closeArray])
  | .object fields => .openObject :: (lexemesOfFields fields ++ [.closeObject])

/-- The lexemes of items with commas between them. -/
def lexemesOfItems : List Draft → List Lexeme
  | [] => []
  | [item] => item.lexemes
  | item :: next :: items => item.lexemes ++ .comma :: lexemesOfItems (next :: items)

/-- The lexemes of fields with commas between them. -/
def lexemesOfFields : List (List QuotedPart × Draft) → List Lexeme
  | [] => []
  | [(key, value)] => .quoted key :: .colon :: value.lexemes
  | (key, value) :: next :: fields =>
    .quoted key :: .colon :: value.lexemes ++ .comma :: lexemesOfFields (next :: fields)

end

namespace Builder

/-- The builder behind further lexemes. -/
def after? (b : Builder) (ls : List Lexeme) : Option Builder := ls.foldlM step? b

theorem after?_cons {b b' : Builder} {l : Lexeme} (h : b.step? l = some b') (ls : List Lexeme) :
    b.after? (l :: ls) = b'.after? ls := by
  rw [after?, List.foldlM_cons, h]
  rfl

/-- A first item is met like any other: no value begins with a closing bracket. -/
theorem after?_firstItem (frames : List Frame) (rest : List Lexeme) (item : Draft)
    (items : List Draft) :
    after? ⟨frames, .firstItem, .null⟩ (lexemesOfItems (item :: items) ++ rest) =
      after? ⟨frames, .value, .null⟩ (lexemesOfItems (item :: items) ++ rest) := by
  cases items <;> cases item <;> rfl

/-- A first key is met like any other. -/
theorem after?_firstKey (frames : List Frame) (rest : List Lexeme)
    (field : List QuotedPart × Draft) (fields : List (List QuotedPart × Draft)) :
    after? ⟨frames, .firstKey, .null⟩ (lexemesOfFields (field :: fields) ++ rest) =
      after? ⟨frames, .key, .null⟩ (lexemesOfFields (field :: fields) ++ rest) := by
  cases fields <;> rfl

mutual

theorem after?_lexemes (frames : List Frame) (rest : List Lexeme) : ∀ d : Draft,
    after? ⟨frames, .value, .null⟩ (d.lexemes ++ rest) = after? (put frames d) rest
  | .null | .bool _ | .number _ | .quoted _ => by
    rw [lexemes, List.singleton_append, after?_cons rfl]
  | .array [] => by
    rw [lexemes, List.cons_append, after?_cons rfl]
    exact after?_cons rfl rest
  | .array (item :: items) => by
    rw [lexemes, List.cons_append, after?_cons rfl, List.append_assoc, List.singleton_append,
      after?_firstItem]
    exact after?_lexemesOfItems frames rest (item :: items) [] (List.cons_ne_nil item items)
  | .object [] => by
    rw [lexemes, List.cons_append, after?_cons rfl]
    exact after?_cons rfl rest
  | .object ((key, value) :: fields) => by
    rw [lexemes, List.cons_append, after?_cons rfl, List.append_assoc, List.singleton_append,
      after?_firstKey]
    exact after?_lexemesOfFields frames rest ((key, value) :: fields) [] (List.cons_ne_nil _ _)

/-- Items go behind those that the list holds so far, and the closing bracket ends the list. -/
theorem after?_lexemesOfItems (frames : List Frame) (rest : List Lexeme) :
    ∀ (items done : List Draft), items ≠ [] →
      after? ⟨.array done :: frames, .value, .null⟩
          (lexemesOfItems items ++ .closeArray :: rest) =
        after? (put frames (.array (done.reverse ++ items))) rest
  | [], _, hne => absurd rfl hne
  | [item], done, _ => by
    have hclose : (put (.array done :: frames) item).step? .closeArray =
        some (put frames (.array (item :: done).reverse)) := rfl
    rw [lexemesOfItems, after?_lexemes, after?_cons hclose, List.reverse_cons]
  | item :: next :: items, done, _ => by
    have hcomma : (put (.array done :: frames) item).step? .comma =
        some ⟨.array (item :: done) :: frames, .value, .null⟩ := rfl
    rw [lexemesOfItems, List.append_assoc, after?_lexemes, List.cons_append, after?_cons hcomma,
      after?_lexemesOfItems frames rest (next :: items) (item :: done) (List.cons_ne_nil _ _),
      List.reverse_cons, List.append_assoc, List.singleton_append]

/-- Fields go behind those that the object holds so far, and the closing brace ends the object. -/
theorem after?_lexemesOfFields (frames : List Frame) (rest : List Lexeme) :
    ∀ (fields done : List (List QuotedPart × Draft)), fields ≠ [] →
      after? ⟨.object done :: frames, .key, .null⟩
          (lexemesOfFields fields ++ .closeObject :: rest) =
        after? (put frames (.object (done.reverse ++ fields))) rest
  | [], _, hne => absurd rfl hne
  | [(key, value)], done, _ => by
    have hclose : (put (.field done key :: frames) value).step? .closeObject =
        some (put frames (.object ((key, value) :: done).reverse)) := rfl
    rw [lexemesOfFields, List.cons_append, List.cons_append, after?_cons rfl, after?_cons rfl,
      after?_lexemes, after?_cons hclose, List.reverse_cons]
  | (key, value) :: next :: fields, done, _ => by
    have hcomma : (put (.field done key :: frames) value).step? .comma =
        some ⟨.object ((key, value) :: done) :: frames, .key, .null⟩ := rfl
    rw [lexemesOfFields, List.append_assoc, List.cons_append, List.cons_append, after?_cons rfl,
      after?_cons rfl, after?_lexemes, List.cons_append, after?_cons hcomma,
      after?_lexemesOfFields frames rest (next :: fields) ((key, value) :: done)
        (List.cons_ne_nil _ _),
      List.reverse_cons, List.append_assoc, List.singleton_append]

end

end Builder

/-- The lexemes of a draft are read as that draft. -/
theorem ofLexemes?_lexemes (d : Draft) : ofLexemes? d.lexemes = some d := by
  have hafter := Builder.after?_lexemes [] [] d
  rw [List.append_nil] at hafter
  have hresult : Builder.after? (Builder.put [] d) [] = some ⟨[], .nothing, d⟩ := rfl
  rw [hresult] at hafter
  rw [ofLexemes?, ← Builder.after?, hafter]
  rfl

end DesignTokens.Draft
