import DesignTokens.Proofs.Json.Building
import DesignTokens.Proofs.Json.Parsed
import DesignTokens.Proofs.Json.Scanning

/-!
A document that is written over several lines is read again. The text spells the lexemes of a draft
in which each text stands as it is written in quotes and each number as it is written, the lexemes
build that draft, and the draft is the document:

    document ── pretty ──▶ text ── scan? ──▶ lexemes ── ofLexemes? ──▶ draft ── toJson? ──▶ document

The one thing that can be lost is the last digit of a double, so the numbers have to be such that
they are read back by themselves.
-/

namespace DesignTokens

/-! ### Texts -/

namespace Draft

/-- A unit that is no half of a pair is a character. -/
theorem textOf?_unit {n : Nat} (hlow : isLow n = false) (hhigh : isHigh n = false)
    (parts : List QuotedPart) :
    textOf? (.unit n :: parts) = (textOf? parts).map (Char.ofNat n :: ·) := by
  rw [textOf?.eq_def (.unit n :: parts)]
  simp only [hlow, hhigh, if_neg Bool.false_ne_true]

/-- The parts of a written text are that text. -/
theorem textOf?_written (t : Text) : textOf? (t.map .written) = some t := by
  induction t with
  | nil => rfl
  | cons c t ih =>
    rw [List.map_cons, QuotedPart.written]
    split
    · next hcontrol =>
      have hlow : isLow c.toNat = false := by
        rw [isLow, Bool.and_eq_false_iff, decide_eq_false_iff_not]
        omega
      have hhigh : isHigh c.toNat = false := by
        rw [isHigh, Bool.and_eq_false_iff, decide_eq_false_iff_not]
        omega
      rw [textOf?_unit hlow hhigh, ih, Char.ofNat_toNat]
      rfl
    · rw [textOf?, ih]
      rfl

end Draft

/-! ### The draft of a document -/

namespace Json

mutual

/-- The draft that the written document is read as. -/
def draft : Json → Draft
  | .null => .null
  | .bool b => .bool b
  | .number n =>
    match NumberText.read? n.write with
    | some t => .number t
    | none => .null
  | .string t => .quoted (t.map .written)
  | .array items => .array (draftOfItems items)
  | .object fields => .object (draftOfFields fields)

/-- The drafts of items. -/
def draftOfItems : List Json → List Draft
  | [] => []
  | item :: items => item.draft :: draftOfItems items

/-- The drafts of fields. -/
def draftOfFields : List (Text × Json) → List (List QuotedPart × Draft)
  | [] => []
  | (key, value) :: fields => (key.map .written, value.draft) :: draftOfFields fields

end

theorem draft_number {n : JsonNumber} (h : n.ReadsBack) :
    ∃ t, NumberText.read? n.write = some t ∧ JsonNumber.ofText? t = some n ∧
      (number n).draft = .number t := by
  obtain ⟨t, hread, hvalue⟩ := Option.bind_eq_some_iff.mp h
  refine ⟨t, hread, hvalue, ?_⟩
  rw [draft, hread]

theorem itemsToJson?_draftOfItems {levels : Nat} {items : List Json}
    (h : ∀ item ∈ items, item.draft.toJson? levels = some item) :
    Draft.itemsToJson? levels (draftOfItems items) = some items := by
  induction items with
  | nil => rfl
  | cons item items ih =>
    obtain ⟨hitem, hitems⟩ := List.forall_mem_cons.mp h
    rw [draftOfItems, Draft.itemsToJson?, hitem, ih hitems]
    rfl

theorem fieldsToJson?_draftOfFields {levels : Nat} {fields : List (Text × Json)}
    (h : ∀ p ∈ fields, p.2.draft.toJson? levels = some p.2) :
    Draft.fieldsToJson? levels (draftOfFields fields) = some fields := by
  induction fields with
  | nil => rfl
  | cons field fields ih =>
    obtain ⟨hfield, hfields⟩ := List.forall_mem_cons.mp h
    rw [draftOfFields, Draft.fieldsToJson?, Draft.textOf?_written, hfield, ih hfields]
    rfl

/-- The draft of a readable document is the document. -/
theorem toJson?_draft {levels : Nat} {j : Json} (h : j.Readable levels)
    (hn : ∀ n ∈ j.numbers, n.ReadsBack) : j.draft.toJson? levels = some j := by
  induction j using inductionOnValues generalizing levels with
  | node j ih =>
    cases j with
    | null => rfl
    | bool b => rfl
    | number n =>
      obtain ⟨t, -, hvalue, hdraft⟩ := draft_number (hn n (List.mem_singleton_self n))
      rw [hdraft, Draft.toJson?, hvalue]
      rfl
    | string t =>
      rw [draft, Draft.toJson?, Draft.textOf?_written]
      rfl
    | array items =>
      obtain ⟨hlevels, hitems⟩ := readable_array.mp h
      have hread : Draft.itemsToJson? (levels - 1) (draftOfItems items) = some items := by
        refine itemsToJson?_draftOfItems fun item hitem => ?_
        exact ih item hitem (hitems item hitem) fun n hn' =>
          hn n (mem_numbers_array.mpr ⟨item, hitem, hn'⟩)
      rw [draft, Draft.toJson?, if_neg hlevels, hread]
      rfl
    | object fields =>
      obtain ⟨hlevels, hkeys, hvalues⟩ := readable_object.mp h
      have hread : Draft.fieldsToJson? (levels - 1) (draftOfFields fields) = some fields := by
        refine fieldsToJson?_draftOfFields fun p hp => ?_
        exact ih p.2 (List.mem_map_of_mem hp) (hvalues p hp) fun n hn' =>
          hn n (mem_numbers_object.mpr ⟨p, hp, hn'⟩)
      rw [draft, Draft.toJson?, if_neg hlevels, hread, Option.map_some,
        Assoc.ofList_of_nodup hkeys]

end Json

/-! ### The written text -/

namespace Json

open Lexeme

/-- Items are spelled with a comma between two of them. -/
theorem spells_prettyItems {depth : Nat} : ∀ {items : List Json},
    (∀ item ∈ items, Spells (item.prettyAt depth) item.draft.lexemes) →
      Spells (prettyItems depth items) (Draft.lexemesOfItems (draftOfItems items))
  | [], _ => spells_nil
  | [item], h => (h item (List.mem_singleton_self item)).onNewLine depth
  | item :: next :: items, h => by
    obtain ⟨hitem, hitems⟩ := List.forall_mem_cons.mp h
    have hrest : Spells (',' :: prettyItems depth (next :: items))
        (.comma :: Draft.lexemesOfItems (draftOfItems (next :: items))) :=
      (spells_prettyItems hitems).mark rfl
    exact (hitem.onNewLine depth).append hrest (breaks_cons (by decide) _)

/-- A field is a text in quotes, a colon and a value. -/
theorem spells_field {depth : Nat} (key : Text) {value : Json}
    (h : Spells (value.prettyAt depth) value.draft.lexemes) :
    Spells (newLine depth ++ quote key ++ ": " ++ value.prettyAt depth)
      (.quoted (key.map .written) :: .colon :: value.draft.lexemes) := by
  have hvalue : Spells (": " ++ value.prettyAt depth) (.colon :: value.draft.lexemes) :=
    h.space.mark rfl
  rw [List.append_assoc]
  exact ((spells_quote key).onNewLine depth).append hvalue (breaks_cons (by decide) _)

/-- Fields are spelled with a comma between two of them. -/
theorem spells_prettyFields {depth : Nat} : ∀ {fields : List (Text × Json)},
    (∀ p ∈ fields, Spells (p.2.prettyAt depth) p.2.draft.lexemes) →
      Spells (prettyFields depth fields) (Draft.lexemesOfFields (draftOfFields fields))
  | [], _ => spells_nil
  | [(key, value)], h => spells_field key (h (key, value) (List.mem_singleton_self _))
  | (key, value) :: next :: fields, h => by
    obtain ⟨hvalue, hfields⟩ := List.forall_mem_cons.mp h
    have hrest : Spells (',' :: prettyFields depth (next :: fields))
        (.comma :: Draft.lexemesOfFields (draftOfFields (next :: fields))) :=
      (spells_prettyFields hfields).mark rfl
    exact (spells_field key hvalue).append hrest (breaks_cons (by decide) _)

/-- A written document spells the lexemes of its draft. -/
theorem spells_prettyAt {j : Json} (hn : ∀ n ∈ j.numbers, n.ReadsBack) (depth : Nat) :
    Spells (j.prettyAt depth) j.draft.lexemes := by
  induction j using inductionOnValues generalizing depth with
  | node j ih =>
    cases j with
    | null =>
      have hword : IsWord "null" := isWord_of_all rfl
      exact spells_word hword rfl
    | bool b =>
      have htrue : IsWord "true" := isWord_of_all rfl
      have hfalse : IsWord "false" := isWord_of_all rfl
      cases b with
      | true => exact spells_word htrue rfl
      | false => exact spells_word hfalse rfl
    | number n =>
      obtain ⟨t, hread, -, hdraft⟩ := draft_number (hn n (List.mem_singleton_self n))
      rw [hdraft, prettyAt, Draft.lexemes]
      exact spells_word n.isWord_write (ofWord?_of_read? hread)
    | string t => exact spells_quote t
    | array items =>
      cases items with
      | nil => exact (spells_nil.mark rfl).mark rfl
      | cons item items =>
        have hitems : Spells (prettyItems (depth + 1) (item :: items))
            (Draft.lexemesOfItems (draftOfItems (item :: items))) := by
          refine spells_prettyItems fun v hv => ih v hv (fun n hn' => ?_) (depth + 1)
          exact hn n (mem_numbers_array.mpr ⟨v, hv, hn'⟩)
        have hclose : Spells (newLine depth ++ [']']) [.closeArray] :=
          (spells_nil.mark rfl).onNewLine depth
        have hbody := hitems.append hclose (breaks_cons (by decide) _)
        have htext : (array (item :: items)).prettyAt depth =
            '[' :: (prettyItems (depth + 1) (item :: items) ++ (newLine depth ++ [']'])) := by
          simp [prettyAt]
        rw [htext]
        exact hbody.mark rfl
    | object fields =>
      cases fields with
      | nil => exact (spells_nil.mark rfl).mark rfl
      | cons field fields =>
        have hfields : Spells (prettyFields (depth + 1) (field :: fields))
            (Draft.lexemesOfFields (draftOfFields (field :: fields))) := by
          refine spells_prettyFields fun p hp =>
            ih p.2 (List.mem_map_of_mem hp) (fun n hn' => ?_) (depth + 1)
          exact hn n (mem_numbers_object.mpr ⟨p, hp, hn'⟩)
        have hclose : Spells (newLine depth ++ ['}']) [.closeObject] :=
          (spells_nil.mark rfl).onNewLine depth
        have hbody := hfields.append hclose (breaks_cons (by decide) _)
        have htext : (object (field :: fields)).prettyAt depth =
            '{' :: (prettyFields (depth + 1) (field :: fields) ++ (newLine depth ++ ['}'])) := by
          simp [prettyAt]
        rw [htext]
        exact hbody.mark rfl

/-- A readable document whose doubles are read back is read from the text that it is written as. -/
theorem parse?_pretty {j : Json} (h : j.Readable Draft.mostLevels)
    (hdoubles : ∀ x, .double x ∈ j.numbers → (JsonNumber.double x).ReadsBack) :
    parse? j.pretty = some j := by
  have hnumbers : ∀ n ∈ j.numbers, n.ReadsBack := fun n hn => h.readsBack hdoubles hn
  have hscan : Lexeme.scan? j.pretty = some j.draft.lexemes := (spells_prettyAt hnumbers 0).scan?_eq
  rw [parse?, Draft.parse?, hscan, Option.bind_some, Draft.ofLexemes?_lexemes, Option.bind_some]
  exact toJson?_draft h hnumbers

end Json

end DesignTokens
