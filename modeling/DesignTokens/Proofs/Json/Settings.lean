import DesignTokens.Config.Setting
import DesignTokens.Proofs.Json.RoundTrip

/-!
A written document is read as the settings that it is. A text is first read into a draft, and the
settings are taken from the draft and not from a document, so that a repeated key can be refused;
for what was written from a document both ways give the same tree:

    document ── compact, pretty ──▶ text ──▶ draft ── ofDraft ──▶ settings
        │                                                          ║
        └──────────────────────── ofJson ────────────────────▶ settings

Whether the document is written in one line or over several makes no difference, since both spell
the same lexemes.
-/

namespace DesignTokens

/-! ### Lists and tables -/

/-- Readers that all succeed give their values in order. -/
theorem mapM_eq_some_map {α β : Type} {read : α → Option β} {value : α → β} {items : List α}
    (h : ∀ item ∈ items, read item = some (value item)) :
    items.mapM read = some (items.map value) := by
  induction items with
  | nil => rfl
  | cons item items ih =>
    obtain ⟨hitem, hitems⟩ := List.forall_mem_cons.mp h
    rw [List.mapM_cons, hitem, ih hitems]
    rfl

namespace Setting

theorem ofItems_eq (items : List Json) : ofItems items = items.map ofJson := by
  induction items with
  | nil => rfl
  | cons item items ih => rw [ofItems, ih, List.map_cons]

theorem ofFields_eq (fields : List (Text × Json)) :
    ofFields fields = fields.map fun p => (p.1, ofJson p.2) := by
  induction fields with
  | nil => rfl
  | cons field fields ih =>
    obtain ⟨key, value⟩ := field
    rw [ofFields, ih, List.map_cons]

theorem keys_ofFields (fields : List (Text × Json)) :
    Assoc.keys (ofFields fields) = Assoc.keys fields := by
  rw [ofFields_eq, Assoc.keys, List.map_map]
  rfl

theorem find?_ofFields (key : Text) (fields : List (Text × Json)) :
    Assoc.find? key (ofFields fields) = (Assoc.find? key fields).map ofJson := by
  rw [ofFields_eq]
  exact Assoc.find?_map_pairs (f := id) fun _ _ => Iff.rfl

end Setting

namespace Json

open Lexeme

/-! ### In one line -/

theorem spells_compactItems : ∀ {items : List Json},
    (∀ item ∈ items, Spells item.compact item.draft.lexemes) →
      Spells (compactItems items) (Draft.lexemesOfItems (draftOfItems items))
  | [], _ => spells_nil
  | [item], h => h item (List.mem_singleton_self item)
  | item :: next :: items, h => by
    obtain ⟨hitem, hitems⟩ := List.forall_mem_cons.mp h
    have hrest : Spells (',' :: compactItems (next :: items))
        (.comma :: Draft.lexemesOfItems (draftOfItems (next :: items))) :=
      (spells_compactItems hitems).mark rfl
    exact hitem.append hrest (breaks_cons (by decide) _)

theorem spells_compactField (key : Text) {value : Json}
    (h : Spells value.compact value.draft.lexemes) :
    Spells (quote key ++ ':' :: value.compact)
      (.quoted (key.map .written) :: .colon :: value.draft.lexemes) := by
  have hvalue : Spells (':' :: value.compact) (.colon :: value.draft.lexemes) := h.mark rfl
  exact (spells_quote key).append hvalue (breaks_cons (by decide) _)

theorem spells_compactFields : ∀ {fields : List (Text × Json)},
    (∀ p ∈ fields, Spells p.2.compact p.2.draft.lexemes) →
      Spells (compactFields fields) (Draft.lexemesOfFields (draftOfFields fields))
  | [], _ => spells_nil
  | [(key, value)], h => spells_compactField key (h (key, value) (List.mem_singleton_self _))
  | (key, value) :: next :: fields, h => by
    obtain ⟨hvalue, hfields⟩ := List.forall_mem_cons.mp h
    have hrest : Spells (',' :: compactFields (next :: fields))
        (.comma :: Draft.lexemesOfFields (draftOfFields (next :: fields))) :=
      (spells_compactFields hfields).mark rfl
    exact (spells_compactField key hvalue).append hrest (breaks_cons (by decide) _)

/-- A document written in one line spells the lexemes of its draft. -/
theorem spells_compact {j : Json} (hn : ∀ n ∈ j.numbers, n.ReadsBack) :
    Spells j.compact j.draft.lexemes := by
  induction j using inductionOnValues with
  | node j ih =>
    cases j with
    | null =>
      have hword : IsWord "null" := isWord_of_all rfl
      exact spells_word hword rfl
    | bool b =>
      have htrue : IsWord "true" := isWord_of_all rfl
      have hfalse : IsWord "false" := isWord_of_all rfl
      cases b with
      | true => exact spells_word htrue rfl
      | false => exact spells_word hfalse rfl
    | number n =>
      obtain ⟨t, hread, -, hdraft⟩ := draft_number (hn n (List.mem_singleton_self n))
      rw [hdraft, compact, Draft.lexemes]
      exact spells_word n.isWord_write (ofWord?_of_read? hread)
    | string t => exact spells_quote t
    | array items =>
      have hitems := spells_compactItems fun item hitem =>
        ih item hitem fun n hn' => hn n (mem_numbers_array.mpr ⟨item, hitem, hn'⟩)
      have hclose : Spells [']'] [.closeArray] := spells_nil.mark rfl
      exact (hitems.append hclose (breaks_cons (by decide) _)).mark rfl
    | object fields =>
      have hfields := spells_compactFields fun p hp =>
        ih p.2 (List.mem_map_of_mem hp) fun n hn' => hn n (mem_numbers_object.mpr ⟨p, hp, hn'⟩)
      have hclose : Spells ['}'] [.closeObject] := spells_nil.mark rfl
      exact (hfields.append hclose (breaks_cons (by decide) _)).mark rfl

/-! ### Settings from drafts -/

/-- The number of a document is the same setting as the number that is read from its text. -/
theorem ofDraft_number {n : JsonNumber} (h : n.ReadsBack) :
    Setting.ofDraft (number n).draft = Setting.ofNumber n := by
  obtain ⟨t, -, hvalue, hdraft⟩ := draft_number h
  rw [hdraft, Setting.ofDraft]
  unfold JsonNumber.ofText? at hvalue
  split at hvalue
  · next i hinteger =>
    rw [hinteger, ← Option.some.inj hvalue]
    rfl
  · next hnone =>
    obtain ⟨x, -, rfl⟩ := Option.map_eq_some_iff.mp hvalue
    rw [hnone]
    rfl

theorem ofDraftItems_draftOfItems {items : List Json}
    (h : ∀ item ∈ items, Setting.ofDraft item.draft = Setting.ofJson item) :
    Setting.ofDraftItems (draftOfItems items) = Setting.ofItems items := by
  induction items with
  | nil => rfl
  | cons item items ih =>
    obtain ⟨hitem, hitems⟩ := List.forall_mem_cons.mp h
    rw [draftOfItems, Setting.ofDraftItems, Setting.ofItems, hitem, ih hitems]

theorem ofDraftFields?_draftOfFields {fields : List (Text × Json)}
    (h : ∀ p ∈ fields, Setting.ofDraft p.2.draft = Setting.ofJson p.2) :
    Setting.ofDraftFields? (draftOfFields fields) = some (Setting.ofFields fields) := by
  induction fields with
  | nil => rfl
  | cons field fields ih =>
    obtain ⟨hfield, hfields⟩ := List.forall_mem_cons.mp h
    rw [draftOfFields, Setting.ofDraftFields?, Draft.textOf?_written, hfield, ih hfields]
    rfl

/-- The settings of a document's draft are those of the document. -/
theorem ofDraft_draft {j : Json} (hn : ∀ n ∈ j.numbers, n.ReadsBack) :
    Setting.ofDraft j.draft = Setting.ofJson j := by
  induction j using inductionOnValues with
  | node j ih =>
    cases j with
    | null => rfl
    | bool b => rfl
    | number n => exact ofDraft_number (hn n (List.mem_singleton_self n))
    | string t =>
      rw [draft, Setting.ofDraft, Draft.textOf?_written]
      rfl
    | array items =>
      have hitems : Setting.ofDraftItems (draftOfItems items) = Setting.ofItems items :=
        ofDraftItems_draftOfItems fun item hitem =>
          ih item hitem fun n hn' => hn n (mem_numbers_array.mpr ⟨item, hitem, hn'⟩)
      rw [draft, Setting.ofDraft, hitems, Setting.ofJson]
    | object fields =>
      have hfields := ofDraftFields?_draftOfFields fun p hp =>
        ih p.2 (List.mem_map_of_mem hp) fun n hn' => hn n (mem_numbers_object.mpr ⟨p, hp, hn'⟩)
      rw [draft, Setting.ofDraft, hfields, Setting.ofJson]
      rfl

end Json

namespace Setting

/-- A text that spells a document is read as the settings that the document is. -/
theorem ofText?_of_spells {j : Json} (hn : ∀ n ∈ j.numbers, n.ReadsBack) {t : Text}
    (ht : Lexeme.Spells t j.draft.lexemes) : ofText? t = some (ofJson j) := by
  rw [ofText?, Draft.parse?, ht.scan?_eq, Option.bind_some, Draft.ofLexemes?_lexemes,
    Option.map_some, Json.ofDraft_draft hn]

theorem ofText?_compact {j : Json} (hn : ∀ n ∈ j.numbers, n.ReadsBack) :
    ofText? j.compact = some (ofJson j) :=
  ofText?_of_spells hn (Json.spells_compact hn)

theorem ofText?_pretty {j : Json} (hn : ∀ n ∈ j.numbers, n.ReadsBack) :
    ofText? j.pretty = some (ofJson j) :=
  ofText?_of_spells hn (Json.spells_prettyAt hn 0)

end Setting

end DesignTokens
