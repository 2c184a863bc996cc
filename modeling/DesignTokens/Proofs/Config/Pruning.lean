import DesignTokens.Proofs.Json.Settings

/-!
Structures with fields left out. A set of fields is given by the paths of their keys, and pruning a
document takes all of them out of it, wherever they stand:

    { "a": x, "b": { "c": y, "d": z } }   without a and b/d   ──▶   { "b": { "c": y } }

A structure that is read from a pruned table finds the fields that are left, each pruned in its
turn, and nothing for the others; a field that takes a default when it is missing then has the
default just if it was taken out.
-/

namespace DesignTokens

/-- The paths below a key. -/
def below (key : Text) (gone : List Text → Bool) : List Text → Bool :=
  fun path => gone (key :: path)

namespace Json

mutual

/-- The document without the fields whose paths are picked out. -/
def prune (gone : List Text → Bool) : Json → Json
  | .array items => .array (pruneItems gone 0 items)
  | .object fields => .object (pruneFields gone fields)
  | other => other

/-- The items, of which the first has the given index, without the fields in them. -/
def pruneItems (gone : List Text → Bool) (index : Nat) : List Json → List Json
  | [] => []
  | item :: items => item.prune (below (natText index) gone) :: pruneItems gone (index + 1) items

/-- The fields that are left, without those in their values. -/
def pruneFields (gone : List Text → Bool) : List (Text × Json) → List (Text × Json)
  | [] => []
  | (key, value) :: fields =>
    (if gone [key] then [] else [(key, value.prune (below key gone))]) ++ pruneFields gone fields

end

theorem pruneItems_eq (gone : List Text → Bool) (items : List Json) : ∀ index,
    pruneItems gone index items =
      (items.zipIdx index).map fun p => p.1.prune (below (natText p.2) gone) := by
  induction items with
  | nil => exact fun _ => rfl
  | cons item items ih =>
    intro index
    rw [pruneItems, ih, List.zipIdx_cons, List.map_cons]

theorem pruneFields_eq (gone : List Text → Bool) (fields : List (Text × Json)) :
    pruneFields gone fields =
      (fields.filter fun p => !gone [p.1]).map fun p => (p.1, p.2.prune (below p.1 gone)) := by
  induction fields with
  | nil => rfl
  | cons field fields ih =>
    obtain ⟨key, value⟩ := field
    rw [pruneFields, ih]
    cases h : gone [key] <;> simp [h]

theorem below_none (key : Text) : below key (fun _ => false) = fun _ => false := rfl

/-- A document that nothing is taken out of stays as it is. -/
theorem prune_none (j : Json) : j.prune (fun _ => false) = j := by
  induction j using inductionOnValues with
  | node j ih =>
    cases j with
    | array items =>
      have hitems : (items.zipIdx 0).map (fun p => p.1.prune fun _ => false) =
          (items.zipIdx 0).map Prod.fst :=
        List.map_congr_left fun p hp => ih p.1 (List.fst_mem_of_mem_zipIdx hp)
      rw [prune, pruneItems_eq]
      simp only [below_none]
      rw [hitems, List.zipIdx_map_fst]
    | object fields =>
      have hfields : fields.map (fun p => (p.1, p.2.prune fun _ => false)) = fields.map id :=
        List.map_congr_left fun p hp => Prod.ext rfl (ih p.2 (List.mem_map_of_mem hp))
      have hall : fields.filter (fun _ => !false) = fields := List.filter_eq_self.mpr fun _ _ => rfl
      rw [prune, pruneFields_eq, hall]
      simp only [below_none]
      rw [hfields, List.map_id]
    | _ => rfl

theorem keys_pruneFields (gone : List Text → Bool) (fields : List (Text × Json)) :
    Assoc.keys (pruneFields gone fields) = (Assoc.keys fields).filter fun key => !gone [key] := by
  rw [pruneFields_eq, Assoc.keys, List.map_map, Assoc.keys, List.filter_map]
  rfl

/-- A field that is left has its value, pruned in its turn. -/
theorem find?_pruneFields (gone : List Text → Bool) (key : Text) :
    ∀ fields : List (Text × Json), Assoc.find? key (pruneFields gone fields) =
      if gone [key] then none else (Assoc.find? key fields).map (prune (below key gone))
  | [] => by simp [pruneFields, Assoc.find?]
  | (k, value) :: fields => by
    have hrest := find?_pruneFields gone key fields
    by_cases hk : k = key
    · subst hk
      cases hgone : gone [k] with
      | true => simpa [pruneFields, hgone] using hrest
      | false => simp [pruneFields, hgone, Assoc.find?]
    · cases hgone : gone [k] with
      | true => simpa [pruneFields, hgone, Assoc.find?, hk] using hrest
      | false => simpa [pruneFields, hgone, Assoc.find?, hk] using hrest

/-- A pruned document holds no other numbers. -/
theorem mem_numbers_of_mem_prune {n : JsonNumber} {j : Json} :
    ∀ {gone : List Text → Bool}, n ∈ (j.prune gone).numbers → n ∈ j.numbers := by
  induction j using inductionOnValues with
  | node j ih =>
    intro gone hn
    cases j with
    | array items =>
      rw [prune, pruneItems_eq] at hn
      obtain ⟨item, hitem, hn⟩ := mem_numbers_array.mp hn
      obtain ⟨p, hp, rfl⟩ := List.mem_map.mp hitem
      have hmem : p.1 ∈ items := List.fst_mem_of_mem_zipIdx hp
      exact mem_numbers_array.mpr ⟨p.1, hmem, ih p.1 hmem hn⟩
    | object fields =>
      rw [prune, pruneFields_eq] at hn
      obtain ⟨field, hfield, hn⟩ := mem_numbers_object.mp hn
      obtain ⟨p, hp, rfl⟩ := List.mem_map.mp hfield
      have hmem : p ∈ fields := (List.mem_filter.mp hp).1
      exact mem_numbers_object.mpr ⟨p, hmem, ih p.2 (List.mem_map_of_mem hmem) hn⟩
    | _ => exact hn

end Json

namespace Setting

/-- In a table that holds each key once, no key is refused. -/
theorem once?_of_nodup {entries : List (Text × Setting)} (h : (Assoc.keys entries).Nodup)
    (key : Text) : once? entries key = some (Assoc.find? key entries) := by
  have hfilter : entries.filter (·.1 = key) =
      ((Assoc.find? key entries).map fun s => (key, s)).toList := by
    induction entries with
    | nil => rfl
    | cons entry entries ih =>
      obtain ⟨k, s⟩ := entry
      obtain ⟨hk, hentries⟩ := List.nodup_cons.mp h
      rw [Assoc.find?]
      by_cases heq : k = key
      · subst heq
        have hnone : Assoc.find? k entries = none := (Assoc.find?_eq_none_iff k entries).mpr hk
        rw [List.filter_cons_of_pos (by simp), ih hentries, hnone, if_pos rfl]
        rfl
      · rw [List.filter_cons_of_neg (by simpa using heq), ih hentries, if_neg heq]
  rw [once?, hfilter]
  cases Assoc.find? key entries <;> rfl

/-- A field of a written structure as it is found when fields have been taken out. -/
def ofField (gone : List Text → Bool) (field : Text × Json) : Option Setting :=
  if gone [field.1] then none else some (ofJson (field.2.prune (below field.1 gone)))

/-- A structure that was written field by field and pruned is found with the fields that are
left. -/
theorem fields?_prune (format : SettingFormat) {names : List Text} (hnames : names.Nodup)
    (values : List Json) (hlength : names.length = values.length) (gone : List Text → Bool) :
    (ofJson ((Json.object (names.zip values)).prune gone)).fields? format names =
      some ((names.zip values).map (ofField gone)) := by
  have hkeys : Assoc.keys (names.zip values) = names := List.map_fst_zip (Nat.le_of_eq hlength)
  have hnodup : (Assoc.keys (ofFields (Json.pruneFields gone (names.zip values)))).Nodup := by
    rw [keys_ofFields, Json.keys_pruneFields, hkeys]
    exact hnames.filter _
  have hfind : ∀ p ∈ names.zip values,
      Assoc.find? p.1 (ofFields (Json.pruneFields gone (names.zip values))) = ofField gone p := by
    intro p hp
    have hvalue : Assoc.find? p.1 (names.zip values) = some p.2 :=
      Assoc.find?_of_mem (hkeys.symm ▸ hnames) hp
    rw [find?_ofFields, Json.find?_pruneFields, hvalue, ofField]
    split <;> rfl
  calc names.mapM (once? (ofFields (Json.pruneFields gone (names.zip values))))
      = some (names.map fun name =>
          Assoc.find? name (ofFields (Json.pruneFields gone (names.zip values)))) :=
        mapM_eq_some_map fun name _ => once?_of_nodup hnodup name
    _ = some ((Assoc.keys (names.zip values)).map fun name =>
          Assoc.find? name (ofFields (Json.pruneFields gone (names.zip values)))) := by rw [hkeys]
    _ = some ((names.zip values).map (ofField gone)) := by
      rw [Assoc.keys, List.map_map]
      exact congrArg some (List.map_congr_left hfind)

/-- A field that can be read if it is there has its default just if it was taken out. -/
theorem orElse_ofField {α : Type} {read : Setting → Option α} {gone : List Text → Bool}
    {key : Text} {field : Json} {value : α}
    (h : read (ofJson (field.prune (below key gone))) = some value) (missing : α) :
    orElse missing read (ofField gone (key, field)) =
      some (if gone [key] then missing else value) := by
  unfold ofField
  cases gone [key] with
  | true => rfl
  | false => exact h

end Setting

end DesignTokens
