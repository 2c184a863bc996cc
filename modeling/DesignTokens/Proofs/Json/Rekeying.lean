import DesignTokens.Proofs.Decimal.Digits
import DesignTokens.Proofs.Json.Readable
import DesignTokens.Proofs.Json.Tree
import DesignTokens.Proofs.Text.Blanks

/-!
Documents with their keys rewritten. A key that has been rewritten stays as it is when it is
rewritten again, provided that what stands in for blanks holds none, and indices of lists are left
alone. Two things can go wrong in an object: two keys may become alike, so that their fields merge,
or a key may become one of metadata:

    { "a b": x, "A B": y }  ──▶  { "a-b": y }          { " a": x }  ──▶  { "$a": x }

Where neither happens (`KeysStayApart`), rewriting only renames: the children of a document are the
same ones under other keys, and what is under a key of metadata stays there. Where they do happen,
they happen once: a document whose keys have been rewritten is not changed by rewriting them again
(`rekey_rekey`).
-/

namespace DesignTokens

variable {separator : Text} {lowercase : Bool}

/-! ### Keys -/

/-- A segment is not changed any more by making a segment of it. -/
theorem segment_segment (h : separator.Unbroken) (t : Text) :
    segment separator lowercase (segment separator lowercase t) =
      segment separator lowercase t := by
  have hreplaced := Text.unbroken_replaceBlanks h t false
  cases lowercase with
  | false => exact Text.replaceBlanks_of_unbroken separator hreplaced false
  | true =>
    have hlowered := Text.unbroken_lower_iff.mpr hreplaced
    show Text.lower (Text.replaceBlanks separator false (Text.lower _)) = Text.lower _
    rw [Text.replaceBlanks_of_unbroken separator hlowered, Text.lower_lower]

theorem smallForm_of_isDigit {c : Char} (h : isDigit c) : smallForm c = [c] ∧ ¬isBlank c := by
  have hall : ∀ n < 58, isDigit (Char.ofNat n) →
      smallForm (Char.ofNat n) = [Char.ofNat n] ∧ ¬isBlank (Char.ofNat n) := by decide
  have hlt : c.toNat < 58 := by
    have hle : c ≤ '9' := by simpa using (Bool.and_eq_true_iff.mp h).2
    exact Nat.lt_succ_of_le hle
  simpa only [Char.ofNat_toNat, h, true_implies] using hall c.toNat hlt

/-- An index is its own segment. -/
theorem segment_natText (n : Nat) : segment separator lowercase (natText n) = natText n := by
  have hdigits : ∀ c ∈ natText n, smallForm c = [c] ∧ ¬isBlank c := fun c hc =>
    smallForm_of_isDigit (isDigit_of_mem_natText hc)
  have hkept : Text.replaceBlanks separator false (natText n) = natText n :=
    Text.replaceBlanks_of_unbroken separator (fun c hc => (hdigits c hc).2) false
  rw [segment, hkept]
  cases lowercase with
  | false => rfl
  | true => exact Text.lower_eq_self_iff.mpr fun c hc => (hdigits c hc).1

theorem rekeyed_of_isReserved {key : Text} (h : isReserved key) :
    rekeyed separator lowercase key = key := if_pos h

theorem rekeyed_of_not_isReserved {key : Text} (h : isReserved key = false) :
    rekeyed separator lowercase key = segment separator lowercase key :=
  if_neg (Bool.eq_false_iff.mp h)

/-- A key that has been rewritten stays as it is, also one that has become one of metadata. -/
theorem rekeyed_rekeyed (h : separator.Unbroken) (key : Text) :
    rekeyed separator lowercase (rekeyed separator lowercase key) =
      rekeyed separator lowercase key := by
  cases hold : isReserved key with
  | true => rw [rekeyed_of_isReserved hold, rekeyed_of_isReserved hold]
  | false =>
    rw [rekeyed_of_not_isReserved hold]
    cases hnew : isReserved (segment separator lowercase key) with
    | true => exact rekeyed_of_isReserved hnew
    | false => rw [rekeyed_of_not_isReserved hnew, segment_segment h]

namespace Json

/-! ### Items and fields -/

/-- A field with its key, and those of its value, rewritten. -/
def rekeyField (separator : Text) (lowercase : Bool) (field : Text × Json) : Text × Json :=
  (rekeyed separator lowercase field.1, field.2.rekey separator lowercase)

theorem rekeyItems_eq (items : List Json) :
    rekeyItems separator lowercase items = items.map (rekey separator lowercase) := by
  induction items with
  | nil => rfl
  | cons item items ih => rw [rekeyItems, ih, List.map_cons]

theorem rekeyFields_eq (fields : List (Text × Json)) :
    rekeyFields separator lowercase fields = fields.map (rekeyField separator lowercase) := by
  induction fields with
  | nil => rfl
  | cons field fields ih =>
    obtain ⟨key, value⟩ := field
    rw [rekeyFields, ih, List.map_cons]
    rfl

/-! ### Keys that stay apart -/

/-- The keys of an object remain different ones, and none but those of metadata becomes one. -/
structure FieldsStayApart (separator : Text) (lowercase : Bool) (fields : List (Text × Json)) :
    Prop where
  nodup : (fields.map fun field => rekeyed separator lowercase field.1).Nodup
  structural : ∀ field ∈ fields, isReserved (rekeyed separator lowercase field.1) →
    isReserved field.1

instance (fields : List (Text × Json)) : Decidable (FieldsStayApart separator lowercase fields) :=
  decidable_of_iff
    ((fields.map fun field => rekeyed separator lowercase field.1).Nodup ∧
      ∀ field ∈ fields, isReserved (rekeyed separator lowercase field.1) → isReserved field.1)
    ⟨fun h => ⟨h.1, h.2⟩, fun h => ⟨h.nodup, h.structural⟩⟩

mutual

/-- The keys of every object in the document stay apart, also below keys of metadata. -/
def KeysStayApart (separator : Text) (lowercase : Bool) : Json → Prop
  | .array items => KeysOfItemsStayApart separator lowercase items
  | .object fields =>
    FieldsStayApart separator lowercase fields ∧ KeysOfFieldsStayApart separator lowercase fields
  | _ => True

/-- The keys of every object in the items stay apart. -/
def KeysOfItemsStayApart (separator : Text) (lowercase : Bool) : List Json → Prop
  | [] => True
  | item :: items =>
    item.KeysStayApart separator lowercase ∧ KeysOfItemsStayApart separator lowercase items

/-- The keys of every object in the values of the fields stay apart. -/
def KeysOfFieldsStayApart (separator : Text) (lowercase : Bool) : List (Text × Json) → Prop
  | [] => True
  | (_, value) :: fields =>
    value.KeysStayApart separator lowercase ∧ KeysOfFieldsStayApart separator lowercase fields

end

theorem keysOfItemsStayApart_iff (items : List Json) :
    KeysOfItemsStayApart separator lowercase items ↔
      ∀ item ∈ items, item.KeysStayApart separator lowercase := by
  induction items with
  | nil => simp [KeysOfItemsStayApart]
  | cons item items ih => rw [KeysOfItemsStayApart, ih, List.forall_mem_cons]

theorem keysOfFieldsStayApart_iff (fields : List (Text × Json)) :
    KeysOfFieldsStayApart separator lowercase fields ↔
      ∀ field ∈ fields, field.2.KeysStayApart separator lowercase := by
  induction fields with
  | nil => simp [KeysOfFieldsStayApart]
  | cons field fields ih =>
    obtain ⟨key, value⟩ := field
    rw [KeysOfFieldsStayApart, ih, List.forall_mem_cons]

theorem KeysStayApart.child {j : Json} (hj : j.KeysStayApart separator lowercase)
    {c : Text × Json} (hc : c ∈ j.children) : c.2.KeysStayApart separator lowercase := by
  cases j with
  | array items =>
    obtain ⟨p, hp, rfl⟩ := List.mem_map.mp hc
    rw [KeysStayApart, keysOfItemsStayApart_iff] at hj
    exact hj p.1 (List.fst_mem_of_mem_zipIdx hp)
  | object fields =>
    rw [KeysStayApart, keysOfFieldsStayApart_iff] at hj
    exact hj.2 c (List.mem_filter.mp hc).1
  | _ => cases hc

/-- Keys that are still different when they have been rewritten are different. -/
theorem FieldsStayApart.nodup_keys {fields : List (Text × Json)}
    (h : FieldsStayApart separator lowercase fields) : (Assoc.keys fields).Nodup := by
  have hnodup : ((Assoc.keys fields).map (rekeyed separator lowercase)).Nodup := by
    rw [Assoc.keys, List.map_map]
    exact h.nodup
  exact List.Pairwise.of_map _ (fun a b hne heq => hne (congrArg _ heq)) hnodup

/-- A document whose keys stay apart is well-formed. -/
theorem KeysStayApart.wellFormed {j : Json} : j.KeysStayApart separator lowercase →
    j.WellFormed := by
  induction j using inductionOnValues with
  | node j ih =>
    intro hj
    cases j with
    | array items =>
      rw [KeysStayApart, keysOfItemsStayApart_iff] at hj
      exact (itemsWellFormed_iff items).mpr fun item hitem => ih item hitem (hj item hitem)
    | object fields =>
      rw [KeysStayApart, keysOfFieldsStayApart_iff] at hj
      refine ⟨hj.1.nodup_keys, (fieldsWellFormed_iff fields).mpr fun field hfield => ?_⟩
      exact ih field.2 (List.mem_map_of_mem hfield) (hj.2 field hfield)
    | _ => trivial

/-! ### Rewriting as renaming -/

/-- Fields whose keys stay apart do not merge. -/
theorem rekey_object {fields : List (Text × Json)}
    (h : FieldsStayApart separator lowercase fields) :
    (object fields).rekey separator lowercase =
      object (fields.map (rekeyField separator lowercase)) := by
  have hkeys : (Assoc.keys (fields.map (rekeyField separator lowercase))).Nodup := by
    rw [Assoc.keys, List.map_map]
    exact h.nodup
  rw [rekey, rekeyFields_eq, Assoc.ofList_of_nodup hkeys]

/-- Rewriting neither makes nor loses keys of metadata. -/
theorem FieldsStayApart.isReserved_rekeyed {fields : List (Text × Json)}
    (h : FieldsStayApart separator lowercase fields) {field : Text × Json}
    (hfield : field ∈ fields) :
    isReserved (rekeyed separator lowercase field.1) = isReserved field.1 := by
  cases hkey : isReserved field.1 with
  | true => rw [rekeyed_of_isReserved hkey, hkey]
  | false =>
    refine Bool.eq_false_iff.mpr fun hreserved => ?_
    rw [h.structural field hfield hreserved] at hkey
    cases hkey

/-- Below a document with its keys rewritten lies what lay below it, with its keys rewritten, under
the segments of the keys. -/
theorem children_rekey {j : Json} (hj : j.KeysStayApart separator lowercase) :
    (j.rekey separator lowercase).children =
      j.children.map fun c =>
        (segment separator lowercase c.1, c.2.rekey separator lowercase) := by
  cases j with
  | array items =>
    rw [rekey, rekeyItems_eq, children, children, List.zipIdx_map, List.map_map, List.map_map]
    refine List.map_congr_left fun p _ => ?_
    exact Prod.ext (segment_natText p.2).symm rfl
  | object fields =>
    rw [KeysStayApart] at hj
    have hkept : (fun field => !isReserved field.1) ∘ rekeyField separator lowercase =
        fun field : Text × Json => !isReserved (rekeyed separator lowercase field.1) := rfl
    rw [rekey_object hj.1, children, children, List.filter_map, hkept,
      List.filter_congr fun field hfield => congrArg not (hj.1.isReserved_rekeyed hfield)]
    refine List.map_congr_left fun field hfield => ?_
    have hkey : isReserved field.1 = false := by simpa using (List.mem_filter.mp hfield).2
    exact Prod.ext (rekeyed_of_not_isReserved hkey) rfl
  | _ => rfl

/-- What stands under a key of metadata stays there. -/
theorem FieldsStayApart.find?_rekeyField {fields : List (Text × Json)}
    (h : FieldsStayApart separator lowercase fields) {key : Text} (hkey : isReserved key) :
    Assoc.find? key (fields.map (rekeyField separator lowercase)) =
      (Assoc.find? key fields).map (rekey separator lowercase) := by
  refine Assoc.find?_map_pairs fun field hfield => ⟨fun heq => ?_, fun heq => ?_⟩
  · have hreserved : isReserved field.1 := h.structural field hfield (heq ▸ hkey)
    rwa [rekeyed_of_isReserved hreserved] at heq
  · rw [heq, rekeyed_of_isReserved hkey]

/-! ### Rewriting twice -/

/-- An object that holds each key once stays as it is if all its fields do. -/
theorem rekey_object_of_fixed {fields : List (Text × Json)} (hkeys : (Assoc.keys fields).Nodup)
    (hfixed : ∀ field ∈ fields, rekeyField separator lowercase field = field) :
    (object fields).rekey separator lowercase = object fields := by
  have hsame : fields.map (rekeyField separator lowercase) = fields :=
    (List.map_congr_left hfixed).trans (List.map_id fields)
  rw [rekey, rekeyFields_eq, hsame, Assoc.ofList_of_nodup hkeys]

/-- Rewriting the keys of a document a second time changes nothing, neither the keys nor their
order, though fields may have merged and keys may have become ones of metadata the first time. -/
theorem rekey_rekey (h : separator.Unbroken) (lowercase : Bool) (j : Json) :
    (j.rekey separator lowercase).rekey separator lowercase = j.rekey separator lowercase := by
  induction j using inductionOnValues with
  | node j ih =>
    cases j with
    | array items =>
      rw [rekey, rekeyItems_eq, rekey, rekeyItems_eq, List.map_map]
      exact congrArg array (List.map_congr_left fun item hitem => ih item hitem)
    | object fields =>
      rw [rekey, rekeyFields_eq]
      refine rekey_object_of_fixed (Assoc.nodup_keys_ofList _) fun field hfield => ?_
      -- whichever of the fields that became alike is kept, it is one that has been rewritten
      obtain ⟨old, hold, rfl⟩ := List.mem_map.mp (Assoc.mem_of_mem_ofList hfield)
      exact Prod.ext (rekeyed_rekeyed h old.1) (ih old.2 (List.mem_map_of_mem hold))
    | _ => rfl

/-- Two keys become alike, so that the first place goes to the last value, and one key becomes one
of metadata. -/
theorem rekey_rekey_of_merged :
    let inner := Json.object [("Line Height", .null), (" A", .bool true)]
    let j := Json.object [("Font Size", .null), ("$Note", .null), ("FONT  size", .array [inner])]
    Text.Unbroken ['$'] ∧
      j.rekey ['$'] true = .object
        [("font$size", .array [.object [("line$height", .null), ("$a", .bool true)]]),
          ("$Note", .null)] ∧
      (j.rekey ['$'] true).rekey ['$'] true = j.rekey ['$'] true := by
  intro inner j
  have hunbroken : Text.Unbroken ['$'] := by decide
  exact ⟨hunbroken, rfl, rekey_rekey hunbroken true j⟩

end Json

end DesignTokens
