import DesignTokens.Proofs.Json.Rekeying
import DesignTokens.Proofs.Token.Extraction
import Mathlib.Data.List.Forall2

/-!
Keys may be rewritten before a document is flattened or while it is. Rewriting the keys of the whole
document first and walking it then meets the same tokens in the same order as walking it as it
stands, and what the one walk collects as segments is the path of the other:

    document ──────────── extract ───────────▶ path, segments, value
       │                                                │
     rekey                                            rekey
       ▼                                                ▼
    document ──────────── extract ───────────▶ segments, segments, value

A token is known by keys of metadata, which are left alone; a type that is a list or an object is
written with its own keys and may change.
-/

namespace DesignTokens

namespace Json

/-- Whether a document is neither a list nor an object. -/
def isScalar : Json → Bool
  | .array _ | .object _ => false
  | _ => true

theorem rekey_of_isScalar {j : Json} (h : j.isScalar) (separator : Text) (lowercase : Bool) :
    j.rekey separator lowercase = j := by
  cases j with
  | array items => cases h
  | object fields => cases h
  | _ => rfl

theorem isNull_rekey (separator : Text) (lowercase : Bool) (j : Json) :
    (j.rekey separator lowercase).isNull = j.isNull := by
  cases j <;> rfl

theorem text?_rekey (separator : Text) (lowercase : Bool) (j : Json) :
    (j.rekey separator lowercase).text? = j.text? := by
  cases j <;> rfl

end Json

namespace Token

variable {n : Naming} (keywords : KeywordSet)

/-! ### Tokens -/

section Fields

variable {separator : Text} {lowercase : Bool} {fields : List (Text × Json)}

theorem isSet_rekey (h : Json.FieldsStayApart separator lowercase fields) {key : Text}
    (hkey : isReserved key) :
    isSet key (fields.map (Json.rekeyField separator lowercase)) = isSet key fields := by
  rw [isSet, isSet, h.find?_rekeyField hkey, Option.any_map]
  exact congrArg (Option.any · _) (funext fun j => congrArg not (j.isNull_rekey _ _))

/-- An object is a token whether its keys have been rewritten or not. -/
theorem isToken_rekey (h : Json.FieldsStayApart separator lowercase fields) :
    isToken (fields.map (Json.rekeyField separator lowercase)) = isToken fields := by
  rw [isToken, isToken, isSet_rekey h (by decide), isSet_rekey h (by decide)]

theorem description_rekey (h : Json.FieldsStayApart separator lowercase fields)
    (path path' segments : List Text) :
    (ofFields keywords path' segments
        (fields.map (Json.rekeyField separator lowercase))).description =
      (ofFields keywords path segments fields).description := by
  show (Assoc.find? descriptionKey _).bind Json.text? = (Assoc.find? descriptionKey _).bind _
  rw [h.find?_rekeyField (by decide), Option.bind_map]
  exact congrArg (Option.bind _) (funext (Json.text?_rekey separator lowercase))

theorem value_rekey (h : Json.FieldsStayApart separator lowercase fields)
    (path path' segments : List Text) :
    (ofFields keywords path' segments (fields.map (Json.rekeyField separator lowercase))).value =
      (ofFields keywords path segments fields).value.rekey separator lowercase := by
  show (Assoc.find? valueKey _).getD Json.null =
    ((Assoc.find? valueKey _).getD Json.null).rekey _ _
  rw [h.find?_rekeyField (by decide)]
  cases Assoc.find? valueKey fields <;> rfl

/-- A type that is neither a list nor an object is written as before. -/
theorem kind_rekey (h : Json.FieldsStayApart separator lowercase fields) {kind : Json}
    (hkind : Assoc.find? typeKey fields = some kind) (hscalar : kind.isScalar)
    (path path' segments : List Text) :
    (ofFields keywords path' segments (fields.map (Json.rekeyField separator lowercase))).kind =
      (ofFields keywords path segments fields).kind := by
  show ((Assoc.find? typeKey _).map Json.literal).getD [] =
    ((Assoc.find? typeKey _).map Json.literal).getD []
  rw [h.find?_rekeyField (by decide), hkind, Option.map_some,
    Json.rekey_of_isScalar hscalar]

end Fields

end Token

namespace Json

variable {separator : Text} {lowercase : Bool}

theorem isToken_rekey {j : Json} (hj : j.KeysStayApart separator lowercase) :
    (j.rekey separator lowercase).isToken = j.isToken := by
  cases j with
  | object fields =>
    rw [KeysStayApart] at hj
    rw [rekey_object hj.1]
    exact Token.isToken_rekey hj.1
  | _ => rfl

end Json

namespace Token

variable {n : Naming} (keywords : KeywordSet)

/-! ### Walks -/

/-- Two records of one token, which `below` leads to: the first walk has come to `j` by a path and
the segments of its keys, the second one by these segments as its path. -/
def SameToken (n : Naming) (j : Json) (path segments : List Text) (t t' : Token) : Prop :=
  ∃ below fields, j.at? below = some (.object fields) ∧
    Json.FieldsStayApart n.blankReplacement n.lowercase fields ∧
    t = ofFields keywords (path ++ below) (segments ++ below.map n.segment) fields ∧
    t' = ofFields keywords (segments ++ below.map n.segment) (segments ++ below.map n.segment)
      (fields.map (Json.rekeyField n.blankReplacement n.lowercase))

/-- Lists that are put together from parts that belong together belong together. -/
theorem forall₂_flatMap {α β γ : Type} {R : β → γ → Prop} {parts : List α} {f : α → List β}
    {g : α → List γ} (h : ∀ part ∈ parts, List.Forall₂ R (f part) (g part)) :
    List.Forall₂ R (parts.flatMap f) (parts.flatMap g) := by
  refine List.rel_flatten ?_
  rw [List.forall₂_map_left_iff, List.forall₂_map_right_iff, List.forall₂_same]
  exact h

variable {keywords}

theorem segment_of_replaceBlanks (h : n.replaceBlanks = true) (key : Text) :
    n.segment key = segment n.blankReplacement n.lowercase key := if_pos h

/-- A walk by way of `c` is one that has come to `c` already. -/
theorem SameToken.of_child {j : Json} (hj : j.WellFormed) {c : Text × Json} (hc : c ∈ j.children)
    {path segments : List Text} {t t' : Token}
    (h : SameToken keywords n c.2 (path ++ [c.1]) (segments ++ [n.segment c.1]) t t') :
    SameToken keywords n j path segments t t' := by
  obtain ⟨below, fields, hat, hfields, ht, ht'⟩ := h
  refine ⟨c.1 :: below, fields, ?_, hfields, by simpa using ht, by simpa using ht'⟩
  rw [Json.at?_child hj hc, hat]

variable (keywords)

/-- The walks before and after the keys are rewritten meet the same tokens. -/
theorem walk_rekey (hblanks : n.replaceBlanks = true) (hunbroken : n.blankReplacement.Unbroken)
    {j : Json} : j.KeysStayApart n.blankReplacement n.lowercase → ∀ path segments,
      (path = [] ↔ segments = []) →
      List.Forall₂ (SameToken keywords n j path segments) (walk n keywords path segments j)
        (walk n keywords segments segments (j.rekey n.blankReplacement n.lowercase)) := by
  induction j using Json.inductionOnChildren with
  | node j ih =>
    intro hj path segments hroot
    cases h : j.isToken with
    | true =>
      have h' : (j.rekey n.blankReplacement n.lowercase).isToken := by rw [Json.isToken_rekey hj, h]
      by_cases hpath : path = []
      · -- the root is not recorded
        rw [hpath, hroot.mp hpath, walk_root n keywords h, walk_root n keywords h']
        exact .nil
      · obtain ⟨fields, rfl, hwalk⟩ := walk_of_isToken n keywords h hpath segments
        obtain ⟨fields', hobject, hwalk'⟩ :=
          walk_of_isToken n keywords h' (mt hroot.mpr hpath) segments
        rw [Json.KeysStayApart] at hj
        rw [Json.rekey_object hj.1] at hobject
        obtain rfl := Json.object.inj hobject
        rw [hwalk, hwalk', List.forall₂_cons]
        exact ⟨⟨[], fields, rfl, hj.1, by simp, by simp⟩, .nil⟩
    | false =>
      have h' : (j.rekey n.blankReplacement n.lowercase).isToken = false := by
        rw [Json.isToken_rekey hj, h]
      rw [walk_of_group n keywords h, walk_of_group n keywords h', Json.children_rekey hj,
        List.flatMap_map]
      refine forall₂_flatMap fun c hc => ?_
      -- the second walk makes a segment of what is one
      have hsegment : segment n.blankReplacement n.lowercase c.1 = n.segment c.1 :=
        (segment_of_replaceBlanks hblanks c.1).symm
      have hagain : n.segment (n.segment c.1) = n.segment c.1 := by
        rw [segment_of_replaceBlanks hblanks (n.segment c.1), ← hsegment,
          segment_segment hunbroken]
      have hbelow := ih c hc (hj.child hc) (path ++ [c.1]) (segments ++ [n.segment c.1])
        (iff_of_false (by simp) (by simp))
      simp only [hsegment, hagain]
      exact hbelow.imp fun _ _ => SameToken.of_child hj.wellFormed hc

/-- Rewriting the keys of a document and flattening it gives as many tokens as flattening it as it
stands, and in the same order those of the same paths: the path of each is what the segments were,
and it keeps its segments, its description and its property. Its value is the old one with its keys
rewritten; its type is the old one unless that was a list or an object. -/
theorem extract_rekey (hblanks : n.replaceBlanks = true)
    (hunbroken : n.blankReplacement.Unbroken) {d : Json}
    (hd : d.KeysStayApart n.blankReplacement n.lowercase) :
    List.Forall₂
      (fun t t' => t'.path = t.segments ∧ t'.segments = t.segments ∧
        t'.description = t.description ∧ t'.property = t.property ∧ t'.isCustom = t.isCustom ∧
        t'.value = t.value.rekey n.blankReplacement n.lowercase ∧
        ∀ kind, (d.at? t.path).bind (Json.get? typeKey) = some kind → kind.isScalar →
          t'.kind = t.kind)
      (extract n keywords d)
      (extract n keywords (d.rekey n.blankReplacement n.lowercase)) := by
  refine (walk_rekey keywords hblanks hunbroken hd [] [] Iff.rfl).imp ?_
  rintro _ _ ⟨below, fields, hat, hfields, rfl, rfl⟩
  refine ⟨rfl, rfl, description_rekey keywords hfields _ _ _, rfl, rfl,
    value_rekey keywords hfields _ _ _, fun kind hkind hscalar => ?_⟩
  have hfound : Assoc.find? typeKey fields = some kind := by
    have hpath : d.at? ([] ++ below) = some (.object fields) := hat
    rw [show (ofFields keywords ([] ++ below) _ fields).path = [] ++ below from rfl, hpath] at hkind
    exact hkind
  exact kind_rekey keywords hfields hfound hscalar _ _ _

/-- Keys with capitals and blanks, a value with keys of its own, and a list. -/
theorem extract_rekey_of_two :
    let fill := Json.object [("Light Mode", .string "white"), ("Dark Mode", .string "black")]
    let primary := Json.object
      [("$type", .string "color"), ("$value", fill), ("$description", .string "Main Fill")]
    let step := Json.object [("$type", .string "dimension"), ("$value", .string "4px")]
    let d := Json.object
      [("Brand", .object [("$Old Name", .null), ("Primary Fill", primary)]),
        ("Steps", .array [step])]
    Naming.default.replaceBlanks = true ∧ Naming.default.blankReplacement.Unbroken ∧
      d.KeysStayApart Naming.default.blankReplacement Naming.default.lowercase ∧
      (extract .default ⟨["color"]⟩
        (d.rekey Naming.default.blankReplacement Naming.default.lowercase)).map Token.path =
          ([["brand", "primary-fill"], ["steps", "0"]] : List (List Text)) := by
  intro fill primary step d
  have hunbroken : Naming.default.blankReplacement.Unbroken := by decide
  have hd : d.KeysStayApart Naming.default.blankReplacement Naming.default.lowercase := by
    simp only [d, fill, primary, step, Json.KeysStayApart, Json.KeysOfFieldsStayApart,
      Json.KeysOfItemsStayApart, and_true]
    decide
  have hrecords := extract_rekey ⟨["color"]⟩ rfl hunbroken hd
  have hpaths : List.Forall₂ Eq ((extract .default _ d).map Token.segments)
      ((extract .default _ (d.rekey _ _)).map Token.path) :=
    List.forall₂_map_left_iff.mpr
      (List.forall₂_map_right_iff.mpr (hrecords.imp fun _ _ h => h.1.symm))
  rw [List.forall₂_eq_eq_eq] at hpaths
  refine ⟨rfl, hunbroken, hd, hpaths.symm.trans ?_⟩
  decide

end Token

end DesignTokens
