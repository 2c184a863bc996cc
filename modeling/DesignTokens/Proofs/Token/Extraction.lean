import DesignTokens.Proofs.Json.Tree
import DesignTokens.Token
import Mathlib.Data.List.Basic

/-!
Flattening gives the tokens that can be met and no others. From the root down, a path of keys either
meets a token, which hides all that lies below it, or goes on through a group:

    group ── key ──▶ group ── key ──▶ token ── key ──▶ never looked into

A token position is a path that ends at the first token it meets and is not empty. A walk gives one
record for each of them, in the order in which the positions stand in the document.
-/

namespace DesignTokens

namespace Json

/-- Whether a node is an object with a type and a value, neither of them null. -/
def isToken (j : Json) : Bool :=
  (j.get? typeKey).any (!·.isNull) && (j.get? valueKey).any (!·.isNull)

/-- A path from the root to a token, with no token on the way; the root, if it is one, is on every
way. -/
structure IsTokenPosition (d : Json) (path : List Text) : Prop where
  ne_nil : path ≠ []
  token : ∃ j, d.at? path = some j ∧ j.isToken
  first : ∀ above, above <+: path → above ≠ path → ∀ j, d.at? above = some j → ¬j.isToken

/-- Whether a path ends at the first token it meets. -/
def meetsToken : Json → List Text → Bool
  | j, [] => j.isToken
  | j, key :: path => !j.isToken && (Assoc.find? key j.children).any (·.meetsToken path)

theorem meetsToken_iff {path : List Text} : ∀ {d : Json}, d.meetsToken path ↔
    (∃ j, d.at? path = some j ∧ j.isToken) ∧
      ∀ above, above <+: path → above ≠ path → ∀ j, d.at? above = some j → ¬j.isToken := by
  induction path with
  | nil =>
    intro d
    constructor
    · exact fun h => ⟨⟨d, rfl, h⟩, fun above hle hne => absurd (List.prefix_nil.mp hle) hne⟩
    · rintro ⟨⟨j, hj, h⟩, -⟩
      cases hj
      exact h
  | cons key path ih =>
    intro d
    cases hchild : Assoc.find? key d.children with
    | none => simp [meetsToken, at?, hchild]
    | some child =>
      have hbelow : ∀ p, d.at? (key :: p) = child.at? p := fun p => by rw [at?, hchild]; rfl
      simp only [meetsToken, hchild, Option.any_some, Bool.and_eq_true, Bool.not_eq_true',
        hbelow, ih]
      constructor
      · rintro ⟨hroot, htoken, hfirst⟩
        refine ⟨htoken, fun above hle hne j hj => ?_⟩
        cases above with
        | nil =>
          cases hj
          exact Bool.eq_false_iff.mp hroot
        | cons k above =>
          obtain ⟨rfl, hle'⟩ := List.cons_prefix_cons.mp hle
          rw [hbelow] at hj
          exact hfirst above hle' (fun heq => hne (heq ▸ rfl)) j hj
      · rintro ⟨htoken, hfirst⟩
        refine ⟨?_, htoken, fun above hle hne j hj => ?_⟩
        · exact Bool.eq_false_iff.mpr (hfirst [] List.nil_prefix (by simp) d rfl)
        · refine hfirst (key :: above) (List.cons_prefix_cons.mpr ⟨rfl, hle⟩) ?_ j ?_
          · exact fun heq => hne (List.cons.inj heq).2
          · rw [hbelow, hj]

theorem isTokenPosition_iff {d : Json} {path : List Text} :
    d.IsTokenPosition path ↔ path ≠ [] ∧ d.meetsToken path := by
  rw [meetsToken_iff]
  exact ⟨fun h => ⟨h.ne_nil, h.token, h.first⟩, fun ⟨hne, htoken, hfirst⟩ => ⟨hne, htoken, hfirst⟩⟩

instance (d : Json) : DecidablePred d.IsTokenPosition := fun _ =>
  decidable_of_iff _ isTokenPosition_iff.symm

theorem meetsToken_of_isToken {j : Json} (h : j.isToken) (key : Text) (path : List Text) :
    j.meetsToken (key :: path) = false := by
  rw [meetsToken, h]
  rfl

theorem meetsToken_child {j : Json} (hj : j.WellFormed) (h : j.isToken = false)
    {c : Text × Json} (hc : c ∈ j.children) (path : List Text) :
    j.meetsToken (c.1 :: path) = c.2.meetsToken path := by
  rw [meetsToken, h, hj.find?_child hc]
  rfl

end Json

namespace Token

variable (n : Naming) (keywords : KeywordSet)

/-! ### Walks -/

theorem walkFields_eq (path segments : List Text) (fields : List (Text × Json)) :
    walkFields n keywords path segments fields =
      (Json.children (.object fields)).flatMap fun c =>
        walk n keywords (path ++ [c.1]) (segments ++ [n.segment c.1]) c.2 := by
  induction fields with
  | nil => rfl
  | cons field fields ih =>
    obtain ⟨key, child⟩ := field
    rw [walkFields, ih, Json.children_object_cons, List.flatMap_append]
    cases isReserved key <;> simp

theorem walkItems_eq (path segments : List Text) (items : List Json) : ∀ index,
    walkItems n keywords path segments index items =
      (items.zipIdx index).flatMap fun p =>
        walk n keywords (path ++ [natText p.2]) (segments ++ [n.segment (natText p.2)]) p.1 := by
  induction items with
  | nil => exact fun _ => rfl
  | cons item items ih =>
    intro index
    rw [walkItems, ih, List.zipIdx_cons, List.flatMap_cons]

/-- The walk of a group goes through its children. -/
theorem walk_of_group {j : Json} (h : j.isToken = false) (path segments : List Text) :
    walk n keywords path segments j = j.children.flatMap fun c =>
      walk n keywords (path ++ [c.1]) (segments ++ [n.segment c.1]) c.2 := by
  cases j with
  | array items => rw [walk, walkItems_eq, Json.children, List.flatMap_map]
  | object fields =>
    have hfields : isToken fields = false := h
    rw [walk, hfields, walkFields_eq]
    rfl
  | _ => simp [walk, Json.children]

/-- The walk of a token is its record. -/
theorem walk_of_isToken {j : Json} (h : j.isToken) {path : List Text} (hpath : path ≠ [])
    (segments : List Text) :
    ∃ fields, j = .object fields ∧
      walk n keywords path segments j = [ofFields keywords path segments fields] := by
  cases j with
  | object fields =>
    have hfields : isToken fields = true := h
    refine ⟨fields, rfl, ?_⟩
    rw [walk, if_pos hfields, if_neg (by simpa using hpath)]
  | _ => cases h

/-- A token without a path is not recorded. -/
theorem walk_root {j : Json} (h : j.isToken) (segments : List Text) :
    walk n keywords [] segments j = [] := by
  cases j with
  | object fields =>
    have hfields : isToken fields = true := h
    rw [walk, if_pos hfields]
    rfl
  | _ => cases h

/-- The paths of a walk are the paths below the node that end at their first token, in order. -/
theorem map_path_walk {j : Json} : j.WellFormed → ∀ path segments,
    path ≠ [] ∨ j.isToken = false →
      (walk n keywords path segments j).map Token.path =
        (j.positions.filter j.meetsToken).map (path ++ ·) := by
  induction j using Json.inductionOnChildren with
  | node j ih =>
    intro hj path segments hor
    rw [Json.positions_eq]
    cases h : j.isToken with
    | true =>
      have hpath : path ≠ [] := hor.resolve_right (by simp [h])
      obtain ⟨fields, -, hwalk⟩ := walk_of_isToken n keywords h hpath segments
      have hroot : j.meetsToken [] := h
      have hnone : ∀ p ∈ j.children.flatMap (fun c => c.2.positions.map (c.1 :: ·)),
          ¬j.meetsToken p := by
        intro p hp
        obtain ⟨c, _, hp⟩ := List.mem_flatMap.mp hp
        obtain ⟨below, _, rfl⟩ := List.mem_map.mp hp
        simp [Json.meetsToken_of_isToken h]
      rw [hwalk, List.filter_cons_of_pos hroot, List.filter_eq_nil_iff.mpr hnone]
      simp [ofFields]
    | false =>
      have hroot : ¬j.meetsToken [] := by simp [Json.meetsToken, h]
      rw [walk_of_group n keywords h, List.filter_cons_of_neg hroot, List.filter_flatMap,
        List.map_flatMap, List.map_flatMap]
      refine List.flatMap_congr fun c hc => ?_
      have hbelow : j.meetsToken ∘ (c.1 :: ·) = c.2.meetsToken :=
        funext (Json.meetsToken_child hj h hc)
      rw [ih c hc (hj.child hc) _ _ (Or.inl (by simp)), List.filter_map, hbelow, List.map_map]
      simp [Function.comp_def]

/-- A record of a walk is that of a token below the node, with the way to it in keys and in
segments. -/
theorem of_mem_walk {j : Json} : ∀ path segments, ∀ t ∈ walk n keywords path segments j,
    ∃ below fields, (j.WellFormed → j.at? below = some (.object fields)) ∧ isToken fields ∧
      path ++ below ≠ [] ∧
      t = ofFields keywords (path ++ below) (segments ++ below.map n.segment) fields := by
  induction j using Json.inductionOnChildren with
  | node j ih =>
    intro path segments t ht
    cases h : j.isToken with
    | true =>
      by_cases hpath : path = []
      · rw [hpath, walk_root n keywords h] at ht
        cases ht
      · obtain ⟨fields, rfl, hwalk⟩ := walk_of_isToken n keywords h hpath segments
        rw [hwalk, List.mem_singleton] at ht
        exact ⟨[], fields, fun _ => rfl, h, by simpa using hpath, by simpa using ht⟩
    | false =>
      rw [walk_of_group n keywords h] at ht
      obtain ⟨c, hc, ht⟩ := List.mem_flatMap.mp ht
      obtain ⟨below, fields, hat, hfields, -, rfl⟩ := ih c hc _ _ t ht
      refine ⟨c.1 :: below, fields, fun hj => ?_, hfields, by simp, by simp⟩
      rw [Json.at?_child hj hc, hat (hj.child hc)]

/-- The path and the segments of a record are neither of them made up: one leads to the token in the
document, the other is what its keys give. -/
theorem of_mem_extract {d : Json} {t : Token} (ht : t ∈ extract n keywords d) : ∃ fields,
    (d.WellFormed → d.at? t.path = some (.object fields)) ∧ isToken fields ∧ t.path ≠ [] ∧
      t = ofFields keywords t.path (t.path.map n.segment) fields := by
  obtain ⟨below, fields, hat, hfields, hne, rfl⟩ := of_mem_walk n keywords [] [] t ht
  exact ⟨fields, hat, hfields, hne, rfl⟩

theorem value_ofFields {fields : Assoc Text Json} (h : isToken fields) (path segments : List Text) :
    (Json.object fields).get? valueKey = some (ofFields keywords path segments fields).value := by
  have hset : isSet valueKey fields := (Bool.and_eq_true_iff.mp h).2
  obtain ⟨value, hvalue, -⟩ := (Option.any_eq_true _ _).mp hset
  simp only [Json.get?, ofFields, hvalue, Option.getD_some]

theorem property_ofFields {segments : List Text} (h : segments ≠ []) (path : List Text)
    (fields : Assoc Text Json) :
    segments.getLast? = some (ofFields keywords path segments fields).property := by
  simp only [ofFields, List.getLast?_eq_some_getLast h, Option.getD_some]

/-- The paths of the records are the token positions in the order of the document. -/
theorem map_path_extract {d : Json} (hd : d.WellFormed) :
    (extract n keywords d).map Token.path = d.positions.filter d.IsTokenPosition := by
  cases h : d.isToken with
  | true =>
    -- nothing is met but the root, which has no path
    rw [extract, walk_root n keywords h, List.map_nil, eq_comm, List.filter_eq_nil_iff]
    intro path _ hposition
    obtain ⟨hne, hmeets⟩ := Json.isTokenPosition_iff.mp (of_decide_eq_true hposition)
    obtain ⟨key, rest, rfl⟩ := List.exists_cons_of_ne_nil hne
    rw [Json.meetsToken_of_isToken h] at hmeets
    cases hmeets
  | false =>
    rw [extract, map_path_walk n keywords hd [] [] (Or.inr h)]
    simp only [List.nil_append, List.map_id']
    refine List.filter_congr fun path _ => ?_
    rw [eq_comm, Bool.eq_iff_iff, decide_eq_true_iff, Json.isTokenPosition_iff]
    refine and_iff_right_of_imp fun hmeets hnil => ?_
    rw [hnil, Json.meetsToken, h] at hmeets
    cases hmeets

/-- A document gives one record for each of its token positions, in order, and no other: a path is
that of a record just when it is a token position, no two records share theirs, and each record
holds the value that its path leads to and the segments that the keys of its path give, of which the
last is its property. -/
theorem extract_exact {d : Json} (hd : d.WellFormed) :
    (extract n keywords d).map Token.path = d.positions.filter d.IsTokenPosition ∧
      (∀ path, path ∈ (extract n keywords d).map Token.path ↔ d.IsTokenPosition path) ∧
      ((extract n keywords d).map Token.path).Nodup ∧
      ∀ t ∈ extract n keywords d,
        (∃ j, d.at? t.path = some j ∧ j.get? valueKey = some t.value) ∧
          t.segments = t.path.map n.segment ∧ t.segments.getLast? = some t.property := by
  have hpaths := map_path_extract n keywords hd
  have hmem : ∀ path, path ∈ (extract n keywords d).map Token.path ↔ d.IsTokenPosition path := by
    intro path
    rw [hpaths, List.mem_filter, decide_eq_true_iff, Json.mem_positions_iff hd]
    refine and_iff_right_of_imp fun h => ?_
    obtain ⟨j, hj, -⟩ := h.token
    exact Option.isSome_of_eq_some hj
  refine ⟨hpaths, hmem, ?_, fun t ht => ?_⟩
  · rw [hpaths]
    exact (Json.nodup_positions hd).filter _
  · obtain ⟨fields, hat, hfields, hne, heq⟩ := of_mem_extract n keywords ht
    rw [heq]
    refine ⟨⟨_, hat hd, value_ofFields keywords hfields _ _⟩, rfl, ?_⟩
    exact property_ofFields keywords (mt List.map_eq_nil_iff.mp hne) _ _

/-- What lies below a token, below a key of metadata or has no value is no position; items of lists
count. -/
theorem extract_two_of_five :
    let blue := Json.object [("$type", .string "color"), ("$value", .string "blue")]
    let red := Json.object
      [("$type", .string "color"), ("$value", .string "red"), ("dark", blue)]
    let unset := Json.object [("$type", .string "color"), ("$value", .null)]
    let d := Json.object [("brand", .array [unset, red]), ("$old", blue), ("sky", blue)]
    d.WellFormed ∧
      (extract .default ⟨["color"]⟩ d).map Token.path =
        ([["brand", "1"], ["sky"]] : List (List Text)) := by
  intro blue red unset d
  have hd : d.WellFormed := by simp [d, blue, red, unset, Json.WellFormed, Json.ItemsWellFormed,
    Json.FieldsWellFormed]
  refine ⟨hd, (extract_exact _ _ hd).1.trans ?_⟩
  decide

end Token

end DesignTokens
