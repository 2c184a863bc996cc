import DesignTokens.Naming
import DesignTokens.Proofs.Assoc

/-!
Documents as trees. The children of an object are its fields without those of metadata, the children
of a list are its items under their decimal indices; a path of keys leads down from child to child
(`at?`). The positions of a document are its paths in the order in which they are met from the front
of the document to its end, each in front of those below it:

    { "a": [x, y], "$b": z }     [], a, a/0, a/1

A well-formed document holds each position once, and they are the paths that lead somewhere.
-/

namespace DesignTokens

theorem natText_inj {m n : Nat} (h : natText m = natText n) : m = n := by
  have h' := congrArg (Nat.ofDigitChars 10 · 0) h
  simpa only [natText, Nat.ofDigitChars_ten_toDigits] using h'

namespace Json

/-- What lies right below a node, with the keys that lead there. -/
def children : Json → Assoc Text Json
  | .array items => items.zipIdx.map fun p => (natText p.2, p.1)
  | .object fields => fields.filter (!isReserved ·.1)
  | _ => []

/-- The node that a path leads to. -/
def at? : Json → List Text → Option Json
  | j, [] => some j
  | j, key :: path => (Assoc.find? key j.children).bind (·.at? path)

mutual

/-- The paths of a document in order, each in front of those below it. -/
def positions : Json → List (List Text)
  | .array items => [] :: positionsOfItems 0 items
  | .object fields => [] :: positionsOfFields fields
  | _ => [[]]

/-- The positions in the items of a list, of which the first has the given index. -/
def positionsOfItems (index : Nat) : List Json → List (List Text)
  | [] => []
  | item :: items => item.positions.map (natText index :: ·) ++ positionsOfItems (index + 1) items

/-- The positions in the fields of an object. -/
def positionsOfFields : List (Text × Json) → List (List Text)
  | [] => []
  | (key, value) :: fields =>
    (if isReserved key then [] else value.positions.map (key :: ·)) ++ positionsOfFields fields

end

/-! ### Children -/

theorem children_object_cons (key : Text) (value : Json) (fields : List (Text × Json)) :
    children (.object ((key, value) :: fields)) =
      (if isReserved key then [] else [(key, value)]) ++ children (.object fields) := by
  cases h : isReserved key <;> simp [children, h]

theorem sizeOf_child {j : Json} {c : Text × Json} (h : c ∈ j.children) :
    sizeOf c.2 < sizeOf j := by
  cases j with
  | array items =>
    obtain ⟨p, hp, rfl⟩ := List.mem_map.mp h
    have hitem : p.1 ∈ items := List.fst_mem_of_mem_zipIdx hp
    have hlt := List.sizeOf_lt_of_mem hitem
    rw [Json.array.sizeOf_spec]
    exact Nat.lt_add_left 1 hlt
  | object fields =>
    have hlt := List.sizeOf_lt_of_mem (List.mem_filter.mp h).1
    rw [Prod.mk.sizeOf_spec] at hlt
    rw [Json.object.sizeOf_spec]
    omega
  | _ => cases h

/-- What holds of a node when it holds of its children holds of every node. -/
theorem inductionOnChildren {motive : Json → Prop}
    (node : ∀ j, (∀ c ∈ j.children, motive c.2) → motive j) (j : Json) : motive j :=
  node j fun c _ => inductionOnChildren node c.2
termination_by sizeOf j
decreasing_by exact sizeOf_child ‹_›

theorem positionsOfItems_eq (items : List Json) : ∀ index, positionsOfItems index items =
    (items.zipIdx index).flatMap fun p => p.1.positions.map (natText p.2 :: ·) := by
  induction items with
  | nil => exact fun _ => rfl
  | cons item items ih =>
    intro index
    rw [positionsOfItems, ih, List.zipIdx_cons, List.flatMap_cons]

theorem positionsOfFields_eq (fields : List (Text × Json)) : positionsOfFields fields =
    (children (.object fields)).flatMap fun c => c.2.positions.map (c.1 :: ·) := by
  induction fields with
  | nil => rfl
  | cons field fields ih =>
    obtain ⟨key, value⟩ := field
    rw [positionsOfFields, ih, children_object_cons, List.flatMap_append]
    cases isReserved key <;> simp

/-- The positions of a node are its own and, below each of its children, those of the child. -/
theorem positions_eq (j : Json) :
    j.positions = [] :: j.children.flatMap fun c => c.2.positions.map (c.1 :: ·) := by
  cases j with
  | array items => rw [positions, positionsOfItems_eq, children, List.flatMap_map]
  | object fields => rw [positions, positionsOfFields_eq]
  | _ => simp [positions, children]

/-! ### Well-formed documents -/

theorem itemsWellFormed_iff (items : List Json) :
    ItemsWellFormed items ↔ ∀ item ∈ items, item.WellFormed := by
  induction items with
  | nil => simp [ItemsWellFormed]
  | cons item items ih => rw [ItemsWellFormed, ih, List.forall_mem_cons]

theorem fieldsWellFormed_iff (fields : List (Text × Json)) :
    FieldsWellFormed fields ↔ ∀ p ∈ fields, p.2.WellFormed := by
  induction fields with
  | nil => simp [FieldsWellFormed]
  | cons field fields ih =>
    obtain ⟨key, value⟩ := field
    rw [FieldsWellFormed, ih, List.forall_mem_cons]

theorem WellFormed.child {j : Json} (hj : j.WellFormed) {c : Text × Json} (hc : c ∈ j.children) :
    c.2.WellFormed := by
  cases j with
  | array items =>
    obtain ⟨p, hp, rfl⟩ := List.mem_map.mp hc
    rw [WellFormed, itemsWellFormed_iff] at hj
    exact hj p.1 (List.fst_mem_of_mem_zipIdx hp)
  | object fields =>
    rw [WellFormed, fieldsWellFormed_iff] at hj
    exact hj.2 c (List.mem_filter.mp hc).1
  | _ => cases hc

/-- No two children have the same key. -/
theorem WellFormed.nodup_keys {j : Json} (hj : j.WellFormed) : (Assoc.keys j.children).Nodup := by
  cases j with
  | array items =>
    have hkeys : Assoc.keys (array items).children = (List.range items.length).map natText := by
      rw [children, Assoc.keys, List.map_map, List.range_eq_range', ← List.zipIdx_map_snd 0 items,
        List.map_map]
      rfl
    rw [hkeys]
    refine List.pairwise_map.mpr (List.nodup_range.imp ?_)
    exact fun hne h => hne (natText_inj h)
  | object fields =>
    rw [WellFormed] at hj
    exact hj.1.sublist (List.filter_sublist.map Prod.fst)
  | _ => exact List.nodup_nil

theorem WellFormed.find?_child {j : Json} (hj : j.WellFormed) {c : Text × Json}
    (hc : c ∈ j.children) : Assoc.find? c.1 j.children = some c.2 :=
  Assoc.find?_of_mem hj.nodup_keys hc

theorem at?_child {j : Json} (hj : j.WellFormed) {c : Text × Json} (hc : c ∈ j.children)
    (path : List Text) : j.at? (c.1 :: path) = c.2.at? path := by
  rw [at?, hj.find?_child hc]
  rfl

/-! ### Positions -/

theorem mem_positions_cons {j : Json} {key : Text} {path : List Text} :
    key :: path ∈ j.positions ↔ ∃ c ∈ j.children, c.1 = key ∧ path ∈ c.2.positions := by
  rw [positions_eq]
  simp only [List.mem_cons, reduceCtorEq, false_or, List.mem_flatMap, List.mem_map, List.cons.injEq]
  constructor
  · rintro ⟨c, hc, p, hp, hkey, rfl⟩
    exact ⟨c, hc, hkey, hp⟩
  · rintro ⟨c, hc, hkey, hp⟩
    exact ⟨c, hc, path, hp, hkey, rfl⟩

/-- The positions of a well-formed document are the paths that lead somewhere. -/
theorem mem_positions_iff {path : List Text} : ∀ {j : Json}, j.WellFormed →
    (path ∈ j.positions ↔ (j.at? path).isSome) := by
  induction path with
  | nil =>
    intro j _
    rw [positions_eq]
    exact iff_of_true (List.mem_cons_self ..) rfl
  | cons key path ih =>
    intro j hj
    rw [mem_positions_cons]
    constructor
    · rintro ⟨c, hc, rfl, hp⟩
      rw [at?_child hj hc]
      exact (ih (hj.child hc)).mp hp
    · intro h
      cases hchild : Assoc.find? key j.children with
      | none =>
        rw [at?, hchild] at h
        cases h
      | some child =>
        have hc : (key, child) ∈ j.children := Assoc.mem_of_find? hchild
        rw [at?_child hj hc] at h
        exact ⟨(key, child), hc, rfl, (ih (hj.child hc)).mpr h⟩

/-- A well-formed document holds each position once. -/
theorem nodup_positions {j : Json} : j.WellFormed → j.positions.Nodup := by
  induction j using inductionOnChildren with
  | node j ih =>
    intro hj
    rw [positions_eq, List.nodup_cons]
    refine ⟨by simp, List.pairwise_flatMap.mpr ⟨fun c hc => ?_, ?_⟩⟩
    · -- below one child
      refine List.pairwise_map.mpr ((ih c hc (hj.child hc)).imp ?_)
      exact fun hne h => hne (List.cons.inj h).2
    · -- below two children, which have different keys
      refine (List.pairwise_map.mp hj.nodup_keys).imp fun hne p hp q hq heq => ?_
      obtain ⟨p', _, rfl⟩ := List.mem_map.mp hp
      obtain ⟨q', _, rfl⟩ := List.mem_map.mp hq
      exact hne (List.cons.inj heq).1

end Json

end DesignTokens
