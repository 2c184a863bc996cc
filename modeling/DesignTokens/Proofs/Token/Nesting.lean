import DesignTokens.Css.Variables
import DesignTokens.Proofs.Json.Tree
import Mathlib.Data.List.Induction

/-!
Tokens in a nested object. A token writes its value at the end of its keys. What it does to another
place depends on how the keys that lead there lie to its own:

    its keys                a b                    a b                 a b
    the other place         a        an object     a b c    gone       a c      as before

So of all tokens whose keys lead to a place, the last one is found there, unless a later token has
cut its keys short or gone on behind them (`follow?_nestedObject_iff`). Objects come up on the way
to a value only, so none of them is empty but that of no tokens at all.
-/

namespace DesignTokens

namespace Json

/-- The node that keys lead to, from object to object. -/
def follow? : Json → List Text → Option Json
  | j, [] => some j
  | j, key :: keys => (j.get? key).bind (·.follow? keys)

theorem follow?_object_cons (fields : Assoc Text Json) (key : Text) (keys : List Text) :
    follow? (.object fields) (key :: keys) = (Assoc.find? key fields).bind (·.follow? keys) := rfl

/-- Below a node there is what its fields hold. -/
theorem follow?_fields (j : Json) {keys : List Text} (hkeys : keys ≠ []) :
    follow? (.object j.fields) keys = j.follow? keys := by
  obtain ⟨key, keys, rfl⟩ := List.exists_cons_of_ne_nil hkeys
  cases j <;> rfl

end Json

open Json

/-! ### Writing one value -/

section Writing

variable {value : Json} {fields : Assoc Text Json}

/-- The fields of what stands under a key. -/
def fieldsUnder (key : Text) (fields : Assoc Text Json) : Assoc Text Json :=
  ((Assoc.find? key fields).map Json.fields).getD []

theorem insertNested_cons (key : Text) {keys : List Text} (hkeys : keys ≠ []) :
    insertNested value (key :: keys) fields =
      Assoc.insert key (.object (insertNested value keys (fieldsUnder key fields))) fields := by
  obtain ⟨next, keys, rfl⟩ := List.exists_cons_of_ne_nil hkeys
  rfl

theorem insertNested_ne_nil {keys : List Text} (hkeys : keys ≠ []) :
    insertNested value keys fields ≠ [] := by
  have hinsert : ∀ (key : Text) (v : Json) (m : Assoc Text Json), Assoc.insert key v m ≠ [] := by
    intro key v m
    cases m with
    | nil => exact List.cons_ne_nil _ _
    | cons p rest =>
      unfold Assoc.insert
      split <;> exact List.cons_ne_nil _ _
  obtain ⟨key, keys, rfl⟩ := List.exists_cons_of_ne_nil hkeys
  cases keys with
  | nil => exact hinsert key value fields
  | cons next keys => exact hinsert key _ fields

/-- Under a key, the fields lead where the node leads. -/
theorem follow?_fieldsUnder (key : Text) {path : List Text} (hpath : path ≠ []) :
    follow? (.object (fieldsUnder key fields)) path = follow? (.object fields) (key :: path) := by
  rw [follow?_object_cons, fieldsUnder]
  cases Assoc.find? key fields with
  | none =>
    obtain ⟨next, path, rfl⟩ := List.exists_cons_of_ne_nil hpath
    rfl
  | some j => exact j.follow?_fields hpath

/-- The value is found at its keys, and below them what is below the value. -/
theorem follow?_insertNested_append {keys : List Text} (hkeys : keys ≠ []) (more : List Text) :
    follow? (.object (insertNested value keys fields)) (keys ++ more) = value.follow? more := by
  induction keys generalizing fields with
  | nil => exact absurd rfl hkeys
  | cons key keys ih =>
    rw [List.cons_append, follow?_object_cons]
    cases keys with
    | nil => rw [insertNested, Assoc.find?_insert, if_pos rfl, Option.bind_some, List.nil_append]
    | cons next keys =>
      rw [insertNested_cons key (List.cons_ne_nil next keys), Assoc.find?_insert, if_pos rfl,
        Option.bind_some, ih (List.cons_ne_nil next keys)]

/-- On the way to the value there are objects, and none of them is empty. -/
theorem follow?_insertNested_of_append {path more : List Text} (hmore : more ≠ []) :
    ∃ inner : Assoc Text Json, inner ≠ [] ∧
      follow? (.object (insertNested value (path ++ more) fields)) path = some (.object inner) := by
  induction path generalizing fields with
  | nil => exact ⟨_, insertNested_ne_nil hmore, rfl⟩
  | cons key path ih =>
    obtain ⟨inner, hne, hinner⟩ := @ih (fieldsUnder key fields)
    refine ⟨inner, hne, ?_⟩
    rw [List.cons_append, insertNested_cons key (List.append_ne_nil_of_right_ne_nil path hmore),
      follow?_object_cons, Assoc.find?_insert, if_pos rfl, Option.bind_some, hinner]

/-- A place that neither lies on the way to the value nor behind it is left as it is. -/
theorem follow?_insertNested_of_apart {keys path : List Text} (hbehind : ¬keys <+: path)
    (hway : ¬path <+: keys) :
    follow? (.object (insertNested value keys fields)) path = follow? (.object fields) path := by
  induction keys generalizing fields path with
  | nil => exact absurd List.nil_prefix hbehind
  | cons key keys ih =>
    cases path with
    | nil => exact absurd List.nil_prefix hway
    | cons first path =>
      rw [List.cons_prefix_cons, not_and] at hbehind hway
      by_cases hkey : key = first
      · subst hkey
        have hpath : path ≠ [] := by
          rintro rfl
          exact hway rfl List.nil_prefix
        have hkeys : keys ≠ [] := by
          rintro rfl
          exact hbehind rfl List.nil_prefix
        rw [insertNested_cons key hkeys, follow?_object_cons, Assoc.find?_insert, if_pos rfl,
          Option.bind_some, ih (hbehind rfl) (hway rfl), follow?_fieldsUnder key hpath]
      · have hother : ∀ v, follow? (.object (Assoc.insert key v fields)) (first :: path) =
            follow? (.object fields) (first :: path) := by
          intro v
          rw [follow?_object_cons, Assoc.find?_insert, if_neg hkey]
          rfl
        cases keys with
        | nil => exact hother value
        | cons next keys => exact hother _

/-- A place lies behind the value, on the way to it or apart from it. -/
theorem follow?_insertNested (value : Json) (fields : Assoc Text Json) {keys : List Text}
    (hkeys : keys ≠ []) (path : List Text) :
    let found := follow? (.object (insertNested value keys fields)) path
    (∃ more, path = keys ++ more ∧ found = value.follow? more) ∨
      (¬keys <+: path ∧ path <+: keys ∧ ∃ inner : Assoc Text Json, inner ≠ [] ∧
        found = some (.object inner)) ∨
      (¬keys <+: path ∧ ¬path <+: keys ∧ found = follow? (.object fields) path) := by
  intro found
  by_cases hbehind : keys <+: path
  · obtain ⟨more, rfl⟩ := hbehind
    exact .inl ⟨more, rfl, follow?_insertNested_append hkeys more⟩
  · refine .inr ?_
    by_cases hway : path <+: keys
    · obtain ⟨more, rfl⟩ := hway
      have hmore : more ≠ [] := by
        rintro rfl
        rw [List.append_nil] at hbehind
        exact hbehind (List.prefix_refl path)
      exact .inl ⟨hbehind, List.prefix_append path more, follow?_insertNested_of_append hmore⟩
    · exact .inr ⟨hbehind, hway, follow?_insertNested_of_apart hbehind hway⟩

theorem wellFormed_insert {key : Text} (hvalue : value.WellFormed)
    (hfields : (Json.object fields).WellFormed) :
    (Json.object (Assoc.insert key value fields)).WellFormed := by
  rw [WellFormed, fieldsWellFormed_iff] at hfields ⊢
  refine ⟨Assoc.nodup_keys_insert key value hfields.1, fun p hp => ?_⟩
  rcases Assoc.mem_insert hp with rfl | hp
  · exact hvalue
  · exact hfields.2 p hp

theorem wellFormed_fieldsUnder (key : Text) (hfields : (Json.object fields).WellFormed) :
    (Json.object (fieldsUnder key fields)).WellFormed := by
  have hempty : (Json.object []).WellFormed := by
    rw [WellFormed]
    exact ⟨List.nodup_nil, trivial⟩
  rw [WellFormed, fieldsWellFormed_iff] at hfields
  rw [fieldsUnder]
  cases hfind : Assoc.find? key fields with
  | none => exact hempty
  | some j =>
    have hj : j.WellFormed := hfields.2 (key, j) (Assoc.mem_of_find? hfind)
    cases j with
    | object inner => exact hj
    | _ => exact hempty

theorem wellFormed_insertNested {keys : List Text} (hvalue : value.WellFormed)
    (hfields : (Json.object fields).WellFormed) :
    (Json.object (insertNested value keys fields)).WellFormed := by
  induction keys generalizing fields with
  | nil => exact hfields
  | cons key keys ih =>
    cases keys with
    | nil => exact wellFormed_insert hvalue hfields
    | cons next keys => exact wellFormed_insert (ih (wellFormed_fieldsUnder key hfields)) hfields

end Writing

/-! ### All tokens -/

variable {c : Config} {tokens : List Token} {path : List Text}

/-- The text that a token has in the nested object. -/
def nestedText (c : Config) (t : Token) : Text := t.formatted c.useCodeSyntax c.decimals.toNat

/-- One token more is one value more. -/
theorem nestedObject_concat (c : Config) (tokens : List Token) (t : Token) :
    nestedObject c (tokens ++ [t]) =
      .object (insertNested (.string (nestedText c t)) (nestedKeys c t)
        (nestedObject c tokens).fields) := by
  rw [nestedObject, List.foldl_append]
  rfl

theorem object_fields_nestedObject (c : Config) (tokens : List Token) :
    Json.object (nestedObject c tokens).fields = nestedObject c tokens := rfl

/-- A token of these keys after which no token cuts the keys short, repeats them or goes on behind
them. -/
def Survives (c : Config) (tokens : List Token) (path : List Text) (t : Token) : Prop :=
  ∃ before after, tokens = before ++ t :: after ∧ nestedKeys c t = path ∧
    ∀ later ∈ after, ¬nestedKeys c later <+: path ∧ ¬path <+: nestedKeys c later

theorem survives_concat {t u : Token} :
    Survives c (tokens ++ [u]) path t ↔
      (t = u ∧ nestedKeys c u = path) ∨
        (Survives c tokens path t ∧ ¬nestedKeys c u <+: path ∧ ¬path <+: nestedKeys c u) := by
  constructor
  · rintro ⟨before, after, heq, hkeys, hlater⟩
    rcases List.eq_nil_or_concat after with rfl | ⟨after, last, rfl⟩
    · obtain ⟨-, hlast⟩ := List.append_inj' heq rfl
      obtain rfl := List.singleton_inj.mp hlast
      exact .inl ⟨rfl, hkeys⟩
    · rw [List.concat_eq_append, ← List.cons_append, ← List.append_assoc] at heq
      rw [List.concat_eq_append] at hlater
      obtain ⟨htokens, hlast⟩ := List.append_inj' heq rfl
      obtain rfl := List.singleton_inj.mp hlast
      obtain ⟨hlater, hlast⟩ := List.forall_mem_append.mp hlater
      exact .inr ⟨⟨before, after, htokens, hkeys, hlater⟩, hlast u (List.mem_singleton_self u)⟩
  · rintro (⟨rfl, hkeys⟩ | ⟨⟨before, after, rfl, hkeys, hlater⟩, hlast⟩)
    · exact ⟨tokens, [], rfl, hkeys, List.forall_mem_nil _⟩
    · refine ⟨before, after ++ [u], by simp, hkeys, List.forall_mem_append.mpr ⟨hlater, ?_⟩⟩
      exact List.forall_mem_singleton.mpr hlast

theorem nestedKeys_ne_nil {t : Token} (h : t.segments ≠ []) : nestedKeys c t ≠ [] :=
  fun hnil => h (List.map_eq_nil_iff.mp hnil)

/-- A text is found where a token survives, and nowhere else. -/
theorem follow?_nestedObject_iff (htokens : ∀ t ∈ tokens, t.segments ≠ []) {text : Text} :
    (nestedObject c tokens).follow? path = some (.string text) ↔
      ∃ t, Survives c tokens path t ∧ nestedText c t = text := by
  induction tokens using List.reverseRecOn with
  | nil =>
    refine iff_of_false ?_ ?_
    · cases path <;> simp [nestedObject, follow?, get?, Assoc.find?]
    · rintro ⟨t, ⟨before, after, heq, -⟩, -⟩
      simp at heq
  | append_singleton tokens u ih =>
    obtain ⟨htokens, hu⟩ := List.forall_mem_append.mp htokens
    have hkeys := nestedKeys_ne_nil (c := c) (hu u (List.mem_singleton_self u))
    simp only [survives_concat]
    rw [nestedObject_concat]
    rcases follow?_insertNested (.string (nestedText c u)) (nestedObject c tokens).fields hkeys
        path with
      ⟨more, rfl, hfound⟩ | ⟨hbehind, hway, inner, -, hfound⟩ | ⟨hbehind, hway, hfound⟩
    · rw [hfound]
      cases more with
      | nil => simp [follow?]
      | cons key more => simp [follow?, get?]
    · have hkeys : nestedKeys c u ≠ path := fun heq => hbehind (heq ▸ List.prefix_refl _)
      rw [hfound]
      simp [hkeys, hway]
    · have hkeys : nestedKeys c u ≠ path := fun heq => hbehind (heq ▸ List.prefix_refl _)
      rw [hfound, object_fields_nestedObject, ih htokens]
      simp [hkeys, hbehind, hway]

/-- Objects come up on the way to values, so only the one at the root can be empty. -/
theorem ne_nil_of_follow?_nestedObject (htokens : ∀ t ∈ tokens, t.segments ≠ [])
    (hpath : path ≠ []) {fields : Assoc Text Json}
    (h : (nestedObject c tokens).follow? path = some (.object fields)) : fields ≠ [] := by
  induction tokens using List.reverseRecOn with
  | nil =>
    obtain ⟨key, path, rfl⟩ := List.exists_cons_of_ne_nil hpath
    simp [nestedObject, follow?, get?, Assoc.find?] at h
  | append_singleton tokens u ih =>
    obtain ⟨htokens, hu⟩ := List.forall_mem_append.mp htokens
    have hkeys := nestedKeys_ne_nil (c := c) (hu u (List.mem_singleton_self u))
    rw [nestedObject_concat] at h
    rcases follow?_insertNested (.string (nestedText c u)) (nestedObject c tokens).fields hkeys
        path with
      ⟨more, -, hfound⟩ | ⟨-, -, inner, hinner, hfound⟩ | ⟨-, -, hfound⟩
    · rw [hfound] at h
      cases more <;> simp [follow?, get?] at h
    · rw [hfound] at h
      cases h
      exact hinner
    · rw [hfound] at h
      exact ih htokens h

theorem wellFormed_nestedObject (c : Config) (tokens : List Token) :
    (nestedObject c tokens).WellFormed := by
  induction tokens using List.reverseRecOn with
  | nil =>
    rw [nestedObject, List.foldl_nil, WellFormed]
    exact ⟨List.nodup_nil, trivial⟩
  | append_singleton tokens u ih =>
    have hvalue : (Json.string (nestedText c u)).WellFormed := by simp [WellFormed]
    rw [nestedObject_concat]
    exact wellFormed_insertNested hvalue ih

/-- The nested object that is written holds exactly the tokens that survive: keys lead to a text
just if they are those of a token behind which no token has keys that begin them, repeat them or go
on behind them, and the text is that token's value. Each object holds each of its keys once, and
below the root none is empty. -/
theorem nested_holds_survivors (c : Config) {tokens : List Token}
    (htokens : ∀ t ∈ tokens, t.segments ≠ []) :
    let root := nestedObject c tokens
    nestedJson c tokens = root.pretty ∧ root.WellFormed ∧
      (∀ path text, root.follow? path = some (.string text) ↔
        ∃ t, Survives c tokens path t ∧ nestedText c t = text) ∧
      ∀ path fields, path ≠ [] → root.follow? path = some (.object fields) → fields ≠ [] :=
  ⟨rfl, wellFormed_nestedObject c tokens, fun _ _ => follow?_nestedObject_iff htokens,
    fun _ _ hpath h => ne_nil_of_follow?_nestedObject htokens hpath h⟩

/-- A group takes the place of a value, and a value that of a group with all that is in it. -/
theorem nested_holds_two_of_four :
    let token := fun (segments : List Text) (value : Text) =>
      (⟨segments, segments, "dimension", .string value, none, none, [], false⟩ : Token)
    let tokens := [token ["Space", "Small"] "4.50px", token ["space", "small", "inner"] "8px",
      token ["Gap", "x"] "1px", token ["gap"] "2.0px"]
    let root := nestedObject .default tokens
    (∀ t ∈ tokens, t.segments ≠ []) ∧
      root.follow? ["space", "small", "inner"] = some (.string "8px") ∧
      root.follow? ["gap"] = some (.string "2px") ∧
      ∀ fields, root.follow? ["space", "small"] = some (.object fields) → fields ≠ [] := by
  intro token tokens root
  have htokens : ∀ t ∈ tokens, t.segments ≠ [] := by decide
  obtain ⟨-, -, htexts, hobjects⟩ := nested_holds_survivors .default htokens
  refine ⟨htokens, (htexts _ _).mpr ⟨tokens[1], ⟨[tokens[0]], [tokens[2], tokens[3]], rfl, ?_⟩, ?_⟩,
    (htexts _ _).mpr ⟨tokens[3], ⟨[tokens[0], tokens[1], tokens[2]], [], rfl, ?_⟩, ?_⟩,
    fun fields => hobjects _ fields (List.cons_ne_nil _ _)⟩
  all_goals decide +kernel

end DesignTokens
