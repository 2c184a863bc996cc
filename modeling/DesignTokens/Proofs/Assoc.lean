import DesignTokens.Assoc

/-!
More laws of ordered maps. What a map says of a key is one of its pairs, and each of its pairs if it
holds each key once, as every map does that is made from pairs; inserting brings in no pair but the
new one, and writing the value that a key has already leaves the map as it is. Pairs that do not
repeat a key are a map as they stand.
-/

namespace DesignTokens.Assoc

variable {α β : Type} [DecidableEq α]

theorem mem_of_find? {k : α} {v : β} : ∀ {m : Assoc α β}, find? k m = some v → (k, v) ∈ m
  | [], h => by simp [find?] at h
  | (k', v') :: rest, h => by
    unfold find? at h
    split at h
    · next hk =>
      rw [Option.some.injEq] at h
      subst hk; subst h
      exact List.mem_cons_self ..
    · exact List.mem_cons_of_mem _ (mem_of_find? h)

/-- In a map that holds each key once, a pair says what the map says of its key. -/
theorem find?_of_mem {p : α × β} :
    ∀ {m : Assoc α β}, (keys m).Nodup → p ∈ m → find? p.1 m = some p.2
  | (k, v) :: rest, hm, h => by
    have hkeys : k ∉ keys rest ∧ (keys rest).Nodup := List.nodup_cons.mp hm
    unfold find?
    rcases List.mem_cons.mp h with rfl | h
    · rw [if_pos rfl]
    · have hk : k ≠ p.1 := fun hk => hkeys.1 (hk ▸ List.mem_map_of_mem h)
      rw [if_neg hk, find?_of_mem hkeys.2 h]

theorem mem_insert {k : α} {v : β} {p : α × β} :
    ∀ {m : Assoc α β}, p ∈ insert k v m → p = (k, v) ∨ p ∈ m
  | [], h => Or.inl (List.mem_singleton.mp h)
  | (k', v') :: rest, h => by
    unfold insert at h
    split at h
    · rcases List.mem_cons.mp h with rfl | h
      · exact Or.inl rfl
      · exact Or.inr (List.mem_cons_of_mem _ h)
    · rcases List.mem_cons.mp h with rfl | h
      · exact Or.inr (List.mem_cons_self ..)
      · exact (mem_insert h).imp_right (List.mem_cons_of_mem _)

theorem nodup_keys_insert {m : Assoc α β} (k : α) (v : β) (h : (keys m).Nodup) :
    (keys (insert k v m)).Nodup := by
  rw [keys_insert]
  split
  · exact h
  · next hk =>
    refine List.nodup_append.mpr ⟨h, by simp, fun a ha b hb heq => hk ?_⟩
    rw [← List.mem_singleton.mp hb, ← heq]
    exact ha

/-- A map that is made from pairs holds each key once. -/
theorem nodup_keys_ofList (pairs : List (α × β)) : (keys (ofList pairs)).Nodup := by
  suffices h : ∀ m : Assoc α β, (keys m).Nodup →
      (keys (pairs.foldl (fun m p => insert p.1 p.2 m) m)).Nodup from h [] List.nodup_nil
  induction pairs with
  | nil => exact fun _ hm => hm
  | cons p pairs ih => exact fun m hm => ih _ (nodup_keys_insert p.1 p.2 hm)

/-- A map that is made from pairs holds some of them and nothing else. -/
theorem mem_of_mem_ofList {p : α × β} {pairs : List (α × β)} (h : p ∈ ofList pairs) :
    p ∈ pairs := by
  suffices hfold : ∀ m : Assoc α β, p ∈ pairs.foldl (fun m p => insert p.1 p.2 m) m →
      p ∈ pairs ∨ p ∈ m from (hfold [] h).resolve_right List.not_mem_nil
  clear h
  induction pairs with
  | nil => exact fun _ hm => Or.inr hm
  | cons q pairs ih =>
    intro m hm
    rcases ih _ hm with hp | hp
    · exact Or.inl (List.mem_cons_of_mem q hp)
    · exact (mem_insert hp).imp_left fun heq => List.mem_cons.mpr (Or.inl heq)

/-- Writing the value that a key has already changes nothing, the order included. -/
theorem insert_of_find? {k : α} {v : β} : ∀ {m : Assoc α β}, find? k m = some v → insert k v m = m
  | [], h => by simp [find?] at h
  | (k', v') :: rest, h => by
    unfold find? at h
    unfold insert
    split at h
    · next hk =>
      rw [Option.some.injEq] at h
      rw [if_pos hk, hk, h]
    · next hk => rw [if_neg hk, insert_of_find? h]

/-- A new key goes to the end. -/
theorem insert_of_notMem {k : α} (v : β) :
    ∀ {m : Assoc α β}, k ∉ keys m → insert k v m = m ++ [(k, v)]
  | [], _ => rfl
  | (k', v') :: rest, h => by
    obtain ⟨hk, hrest⟩ := List.ne_and_not_mem_of_not_mem_cons h
    rw [insert, if_neg (Ne.symm hk), insert_of_notMem v hrest]
    rfl

/-- Pairs without a repeated key are the map that is made from them. -/
theorem ofList_of_nodup {pairs : List (α × β)} (h : (keys pairs).Nodup) : ofList pairs = pairs := by
  suffices hfold : ∀ m : Assoc α β, (keys (m ++ pairs)).Nodup →
      pairs.foldl (fun m p => insert p.1 p.2 m) m = m ++ pairs from hfold [] h
  clear h
  induction pairs with
  | nil => intro m _; exact (List.append_nil m).symm
  | cons p pairs ih =>
    intro m hm
    have hp : p.1 ∉ keys m := by
      intro hmem
      rw [keys, List.map_append] at hm
      exact (List.nodup_append.mp hm).2.2 p.1 hmem p.1 (List.mem_cons_self ..) rfl
    have hcons : m ++ p :: pairs = m ++ [p] ++ pairs := by simp
    rw [List.foldl_cons, insert_of_notMem p.2 hp, hcons]
    rw [hcons] at hm
    exact ih (m ++ [p]) hm

/-- A map that holds each key once and loses the entries whose values fail a test says of a key what
it said, if that passes. -/
theorem find?_filter_values (test : β → Bool) {k : α} :
    ∀ {m : Assoc α β}, (keys m).Nodup →
      find? k (m.filter fun p => test p.2) = (find? k m).filter test
  | [], _ => rfl
  | (k', v) :: rest, h => by
    obtain ⟨hk', hrest⟩ : k' ∉ keys rest ∧ (keys rest).Nodup := List.nodup_cons.mp h
    have ih := find?_filter_values test (k := k) hrest
    by_cases hv : test v = true
    · rw [List.filter_cons_of_pos (a := (k', v)) hv, find?, find?, ih]
      split
      · rw [Option.filter_some, if_pos hv]
      · rfl
    · rw [List.filter_cons_of_neg (a := (k', v)) hv, find?, ih]
      split
      · next hk =>
        have hnone : find? k rest = none := (find?_eq_none_iff k rest).mpr (hk ▸ hk')
        rw [hnone, Option.filter_some, if_neg hv, Option.filter_none]
      · rfl

/-- A map with its keys and values replaced says of a key what it said of the one that the key
comes from. -/
theorem find?_map_pairs {γ δ : Type} [DecidableEq γ] {f : α → γ} {g : β → δ} {k : α} {k' : γ} :
    ∀ {m : Assoc α β}, (∀ p ∈ m, f p.1 = k' ↔ p.1 = k) →
      find? k' (m.map fun p => (f p.1, g p.2)) = (find? k m).map g
  | [], _ => rfl
  | (a, b) :: rest, h => by
    obtain ⟨hfirst, hrest⟩ := List.forall_mem_cons.mp h
    rw [List.map_cons, find?, find?, find?_map_pairs hrest]
    by_cases hk : a = k
    · rw [if_pos hk, if_pos (hfirst.mpr hk), Option.map_some]
    · rw [if_neg hk, if_neg (mt hfirst.mp hk)]

end DesignTokens.Assoc
