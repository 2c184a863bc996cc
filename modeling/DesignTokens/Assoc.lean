/-!
Ordered maps: lists of pairs in the order in which their keys were first written. Writing a key that
is there keeps its position and replaces its value, a new key goes to the end; removing a key closes
the gap. Two views say all there is to say about a map: `find?`, the value of a key, and `keys`, the
keys in order.
-/

namespace DesignTokens

/-- Pairs of a key and a value in the order in which the keys were first written. -/
abbrev Assoc (α β : Type) := List (α × β)

namespace Assoc

variable {α β : Type}

/-- The keys in order. -/
def keys (m : Assoc α β) : List α := m.map Prod.fst

variable [DecidableEq α]

/-- The value of a key. -/
def find? (k : α) : Assoc α β → Option β
  | [] => none
  | (k', v) :: rest => if k' = k then some v else find? k rest

/-- The map with `v` for the key `k`: in its place, or at the end if the key is new. -/
def insert (k : α) (v : β) : Assoc α β → Assoc α β
  | [] => [(k, v)]
  | (k', v') :: rest => if k' = k then (k, v) :: rest else (k', v') :: insert k v rest

/-- The map with `f` of the value the key had, or of `none` for a new key. -/
def alter (k : α) (f : Option β → β) (m : Assoc α β) : Assoc α β := insert k (f (find? k m)) m

/-- The map without the key. -/
def erase (k : α) (m : Assoc α β) : Assoc α β := m.filter fun p => p.1 ≠ k

/-- The map that pairs make when they are written one after the other: a repeated key keeps its
first position and takes its last value. -/
def ofList (pairs : List (α × β)) : Assoc α β :=
  pairs.foldl (fun m p => insert p.1 p.2 m) []

/-! ### The two views -/

theorem find?_insert (k k' : α) (v : β) (m : Assoc α β) :
    find? k' (insert k v m) = if k = k' then some v else find? k' m := by
  induction m with
  | nil => simp [insert, find?]
  | cons p rest ih =>
    obtain ⟨a, b⟩ := p
    unfold insert
    split
    · next h => subst h; simp only [find?]; split <;> rfl
    · next h =>
      simp only [find?, ih]
      split
      · next h' => subst h'; simp [Ne.symm h]
      · rfl

theorem keys_insert (k : α) (v : β) (m : Assoc α β) :
    keys (insert k v m) = if k ∈ keys m then keys m else keys m ++ [k] := by
  induction m with
  | nil => simp [insert, keys]
  | cons p rest ih =>
    obtain ⟨a, b⟩ := p
    unfold insert
    split
    · next h => subst h; simp [keys]
    · next h =>
      have hk : keys ((a, b) :: insert k v rest) = a :: keys (insert k v rest) := rfl
      have hk' : keys ((a, b) :: rest) = a :: keys rest := rfl
      rw [hk, hk', ih]
      by_cases hm : k ∈ keys rest
      · simp [hm]
      · simp [hm, Ne.symm h]

theorem find?_eq_none_iff (k : α) (m : Assoc α β) : find? k m = none ↔ k ∉ keys m := by
  induction m with
  | nil => simp [find?, keys]
  | cons p rest ih =>
    obtain ⟨a, b⟩ := p
    have hk : keys ((a, b) :: rest) = a :: keys rest := rfl
    unfold find?
    rw [hk]
    split
    · next h => simp [h]
    · next h => simp [ih, Ne.symm h]

theorem keys_erase (k : α) (m : Assoc α β) : keys (erase k m) = (keys m).filter (· ≠ k) := by
  simp [keys, erase, List.filter_map, Function.comp_def]

theorem find?_erase (k k' : α) (m : Assoc α β) :
    find? k' (erase k m) = if k' = k then none else find? k' m := by
  induction m with
  | nil => simp [erase, find?]
  | cons p rest ih =>
    obtain ⟨a, b⟩ := p
    by_cases h : a = k
    · subst h
      have : erase a ((a, b) :: rest) = erase a rest := by simp [erase]
      rw [this, ih]
      split
      · rfl
      · next h' => simp [find?, Ne.symm h']
    · have : erase k ((a, b) :: rest) = (a, b) :: erase k rest := by simp [erase, h]
      rw [this]
      simp only [find?, ih]
      by_cases h' : a = k'
      · subst h'; simp [h]
      · simp [h']

end Assoc

end DesignTokens
