import DesignTokens.Text.Basic

/-!
Splitting undoes joining. Pieces that do not hold the character they are joined by come back as they
were, however many there are; a text is cut right behind the part in front of the first occurrence.
-/

namespace DesignTokens.Text

variable {sep : Char}

theorem splitOn_of_not_mem : ∀ {t : Text}, sep ∉ t → splitOn sep t = [t]
  | [], _ => rfl
  | c :: rest, h => by
    obtain ⟨hc, hrest⟩ := List.ne_and_not_mem_of_not_mem_cons h
    rw [splitOn, if_neg (Ne.symm hc), splitOn_of_not_mem hrest]

theorem splitOn_append (rest : Text) :
    ∀ {t : Text}, sep ∉ t → splitOn sep (t ++ sep :: rest) = t :: splitOn sep rest
  | [], _ => by rw [List.nil_append, splitOn, if_pos rfl]
  | c :: t, h => by
    obtain ⟨hc, ht⟩ := List.ne_and_not_mem_of_not_mem_cons h
    rw [List.cons_append, splitOn, if_neg (Ne.symm hc), splitOn_append rest ht]

/-- Splitting gives back the pieces that were joined. -/
theorem splitOn_join : ∀ {pieces : List Text}, pieces ≠ [] → (∀ p ∈ pieces, sep ∉ p) →
    splitOn sep (join [sep] pieces) = pieces
  | [], hne, _ => absurd rfl hne
  | [p], _, h => splitOn_of_not_mem (h p (List.mem_singleton_self p))
  | p :: q :: rest, _, h => by
    obtain ⟨hp, hrest⟩ := List.forall_mem_cons.mp h
    rw [join_cons_cons, List.append_assoc, List.singleton_append, splitOn_append _ hp,
      splitOn_join (List.cons_ne_nil q rest) hrest]

theorem cut?_append (rest : Text) :
    ∀ {t : Text}, sep ∉ t → cut? sep (t ++ sep :: rest) = some (t, rest)
  | [], _ => by rw [List.nil_append, cut?, if_pos rfl]
  | c :: t, h => by
    obtain ⟨hc, ht⟩ := List.ne_and_not_mem_of_not_mem_cons h
    rw [List.cons_append, cut?, if_neg (Ne.symm hc), cut?_append rest ht]
    rfl

/-- What is cut is the text, and the part in front is free of the character. -/
theorem eq_of_cut? {a b : Text} :
    ∀ {t : Text}, cut? sep t = some (a, b) → t = a ++ sep :: b ∧ sep ∉ a
  | [], h => by simp [cut?] at h
  | c :: t, h => by
    rw [cut?] at h
    split at h
    · next hc =>
      obtain ⟨rfl, rfl⟩ : [] = a ∧ t = b := by simpa using h
      simp [hc]
    · next hc =>
      obtain ⟨⟨before, after⟩, hcut, heq⟩ := Option.map_eq_some_iff.mp h
      obtain ⟨rfl, rfl⟩ : c :: before = a ∧ after = b := by simpa using heq
      obtain ⟨rfl, hbefore⟩ := eq_of_cut? hcut
      simp [Ne.symm hc, hbefore]

/-- The pieces consist of characters of the text, and none of them is the one that was split at. -/
theorem of_mem_splitOn {c : Char} : ∀ {t piece : Text}, piece ∈ splitOn sep t → c ∈ piece →
    c ∈ t ∧ c ≠ sep
  | [], piece, hpiece, hc => by
    rw [splitOn, List.mem_singleton] at hpiece
    simp [hpiece] at hc
  | d :: t, piece, hpiece, hc => by
    rw [splitOn] at hpiece
    split at hpiece
    · rcases List.mem_cons.mp hpiece with rfl | hrest
      · simp at hc
      · obtain ⟨hmem, hne⟩ := of_mem_splitOn hrest hc
        exact ⟨List.mem_cons_of_mem d hmem, hne⟩
    · next hd =>
      cases hsplit : splitOn sep t with
      | nil => exact absurd hsplit (splitOn_ne_nil sep t)
      | cons first pieces =>
        rw [hsplit] at hpiece
        have htail : ∀ {p : Text}, p ∈ first :: pieces → c ∈ p → c ∈ d :: t ∧ c ≠ sep := by
          intro p hp hc
          obtain ⟨hmem, hne⟩ := of_mem_splitOn (hsplit ▸ hp) hc
          exact ⟨List.mem_cons_of_mem d hmem, hne⟩
        rcases List.mem_cons.mp hpiece with rfl | hrest
        · rcases List.mem_cons.mp hc with rfl | hc
          · exact ⟨List.mem_cons_self, hd⟩
          · exact htail List.mem_cons_self hc
        · exact htail (List.mem_cons_of_mem first hrest) hc

theorem not_mem_join {c : Char} {sep : Text} (hsep : c ∉ sep) :
    ∀ {pieces : List Text}, (∀ p ∈ pieces, c ∉ p) → c ∉ join sep pieces
  | [], _ => List.not_mem_nil
  | [p], h => h p (List.mem_singleton_self p)
  | p :: q :: rest, h => by
    obtain ⟨hp, hrest⟩ := List.forall_mem_cons.mp h
    rw [join_cons_cons, List.mem_append, List.mem_append, not_or, not_or]
    exact ⟨⟨hp, hsep⟩, not_mem_join hsep hrest⟩

end DesignTokens.Text
