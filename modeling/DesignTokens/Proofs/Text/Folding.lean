import DesignTokens.Proofs.Text.Lowering

/-!
The case of the letters `a` to `z` is lost when a text is made small. The two forms of such a letter
have one small form, and a capital sigma sees no difference between them either: both have a case,
and neither is passed over.

    Card-ΟΔΟΣ ── fold ──▶ card-ΟΔΟΣ
        │                     │
      lower                 lower
        ▼                     ▼
    card-οδος  ═════════  card-οδος

A text with these letters made small is therefore a common form of all texts that differ from it in
their case only, and folding it a second time changes nothing.
-/

namespace DesignTokens

/-! ### Characters -/

/-- A function that takes the two forms of the letters `a` to `z` for the same takes all characters
for the same as their small letters, since no other character has one. -/
theorem apply_toLower {α : Type} {f : Char → α}
    (h : ∀ n < 128, f (Char.ofNat n).toLower = f (Char.ofNat n)) (c : Char) :
    f c.toLower = f c := by
  rcases Nat.lt_or_ge c.toNat 128 with hlt | hge
  · simpa only [Char.ofNat_toNat] using h c.toNat hlt
  · have hkeep : c.toLower = c := by
      refine dif_neg ?_
      rintro ⟨-, hlast⟩
      have hle : c.toNat ≤ 90 := hlast
      omega
    rw [hkeep]

theorem toLower_toLower (c : Char) : c.toLower.toLower = c.toLower :=
  apply_toLower (by decide) c

theorem isCased_toLower (c : Char) : isCased c.toLower = isCased c :=
  apply_toLower (by decide +kernel) c

theorem isCaseIgnorable_toLower (c : Char) : isCaseIgnorable c.toLower = isCaseIgnorable c :=
  apply_toLower (by decide +kernel) c

theorem smallForm_toLower_eq (c : Char) : smallForm c.toLower = smallForm c :=
  apply_toLower (by decide +kernel) c

theorem toLower_eq_sigma_iff (c : Char) : c.toLower = 'Σ' ↔ c = 'Σ' := by
  rw [← decide_eq_decide]
  exact apply_toLower (f := fun c => decide (c = 'Σ')) (by decide) c

namespace Text

/-! ### Texts -/

theorem foldCase_foldCase (t : Text) : foldCase (foldCase t) = foldCase t := by
  rw [foldCase, foldCase, List.map_map]
  exact List.map_congr_left fun c _ => toLower_toLower c

/-- A text compares as its folded form does. -/
@[simp] theorem foldCase_sameName (a b : Text) : sameName (foldCase a) b = sameName a b := by
  rw [sameName, foldCase_foldCase, sameName]

@[simp] theorem sameName_foldCase (a b : Text) : sameName a (foldCase b) = sameName a b := by
  rw [sameName, foldCase_foldCase, sameName]

theorem meetsCased_foldCase (t : Text) : meetsCased (foldCase t) = meetsCased t := by
  have hpassed : isCaseIgnorable ∘ Char.toLower = isCaseIgnorable := funext isCaseIgnorable_toLower
  rw [meetsCased, meetsCased, foldCase, List.dropWhile_map, hpassed]
  cases t.dropWhile isCaseIgnorable with
  | nil => rfl
  | cons c rest => exact isCased_toLower c

theorem lowerAfter_foldCase (t : Text) :
    ∀ before, lowerAfter (foldCase before) (foldCase t) = lowerAfter before t := by
  induction t with
  | nil => exact fun _ => rfl
  | cons c rest ih =>
    intro before
    have hrest : lowerAfter (c.toLower :: foldCase before) (foldCase rest) =
        lowerAfter (c :: before) rest := ih (c :: before)
    have hsigma : smallSigma (foldCase before) (foldCase rest) = smallSigma before rest := by
      rw [smallSigma, smallSigma, meetsCased_foldCase, meetsCased_foldCase]
    show lowerAfter (foldCase before) (c.toLower :: foldCase rest) = _
    rw [lowerAfter, lowerAfter, hrest, hsigma, smallForm_toLower_eq]
    simp only [toLower_eq_sigma_iff]

/-- Folding is lost in lowering. -/
theorem lower_foldCase (t : Text) : lower (foldCase t) = lower t := lowerAfter_foldCase t []

/-- A function that does not see whether a text is folded takes names that are alike for the
same. -/
theorem apply_eq_of_sameName {α : Type} {f : Text → α} (hf : ∀ t, f (foldCase t) = f t) {a b : Text}
    (h : a.sameName b) : f a = f b := by
  rw [← hf a, (sameName_iff a b).mp h, hf]

end Text

end DesignTokens
