import DesignTokens.Css.Width
import Mathlib.Tactic.Common

/-!
Ranges of widths fill the gaps that other inputs leave. A width is in the gap of an input when it
lies above the upper widths of all other inputs and below their lower widths:

    upper widths  ────┤
                  ──────────┤
                             ░░░░░░ gap ░░░░░░
                                              ├───────  lower widths
                                                 ├────

Of the upper widths only the largest matters and of the lower ones only the smallest, so the range
between these two holds what lies in the gap and nothing else (`contains_between`). If that is no
width at all the range is left to the reader, and without any bound it holds all widths. Above the
largest width that there is nothing is left; it counts as the width below it (`reach`).
-/

namespace DesignTokens.WidthRange

/-- The width is in the range. -/
def Contains : WidthRange → UInt32 → Prop
  | .bounded min max, w => (∀ first ∈ min, first ≤ w) ∧ ∀ last ∈ max, w ≤ last
  | .unbounded, _ => True
  | .manual, _ => False

/-- How far an upper width reaches: the largest width there is leaves itself free. -/
def reach (max : UInt32) : UInt32 := if max = 0xFFFFFFFF then 0xFFFFFFFE else max

/-- The variant is that of another input. -/
def IsOther (variants : List FileVariant) (index : Nat) (v : FileVariant) : Prop :=
  ∃ i, i ≠ index ∧ variants[i]? = some v

/-- The width is above the upper widths of all other inputs and below their lower widths. -/
structure InGap (variants : List FileVariant) (index : Nat) (w : UInt32) : Prop where
  above : ∀ v, IsOther variants index v → ∀ max ∈ v.maxWidth, reach max < w
  below : ∀ v, IsOther variants index v → ∀ min ∈ v.minWidth, w < min

/-! ### Neighbouring widths -/

section Neighbours

variable {min max w : UInt32}

theorem toNat_succ (max : UInt32) :
    (succ max).toNat = if max.toNat = 4294967295 then max.toNat else max.toNat + 1 := by
  have hlargest : max = 0xFFFFFFFF ↔ max.toNat = 4294967295 := UInt32.toNat_inj.symm
  have hlt := max.toNat_lt
  unfold succ
  simp only [hlargest]
  split
  · rfl
  · rw [UInt32.toNat_add, UInt32.toNat_one]
    omega

/-- The widths from the next one on are those beyond the reach. -/
theorem succ_le_iff : succ max ≤ w ↔ reach max < w := by
  have hlargest : max = 0xFFFFFFFF ↔ max.toNat = 4294967295 := UInt32.toNat_inj.symm
  have hmax := max.toNat_lt
  have hw := w.toNat_lt
  rw [UInt32.le_iff_toNat_le, toNat_succ, UInt32.lt_iff_toNat_lt]
  unfold reach
  simp only [hlargest]
  split
  · show _ ↔ 4294967294 < w.toNat
    omega
  · omega

/-- The widths up to the previous one are those below. -/
theorem le_pred_iff (h : min ≠ 0) : w ≤ min - 1 ↔ w < min := by
  have hpos : min.toNat ≠ 0 := fun hzero => h (UInt32.toNat_inj.mp hzero)
  have hone : (1 : UInt32) ≤ min := by
    rw [UInt32.le_iff_toNat_le, UInt32.toNat_one]
    omega
  rw [UInt32.le_iff_toNat_le, UInt32.lt_iff_toNat_lt, UInt32.toNat_sub_of_le _ _ hone,
    UInt32.toNat_one]
  omega

theorem succ_le_succ (h : min ≤ max) : succ min ≤ succ max := by
  have hmax := max.toNat_lt
  rw [UInt32.le_iff_toNat_le] at h ⊢
  rw [toNat_succ, toNat_succ]
  split <;> split <;> omega

end Neighbours

/-! ### Largest and smallest widths -/

section Extremes

variable {ws : List UInt32} {w : UInt32}

instance : Std.LawfulOrderMax UInt32 where
  max_eq_or a b := by
    show (if a ≤ b then b else a) = a ∨ (if a ≤ b then b else a) = b
    split
    · exact .inr rfl
    · exact .inl rfl
  max_le_iff a b c := by
    show (if a ≤ b then b else a) ≤ c ↔ a ≤ c ∧ b ≤ c
    simp only [UInt32.le_iff_toNat_le]
    split <;> omega

/-- What is beyond the reach of the largest width is beyond the reach of all. -/
theorem reach_largest_lt_iff : (∀ max ∈ largest ws, reach max < w) ↔ ∀ max ∈ ws, reach max < w := by
  unfold largest
  cases hmax : ws.max? with
  | none => simp [List.max?_eq_none_iff.mp hmax]
  | some m =>
    obtain ⟨hmem, hle⟩ := List.max?_eq_some_iff.mp hmax
    constructor
    · intro h max hmem'
      have hm : succ m ≤ w := succ_le_iff.mpr (h m rfl)
      exact succ_le_iff.mp (UInt32.le_trans (succ_le_succ (hle max hmem')) hm)
    · rintro h max ⟨⟩
      exact h m hmem

/-- What is below the smallest width is below all. -/
theorem lt_smallest_iff : (∀ min ∈ smallest ws, w < min) ↔ ∀ min ∈ ws, w < min := by
  unfold smallest
  cases hmin : ws.min? with
  | none => simp [List.min?_eq_none_iff.mp hmin]
  | some m =>
    obtain ⟨hmem, hle⟩ := List.min?_eq_some_iff.mp hmin
    constructor
    · intro h min hmem'
      exact UInt32.lt_of_lt_of_le (h m rfl) (hle min hmem')
    · rintro h min ⟨⟩
      exact h m hmem

end Extremes

/-! ### The range between two widths -/

section Between

variable {upper lower : Option UInt32} {min max w : UInt32}

theorem between_zero (upper : Option UInt32) : between upper (some 0) = .manual := by
  cases upper <;> rfl

theorem between_of_no_upper (h : min ≠ 0) :
    between none (some min) = .bounded none (some (min - 1)) := by
  unfold between
  split
  · next hzero => exact absurd (Option.some.inj hzero) h
  all_goals simp_all

theorem between_of_both (h : min ≠ 0) : between (some max) (some min) =
    if min - 1 < succ max then .manual else .bounded (some (succ max)) (some (min - 1)) := by
  unfold between
  split
  · next hzero => exact absurd (Option.some.inj hzero) h
  all_goals simp_all

/-- The range holds what is beyond the reach of the one width and below the other, and nothing
else. -/
theorem contains_between : (between upper lower).Contains w ↔
    (∀ max ∈ upper, reach max < w) ∧ ∀ min ∈ lower, w < min := by
  cases lower with
  | none =>
    cases upper with
    | none => simp [between, Contains]
    | some max =>
      show Contains (.bounded (some (succ max)) none) w ↔ _
      simp [Contains, succ_le_iff]
  | some min =>
    by_cases hzero : min = 0
    · subst hzero
      simp [between_zero, Contains, UInt32.not_lt_zero]
    · cases upper with
      | none => simp [between_of_no_upper hzero, Contains, le_pred_iff hzero]
      | some max =>
        rw [between_of_both hzero]
        split
        · next hinverted =>
          refine iff_of_false id fun ⟨habove, hbelow⟩ => ?_
          have hfirst : succ max ≤ w := succ_le_iff.mpr (habove max rfl)
          have hlast : w ≤ min - 1 := (le_pred_iff hzero).mpr (hbelow min rfl)
          exact UInt32.not_lt.mpr (UInt32.le_trans hfirst hlast) hinverted
        · simp [Contains, succ_le_iff, le_pred_iff hzero]

/-- A range that can be written holds some width. -/
theorem exists_contains_between (h : between upper lower ≠ .manual) :
    ∃ w, (between upper lower).Contains w := by
  cases lower with
  | none =>
    cases upper with
    | none => exact ⟨0, trivial⟩
    | some max =>
      refine ⟨succ max, ?_, nofun⟩
      rintro first ⟨⟩
      exact UInt32.le_refl _
  | some min =>
    have hzero : min ≠ 0 := by
      rintro rfl
      exact h (between_zero upper)
    cases upper with
    | none =>
      rw [between_of_no_upper hzero]
      exact ⟨0, nofun, fun _ _ => UInt32.zero_le⟩
    | some max =>
      rw [between_of_both hzero] at h ⊢
      split at h
      · exact absurd rfl h
      · next hroom =>
        rw [if_neg hroom]
        refine ⟨succ max, ?_, ?_⟩
        · rintro first ⟨⟩
          exact UInt32.le_refl _
        · rintro last ⟨⟩
          exact UInt32.not_lt.mp hroom

/-- The range is without bounds when there is neither width. -/
theorem between_eq_unbounded_iff :
    between upper lower = .unbounded ↔ upper = none ∧ lower = none := by
  unfold between
  split
  · simp
  · simp_all
  · split <;> simp_all
  · simp_all

end Between

/-! ### The range of an input -/

section Derive

variable {variants : List FileVariant} {index : Nat} {w : UInt32}

theorem isOther_iff {v : FileVariant} : IsOther variants index v ↔ v ∈ variants.eraseIdx index :=
  List.mem_eraseIdx_iff_getElem?.symm

theorem derive_of_hasBounds (h : index < variants.length) (hbounds : variants[index].hasBounds) :
    derive variants index = .bounded variants[index].minWidth variants[index].maxWidth := by
  unfold derive
  simp [h, hbounds]

theorem derive_of_no_bounds (h : index < variants.length)
    (hbounds : variants[index].hasBounds = false) : derive variants index =
      between (largest ((variants.eraseIdx index).filterMap (·.maxWidth)))
        (smallest ((variants.eraseIdx index).filterMap (·.minWidth))) := by
  unfold derive
  simp [h, hbounds]

/-- Without bounds of its own, an input has the widths that the others leave. -/
theorem contains_derive (h : index < variants.length)
    (hbounds : variants[index].hasBounds = false) :
    (derive variants index).Contains w ↔ InGap variants index w := by
  rw [derive_of_no_bounds h hbounds, contains_between, reach_largest_lt_iff, lt_smallest_iff]
  simp only [List.mem_filterMap]
  constructor
  · rintro ⟨habove, hbelow⟩
    exact ⟨fun v hv max hmax => habove max ⟨v, isOther_iff.mp hv, hmax⟩,
      fun v hv min hmin => hbelow min ⟨v, isOther_iff.mp hv, hmin⟩⟩
  · rintro ⟨habove, hbelow⟩
    exact ⟨fun max ⟨v, hv, hmax⟩ => habove v (isOther_iff.mpr hv) max hmax,
      fun min ⟨v, hv, hmin⟩ => hbelow v (isOther_iff.mpr hv) min hmin⟩

/-- The range is without bounds when no other input has one. -/
theorem derive_eq_unbounded_iff (h : index < variants.length)
    (hbounds : variants[index].hasBounds = false) :
    derive variants index = .unbounded ↔ ∀ v, IsOther variants index v → v.hasBounds = false := by
  rw [derive_of_no_bounds h hbounds, between_eq_unbounded_iff, largest, smallest,
    List.max?_eq_none_iff, List.min?_eq_none_iff, List.filterMap_eq_nil_iff,
    List.filterMap_eq_nil_iff]
  simp only [isOther_iff, FileVariant.hasBounds, Bool.or_eq_false_iff, Option.isSome_eq_false_iff,
    Option.isNone_iff_eq_none]
  constructor
  · rintro ⟨hmax, hmin⟩ v hv
    exact ⟨hmin v hv, hmax v hv⟩
  · intro hnone
    exact ⟨fun v hv => (hnone v hv).2, fun v hv => (hnone v hv).1⟩

/-- The range is left to the reader when the others leave no width. -/
theorem derive_eq_manual_iff (h : index < variants.length)
    (hbounds : variants[index].hasBounds = false) :
    derive variants index = .manual ↔ ∀ w, ¬InGap variants index w := by
  constructor
  · intro hmanual w hw
    rw [← contains_derive h hbounds, hmanual] at hw
    exact hw
  · intro hnone
    by_contra hwritten
    rw [derive_of_no_bounds h hbounds] at hwritten
    obtain ⟨w, hw⟩ := exists_contains_between hwritten
    rw [← derive_of_no_bounds h hbounds, contains_derive h hbounds] at hw
    exact hnone w hw

end Derive

/-- Only a range that is left to the reader has no query. -/
theorem query?_eq_none_iff : ∀ range : WidthRange, range.query? = none ↔ range = .manual
  | .bounded (some _) (some _) | .bounded (some _) none | .bounded none (some _)
  | .bounded none none | .unbounded => by simp [query?]
  | .manual => by simp [query?]

/-- Bounds that are given are the range. Without them, the range holds all widths if no other input
has a bound; it is left to the reader if some other input has one and no width is in the gap; and
otherwise its bounds hold what is in the gap and nothing else. A query can be written just if the
range is not left to the reader. -/
theorem derived_range_fills_gap {variants : List FileVariant} {index : Nat}
    (h : index < variants.length) :
    let range := derive variants index
    (variants[index].hasBounds →
      range = .bounded variants[index].minWidth variants[index].maxWidth) ∧
    (variants[index].hasBounds = false →
      (range = .unbounded ↔ ∀ v, IsOther variants index v → v.hasBounds = false) ∧
      (range = .manual ↔ (∃ v, IsOther variants index v ∧ v.hasBounds) ∧
        ∀ w, ¬InGap variants index w) ∧
      (range ≠ .unbounded → range ≠ .manual → ∃ min max, range = .bounded min max ∧
        ∀ w, range.Contains w ↔ InGap variants index w)) ∧
    ∀ r : WidthRange, r.query? = none ↔ r = .manual := by
  intro range
  refine ⟨derive_of_hasBounds h, fun hbounds => ⟨derive_eq_unbounded_iff h hbounds, ?_, ?_⟩,
    query?_eq_none_iff⟩
  · refine ⟨fun hmanual => ⟨?_, (derive_eq_manual_iff h hbounds).mp hmanual⟩,
      fun hnone => (derive_eq_manual_iff h hbounds).mpr hnone.2⟩
    -- without a bound anywhere the range would hold all widths
    by_contra hno
    have hunbounded : range = .unbounded := (derive_eq_unbounded_iff h hbounds).mpr
      fun v hv => Bool.eq_false_iff.mpr fun hv' => hno ⟨v, hv, hv'⟩
    rw [hunbounded] at hmanual
    cases hmanual
  · intro hunbounded hmanual
    cases hrange : range with
    | bounded min max =>
      exact ⟨min, max, rfl, fun w => hrange ▸ contains_derive h hbounds⟩
    | unbounded => exact absurd hrange hunbounded
    | manual => exact absurd hrange hmanual

/-- A tablet among two phones and a desktop has the widths between the wider phone and the
desktop. -/
theorem tablet_fills_gap :
    let variants : List FileVariant :=
      [⟨none, some 767, none⟩, ⟨none, none, none⟩, ⟨some 1440, none, none⟩, ⟨none, some 480, none⟩]
    derive variants 1 = .bounded (some 768) (some 1439) ∧
      ∀ w, InGap variants 1 w ↔ 768 ≤ w ∧ w ≤ 1439 := by
  intro variants
  have hrange : derive variants 1 = .bounded (some 768) (some 1439) := by decide
  obtain ⟨-, hderived, -⟩ := derived_range_fills_gap (show 1 < variants.length by decide)
  obtain ⟨-, -, hbounded⟩ := hderived (by decide)
  obtain ⟨-, -, -, hgap⟩ := hbounded (by rw [hrange]; exact nofun) (by rw [hrange]; exact nofun)
  refine ⟨hrange, fun w => ?_⟩
  rw [← hgap w, hrange]
  simp [Contains]

-- one width is left above the largest
example : derive [⟨none, some 0xFFFFFFFF, none⟩, ⟨none, none, none⟩] 1 =
    .bounded (some 0xFFFFFFFF) none := by decide

end DesignTokens.WidthRange
