import DesignTokens.Naming
import Mathlib.Tactic.Common

/-!
Marks in front of names. However a brand is spelled, its mark is in one form (`IsMark`): the bare
marker, or the marker with a brand behind it and the separator at the end.

    brand        separator    mark
    tgds         -            --tgds-
    --tgds-      -            --tgds-
    -a-          --           ---a---
    --           anything     --

The texts of this form are those that are marks of themselves (`brandMark_eq_self_iff`), so a mark
may be taken for a brand again, and the marker in front of a brand makes no difference.
-/

namespace DesignTokens

variable {brand separator t : Text}

/-! ### The two steps -/

/-- The brand behind the marker, which is not doubled. -/
def marked (brand : Text) : Text := if marker.isPrefixOf brand then brand else marker ++ brand

/-- The text with the separator at its end, which is not doubled. -/
def closed (separator t : Text) : Text := if separator.isSuffixOf t then t else t ++ separator

theorem marked_of_marked (h : marker <+: brand) : marked brand = brand :=
  if_pos (List.isPrefixOf_iff_prefix.mpr h)

theorem marked_of_bare (h : ¬marker <+: brand) : marked brand = marker ++ brand :=
  if_neg (mt List.isPrefixOf_iff_prefix.mp h)

theorem closed_of_suffix (h : separator <:+ t) : closed separator t = t :=
  if_pos (List.isSuffixOf_iff_suffix.mpr h)

theorem closed_of_not_suffix (h : ¬separator <:+ t) : closed separator t = t ++ separator :=
  if_neg (mt List.isSuffixOf_iff_suffix.mp h)

theorem marked_eq (brand : Text) :
    marked brand = if marker <+: brand then brand else marker ++ brand := by
  split
  · exact marked_of_marked ‹_›
  · exact marked_of_bare ‹_›

theorem marker_prefix_marked (brand : Text) : marker <+: marked brand := by
  by_cases h : marker <+: brand
  · rwa [marked_of_marked h]
  · rw [marked_of_bare h]
    exact List.prefix_append marker brand

theorem marked_eq_marker (h : marked brand = marker) : brand = [] ∨ brand = marker := by
  by_cases hstart : marker <+: brand
  · rw [marked_of_marked hstart] at h
    exact .inr h
  · rw [marked_of_bare hstart] at h
    exact .inl (List.append_right_eq_self.mp h)

theorem suffix_closed (separator t : Text) : separator <:+ closed separator t := by
  by_cases h : separator <:+ t
  · rwa [closed_of_suffix h]
  · rw [closed_of_not_suffix h]
    exact List.suffix_append t separator

/-- The separator is put at the end once, or not at all if it is there. -/
theorem closed_eq (separator t : Text) :
    closed separator t = t ∨ closed separator t = t ++ separator ∧ ¬separator <:+ t := by
  by_cases h : separator <:+ t
  · exact .inl (closed_of_suffix h)
  · exact .inr ⟨closed_of_not_suffix h, h⟩

theorem prefix_closed (separator t : Text) : t <+: closed separator t := by
  rcases closed_eq separator t with h | ⟨h, -⟩
  · exact ⟨[], by rw [h, List.append_nil]⟩
  · exact ⟨separator, h.symm⟩

/-- A brand that says anything is marked and closed. -/
theorem brandMark_of_brand (hnil : brand ≠ []) (hmarker : brand ≠ marker) (separator : Text) :
    brandMark (some brand) true separator = closed separator (marked brand) :=
  if_pos (by simp [hnil, hmarker])

/-- The empty brand and the marker itself say nothing. -/
theorem brandMark_of_no_brand (h : brand = [] ∨ brand = marker) (separator : Text) :
    brandMark (some brand) true separator = marker := by
  rcases h with rfl | rfl <;> simp [brandMark]

/-! ### The form of a mark -/

/-- The bare marker, or the marker and more, with the separator at the end. -/
inductive IsMark (separator : Text) : Text → Prop
  | bare : IsMark separator marker
  | full {t : Text} (hstart : marker <+: t) (hmore : t ≠ marker) (hend : separator <:+ t) :
    IsMark separator t

theorem IsMark.starts (h : IsMark separator t) : marker <+: t := by
  cases h with
  | bare => exact List.prefix_rfl
  | full hstart => exact hstart

theorem isMark_brandMark (brand separator : Text) :
    IsMark separator (brandMark (some brand) true separator) := by
  by_cases hsilent : brand = [] ∨ brand = marker
  · rw [brandMark_of_no_brand hsilent]
    exact .bare
  · obtain ⟨hnil, hmarker⟩ := not_or.mp hsilent
    rw [brandMark_of_brand hnil hmarker]
    have hgrown := prefix_closed separator (marked brand)
    have hstart := marker_prefix_marked brand
    refine .full (hstart.trans hgrown) (fun hbare => hsilent ?_) (suffix_closed _ _)
    -- were the closed brand the bare marker, so would the brand that was closed be
    rw [hbare] at hgrown
    exact marked_eq_marker (hgrown.eq_of_length_le hstart.length_le)

/-- A mark is the mark of itself. -/
theorem IsMark.brandMark_eq_self (h : IsMark separator t) :
    brandMark (some t) true separator = t := by
  cases h with
  | bare => exact brandMark_of_no_brand (.inr rfl) separator
  | full hstart hmore hend =>
    have hnil : t ≠ [] := fun hnil => absurd (hnil ▸ hstart) (by decide)
    rw [brandMark_of_brand hnil hmore, marked_of_marked hstart, closed_of_suffix hend]

theorem brandMark_eq_self_iff : brandMark (some t) true separator = t ↔ IsMark separator t :=
  ⟨fun h => h ▸ isMark_brandMark t separator, IsMark.brandMark_eq_self⟩

/-- The marker may be written in front of a brand or left out. -/
theorem brandMark_marker_append (h : ¬marker <+: brand) (useBrand : Bool) (separator : Text) :
    brandMark (some (marker ++ brand)) useBrand separator =
      brandMark (some brand) useBrand separator := by
  cases useBrand with
  | false => rfl
  | true =>
    by_cases hnil : brand = []
    · rw [hnil, List.append_nil, brandMark_of_no_brand (.inr rfl), brandMark_of_no_brand (.inl rfl)]
    · have hmarker : brand ≠ marker := fun hmarker => h (hmarker ▸ List.prefix_rfl)
      rw [brandMark_of_brand (by simp [marker]) (by simpa using hnil),
        brandMark_of_brand hnil hmarker, marked_of_marked (List.prefix_append marker brand),
        marked_of_bare h]

/-- The mark of a brand starts with the marker. If the brand says anything, the separator ends the
mark, and the mark is the marked brand, to which the separator has been added only if it was not
there. A mark is the mark of itself, which is so of nothing else than what has the form of marks;
and with the marker in front of the brand all names are the same as without it. -/
theorem marks_are_normal (brand separator : Text) :
    let mark := brandMark (some brand) true separator
    let full := if marker <+: brand then brand else marker ++ brand
    marker <+: mark ∧
    (brand ≠ [] → brand ≠ marker → separator <:+ mark ∧
      (mark = full ∨ mark = full ++ separator ∧ ¬separator <:+ full)) ∧
    brandMark (some mark) true separator = mark ∧
    (∀ t, brandMark (some t) true separator = t ↔ IsMark separator t) ∧
    (¬marker <+: brand → brandMark (some (marker ++ brand)) true separator = mark ∧
      ∀ (n : Naming) (path : List Text),
        { n with brand := some (marker ++ brand) }.identifier path =
          { n with brand := some brand }.identifier path) := by
  intro mark full
  have hmark : IsMark separator mark := isMark_brandMark brand separator
  refine ⟨hmark.starts, fun hnil hmarker => ?_, hmark.brandMark_eq_self,
    fun t => brandMark_eq_self_iff, fun hbare => ⟨brandMark_marker_append hbare true separator,
      fun n path => ?_⟩⟩
  · have hfull : marked brand = full := marked_eq brand
    have hclosed : mark = closed separator full :=
      hfull ▸ brandMark_of_brand hnil hmarker separator
    rw [hclosed]
    exact ⟨suffix_closed separator full, closed_eq separator full⟩
  · rw [Naming.identifier, Naming.identifier, Naming.mark, Naming.mark,
      brandMark_marker_append hbare]

/-- A brand that begins with a single dash and a separator that is the marker: the dashes in front
count for themselves, and one dash at the end is not enough. -/
theorem mark_of_dashes :
    let brand : Text := "-a-"
    let mark : Text := "---a---"
    let dashed : Naming := { Naming.default with separator := "--", useBrand := true }
    (brand ≠ [] ∧ brand ≠ marker ∧ ¬marker <+: brand) ∧ brandMark (some brand) true "--" = mark ∧
      marker <+: mark ∧ ("--" : Text) <:+ mark ∧ brandMark (some mark) true "--" = mark ∧
      brandMark (some "---a-") true "--" = mark ∧
      { dashed with brand := some "---a-" }.identifier ["Gap"] = ("---a---gap" : Text) := by
  intro brand mark dashed
  have hbrand : brand ≠ [] ∧ brand ≠ marker ∧ ¬marker <+: brand := by decide
  have hmark : brandMark (some brand) true "--" = mark := by decide
  obtain ⟨hstart, hend, hstable, -, hmarker⟩ := marks_are_normal brand "--"
  obtain ⟨hsame, hnames⟩ := hmarker hbrand.2.2
  rw [hmark] at hstart hend hstable hsame
  refine ⟨hbrand, hmark, hstart, (hend hbrand.1 hbrand.2.1).1, hstable, hsame, ?_⟩
  exact (hnames dashed ["Gap"]).trans (by decide)

end DesignTokens
