import DesignTokens.Proofs.Assoc
import DesignTokens.Proofs.Decimal.Doubles
import DesignTokens.Token

/-!
Which of the values for platforms a token is given. An entry that is empty, null, false or zero is
no override; what is left of a code syntax are its overrides, in their order:

    ios: ""   android: "R.gap"   web: 0   ──overrides──▶   android: "R.gap"

Among overrides the one for the web wins, and else the first (`firstOverride?`). The look-up passes
over an entry for the web that is none, but of the other platforms it asks the first entry only. So
the entries that are no overrides matter by where they stand: one in front hides all overrides
behind it but that for the web (`Overlooked`), and nothing else goes wrong.
-/

namespace DesignTokens.Extensions

/-- What is no value: null, false, the empty text, and zero, as an integer or as a double of either
sign. -/
inductive IsVoid : Json → Prop
  | null : IsVoid .null
  | no : IsVoid (.bool false)
  | empty : IsVoid (.string [])
  | zero : IsVoid (.number (.integer 0))
  | double (negative : Bool) (exponent : ℤ) :
    IsVoid (.number (.double (.finite negative 0 exponent)))

/-- The entries that count as overrides, in their order. -/
def overrides (platforms : CodeSyntax) : CodeSyntax := platforms.filter (isPresent ·.2)

/-- The override for the web if there is one, else the first of all. -/
def firstOverride? (platforms : CodeSyntax) : Option Json :=
  ((Assoc.find? webPlatform platforms).filter isPresent).or
    ((List.find? (isPresent ·.2) platforms).map Prod.snd)

/-- There are overrides, but none for the web, and the first entry is not one of them. -/
structure Overlooked (platforms : CodeSyntax) : Prop where
  web : (Assoc.find? webPlatform platforms).filter isPresent = none
  first : (platforms.head?.map Prod.snd).filter isPresent = none
  other : ∃ entry ∈ platforms, isPresent entry.2

/-- A value counts unless it is void; an integer is void just if it is zero, however it is
rounded. -/
theorem isPresent_eq_false_iff (value : Json) : isPresent value = false ↔ IsVoid value := by
  constructor
  · intro h
    cases value with
    | null => exact .null
    | bool b =>
      obtain rfl : b = false := h
      exact .no
    | string t =>
      obtain rfl : t = [] := by simpa [isPresent] using h
      exact .empty
    | number n =>
      rw [isPresent, Bool.not_eq_false'] at h
      cases n with
      | integer i =>
        obtain rfl := (Double.isZero_ofInt i).mp h
        exact .zero
      | double x =>
        cases x with
        | finite negative mantissa exponent =>
          obtain rfl : mantissa = 0 := beq_iff_eq.mp h
          exact .double negative exponent
        | infinite => cases h
    | array | object => cases h
  · rintro (_ | _ | _ | _ | _) <;> rfl

variable {platforms : CodeSyntax}

theorem not_overlooked_nil : ¬Overlooked [] := fun h => by
  obtain ⟨entry, hmem, -⟩ := h.other
  cases hmem

/-- Of overrides alone, the look-up takes the one that is meant to win. -/
theorem preferred?_overrides (h : (Assoc.keys platforms).Nodup) :
    preferred? (overrides platforms) = firstOverride? platforms := by
  have hweb : Assoc.find? webPlatform (overrides platforms) =
      (Assoc.find? webPlatform platforms).filter isPresent := Assoc.find?_filter_values _ h
  have hfirst : (((overrides platforms).head?.map Prod.snd).filter isPresent) =
      (List.find? (isPresent ·.2) platforms).map Prod.snd := by
    rw [overrides, List.head?_filter]
    cases hfind : List.find? (isPresent ·.2) platforms with
    | none => rfl
    | some entry =>
      rw [Option.map_some, Option.filter_some, if_pos (List.find?_some hfind)]
  rw [preferred?, firstOverride?, hweb, hfirst, Option.filter_filter]
  simp only [Bool.and_self]

/-- Overrides that are overlooked are the only ones that the look-up misses. -/
theorem preferred?_eq_firstOverride?_iff :
    preferred? platforms = firstOverride? platforms ↔ ¬Overlooked platforms := by
  rw [preferred?, firstOverride?]
  cases hweb : (Assoc.find? webPlatform platforms).filter isPresent with
  | some value =>
    refine iff_of_true rfl fun h => ?_
    rw [h.web] at hweb
    cases hweb
  | none =>
    cases platforms with
    | nil => exact iff_of_true rfl not_overlooked_nil
    | cons entry rest =>
      simp only [Option.none_or, List.head?_cons, Option.map_some, Option.filter_some]
      by_cases hfirst : isPresent entry.2 = true
      · refine iff_of_true ?_ fun h => ?_
        · simp only [hfirst, if_true, List.find?_cons, Option.map_some]
        · have hnone := h.first
          rw [List.head?_cons, Option.map_some, Option.filter_some, if_pos hfirst] at hnone
          cases hnone
      · rw [if_neg hfirst, eq_comm, Option.map_eq_none_iff, List.find?_eq_none]
        constructor
        · rintro hnone ⟨-, -, other, hmem, hpresent⟩
          exact hnone other hmem hpresent
        · intro hnot other hmem hpresent
          refine hnot ⟨hweb, ?_, other, hmem, hpresent⟩
          rw [List.head?_cons, Option.map_some, Option.filter_some, if_neg hfirst]

/-- The look-up finds nothing where there are no overrides, and where they are overlooked. -/
theorem preferred?_eq_none_iff :
    preferred? platforms = none ↔ overrides platforms = [] ∨ Overlooked platforms := by
  rw [preferred?, Option.or_eq_none_iff, overrides, List.filter_eq_nil_iff]
  constructor
  · rintro ⟨hweb, hfirst⟩
    by_cases hother : ∃ entry ∈ platforms, isPresent entry.2
    · exact .inr ⟨hweb, hfirst, hother⟩
    · exact .inl fun entry hmem hpresent => hother ⟨entry, hmem, hpresent⟩
  · rintro (hnone | h)
    · constructor
      · refine Option.filter_eq_none_iff.mpr fun value hvalue => ?_
        exact hnone (webPlatform, value) (Assoc.mem_of_find? hvalue)
      · refine Option.filter_eq_none_iff.mpr fun value hvalue => ?_
        obtain ⟨entry, hentry, rfl⟩ := Option.map_eq_some_iff.mp hvalue
        exact hnone entry (List.mem_of_head? hentry)
    · exact ⟨h.web, h.first⟩

theorem effectiveValue_of_codeSyntax {t : Token} (h : t.codeSyntax? = some platforms) :
    t.effectiveValue true = (preferred? platforms).getD t.value := by
  rw [Token.effectiveValue, if_pos rfl, h, Option.bind_some]

/-- Entries that are void have no influence, unless they hide overrides behind them. Of the overrides
alone the one for the web is found, else the first; the same is found among all entries just if no
override is overlooked, and nothing is found just if there is no override or they are overlooked. So
a token has the value of the override that is meant to win, and its own without overrides; but also
where they are overlooked it has its own. -/
theorem overrides_decide_iff (h : (Assoc.keys platforms).Nodup) :
    (∀ entry, entry ∈ overrides platforms ↔ entry ∈ platforms ∧ ¬IsVoid entry.2) ∧
      preferred? (overrides platforms) = firstOverride? platforms ∧
      (preferred? platforms = preferred? (overrides platforms) ↔ ¬Overlooked platforms) ∧
      (preferred? platforms = none ↔ overrides platforms = [] ∨ Overlooked platforms) ∧
      ∀ t : Token, t.codeSyntax? = some platforms →
        (¬Overlooked platforms →
          t.effectiveValue true = (firstOverride? platforms).getD t.value) ∧
        (Overlooked platforms → t.effectiveValue true = t.value) := by
  have hmeant := preferred?_overrides h
  refine ⟨fun entry => ?_, hmeant, ?_, preferred?_eq_none_iff, fun t ht => ?_⟩
  · rw [overrides, List.mem_filter, ← isPresent_eq_false_iff, Bool.not_eq_false]
  · rw [hmeant]
    exact preferred?_eq_firstOverride?_iff
  · rw [effectiveValue_of_codeSyntax ht]
    refine ⟨fun hseen => ?_, fun hover => ?_⟩
    · rw [preferred?_eq_firstOverride?_iff.mpr hseen]
    · rw [preferred?_eq_none_iff.mpr (.inr hover), Option.getD_none]

/-- An entry for the web that is empty does no harm behind the only override, and neither does a
zero that is last. -/
theorem override_in_front_decides :
    let platforms : CodeSyntax := [("android", .string "R.color.gray"), ("web", .string ""),
      ("iOS", .number (.integer 0))]
    let t : Token := ⟨["gray"], ["gray"], "color", .string "#808080", none, some ⟨some platforms⟩,
      "gray", true⟩
    (Assoc.keys platforms).Nodup ∧ preferred? platforms = preferred? (overrides platforms) ∧
      preferred? platforms ≠ none ∧ t.effectiveValue true = .string "R.color.gray" := by
  intro platforms t
  have hkeys : (Assoc.keys platforms).Nodup := by decide
  have hseen : ¬Overlooked platforms := fun h => by simpa [platforms, isPresent] using h.first
  obtain ⟨-, -, hsame, hnone, htoken⟩ := overrides_decide_iff hkeys
  refine ⟨hkeys, hsame.mpr hseen, fun h => ?_, (htoken t rfl).1 hseen⟩
  rcases hnone.mp h with hempty | hover
  · simp [platforms, overrides, isPresent] at hempty
  · exact hseen hover

/-- The same override is hidden when the empty entry for the web stands in front: it is passed over
as the entry for the web, and then asked again as the first entry. -/
theorem override_behind_web_is_hidden :
    let platforms : CodeSyntax := [("web", .string ""), ("android", .string "R.color.gray")]
    let t : Token := ⟨["gray"], ["gray"], "color", .string "#808080", none, some ⟨some platforms⟩,
      "gray", true⟩
    (Assoc.keys platforms).Nodup ∧ preferred? platforms ≠ preferred? (overrides platforms) ∧
      preferred? platforms = none ∧
      preferred? (overrides platforms) = some (.string "R.color.gray") ∧
      t.effectiveValue true = .string "#808080" := ⟨by decide, nofun, rfl, rfl, rfl⟩

end DesignTokens.Extensions
