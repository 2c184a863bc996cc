import DesignTokens.Proofs.Mapping.Calls
import DesignTokens.Proofs.Mapping.Guesses
import DesignTokens.Proofs.Text.Folding

/-!
Letter case changes no answer. Names are compared in three ways: keywords and guesses by their small
forms, vendors' marks and the registry by the letters `a` to `z`, and pending names as they stand.
The first two do not see whether a name is folded. The third does, but what is pending for a name is
what would be guessed for it anew, so it does not matter which spelling it was noted under:

    Card-Gap ── fold ──▶ card-gap ◀── fold ── CARD-gap
       └─────────────── one answer ──────────────┘
-/

namespace DesignTokens

open Text (foldCase)

/-! ### Names and their folded form -/

theorem KeywordSet.contains_foldCase (s : KeywordSet) (name : Text) :
    s.contains (foldCase name) = s.contains name := by
  rw [contains, contains, Text.lower_foldCase]

/-- What is left of a folded name without its vendor's mark is what is left of the name, folded. -/
theorem stripVendor?_foldCase (name : Text) :
    stripVendor? (foldCase name) = (stripVendor? name).map foldCase := by
  rw [stripVendor?, stripVendor?, List.map_findSome?]
  refine congrArg (List.findSome? · vendorMarks) (funext fun vendor => ?_)
  have htake : (foldCase name).take vendor.length = foldCase (name.take vendor.length) :=
    List.map_take.symm
  have hdrop : (foldCase name).drop vendor.length = foldCase (name.drop vendor.length) :=
    List.map_drop.symm
  rw [htake, hdrop, Text.foldCase_sameName, Function.comp_apply]
  split <;> rfl

theorem isStandard_foldCase (keywords : KeywordSet) (name : Text) :
    isStandard keywords (foldCase name) = isStandard keywords name := by
  rw [isStandard, isStandard, keywords.contains_foldCase, stripVendor?_foldCase, Option.any_map]
  simp only [keywords.contains_foldCase]

theorem isDirectionalShorthand_foldCase (name : Text) :
    isDirectionalShorthand (foldCase name) = isDirectionalShorthand name := by
  simp only [isDirectionalShorthand, Text.sameName_foldCase]

theorem isValid_foldCase (keywords : KeywordSet) (registered : List Mapping) (name : Text) :
    isValid keywords registered (foldCase name) = isValid keywords registered name := by
  rw [isValid, isValid, keywords.contains_foldCase, stripVendor?_foldCase,
    isDirectionalShorthand_foldCase]
  cases stripVendor? name with
  | none => simp only [Option.map_none, Text.sameName_foldCase]
  | some rest => simp only [Option.map_some, keywords.contains_foldCase]

theorem suggest_foldCase (name : Text) : suggest (foldCase name) = suggest name := by
  rw [suggest, suggest, Text.lower_foldCase]

theorem Registry.verdict?_foldCase (r : Registry) (keywords : KeywordSet) (name : Text) :
    r.verdict? keywords (foldCase name) = r.verdict? keywords name := by
  have hfind : r.find? (foldCase name) = r.find? name := by
    simp only [find?, Text.sameName_foldCase]
  rw [verdict?, verdict?, isStandard_foldCase, hfind, isValid_foldCase]

/-! ### Answers -/

/-- As long as all that is pending are suggestions, a name is answered as its folded form is. -/
theorem Context.answer_foldCase {x : Context} (h : x.mapper.Suggested) (name : Text) :
    x.answer (foldCase name) = x.answer name := by
  rw [answer_of_suggested h, answer_of_suggested h, Registry.verdict?_foldCase, suggest_foldCase]

namespace Mapper

theorem Suggested.after {m : Mapper} (h : m.Suggested) (call : Call) : (m.after call).Suggested := by
  cases call with
  | update name targets description => exact h.update name targets description
  | remove name => exact h.remove name
  | resolve keywords name => exact h.resolve keywords name

theorem Suggested.run {m : Mapper} (h : m.Suggested) (calls : List Call) :
    (m.run calls).Suggested :=
  List.foldlRecOn (motive := Suggested) calls Mapper.after h fun _ hm call _ => hm.after call

/-- Two names that are equal but for the case of the letters `a` to `z` are standard both or
neither, valid both or neither whatever is registered, and a mapper answers both alike, whatever it
was asked before with whatever keywords; also when the one name is asked for right behind the
other. -/
theorem letter_case_changes_no_answer (r : Registry) (calls : List Call) (keywords : KeywordSet)
    {a b : Text} (h : a.sameName b) :
    let m := (ofRegistry r).run calls
    isStandard keywords a = isStandard keywords b ∧
      (∀ registered, isValid keywords registered a = isValid keywords registered b) ∧
      (m.resolve keywords a).1 = (m.resolve keywords b).1 ∧
      ((m.resolve keywords a).2.resolve keywords b).1 = (m.resolve keywords a).1 ∧
      ((m.resolve keywords b).2.resolve keywords a).1 = (m.resolve keywords b).1 := by
  intro m
  let x : Context := ⟨keywords, m⟩
  have hsuggested : x.mapper.Suggested := (Suggested.ofRegistry r).run calls
  have hanswer : x.answer a = x.answer b :=
    Text.apply_eq_of_sameName (Context.answer_foldCase hsuggested) h
  refine ⟨Text.apply_eq_of_sameName (isStandard_foldCase keywords) h, fun registered => ?_,
    hanswer, ?_, ?_⟩
  · exact Text.apply_eq_of_sameName (isValid_foldCase keywords registered) h
  · exact (x.answer_look a b).trans hanswer.symm
  · exact (x.answer_look b a).trans hanswer

/-- A name that is pending under one spelling only is answered alike under another one, with a guess
in which the capital sigma in front of the dash has become the one that ends a word. -/
theorem letter_case_of_horizontal :
    let keywords : KeywordSet := ⟨["gap"]⟩
    let a : Text := "ΟΔΟΣ-Horizontal"
    let b : Text := "ΟΔΟΣ-HORIZONTAL"
    let m := (ofRegistry .defaults).run [.update "-O-Glow" [] none, .resolve keywords b]
    a.sameName b ∧ Assoc.find? a m.pending = none ∧
      Assoc.find? b m.pending = some (["οδος-left", "οδος-right"] : List Text) ∧
      isStandard keywords a = isStandard keywords b ∧
      (∀ registered, isValid keywords registered a = isValid keywords registered b) ∧
      (m.resolve keywords a).1 = (m.resolve keywords b).1 ∧
      ((m.resolve keywords a).2.resolve keywords b).1 = (m.resolve keywords a).1 ∧
      ((m.resolve keywords b).2.resolve keywords a).1 = (m.resolve keywords b).1 := by
  intro keywords a b m
  have hsame : a.sameName b := by decide
  exact ⟨hsame, by decide +kernel, by decide +kernel,
    letter_case_changes_no_answer .defaults _ keywords hsame⟩

end Mapper

end DesignTokens
