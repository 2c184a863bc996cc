import DesignTokens.Proofs.Text.Patterns
import DesignTokens.Text.Blank

/-!
What trimming leaves of a text. Every text is a core with blanks around it (`Padded`), and there is
one core that has no blank at its own ends (`Trimmed`): that is what trimming gives
(`trim_eq_iff`).

    ␣␣ left right ␣   ──▶   left right
    └─┘└── core ──┘└┘
-/

namespace DesignTokens.Text

/-- No blank stands at either end of the text. -/
structure Trimmed (t : Text) : Prop where
  head : ∀ c ∈ t.head?, isBlank c = false
  last : ∀ c ∈ t.getLast?, isBlank c = false

theorem trimmed_iff {t : Text} :
    t.Trimmed ↔ t.head?.all (!isBlank ·) ∧ t.getLast?.all (!isBlank ·) := by
  simp only [Option.all_eq_true, Bool.not_eq_true']
  exact ⟨fun h => ⟨h.head, h.last⟩, fun ⟨hhead, hlast⟩ => ⟨hhead, hlast⟩⟩

-- by the ends of the text: the instance that is found first goes through all characters there are
instance : DecidablePred Trimmed := fun _ => decidable_of_iff' _ trimmed_iff

theorem trimmed_nil : Trimmed [] := ⟨nofun, nofun⟩

/-- A text none of whose characters is a blank. -/
theorem trimmed_of_forall {t : Text} (h : ∀ c ∈ t, isBlank c = false) : t.Trimmed :=
  ⟨fun c hc => h c (List.mem_of_mem_head? hc), fun c hc => h c (List.mem_of_mem_getLast? hc)⟩

/-- A core with blanks around it. -/
def Padded (core t : Text) : Prop :=
  ∃ front back, t = front ++ (core ++ back) ∧ (∀ c ∈ front, isBlank c) ∧ ∀ c ∈ back, isBlank c

variable {core t : Text}

theorem isAllBlank_iff : isAllBlank t ↔ ∀ c ∈ t, isBlank c := List.all_eq_true

theorem padded_of_isAllBlank (front back : Text) (hfront : isAllBlank front)
    (hback : isAllBlank back) (h : t = front ++ (core ++ back)) : Padded core t :=
  ⟨front, back, h, isAllBlank_iff.mp hfront, isAllBlank_iff.mp hback⟩

theorem padded_self (t : Text) : Padded t t :=
  ⟨[], [], by simp, List.forall_mem_nil _, List.forall_mem_nil _⟩

theorem padded_nil_iff : Padded [] t ↔ ∀ c ∈ t, isBlank c := by
  constructor
  · rintro ⟨front, back, rfl, hfront, hback⟩
    exact List.forall_mem_append.mpr ⟨hfront, hback⟩
  · exact fun h => ⟨t, [], by simp, h, List.forall_mem_nil _⟩

/-- What stands in a padded text stands in its core, or is a blank. -/
theorem Padded.mem (h : Padded core t) {c : Char} (hc : c ∈ t) : c ∈ core ∨ isBlank c := by
  obtain ⟨front, back, rfl, hfront, hback⟩ := h
  rcases List.mem_append.mp hc with hc | hc
  · exact .inr (hfront c hc)
  · exact (List.mem_append.mp hc).imp id (hback c)

theorem Padded.not_mem (h : Padded core t) {c : Char} (hcore : c ∉ core) (hc : isBlank c = false) :
    c ∉ t := fun hmem => (h.mem hmem).elim hcore (Bool.eq_false_iff.mp hc)

theorem trimStart_append {front : Text} (hfront : ∀ c ∈ front, isBlank c)
    (ht : ∀ c ∈ t.head?, isBlank c = false) : trimStart (front ++ t) = t :=
  dropWhile_of_stop hfront ht

theorem trimEnd_append {back : Text} (hback : ∀ c ∈ back, isBlank c)
    (ht : ∀ c ∈ t.getLast?, isBlank c = false) : trimEnd (t ++ back) = t := by
  have hreversed : ∀ c ∈ back.reverse, isBlank c := fun c hc => hback c (List.mem_reverse.mp hc)
  have hstop : ∀ c ∈ t.reverse.head?, isBlank c = false := by rwa [List.head?_reverse]
  rw [trimEnd, List.reverse_append, dropWhile_of_stop hreversed hstop, List.reverse_reverse]

/-- Blanks in front make no difference to what trimming gives. -/
theorem trim_blank_append {front : Text} (hfront : ∀ c ∈ front, isBlank c) (t : Text) :
    trim (front ++ t) = trim t := by
  rw [trim, trimStart, List.dropWhile_append_of_pos hfront]
  rfl

theorem Padded.trim_eq (h : Padded core t) (hcore : core.Trimmed) : trim t = core := by
  obtain ⟨front, back, rfl, hfront, hback⟩ := h
  cases core with
  | nil =>
    have hblank : ∀ c ∈ front ++ back, isBlank c := List.forall_mem_append.mpr ⟨hfront, hback⟩
    have hstart : trimStart (front ++ back ++ []) = [] := trimStart_append hblank nofun
    rw [List.append_nil] at hstart
    rw [List.nil_append, trim, hstart]
    rfl
  | cons c core =>
    have hstart : trimStart (front ++ (c :: core ++ back)) = c :: core ++ back :=
      trimStart_append hfront hcore.head
    rw [trim, hstart, trimEnd_append hback hcore.last]

/-- What trimming gives is a core of the text, and has no blank at its ends. -/
theorem padded_trim (t : Text) : Padded (trim t) t ∧ (trim t).Trimmed := by
  obtain ⟨front, rest, rfl, hfront, hrest⟩ := exists_run isBlank t
  obtain ⟨back, core, hsplit, hback, hcore⟩ := exists_run isBlank rest.reverse
  obtain rfl : rest = core.reverse ++ back.reverse := by
    rw [← List.reverse_append, ← hsplit, List.reverse_reverse]
  have hblank : ∀ c ∈ back.reverse, isBlank c := fun c hc => hback c (List.mem_reverse.mp hc)
  have hlast : ∀ c ∈ core.reverse.getLast?, isBlank c = false := by rwa [List.getLast?_reverse]
  have htrim : trim (front ++ (core.reverse ++ back.reverse)) = core.reverse := by
    rw [trim, trimStart_append hfront hrest, trimEnd_append hblank hlast]
  have hhead : ∀ c ∈ core.reverse.head?, isBlank c = false := fun c hc =>
    hrest c (by rw [List.head?_append, Option.mem_def.mp hc]; rfl)
  rw [htrim]
  exact ⟨⟨front, back.reverse, rfl, hfront, hblank⟩, hhead, hlast⟩

/-- Trimming gives the core without blanks at its ends that the text has blanks around. -/
theorem trim_eq_iff : trim t = core ↔ core.Trimmed ∧ Padded core t :=
  ⟨fun h => h ▸ (padded_trim t).symm, fun h => h.2.trim_eq h.1⟩

theorem Trimmed.trim_eq (h : t.Trimmed) : trim t = t := (padded_self t).trim_eq h

theorem trim_eq_nil_iff : trim t = [] ↔ ∀ c ∈ t, isBlank c := by
  rw [trim_eq_iff, padded_nil_iff, and_iff_right trimmed_nil]

end DesignTokens.Text
