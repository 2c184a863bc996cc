import DesignTokens.Proofs.Decimal.Digits

/-!
Reading a natural below a bound. What is read is a row of digits, with a plus sign in front or
without one (`SpellsNat`), whose value stays below the bound. Reading takes one digit after the
other and stops where the value gets too large; as more digits make the value no smaller, it is the
value of the whole row that decides (`readNat_eq_ok_iff`).
-/

namespace DesignTokens

/-- The text is the natural in digits, of which there may be more than need be, with a plus sign in
front or without one. -/
inductive SpellsNat : Nat → Text → Prop
  | plain {digits : Text} (hne : digits ≠ []) (hdigits : ∀ c ∈ digits, isDigit c) :
    SpellsNat (natOf digits) digits
  | signed {digits : Text} (hne : digits ≠ []) (hdigits : ∀ c ∈ digits, isDigit c) :
    SpellsNat (natOf digits) ('+' :: digits)

theorem spellsNat_natText (n : Nat) : SpellsNat n (natText n) := by
  have hspells : SpellsNat (natOf (natText n)) (natText n) :=
    .plain (natText_ne_nil n) fun _ => isDigit_of_mem_natText
  rwa [natOf_natText] at hspells

theorem SpellsNat.ne_nil {n : Nat} {t : Text} (h : SpellsNat n t) : t ≠ [] := by
  cases h with
  | plain hne => exact hne
  | signed => exact List.cons_ne_nil _ _

theorem SpellsNat.mem {n : Nat} {t : Text} (h : SpellsNat n t) {c : Char} (hc : c ∈ t) :
    c = '+' ∨ isDigit c := by
  cases h with
  | plain hne hdigits => exact .inr (hdigits c hc)
  | signed hne hdigits => exact (List.mem_cons.mp hc).imp id (hdigits c)

/-! ### Digit by digit -/

variable {bound n : Nat} {c : Char} {t : Text}

theorem addDigit_of_lt (hc : isDigit c) (h : 10 * n + digitValue c < bound) :
    addDigit bound n c = .ok (10 * n + digitValue c) := by
  simp [addDigit, hc, h]

theorem exists_addDigit_fault (h : ¬(isDigit c ∧ 10 * n + digitValue c < bound)) :
    ∃ fault, addDigit bound n c = .error fault := by
  unfold addDigit
  split
  · exact ⟨_, rfl⟩
  · next hc =>
    have hc : isDigit c := by simpa using hc
    rw [if_neg fun hlt => h ⟨hc, hlt⟩]
    exact ⟨_, rfl⟩

/-- More digits make the value no smaller. -/
theorem le_foldl_digits (digits : Text) (m : Nat) :
    m ≤ digits.foldl (fun n d => 10 * n + digitValue d) m := by
  induction digits generalizing m with
  | nil => exact le_rfl
  | cons d digits ih =>
    calc m ≤ 10 * m + digitValue d := by omega
      _ ≤ _ := ih (10 * m + digitValue d)

theorem foldlM_addDigit_eq_ok_iff {digits : Text} (hne : digits ≠ []) {m : Nat} :
    digits.foldlM (addDigit bound) m = .ok n ↔
      (∀ c ∈ digits, isDigit c) ∧ digits.foldl (fun n d => 10 * n + digitValue d) m = n ∧
        n < bound := by
  induction digits generalizing m with
  | nil => exact absurd rfl hne
  | cons c digits ih =>
    rw [List.foldlM_cons, List.foldl_cons, List.forall_mem_cons]
    by_cases hc : isDigit c ∧ 10 * m + digitValue c < bound
    · rw [addDigit_of_lt hc.1 hc.2]
      show digits.foldlM (addDigit bound) (10 * m + digitValue c) = .ok n ↔ _
      cases digits with
      | nil =>
        refine ⟨fun h => ?_, fun h => congrArg Except.ok h.2.1⟩
        obtain rfl := Except.ok.inj h
        exact ⟨⟨hc.1, List.forall_mem_nil _⟩, rfl, hc.2⟩
      | cons d digits => rw [ih (List.cons_ne_nil d digits), and_iff_right hc.1]
    · obtain ⟨fault, hfault⟩ := exists_addDigit_fault hc
      rw [hfault]
      refine iff_of_false nofun fun ⟨hdigits, hvalue, hlt⟩ => hc ⟨hdigits.1, ?_⟩
      calc 10 * m + digitValue c
          ≤ digits.foldl (fun n d => 10 * n + digitValue d) (10 * m + digitValue c) :=
            le_foldl_digits digits _
        _ = n := hvalue
        _ < bound := hlt

/-! ### Whole texts -/

theorem readNat_signed {digits : Text} (hne : digits ≠ []) (bound : Nat) :
    readNat bound ('+' :: digits) = digits.foldlM (addDigit bound) 0 := by
  obtain ⟨d, digits, rfl⟩ := List.exists_cons_of_ne_nil hne
  rfl

theorem readNat_plain (hne : t ≠ []) (hsign : t.head? ≠ some '+') (bound : Nat) :
    readNat bound t = t.foldlM (addDigit bound) 0 := by
  unfold readNat
  split
  · exact absurd rfl hne
  · exact absurd rfl hsign
  · exact absurd rfl hsign
  · rfl

/-- What is read is what is spelled, if it is below the bound. -/
theorem readNat_eq_ok_iff : readNat bound t = .ok n ↔ SpellsNat n t ∧ n < bound := by
  constructor
  · intro h
    by_cases hsign : t.head? = some '+'
    · obtain ⟨digits, rfl⟩ := List.head?_eq_some_iff.mp hsign
      by_cases hne : digits = []
      · rw [hne] at h
        cases h
      · rw [readNat_signed hne, foldlM_addDigit_eq_ok_iff hne] at h
        obtain ⟨hdigits, rfl, hlt⟩ := h
        exact ⟨.signed hne hdigits, hlt⟩
    · by_cases hne : t = []
      · rw [hne] at h
        cases h
      · rw [readNat_plain hne hsign, foldlM_addDigit_eq_ok_iff hne] at h
        obtain ⟨hdigits, rfl, hlt⟩ := h
        exact ⟨.plain hne hdigits, hlt⟩
  · rintro ⟨hspells, hlt⟩
    cases hspells with
    | plain hne hdigits =>
      have hsign : t.head? ≠ some '+' := fun hplus =>
        absurd (hdigits '+' (List.mem_of_mem_head? hplus)) (by decide)
      rw [readNat_plain hne hsign]
      exact (foldlM_addDigit_eq_ok_iff hne).mpr ⟨hdigits, rfl, hlt⟩
    | signed hne hdigits =>
      rw [readNat_signed hne]
      exact (foldlM_addDigit_eq_ok_iff hne).mpr ⟨hdigits, rfl, hlt⟩

end DesignTokens
