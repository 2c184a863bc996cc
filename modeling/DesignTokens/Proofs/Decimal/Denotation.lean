import DesignTokens.Proofs.Decimal.Writing
import DesignTokens.Proofs.Text.Splitting
import Mathlib.Computability.RegularExpressions

/-!
What the text of a rounded double denotes. The text is in one fixed form (`plainForm`), and read as
a decimal it is the multiple of a power of ten that is nearest to the double; the sign belongs to
the multiple, so a double that is rounded to zero has none:

    places 2      -0.125  ──nearest──▶  -12 · 10 ^ (-2)  ──▶  -0.12
                  -0.004  ──nearest──▶    0 · 10 ^ (-2)  ──▶   0
                 100.003  ──nearest──▶  10000 · 10 ^ (-2)  ──▶  100

Two doubles have the same text exactly when they are rounded to the same multiple.
-/

namespace DesignTokens

/-! ### The form of a number -/

/-- One of the characters. -/
def anyOf (cs : Text) : RegularExpression Char := cs.foldr (fun c others => .char c + others) 0

/-- A digit. -/
def digitForm : RegularExpression Char := anyOf "0123456789"

/-- A digit above zero. -/
def nonzeroForm : RegularExpression Char := anyOf "123456789"

/-- The sign of a number: `-?`. -/
def signForm : RegularExpression Char := 1 + .char '-'

/-- The whole part of a number: `0|[1-9][0-9]*`. -/
def wholeForm : RegularExpression Char := .char '0' + nonzeroForm * digitForm.star

/-- The places of a number: `(\.[0-9]*[1-9])?`. -/
def placesForm : RegularExpression Char := 1 + .char '.' * (digitForm.star * nonzeroForm)

/-- A number with nothing that could be left out: `-?(0|[1-9][0-9]*)(\.[0-9]*[1-9])?`. -/
def plainForm : RegularExpression Char := signForm * wholeForm * placesForm

section Forms

variable {c : Char} {t : Text}

theorem mem_anyOf {cs : Text} : t ∈ (anyOf cs).matches' ↔ ∃ c ∈ cs, t = [c] := by
  induction cs with
  | nil => simp [anyOf, Language.notMem_zero]
  | cons c cs ih =>
    have hcons : anyOf (c :: cs) = .char c + anyOf cs := rfl
    have hchar : t ∈ (RegularExpression.char c).matches' ↔ t = [c] := Iff.rfl
    rw [hcons, RegularExpression.matches'_add, Language.mem_add, ih, hchar]
    simp

theorem mem_digits_iff : c ∈ ("0123456789" : Text) ↔ isDigit c := by
  constructor
  · have hall : List.all "0123456789" isDigit := by decide
    exact List.all_eq_true.mp hall c
  · intro h
    have htable : ∀ d < 10, Char.ofNat ('0'.toNat + d) ∈ ("0123456789" : Text) := by decide
    have hlow : '0'.toNat ≤ c.toNat := by
      simp only [isDigit, Bool.and_eq_true, decide_eq_true_eq, Char.le_def,
        UInt32.le_iff_toNat_le] at h
      exact h.1
    have hc : c = Char.ofNat ('0'.toNat + digitValue c) := by
      rw [digitValue, Nat.add_sub_cancel' hlow, Char.ofNat_toNat]
    rw [hc]
    exact htable _ (digitValue_lt h)

theorem mem_nonzero_iff : c ∈ ("123456789" : Text) ↔ isDigit c ∧ c ≠ '0' := by
  rw [← mem_digits_iff]
  constructor
  · intro h
    exact ⟨List.mem_cons_of_mem _ h, fun hc => absurd (hc ▸ h) (by decide)⟩
  · rintro ⟨h, hc⟩
    exact (List.mem_cons.mp h).resolve_left hc

theorem mem_digitForm_star : t ∈ digitForm.star.matches' ↔ ∀ c ∈ t, isDigit c := by
  rw [RegularExpression.matches'_star, Language.mem_kstar]
  constructor
  · rintro ⟨parts, rfl, hparts⟩ c hc
    obtain ⟨part, hpart, hmem⟩ := List.mem_flatten.mp hc
    obtain ⟨d, hd, rfl⟩ := mem_anyOf.mp (hparts part hpart)
    rw [List.mem_singleton.mp hmem]
    exact mem_digits_iff.mp hd
  · intro h
    refine ⟨t.map fun c => [c], by simp [← List.flatMap_def], fun part hpart => ?_⟩
    obtain ⟨c, hc, rfl⟩ := List.mem_map.mp hpart
    exact mem_anyOf.mpr ⟨c, mem_digits_iff.mpr (h c hc), rfl⟩

theorem mem_signForm :
    t ∈ signForm.matches' ↔ ∃ negative : Bool, t = if negative then ['-'] else [] := by
  have hsplit : t ∈ signForm.matches' ↔ t = [] ∨ t = ['-'] := Iff.rfl
  rw [hsplit, Bool.exists_bool]
  rfl

/-- Whole parts are written in this form. -/
theorem mem_wholeForm : t ∈ wholeForm.matches' ↔ IsWhole t := by
  have hsplit : t ∈ wholeForm.matches' ↔
      t = ['0'] ∨ t ∈ nonzeroForm.matches' * digitForm.star.matches' := Iff.rfl
  rw [hsplit, Language.mem_mul]
  constructor
  · rintro (rfl | ⟨first, hfirst, rest, hrest, rfl⟩)
    · exact ⟨List.forall_mem_singleton.mpr (by decide), List.cons_ne_nil _ _, fun _ => rfl⟩
    · obtain ⟨c, hc, rfl⟩ := mem_anyOf.mp hfirst
      obtain ⟨hdigit, hnonzero⟩ := mem_nonzero_iff.mp hc
      exact ⟨List.forall_mem_cons.mpr ⟨hdigit, mem_digitForm_star.mp hrest⟩, List.cons_ne_nil _ _,
        fun hhead => absurd (Option.some.inj hhead) hnonzero⟩
  · intro h
    obtain ⟨c, rest, rfl⟩ := List.exists_cons_of_ne_nil h.ne_nil
    obtain ⟨hc, hrest⟩ := List.forall_mem_cons.mp h.digits
    by_cases hzero : c = '0'
    · exact .inl (h.zero (by rw [hzero]; rfl))
    · exact .inr ⟨[c], mem_anyOf.mpr ⟨c, mem_nonzero_iff.mpr ⟨hc, hzero⟩, rfl⟩, rest,
        mem_digitForm_star.mpr hrest, rfl⟩

/-- Places that do not end in a zero are written in this form, with the point before them. -/
theorem mem_placesForm : t ∈ placesForm.matches' ↔
    ∃ places : Text, t = pointBefore places ∧ (∀ c ∈ places, isDigit c) ∧
      places.getLast? ≠ some '0' := by
  have hsplit : t ∈ placesForm.matches' ↔ t = [] ∨
      t ∈ (RegularExpression.char '.').matches' *
        (digitForm.star.matches' * nonzeroForm.matches') := Iff.rfl
  rw [hsplit, Language.mem_mul]
  constructor
  · rintro (rfl | ⟨point, hpoint, places, hplaces, rfl⟩)
    · exact ⟨[], rfl, by simp, by simp⟩
    · have hpoint : point = ['.'] := hpoint
      obtain ⟨front, hfront, last, hlast, rfl⟩ := Language.mem_mul.mp hplaces
      obtain ⟨c, hc, rfl⟩ := mem_anyOf.mp hlast
      obtain ⟨hdigit, hnonzero⟩ := mem_nonzero_iff.mp hc
      refine ⟨front ++ [c], ?_, ?_, ?_⟩
      · rw [hpoint, pointBefore, if_neg (by simp)]
        rfl
      · exact List.forall_mem_append.mpr
          ⟨mem_digitForm_star.mp hfront, List.forall_mem_singleton.mpr hdigit⟩
      · rw [List.getLast?_concat]
        exact fun heq => hnonzero (Option.some.inj heq)
  · rintro ⟨places, rfl, hdigits, hlast⟩
    rcases List.eq_nil_or_concat places with rfl | ⟨front, c, rfl⟩
    · exact .inl rfl
    · rw [List.concat_eq_append] at hdigits hlast ⊢
      obtain ⟨hfront, hc⟩ := List.forall_mem_append.mp hdigits
      have hnonzero : c ≠ '0' := fun heq => hlast (by rw [heq, List.getLast?_concat])
      refine .inr ⟨['.'], rfl, front ++ [c], ?_, ?_⟩
      · exact Language.append_mem_mul (mem_digitForm_star.mpr hfront)
          (mem_anyOf.mpr ⟨c, mem_nonzero_iff.mpr ⟨hc c List.mem_cons_self, hnonzero⟩, rfl⟩)
      · rw [pointBefore, if_neg (by simp)]
        rfl

/-- The texts of this form, except the signed zero, are those of the plain numbers. -/
theorem mem_plainForm_iff :
    t ∈ plainForm.matches' ∧ t ≠ ['-', '0'] ↔ ∃ p : PlainNumber, t = p.text := by
  have hsplit : t ∈ plainForm.matches' ↔
      t ∈ signForm.matches' * wholeForm.matches' * placesForm.matches' := Iff.rfl
  constructor
  · rintro ⟨hform, hzero⟩
    obtain ⟨front, hfront, behind, hbehind, rfl⟩ := Language.mem_mul.mp (hsplit.mp hform)
    obtain ⟨sign, hsign, whole, hwhole, rfl⟩ := Language.mem_mul.mp hfront
    obtain ⟨negative, rfl⟩ := mem_signForm.mp hsign
    obtain ⟨places, rfl, hdigits, hlast⟩ := mem_placesForm.mp hbehind
    refine ⟨⟨negative, whole, places, mem_wholeForm.mp hwhole, hdigits, hlast, ?_⟩, rfl⟩
    rintro rfl ⟨rfl, rfl⟩
    exact hzero rfl
  · rintro ⟨p, rfl⟩
    refine ⟨hsplit.mpr (Language.append_mem_mul (Language.append_mem_mul ?_ ?_) ?_),
      p.text_ne_minus_zero⟩
    · exact mem_signForm.mpr ⟨p.negative, rfl⟩
    · exact mem_wholeForm.mpr p.isWhole
    · exact mem_placesForm.mpr ⟨p.places, rfl, p.digits, p.last⟩

end Forms

/-! ### The number that a text denotes -/

/-- What stands before the first point of a text and what stands behind it; nothing if there is no
point. -/
def atPoint (t : Text) : Text × Text := (Text.cut? '.' t).getD (t, [])

/-- The number that digits with a point among them denote. -/
def unsignedValue (t : Text) : ℚ :=
  natOf ((atPoint t).1 ++ (atPoint t).2) / 10 ^ (atPoint t).2.length

/-- The number that a decimal text denotes. -/
def decimalValue : Text → ℚ
  | '-' :: t => -unsignedValue t
  | t => unsignedValue t

/-- The number with a sign. -/
def withSign (negative : Bool) (q : ℚ) : ℚ := if negative then -q else q

theorem cut?_of_not_mem {sep : Char} {t : Text} (h : sep ∉ t) : Text.cut? sep t = none := by
  cases hcut : Text.cut? sep t with
  | none => rfl
  | some parts =>
    obtain ⟨rfl, -⟩ := Text.eq_of_cut? hcut
    exact absurd (by simp) h

theorem atPoint_pointBefore {w f : Text} (hw : '.' ∉ w) :
    atPoint (w ++ pointBefore f) = (w, f) := by
  unfold atPoint pointBefore
  split_ifs with hnone
  · rw [List.append_nil, cut?_of_not_mem hw, hnone]
    rfl
  · rw [Text.cut?_append f hw]
    rfl

namespace PlainNumber

variable {p p' : PlainNumber} {n : ℕ}

/-- The places of the number are what stands behind the point of its text. -/
theorem atPoint_text (p : PlainNumber) : (atPoint p.text).2 = p.places := by
  have hsign : '.' ∉ (if p.negative then ['-'] else []) ++ p.whole := by
    rw [List.mem_append, not_or]
    exact ⟨Double.no_point_in_sign p.negative, p.no_point_in_whole⟩
  rw [text, atPoint_pointBefore hsign]

/-- The text of a plain number denotes that number. -/
theorem decimalValue_text (p : PlainNumber) : decimalValue p.text = withSign p.negative p.size := by
  have hvalue : unsignedValue (p.whole ++ pointBefore p.places) = p.size := by
    rw [unsignedValue, atPoint_pointBefore p.no_point_in_whole]
    rfl
  cases hsign : p.negative with
  | true =>
    have htext : p.text = '-' :: (p.whole ++ pointBefore p.places) := by
      rw [text, hsign]
      rfl
    rw [htext, decimalValue, hvalue]
    rfl
  | false =>
    have htext : p.text = p.whole ++ pointBefore p.places := by
      rw [text, hsign]
      rfl
    rw [htext, ← hvalue]
    unfold decimalValue
    split
    · next t heq => exact absurd heq (p.unsigned_ne_minus t)
    · rfl

/-- The number with its sign, counted in units of `10 ^ (-n)`. -/
def count (p : PlainNumber) (n : ℕ) : ℤ := if p.negative then -(p.units n : ℤ) else p.units n

theorem decimalValue_eq_div (h : p.places.length ≤ n) :
    decimalValue p.text = (p.count n : ℚ) / 10 ^ n := by
  rw [decimalValue_text, size_eq_div h, withSign, count]
  split_ifs
  · push_cast
    ring
  · push_cast
    ring

/-- The text is determined by the count. -/
theorem text_eq_of_count (h : p.places.length ≤ n) (h' : p'.places.length ≤ n)
    (hcount : p.count n = p'.count n) : p.text = p'.text := by
  unfold count at hcount
  have hunits : p.units n = p'.units n := by split_ifs at hcount <;> omega
  refine text_eq_of_units h h' hunits ?_
  rw [p.negative_eq n, p'.negative_eq n, hunits]
  by_cases hzero : p'.units n = 0
  · simp [hzero]
  · -- what is not zero has its sign in its count
    have hsign : p.negative = p'.negative := by
      cases hnegative : p.negative <;> cases hnegative' : p'.negative <;>
        simp only [hnegative, hnegative', if_true, Bool.false_eq_true, if_false] at hcount
      all_goals first | rfl | omega
    rw [hsign]

end PlainNumber

/-! ### The nearest multiple -/

/-- `k` is the integer nearest to `q`, of two that are equally near the even one. -/
structure NearestInt (q : ℚ) (k : ℤ) : Prop where
  near : ∀ j : ℤ, |(k : ℚ) - q| ≤ |(j : ℚ) - q|
  even : ∀ j : ℤ, j ≠ k → |(j : ℚ) - q| = |(k : ℚ) - q| → Even k

namespace NearestInt

variable {q : ℚ} {k k' : ℤ}

theorem of_half (hnear : |(k : ℚ) - q| ≤ 1 / 2) (heven : |(k : ℚ) - q| = 1 / 2 → Even k) :
    NearestInt q k := by
  have hbounds := abs_le.mp hnear
  -- any other integer is at least half a unit away
  have hhalf : ∀ j : ℤ, j ≠ k → 1 / 2 ≤ |(j : ℚ) - q| := by
    intro j hj
    rcases Int.lt_or_gt_of_ne hj with hlt | hgt
    · have hstep : (j : ℚ) + 1 ≤ k := by exact_mod_cast hlt
      exact le_abs.mpr (.inr (by linarith))
    · have hstep : (k : ℚ) + 1 ≤ j := by exact_mod_cast hgt
      exact le_abs.mpr (.inl (by linarith))
  refine ⟨fun j => ?_, fun j hj htie => heven (le_antisymm hnear (htie ▸ hhalf j hj))⟩
  rcases eq_or_ne j k with rfl | hj
  · exact le_refl _
  · exact hnear.trans (hhalf j hj)

/-- One integer is nearest. -/
theorem unique (h : NearestInt q k) (h' : NearestInt q k') : k = k' := by
  by_contra hne
  have htie : |(k : ℚ) - q| = |(k' : ℚ) - q| := le_antisymm (h.near k') (h'.near k)
  obtain ⟨a, ha⟩ := h.even k' (Ne.symm hne) htie.symm
  obtain ⟨b, hb⟩ := h'.even k hne htie
  have hneQ : (k : ℚ) ≠ k' := by exact_mod_cast hne
  -- both are even, so what is halfway between them is an integer, and that one is `q`
  have hmiddle : ((a + b : ℤ) : ℚ) - q = 0 := by
    rcases abs_eq_abs.mp htie with hsame | hopposite
    · exact absurd (sub_left_injective hsame) hneQ
    · rw [ha, hb] at hopposite
      push_cast at hopposite ⊢
      linarith
  have hzero := h.near (a + b)
  have hzero' := h'.near (a + b)
  rw [hmiddle, abs_zero, abs_nonpos_iff] at hzero hzero'
  exact hneQ (by linarith)

end NearestInt

/-- Rounding keeps the sign. -/
theorem Nearest.nearestInt {q : ℚ} {n : ℕ} (h : Nearest q n) (negative : Bool) :
    NearestInt (withSign negative q) (if negative then -(n : ℤ) else n) := by
  cases negative with
  | false =>
    refine NearestInt.of_half (k := n) h.near fun htie => ?_
    exact_mod_cast h.even htie
  | true =>
    have habs : |((-(n : ℤ) : ℤ) : ℚ) - -q| = |(n : ℚ) - q| := by
      rw [← abs_neg]
      congr 1
      push_cast
      ring
    refine .of_half (habs.le.trans h.near) fun htie => ?_
    have heven : Even n := h.even (habs ▸ htie)
    exact Even.neg (by exact_mod_cast heven)

/-! ### The canonical text -/

/-- The text is a number with nothing that could be left out, of no more than so many places, zero
without a sign, and denotes the multiple of `10 ^ (-places)` nearest to `q`. -/
structure CanonicalText (q : ℚ) (places : ℕ) (t : Text) : Prop where
  form : t ∈ plainForm.matches'
  short : (atPoint t).2.length ≤ places
  unsigned : t ≠ ['-', '0']
  value : ∃ k : ℤ, NearestInt (q * 10 ^ places) k ∧ decimalValue t = k / 10 ^ places

namespace CanonicalText

variable {q q' : ℚ} {places : ℕ} {t t' : Text}

/-- It is the text of a plain number that has the nearest count. -/
theorem exists_plainNumber (h : CanonicalText q places t) : ∃ p : PlainNumber,
    p.places.length ≤ places ∧ NearestInt (q * 10 ^ places) (p.count places) ∧ t = p.text := by
  obtain ⟨p, rfl⟩ := mem_plainForm_iff.mp ⟨h.form, h.unsigned⟩
  have hplaces : p.places.length ≤ places := p.atPoint_text ▸ h.short
  obtain ⟨k, hk, hvalue⟩ := h.value
  rw [PlainNumber.decimalValue_eq_div hplaces, div_left_inj' (by positivity)] at hvalue
  have hcount : p.count places = k := by exact_mod_cast hvalue
  exact ⟨p, hplaces, hcount ▸ hk, rfl⟩

/-- Two numbers have the same canonical text exactly when one multiple is nearest to both. -/
theorem eq_iff (h : CanonicalText q places t) (h' : CanonicalText q' places t') :
    t = t' ↔ ∃ k : ℤ, NearestInt (q * 10 ^ places) k ∧ NearestInt (q' * 10 ^ places) k := by
  obtain ⟨p, hplaces, hnearest, rfl⟩ := h.exists_plainNumber
  obtain ⟨p', hplaces', hnearest', rfl⟩ := h'.exists_plainNumber
  constructor
  · intro htext
    have hvalue := congrArg decimalValue htext
    rw [PlainNumber.decimalValue_eq_div hplaces, PlainNumber.decimalValue_eq_div hplaces',
      div_left_inj' (by positivity)] at hvalue
    have hcount : p.count places = p'.count places := by exact_mod_cast hvalue
    exact ⟨p.count places, hnearest, hcount ▸ hnearest'⟩
  · rintro ⟨k, hk, hk'⟩
    exact PlainNumber.text_eq_of_count hplaces hplaces'
      ((hnearest.unique hk).trans (hk'.unique hnearest'))

/-- A number has one canonical text. -/
theorem unique (h : CanonicalText q places t) (h' : CanonicalText q places t') : t = t' := by
  obtain ⟨p, -, hnearest, -⟩ := h.exists_plainNumber
  exact (h.eq_iff h').mpr ⟨p.count places, hnearest, hnearest⟩

end CanonicalText

namespace Double

/-- The number that a finite double stands for. -/
inductive StandsFor : Double → ℚ → Prop
  | finite (negative : Bool) {m : ℕ} {e : ℤ} (canonical : Canonical m e) :
      StandsFor (.finite negative m e) (withSign negative (size m e))

variable {negative : Bool} {m : ℕ} {e : ℤ} {places : ℕ} {p : PlainNumber}

/-- What a double is rounded to is the nearest of all multiples, negative ones included. -/
theorem RoundedTo.nearestInt (h : RoundedTo places negative m e p) :
    NearestInt (withSign negative (size m e) * 10 ^ places) (p.count places) := by
  have hnearest := h.nearest.nearestInt negative
  have hscaled : withSign negative (size m e * 10 ^ places) =
      withSign negative (size m e) * 10 ^ places := by
    unfold withSign
    split_ifs
    · ring
    · rfl
  have hcount : p.count places = if negative then -(p.units places : ℤ) else p.units places := by
    rw [PlainNumber.count, h.sign]
    by_cases hzero : p.units places = 0 <;> cases negative <;> simp [hzero]
  rwa [hscaled, ← hcount] at hnearest

theorem RoundedTo.canonicalText (h : RoundedTo places negative m e p) :
    CanonicalText (withSign negative (size m e)) places p.text := by
  obtain ⟨hform, hzero⟩ := mem_plainForm_iff.mpr ⟨p, rfl⟩
  exact ⟨hform, p.atPoint_text.symm ▸ h.places_le, hzero,
    p.count places, h.nearestInt, PlainNumber.decimalValue_eq_div h.places_le⟩

/-- The text of a finite double is canonical for the number that it stands for. -/
theorem StandsFor.canonicalText {x : Double} {q : ℚ} (hx : x.StandsFor q) (places : ℕ) :
    CanonicalText q places (x.trimmed places) := by
  obtain ⟨negative, hcanonical⟩ := hx
  obtain ⟨p, hp, htext⟩ := exists_trimmed hcanonical.lowest negative _ places
  exact htext ▸ hp.canonicalText

end Double

/-- With any number of places, the text of a finite double is the one canonical text for the number
that it stands for: a number with nothing that could be left out, of no more places, not a signed
zero, that denotes the nearest multiple, of two the even one. Two doubles have the same text exactly
when they are rounded to the same multiple. -/
theorem number_text_is_canonical {x : Double} {q : ℚ} (hx : x.StandsFor q) (places : ℕ) :
    CanonicalText q places (x.trimmed places) ∧
      (∀ t, CanonicalText q places t → t = x.trimmed places) ∧
      ∀ y r, Double.StandsFor y r →
        (x.trimmed places = y.trimmed places ↔
          ∃ k : ℤ, NearestInt (q * 10 ^ places) k ∧ NearestInt (r * 10 ^ places) k) := by
  have htext := hx.canonicalText places
  exact ⟨htext, fun t ht => ht.unique htext, fun y r hy => htext.eq_iff (hy.canonicalText places)⟩

/-- Minus an eighth is a tie with two places, and goes to the even one. -/
theorem minus_eighth_text :
    (Double.finite true (2 ^ 52) (-55)).trimmed 2 = "-0.12" ∧
      CanonicalText (-1 / 8) 2 "-0.12" := by
  have hcanonical : Double.Canonical (2 ^ 52) (-55) :=
    ⟨by norm_num, by decide, by decide, .inr (le_refl _)⟩
  have hnumber : withSign true (Double.size (2 ^ 52) (-55)) = -1 / 8 := by
    norm_num [withSign, Double.size]
  have htext : (Double.finite true (2 ^ 52) (-55)).trimmed 2 = "-0.12" := by decide
  have hcanonicalText := (number_text_is_canonical (.finite true hcanonical) 2).1
  rw [hnumber, htext] at hcanonicalText
  exact ⟨htext, hcanonicalText⟩

end DesignTokens
