import DesignTokens.Decimal.Fixed
import DesignTokens.Proofs.Decimal.Digits
import DesignTokens.Proofs.Decimal.Doubles

/-!
How a double is written with a number of places. Its units are the nearest multiple of a power of
ten; written with all their places, and without the zeros at the end, they are a number in its plain
form (`PlainNumber`): no zeros that could be left out, no point with nothing behind it, and no minus
sign in front of zero.

    negative   whole     places            units with three places
       -       1 2 3  .  4 5               123450

Every count of units is that of one plain number. So the text for a double is told by that number
alone (`Double.WrittenAs`), and the most places that are ever written do not show.
-/

namespace DesignTokens

/-- The places of a number with the point before them, or nothing if there are none. -/
def pointBefore (places : Text) : Text := if places = [] then [] else '.' :: places

theorem pointBefore_eq_nil_iff {places : Text} : pointBefore places = [] ↔ places = [] := by
  unfold pointBefore
  split_ifs with h <;> simp [h]

/-- A number in its plain form: neither the whole part nor the places have a zero that could be left
out, and zero has no sign. -/
structure PlainNumber where
  negative : Bool
  whole : Text
  places : Text
  isWhole : IsWhole whole
  digits : ∀ c ∈ places, isDigit c
  last : places.getLast? ≠ some '0'
  signed : negative → ¬(whole = ['0'] ∧ places = [])

namespace PlainNumber

/-- The text of a plain number. -/
def text (p : PlainNumber) : Text :=
  (if p.negative then ['-'] else []) ++ p.whole ++ pointBefore p.places

/-- The number without its sign, counted in units of `10 ^ (-n)`; the places must not be more than
`n`. -/
def units (p : PlainNumber) (n : ℕ) : ℕ := natOf (p.whole ++ p.places) * 10 ^ (n - p.places.length)

/-- The number without its sign. -/
def size (p : PlainNumber) : ℚ := natOf (p.whole ++ p.places) / 10 ^ p.places.length

variable {p : PlainNumber} {n : ℕ}

theorem no_point_in_whole (p : PlainNumber) : '.' ∉ p.whole :=
  fun h => absurd (p.isWhole.digits _ h) (by decide)

theorem size_mul_pow (h : p.places.length ≤ n) : p.size * 10 ^ n = p.units n := by
  have hsplit : (10 : ℚ) ^ n = 10 ^ p.places.length * 10 ^ (n - p.places.length) := by
    rw [← pow_add, Nat.add_sub_cancel' h]
  rw [size, units, hsplit]
  push_cast
  field_simp

theorem size_eq_div (h : p.places.length ≤ n) : p.size = (p.units n : ℚ) / 10 ^ n := by
  rw [← size_mul_pow h]
  field_simp

/-- The units are the value of the digits with zeros behind them. -/
theorem units_eq_natOf (p : PlainNumber) (n : ℕ) : p.units n =
    natOf (p.whole ++ (p.places ++ List.replicate (n - p.places.length) '0')) := by
  rw [← List.append_assoc, natOf_append, natOf_zeros, List.length_replicate]
  rfl

/-- There are no more units than the whole part and the places have room for. -/
theorem units_lt (h : p.places.length ≤ n) : p.units n < 10 ^ (p.whole.length + n) := by
  have hdigits : ∀ c ∈ p.whole ++ p.places, isDigit c :=
    List.forall_mem_append.mpr ⟨p.isWhole.digits, p.digits⟩
  have hvalue := natOf_lt hdigits
  rw [List.length_append] at hvalue
  calc p.units n < 10 ^ (p.whole.length + p.places.length) * 10 ^ (n - p.places.length) :=
        Nat.mul_lt_mul_of_pos_right hvalue (by positivity)
    _ = 10 ^ (p.whole.length + n) := by
      rw [← Nat.pow_add]
      congr 1
      omega

/-- Only the plain zero has no units. -/
theorem units_eq_zero_iff : p.units n = 0 ↔ p.whole = ['0'] ∧ p.places = [] := by
  constructor
  · intro h
    have hvalue : natOf (p.whole ++ p.places) = 0 := by
      rcases Nat.mul_eq_zero.mp h with hzero | hpow
      · exact hzero
      · exact absurd hpow (by positivity)
    rw [natOf_append] at hvalue
    have hwhole : natOf p.whole = 0 := by
      rcases Nat.mul_eq_zero.mp (Nat.eq_zero_of_add_eq_zero_right hvalue) with hzero | hpow
      · exact hzero
      · exact absurd hpow (by positivity)
    have hplaces : natOf p.places = 0 := Nat.eq_zero_of_add_eq_zero_left hvalue
    refine ⟨?_, ?_⟩
    · rw [← p.isWhole.natText_natOf, hwhole]
      rfl
    · -- the places are zeros, and the last one is none
      by_contra hne
      refine p.last ?_
      rw [List.getLast?_eq_some_getLast hne]
      exact congrArg some (eq_zero_of_natOf_eq_zero p.digits hplaces _ (List.getLast_mem hne))
  · rintro ⟨hwhole, hplaces⟩
    simp [units, hwhole, hplaces, natOf, digitValue]

/-- Whether there are any units does not depend on how small they are. -/
theorem units_bne_zero (p : PlainNumber) (n n' : ℕ) : (p.units n != 0) = (p.units n' != 0) := by
  have hzero : p.units n = 0 ↔ p.units n' = 0 := by rw [units_eq_zero_iff, units_eq_zero_iff]
  rw [Bool.eq_iff_iff, bne_iff_ne, bne_iff_ne]
  exact not_congr hzero

/-- Where there is a sign there are units. -/
theorem negative_eq (p : PlainNumber) (n : ℕ) :
    p.negative = (p.negative && p.units n != 0) := by
  cases hsign : p.negative with
  | false => rfl
  | true =>
    have hunits : p.units n ≠ 0 := fun h => p.signed hsign (units_eq_zero_iff.mp h)
    simpa using hunits

/-- Behind its sign, a number does not begin with a minus sign. -/
theorem unsigned_ne_minus (p : PlainNumber) (t : Text) :
    p.whole ++ pointBefore p.places ≠ '-' :: t := by
  intro h
  obtain ⟨c, rest, hwhole⟩ := List.exists_cons_of_ne_nil p.isWhole.ne_nil
  have hdigit : isDigit c := p.isWhole.digits c (by rw [hwhole]; exact List.mem_cons_self)
  rw [hwhole] at h
  have hminus : c = '-' := (List.cons.inj h).1
  rw [hminus] at hdigit
  exact absurd hdigit (by decide)

/-- A sign is not put in front of zero. -/
theorem text_ne_minus_zero (p : PlainNumber) : p.text ≠ ['-', '0'] := by
  intro h
  unfold text at h
  cases hsign : p.negative with
  | false =>
    rw [hsign] at h
    exact p.unsigned_ne_minus ['0'] h
  | true =>
    have hzero : p.whole ++ pointBefore p.places = ['0'] := by simpa [hsign] using h
    rcases List.append_eq_singleton_iff.mp hzero with ⟨hnil, -⟩ | ⟨hone, hnil⟩
    · exact p.isWhole.ne_nil hnil
    · exact p.signed hsign ⟨hone, pointBefore_eq_nil_iff.mp hnil⟩

end PlainNumber

/-- A row of digits is what is left without its zeros at the end, and these zeros. -/
theorem exists_zeros_at_end (g : Text) :
    ∃ f k, g = f ++ List.replicate k '0' ∧ f.getLast? ≠ some '0' := by
  induction g using List.reverseRecOn with
  | nil => exact ⟨[], 0, rfl, by simp⟩
  | append_singleton g c ih =>
    by_cases hc : c = '0'
    · obtain ⟨f, k, hg, hlast⟩ := ih
      refine ⟨f, k + 1, ?_, hlast⟩
      rw [hg, hc, List.replicate_succ', List.append_assoc]
    · exact ⟨g ++ [c], 0, by simp, by simpa using hc⟩

/-- Every count of units is that of a plain number, with a sign if there is anything to sign. -/
theorem PlainNumber.exists_of_units (negative : Bool) (k n : ℕ) :
    ∃ p : PlainNumber, p.places.length ≤ n ∧ p.units n = k ∧ p.negative = (negative && k != 0) := by
  obtain ⟨g, hdigits, hlength, hvalue⟩ := exists_row (Nat.mod_lt k (by positivity : 10 ^ n > 0))
  obtain ⟨f, z, hg, hlast⟩ := exists_zeros_at_end g
  have hz : z = n - f.length := by
    rw [← hlength, hg]
    simp
  have hunits : natOf (natText (k / 10 ^ n) ++ f) * 10 ^ (n - f.length) = k := by
    have hrow : natOf (natText (k / 10 ^ n) ++ g) = k := by
      rw [natOf_append, natOf_natText, hvalue, hlength, mul_comm]
      exact Nat.div_add_mod k _
    rw [hg, ← List.append_assoc, natOf_append, natOf_zeros, List.length_replicate, hz] at hrow
    exact hrow
  have hf : ∀ c ∈ f, isDigit c := by
    rw [hg] at hdigits
    exact (List.forall_mem_append.mp hdigits).1
  refine ⟨⟨negative && k != 0, natText (k / 10 ^ n), f, isWhole_natText _, hf, hlast, ?_⟩,
    ?_, hunits, rfl⟩
  · rintro hsign ⟨hwhole, hplaces⟩
    rw [hwhole, hplaces] at hunits
    have hk : k = 0 := by simpa [natOf, digitValue] using hunits.symm
    simp [hk] at hsign
  · show f.length ≤ n
    rw [← hlength, hg]
    simp

namespace Double

/-! ### Zeros at the end -/

theorem dropZeros_of_no_point {t : Text} (h : '.' ∉ t) : dropZeros t = t := by
  rw [dropZeros, if_neg (by simpa using h)]

theorem dropWhile_of_head?_ne {c : Char} {t : Text} (h : t.head? ≠ some c) :
    t.dropWhile (· == c) = t := by
  cases t with
  | nil => rfl
  | cons d t => exact List.dropWhile_cons_of_neg (by simpa using h)

theorem dropWhile_zeros (k : ℕ) {t : Text} (h : t.head? ≠ some '0') :
    (List.replicate k '0' ++ t).dropWhile (· == '0') = t := by
  rw [List.dropWhile_append_of_pos (by simp), dropWhile_of_head?_ne h]

/-- The zeros at the end of the places are left out, and the point if no place is left. -/
theorem dropZeros_pointBefore {w f : Text} {k : ℕ} (hw : '.' ∉ w) (hf : ∀ c ∈ f, isDigit c)
    (hlast : f.getLast? ≠ some '0') :
    dropZeros (w ++ pointBefore (f ++ List.replicate k '0')) = w ++ pointBefore f := by
  by_cases hnone : f ++ List.replicate k '0' = []
  · have hf : f = [] := (List.append_eq_nil_iff.mp hnone).1
    rw [hnone, hf, pointBefore, if_pos rfl, List.append_nil, dropZeros_of_no_point hw]
  · rw [pointBefore, if_neg hnone]
    have hpoint : (w ++ '.' :: (f ++ List.replicate k '0')).contains '.' = true := by simp
    have hreverse : (w ++ '.' :: (f ++ List.replicate k '0')).reverse =
        List.replicate k '0' ++ (f.reverse ++ '.' :: w.reverse) := by simp
    rw [dropZeros, if_pos hpoint, hreverse]
    simp only
    rcases List.eq_nil_or_concat f with rfl | ⟨front, c, rfl⟩
    · -- nothing is left behind the point, and the whole part does not end in one
      have hwhole : w.reverse.head? ≠ some '.' := fun h =>
        hw (List.mem_reverse.mp (List.mem_of_head? h))
      rw [List.reverse_nil, List.nil_append, dropWhile_zeros k (by simp),
        List.dropWhile_cons_of_pos (by simp), dropWhile_of_head?_ne hwhole, List.reverse_reverse]
      simp [pointBefore]
    · -- the last place is neither a zero nor a point
      rw [List.concat_eq_append] at hf hlast ⊢
      have hnotPoint : c ≠ '.' := by
        rintro rfl
        exact absurd (hf '.' (by simp)) (by decide)
      have hnotZero : c ≠ '0' := by simpa using hlast
      rw [List.reverse_append, List.reverse_singleton, List.singleton_append, List.cons_append,
        dropWhile_zeros k (by simpa using hnotZero),
        dropWhile_of_head?_ne (by simpa using hnotPoint)]
      simp [pointBefore]

/-! ### Units with their point -/

/-- A whole part and places are what is written for the units that they make. -/
theorem pointed_natOf {w g : Text} (hw : IsWhole w) (hg : ∀ c ∈ g, isDigit c) :
    pointed (natOf (w ++ g)) g.length = w ++ pointBefore g := by
  have hdigits : ∀ c ∈ w ++ g, isDigit c := List.forall_mem_append.mpr ⟨hw.digits, hg⟩
  have hlength : 0 < w.length := List.length_pos_iff.mpr hw.ne_nil
  have hne : w ++ g ≠ [] := by simp [hw.ne_nil]
  have hle := length_natText_natOf_le hdigits hne
  have hrow := zeros_append_natText hdigits hle
  -- as many zeros are put in front as the row has
  have hpadding : g.length + 1 - (natText (natOf (w ++ g))).length =
      (w ++ g).length - (natText (natOf (w ++ g))).length := by
    by_cases hzero : w.head? = some '0'
    · rw [hw.zero hzero]
      simp
    · have hwhole : IsWhole (w ++ g) := by
        refine ⟨hdigits, hne, fun hhead => absurd ?_ hzero⟩
        rwa [List.head?_append_of_ne_nil _ hw.ne_nil] at hhead
      rw [hwhole.natText_natOf, List.length_append]
      omega
  have htake : (w ++ g).length - g.length = w.length := by simp
  unfold pointed
  simp only [hpadding, hrow, htake, List.take_left, List.drop_left]
  by_cases hnil : g = []
  · simp [hnil, pointBefore]
  · rw [if_neg (by simpa using hnil), pointBefore, if_neg hnil]

/-- The units of a double are the nearest ones. -/
theorem nearest_units (m : ℕ) (e : ℤ) (n : ℕ) : Nearest (size m e * 10 ^ n) (units m e n) := by
  have hscaled : size m e * 10 ^ n =
      ((m * 2 ^ e.toNat * 10 ^ n : ℕ) : ℚ) / ((2 ^ (-e).toNat : ℕ) : ℚ) := by
    rw [size, two_zpow_eq_div]
    push_cast
    ring
  rw [hscaled]
  exact nearest_roundDiv _ (by positivity)

/-- Units of a plain number, without the zeros at their end, are that number. -/
theorem dropZeros_pointed {p : PlainNumber} {n : ℕ} (h : p.places.length ≤ n) {sign : Text}
    (hsign : '.' ∉ sign) :
    dropZeros (sign ++ pointed (p.units n) n) = sign ++ p.whole ++ pointBefore p.places := by
  set zeros := List.replicate (n - p.places.length) '0'
  have hpadded : ∀ c ∈ p.places ++ zeros, isDigit c :=
    List.forall_mem_append.mpr ⟨p.digits, fun _ => isDigit_of_mem_zeros⟩
  have hlength : (p.places ++ zeros).length = n := by
    simp only [zeros, List.length_append, List.length_replicate]
    omega
  have hpointed : pointed (p.units n) n = p.whole ++ pointBefore (p.places ++ zeros) := by
    have hwritten := pointed_natOf p.isWhole hpadded
    rwa [hlength, ← p.units_eq_natOf n] at hwritten
  have hnoPoint : '.' ∉ sign ++ p.whole := by
    rw [List.mem_append, not_or]
    exact ⟨hsign, p.no_point_in_whole⟩
  rw [hpointed, ← List.append_assoc, dropZeros_pointBefore hnoPoint p.digits p.last]

theorem no_point_in_sign (negative : Bool) : '.' ∉ (if negative then ['-'] else [] : Text) := by
  cases negative <;> simp

end Double

/-- A plain number is written by its sign and its units. -/
theorem PlainNumber.text_eq_of_units {p p' : PlainNumber} {n : ℕ} (h : p.places.length ≤ n)
    (h' : p'.places.length ≤ n) (hunits : p.units n = p'.units n)
    (hsign : p.negative = p'.negative) : p.text = p'.text := by
  have hnoPoint := Double.no_point_in_sign p.negative
  rw [text, text, ← hsign, ← Double.dropZeros_pointed h hnoPoint, hunits,
    Double.dropZeros_pointed h' hnoPoint]

namespace Double

/-! ### Trimmed doubles -/

section Trimmed

variable {negative : Bool} {m : ℕ} {e : ℤ} {places : ℕ} {p p' : PlainNumber}

/-- Digits with all their places, without the zeros at the end and without a sign in front of zero,
are the plain number that has these units. -/
theorem dropZeros_fixed (hplaces : p.places.length ≤ places)
    (hunits : p.units places = units m e places)
    (hsign : p.negative = (negative && units m e places != 0)) :
    (if dropZeros ((finite negative m e).fixed places) = ['-', '0'] then ['0']
      else dropZeros ((finite negative m e).fixed places)) = p.text := by
  have hdropped : dropZeros ((finite negative m e).fixed places) =
      (if negative then ['-'] else []) ++ p.whole ++ pointBefore p.places := by
    rw [fixed, ← hunits, dropZeros_pointed hplaces (no_point_in_sign negative)]
  rw [hdropped]
  rw [← hunits] at hsign
  by_cases hzero : p.whole = ['0'] ∧ p.places = []
  · -- zero has no sign
    have hnone : p.negative = false := by
      rw [hsign, PlainNumber.units_eq_zero_iff.mpr hzero]
      simp
    cases negative <;> simp [PlainNumber.text, hnone, hzero.1, hzero.2, pointBefore]
  · have hsame : p.negative = negative := by
      rw [hsign, bne_iff_ne.mpr fun h => hzero (PlainNumber.units_eq_zero_iff.mp h), Bool.and_true]
    have htext : p.text = (if negative then ['-'] else []) ++ p.whole ++ pointBefore p.places := by
      rw [PlainNumber.text, hsame]
    rw [← htext, if_neg p.text_ne_minus_zero]

/-- The plain number is what a double is rounded to with so many places: no number of so many places
is nearer, and it has the sign of the double unless it is zero. -/
structure RoundedTo (places : ℕ) (negative : Bool) (m : ℕ) (e : ℤ) (p : PlainNumber) : Prop where
  places_le : p.places.length ≤ places
  nearest : Nearest (size m e * 10 ^ places) (p.units places)
  sign : p.negative = (negative && p.units places != 0)

/-- Infinities are written in letters. -/
theorem trimmed_infinite (negative : Bool) (places : ℕ) :
    (infinite negative).trimmed places = (if negative then ['-'] else []) ++ "inf" := by
  cases negative <;> rfl

theorem RoundedTo.text_eq (h : RoundedTo places negative m e p)
    (h' : RoundedTo places negative m e p') : p.text = p'.text := by
  have hunits := h.nearest.unique h'.nearest
  refine PlainNumber.text_eq_of_units h.places_le h'.places_le hunits ?_
  rw [h.sign, h'.sign, hunits]

/-- With the most places nothing is rounded. -/
theorem exists_eq_natCast (h : lowestExponent ≤ e) (m : ℕ) :
    ∃ k : ℕ, size m e * 10 ^ mostPlaces = k := by
  obtain ⟨j, hj⟩ := exists_size_eq m h
  have hlowest : lowestExponent = -(mostPlaces : ℤ) := rfl
  refine ⟨j * 5 ^ mostPlaces, ?_⟩
  rw [hj, size, hlowest, zpow_neg, zpow_natCast, (by norm_num : (10 : ℚ) = 2 * 5), mul_pow]
  push_cast
  field_simp

/-- Places past the most make no difference. -/
theorem roundedTo_of_units (h : lowestExponent ≤ e)
    (hplaces : p.places.length ≤ min places mostPlaces)
    (hunits : p.units (min places mostPlaces) = units m e (min places mostPlaces))
    (hsign : p.negative = (negative && units m e (min places mostPlaces) != 0)) :
    RoundedTo places negative m e p := by
  refine ⟨hplaces.trans (min_le_left _ _), ?_, ?_⟩
  · rcases le_total places mostPlaces with hle | hge
    · rw [min_eq_left hle] at hunits
      rw [hunits]
      exact nearest_units m e places
    · rw [min_eq_right hge] at hplaces hunits
      obtain ⟨k, hk⟩ := exists_eq_natCast h m
      have hexact : p.units mostPlaces = k := by
        rw [hunits]
        exact (nearest_units m e mostPlaces).unique (hk ▸ Nearest.natCast k)
      have hsize : p.size = size m e := by
        rw [p.size_eq_div hplaces, hexact, ← hk]
        field_simp
      rw [← hsize, p.size_mul_pow (hplaces.trans hge)]
      exact Nearest.natCast _
  · rw [hsign, ← hunits, p.units_bne_zero places (min places mostPlaces)]

/-- A finite double is written as a plain number that it is rounded to. -/
theorem exists_trimmed (h : lowestExponent ≤ e) (negative : Bool) (m places : ℕ) :
    ∃ p, RoundedTo places negative m e p ∧ (finite negative m e).trimmed places = p.text := by
  obtain ⟨p, hplaces, hunits, hsign⟩ := PlainNumber.exists_of_units negative
    (units m e (min places mostPlaces)) (min places mostPlaces)
  exact ⟨p, roundedTo_of_units h hplaces hunits hsign, dropZeros_fixed hplaces hunits hsign⟩

theorem RoundedTo.trimmed (hp : RoundedTo places negative m e p) (h : lowestExponent ≤ e) :
    (finite negative m e).trimmed places = p.text := by
  obtain ⟨p', hp', htext⟩ := exists_trimmed h negative m places
  rw [htext, hp'.text_eq hp]

/-- What is written does not depend on the most places that a double can need: it is as if all
places had been written. -/
theorem trimmed_eq_dropZeros_fixed (h : lowestExponent ≤ e) (negative : Bool) (m places : ℕ) :
    (finite negative m e).trimmed places =
      if dropZeros ((finite negative m e).fixed places) = ['-', '0'] then ['0']
      else dropZeros ((finite negative m e).fixed places) := by
  obtain ⟨p, hp, htext⟩ := exists_trimmed h negative m places
  have hunits : p.units places = units m e places := hp.nearest.unique (nearest_units m e places)
  rw [htext, dropZeros_fixed hp.places_le hunits (hunits ▸ hp.sign)]

end Trimmed

/-- What stands for a double with so many places: the plain number that it is rounded to, and
letters for an infinity. -/
inductive WrittenAs (places : ℕ) : Double → Text → Prop
  | finite {negative : Bool} {m : ℕ} {e : ℤ} {p : PlainNumber}
      (rounded : RoundedTo places negative m e p) : WrittenAs places (.finite negative m e) p.text
  | infinite (negative : Bool) :
      WrittenAs places (.infinite negative) ((if negative then ['-'] else []) ++ "inf")

/-- A double that a number is rounded to is written in this way. -/
theorem writtenAs_trimmed {negative : Bool} {q : ℚ} {x : Double} (hx : Rounds negative q x)
    (places : ℕ) : x.WrittenAs places (x.trimmed places) := by
  cases hx with
  | @finite m e hc =>
    obtain ⟨p, hp, htext⟩ := exists_trimmed hc.lowest negative m places
    rw [htext]
    exact .finite hp
  | infinite =>
    rw [trimmed_infinite]
    exact .infinite negative

end Double

end DesignTokens
