import DesignTokens.Proofs.Decimal.Doubles
import DesignTokens.Proofs.Expression.References

/-!
Quantities among the values of tokens. A text is a quantity exactly when it is a number in decimal
with something behind it that goes on with neither a digit nor a point. Reading takes digits as long
as there are any and never looks back, so there is one place where the number ends, the text behind
it is kept as it stands, and a text with a second point is no quantity at all:

    10.50px   ──▶  10.50 │ px          5.   ──▶  5. │
    -.5 em    ──▶  -.5 │  em           1.2.3  is a literal

The number itself becomes the double that it is rounded to.
-/

namespace DesignTokens

/-- A number as it may be written in decimal: `-?([0-9]+(\.[0-9]*)?|\.[0-9]+)`. -/
structure Numeral where
  negative : Bool
  whole : Text
  /-- The places after the point, if there is a point. -/
  places : Option Text
  whole_digits : ∀ c ∈ whole, isDigit c
  places_digits : ∀ p ∈ places, ∀ c ∈ p, isDigit c
  some_digit : whole ≠ [] ∨ ∃ p ∈ places, p ≠ []

namespace Numeral

/-- The text without the sign. -/
def unsigned (n : Numeral) : Text := n.whole ++ n.places.elim [] ('.' :: ·)

/-- The text of the number. -/
def text (n : Numeral) : Text := (if n.negative then ['-'] else []) ++ n.unsigned

/-- The number without its sign. -/
def size (n : Numeral) : ℚ :=
  natOf (n.whole ++ n.places.getD []) / 10 ^ (n.places.getD []).length

/-- The number with what stands behind it. -/
def withUnit (n : Numeral) (unit : Text) : Quantity := ⟨n.negative, n.whole, n.places, unit⟩

end Numeral

/-- The text can stand behind a number: it goes on with neither a digit nor a point. -/
def GoesBehind (unit : Text) : Prop := ∀ c ∈ unit.head?, isDigit c = false ∧ c ≠ '.'

instance (unit : Text) : Decidable (GoesBehind unit) :=
  match h : unit.head? with
  | none => isTrue (by simp [GoesBehind, h])
  | some c => decidable_of_iff (isDigit c = false ∧ c ≠ '.') (by simp [GoesBehind, h])

/-- A number is read as the double that it is rounded to. -/
theorem Numeral.rounds_number (n : Numeral) (unit : Text) :
    Double.Rounds n.negative n.size (n.withUnit unit).number := by
  have hrounds := Double.rounds_ofRatio n.negative (natOf (n.whole ++ n.places.getD []))
    (Nat.pow_pos (n := (n.places.getD []).length) (by omega : 0 < 10))
  have hsize : n.size = (natOf (n.whole ++ n.places.getD []) : ℚ) /
      ((10 ^ (n.places.getD []).length : ℕ) : ℚ) := by
    rw [size]
    push_cast
    rfl
  rw [hsize]
  exact hrounds

namespace Numeral

theorem text_of_negative {n : Numeral} (h : n.negative = true) (unit : Text) :
    n.text ++ unit = '-' :: (n.unsigned ++ unit) := by
  rw [text, h]
  rfl

theorem text_of_not_negative {n : Numeral} (h : n.negative = false) (unit : Text) :
    n.text ++ unit = n.unsigned ++ unit := by
  rw [text, h]
  rfl

/-- A number without its sign starts with a digit or a point. -/
theorem exists_head?_unsigned (n : Numeral) (unit : Text) :
    ∃ c, (n.unsigned ++ unit).head? = some c ∧ (isDigit c ∨ c = '.') := by
  unfold unsigned
  cases hwhole : n.whole with
  | cons c rest =>
    exact ⟨c, rfl, .inl (n.whole_digits c (by rw [hwhole]; exact List.mem_cons_self))⟩
  | nil =>
    rcases n.some_digit with hne | ⟨p, hp, -⟩
    · exact absurd hwhole hne
    · rw [Option.mem_def.mp hp]
      exact ⟨'.', rfl, .inr rfl⟩

theorem head?_unsigned_ne {c : Char} (hdigit : isDigit c = false) (hpoint : c ≠ '.') (n : Numeral)
    (unit : Text) : (n.unsigned ++ unit).head? ≠ some c := by
  obtain ⟨d, hhead, hd⟩ := n.exists_head?_unsigned unit
  rw [hhead]
  rintro ⟨⟩
  rcases hd with hd | hd
  · rw [hdigit] at hd
    cases hd
  · exact hpoint hd

end Numeral

/-! ### Reading numbers -/

namespace Quantity

variable {t whole rest unit : Text} {n : Numeral} {q : Quantity}

/-- Digits that no point follows are a number. -/
theorem readUnsigned?_of_no_point (negative : Bool) (hwhole : ∀ c ∈ whole, isDigit c)
    (hrest : ∀ c ∈ rest.head?, isDigit c = false) (hpoint : rest.head? ≠ some '.') :
    readUnsigned? negative (whole ++ rest) =
      if whole = [] then none else some ⟨negative, whole, none, rest⟩ := by
  unfold readUnsigned?
  rw [takeWhile_of_stop hwhole hrest, dropWhile_of_stop hwhole hrest]
  split
  · exact absurd rfl hpoint
  · simp only [List.isEmpty_iff]

/-- Digits and a point are a number with the digits behind the point, if there are any digits. -/
theorem readUnsigned?_of_point (negative : Bool) (hwhole : ∀ c ∈ whole, isDigit c) (rest : Text) :
    readUnsigned? negative (whole ++ '.' :: rest) =
      if whole = [] ∧ rest.takeWhile isDigit = [] then none
      else some ⟨negative, whole, some (rest.takeWhile isDigit), rest.dropWhile isDigit⟩ := by
  have hstop : ∀ c ∈ ('.' :: rest).head?, isDigit c = false := stop_cons (by decide) rest
  unfold readUnsigned?
  simp only [takeWhile_of_stop hwhole hstop, dropWhile_of_stop hwhole hstop, Bool.and_eq_true,
    List.isEmpty_iff]

theorem readUnsigned?_unsigned (negative : Bool) (n : Numeral) (hunit : GoesBehind unit) :
    readUnsigned? negative (n.unsigned ++ unit) = some ⟨negative, n.whole, n.places, unit⟩ := by
  have hstop : ∀ c ∈ unit.head?, isDigit c = false := fun c hc => (hunit c hc).1
  unfold Numeral.unsigned
  cases hplaces : n.places with
  | none =>
    have hwhole : n.whole ≠ [] := by
      rcases n.some_digit with hwhole | ⟨p, hp, -⟩
      · exact hwhole
      · rw [hplaces] at hp
        cases hp
    rw [Option.elim_none, List.append_nil, readUnsigned?_of_no_point negative n.whole_digits hstop
      fun hpoint => (hunit '.' hpoint).2 rfl, if_neg hwhole]
  | some p =>
    have hp : ∀ c ∈ p, isDigit c := n.places_digits p hplaces
    have hdigit : ¬(n.whole = [] ∧ p = []) := by
      rintro ⟨hnone, rfl⟩
      rcases n.some_digit with hwhole | ⟨p', hp', hne⟩
      · exact hwhole hnone
      · rw [hplaces] at hp'
        exact hne (Option.some.inj hp').symm
    rw [Option.elim_some, List.append_assoc, List.cons_append,
      readUnsigned?_of_point negative n.whole_digits, takeWhile_of_stop hp hstop,
      dropWhile_of_stop hp hstop, if_neg hdigit]

/-- What is read as a number without its sign is one, and what stands behind it does not go on with
a digit. -/
theorem of_readUnsigned? {negative : Bool} (h : readUnsigned? negative t = some q) :
    ∃ n : Numeral, q = n.withUnit q.unit ∧ n.negative = negative ∧ t = n.unsigned ++ q.unit ∧
      ∀ c ∈ q.unit.head?, isDigit c = false := by
  obtain ⟨whole, rest, rfl, hwhole, hrest⟩ := exists_run isDigit t
  by_cases hpoint : rest.head? = some '.'
  · obtain ⟨after, rfl⟩ := List.head?_eq_some_iff.mp hpoint
    obtain ⟨p, unit, rfl, hp, hunit⟩ := exists_run isDigit after
    rw [readUnsigned?_of_point negative hwhole, takeWhile_of_stop hp hunit,
      dropWhile_of_stop hp hunit] at h
    split_ifs at h with hnone
    obtain rfl := Option.some.inj h
    have hdigit : whole ≠ [] ∨ ∃ p' ∈ some p, p' ≠ [] := by
      by_cases hw : whole = []
      · exact .inr ⟨p, rfl, fun hempty => hnone ⟨hw, hempty⟩⟩
      · exact .inl hw
    refine ⟨⟨negative, whole, some p, hwhole, ?_, hdigit⟩, rfl, rfl, ?_, hunit⟩
    · rintro p' ⟨⟩
      exact hp
    · simp [Numeral.unsigned]
  · rw [readUnsigned?_of_no_point negative hwhole hrest hpoint] at h
    split_ifs at h with hnone
    obtain rfl := Option.some.inj h
    refine ⟨⟨negative, whole, none, hwhole, ?_, .inl hnone⟩, rfl, rfl, ?_, hrest⟩
    · rintro p' ⟨⟩
    · simp [Numeral.unsigned]

theorem read?_of_no_minus (h : t.head? ≠ some '-') :
    read? t = (readUnsigned? false t).filter fun q => q.unit.head? != some '.' := by
  unfold read?
  split
  · simp at h
  · rfl

/-- A number is read up to its end. -/
theorem read?_text (n : Numeral) (hunit : GoesBehind unit) :
    read? (n.text ++ unit) = some (n.withUnit unit) := by
  have hnoPoint : (unit.head? != some '.') = true := by
    rw [bne_iff_ne]
    exact fun hhead => (hunit '.' hhead).2 rfl
  cases hsign : n.negative with
  | true =>
    rw [Numeral.text_of_negative hsign]
    show (readUnsigned? true (n.unsigned ++ unit)).filter _ = _
    rw [readUnsigned?_unsigned true n hunit, Numeral.withUnit, hsign]
    exact Option.filter_some_pos hnoPoint
  | false =>
    have hminus : (n.unsigned ++ unit).head? ≠ some '-' :=
      n.head?_unsigned_ne (by decide) (by decide) unit
    rw [Numeral.text_of_not_negative hsign, read?_of_no_minus hminus,
      readUnsigned?_unsigned false n hunit, Numeral.withUnit, hsign]
    exact Option.filter_some_pos hnoPoint

/-- What is read is a number with something behind it. -/
theorem of_read? (h : read? t = some q) :
    ∃ n : Numeral, q = n.withUnit q.unit ∧ t = n.text ++ q.unit ∧ GoesBehind q.unit := by
  have hbehind : ∀ {r : Option Quantity}, r.filter (fun q => q.unit.head? != some '.') = some q →
      r = some q ∧ q.unit.head? ≠ some '.' := by
    intro r hr
    obtain ⟨rfl, hpoint⟩ := Option.filter_eq_some_iff.mp hr
    exact ⟨rfl, bne_iff_ne.mp hpoint⟩
  have hunit : (∀ c ∈ q.unit.head?, isDigit c = false) → q.unit.head? ≠ some '.' →
      GoesBehind q.unit := by
    intro hdigit hpoint c hc
    exact ⟨hdigit c hc, fun heq => hpoint (heq ▸ hc)⟩
  unfold read? at h
  split at h
  · next rest =>
    obtain ⟨hread, hpoint⟩ := hbehind h
    obtain ⟨n, hq, hsign, rfl, hdigit⟩ := of_readUnsigned? hread
    refine ⟨n, hq, ?_, hunit hdigit hpoint⟩
    simp [Numeral.text, hsign]
  · obtain ⟨hread, hpoint⟩ := hbehind h
    obtain ⟨n, hq, hsign, ht, hdigit⟩ := of_readUnsigned? hread
    refine ⟨n, hq, ?_, hunit hdigit hpoint⟩
    simp [Numeral.text, hsign, ← ht]

theorem read?_eq_none_iff : read? t = none ↔
    ¬∃ (n : Numeral) (unit : Text), t = n.text ++ unit ∧ GoesBehind unit := by
  rw [Option.eq_none_iff_forall_ne_some]
  constructor
  · rintro hnone ⟨n, unit, rfl, hunit⟩
    exact hnone _ (read?_text n hunit)
  · intro hnone q hread
    obtain ⟨n, -, ht, hunit⟩ := of_read? hread
    exact hnone ⟨n, q.unit, ht, hunit⟩

end Quantity

/-! ### The rule for quantities -/

namespace Grammar

open DesignTokens.Parser

variable {t s u rest : Text}

/-- A number without its sign is taken as it is read. -/
theorem run_unsigned (negative : Bool) (t : Text) :
    unsigned.run t = (Quantity.readUnsigned? negative t).map fun q => ((), q.unit) := by
  obtain ⟨whole, rest, rfl, hwhole, hrest⟩ := exists_run isDigit t
  simp only [unsigned, run_orElse, run_bind, run_atLeastOne_charOf, takeWhile_of_stop hwhole hrest,
    dropWhile_of_stop hwhole hrest, run_optional?, run_many_charOf, run_pure]
  by_cases hpoint : rest.head? = some '.'
  · obtain ⟨after, rfl⟩ := List.head?_eq_some_iff.mp hpoint
    rw [Quantity.readUnsigned?_of_point negative hwhole]
    by_cases hnone : whole = []
    · simp only [hnone, if_true, Option.bind_none, Option.none_or, List.nil_append, run_char_cons,
        Option.bind_some, true_and]
      split_ifs <;> rfl
    · simp [hnone, run_char_cons]
  · -- without a point behind the digits nothing more is taken
    have hother : (char '.').run rest = none := by
      cases rest with
      | nil => rfl
      | cons c rest => rw [run_char_cons, if_neg (by simpa using hpoint)]
    rw [Quantity.readUnsigned?_of_no_point negative hwhole hrest hpoint]
    by_cases hnone : whole = []
    · simp [hnone, hother]
    · simp [hnone, hother]

/-- A minus sign is taken if there is one, and then the number behind it. -/
theorem run_number (t : Text) : number.run t =
    ((unsigned.run (if t.head? = some '-' then t.tail else t)).map fun r =>
      (t.take (t.length - r.2.length), r.2)) := by
  have hsigned : (do let _ ← optional? (char '-'); unsigned : Parser Unit).run t =
      unsigned.run (if t.head? = some '-' then t.tail else t) := by
    rw [run_bind, run_optional?]
    cases t with
    | nil => rfl
    | cons c t =>
      rw [run_char_cons]
      by_cases hminus : c = '-' <;> simp [hminus]
  rw [number, run_captured, hsigned]

/-- A number is taken up to its end. -/
theorem run_number_text (n : Numeral) (hunit : GoesBehind u) :
    number.run (n.text ++ u) = some (n.text, u) := by
  have hbehind : (if (n.text ++ u).head? = some '-' then (n.text ++ u).tail else n.text ++ u) =
      n.unsigned ++ u := by
    cases hsign : n.negative with
    | true =>
      rw [Numeral.text_of_negative hsign]
      rfl
    | false =>
      rw [Numeral.text_of_not_negative hsign,
        if_neg (n.head?_unsigned_ne (by decide) (by decide) u)]
  rw [run_number, hbehind, run_unsigned n.negative, Quantity.readUnsigned?_unsigned _ n hunit]
  simp

/-- What is taken as a number is one. -/
theorem of_run_number (h : number.run t = some (s, rest)) :
    ∃ n : Numeral, s = n.text ∧ t = n.text ++ rest := by
  have htaken : ∀ {t' : Text} (negative : Bool), unsigned.run t' = some ((), rest) →
      ∃ n : Numeral, n.negative = negative ∧ t' = n.unsigned ++ rest := by
    intro t' negative hrun
    rw [run_unsigned negative] at hrun
    obtain ⟨q, hread, heq⟩ := Option.map_eq_some_iff.mp hrun
    obtain ⟨n, -, hsign, ht, -⟩ := Quantity.of_readUnsigned? hread
    obtain ⟨-, rfl⟩ := Prod.mk.inj heq
    exact ⟨n, hsign, ht⟩
  rw [run_number] at h
  obtain ⟨⟨⟨⟩, rest'⟩, hrun, heq⟩ := Option.map_eq_some_iff.mp h
  obtain ⟨rfl, rfl⟩ := Prod.mk.inj heq
  obtain ⟨n, ht⟩ : ∃ n : Numeral, t = n.text ++ rest' := by
    split_ifs at hrun with hminus
    · obtain ⟨n, hsign, ht⟩ := htaken true hrun
      refine ⟨n, ?_⟩
      rw [Numeral.text_of_negative hsign, ← ht]
      exact (List.cons_head?_tail hminus).symm
    · obtain ⟨n, hsign, ht⟩ := htaken false hrun
      exact ⟨n, by rw [Numeral.text_of_not_negative hsign, ht]⟩
  exact ⟨n, by simp [ht], ht⟩

/-- What can stand behind a number is taken as it is. -/
theorem run_unit (t : Text) : unit.run t = if GoesBehind t then some (t, []) else none := by
  have hall : (many anyChar).run t = some (t, []) := by
    rw [anyChar_eq, run_many_charOf]
    simp
  have hahead : ((charOf fun c => isDigit c || c == '.').run t).isSome = true ↔ ¬GoesBehind t := by
    cases t with
    | nil => simp [GoesBehind, run_charOf_nil]
    | cons c t =>
      rw [run_charOf_cons]
      by_cases hdigit : isDigit c <;> by_cases hpoint : c = '.' <;>
        simp [GoesBehind, hdigit, hpoint]
  rw [unit, run_captured, run_bind, run_absent]
  by_cases h : GoesBehind t
  · rw [if_pos h, if_neg fun hsome => hahead.mp hsome h, Option.bind_some, hall]
    simp
  · rw [if_neg h, if_pos (hahead.mpr h)]
    rfl

/-- The rule for quantities takes a text just if it is a number with something behind it. -/
theorem whole?_quantity_eq_some_iff : quantity.whole? t = some (s, u) ↔
    ∃ n : Numeral, s = n.text ∧ t = n.text ++ u ∧ GoesBehind u := by
  rw [whole?_eq_some_iff]
  simp only [quantity, run_bind, run_unit, run_pure]
  constructor
  · intro h
    obtain ⟨⟨s', u'⟩, hnumber, hunit⟩ := Option.bind_eq_some_iff.mp h
    obtain ⟨n, rfl, rfl⟩ := of_run_number hnumber
    simp only at hunit
    split_ifs at hunit with hbehind
    · obtain ⟨rfl, rfl⟩ : n.text = s ∧ u' = u := by simpa using hunit
      exact ⟨n, rfl, rfl, hbehind⟩
    · cases hunit
  · rintro ⟨n, rfl, rfl, hbehind⟩
    rw [run_number_text n hbehind, Option.bind_some, if_pos hbehind]
    rfl

end Grammar

/-! ### Values that are quantities -/

/-- A text is a number with something behind it in one way only, since both are read. -/
theorem Numeral.parts_unique {n n' : Numeral} {unit unit' : Text} (hunit : GoesBehind unit)
    (hunit' : GoesBehind unit') (h : n.text ++ unit = n'.text ++ unit') :
    n = n' ∧ unit = unit' := by
  have hread := Quantity.read?_text n hunit
  rw [h, Quantity.read?_text n' hunit'] at hread
  obtain ⟨hnegative, hwhole, hplaces, hunits⟩ := Quantity.mk.inj (Option.some.inj hread)
  obtain ⟨negative, whole, places, _, _, _⟩ := n
  obtain ⟨negative', whole', places', _, _, _⟩ := n'
  obtain rfl : negative' = negative := hnegative
  obtain rfl : whole' = whole := hwhole
  obtain rfl : places' = places := hplaces
  exact ⟨rfl, hunits.symm⟩

/-- A number is no reference: it does not start with a brace. -/
theorem reference?_text (n : Numeral) (unit : Text) : reference? (n.text ++ unit) = none := by
  refine Option.eq_none_iff_forall_ne_some.mpr fun path hpath => ?_
  have hbrace : (n.text ++ unit).head? = some '{' := by
    rw [(reference?_eq_some_iff.mp hpath).2]
    rfl
  cases hsign : n.negative with
  | true =>
    rw [Numeral.text_of_negative hsign] at hbrace
    cases hbrace
  | false =>
    rw [Numeral.text_of_not_negative hsign] at hbrace
    exact n.head?_unsigned_ne (by decide) (by decide) unit hbrace

namespace Expression

theorem ofText_text (n : Numeral) {unit : Text} (hunit : GoesBehind unit) :
    ofText (n.text ++ unit) = .quantity (n.withUnit unit).number unit := by
  rw [ofText, reference?_text, Quantity.read?_text n hunit]
  rfl

theorem of_ofText_eq_quantity {t unit : Text} {x : Double} (h : ofText t = .quantity x unit) :
    ∃ n : Numeral, t = n.text ++ unit ∧ GoesBehind unit ∧ x = (n.withUnit unit).number := by
  unfold ofText at h
  split at h
  · cases h
  · split at h
    · next q hread =>
      obtain ⟨n, hq, ht, hunit⟩ := Quantity.of_read? hread
      obtain ⟨rfl, rfl⟩ := Expression.quantity.inj h
      exact ⟨n, ht, hunit, congrArg Quantity.number hq⟩
    · cases h

theorem ofText_eq_literal_iff {t s : Text} : ofText t = .literal s ↔
    s = t ∧ Quantity.read? t = none ∧ reference? t = none := by
  unfold ofText
  cases reference? t with
  | some path => simp
  | none => cases Quantity.read? t <;> simp [eq_comm]

end Expression

/-- A text is a quantity exactly if it is a number in decimal with something behind it that goes on
with neither a digit nor a point. The text is so in one way only, what stands behind is kept, and
the number is the double that it is rounded to, of which there is one. A text that is no quantity
and no path in braces is kept as it stands. The rule of the grammar takes the same texts as the same
two parts. -/
theorem quantity_grammar_exact (t : Text) :
    (∀ x unit, Expression.ofText t = .quantity x unit ↔
      ∃ n : Numeral, t = n.text ++ unit ∧ GoesBehind unit ∧ Double.Rounds n.negative n.size x) ∧
      ((∃ x unit, Expression.ofText t = .quantity x unit) ↔
        ∃! parts : Numeral × Text, t = parts.1.text ++ parts.2 ∧ GoesBehind parts.2) ∧
      (∀ n : Numeral, ∃! x, Double.Rounds n.negative n.size x) ∧
      (∀ s, Expression.ofText t = .literal s ↔ s = t ∧
        (¬∃ (n : Numeral) (unit : Text), t = n.text ++ unit ∧ GoesBehind unit) ∧
          ¬∃ path, IsReferencePath path ∧ t = braced path) ∧
      ∀ number unit, Grammar.quantity.whole? t = some (number, unit) ↔
        ∃ n : Numeral, number = n.text ∧ t = n.text ++ unit ∧ GoesBehind unit := by
  refine ⟨fun x unit => ?_, ?_, fun n => ?_, fun s => ?_, fun _ _ => ?_⟩
  · constructor
    · intro h
      obtain ⟨n, ht, hunit, rfl⟩ := Expression.of_ofText_eq_quantity h
      exact ⟨n, ht, hunit, n.rounds_number unit⟩
    · rintro ⟨n, rfl, hunit, hrounds⟩
      rw [Expression.ofText_text n hunit, (n.rounds_number unit).unique hrounds]
  · constructor
    · rintro ⟨x, unit, h⟩
      obtain ⟨n, rfl, hunit, -⟩ := Expression.of_ofText_eq_quantity h
      refine ⟨(n, unit), ⟨rfl, hunit⟩, ?_⟩
      rintro ⟨n', unit'⟩ ⟨htext, hunit'⟩
      obtain ⟨rfl, rfl⟩ := Numeral.parts_unique hunit hunit' htext
      rfl
    · rintro ⟨⟨n, unit⟩, ⟨rfl, hunit⟩, -⟩
      exact ⟨_, unit, Expression.ofText_text n hunit⟩
  · exact ⟨(n.withUnit []).number, n.rounds_number [], fun x h => h.unique (n.rounds_number [])⟩
  · rw [Expression.ofText_eq_literal_iff]
    refine and_congr_right fun _ => and_congr Quantity.read?_eq_none_iff ?_
    rw [Option.eq_none_iff_forall_ne_some]
    simp [reference?_eq_some_iff]
  · exact Grammar.whole?_quantity_eq_some_iff

-- digits are not given back at the second point
example : Expression.ofText "1.2.3" = .literal "1.2.3" := by decide

end DesignTokens
